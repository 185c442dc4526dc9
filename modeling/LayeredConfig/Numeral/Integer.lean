import LayeredConfig.Text.Blank

/-!
# Integers of a fixed width

An integer text is an optional sign and digits. A value is read only if it fits
the type: nothing wraps and nothing is cut off.
-/
namespace LayeredConfig

inductive IntType where
  | i8
  | i16
  | i32
  | i64
  | i128
  | isize
  | u8
  | u16
  | u32
  | u64
  | u128
  | usize
deriving DecidableEq, Repr

namespace IntType

def signed : IntType → Bool
  | i8 | i16 | i32 | i64 | i128 | isize => true
  | u8 | u16 | u32 | u64 | u128 | usize => false

def bits : IntType → Nat
  | i8 | u8 => 8
  | i16 | u16 => 16
  | i32 | u32 => 32
  | i64 | u64 | isize | usize => 64
  | i128 | u128 => 128

def name : IntType → String
  | i8 => "i8"
  | i16 => "i16"
  | i32 => "i32"
  | i64 => "i64"
  | i128 => "i128"
  | isize => "isize"
  | u8 => "u8"
  | u16 => "u16"
  | u32 => "u32"
  | u64 => "u64"
  | u128 => "u128"
  | usize => "usize"

def min (t : IntType) : Int :=
  if t.signed then -(Nat.pow 2 (t.bits - 1)) else 0

def max (t : IntType) : Int :=
  if t.signed then Nat.pow 2 (t.bits - 1) - 1 else Nat.pow 2 t.bits - 1

def all : List IntType :=
  [i8, i16, i32, i64, i128, isize, u8, u16, u32, u64, u128, usize]

end IntType

/-! ## Reading -/

namespace Numeral

/-- The value of a digit, if it is one in the given base of at most sixteen. -/
def digit? (base : Nat) (c : Char) : Option Nat :=
  let value :=
    if '0' ≤ c && c ≤ '9' then c.toNat - '0'.toNat
    else if 'a' ≤ c && c ≤ 'f' then c.toNat - 'a'.toNat + 10
    else if 'A' ≤ c && c ≤ 'F' then c.toNat - 'A'.toNat + 10
    else base
  if value < base then some value else none

/-- Digits read from the left onto a number already read. -/
def readDigits (base : Nat) : Nat → List Char → Option Nat
  | n, [] => some n
  | n, c :: cs => do readDigits base (base * n + (← digit? base c)) cs

def readNatural (base : Nat) (cs : List Char) : Option Nat :=
  if cs.isEmpty then none else readDigits base 0 cs

def readInteger (base : Nat) (signed : Bool) : List Char → Option Int
  | '+' :: cs => (readNatural base cs).map Int.ofNat
  | '-' :: cs => if signed then (readNatural base cs).map fun n => -Int.ofNat n else none
  | cs => (readNatural base cs).map Int.ofNat

end Numeral

namespace IntType

/-- The number if the type holds it. -/
def fit? (t : IntType) (n : Int) : Option Int :=
  if t.min ≤ n ∧ n ≤ t.max then some n else none

def readDecimal? (t : IntType) (cs : List Char) : Option Int :=
  (Numeral.readInteger 10 t.signed cs).bind t.fit?

def readHexadecimal? (t : IntType) (cs : List Char) : Option Int :=
  (Numeral.readInteger 16 t.signed cs).bind t.fit?

/-- Decimal, or hexadecimal after `0x`, with blanks around it. -/
def read? (t : IntType) (s : String) : Option Int :=
  match Text.trimChars s.toList with
  | '0' :: 'x' :: cs => t.readHexadecimal? cs
  | '0' :: 'X' :: cs => t.readHexadecimal? cs
  | cs => t.readDecimal? cs

end IntType

end LayeredConfig
