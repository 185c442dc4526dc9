import LayeredConfig.Numeral.Integer

/-!
# Binary floating-point numbers

A number is a mantissa times a power of two. A decimal text is read exactly, as a
fraction, and rounded once: to the nearest number of the format, a tie going to
the even mantissa.
-/
namespace LayeredConfig

inductive FloatType where
  | f32
  | f64
deriving DecidableEq, Repr

namespace FloatType

def name : FloatType → String
  | f32 => "f32"
  | f64 => "f64"

def all : List FloatType := [f32, f64]

/-- The number of binary digits of a mantissa. -/
def precision : FloatType → Nat
  | f32 => 24
  | f64 => 53

/-- The exponent of the smallest positive number. -/
def minExponent : FloatType → Int
  | f32 => -149
  | f64 => -1074

/-- The exponent of the largest number. -/
def maxExponent : FloatType → Int
  | f32 => 104
  | f64 => 971

def bits : FloatType → Nat
  | f32 => 32
  | f64 => 64

end FloatType

/-- A finite number is `mantissa * 2 ^ exponent`. -/
inductive Binary where
  | nan
  | infinite (negative : Bool)
  | finite (negative : Bool) (mantissa : Nat) (exponent : Int)
deriving Repr

namespace Binary

/-- Equality of numbers: the two zeros are equal and a NaN equals nothing. -/
def same : Binary → Binary → Bool
  | .infinite a, .infinite b => a == b
  | .finite a m e, .finite b n f => (m == 0 && n == 0) || (a == b && m == n && e == f)
  | _, _ => false

instance : BEq Binary := ⟨same⟩

/-! ## Rounding -/

/-- The quotient to the nearest natural number, a tie to the even one. -/
def divideEven (n d : Nat) : Nat :=
  let q := n / d
  let twice := 2 * (n % d)
  if twice < d then q else if d < twice then q + 1 else q + q % 2

/-- A fraction divided by `2 ^ e`, as numerator and denominator. -/
def scaleDown (n d : Nat) (e : Int) : Nat × Nat :=
  if 0 ≤ e then (n, d * Nat.pow 2 e.toNat) else (n * Nat.pow 2 (-e).toNat, d)

/-- The exponent of the highest power of two not above a positive fraction. -/
def magnitude (n d : Nat) : Int :=
  let k : Int := (Nat.log2 n : Int) - Nat.log2 d
  let (n', d') := scaleDown n d k
  if d' ≤ n' then k else k - 1

/-- A positive fraction in a format. -/
def round (t : FloatType) (negative : Bool) (n d : Nat) : Binary :=
  let e := max (magnitude n d - (t.precision - 1 : Nat)) t.minExponent
  let (n', d') := scaleDown n d e
  let m := divideEven n' d'
  let (m, e) := if m = Nat.pow 2 t.precision then (Nat.pow 2 (t.precision - 1), e + 1) else (m, e)
  if t.maxExponent < e then .infinite negative else .finite negative m e

/-- `digits * 10 ^ exponent` in a format. Far outside every format there is nothing to
compute: a fraction of that size is infinite, or zero. -/
def ofDecimal (t : FloatType) (negative : Bool) (digits : Nat) (exponent : Int) : Binary :=
  let size : Int := exponent + (Nat.toDigits 10 digits).length
  if digits = 0 ∨ size < -400 then .finite negative 0 t.minExponent
  else if 400 < size then .infinite negative
  else if 0 ≤ exponent then round t negative (digits * Nat.pow 10 exponent.toNat) 1
  else round t negative digits (Nat.pow 10 (-exponent).toNat)

/-! ## Reading -/

/-- The exponent of a decimal text, zero where there is none. -/
def readExponent : List Char → Option Int
  | [] => some 0
  | c :: cs => if c = 'e' ∨ c = 'E' then Numeral.readInteger 10 true cs else none

/-- Digits with at most one point among them, then an exponent. -/
def readDecimal (t : FloatType) (negative : Bool) (cs : List Char) : Option Binary := do
  let whole := cs.takeWhile Char.isDigit
  let rest := cs.dropWhile Char.isDigit
  let (fraction, rest) := match rest with
    | '.' :: rest => (rest.takeWhile Char.isDigit, rest.dropWhile Char.isDigit)
    | rest => ([], rest)
  let digits ← Numeral.readNatural 10 (whole ++ fraction)
  let exponent ← readExponent rest
  return ofDecimal t negative digits (exponent - fraction.length)

def readUnsigned (t : FloatType) (negative : Bool) (cs : List Char) : Option Binary :=
  let word : String := .ofList (cs.map Char.toLower)
  if word = "inf" ∨ word = "infinity" then some (.infinite negative)
  else if word = "nan" then some .nan
  else readDecimal t negative cs

def read? (t : FloatType) (s : String) : Option Binary :=
  match Text.trimChars s.toList with
  | '+' :: cs => readUnsigned t false cs
  | '-' :: cs => readUnsigned t true cs
  | cs => readUnsigned t false cs

/-! ## Encoding -/

/-- The interchange encoding: sign, biased exponent, fraction. A NaN has none of its own. -/
def encode? (t : FloatType) : Binary → Option Nat
  | .nan => none
  | .infinite negative =>
    some (signBit t negative + (Nat.pow 2 (t.bits - t.precision) - 1) * Nat.pow 2 (t.precision - 1))
  | .finite negative m e =>
    let hidden := Nat.pow 2 (t.precision - 1)
    some (signBit t negative
      + (if m < hidden then m else ((e - t.minExponent).toNat + 1) * hidden + (m - hidden)))
where
  signBit (t : FloatType) (negative : Bool) : Nat :=
    if negative then Nat.pow 2 (t.bits - 1) else 0

end Binary

end LayeredConfig
