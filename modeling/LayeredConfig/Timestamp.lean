/-!
# Timestamps

A moment as it is written: a calendar date, a time of day to the nanosecond and
the offset from UTC in minutes. The written form has a `T` between date and time,
a fraction without trailing zeros, and `Z` for the offset zero.
-/
namespace LayeredConfig

/-! ## The calendar -/

def isLeapYear (year : Nat) : Bool :=
  year % 4 == 0 && (year % 100 != 0 || year % 400 == 0)

def daysInMonth (year month : Nat) : Nat :=
  match month with
  | 2 => if isLeapYear year then 29 else 28
  | 4 | 6 | 9 | 11 => 30
  | _ => 31

structure Timestamp where
  year : Nat
  month : Nat
  day : Nat
  hour : Nat
  minute : Nat
  second : Nat
  nanosecond : Nat
  /-- Minutes ahead of UTC. -/
  offset : Int
  year_lt : year < 10000 := by decide
  month_range : 1 ≤ month ∧ month ≤ 12 := by decide
  day_range : 1 ≤ day ∧ day ≤ daysInMonth year month := by decide
  time_lt : hour < 24 ∧ minute < 60 ∧ second < 60 := by decide
  nanosecond_lt : nanosecond < 1000000000 := by decide
  offset_lt : offset.natAbs < 24 * 60 := by decide
deriving DecidableEq

namespace Timestamp

/-! ## Writing -/

/-- The lowest `width` decimal digits of a number, leading zeros included. -/
def paddedDigits : Nat → Nat → List Char
  | 0, _ => []
  | width + 1, n => paddedDigits width (n / 10) ++ [Nat.digitChar (n % 10)]

def writeFraction (nanosecond : Nat) : List Char :=
  if nanosecond = 0 then []
  else '.' :: ((paddedDigits 9 nanosecond).reverse.dropWhile (· == '0')).reverse

def writeOffset (offset : Int) : List Char :=
  if offset = 0 then ['Z']
  else (if offset < 0 then '-' else '+') ::
    (paddedDigits 2 (offset.natAbs / 60) ++ ':' :: paddedDigits 2 (offset.natAbs % 60))

def write (t : Timestamp) : List Char :=
  paddedDigits 4 t.year ++ '-' :: paddedDigits 2 t.month ++ '-' :: paddedDigits 2 t.day
    ++ 'T' :: paddedDigits 2 t.hour ++ ':' :: paddedDigits 2 t.minute
    ++ ':' :: paddedDigits 2 t.second ++ writeFraction t.nanosecond ++ writeOffset t.offset

def toString (t : Timestamp) : String :=
  .ofList t.write

/-! ## Reading -/

/-- Exactly `width` decimal digits, and what follows them. -/
def readDigits : Nat → Nat → List Char → Option (Nat × List Char)
  | 0, n, cs => some (n, cs)
  | width + 1, n, c :: cs =>
    if c.isDigit then readDigits width (10 * n + (c.toNat - '0'.toNat)) cs else none
  | _ + 1, _, [] => none

def readChar (c : Char) : List Char → Option (List Char)
  | d :: cs => if d = c then some cs else none
  | [] => none

/-- Any one character of ASCII may stand between date and time. -/
def readSeparator : List Char → Option (List Char)
  | c :: cs => if c.toNat < 128 then some cs else none
  | [] => none

/-- The fraction digits add up by their place; those after the ninth count nothing. -/
def fractionValue : List Char → Nat → Nat
  | c :: cs, place => (c.toNat - '0'.toNat) * place + fractionValue cs (place / 10)
  | [], _ => 0

def readFraction : List Char → Option (Nat × List Char)
  | '.' :: cs =>
    let ds := cs.takeWhile Char.isDigit
    if ds.isEmpty then none
    else some (fractionValue ds 100000000, cs.dropWhile Char.isDigit)
  | cs => some (0, cs)

def readOffset : List Char → Option Int
  | [c] => if c = 'Z' ∨ c = 'z' then some 0 else none
  | c :: cs =>
    if c = '+' ∨ c = '-' then do
      let (hours, cs) ← readDigits 2 0 cs
      let (minutes, cs) ← readDigits 2 0 (← readChar ':' cs)
      if cs.isEmpty ∧ hours ≤ 23 ∧ minutes ≤ 59 then
        let ahead : Int := hours * 60 + minutes
        some (if c = '-' then -ahead else ahead)
      else none
    else none
  | [] => none

def make? (year month day hour minute second nanosecond : Nat) (offset : Int) :
    Option Timestamp :=
  if h : year < 10000 ∧ (1 ≤ month ∧ month ≤ 12) ∧ (1 ≤ day ∧ day ≤ daysInMonth year month)
      ∧ (hour < 24 ∧ minute < 60 ∧ second < 60) ∧ nanosecond < 1000000000
      ∧ offset.natAbs < 24 * 60 then
    some ⟨year, month, day, hour, minute, second, nanosecond, offset,
      h.1, h.2.1, h.2.2.1, h.2.2.2.1, h.2.2.2.2.1, h.2.2.2.2.2⟩
  else none

/-- The moment is in the last minute of a month, where UTC may be in the day
before or the day after. -/
def endsUTCMonth (t : Timestamp) : Bool :=
  let minutes : Int := (t.hour * 60 + t.minute : Nat) - t.offset
  let lastDay := daysInMonth t.year t.month
  if minutes = 1439 then t.day == lastDay
  else if minutes = 1439 - 1440 then t.day == 1
  else minutes == 1439 + 1440 && t.day + 1 == lastDay

/-- A leap second can only be the last second of a month; it is kept as the
nanosecond before it. -/
def makeWithLeapSecond? (year month day hour minute second nanosecond : Nat) (offset : Int) :
    Option Timestamp :=
  if second = 60 then
    (make? year month day hour minute 59 999999999 offset).filter endsUTCMonth
  else make? year month day hour minute second nanosecond offset

def read? (cs : List Char) : Option Timestamp := do
  let (year, cs) ← readDigits 4 0 cs
  let (month, cs) ← readDigits 2 0 (← readChar '-' cs)
  let (day, cs) ← readDigits 2 0 (← readChar '-' cs)
  let (hour, cs) ← readDigits 2 0 (← readSeparator cs)
  let (minute, cs) ← readDigits 2 0 (← readChar ':' cs)
  let (second, cs) ← readDigits 2 0 (← readChar ':' cs)
  let (nanosecond, cs) ← readFraction cs
  makeWithLeapSecond? year month day hour minute second nanosecond (← readOffset cs)

def ofString? (s : String) : Option Timestamp :=
  read? s.toList

end Timestamp

end LayeredConfig
