import LayeredConfig.Json

/-!
# Reading JSON

The reader takes exactly the texts of the JSON grammar. Its fuel is the length of
the text, and every call consumes at least one character before it calls again.
-/
namespace LayeredConfig.Json

def isBlank (c : Char) : Bool :=
  c == ' ' || c == '\n' || c == '\r' || c == '\t'

def skipBlank (cs : List Char) : List Char :=
  cs.dropWhile isBlank

/-! ## Texts

A text is read in two steps: first its code units, of which those between `0xD800` and
`0xDFFF` come from escapes only, then the characters that the units make up.
-/

def hexDigit? (c : Char) : Option Nat :=
  if c.isDigit then some (c.toNat - '0'.toNat)
  else if 'a' ≤ c && c ≤ 'f' then some (c.toNat - 'a'.toNat + 10)
  else if 'A' ≤ c && c ≤ 'F' then some (c.toNat - 'A'.toNat + 10)
  else none

def hexUnit? (a b c d : Char) : Option Nat := do
  return (((← hexDigit? a) * 16 + (← hexDigit? b)) * 16 + (← hexDigit? c)) * 16 + (← hexDigit? d)

/-- What a one-letter escape stands for. -/
def shortEscape? : Char → Option Nat
  | '"' => some 0x22
  | '\\' => some 0x5C
  | '/' => some 0x2F
  | 'b' => some 0x08
  | 'f' => some 0x0C
  | 'n' => some 0x0A
  | 'r' => some 0x0D
  | 't' => some 0x09
  | _ => none

/-- The units of a text up to its closing quote, and what follows the quote. -/
def readUnits : List Char → Option (List Nat × List Char)
  | '"' :: rest => some ([], rest)
  | '\\' :: 'u' :: a :: b :: c :: d :: rest => do
    let unit ← hexUnit? a b c d
    let (units, rest) ← readUnits rest
    return (unit :: units, rest)
  | '\\' :: e :: rest => do
    let unit ← shortEscape? e
    let (units, rest) ← readUnits rest
    return (unit :: units, rest)
  | c :: rest => do
    guard (32 ≤ c.toNat)
    let (units, rest) ← readUnits rest
    return (c.toNat :: units, rest)
  | [] => none

def isHighSurrogate (n : Nat) : Bool := 0xD800 ≤ n && n < 0xDC00

def isLowSurrogate (n : Nat) : Bool := 0xDC00 ≤ n && n < 0xE000

/-- The characters of a list of units, unless a surrogate stands without its partner. -/
def joinUnits : List Nat → Option (List Char)
  | [] => some []
  | [n] =>
    if isHighSurrogate n || isLowSurrogate n then none else some [.ofNat n]
  | n :: m :: rest =>
    if isHighSurrogate n then
      if isLowSurrogate m then
        (joinUnits rest).map (.ofNat (0x10000 + (n - 0xD800) * 0x400 + (m - 0xDC00)) :: ·)
      else none
    else if isLowSurrogate n then none
    else (joinUnits (m :: rest)).map (.ofNat n :: ·)

/-! ## Numbers -/

/-- A run of at least one digit, and what follows it. -/
def readRun (cs : List Char) : Option (List Char × List Char) :=
  let ds := cs.takeWhile Char.isDigit
  if ds.isEmpty then none else some (ds, cs.dropWhile Char.isDigit)

def digitsValue (ds : List Char) : Nat :=
  ds.foldl (fun n d => 10 * n + (d.toNat - '0'.toNat)) 0

def readFractionPart : List Char → Option (List Char × List Char)
  | '.' :: cs => (readRun cs).map fun (ds, rest) => ('.' :: ds, rest)
  | cs => some ([], cs)

def readExponentPart : List Char → Option (List Char × List Char)
  | c :: cs =>
    if c = 'e' ∨ c = 'E' then
      match cs with
      | '+' :: cs => (readRun cs).map fun (ds, rest) => (c :: '+' :: ds, rest)
      | '-' :: cs => (readRun cs).map fun (ds, rest) => (c :: '-' :: ds, rest)
      | cs => (readRun cs).map fun (ds, rest) => (c :: ds, rest)
    else some ([], c :: cs)
  | [] => some ([], [])

/-- A number without its sign. A leading zero stands alone. -/
def readNumber (negative : Bool) (cs : List Char) : Option (Json × List Char) := do
  let (ds, rest) ← readRun cs
  guard (ds.head? != some '0' || ds.length == 1)
  let (fraction, rest) ← readFractionPart rest
  let (exponent, rest) ← readExponentPart rest
  let plain := fraction.isEmpty && exponent.isEmpty
  if plain && !(negative && ds == ['0']) then
    let n : Int := digitsValue ds
    return (.int (if negative then -n else n), rest)
  else
    let text := ds ++ fraction ++ exponent
    return (.numeral (.ofList (if negative then '-' :: text else text)), rest)

/-! ## Values -/

def readWord (word : List Char) (value : Json) (cs : List Char) : Option (Json × List Char) :=
  if word.isPrefixOf cs then some (value, cs.drop word.length) else none

mutual

def readValue : Nat → List Char → Option (Json × List Char)
  | 0, _ => none
  | fuel + 1, cs =>
    match skipBlank cs with
    | '"' :: cs => do
      let (units, rest) ← readUnits cs
      return (((joinUnits units).map fun s => .str (.ofList s)).getD .unreadable, rest)
    | '[' :: cs =>
      match skipBlank cs with
      | ']' :: rest => some (.arr [], rest)
      | cs => do
        let (items, rest) ← readItems fuel cs
        return (.arr items, rest)
    | '{' :: cs =>
      match skipBlank cs with
      | '}' :: rest => some (.obj [], rest)
      | cs => do
        let (fields, rest) ← readFields fuel cs
        return ((fields.map .obj).getD .unreadable, rest)
    | '-' :: cs => readNumber true cs
    | 'n' :: cs => readWord "ull".toList .null cs
    | 't' :: cs => readWord "rue".toList (.bool true) cs
    | 'f' :: cs => readWord "alse".toList (.bool false) cs
    | cs => readNumber false cs

/-- The items of an array up to the closing bracket; there is at least one. -/
def readItems : Nat → List Char → Option (List Json × List Char)
  | 0, _ => none
  | fuel + 1, cs => do
    let (v, rest) ← readValue fuel cs
    match skipBlank rest with
    | ']' :: rest => return ([v], rest)
    | ',' :: rest => do
      let (vs, rest) ← readItems fuel rest
      return (v :: vs, rest)
    | _ => none

/-- The fields of an object up to the closing brace; there is at least one. The list is
missing where a key cannot be read. -/
def readFields : Nat → List Char → Option (Option (List (String × Json)) × List Char)
  | 0, _ => none
  | fuel + 1, cs =>
    match skipBlank cs with
    | '"' :: cs => do
      let (units, rest) ← readUnits cs
      let key := (joinUnits units).map String.ofList
      match skipBlank rest with
      | ':' :: rest => do
        let (v, rest) ← readValue fuel rest
        match skipBlank rest with
        | '}' :: rest => return (key.map fun k => [(k, v)], rest)
        | ',' :: rest => do
          let (fs, rest) ← readFields fuel rest
          return (do return (← key, v) :: (← fs), rest)
        | _ => none
      | _ => none
    | _ => none

end

/-- The value a text stands for, if nothing but blanks surrounds it. -/
def parse? (s : String) : Option Json := do
  let cs := s.toList
  let (v, rest) ← readValue (2 * cs.length + 2) cs
  guard (skipBlank rest).isEmpty
  return v

end LayeredConfig.Json
