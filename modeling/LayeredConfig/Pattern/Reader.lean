import LayeredConfig.Pattern.Form
import LayeredConfig.Text.Blank
import LayeredConfig.Text.CaseFold
import LayeredConfig.Text.Word

/-!
# Reading patterns

A reader for written regular expressions. It follows the grammar with one character of
lookahead; its fuel is the length of the text, of which every call consumes a character.
What it reads comes with the depth to which its parts are nested, which is limited.
-/
namespace LayeredConfig.Pattern

/-! ## Depth -/

structure Nested (α : Type) where
  value : α
  depth : Nat := 0

namespace Nested

/-- One level further out. -/
def enclose {α β : Type} (value : β) (n : Nested α) : Nested β :=
  ⟨value, n.depth + 1⟩

/-- The depth of several things side by side: one level above the deepest of them. -/
def depthOfAll {α : Type} : List (Nested α) → Nat
  | [] => 0
  | [n] => n.depth
  | ns => (ns.map Nested.depth).foldr max 0 + 1

end Nested

/-- The depth that no pattern may exceed. -/
def depthLimit : Nat := 250

/-! ## Flags -/

structure Flags where
  anyCase : Bool := false
  multiLine : Bool := false
  dotAll : Bool := false
  /-- Carriage returns end lines, too. -/
  carriageReturns : Bool := false
  /-- Sets and their complements hold characters of all of Unicode, not of ASCII only. -/
  unicode : Bool := true
  /-- A question mark after a repetition makes it prefer many rounds, its absence few. -/
  swapped : Bool := false
  /-- Blanks and comments between the parts of a pattern count nothing. -/
  spaced : Bool := false

structure Reader where
  flags : Flags := {}
  /-- The names of groups read so far. -/
  names : List (List Char) := []
  /-- The number of groups that began so far. -/
  groups : Nat := 0

def skipComment (cs : List Char) : List Char :=
  (cs.dropWhile (· != '\n')).drop 1

/-- Leave out blanks and comments, where the flags say so. -/
def skipSpace (flags : Flags) : Nat → List Char → List Char
  | fuel + 1, c :: cs =>
    if !flags.spaced then c :: cs
    else if Text.isBlank c then skipSpace flags fuel cs
    else if c == '#' then skipSpace flags fuel (skipComment cs)
    else c :: cs
  | _, cs => cs

def Flags.skip (flags : Flags) (cs : List Char) : List Char :=
  skipSpace flags cs.length cs

/-- The characters up to the first that fails the test, and the rest from there on. -/
def spanFrom (flags : Flags) (p : Char → Bool) : Nat → List Char → List Char × List Char
  | 0, cs => ([], cs)
  | fuel + 1, cs =>
    match flags.skip cs with
    | [] => ([], [])
    | c :: cs =>
      if p c then
        let (taken, rest) := spanFrom flags p fuel cs
        (c :: taken, rest)
      else ([], c :: cs)

/-- As `List.span`, leaving out what `skip` does. -/
def Flags.span (flags : Flags) (p : Char → Bool) (cs : List Char) : List Char × List Char :=
  spanFrom flags p (cs.length + 1) cs

/-! ## Characters and sets of characters -/

def single (c : Char) : Text.Ranges :=
  [(c.toNat, c.toNat)]

/-- The members of a set and, where the flags say so, their case variants. -/
def Flags.fold (flags : Flags) (members : Text.Ranges) : Text.Ranges :=
  if !flags.anyCase then members
  else if flags.unicode then members.foldCase
  else members.foldAsciiCase

/-- Whether a set may hold the character. -/
def Flags.knows (flags : Flags) (c : Char) : Bool :=
  flags.unicode || c.toNat < 0x80

/-- All characters but the given ones, which are never ASCII characters only. -/
def Flags.complement? (flags : Flags) (members : Text.Ranges) : Option Text.Ranges :=
  if flags.unicode then some members.complement else none

def asciiSet? (name : String) : Option Text.Ranges :=
  (chars? name).map (·.map fun r => (r.1.toNat, r.2.toNat))
where
  chars? : String → Option (List (Char × Char))
    | "alnum" => some [('0', '9'), ('A', 'Z'), ('a', 'z')]
    | "alpha" => some [('A', 'Z'), ('a', 'z')]
    | "ascii" => some [('\x00', '\x7f')]
    | "blank" => some [('\t', '\t'), (' ', ' ')]
    | "cntrl" => some [('\x00', '\x1f'), ('\x7f', '\x7f')]
    | "digit" => some [('0', '9')]
    | "graph" => some [('!', '~')]
    | "lower" => some [('a', 'z')]
    | "print" => some [(' ', '~')]
    | "punct" => some [('!', '/'), (':', '@'), ('[', '\x60'), ('\x7b', '~')]
    | "space" => some [('\t', '\r'), (' ', ' ')]
    | "upper" => some [('A', 'Z')]
    | "word" => some [('0', '9'), ('A', 'Z'), ('_', '_'), ('a', 'z')]
    | "xdigit" => some [('0', '9'), ('A', 'F'), ('a', 'f')]
    | _ => none

def asciiDigits : Text.Ranges := [(0x30, 0x39)]

def asciiBlanks : Text.Ranges := [(0x9, 0xD), (0x20, 0x20)]

def asciiWordCharacters : Text.Ranges := [(0x30, 0x39), (0x41, 0x5A), (0x5F, 0x5F), (0x61, 0x7A)]

def Flags.digits (flags : Flags) : Text.Ranges :=
  if flags.unicode then Text.digits else asciiDigits

def Flags.blanks (flags : Flags) : Text.Ranges :=
  if flags.unicode then Text.blanks else asciiBlanks

def Flags.words (flags : Flags) : Text.Ranges :=
  if flags.unicode then Text.wordCharacters else asciiWordCharacters

/-- The sets `\d`, `\s`, `\w` and, in capitals, their complements. -/
def namedSet? (flags : Flags) : Char → Option Text.Ranges
  | 'd' => some flags.digits
  | 's' => some flags.blanks
  | 'w' => some flags.words
  | 'D' => flags.complement? flags.digits
  | 'S' => flags.complement? flags.blanks
  | 'W' => flags.complement? flags.words
  | _ => none

/-- A class such as `[:digit:]`, after its `[`: the name and whether it is negated. -/
def readAsciiClass (cs : List Char) : Option (Text.Ranges × Bool × List Char) :=
  match cs with
  | ':' :: cs => do
    let (negated, cs) := match cs with
      | '^' :: cs => (true, cs)
      | cs => (false, cs)
    match cs.dropWhile (· != ':') with
    | ':' :: ']' :: rest =>
      return (← asciiSet? (.ofList (cs.takeWhile (· != ':'))), negated, rest)
    | _ => none
  | _ => none

/-! ## Escapes -/

inductive Escaped where
  | char (c : Char)
  /-- A character written as a byte, in two digits. -/
  | byte (c : Char)
  | set (members : Text.Ranges)
  | assertion (a : Assertion)

def isEscapable (c : Char) : Bool :=
  c.toNat < 128 && !c.isAlphanum && c != '<' && c != '>'

def hexDigit? (c : Char) : Option Nat :=
  if '0' ≤ c && c ≤ '9' then some (c.toNat - '0'.toNat)
  else if 'a' ≤ c && c ≤ 'f' then some (c.toNat - 'a'.toNat + 10)
  else if 'A' ≤ c && c ≤ 'F' then some (c.toNat - 'A'.toNat + 10)
  else none

def scalar? (digits : List Char) : Option Char := do
  guard (!digits.isEmpty)
  let values ← digits.mapM hexDigit?
  let n := values.foldl (fun n d => 16 * n + d) 0
  guard (n.isValidChar)
  return .ofNat n

/-- Hexadecimal digits in a fixed number. -/
def readDigits (flags : Flags) : Nat → List Char → Option (List Char × List Char)
  | 0, cs => some ([], cs)
  | width + 1, cs =>
    match flags.skip cs with
    | [] => none
    | c :: cs => do
      let (digits, rest) ← readDigits flags width cs
      return (c :: digits, rest)

/-- A code point in braces, or in a fixed number of digits. -/
def readHex (flags : Flags) (width : Nat) (cs : List Char) : Option (Escaped × List Char) :=
  match flags.skip cs with
  | '{' :: cs => do
    match flags.span (· != '}') cs with
    | (digits, _ :: rest) => return (.char (← scalar? digits), rest)
    | (_, []) => none
  | cs => do
    let (digits, rest) ← readDigits flags width cs
    let c ← scalar? digits
    return (if width = 2 then .byte c else .char c, rest)

def wordAssertion? (name : String) : Option WordAssertion :=
  match name with
  | "start" => some .start
  | "end" => some .finish
  | "start-half" => some .startHalf
  | "end-half" => some .finishHalf
  | _ => none

def isWordAssertionChar (c : Char) : Bool := c.isAlpha || c == '-'

/-- A word boundary, which may be followed by its kind in braces. -/
def readBoundary (flags : Flags) : List Char → Option (WordAssertion × List Char)
  | '{' :: cs =>
    match flags.span isWordAssertionChar cs with
    | ([], []) => none
    | ([], _) => some (.boundary, '{' :: cs)
    | (name, '}' :: rest) => do return (← wordAssertion? (.ofList name), rest)
    | _ => none
  | cs => some (.boundary, cs)

/-- What follows a backslash. -/
def readEscape (flags : Flags) (cs : List Char) : Option (Escaped × List Char) :=
  let word (a : WordAssertion) := Escaped.assertion (.word flags.words a)
  match cs with
  | 'x' :: cs => readHex flags 2 cs
  | 'u' :: cs => readHex flags 4 cs
  | 'U' :: cs => readHex flags 8 cs
  | 'a' :: cs => some (.char '\x07', cs)
  | 'f' :: cs => some (.char '\x0c', cs)
  | 't' :: cs => some (.char '\t', cs)
  | 'n' :: cs => some (.char '\n', cs)
  | 'r' :: cs => some (.char '\r', cs)
  | 'v' :: cs => some (.char '\x0b', cs)
  | 'A' :: cs => some (.assertion .textStart, cs)
  | 'z' :: cs => some (.assertion .textEnd, cs)
  | 'b' :: cs => (readBoundary flags cs).map fun (a, rest) => (word a, rest)
  | 'B' :: cs => some (word .noBoundary, cs)
  | '<' :: cs => some (word .start, cs)
  | '>' :: cs => some (word .finish, cs)
  | c :: cs =>
    if isEscapable c then some (.char c, cs)
    else (namedSet? flags c).map fun members => (.set members, cs)
  | [] => none

/-! ## Bracketed classes -/

/-- A character or an escape inside brackets. -/
def readClassItem (flags : Flags) : List Char → Option (Escaped × List Char)
  | '\\' :: cs => readEscape flags cs
  | c :: cs => some (.char c, cs)
  | [] => none

/-- The character that stands for itself in a class. -/
def Escaped.member? (flags : Flags) : Escaped → Option Char
  | .char c | .byte c => if flags.knows c then some c else none
  | _ => none

def Escaped.members? (flags : Flags) : Escaped → Option Text.Ranges
  | .set members => some members
  | e => (e.member? flags).map single

/-- One item, or the range that it begins. -/
def readClassRange (flags : Flags) (cs : List Char) : Option (Text.Ranges × List Char) := do
  let (first, rest) ← readClassItem flags cs
  match flags.skip rest with
  | [] => none
  | '-' :: after =>
    match flags.skip after with
    | ']' :: _ => return (← first.members? flags, flags.skip rest)
    | '-' :: _ => return (← first.members? flags, flags.skip rest)
    | after => do
      let (last, rest) ← readClassItem flags after
      let a ← first.member? flags
      let b ← last.member? flags
      guard (a ≤ b)
      return ([(a.toNat, b.toNat)], rest)
  | rest => return (← first.members? flags, rest)

inductive ClassOperation where
  | both
  | without
  | oneOf

def ClassOperation.apply : ClassOperation → Text.Ranges → Text.Ranges → Text.Ranges
  | both => .inter
  | without => .diff
  | oneOf => .symmDiff

/-- A class under construction: the operations done so far, and the items of the union being
read. -/
structure OpenClass where
  negated : Bool
  pending : Option (Nested Text.Ranges × ClassOperation) := none
  items : List (Nested Text.Ranges)

namespace OpenClass

def add (o : OpenClass) (item : Nested Text.Ranges) : OpenClass :=
  { o with items := item :: o.items }

def operand (flags : Flags) (o : OpenClass) : Nested Text.Ranges :=
  let members := flags.fold (.normalize (o.items.map Nested.value).flatten)
  let depth := Nested.depthOfAll o.items
  match o.pending with
  | some (left, op) => ⟨op.apply left.value members, max left.depth depth + 1⟩
  | none => ⟨members, depth⟩

def operate (flags : Flags) (o : OpenClass) (op : ClassOperation) : OpenClass :=
  { o with pending := some (o.operand flags, op), items := [] }

def close? (flags : Flags) (o : OpenClass) : Option (Nested Text.Ranges) := do
  let operand := o.operand flags
  let members ← if o.negated then flags.complement? operand.value else some operand.value
  return operand.enclose members

end OpenClass

/-- A class after its opening bracket, up to its first item. Hyphens at its beginning stand for
themselves, and so does a closing bracket. -/
def openClass (flags : Flags) (cs : List Char) : OpenClass × List Char :=
  let (negated, cs) := match flags.skip cs with
    | '^' :: cs => (true, cs)
    | cs => (false, cs)
  let (hyphens, cs) := flags.span (· == '-') cs
  let o : OpenClass := { negated, items := hyphens.map fun c => ⟨single c, 0⟩ }
  match hyphens, cs with
  | [], ']' :: cs => (o.add ⟨single ']', 0⟩, cs)
  | _, cs => (o, cs)

/-- The rest of an open class; `outer` are the classes that it is nested in. -/
def readClass (flags : Flags) :
    Nat → List OpenClass → OpenClass → List Char → Option (Nested Text.Ranges × List Char)
  | 0, _, _, _ => none
  | fuel + 1, outer, o, cs =>
    match flags.skip cs with
    | [] => none
    | '[' :: cs =>
      match readAsciiClass cs with
      | some (members, negated, rest) => do
        let members ← if negated then flags.complement? (flags.fold members) else some members
        readClass flags fuel outer (o.add ⟨members, 0⟩) rest
      | none =>
        let (inner, rest) := openClass flags cs
        readClass flags fuel (o :: outer) inner rest
    | ']' :: cs => do
      let closed ← o.close? flags
      match outer with
      | [] => return (closed, cs)
      | parent :: outer => readClass flags fuel outer (parent.add closed) cs
    | '&' :: '&' :: cs => readClass flags fuel outer (o.operate flags .both) cs
    | '-' :: '-' :: cs => readClass flags fuel outer (o.operate flags .without) cs
    | '~' :: '~' :: cs => readClass flags fuel outer (o.operate flags .oneOf) cs
    | cs => do
      let (members, rest) ← readClassRange flags cs
      readClass flags fuel outer (o.add ⟨members, 0⟩) rest

/-! ## Flags and names of groups -/

def Flags.set (value : Bool) (flags : Flags) : Char → Option Flags
  | 'i' => some { flags with anyCase := value }
  | 'm' => some { flags with multiLine := value }
  | 's' => some { flags with dotAll := value }
  | 'R' => some { flags with carriageReturns := value }
  | 'u' => some { flags with unicode := value }
  | 'x' => some { flags with spaced := value }
  | 'U' => some { flags with swapped := value }
  | _ => none

/-- Flags up to a colon or a closing parenthesis, none of them twice; those after a hyphen
are switched off. Returns what was written, too. -/
def readFlags (flags : Flags) (seen : List Char) : List Char → Option (Flags × List Char × List Char)
  | ':' :: cs => if seen.head? = some '-' then none else some (flags, seen, ':' :: cs)
  | ')' :: cs => if seen.head? = some '-' then none else some (flags, seen, ')' :: cs)
  | c :: cs =>
    if c ∈ seen then none
    else if c = '-' then readFlags flags ('-' :: seen) cs
    else do readFlags (← flags.set (!seen.contains '-') c) (c :: seen) cs
  | [] => none

def isNameStart (c : Char) : Bool :=
  c == '_' || Text.isAlphabetic c

def isNameChar (c : Char) : Bool :=
  c == '_' || c == '.' || c == '[' || c == ']' || Text.isAlphanumeric c

/-- The name of a group up to its closing angle bracket; no two groups share a name. -/
def readName (names : List (List Char)) (cs : List Char) : Option (List Char × List Char) := do
  let name := cs.takeWhile (· != '>')
  guard (name.head?.any isNameStart && name.all isNameChar && !names.contains name)
  match cs.dropWhile (· != '>') with
  | _ :: rest => return (name, rest)
  | [] => none

/-! ## Repetitions -/

/-- A count of a repetition; blanks around it are allowed. -/
def readCount (flags : Flags) (cs : List Char) : Option (Nat × List Char) := do
  let (digits, rest) := flags.span Char.isDigit (cs.dropWhile Text.isBlank)
  guard (!digits.isEmpty)
  let n := digits.foldl (fun n d => 10 * n + (d.toNat - '0'.toNat)) 0
  guard (n < Nat.pow 2 32)
  return (n, flags.skip (rest.dropWhile Text.isBlank))

/-- The bounds of a repetition, after its opening brace. -/
def readBounds (flags : Flags) (cs : List Char) : Option (Nat × Option Nat × List Char) := do
  let (least, rest) ← readCount flags (flags.skip cs)
  match rest with
  | '}' :: rest => return (least, some least, rest)
  | ',' :: rest =>
    match flags.skip rest with
    | '}' :: rest => return (least, none, rest)
    | rest => do
      let (most, rest) ← readCount flags rest
      guard (least ≤ most)
      match rest with
      | '}' :: rest => return (least, some most, rest)
      | _ => none
  | _ => none

/-- Whether a repetition is reluctant, which the flags and a question mark after it say. -/
def readReluctance (flags : Flags) : List Char → Bool × List Char
  | '?' :: cs => (!flags.swapped, cs)
  | cs => (flags.swapped, cs)

/-! ## Forms -/

def Flags.literal (flags : Flags) (c : Char) : Form :=
  .set (!flags.unicode) (flags.fold (single c))

/-- Any character, but none that ends a line unless the flags say so. -/
def Flags.dot? (flags : Flags) : Option Form :=
  let excluded : Text.Ranges :=
    if flags.dotAll then []
    else if flags.carriageReturns then [(10, 10), (13, 13)]
    else [(10, 10)]
  (flags.complement? excluded).map (.set false)

def Flags.start (flags : Flags) : Form :=
  .look (if !flags.multiLine then .textStart
    else if flags.carriageReturns then .anyLineStart
    else .lineStart)

def Flags.finish (flags : Flags) : Form :=
  .look (if !flags.multiLine then .textEnd
    else if flags.carriageReturns then .anyLineEnd
    else .lineEnd)

def Escaped.form? (flags : Flags) : Escaped → Option Form
  | .char c => some (flags.literal c)
  | .byte c => if flags.knows c then some (flags.literal c) else none
  | .set members => some (.set (!flags.unicode) members)
  | .assertion a => some (.look a)

/-- A part of a sequence; a change of flags is a part that cannot be repeated. -/
abbrev Part : Type := Nested (Option Form)

/-- The parts in a row, the latest first. -/
def sequence (parts : List Part) : Nested Form :=
  ⟨.row (parts.filterMap Nested.value).reverse, Nested.depthOfAll parts⟩

/-- The alternatives, the latest first. -/
def alternatives (branches : List (Nested Form)) : Nested Form :=
  ⟨.choice (branches.map Nested.value).reverse, Nested.depthOfAll branches⟩

/-- Repeat the latest of the parts, if it can be repeated. -/
def repeatLatest (least : Nat) (most : Option Nat) (reluctant : Bool) :
    List Part → Option (List Part)
  | [] => none
  | part :: parts =>
    part.value.map fun f => part.enclose (some (f.times least most reluctant)) :: parts

mutual

/-- Alternatives up to a closing parenthesis or the end; `branches` are those so far, the latest
first. -/
def readAlternatives :
    Nat → Reader → List (Nested Form) → List Char → Option (Nested Form × Reader × List Char)
  | 0, _, _, _ => none
  | fuel + 1, r, branches, cs => do
    let (branch, r, rest) ← readSequence fuel r [] cs
    match rest with
    | '|' :: rest => readAlternatives fuel r (branch :: branches) rest
    | rest => return (alternatives (branch :: branches), r, rest)

/-- A sequence up to a bar, a closing parenthesis or the end; `parts` are the parts so far,
the latest first. -/
def readSequence :
    Nat → Reader → List Part → List Char → Option (Nested Form × Reader × List Char)
  | 0, _, _, _ => none
  | fuel + 1, r, parts, cs =>
    let add (form : Form) (rest : List Char) :=
      readSequence fuel r (⟨some form, 0⟩ :: parts) rest
    let repeatWith (least : Nat) (most : Option Nat) (rest : List Char) := do
      let (reluctant, rest) := readReluctance r.flags rest
      readSequence fuel r (← repeatLatest least most reluctant parts) rest
    match r.flags.skip cs with
    | [] => some (sequence parts, r, [])
    | '|' :: rest => some (sequence parts, r, '|' :: rest)
    | ')' :: rest => some (sequence parts, r, ')' :: rest)
    | '(' :: rest => do
      let (part, r, rest) ← readGroup fuel r (r.flags.skip rest)
      readSequence fuel r (part :: parts) rest
    | '[' :: rest => do
      let (o, rest) := openClass r.flags rest
      let (members, rest) ← readClass r.flags rest.length [] o rest
      readSequence fuel r (⟨some (.set (!r.flags.unicode) members.value), members.depth⟩ :: parts) rest
    | '*' :: rest => repeatWith 0 none rest
    | '+' :: rest => repeatWith 1 none rest
    | '?' :: rest => repeatWith 0 (some 1) rest
    | '{' :: rest => do
      let (least, most, rest) ← readBounds r.flags rest
      repeatWith least most (r.flags.skip rest)
    | '\\' :: rest => do
      let (e, rest) ← readEscape r.flags rest
      add (← e.form? r.flags) rest
    | '.' :: rest => do add (← r.flags.dot?) rest
    | '^' :: rest => add r.flags.start rest
    | '$' :: rest => add r.flags.finish rest
    | c :: rest => add (r.flags.literal c) rest

/-- A group after its opening parenthesis, or a change of flags. A group without flags records
its place in the text. -/
def readGroup : Nat → Reader → List Char → Option (Part × Reader × List Char)
  | 0, _, _ => none
  | fuel + 1, r, cs =>
    let body (inner : Reader) (close : Form → Form) (cs : List Char) :
        Option (Part × Reader × List Char) := do
      let (form, inner, rest) ← readAlternatives fuel inner [] cs
      match rest with
      | ')' :: rest =>
        return (form.enclose (some (close form.value)), { inner with flags := r.flags }, rest)
      | _ => none
    let numbered (r : Reader) : List Char → Option (Part × Reader × List Char) :=
      body { r with groups := r.groups + 1 } (.group r.groups)
    let named (cs : List Char) : Option (Part × Reader × List Char) := do
      let (name, rest) ← readName r.names cs
      numbered { r with names := name :: r.names } rest
    match cs with
    | '?' :: '=' :: _ => none
    | '?' :: '!' :: _ => none
    | '?' :: 'P' :: '<' :: rest => named rest
    | '?' :: '<' :: rest => named rest
    | '?' :: rest => do
      let (flags, seen, rest) ← readFlags r.flags [] rest
      match rest with
      | ')' :: rest =>
        if seen.isEmpty then none else return (⟨none, 0⟩, { r with flags }, rest)
      | _ :: rest => body { r with flags } id rest
      | [] => none
    | cs => numbered r cs

end

/-- The form of a written pattern, if it is well-formed and not nested too deeply. -/
def Form.read? (pattern : String) : Option Form :=
  let cs := pattern.toList
  match readAlternatives (3 * cs.length + 3) {} [] cs with
  | some (form, _, []) => if form.depth ≤ depthLimit then some form.value else none
  | _ => none

end LayeredConfig.Pattern
