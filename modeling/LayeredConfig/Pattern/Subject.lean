import LayeredConfig.Pattern.Form

/-!
# The text that a pattern is tried on

Sets of positions in a text, and where in it characters stand and assertions hold. There is
a position before each character and one at the end.
-/
namespace LayeredConfig.Pattern

/-- A set of positions: a number whose bits mark them. -/
abbrev Positions : Type := Nat

namespace Positions

def single (i : Nat) : Positions := 1 <<< i

def minus (s t : Positions) : Positions := s ^^^ (s &&& t)

/-- The first `count` positions. -/
def upTo (count : Nat) : Positions := (1 <<< count) - 1

/-- So many positions further on. -/
def advance (count : Nat) (s : Positions) : Positions := s <<< count

end Positions

structure Subject where
  length : Nat
  /-- The characters of the text in ascending order, with the positions before each. -/
  occurrences : List (Char × Positions)

namespace Subject

/-- Take up one occurrence of a character that is not above the others. -/
def record (occurrence : Char × Nat) :
    List (Char × Positions) → List (Char × Positions)
  | [] => [(occurrence.1, .single occurrence.2)]
  | (c, here) :: others =>
    if c = occurrence.1 then (c, here ||| .single occurrence.2) :: others
    else (occurrence.1, .single occurrence.2) :: (c, here) :: others

def ofString (text : String) : Subject :=
  let cs := text.toList
  ⟨cs.length, (cs.zipIdx.mergeSort fun a b => a.1 ≤ b.1).foldr record []⟩

/-- The number of positions. -/
def size (t : Subject) : Nat := t.length + 1

def all (t : Subject) : Positions := .upTo t.size

/-! ## Where characters stand -/

/-- The positions before a character, as far as it occurs. -/
def beforeChar (t : Subject) (c : Char) : Positions :=
  (t.occurrences.lookup c).getD 0

/-- The positions before the given characters, one after the other. -/
def beforeText (t : Subject) : List Char → Positions
  | [] => t.all
  | c :: cs =>
    let here := t.beforeChar c
    if here = 0 then 0 else here &&& (t.beforeText cs >>> 1)

/-- The positions of all occurrences that are in a set, and of those found already. -/
def select (found : Positions) : Text.Ranges → List (Char × Positions) → Positions
  | r :: members, (c, here) :: others =>
    if r.2 < c.toNat then select found members ((c, here) :: others)
    else if c.toNat < r.1 then select found (r :: members) others
    else select (found ||| here) (r :: members) others
  | _, _ => found
termination_by members occurrences => members.length + occurrences.length

/-- The positions before a member of the set. -/
def beforeMember (t : Subject) (members : Text.Ranges) : Positions :=
  select 0 members t.occurrences

end Subject

/-! ## Where assertions hold -/

/-- Where the assertion holds in a text, given all positions, those after a word character and
those before one. -/
def WordAssertion.positions (all after before : Positions) : WordAssertion → Positions
  | boundary => after ^^^ before
  | noBoundary => all.minus (after ^^^ before)
  | start => before.minus after
  | finish => after.minus before
  | startHalf => all.minus after
  | finishHalf => all.minus before

/-- Where the assertion holds in a text. A carriage return and a line feed after it end a line
together. -/
def Assertion.positions (t : Subject) : Assertion → Positions
  | textStart => .single 0
  | textEnd => .single t.length
  | lineStart => .single 0 ||| (t.beforeChar '\n').advance 1
  | lineEnd => .single t.length ||| t.beforeChar '\n'
  | anyLineStart =>
    let feeds := t.beforeChar '\n'
    .single 0 ||| feeds.advance 1 ||| ((t.beforeChar '\r').advance 1).minus feeds
  | anyLineEnd =>
    let returns := t.beforeChar '\r'
    .single t.length ||| returns ||| (t.beforeChar '\n').minus (returns.advance 1)
  | word words a =>
    let before := t.beforeMember words
    a.positions t.all (before.advance 1) before

end LayeredConfig.Pattern
