import LayeredConfig.Text.Ranges

/-!
# The form of a pattern

Regular expressions over characters, with assertions about a position. Forms are built
with `Form.set`, `Form.row`, `Form.choice` and `Form.times`, which bring what matches the
same texts into a common shape where that is easily seen.
-/
namespace LayeredConfig.Pattern

/-! ## Assertions -/

inductive WordAssertion where
  | boundary
  | noBoundary
  | start
  | finish
  /-- No word character before the position. -/
  | startHalf
  /-- No word character after the position. -/
  | finishHalf
deriving DecidableEq, Repr

inductive Assertion where
  | textStart
  | textEnd
  | lineStart
  | lineEnd
  /-- The start of a line, where a carriage return ends a line as well. -/
  | anyLineStart
  /-- The end of a line, where a carriage return ends a line as well. -/
  | anyLineEnd
  | word (words : Text.Ranges) (a : WordAssertion)
deriving DecidableEq, Repr

/-! ## Forms -/

inductive Form where
  | empty
  /-- The given characters one after the other; there is at least one. -/
  | text (cs : List Char)
  /-- One character of a set; `ascii` tells sets that were written as sets of ASCII characters. -/
  | chars (ascii : Bool) (members : Text.Ranges)
  | look (a : Assertion)
  /-- At least `least` and at most `most` times, where there is a bound. A reluctant repetition
  prefers few rounds, which makes no difference to whether a text matches. -/
  | repeated (least : Nat) (most : Option Nat) (reluctant : Bool) (a : Form)
  /-- A part whose place in the text is recorded, by its number. -/
  | group (number : Nat) (a : Form)
  | seq (a b : Form)
  | alt (a b : Form)
deriving DecidableEq, Repr

namespace Form

/-! ### What a form takes up -/

/-- Whether the form takes up no character wherever it matches. -/
def takesNothing : Form → Bool
  | empty => true
  | text _ => false
  | chars _ _ => false
  | look _ => true
  | repeated _ _ _ a => a.takesNothing
  | group _ a => a.takesNothing
  | seq a b => a.takesNothing && b.takesNothing
  | alt a b => a.takesNothing && b.takesNothing

/-- How many characters the form takes up at least, leaving assertions aside. There is no such
number where a set without members is a part. -/
def leastLength? : Form → Option Nat
  | empty => some 0
  | text cs => some cs.length
  | chars _ members => if members.isEmpty then none else some 1
  | look _ => some 0
  | repeated least _ _ a => a.leastLength?.map (least * ·)
  | group _ a => a.leastLength?
  | seq a b => do return (← a.leastLength?) + (← b.leastLength?)
  | alt a b => do return min (← a.leastLength?) (← b.leastLength?)

/-- Whether the form matches at the start of a text only. -/
def isAtStart : Form → Bool
  | look a => a == .textStart
  | repeated least _ _ a => 0 < least && a.isAtStart
  | group _ a => a.isAtStart
  | seq a b => a.isAtStart || (a.takesNothing && b.isAtStart)
  | alt a b => a.isAtStart && b.isAtStart
  | _ => false

/-- Whether the form matches at the end of a text only. -/
def isAtEnd : Form → Bool
  | look a => a == .textEnd
  | repeated least _ _ a => 0 < least && a.isAtEnd
  | group _ a => a.isAtEnd
  | seq a b => b.isAtEnd || (b.takesNothing && a.isAtEnd)
  | alt a b => a.isAtEnd && b.isAtEnd
  | _ => false

/-- The number of its parts and of their parts. -/
def weight : Form → Nat
  | repeated _ _ _ a => a.weight + 1
  | group _ a => a.weight + 1
  | seq a b => a.weight + b.weight + 1
  | alt a b => a.weight + b.weight + 1
  | _ => 1

/-! ### Sets of characters -/

/-- One character of a set; the only member of a set is a text. -/
def set (ascii : Bool) (members : Text.Ranges) : Form :=
  match members with
  | [] => .chars true []
  | [(first, last)] => if first = last then .text [.ofNat first] else .chars ascii members
  | _ => .chars ascii members

def members? : Form → Option Text.Ranges
  | chars _ members => some members
  | _ => none

def single? : Form → Option Char
  | text [c] => some c
  | _ => none

/-! ### Rows -/

def parts : Form → List Form
  | empty => []
  | seq a b => a.parts ++ b.parts
  | a => [a]

/-- A form before others in a row; texts beside each other make one. -/
def before : Form → List Form → List Form
  | text cs, text ds :: rest => .text (cs ++ ds) :: rest
  | a, rest => a :: rest

def inRow : List Form → Form
  | [] => .empty
  | [a] => a
  | a :: rest => .seq a (inRow rest)

/-- One form after the other. -/
def row (forms : List Form) : Form :=
  inRow ((forms.flatMap parts).foldr before [])

/-! ### Choices -/

def branches : Form → List Form
  | alt a b => a.branches ++ b.branches
  | a => [a]

def anyOf : List Form → Form
  | [] => .chars true []
  | [a] => a
  | a :: rest => .alt a (anyOf rest)

def commonStart : List Form → List Form → List Form
  | a :: as, b :: bs => if a = b then a :: commonStart as bs else []
  | _, _ => []

/-- The parts that all of the forms begin with, if each of them is a row. -/
def sharedStart : List Form → List Form
  | [] => []
  | a :: rest =>
    if (a :: rest).all fun f => 1 < f.parts.length then
      rest.foldl (fun shared b => commonStart shared b.parts) a.parts
    else []

/-- Any of the forms. Single characters, and sets of them, make one set. What all of the forms
begin with is put before the choice, so that less has to be chosen from; each time this is done,
the forms lose a part, and so `depth` need not exceed the number of parts. -/
def choiceFrom (depth : Nat) (forms : List Form) : Form :=
  let forms := forms.flatMap branches
  match forms with
  | [] => .chars true []
  | [a] => a
  | _ =>
    match forms.mapM single?, forms.mapM members?, depth, sharedStart forms with
    | some cs, _, _, _ => set false (.normalize (cs.map fun c => (c.toNat, c.toNat)))
    | none, some sets, _, _ => set false (.normalize sets.flatten)
    | none, none, depth + 1, a :: shared =>
      let rests := forms.map fun f => inRow (f.parts.drop (shared.length + 1))
      row (a :: shared ++ [choiceFrom depth rests])
    | none, none, _, _ => anyOf forms

def choice (forms : List Form) : Form :=
  choiceFrom ((forms.map weight).foldr (· + ·) 0) forms

/-! ### Repetitions -/

/-- A repeated form. What takes up nothing need not be tried more than once. -/
def times (least : Nat) (most : Option Nat) (reluctant : Bool) (a : Form) : Form :=
  let (least, most) :=
    if a.takesNothing then (min least 1, some (min (most.getD 1) 1)) else (least, most)
  if most == some 0 then .empty
  else if least == 1 && most == some 1 then a
  else .repeated least most reluctant a

end Form

end LayeredConfig.Pattern
