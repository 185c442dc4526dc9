import LayeredConfig.Pattern.Automaton.CharSet
import LayeredConfig.Pattern.Automaton.WordTree
import LayeredConfig.Pattern.Form

/-!
# The automata of a form

How the automaton of a form is put together from those of its parts. The main definition is
`Form.fits`, which says whether the automata of a pattern keep to the limit.
-/
namespace LayeredConfig.Pattern

open Automaton

/-- A state from which one can go two ways without reading. -/
def Plan.fork : Plan :=
  .add 1 (2 * jumpSize)

/-- A state with at most one way on. -/
def Plan.state : Plan :=
  .add 1 0

/-- Several parts of which one is read: the first two, a state that jumps to all of them and
one that they lead to, and then the others. -/
def Plan.choice : List Plan → Plan
  | [] => .add 2 0
  | [p] => p
  | p :: q :: rest =>
    rest.foldl (fun plan r => plan ++ r ++ .add 0 jumpSize) (p ++ q ++ .fork ++ .state)

/-- A repeated part. A round that may be left out comes after a fork; an unbounded repetition
has a fork at its last round, and another one if it may be left out and a round may take up
nothing. -/
def Plan.repeated (least : Nat) (most : Option Nat) (mayTakeNothing : Bool) (p : Plan) : Plan :=
  match least, most with
  | 0, some 1 => .fork ++ p ++ .state
  | 0, none => if mayTakeNothing then p ++ .fork ++ .fork ++ .state else .fork ++ p
  | least, none => p.times least ++ .fork
  | least, some most =>
    let required := if least = 0 then .state else p.times least
    if least = most then required
    else required ++ .state ++ (fork ++ p).times (most - least)

def Form.bytes? (d : Direction) : Form → Option Word
  | .text cs =>
    let bytes := cs.flatMap String.utf8EncodeChar
    some (if d = .forwards then bytes else bytes.reverse)
  | _ => none

/-- The part for a form, from those for the alternatives between which it chooses. -/
def Form.assemble (d : Direction) (f : Form) (alternatives : List Plan) : Plan :=
  match f.branches.mapM (Form.bytes? d) with
  | some (word :: other :: words) => treePlan (word :: other :: words)
  | _ => .choice alternatives

/-- The parts for the alternatives between which a form chooses. -/
def Form.plans (d : Direction) : Form → List Plan
  | empty => [.state]
  | text cs => [.add (cs.flatMap String.utf8EncodeChar).length 0]
  | chars _ members => [setPlan d members]
  | look _ => [.state]
  | repeated least most _ a =>
    let mayTakeNothing := a.leastLength?.all (· == 0)
    [.repeated least most mayTakeNothing (a.assemble d (a.plans d))]
  | group _ a =>
    let p := a.assemble d (a.plans d)
    match d with
    | .forwards => [.state ++ p ++ .state]
    | .backwards => [p]
  | seq a b =>
    let p := a.assemble d (a.plans d)
    let q := b.assemble d (b.plans d)
    match d with
    | .forwards => [p ++ q]
    | .backwards => [q ++ p]
  | alt a b => a.plans d ++ b.plans d

/-- The whole automaton for a form: a loop over any bytes, unless a match can begin only where
reading begins, and then the form, at whose end is a state for the match. Forwards, the form is
a group. -/
def Form.automaton? (d : Direction) (f : Form) : Option Automaton :=
  let isFixed := match d with
    | .forwards => f.isAtStart
    | .backwards => f.isAtEnd
  let loop : Plan := if isFixed then .state else .fork ++ .add 2 branchSize
  let body := f.assemble d (f.plans d)
  let body := match d with
    | .forwards => .state ++ body ++ .state
    | .backwards => body
  (loop ++ body ++ .state).extend {}

/-- Both automata of the form keep to the limit. -/
def Form.fits (f : Form) : Bool :=
  (f.automaton? .forwards).isSome && (f.automaton? .backwards).isSome

end LayeredConfig.Pattern
