import LayeredConfig.Pattern.Subject

/-!
# Tracks through a text

A track tells which positions of one text a form leads to from given ones. Positions are sent
along it in portions. A track remembers what it was sent, so that a repetition can send back
into its own track what it has reached, and no part of a track is led over a position again.
-/
namespace LayeredConfig.Pattern

inductive Track where
  /-- The positions at which the track goes on. -/
  | stay (there : Positions)
  /-- The positions from which the track goes on, so many further. -/
  | move (count : Nat) (there : Positions)
  | seq (a b : Track)
  | alt (a b : Track)
  /-- At least once. -/
  | plus (a : Track)
  | exactly (count : Nat) (a : Track)
  | upTo (count : Nat) (a : Track)

/-- What a track remembers: positions, and what its parts remember. -/
inductive Progress where
  | none
  | some (seen : Positions) (first rest : Progress)

namespace Progress

def seen : Progress → Positions
  | none => 0
  | some seen _ _ => seen

def first : Progress → Progress
  | none => none
  | some _ first _ => first

def rest : Progress → Progress
  | none => none
  | some _ _ rest => rest

end Progress

/-! ## Sending positions along a track -/

/-- What a track remembers after a portion was sent along it, and the positions that were reached
for the first time. -/
abbrev Track.Step : Type := Progress → Positions → Progress × Positions

namespace Track.Step

/-- Along the track, and along it again from what was reached, as long as that is new. Each round
but the last takes up a position, so `rounds` need not exceed their number. -/
def repeatedly (step : Step) : (rounds : Nat) → Positions → Step
  | 0, reached, p, _ => (p, reached)
  | rounds + 1, reached, p, starts =>
    let starts := starts.minus p.seen
    if starts = 0 then (p, reached)
    else
      let (first, ends) := step p.first starts
      step.repeatedly rounds (reached ||| ends) (.some (p.seen ||| starts) first .none) ends

/-- Along tracks of the same kind, so many in a row. -/
def inRow (step : Step) : (count : Nat) → Step
  | 0, p, starts => (p, starts)
  | count + 1, p, starts =>
    if starts = 0 then (p, 0)
    else
      let (first, between) := step p.first starts
      let (rest, ends) := step.inRow count p.rest between
      (.some 0 first rest, ends)

/-- Along at most so many tracks of the same kind. -/
def atMost (step : Step) : (count : Nat) → Step
  | 0, p, starts => (p, starts)
  | count + 1, p, starts =>
    if starts = 0 then (p, 0)
    else
      let (first, between) := step p.first starts
      let (rest, ends) := step.atMost count p.rest between
      let ends := (starts ||| ends).minus p.seen
      (.some (p.seen ||| ends) first rest, ends)

end Track.Step

/-- Send a portion along the track, in a text with so many positions. No position is sent twice. -/
def Track.step (size : Nat) (t : Track) (p : Progress) (starts : Positions) :
    Progress × Positions :=
  if starts = 0 then (p, 0)
  else match t with
  | stay there => (p, starts &&& there)
  | move count there => (p, (starts &&& there).advance count)
  | seq a b =>
    let (first, between) := a.step size p.first starts
    let (rest, ends) := b.step size p.rest between
    (.some 0 first rest, ends)
  | alt a b =>
    let (first, left) := a.step size p.first starts
    let (rest, right) := b.step size p.rest starts
    let ends := (left ||| right).minus p.seen
    (.some (p.seen ||| ends) first rest, ends)
  | plus a => Step.repeatedly (a.step size) (size + 1) 0 p starts
  | exactly count a => Step.inRow (a.step size) count p starts
  | upTo count a => Step.atMost (a.step size) count p starts

/-! ## Tracks of forms -/

/-- The track of a repetition, in a text with so many positions. Of more rounds than there are
positions, some are empty, and an empty round can be left out or taken again. -/
def Track.times (size least : Nat) (most : Option Nat) (a : Track) : Track :=
  match least, most with
  | 0, none => alt (stay (.upTo size)) (plus a)
  | 1, none => plus a
  | least + 2, none => seq (exactly (min (least + 1) size) a) (plus a)
  | 0, some most => upTo (min most size) a
  | least, some most => seq (exactly (min least size) a) (upTo (min (most - least) size) a)

def Form.track (t : Subject) : Form → Track
  | empty => .stay t.all
  | text cs => .move cs.length (t.beforeText cs)
  | chars _ members => .move 1 (t.beforeMember members)
  | look a => .stay (a.positions t)
  | repeated least most _ a => (a.track t).times t.size least most
  | group _ a => a.track t
  | seq a b => .seq (a.track t) (b.track t)
  | alt a b => .alt (a.track t) (b.track t)

/-- The form matches somewhere in the text. -/
def Form.isMatch (f : Form) (text : String) : Bool :=
  let t := Subject.ofString text
  ((f.track t).step t.size .none t.all).2 != 0

end LayeredConfig.Pattern
