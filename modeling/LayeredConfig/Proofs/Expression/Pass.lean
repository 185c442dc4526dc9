import LayeredConfig.Expression.Evaluator
import LayeredConfig.Proofs.Expression.Scan

/-!
# What one pass and one rendering do

A pass works segment by segment, and so does rendering; only a rendering that refuses
placeholders looks at all of them, for the leftmost.
-/
namespace LayeredConfig.Evaluator

/-! ## Substitution -/

section Substitution

variable (ev : Evaluator) (lookup : Lookup)

/-- The answer to the placeholder that a segment is, if it is one and a resolver answers it. -/
def answerTo (s : Segment) : Option String :=
  (ev.answerSegment lookup s).value

@[simp] theorem answerTo_literal (text : List Char) :
    ev.answerTo lookup (.literal text) = none := rfl

@[simp] theorem answerTo_escape : ev.answerTo lookup .escape = none := rfl

/-- What a pass puts in the place of a segment. -/
def replacement (s : Segment) : List Char :=
  match ev.answerTo lookup s with
  | some value => value.toList
  | none => s.write

theorem replacement_of_none {s : Segment} (h : ev.answerTo lookup s = none) :
    ev.replacement lookup s = s.write := by
  rw [replacement, h]

theorem replacement_of_some {s : Segment} {value : String}
    (h : ev.answerTo lookup s = some value) : ev.replacement lookup s = value.toList := by
  rw [replacement, h]

/-- The text that a pass makes of the segments. -/
def passText (ss : List Segment) : List Char :=
  (ev.substitute lookup ss).value.1

theorem value_substitute (ss : List Segment) :
    (ev.substitute lookup ss).value
      = (ss.flatMap (ev.replacement lookup), ss.any fun s => (ev.answerTo lookup s).isSome) := by
  induction ss with
  | nil => rfl
  | cons s ss ih =>
    rw [List.flatMap_cons, List.any_cons, substitute, Journaled.value_bind, Journaled.value_bind, ih]
    cases h : ev.answerTo lookup s with
    | some value =>
      rw [ev.replacement_of_some lookup h, show (ev.answerSegment lookup s).value = _ from h]
      rfl
    | none =>
      rw [ev.replacement_of_none lookup h, show (ev.answerSegment lookup s).value = _ from h]
      rfl

theorem passText_eq_flatMap (ss : List Segment) :
    ev.passText lookup ss = ss.flatMap (ev.replacement lookup) := by
  rw [passText, value_substitute]

@[simp] theorem passText_nil : ev.passText lookup [] = [] := rfl

theorem passText_cons (s : Segment) (ss : List Segment) :
    ev.passText lookup (s :: ss) = ev.replacement lookup s ++ ev.passText lookup ss := by
  simp [passText_eq_flatMap]

theorem passText_append (ss ss' : List Segment) :
    ev.passText lookup (ss ++ ss') = ev.passText lookup ss ++ ev.passText lookup ss' := by
  simp [passText_eq_flatMap]

/-- A pass in which nothing is answered writes the segments back. -/
theorem passText_of_unanswered {ss : List Segment} (h : ∀ s ∈ ss, ev.answerTo lookup s = none) :
    ev.passText lookup ss = Segment.writeAll ss := by
  induction ss with
  | nil => rfl
  | cons s ss ih =>
    rw [passText_cons, ev.replacement_of_none lookup (h s List.mem_cons_self),
      ih fun s' hs' => h s' (List.mem_cons_of_mem s hs'), Segment.writeAll_cons]

/-- Where there is no placeholder nobody is asked. -/
theorem substitute_of_no_placeholder {ss : List Segment} (h : ∀ inner, .placeholder inner ∉ ss) :
    ev.substitute lookup ss = pure (Segment.writeAll ss, false) := by
  induction ss with
  | nil => rfl
  | cons s ss ih =>
    have hnobody : ev.answerSegment lookup s = pure none := by
      cases s with
      | literal text => rfl
      | escape => rfl
      | placeholder inner => exact absurd List.mem_cons_self (h inner)
    rw [substitute, hnobody, ih fun inner hmem => h inner (List.mem_cons_of_mem s hmem), pure_bind,
      pure_bind, Segment.writeAll_cons]

end Substitution

/-! ## Rendering -/

/-- How a segment is shown: literals as they are, an escape as the dollar it stands for, a
placeholder in brackets or not at all. -/
def shown (policy : Unresolved) : Segment → List Char
  | .literal text => text
  | .escape => ['$']
  | .placeholder inner =>
    if policy = .mask then '[' :: (Segment.raw inner ++ [']']) else []

/-- The complaint about a segment that is a placeholder, where none may be left. -/
def refusalOf? (policy : Unresolved) : Segment → Option Error
  | .placeholder inner =>
    if policy = .fail then some (.unresolvedExpression (.ofList (Segment.raw inner))) else none
  | _ => none

/-- All segments as they are shown, or the complaint about the leftmost of those that cannot
be. -/
def display (policy : Unresolved) (ss : List Segment) : Except Error (List Char) :=
  match ss.findSome? (refusalOf? policy) with
  | some e => .error e
  | none => .ok (ss.flatMap (shown policy))

theorem renderSegment_eq (policy : Unresolved) (s : Segment) :
    renderSegment policy s
      = match refusalOf? policy s with
        | some e => .error e
        | none => .ok (shown policy s) := by
  cases s with
  | literal text => rfl
  | escape => rfl
  | placeholder inner => cases policy <;> rfl

theorem render_eq_display (policy : Unresolved) (ss : List Segment) :
    render policy ss = display policy ss := by
  induction ss with
  | nil => rfl
  | cons s ss ih =>
    rw [render, renderSegment_eq, ih, display, display, List.findSome?_cons, List.flatMap_cons]
    cases refusalOf? policy s with
    | some e => rfl
    | none => cases ss.findSome? (refusalOf? policy) <;> rfl

theorem display_of_no_placeholder (policy : Unresolved) {ss : List Segment}
    (h : ∀ inner, .placeholder inner ∉ ss) :
    display policy ss = .ok (ss.flatMap (shown policy)) := by
  have hfound : ss.findSome? (refusalOf? policy) = none := by
    rw [List.findSome?_eq_none_iff]
    intro s hs
    cases s with
    | literal text => rfl
    | escape => rfl
    | placeholder inner => exact absurd hs (h inner)
  rw [display, hfound]

/-! Where literal runs begin and end does not show. -/

theorem flatMap_shown_pieces (policy : Unresolved) (ss : List Segment) :
    (Segment.pieces ss).flatMap (shown policy) = ss.flatMap (shown policy) := by
  induction ss with
  | nil => rfl
  | cons s ss ih =>
    cases s with
    | literal text => simp [ih, shown, List.flatMap_map]
    | escape => simp [ih]
    | placeholder inner => simp [ih]

theorem findSome?_refusalOf?_pieces (policy : Unresolved) (ss : List Segment) :
    (Segment.pieces ss).findSome? (refusalOf? policy) = ss.findSome? (refusalOf? policy) := by
  induction ss with
  | nil => rfl
  | cons s ss ih =>
    cases s with
    | literal text =>
      have hrun : (text.map fun c => Segment.literal [c]).findSome? (refusalOf? policy) = none := by
        simp [List.findSome?_eq_none_iff, refusalOf?]
      rw [Segment.pieces_literal, List.findSome?_append, hrun, ih]
      rfl
    | escape => simp [List.findSome?_cons, ih]
    | placeholder inner => simp [List.findSome?_cons, ih]

theorem display_pieces (policy : Unresolved) (ss : List Segment) :
    display policy (Segment.pieces ss) = display policy ss := by
  rw [display, display, flatMap_shown_pieces, findSome?_refusalOf?_pieces]

/-- Where no placeholder may be left, segments that hold one are not shown. -/
theorem display_fail_of_mem {inner : List Char} {ss : List Segment}
    (h : .placeholder inner ∈ ss) :
    ∃ left, .placeholder left ∈ ss ∧
      display .fail ss = .error (.unresolvedExpression (.ofList (Segment.raw left))) := by
  unfold display
  cases hfound : ss.findSome? (refusalOf? .fail) with
  | none =>
    have := List.findSome?_eq_none_iff.mp hfound _ h
    simp [refusalOf?] at this
  | some e =>
    obtain ⟨s, hs, he⟩ := List.exists_of_findSome?_eq_some hfound
    cases s with
    | literal text => cases he
    | escape => cases he
    | placeholder left =>
      cases he
      exact ⟨left, hs, rfl⟩

end LayeredConfig.Evaluator
