import LayeredConfig.Expression.Evaluator

/-!
# What an evaluation makes of lookups

An evaluation is put together from what its resolvers do with the lookup that it hands them. So
what holds of the resolvers holds of the evaluation, if it is anything that computations keep when
they go on from one another. That resolvers see of a lookup nothing but the text it gives is one
such thing.
-/
namespace LayeredConfig

/-! ## Computations from a lookup -/

/-- What holds of computations that look nothing up, and still holds where one goes on from the
result of another. -/
structure KeptByBind (P : ∀ {β : Type}, (Lookup → Journaled β) → Prop) : Prop where
  const : ∀ {β : Type} (x : Journaled β), P fun _ => x
  bind : ∀ {α β : Type} {x : Lookup → Journaled α} {next : α → Lookup → Journaled β},
    P x → (∀ a, P (next a)) → P fun f => x f >>= fun a => next a f

namespace Evaluator

theorem mem_of_named? {ev : Evaluator} {inner expression : List Char} {r : Resolver}
    (h : ev.named? inner = some (r, expression)) : r ∈ ev.resolvers := by
  obtain ⟨⟨scheme, expression'⟩, _, hfind⟩ := Option.bind_eq_some_iff.mp h
  obtain ⟨r', hr', hpair⟩ := Option.bind_eq_some_iff.mp hfind
  cases hpair
  exact List.mem_of_find?_eq_some hr'

section

variable {P : ∀ {β : Type}, (Lookup → Journaled β) → Prop} (hP : KeptByBind P) {ev : Evaluator}
include hP

theorem firstAnswer_of_resolvers (expression : String) {rs : List Resolver}
    (h : ∀ r ∈ rs, ∀ expression, P (r.resolve expression)) :
    P fun lookup => firstAnswer expression lookup rs := by
  induction rs with
  | nil => exact hP.const _
  | cons r rs ih =>
    obtain ⟨hr, hrs⟩ := List.forall_mem_cons.mp h
    refine hP.bind (hr expression) fun found => ?_
    cases found with
    | some answer => exact hP.const _
    | none => exact ih hrs

theorem answer_of_resolvers (h : ∀ r ∈ ev.resolvers, ∀ expression, P (r.resolve expression))
    (inner : List Char) : P fun lookup => ev.answer lookup inner := by
  unfold answer
  cases hnamed : ev.named? inner with
  | some found =>
    -- Which resolver is named is settled by the text, before anything is looked up.
    exact h found.1 (mem_of_named? hnamed) _
  | none => exact firstAnswer_of_resolvers hP _ h

theorem substitute_of_resolvers (h : ∀ r ∈ ev.resolvers, ∀ expression, P (r.resolve expression))
    (segments : List Segment) : P fun lookup => ev.substitute lookup segments := by
  have hsegment : ∀ segment, P fun lookup => ev.answerSegment lookup segment := by
    intro segment
    cases segment with
    | placeholder inner => exact answer_of_resolvers hP h inner
    | literal text => exact hP.const _
    | escape => exact hP.const _
  induction segments with
  | nil => exact hP.const _
  | cons segment segments ih =>
    refine hP.bind (hsegment segment) fun found => hP.bind ih fun rest => ?_
    cases found with
    | some value => exact hP.const _
    | none => exact hP.const _

theorem settle_of_resolvers (h : ∀ r ∈ ev.resolvers, ∀ expression, P (r.resolve expression))
    (whole : List Char) (left pass : Nat) (current : List Char) :
    P fun lookup => ev.settle lookup whole left pass current := by
  -- Over the passes that are left: what one pass makes of the text is where the next begins.
  induction left generalizing pass current with
  | zero => exact hP.const _
  | succ left ih =>
    unfold settle
    cases Segment.parse current with
    | error position => exact hP.const _
    | ok segments =>
      refine hP.bind (substitute_of_resolvers hP h segments) fun (next, resolvedAny) => ?_
      dsimp only
      split
      · split
        · exact hP.const _
        · exact hP.const _
      · exact hP.bind (hP.const _) fun _ => ih (pass + 1) next

/-- What holds of all resolvers of an evaluator holds of its evaluations. -/
theorem evaluate_of_resolvers (h : ∀ r ∈ ev.resolvers, ∀ expression, P (r.resolve expression))
    (text : String) : P fun lookup => ev.evaluate lookup text := by
  unfold evaluate
  split
  · exact hP.bind (settle_of_resolvers hP h _ _ _ _) fun _ => hP.const _
  · exact hP.const _

end

end Evaluator

/-! ## Texts are all that is seen -/

/-- The computation sees of a lookup nothing but the text it gives, however that was come by. -/
def SeesTexts {β : Type} (q : Lookup → Journaled β) : Prop :=
  ∀ f f' : Lookup, (∀ key, (f key).value = (f' key).value) → (q f).value = (q f').value

theorem keptByBind_seesTexts : KeptByBind SeesTexts where
  const _ _ _ _ := rfl
  bind hx hnext f f' h := by
    rw [Journaled.value_bind, Journaled.value_bind, ← hx f f' h]
    exact hnext _ f f' h

/-- The resolver sees texts only: not which sources were asked for them, nor what was logged. -/
def Resolver.SeesTexts (r : Resolver) : Prop :=
  ∀ expression, LayeredConfig.SeesTexts (r.resolve expression)

end LayeredConfig
