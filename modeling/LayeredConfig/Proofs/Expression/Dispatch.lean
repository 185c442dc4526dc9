import LayeredConfig.Expression.Evaluator
import Mathlib.Data.List.Nodup

/-!
# Who answers a placeholder

An evaluator asks its resolvers in the order of their ranks, and those of one rank in the order of
registration. A placeholder that names the scheme of a resolver is answered by the foremost of that
scheme or by nobody, any other by the foremost that has an answer. So in what order resolvers of
different ranks are registered makes no difference.
-/
namespace LayeredConfig

/-! ## The first of an arranged list -/

section Arranging

variable {α : Type} (le : α → α → Bool) {p : α → Bool}

/-- An element that is put into its place comes first if it may precede what came first before. -/
theorem find?_place (htrans : ∀ {a b c}, le a b → le b c → le a c) {a : α} {as : List α}
    (h : as.Pairwise (le · ·)) :
    (place le a as).find? p
      = if p a ∧ ∀ b, as.find? p = some b → le a b then some a else as.find? p := by
  induction as with
  | nil => by_cases ha : p a <;> simp [place, ha]
  | cons b bs ih =>
    obtain ⟨hb, hbs⟩ := List.pairwise_cons.mp h
    rw [place]
    by_cases hle : le a b
    · have hall : ∀ c, (b :: bs).find? p = some c → le a c := by
        intro c hc
        rcases List.mem_cons.mp (List.mem_of_find?_eq_some hc) with rfl | hc
        · exact hle
        · exact htrans hle (hb c hc)
      rw [if_pos hle]
      by_cases ha : p a
      · rw [if_pos ⟨ha, hall⟩, List.find?_cons_of_pos ha]
      · rw [if_neg fun h => ha h.1, List.find?_cons_of_neg ha]
    · rw [if_neg hle, List.find?_cons, List.find?_cons, ih hbs]
      by_cases hpb : p b <;> simp [hpb, hle]

/-- What comes first of those selected in an arranged list: the order puts it strictly before those
that stood before it, and not behind those that stood after it. -/
theorem exists_of_find?_arrange (htrans : ∀ {a b c}, le a b → le b c → le a c)
    (htotal : ∀ a b, le a b ∨ le b a) {as : List α} {a : α}
    (h : (arrange le as).find? p = some a) :
    ∃ front back, as = front ++ a :: back ∧ p a ∧ (∀ b ∈ front, p b → ¬ le b a) ∧
      ∀ b ∈ back, p b → le a b := by
  induction as generalizing a with
  | nil => cases h
  | cons b bs ih =>
    have hplace : (place le b (arrange le bs)).find? p = some a := h
    rw [find?_place le htrans (pairwise_arrange le htrans htotal bs)] at hplace
    split at hplace
    · next hfirst =>
      cases hplace
      refine ⟨[], bs, rfl, hfirst.1, nofun, ?_⟩
      -- Whatever is selected stands in the order behind the first of the rest.
      intro c hc hpc
      cases hrest : (arrange le bs).find? p with
      | none =>
        have hmem : c ∈ arrange le bs := (arrange_perm le bs).mem_iff.mpr hc
        exact absurd hpc (List.find?_eq_none.mp hrest c hmem)
      | some d =>
        obtain ⟨front, back, rfl, _, hfront, hback⟩ := ih hrest
        refine htrans (hfirst.2 d hrest) ?_
        rcases List.mem_append.mp hc with hc | hc
        · exact (htotal d c).resolve_right (hfront c hc hpc)
        · rcases List.mem_cons.mp hc with rfl | hc
          · exact (htotal c c).elim id id
          · exact hback c hc hpc
    · next hlater =>
      obtain ⟨front, back, rfl, ha, hfront, hback⟩ := ih hplace
      refine ⟨b :: front, back, rfl, ha, List.forall_mem_cons.mpr ⟨?_, hfront⟩, hback⟩
      intro hpb hle
      refine hlater ⟨hpb, ?_⟩
      intro c hc
      cases hplace.symm.trans hc
      exact hle

end Arranging

namespace Resolver

/-! ## Ranks -/

/-- What decides when a resolver is asked, the order of registration apart. -/
def rank (r : Resolver) : Int × String :=
  (r.priority, r.scheme)

/-- Of higher priority, or of the same and of a lesser scheme. -/
def Outranks (r r' : Resolver) : Prop :=
  r'.priority < r.priority ∨ r.priority = r'.priority ∧ r.scheme < r'.scheme

/-- Of the resolvers that are selected, the first to be asked: it outranks those that are registered
before it, and those that are registered after it do not outrank it. -/
def Foremost (selects : Resolver → Prop) (rs : List Resolver) (r : Resolver) : Prop :=
  ∃ front back, rs = front ++ r :: back ∧ selects r ∧ (∀ r' ∈ front, selects r' → r.Outranks r') ∧
    ∀ r' ∈ back, selects r' → ¬ r'.Outranks r

variable {a b : Resolver}

theorem precedes_iff : a.precedes b ↔
    b.priority < a.priority ∨ a.priority = b.priority ∧ a.scheme ≤ b.scheme := by
  simp [precedes]

theorem precedes_trans {c : Resolver} (hab : a.precedes b) (hbc : b.precedes c) :
    a.precedes c := by
  rw [precedes_iff] at *
  rcases hab with hab | ⟨hab, hschemes⟩ <;> rcases hbc with hbc | ⟨hbc, hschemes'⟩
  · exact .inl (by omega)
  · exact .inl (by omega)
  · exact .inl (by omega)
  · exact .inr ⟨hab.trans hbc, String.le_trans hschemes hschemes'⟩

theorem precedes_total (a b : Resolver) : a.precedes b ∨ b.precedes a := by
  rw [precedes_iff, precedes_iff]
  rcases Int.lt_trichotomy a.priority b.priority with hlt | heq | hgt
  · exact .inr (.inl hlt)
  · rcases String.le_total a.scheme b.scheme with hle | hle
    · exact .inl (.inr ⟨heq, hle⟩)
    · exact .inr (.inr ⟨heq.symm, hle⟩)
  · exact .inl (.inl hgt)

theorem rank_eq_of_precedes (hab : a.precedes b) (hba : b.precedes a) : a.rank = b.rank := by
  rw [precedes_iff] at hab hba
  rcases hab with hab | ⟨hab, hschemes⟩ <;> rcases hba with hba | ⟨hba, hschemes'⟩
  · omega
  · omega
  · omega
  · exact Prod.ext hab (String.le_antisymm hschemes hschemes')

theorem outranks_iff_not_precedes : a.Outranks b ↔ ¬ b.precedes a := by
  rw [precedes_iff, Outranks, not_or, not_and, String.not_le, Int.not_lt]
  constructor
  · rintro (hlt | ⟨heq, hschemes⟩)
    · exact ⟨by omega, by omega⟩
    · exact ⟨by omega, fun _ => hschemes⟩
  · rintro ⟨hle, hschemes⟩
    by_cases heq : b.priority = a.priority
    · exact .inr ⟨heq.symm, hschemes heq⟩
    · exact .inl (by omega)

/-- Among resolvers of one scheme only the priority counts. -/
theorem outranks_iff_of_scheme_eq (h : a.scheme = b.scheme) :
    a.Outranks b ↔ b.priority < a.priority := by
  rw [Outranks, h]
  simp

theorem foremost_of_find?_arrange {p : Resolver → Bool} {rs : List Resolver} {r : Resolver}
    (h : (arrange precedes rs).find? p = some r) : Foremost (p ·) rs r := by
  obtain ⟨front, back, hsplit, hr, hfront, hback⟩ :=
    exists_of_find?_arrange precedes precedes_trans precedes_total h
  refine ⟨front, back, hsplit, hr, ?_, ?_⟩
  · intro r' hr' hp
    exact outranks_iff_not_precedes.mpr (hfront r' hr' hp)
  · intro r' hr' hp houtranks
    exact outranks_iff_not_precedes.mp houtranks (hback r' hr' hp)

/-- Resolvers of different ranks are arranged in one way only. -/
theorem arrange_eq_of_perm {rs rs' : List Resolver} (hperm : rs.Perm rs')
    (hranks : (rs.map rank).Nodup) : arrange precedes rs = arrange precedes rs' := by
  have hall : (arrange precedes rs).Perm (arrange precedes rs') :=
    (arrange_perm _ rs).trans (hperm.trans (arrange_perm _ rs').symm)
  refine List.Perm.eq_of_pairwise ?_ (pairwise_arrange precedes precedes_trans precedes_total rs)
    (pairwise_arrange precedes precedes_trans precedes_total rs') hall
  intro a b ha hb hab hba
  exact List.inj_on_of_nodup_map hranks ((arrange_perm _ rs).mem_iff.mp ha)
    ((arrange_perm _ rs).mem_iff.mp (hall.mem_iff.mpr hb)) (rank_eq_of_precedes hab hba)

end Resolver

namespace Evaluator

/-! ## Answers -/

variable {b : Builder} {ev : Evaluator}

theorem Builder.resolvers_of_build (h : b.build = .ok ev) :
    ev.resolvers = arrange Resolver.precedes b.resolvers := by
  unfold build at h
  split at h
  · cases h
  · split at h
    · cases h
    · cases h
      rfl

theorem value_firstAnswer (expression : String) (lookup : Lookup) (rs : List Resolver) :
    (firstAnswer expression lookup rs).value
      = rs.findSome? fun r => (r.resolve expression lookup).value := by
  induction rs with
  | nil => rfl
  | cons r rs ih =>
    rw [firstAnswer, Journaled.value_bind, List.findSome?_cons]
    cases (r.resolve expression lookup).value with
    | some answer => rfl
    | none => exact ih

theorem named?_eq_find? {inner scheme expression : List Char}
    (h : Segment.splitScheme? inner = some (scheme, expression)) :
    ev.named? inner
      = (ev.resolvers.find? (·.scheme == .ofList scheme)).map fun r => (r, expression) := by
  rw [named?, h, Option.bind_eq_bind, Option.bind_some]
  dsimp only
  cases ev.resolvers.find? (·.scheme == .ofList scheme) <;> rfl

theorem named?_eq_none_iff {inner : List Char} : ev.named? inner = none ↔
    ∀ scheme expression, Segment.splitScheme? inner = some (scheme, expression) →
      ∀ r ∈ ev.resolvers, r.scheme ≠ .ofList scheme := by
  cases hsplit : Segment.splitScheme? inner with
  | none => simp [named?, hsplit]
  | some split =>
    obtain ⟨scheme, expression⟩ := split
    simp [named?_eq_find? hsplit]

theorem answer_of_named (hbuilt : b.build = .ok ev) (lookup : Lookup)
    {inner scheme expression : List Char}
    (hsplit : Segment.splitScheme? inner = some (scheme, expression))
    (hnamed : ∃ r ∈ b.resolvers, r.scheme = .ofList scheme) :
    ∃ r, Resolver.Foremost (·.scheme = .ofList scheme) b.resolvers r ∧
      ev.answer lookup inner = r.resolve (.ofList expression) lookup := by
  have hfind : ((arrange Resolver.precedes b.resolvers).find?
      (·.scheme == .ofList scheme)).isSome := by
    obtain ⟨r, hr, hscheme⟩ := hnamed
    rw [List.find?_isSome]
    exact ⟨r, (arrange_perm _ _).mem_iff.mpr hr, beq_iff_eq.mpr hscheme⟩
  obtain ⟨r, hr⟩ := Option.isSome_iff_exists.mp hfind
  refine ⟨r, by simpa using Resolver.foremost_of_find?_arrange hr, ?_⟩
  rw [answer, named?_eq_find? hsplit, Builder.resolvers_of_build hbuilt, hr]
  rfl

theorem answer_of_not_named (hbuilt : b.build = .ok ev) (lookup : Lookup) {inner : List Char}
    (h : ev.named? inner = none) :
    match (ev.answer lookup inner).value with
    | none => ∀ r ∈ b.resolvers, (r.resolve (.ofList inner) lookup).value = none
    | some found => ∃ r,
      Resolver.Foremost (fun r => (r.resolve (.ofList inner) lookup).value.isSome) b.resolvers r ∧
        (r.resolve (.ofList inner) lookup).value = some found := by
  rw [answer, h, Builder.resolvers_of_build hbuilt, value_firstAnswer]
  cases hfound : (arrange Resolver.precedes b.resolvers).findSome?
      fun r => (r.resolve (.ofList inner) lookup).value with
  | none =>
    intro r hr
    exact List.findSome?_eq_none_iff.mp hfound r ((arrange_perm _ _).mem_iff.mpr hr)
  | some found =>
    obtain ⟨front, r, back, hsplit, hr, hfront⟩ := List.findSome?_eq_some_iff.mp hfound
    refine ⟨r, Resolver.foremost_of_find?_arrange ?_, hr⟩
    rw [List.find?_eq_some_iff_append]
    refine ⟨by rw [hr]; rfl, front, back, hsplit, ?_⟩
    intro r' hr'
    rw [hfront r' hr']
    rfl

theorem Builder.build_eq_of_perm {b b' : Builder} (hperm : b.resolvers.Perm b'.resolvers)
    (hranks : (b.resolvers.map Resolver.rank).Nodup) (hunresolved : b.unresolved = b'.unresolved)
    (hpasses : b.maxPasses = b'.maxPasses) : b.build = b'.build := by
  have hempty : b.resolvers.isEmpty = b'.resolvers.isEmpty := by
    rw [Bool.eq_iff_iff, List.isEmpty_iff, List.isEmpty_iff]
    exact ⟨fun h => List.nil_perm.mp (h ▸ hperm), fun h => List.perm_nil.mp (h ▸ hperm)⟩
  rw [build, build, hempty, Resolver.arrange_eq_of_perm hperm hranks, hunresolved, hpasses]

/-- What names the scheme of a registered resolver is answered as the one of that scheme with the
highest priority answers the rest of it, the earliest among those of one priority, and nobody else
is asked even if that one has no answer. Anything else has the answer of the foremost of the
resolvers that answer the whole of it, and none if nobody does. And builders at which the same
resolvers of different ranks are registered, in whatever order, with one policy and one bound,
build one and the same evaluator. -/
theorem dispatch_canonical :
    (∀ (b : Builder) (ev : Evaluator), b.build = .ok ev → ∀ (lookup : Lookup) (inner : List Char),
      (∀ scheme expression, Segment.splitScheme? inner = some (scheme, expression) →
        (∃ r ∈ b.resolvers, r.scheme = .ofList scheme) →
        ∃ front r back, b.resolvers = front ++ r :: back ∧ r.scheme = .ofList scheme ∧
          (∀ r' ∈ front, r'.scheme = .ofList scheme → r'.priority < r.priority) ∧
          (∀ r' ∈ back, r'.scheme = .ofList scheme → r'.priority ≤ r.priority) ∧
          ev.answer lookup inner = r.resolve (.ofList expression) lookup) ∧
      ((∀ scheme expression, Segment.splitScheme? inner = some (scheme, expression) →
          ∀ r ∈ b.resolvers, r.scheme ≠ .ofList scheme) →
        match (ev.answer lookup inner).value with
        | none => ∀ r ∈ b.resolvers, (r.resolve (.ofList inner) lookup).value = none
        | some found => ∃ r,
          Resolver.Foremost (fun r => (r.resolve (.ofList inner) lookup).value.isSome)
            b.resolvers r ∧
          (r.resolve (.ofList inner) lookup).value = some found)) ∧
    ∀ b b' : Builder, b.resolvers.Perm b'.resolvers → (b.resolvers.map Resolver.rank).Nodup →
      b.unresolved = b'.unresolved → b.maxPasses = b'.maxPasses → b.build = b'.build := by
  refine ⟨?_, fun b b' => Builder.build_eq_of_perm⟩
  intro b ev hbuilt lookup inner
  refine ⟨?_, ?_⟩
  · intro scheme expression hsplit hnamed
    obtain ⟨r, ⟨front, back, hlist, hscheme, hfront, hback⟩, hanswer⟩ :=
      answer_of_named hbuilt lookup hsplit hnamed
    refine ⟨front, r, back, hlist, hscheme, ?_, ?_, hanswer⟩
    · intro r' hr' hscheme'
      exact (Resolver.outranks_iff_of_scheme_eq (hscheme.trans hscheme'.symm)).mp
        (hfront r' hr' hscheme')
    · intro r' hr' hscheme'
      have hback' := hback r' hr' hscheme'
      rw [Resolver.outranks_iff_of_scheme_eq (hscheme'.trans hscheme.symm)] at hback'
      exact Int.not_lt.mp hback'
  · intro hunnamed
    apply answer_of_not_named hbuilt lookup
    rw [named?_eq_none_iff, Builder.resolvers_of_build hbuilt]
    intro scheme expression hsplit r hr
    exact hunnamed scheme expression hsplit r ((arrange_perm _ _).mem_iff.mp hr)

/-- Of two resolvers of one scheme the later has the higher priority and no answer; a third is of
the same priority and of a lesser scheme. -/
theorem dispatch_of_shadowed_scheme :
    let low := Resolver.ofFunction "x" 1 fun _ => some "low"
    let mute := Resolver.ofFunction "x" 2 fun _ => none
    let echo := Resolver.ofFunction "a" 2 some
    let b : Builder := { resolvers := [low, mute, echo] }
    let b' : Builder := { resolvers := [echo, mute, low] }
    let lookup := Lookup.ofMap ∅
    ∃ ev : Evaluator, b.build = .ok ev ∧ b'.build = .ok ev ∧
      (ev.answer lookup "x:1".toList).value = none ∧
      (∃ front r back, b.resolvers = front ++ r :: back ∧ r.scheme = "x" ∧
        (∀ r' ∈ front, r'.scheme = "x" → r'.priority < r.priority) ∧
        (∀ r' ∈ back, r'.scheme = "x" → r'.priority ≤ r.priority) ∧
        ev.answer lookup "x:1".toList = r.resolve "1" lookup) ∧
      ∃ r, Resolver.Foremost (fun r => (r.resolve "y:1" lookup).value.isSome) b.resolvers r ∧
        (r.resolve "y:1" lookup).value = some "y:1" := by
  intro low mute echo b b' lookup
  have hbuilt : b.build = .ok ⟨[echo, mute, low], .mask, 10⟩ := by
    simp [b, low, mute, echo, Builder.build, arrange, place, Resolver.precedes,
      Resolver.ofFunction]
  have hsplit : Segment.splitScheme? "x:1".toList = some (['x'], ['1']) := by decide
  have hunnamed : ∀ scheme expression,
      Segment.splitScheme? "y:1".toList = some (scheme, expression) →
        ∀ r ∈ b.resolvers, r.scheme ≠ .ofList scheme := by
    intro scheme expression hsplit
    cases hsplit
    simp [b, low, mute, echo, Resolver.ofFunction]
  have hsame : b.build = b'.build := dispatch_canonical.2 b b'
    (List.reverse_perm b.resolvers).symm (by decide) rfl rfl
  obtain ⟨hnamed, hwhole⟩ := dispatch_canonical.1 b _ hbuilt lookup "x:1".toList
  refine ⟨_, hbuilt, hsame ▸ hbuilt, rfl, ?_, ?_⟩
  · exact hnamed _ _ hsplit ⟨low, by simp [b], rfl⟩
  · exact (dispatch_canonical.1 b _ hbuilt lookup "y:1".toList).2 hunnamed

end Evaluator

end LayeredConfig
