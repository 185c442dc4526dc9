import LayeredConfig.Proofs.Registry.Sound

/-!
# The order of the registry

A registry keeps its listing arranged through every registration and removal. Between sources
of different names the order is strict, so a listing is determined by who is in it: histories
that leave the same sources under the same names leave the same listing.
-/
namespace LayeredConfig

/-! ## Ordinals -/

/-- The source is kept, and answers for its ordinal as it did when it was mounted. -/
def Sources.KeepsOrdinal (σ : Sources) (m : Mount) : Prop :=
  ∃ s, σ.get? m.id = some s ∧ s.name = m.name ∧ s.ordinal = m.source.ordinal ∧
    ∀ key ∈ [Metadata.ordinal, Metadata.ordinalVariable], s.get key = m.source.get key

namespace Mount

theorem value_declaredOrdinal (m : Mount) (key : String) :
    (m.declaredOrdinal key).value
      = (m.source.get key).toOption.join.bind Property.declaredOrdinal? := by
  simp only [declaredOrdinal, get, Journaled.value_bind, Journaled.accessing]
  cases m.source.get key with
  | ok found => cases found <;> rfl
  | error e => rfl

theorem value_readOrdinal (m : Mount) (key raw : String) :
    (m.readOrdinal key raw).value
      = (IntType.readDecimal? .i32 (Text.trimChars raw.toList)).getD m.source.ordinal := by
  unfold readOrdinal
  cases IntType.readDecimal? .i32 (Text.trimChars raw.toList) <;> rfl

/-- Of what a source answers for the ordinal keys, a failure counts as nothing. -/
theorem value_ordinalAmong_congr {m n : Mount} {keys : List String}
    (hordinal : m.source.ordinal = n.source.ordinal)
    (hget : ∀ key ∈ keys, (m.source.get key).toOption.join = (n.source.get key).toOption.join) :
    (m.ordinalAmong keys).value = (n.ordinalAmong keys).value := by
  induction keys with
  | nil => exact hordinal
  | cons key keys ih =>
    have hdeclared : (m.declaredOrdinal key).value = (n.declaredOrdinal key).value := by
      simp [value_declaredOrdinal, hget key]
    simp only [ordinalAmong, Journaled.value_bind, hdeclared]
    cases (n.declaredOrdinal key).value with
    | some raw => simp [value_readOrdinal, hordinal]
    | none => exact ih fun k hk => hget k (List.mem_cons_of_mem key hk)

end Mount

namespace Rank

/-- The rank that a source gets when it is registered. -/
def of (m : Mount) : Rank := (ofMount m).value

@[simp] theorem of_id (m : Mount) : (of m).id = m.id := rfl

@[simp] theorem of_name (m : Mount) : (of m).name = m.name := rfl

/-- A source that keeps its answers keeps its rank. -/
theorem map_of_mount? {σ : Sources} {m : Mount} (h : σ.KeepsOrdinal m) :
    (σ.mount? m.id).map of = some (of m) := by
  obtain ⟨s, hs, hname, hordinal, hget⟩ := h
  have heffective : (Mount.mk m.id s).effectiveOrdinal.value = m.effectiveOrdinal.value :=
    Mount.value_ordinalAmong_congr hordinal fun key hkey =>
      congrArg (fun found => found.toOption.join) (hget key hkey)
  simp only [Sources.mount?, hs, Option.map_some, Option.some.injEq]
  exact congrArg₂ (Rank.mk m.id) hname heffective

/-! ## The order -/

theorem before_iff {a b : Rank} :
    a.before b ↔ a.ordinal < b.ordinal ∨ (a.ordinal = b.ordinal ∧ b.name < a.name) := by
  simp [before]

theorem before_trans {a b c : Rank} (hab : a.before b) (hbc : b.before c) : a.before c := by
  rw [before_iff] at hab hbc ⊢
  rcases hab with hab | ⟨hab, hba⟩
  · omega
  · rcases hbc with hbc | ⟨hbc, hcb⟩
    · omega
    · exact .inr ⟨hab.trans hbc, String.lt_trans hcb hba⟩

theorem before_irrefl (a : Rank) : ¬ a.before a := by
  rw [before_iff]
  rintro (hlt | ⟨-, hlt⟩)
  · exact Int.lt_irrefl a.ordinal hlt
  · exact String.lt_irrefl a.name hlt

theorem before_or_before {a b : Rank} (h : a.name ≠ b.name) : a.before b ∨ b.before a := by
  simp only [before_iff]
  rcases Int.lt_trichotomy a.ordinal b.ordinal with hlt | heq | hgt
  · exact .inl (.inl hlt)
  · rcases Decidable.em (b.name < a.name) with hlt | hge
    · exact .inl (.inr ⟨heq, hlt⟩)
    · exact .inr (.inr ⟨heq.symm, StringMap.lt_of_not_lt_of_ne hge h.symm⟩)
  · exact .inr (.inl hgt)

end Rank

namespace Registry

/-! ## Histories -/

inductive Operation where
  | withSources (batch : List Mount)
  | withoutSources (names : List String)

/-- What an operation does to one name. -/
inductive Event where
  | registered (m : Mount)
  | removed (name : String)

def Operation.perform (g : Registry) : Operation → Journaled Registry
  | .withSources batch => g.withSources batch
  | .withoutSources names => pure (g.withoutSources names)

def run (ops : List Operation) : Journaled Registry :=
  ops.foldlM Operation.perform empty

def Operation.events : Operation → List Event
  | .withSources batch => batch.map .registered
  | .withoutSources names => names.map .removed

def history (ops : List Operation) : List Event :=
  ops.flatMap Operation.events

def Event.name : Event → String
  | .registered m => m.name
  | .removed name => name

/-- The source that has the name after the event. -/
def Event.mount? : Event → Option Mount
  | .registered m => some m
  | .removed _ => none

/-- The last source registered under the name, if the name has not been removed since. -/
def survivor? (events : List Event) (name : String) : Option Mount :=
  (events.reverse.find? (·.name == name)).bind Event.mount?

theorem survivor?_concat (events : List Event) (e : Event) (name : String) :
    survivor? (events ++ [e]) name = if e.name = name then e.mount? else survivor? events name := by
  by_cases h : e.name = name
  · simp [survivor?, h]
  · simp [survivor?, h]

theorem survivor?_eq_some {events : List Event} {name : String} {m : Mount}
    (h : survivor? events name = some m) : .registered m ∈ events ∧ m.name = name := by
  obtain ⟨e, hfind, hmount⟩ := Option.bind_eq_some_iff.mp h
  have hname := List.find?_some hfind
  have hmem := List.mem_of_find?_eq_some hfind
  cases e with
  | registered n =>
    cases hmount
    exact ⟨List.mem_reverse.mp hmem, eq_of_beq hname⟩
  | removed => cases hmount

def Event.apply (g : Registry) : Event → Registry
  | .registered m => (g.register m).value
  | .removed name => g.withoutSources [name]

theorem withoutSources_eq_foldl (g : Registry) (names : List String) :
    g.withoutSources names = names.foldl (fun g name => g.withoutSources [name]) g := by
  induction names generalizing g with
  | nil => simp [withoutSources]
  | cons name names ih =>
    rw [List.foldl_cons, ← ih]
    simp [withoutSources, List.filter_filter, Bool.and_comm]

theorem value_perform (g : Registry) (op : Operation) :
    (op.perform g).value = op.events.foldl Event.apply g := by
  cases op with
  | withSources batch =>
    simp only [Operation.perform, withSources, Journaled.value_foldlM, Operation.events,
      List.foldl_map]
    rfl
  | withoutSources names =>
    simp only [Operation.perform, Journaled.value_pure, Operation.events, List.foldl_map]
    exact withoutSources_eq_foldl g names

theorem value_run (ops : List Operation) :
    (run ops).value = (history ops).foldl Event.apply empty := by
  simp [run, history, List.foldl_flatMap, value_perform]

/-! ## What every history leaves -/

/-- The listing is arranged, and holds those that have survived. -/
structure Arranged (g : Registry) (events : List Event) : Prop where
  strict : g.ranks.Pairwise (Rank.before · ·)
  mem_iff : ∀ rank, rank ∈ g.ranks ↔ (survivor? events rank.name).map Rank.of = some rank

theorem arranged_empty : empty.Arranged [] := ⟨.nil, by simp [empty, survivor?]⟩

namespace Arranged

variable {g : Registry} {events : List Event}

theorem apply (h : g.Arranged events) (e : Event) : (e.apply g).Arranged (events ++ [e]) := by
  cases e with
  | registered m =>
    have hranks : (Event.apply g (.registered m)).ranks
        = place Rank.before (Rank.of m) (g.ranks.filter (·.name != m.name)) := by
      rw [Event.apply, value_register]
      rfl
    constructor
    · rw [hranks]
      refine pairwise_place Rank.before_trans ?_ (h.strict.filter _)
      intro rank hrank
      apply Rank.before_or_before
      intro hname
      simp [← hname] at hrank
    · intro rank
      rw [hranks, (place_perm _ _ _).mem_iff, List.mem_cons, List.mem_filter, h.mem_iff,
        survivor?_concat]
      -- Under the name of the new source it alone is listed, under any other name nothing changes.
      by_cases hname : m.name = rank.name
      · simp [Event.name, Event.mount?, hname, eq_comm]
      · have hne : rank ≠ Rank.of m := by
          rintro rfl
          exact hname rfl
        simp [Event.name, hname, hne, Ne.symm hname]
  | removed name =>
    constructor
    · exact h.strict.filter _
    · intro rank
      have hmem : rank ∈ (Event.apply g (.removed name)).ranks ↔ rank ∈ g.ranks ∧ rank.name ≠ name := by
        simp [Event.apply, withoutSources]
      rw [hmem, h.mem_iff, survivor?_concat]
      by_cases hname : name = rank.name
      · simp [Event.name, Event.mount?, hname]
      · simp [Event.name, hname, Ne.symm hname]

theorem foldl (h : g.Arranged events) (after : List Event) :
    (after.foldl Event.apply g).Arranged (events ++ after) := by
  induction after generalizing g events with
  | nil => simpa using h
  | cons e after ih => simpa using ih (h.apply e)

theorem nodup_names (h : g.Arranged events) : g.names.Nodup := by
  refine List.pairwise_map.mpr (h.strict.imp_of_mem ?_)
  intro a b ha hb hbefore hname
  -- The name has one survivor, and none stands before itself.
  have hsame : some a = some b := by
    rw [← (h.mem_iff a).mp ha, ← (h.mem_iff b).mp hb, hname]
  cases hsame
  exact Rank.before_irrefl a hbefore

theorem find?_eq (h : g.Arranged events) (name : String) :
    g.find? name = (survivor? events name).map (·.id) := by
  unfold find?
  cases hfind : g.ranks.find? (·.name == name) with
  | some rank =>
    obtain rfl : rank.name = name := by simpa using List.find?_some hfind
    obtain ⟨m, hm, rfl⟩ := Option.map_eq_some_iff.mp
      ((h.mem_iff rank).mp (List.mem_of_find?_eq_some hfind))
    rw [Rank.of_name] at hm
    simp [hm]
  | none =>
    cases hsurvivor : survivor? events name with
    | none => rfl
    | some m =>
      obtain ⟨-, rfl⟩ := survivor?_eq_some hsurvivor
      have hmem : Rank.of m ∈ g.ranks := (h.mem_iff _).mpr (by simp [hsurvivor])
      simpa using List.find?_eq_none.mp hfind _ hmem

variable {σ : Sources}

/-- The listing shows the ranks that its sources have now. -/
theorem map_of_mounts (h : g.Arranged events)
    (hkeeps : ∀ m, .registered m ∈ events → σ.KeepsOrdinal m) :
    (σ.mounts g.ids).map Rank.of = g.ranks := by
  have hrank : ∀ rank ∈ g.ranks, (σ.mount? rank.id).map Rank.of = some rank := by
    intro rank hmem
    obtain ⟨m, hm, rfl⟩ := Option.map_eq_some_iff.mp ((h.mem_iff rank).mp hmem)
    exact Rank.map_of_mount? (hkeeps m (survivor?_eq_some hm).1)
  simp only [Sources.mounts, ids, List.filterMap_map, List.map_filterMap, Function.comp_def]
  rw [List.filterMap_congr hrank, List.filterMap_some]

/-- A listing is determined by the sources that have survived. -/
theorem ranks_eq {g' : Registry} {events' : List Event} (h : g.Arranged events)
    (h' : g'.Arranged events') (hkeeps : ∀ m, .registered m ∈ events → σ.KeepsOrdinal m)
    (hkeeps' : ∀ m, .registered m ∈ events' → σ.KeepsOrdinal m)
    (hsame : ∀ name, (survivor? events name).map (·.id) = (survivor? events' name).map (·.id)) :
    g.ranks = g'.ranks := by
  -- The rank of a survivor is read off the sources, which know it by its identity alone.
  have hread : ∀ {events : List Event}, (∀ m, .registered m ∈ events → σ.KeepsOrdinal m) →
      ∀ name, (survivor? events name).map Rank.of
        = ((survivor? events name).map (·.id)).bind fun id => (σ.mount? id).map Rank.of := by
    intro events hkeeps name
    cases hm : survivor? events name with
    | none => rfl
    | some m => exact (Rank.map_of_mount? (hkeeps m (survivor?_eq_some hm).1)).symm
  have hmem : ∀ rank, rank ∈ g.ranks ↔ rank ∈ g'.ranks := by
    intro rank
    rw [h.mem_iff, h'.mem_iff, hread hkeeps, hread hkeeps', hsame]
  refine List.Perm.eq_of_pairwise ?_ h.strict h'.strict
    ((List.perm_ext_iff_of_nodup (.of_map _ h.nodup_names) (.of_map _ h'.nodup_names)).mpr hmem)
  intro a b _ _ hab hba
  exact absurd (Rank.before_trans hab hba) (Rank.before_irrefl a)

end Arranged

theorem arranged_run (ops : List Operation) : (run ops).value.Arranged (history ops) := by
  rw [value_run]
  exact arranged_empty.foldl (history ops)

/-! ## The canonical order -/

/-- After every history the listing shows the ranks that its sources have now, strictly arranged
by ordinal and backwards by name, and has for each name the last source registered under it and
not removed since. Which history has led to it makes no difference to what it is and shows. -/
theorem run_canonical {σ : Sources} {ops : List Operation}
    (hkeeps : ∀ m, .registered m ∈ history ops → σ.KeepsOrdinal m) :
    (run ops).value.names.Nodup ∧
    ((σ.mounts (run ops).value.ids).map fun m => (⟨m.id, m.name, m.effectiveOrdinal.value⟩ : Rank))
      = (run ops).value.ranks ∧
    ((run ops).value.ranks.Pairwise fun a b =>
      a.ordinal < b.ordinal ∨ (a.ordinal = b.ordinal ∧ b.name < a.name)) ∧
    (∀ name, (run ops).value.find? name = (survivor? (history ops) name).map (·.id)) ∧
    ∀ ops', (∀ m, .registered m ∈ history ops' → σ.KeepsOrdinal m) →
      (∀ name, (survivor? (history ops) name).map (·.id)
        = (survivor? (history ops') name).map (·.id)) →
      (run ops).value.ranks = (run ops').value.ranks ∧
      (run ops).value.precedence = (run ops').value.precedence ∧
      ∀ (τ : Sources) (key : String),
        firstHolder key (τ.mounts (run ops).value.ids.reverse)
          = firstHolder key (τ.mounts (run ops').value.ids.reverse) ∧
        candidates key (τ.mounts (run ops).value.ids)
          = candidates key (τ.mounts (run ops').value.ids) := by
  have h := arranged_run ops
  refine ⟨h.nodup_names, h.map_of_mounts hkeeps, ?_, h.find?_eq, ?_⟩
  · simpa only [Rank.before_iff] using h.strict
  · intro ops' hkeeps' hsame
    have hranks := h.ranks_eq (arranged_run ops') hkeeps hkeeps' hsame
    refine ⟨hranks, ?_, ?_⟩
    · simp [precedence, hranks]
    · intro τ key
      simp [ids, hranks]

/-- A source is replaced under its name, another one removed, and the two that are left have the
same ordinal, which one of them declares; registering just these two, the other way round, comes
to the same listing. What the declaring source holds under other keys has changed meanwhile. -/
theorem run_replaced_and_removed :
    let old : Source := .memory { name := "a", ordinal := 9 }
    let gone : Source := .memory { name := "b", ordinal := 7 }
    let declaring : Source := .memory { name := "a", entries := .singleton "_ordinal" " 7" }
    let plain : Source := .memory { name := "c", ordinal := 7 }
    let σ : Sources := ⟨#[old, gone, .memory
      { name := "a", entries := (StringMap.singleton "_ordinal" " 7").insert "k" "v" }, plain]⟩
    let ops : List Operation :=
      [.withSources [⟨0, old⟩, ⟨1, gone⟩, ⟨2, declaring⟩], .withoutSources ["b"],
       .withSources [⟨3, plain⟩]]
    let ops' : List Operation := [.withSources [⟨3, plain⟩], .withSources [⟨2, declaring⟩]]
    (run ops).value.ranks = [⟨3, "c", 7⟩, ⟨2, "a", 7⟩] ∧
    ((σ.mounts (run ops).value.ids).map fun m => (⟨m.id, m.name, m.effectiveOrdinal.value⟩ : Rank))
      = (run ops).value.ranks ∧
    (run ops).value.ranks = (run ops').value.ranks := by
  intro old gone declaring plain σ ops ops'
  have hdeclaring : σ.KeepsOrdinal ⟨2, declaring⟩ := by
    refine ⟨_, rfl, rfl, rfl, ?_⟩
    decide
  have hkeeps : ∀ m, .registered m ∈ history ops → σ.KeepsOrdinal m := by
    intro m hm
    rcases (by simpa [history, ops, Operation.events] using hm) with rfl | rfl | rfl | rfl
    · exact ⟨_, rfl, rfl, rfl, fun _ _ => rfl⟩
    · exact ⟨_, rfl, rfl, rfl, fun _ _ => rfl⟩
    · exact hdeclaring
    · exact ⟨_, rfl, rfl, rfl, fun _ _ => rfl⟩
  have hkeeps' : ∀ m, .registered m ∈ history ops' → σ.KeepsOrdinal m := by
    intro m hm
    rcases (by simpa [history, ops', Operation.events] using hm) with rfl | rfl
    · exact ⟨_, rfl, rfl, rfl, fun _ _ => rfl⟩
    · exact hdeclaring
  have hsame : ∀ name, (survivor? (history ops) name).map (·.id)
      = (survivor? (history ops') name).map (·.id) := by
    intro name
    -- Three names occur.
    by_cases hc : "c" = name
    · subst hc; rfl
    by_cases hb : "b" = name
    · subst hb; rfl
    by_cases ha : "a" = name
    · subst ha; rfl
    simp [survivor?, history, ops, ops', Operation.events, Event.name, Mount.name, Source.name,
      old, gone, declaring, plain, ha, hb, hc]
  obtain ⟨-, hnow, -, -, hother⟩ := run_canonical hkeeps
  exact ⟨by decide +kernel, hnow, (hother ops' hkeeps' hsame).1⟩

end Registry

end LayeredConfig
