import LayeredConfig.Proofs.Expression.Lookups
import LayeredConfig.Proofs.View.Reads

/-!
# What a reading refers to

An evaluation settles on what it looked up, for all that its resolvers can see of a configuration
are the lookups they make. So a key can come to read differently only where its reading asked
the sources for a key that they answer differently, whether its text names that key or is led to
it by others.
-/
namespace LayeredConfig

/-! ## Lookups and what comes of them -/

section Lookups

variable {β : Type}

/-- What comes of lookups is settled by those that have their accesses in the journal. -/
def SettledByLookup (q : Lookup → Journaled β) : Prop :=
  ∀ f f' : Lookup, (∀ key, (f key).journal ⊆ (q f).journal → (f key).value = (f' key).value) →
    (q f).value = (q f').value

theorem settledByLookup_lookup (key : String) : SettledByLookup fun f => f key :=
  fun _ _ h => h key (List.Subset.refl _)

theorem keptByBind_settledByLookup : KeptByBind SettledByLookup where
  const _ _ _ _ := rfl
  bind := by
    intro α β x next hx hnext f f' h
    -- The first part has its accesses in the journal of the whole, so both go on from one value.
    have hvalue : (x f).value = (x f').value :=
      hx f f' fun key hkey => h key (List.subset_append_of_subset_left _ hkey)
    rw [Journaled.value_bind, Journaled.value_bind, ← hvalue]
    exact hnext _ f f' fun key hkey => h key (List.subset_append_of_subset_right _ hkey)

/-- The resolver has no way to a key but to look it up. -/
def Resolver.ByLookup (r : Resolver) : Prop :=
  ∀ expression, SettledByLookup (r.resolve expression)

theorem Resolver.byLookup_configuration : Resolver.configuration.ByLookup :=
  fun expression => settledByLookup_lookup (Text.trim expression)

theorem Resolver.byLookup_environment (vars : StringMap String) :
    (Resolver.environment vars).ByLookup :=
  fun _ => keptByBind_settledByLookup.const _

theorem Resolver.byLookup_ofFunction (scheme : String) (priority : Int)
    (f : String → Option String) : (Resolver.ofFunction scheme priority f).ByLookup :=
  fun _ => keptByBind_settledByLookup.const _

theorem Resolver.ByLookup.seesTexts {r : Resolver} (h : r.ByLookup) : r.SeesTexts :=
  fun expression f f' htexts => h expression f f' fun key _ => htexts key

end Lookups

/-- The resolvers of the evaluator have no way to a key but to look it up. -/
def Evaluator.ByLookup (ev : Evaluator) : Prop :=
  ∀ r ∈ ev.resolvers, r.ByLookup

/-! ## Readings -/

theorem Mount.get_mem_journal_find (m : Mount) (key : String) :
    .access m.id (.get key) ∈ (m.find key).journal := by
  rw [find, Journaled.journal_bind]
  exact List.mem_append_left _ (List.mem_singleton.mpr rfl)

namespace View

variable {v : View} {chain : FilterChain} {key : String}

theorem value_lookup (key : String) :
    (v.lookup chain key).value
      = ((v.resolve key).value.bind (v.filter chain (.single key))).bind (·.value) := rfl

theorem journal_lookup (key : String) :
    (v.lookup chain key).journal = (v.resolve key).journal := by
  simp [lookup, filtered]

/-- A key that is looked up leaves its access to one source at least, if there is any. -/
theorem exists_get_mem_lookup (hsources : v.sources ≠ []) (chain : FilterChain) (key : String) :
    ∃ id, .access id (.get key) ∈ (v.lookup chain key).journal := by
  rw [journal_lookup, resolve]
  split
  · obtain ⟨m, ms, hms⟩ := List.exists_cons_of_ne_nil (mt List.reverse_eq_nil_iff.mp hsources)
    rw [hms, firstHolder, Journaled.journal_bind]
    exact ⟨m.id, List.mem_append_left _ (m.get_mem_journal_find key)⟩
  · obtain ⟨m, ms, hms⟩ := List.exists_cons_of_ne_nil hsources
    rw [hms, Journaled.journal_map, candidates, Journaled.journal_bind]
    exact ⟨m.id, List.mem_append_left _ (m.get_mem_journal_find key)⟩

/-- The reading of a key, when texts are looked up so. -/
def reading (evaluator : Option Evaluator) (key : String) (lookup : Lookup) :
    Journaled (Except Error (Option String)) := do
  match evaluator, ← lookup key with
  | some ev, some raw => return (← ev.evaluate lookup raw).map some
  | _, found => return .ok found

theorem settledByLookup_reading {evaluator : Option Evaluator}
    (h : ∀ ev, evaluator = some ev → ev.ByLookup) (key : String) :
    SettledByLookup (reading evaluator key) := by
  have hkept := keptByBind_settledByLookup
  unfold reading
  refine hkept.bind (settledByLookup_lookup key) fun found => ?_
  cases hev : evaluator with
  | none => exact hkept.const _
  | some ev =>
    cases found with
    | none => exact hkept.const _
    | some raw =>
      exact hkept.bind (Evaluator.evaluate_of_resolvers hkept (h ev hev) raw) fun _ => hkept.const _

/-- A text is read through lookups alone, that of the key among them. -/
theorem getText_eq_reading (key : String) :
    v.getText key = reading v.evaluator key (v.lookup .empty) := by
  rw [Journaled.ext_iff]
  simp only [getText, get, getWith, filtered, reading, Journaled.value_bind, Journaled.journal_bind,
    value_lookup, journal_lookup, Journaled.value_pure, Journaled.journal_pure, List.append_nil]
  cases (v.resolve key).value.bind (v.filter .empty (.single key)) with
  | none => cases v.evaluator <;> simp [Except.map]
  | some p =>
    simp only [evaluate, Option.bind_some]
    cases v.evaluator with
    | none => simp [Except.map]
    | some ev =>
      cases hraw : p.value with
      | none => simp [Except.map, hraw]
      | some raw =>
        by_cases hneeds : Segment.needsEvaluation raw.toList = true
        · cases hanswer : (ev.evaluate (v.lookup .empty) raw).value <;>
            simp [hneeds, hanswer, Except.map, Property.withValue]
        · simp [hneeds, Except.map, hraw, Evaluator.evaluate]

/-- A text reads as before where each key that its reading asks for is seen as before. -/
theorem value_getText_eq {w : View} (hw : w.evaluator = v.evaluator) (hsources : v.sources ≠ [])
    (hresolvers : ∀ ev, v.evaluator = some ev → ev.ByLookup)
    (h : ∀ id other, .access id (.get other) ∈ (v.getText key).journal →
      (v.lookup .empty other).value = (w.lookup .empty other).value) :
    (v.getText key).value = (w.getText key).value := by
  rw [getText_eq_reading] at h
  rw [getText_eq_reading, getText_eq_reading, hw]
  apply settledByLookup_reading hresolvers key
  -- A lookup with all its accesses in the journal has left there the one for its own key.
  intro other hother
  obtain ⟨id, hid⟩ := exists_get_mem_lookup hsources .empty other
  exact h id other (hother hid)

end View

end LayeredConfig
