import LayeredConfig.Source
import LayeredConfig.StringMap.Lemmas

/-!
# What sources hold, and how it changes

Sources are kept under their identities: writing to one leaves all others as they are. A
change carries a request out on what a source holds; memory sources carry it out in full or
refuse it, while nothing but its own word makes a custom source do so.
-/
namespace LayeredConfig

/-! ## Sources in their places -/

namespace Sources

variable {σ : Sources} {id : SourceId} {s : Source}

theorem get?_set_self (h : σ.get? id = some s) (s' : Source) : (σ.set id s').get? id = some s' := by
  obtain ⟨hlt, _⟩ := Array.getElem?_eq_some_iff.mp h
  simp [get?, set, hlt]

theorem get?_set_of_ne {other : SourceId} (h : other ≠ id) (s' : Source) :
    (σ.set id s').get? other = σ.get? other := by
  simp [get?, set, Ne.symm h]

/-- Sources are determined by what is kept under each identity. -/
theorem ext_get? {σ τ : Sources} (h : ∀ id, σ.get? id = τ.get? id) : σ = τ := by
  cases σ
  cases τ
  exact congrArg Sources.mk (Array.ext_getElem? h)

theorem value_change (h : σ.get? id = some s) (r : ChangeRequest) :
    (σ.change id r).value
      = match s.change r with
        | .error e => (.error e, σ)
        | .ok s' => (.ok (), σ.set id s') := by
  rw [change, h]
  dsimp only
  rw [Journaled.value_bind]
  change (match s.change r with | .error e => _ | .ok s' => _ : Journaled _).value = _
  cases s.change r <;> rfl

theorem value_replace (h : σ.get? id = some s) (content : StringMap String) :
    (σ.replace id content).value
      = match s.replace content with
        | .error e => (.error e, σ)
        | .ok s' => (.ok (), σ.set id s') := by
  rw [replace, h]
  dsimp only
  rw [Journaled.value_bind]
  change (match s.replace content with | .error e => _ | .ok s' => _ : Journaled _).value = _
  cases s.replace content <;> rfl

end Sources

/-! ## Requests carried out -/

namespace ChangeRequest

variable (r : ChangeRequest)

theorem get?_applyTo (content : StringMap String) (key : String) :
    (r.applyTo content).get? key
      = match r.puts.get? key with
        | some text => some text
        | none => if r.removes.contains key then none else content.get? key := by
  rw [applyTo, StringMap.get?_insertAll_entries, StringMap.get?_eraseAll]
  cases r.puts.get? key with
  | some text => rfl
  | none =>
    by_cases h : (r.removes.get? key).isSome <;>
      simp [StringMap.mem_keys_iff, StringMap.contains, h]

theorem get?_of_not_touches {r : ChangeRequest} {key : String} (h : r.touches key = false) :
    r.puts.get? key = none ∧ r.removes.get? key = none := by
  simpa [touches, StringMap.contains] using h

theorem touches_of_isEmpty {r : ChangeRequest} (h : r.isEmpty) (key : String) :
    r.touches key = false := by
  obtain ⟨hputs, hremoves⟩ : r.puts.entries = [] ∧ r.removes.entries = [] := by
    simpa [isEmpty, StringMap.isEmpty] using h
  simp [touches, StringMap.contains, StringMap.get?, hputs, hremoves]

theorem mem_keys_iff (key : String) : key ∈ r.keys ↔ r.touches key := by
  rw [keys, StringMap.mem_keys_iff, StringSet.union, StringMap.get?_insertAll_entries,
    StringMap.keySet, StringMap.get?_map, touches, StringMap.contains, StringMap.contains]
  cases r.puts.get? key <;> cases r.removes.get? key <;> simp

theorem pairwise_keys : r.keys.Pairwise (· < ·) :=
  StringMap.pairwise_keys _

theorem nodup_keys : r.keys.Nodup :=
  StringMap.nodup_keys _

theorem keys_of_isEmpty {r : ChangeRequest} (h : r.isEmpty) : r.keys = [] := by
  rw [List.eq_nil_iff_forall_not_mem]
  intro key hkey
  simp [r.mem_keys_iff, touches_of_isEmpty h] at hkey

/-- A content becomes another by the request: each key that is set has its text, each key
that is only removed has nothing, and any other key has what it had. -/
def CarriedOut (old new : String → Option Property) : Prop :=
  ∀ key, match r.puts.get? key with
    | some text => ∃ p, new key = some p ∧ p.value = some text
    | none => new key = if r.removes.contains key then none else old key

theorem CarriedOut.of_not_touches {r : ChangeRequest} {old new : String → Option Property}
    (h : r.CarriedOut old new) {key : String} (hkey : r.touches key = false) :
    new key = old key := by
  obtain ⟨hputs, hremoves⟩ := get?_of_not_touches hkey
  have hat := h key
  rw [hputs] at hat
  simpa [StringMap.contains, hremoves] using hat

end ChangeRequest

namespace Source

/-- What a source holds under a key, whether or not it would answer so. -/
def holding? : Source → String → Option Property
  | memory s => s.get
  | environment s => s.get
  | custom s => s.content.get?

/-- The source takes a change in full or not at all. -/
def AppliesInFull (s : Source) : Prop :=
  ∀ r s', s.change r = .ok s' → r.CarriedOut s.holding? s'.holding?

theorem appliesInFull_memory (s : MemorySource) : (memory s).AppliesInFull := by
  intro r s' hchange key
  by_cases hreadOnly : s.readOnly = true
  · simp [change, MemorySource.change, hreadOnly, Except.map] at hchange
  · simp only [change, MemorySource.change, hreadOnly, Except.map] at hchange
    cases hchange
    simp only [holding?, MemorySource.get, r.get?_applyTo]
    cases r.puts.get? key with
    | some text => exact ⟨_, rfl, rfl⟩
    | none => by_cases hremoved : r.removes.contains key <;> simp [hremoved]

/-- What becomes of a source that is asked to carry a request out. -/
def after (s : Source) (r : ChangeRequest) : Source :=
  (s.change r).toOption.getD s

def accepts (s : Source) (r : ChangeRequest) : Bool :=
  (s.change r).toOption.isSome

theorem after_of_not_accepts {s : Source} {r : ChangeRequest} (h : s.accepts r = false) :
    s.after r = s := by
  unfold accepts at h
  unfold after
  rw [Option.not_isSome_iff_eq_none.mp (ne_true_of_eq_false h)]
  rfl

theorem after_writable {s : MemorySource} (h : s.readOnly = false) (r : ChangeRequest) :
    (memory s).after r = .memory { s with entries := r.applyTo s.entries } := by
  simp [after, change, MemorySource.change, h, Except.map, Except.toOption]

theorem change_of_not_isMutable {s : Source} (h : s.isMutable = false) (r : ChangeRequest) :
    s.change r = .error (.notMutable s.name) := by
  cases s with
  | memory m => cases h
  | environment m => rfl
  | custom m =>
    have hwriter : m.writer = none := by simpa [isMutable] using h
    simp [change, hwriter, name]

theorem after_of_not_isMutable {s : Source} (h : s.isMutable = false) (r : ChangeRequest) :
    s.after r = s := by
  rw [after, change_of_not_isMutable h]
  rfl

theorem name_of_change {s s' : Source} {r : ChangeRequest} (h : s.change r = .ok s') :
    s'.name = s.name := by
  cases s with
  | memory m =>
    simp only [change, MemorySource.change] at h
    split at h
    · cases h
    · cases h
      rfl
  | environment m => cases h
  | custom m =>
    simp only [change] at h
    split at h
    · next w _ =>
      cases hcontent : w.change r m.content with
      | error e =>
        rw [hcontent] at h
        cases h
      | ok content =>
        rw [hcontent] at h
        cases h
        rfl
    · cases h

theorem name_after (s : Source) (r : ChangeRequest) : (s.after r).name = s.name := by
  unfold after
  cases hchange : s.change r with
  | error e => rfl
  | ok s' => exact name_of_change hchange

/-- A change shows in what the source answers for the keys of the request alone. -/
def Confined (s : Source) : Prop :=
  ∀ r s', s.change r = .ok s' → ∀ key, r.touches key = false → s'.get key = s.get key

theorem confined_memory (s : MemorySource) : (memory s).Confined := by
  intro r s' hchange key hkey
  obtain ⟨hputs, hremoves⟩ := ChangeRequest.get?_of_not_touches hkey
  cases hreadOnly : s.readOnly with
  | true => simp [change, MemorySource.change, hreadOnly, Except.map] at hchange
  | false =>
    simp only [change, MemorySource.change, hreadOnly, Except.map] at hchange
    cases hchange
    simp [get, MemorySource.get, r.get?_applyTo, StringMap.contains, hputs, hremoves]

theorem confined_of_not_isMutable {s : Source} (h : s.isMutable = false) : s.Confined := by
  intro r s' hchange
  rw [change_of_not_isMutable h] at hchange
  cases hchange

theorem Confined.get_after {s : Source} (h : s.Confined) {r : ChangeRequest} {key : String}
    (hkey : r.touches key = false) : (s.after r).get key = s.get key := by
  unfold after
  cases hchange : s.change r with
  | error e => rfl
  | ok s' => exact h r s' hchange key hkey

theorem carriedOut_after {s : Source} {r : ChangeRequest} (hfull : s.AppliesInFull)
    (h : s.accepts r = true) : r.CarriedOut s.holding? (s.after r).holding? := by
  unfold accepts at h
  unfold after
  cases hchange : s.change r with
  | error e => simp [hchange, Except.toOption] at h
  | ok s' => exact hfull r s' hchange

end Source

end LayeredConfig
