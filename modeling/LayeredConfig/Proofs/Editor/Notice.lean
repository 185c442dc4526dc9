import LayeredConfig.Proofs.Editor.Store

/-!
# What listeners hear of a store

A store reads its keys before and after the sources are asked. Its listeners hear of just those
keys that read differently, with what they read like before and after; a source that refuses
has not changed, so nothing is missed where no source is read again.
-/
namespace LayeredConfig

variable {L : Type} {e : Editor L} {c : Configuration} {σ : Sources}
  {backups : Option BackupStore} {stamp : Stamp} {outcome : Outcome}

namespace Editor

/-- All changes are found, whether or not the sources are read again. -/
theorem changes_carryOut (hc : c.Reachable σ) (r : ChangeRequest) :
    (e.carryOut c σ (c.registry.mutableMounts σ) r).value.2.2
      = (c.view σ).changesTo
          (c.view (e.policy.propagate r (c.registry.mutableMounts σ) σ).value.2) r.keys := by
  rw [value_carryOut]
  dsimp only
  split
  · next happlied =>
    rw [(hc.accounted e.policy r).sources_eq (c.registry.mounted_mutableMounts σ) happlied]
    simp
  · rfl

theorem deliveries_eq (hc : c.Reachable σ)
    (hok : (e.store c σ backups stamp).value.result = .ok outcome) :
    (e.store c σ backups stamp).value.deliveries
      = ((c.view σ).changesTo (c.view (e.store c σ backups stamp).value.sources)
          e.request.keys).flatMap e.listeners.deliver := by
  cases hrequest : e.request.isEmpty with
  | true =>
    rw [(value_store_of_isEmpty hrequest hok).2, ChangeRequest.keys_of_isEmpty hrequest]
    rfl
  | false =>
    obtain ⟨-, -, hsources, hdeliveries⟩ := value_store_of_not_isEmpty hrequest hok
    rw [hdeliveries, changes_carryOut hc, ← hsources]

/-- A store that is not refused tells of each key of the request that reads differently, in
ascending order, and of no other; the global listeners hear of it first, and then those that
watch the key. Where no source accepted anything, there is nothing to tell. -/
theorem deliveries_store (hc : c.Reachable σ)
    (hok : (e.store c σ backups stamp).value.result = .ok outcome) :
    let stored := (e.store c σ backups stamp).value
    let before := (c.view σ).shown?
    let after := (c.view stored.sources).shown?
    e.request.keys.Pairwise (· < ·) ∧
    (∀ key, key ∈ e.request.keys ↔ e.request.touches key) ∧
    stored.deliveries
      = ((e.request.keys.filter fun key => before key != after key).flatMap fun key =>
          (e.listeners.everywhere ++ e.listeners.watching key).map fun l =>
            ⟨l, ⟨key, before key, after key⟩⟩) ∧
    (outcome.applied = [] → stored.sources = σ) := by
  intro stored before after
  refine ⟨e.request.pairwise_keys, e.request.mem_keys_iff, ?_, ?_⟩
  · rw [show stored.deliveries = _ from deliveries_eq hc hok, View.changesTo, List.flatMap_map]
    rfl
  · intro happlied
    cases hrequest : e.request.isEmpty with
    | true => exact (value_store_of_isEmpty hrequest hok).1
    | false =>
      obtain ⟨-, houtcome, hsources, -⟩ := value_store_of_not_isEmpty hrequest hok
      rw [houtcome] at happlied
      exact hsources.trans ((hc.accounted e.policy e.request).sources_eq
        (c.registry.mounted_mutableMounts σ) happlied)

/-- A key is set, one that the refusing source holds is overridden, one is removed, and one is set
to what it was. -/
theorem deliveries_of_refusal :
    let time : Timestamp :=
      { year := 2024, month := 2, day := 29, hour := 0, minute := 0, second := 0,
        nanosecond := 0, offset := 0 }
    let σ : Sources :=
      ⟨#[.memory { name := "base", entries := .ofList [("a", "1"), ("c", "3"), ("d", "4")] },
         .memory { name := "locked", readOnly := true, entries := .singleton "b" "5" }]⟩
    let c : Configuration := { registry := (Registry.empty.withSources (σ.mounts [0, 1])).value }
    let e := ((((((Editor.new .all ⟨"r", time⟩).onChange 0).watch "a" 1).put "a" "2").put
      "b" "6").remove "c").put "d" "4"
    let stored := (e.store c σ none ⟨"s", time⟩).value
    let before := (c.view σ).shown?
    let after := (c.view stored.sources).shown?
    (stored.deliveries.map fun d => (d.listener, d.change))
      = [(0, ⟨"a", some "1", some "2"⟩), (1, ⟨"a", some "1", some "2"⟩),
         (0, ⟨"b", some "5", some "6"⟩), (0, ⟨"c", some "3", none⟩)] ∧
    stored.deliveries
      = ((e.request.keys.filter fun key => before key != after key).flatMap fun key =>
          (e.listeners.everywhere ++ e.listeners.watching key).map fun l =>
            ⟨l, ⟨key, before key, after key⟩⟩) := by
  intro time σ c e stored before after
  have hc : c.Reachable σ := by
    refine .build (b := { sources := σ.mounts [0, 1] }) ?_ rfl
    simp [σ, Sources.mounts, Sources.mount?, Sources.get?, Sources.Keeps, Mount.name]
  obtain ⟨outcome, hok⟩ : ∃ outcome, stored.result = .ok outcome :=
    Editor.exists_result_ok rfl none
  exact ⟨by decide +kernel, (deliveries_store hc hok).2.2.1⟩

end Editor

end LayeredConfig
