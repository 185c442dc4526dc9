import LayeredConfig.Proofs.View.Reads

/-!
# Bulk reads

Reading all keys at once is reading every key, if the sources list what they answer and
no filter asks for more than the key. It differs in two respects only: an error leaves the
key out where a single read reports it, and metadata keys may be hidden.
-/
namespace LayeredConfig.View

variable {v : View} {chain : FilterChain}

theorem value_resolve_eq_get?_snapshot
    (hsources : ∀ m ∈ v.sources, m.source.isScannable ∧ m.source.Consistent)
    (hlawful : v.combination.Lawful) (key : String) :
    (v.resolve key).value = v.snapshot.value.get? key := by
  rw [v.value_resolve hlawful, v.get?_snapshot hsources]

/-- What a bulk read shows of a key that it does not hide is what a read of the key gives,
and nothing where that fails. -/
theorem get?_propertiesWith_eq_getWith
    (hsources : ∀ m ∈ v.sources, m.source.isScannable ∧ m.source.Consistent)
    (hlawful : v.combination.Lawful) (hfilters : ∀ f ∈ v.filters ++ chain.filters, f.OfKey)
    {key : String} (hkey : isMetadataKey key = false ∨ chain.hidesMetadata = false) :
    (v.propertiesWith chain).value.get? key = (v.getWith chain key).value.toOption.join := by
  have hshown : ¬ (chain.hidesMetadata && isMetadataKey key) = true := by
    rcases hkey with h | h <;> simp [h]
  -- The two reads give the filters different contexts, which differ in the snapshot only.
  have hfilter : v.filter chain (.bulk key v.snapshot.value) = v.filter chain (.single key) :=
    funext (v.filter_congr chain fun f hf p => hfilters f hf _ _ p rfl)
  rw [get?_propertiesWith, value_getWith, value_resolve_eq_get?_snapshot hsources hlawful]
  cases v.snapshot.value.get? key with
  | none => rfl
  | some p =>
    rw [Option.bind_some, Option.bind_some, value_bulkRead, if_neg hshown, hfilter]
    cases v.filter chain (.single key) p with
    | none => rfl
    | some p =>
      rw [Option.bind_some]
      dsimp only
      cases (v.evaluate chain p).value <;> rfl

/-- Memory and environment sources list what they answer; and over sources that do, with a
lawful policy and filters that ask for the key alone, a bulk read holds a property under a
key that it does not hide if and only if a read of the key gives that property. -/
theorem get?_propertiesWith_eq_some_iff :
    (∀ s, (Source.memory s).Consistent) ∧ (∀ s, (Source.environment s).Consistent) ∧
    ∀ (v : View) (chain : FilterChain),
      (∀ m ∈ v.sources, m.source.isScannable ∧ m.source.Consistent) → v.combination.Lawful →
      (∀ f ∈ v.filters ++ chain.filters, f.OfKey) →
      ∀ key, isMetadataKey key = false ∨ chain.hidesMetadata = false → ∀ p,
        (v.propertiesWith chain).value.get? key = some p
          ↔ (v.getWith chain key).value = .ok (some p) := by
  refine ⟨Source.consistent_memory, Source.consistent_environment, ?_⟩
  intro v chain hsources hlawful hfilters key hkey p
  rw [get?_propertiesWith_eq_getWith hsources hlawful hfilters hkey]
  cases (v.getWith chain key).value with
  | error e => exact ⟨nofun, nofun⟩
  | ok found => exact ⟨fun h => congrArg _ h, fun h => Except.ok.inj h⟩

/-- A policy that drops a key at every second candidate, and takes it up again at the next. -/
def alternating : Combination where
  collect current candidate := if current.isSome then none else some candidate
  overrides := false

theorem get?_propertiesWith_alternating :
    let texts := StringMap.ofList [("a", "<${b}>"), ("b", "1")]
    let vars := StringMap.ofList [("APP_b", "2"), ("HOME", "/")]
    let v : View :=
      { sources :=
          [⟨0, .memory { name := "base", entries := texts }⟩,
           ⟨1, .memory { name := "local", entries := .singleton "b" "3" }⟩,
           ⟨2, .environment { vars := vars, stem := some "APP_" }⟩]
        combination := alternating
        filters := [Filter.dropKeys (· == "c")]
        evaluator := some ⟨[.configuration], .mask, 10⟩ }
    (v.propertiesWith .empty).value.get? "a" = some (.text "a" "<2>" "base") := by
  intro texts vars v
  have hsources : ∀ m ∈ v.sources, m.source.isScannable ∧ m.source.Consistent := by
    simp [v, Source.isScannable, Source.consistent_memory, Source.consistent_environment]
  have hfilters : ∀ f ∈ v.filters ++ FilterChain.empty.filters, f.OfKey := by
    simp [v, FilterChain.empty, Filter.OfKey, Filter.dropKeys]
  refine (get?_propertiesWith_eq_some_iff.2.2 v .empty hsources nofun hfilters "a"
    (.inl (by decide +kernel)) _).mpr ?_
  decide +kernel

end LayeredConfig.View
