import LayeredConfig.Proofs.View.References

/-!
# Filters on every path

However a key comes to be read, alone, with all others or through a placeholder, it goes through
one row of filters: those of the configuration, then those of the caller. So where the one list
ends and the other begins makes no difference, nor does a filter that passes everything on, and what
a filter drops is gone whatever stands behind it.
-/
namespace LayeredConfig

namespace Filter

theorem applyAll_append (fs gs : List Filter) (ctx : FilterContext) (p : Property) :
    applyAll (fs ++ gs) ctx p = (applyAll fs ctx p).bind (applyAll gs ctx) :=
  List.foldlM_append

theorem applyAll_cons (f : Filter) (fs : List Filter) (ctx : FilterContext) (p : Property) :
    applyAll (f :: fs) ctx p = (f ctx p).bind (applyAll fs ctx) :=
  List.foldlM_cons

/-- The filter passes every property on as it is. -/
def PassesAll (f : Filter) : Prop :=
  ∀ ctx p, f ctx p = some p

theorem PassesAll.applyAll_insert {f : Filter} (h : f.PassesAll) (fs gs : List Filter)
    (ctx : FilterContext) (p : Property) :
    applyAll (fs ++ f :: gs) ctx p = applyAll (fs ++ gs) ctx p := by
  have htail : applyAll (f :: gs) ctx = applyAll gs ctx := by
    funext q
    rw [applyAll_cons, h ctx q, Option.bind_some]
  rw [applyAll_append, applyAll_append, htail]

end Filter

namespace View

variable {v : View} {chain chain' : FilterChain}

/-- The row of filters that a property goes through. -/
theorem filter_eq_applyAll (v : View) (chain : FilterChain) (ctx : FilterContext) (p : Property) :
    v.filter chain ctx p = Filter.applyAll (v.filters ++ chain.filters) ctx p :=
  (Filter.applyAll_append v.filters chain.filters ctx p).symm

/-! ## Views that are read alike -/

/-- Each key by itself, what a placeholder sees of it, and all keys at once: the same properties,
errors and gaps, with the same journal. -/
structure ReadsAlike (v w : View) (chain chain' : FilterChain) : Prop where
  getWith : ∀ key, v.getWith chain key = w.getWith chain' key
  lookup : ∀ key, v.lookup chain key = w.lookup chain' key
  propertiesWith : v.propertiesWith chain = w.propertiesWith chain'

/-- Nothing but the whole row of filters comes into a read. -/
theorem readsAlike_of_applyAll (fs : List Filter)
    (hflag : chain.hidesMetadata = chain'.hidesMetadata)
    (hrow : ∀ ctx p, Filter.applyAll (v.filters ++ chain.filters) ctx p
      = Filter.applyAll (fs ++ chain'.filters) ctx p) :
    ReadsAlike v { v with filters := fs } chain chain' := by
  have hfilter : v.filter chain = ({ v with filters := fs } : View).filter chain' := by
    funext ctx p
    rw [filter_eq_applyAll, filter_eq_applyAll, hrow]
  have hfiltered : v.filtered chain = ({ v with filters := fs } : View).filtered chain' := by
    funext key
    rw [filtered, hfilter]
    rfl
  have hlookup : v.lookup chain = ({ v with filters := fs } : View).lookup chain' := by
    funext key
    rw [lookup, hfiltered]
    rfl
  have hevaluate : v.evaluate chain = ({ v with filters := fs } : View).evaluate chain' := by
    funext p
    rw [evaluate, hlookup]
    rfl
  have hbulkRead : v.bulkRead chain = ({ v with filters := fs } : View).bulkRead chain' := by
    funext all key p
    rw [bulkRead, hflag, hfilter, hevaluate]
    rfl
  refine ⟨?_, congrFun hlookup, ?_⟩
  · intro key
    rw [getWith, hfiltered, hevaluate]
    rfl
  · rw [propertiesWith, hbulkRead]
    rfl

/-! ## What a filter drops -/

variable {front back : List Filter} {f : Filter}

theorem filter_eq_none_of_drops (hrow : v.filters ++ chain.filters = front ++ f :: back)
    {ctx : FilterContext} {p : Property}
    (hdrops : (Filter.applyAll front ctx p).bind (f ctx) = none) :
    v.filter chain ctx p = none := by
  rw [filter_eq_applyAll, hrow, Filter.applyAll_append]
  cases hfront : Filter.applyAll front ctx p with
  | none => rfl
  | some q =>
    rw [hfront, Option.bind_some] at hdrops
    rw [Option.bind_some, Filter.applyAll_cons, hdrops]
    rfl

/-- A key whose property is dropped in a read by itself is missing there, and unresolved where a
placeholder refers to it. -/
theorem value_getWith_of_drops (hrow : v.filters ++ chain.filters = front ++ f :: back)
    {key : String} (hdrops : ((v.resolve key).value.bind
      (Filter.applyAll front (.single key))).bind (f (.single key)) = none) :
    (v.getWith chain key).value = .ok none ∧ (v.lookup chain key).value = none := by
  have hgone : (v.resolve key).value.bind (v.filter chain (.single key)) = none := by
    cases hresolve : (v.resolve key).value with
    | none => rfl
    | some p =>
      rw [hresolve] at hdrops
      exact filter_eq_none_of_drops hrow hdrops
  rw [value_getWith, value_lookup, hgone]
  exact ⟨rfl, rfl⟩

theorem get?_propertiesWith_of_drops (hrow : v.filters ++ chain.filters = front ++ f :: back)
    {key : String} (hdrops : ((v.snapshot.value.get? key).bind
      (Filter.applyAll front (.bulk key v.snapshot.value))).bind
        (f (.bulk key v.snapshot.value)) = none) :
    (v.propertiesWith chain).value.get? key = none := by
  rw [get?_propertiesWith]
  cases hlisted : v.snapshot.value.get? key with
  | none => rfl
  | some p =>
    rw [hlisted] at hdrops
    rw [Option.bind_some, value_bulkRead, filter_eq_none_of_drops hrow hdrops]
    exact ite_self none

/-! ## Every path -/

/-- On every path a key is read the same whether filters stand in the configuration or in front of
the caller's. What a filter drops of what those before it pass on is gone, whatever stands behind
it. And a filter that passes all on may be inserted anywhere, in either list. -/
theorem context_filters_prefix :
    (∀ (v : View) (chain : FilterChain), ReadsAlike v { v with filters := [] } chain
      { chain with filters := v.filters ++ chain.filters }) ∧
    (∀ (v : View) (chain : FilterChain) (front : List Filter) (f : Filter) (back : List Filter),
      v.filters ++ chain.filters = front ++ f :: back → ∀ key,
        (((v.resolve key).value.bind (Filter.applyAll front (.single key))).bind
            (f (.single key)) = none →
          (v.getWith chain key).value = .ok none ∧ (v.lookup chain key).value = none) ∧
        (((v.snapshot.value.get? key).bind
            (Filter.applyAll front (.bulk key v.snapshot.value))).bind
              (f (.bulk key v.snapshot.value)) = none →
          (v.propertiesWith chain).value.get? key = none)) ∧
    ∀ f : Filter, f.PassesAll → ∀ (v : View) (chain : FilterChain) (position : Nat),
      ReadsAlike v v chain (chain.insert position f) ∧
      ReadsAlike v
        { v with filters := v.filters.take position ++ f :: v.filters.drop position } chain chain := by
  refine ⟨?_, ?_, ?_⟩
  · intro v chain
    exact readsAlike_of_applyAll [] rfl fun _ _ => rfl
  · intro v chain front f back hrow key
    exact ⟨value_getWith_of_drops hrow, get?_propertiesWith_of_drops hrow⟩
  · intro f hf v chain position
    have hinsert : ∀ (fs : List Filter) (ctx : FilterContext) (p : Property),
        Filter.applyAll (fs.take position ++ f :: fs.drop position) ctx p
          = Filter.applyAll fs ctx p := by
      intro fs ctx p
      rw [hf.applyAll_insert, List.take_append_drop]
    refine ⟨readsAlike_of_applyAll v.filters rfl ?_, readsAlike_of_applyAll _ rfl ?_⟩
    · intro ctx p
      rw [Filter.applyAll_append, Filter.applyAll_append]
      exact congrArg _ (funext (hinsert chain.filters ctx)).symm
    · intro ctx p
      rw [Filter.applyAll_append, Filter.applyAll_append, hinsert]

/-- The configuration drops a key that is reached through a key which the caller masks. -/
theorem context_filters_prefix_of_nested :
    let texts := StringMap.ofList [("url", "<${host}>"), ("host", "h:${port}"), ("port", "80")]
    let noPort := Filter.dropKeys (· == "port")
    let shout := Filter.masking (· == "host") "H:${port}"
    let v : View :=
      { sources := [⟨0, .memory { name := "app", entries := texts }⟩]
        combination := .overriding
        filters := [noPort]
        evaluator := some ⟨[.configuration], .mask, 10⟩ }
    let chain : FilterChain := { filters := [shout] }
    let idle : Filter := fun _ p => some p
    (v.getWith chain "port").value = .ok none ∧
    ((v.getWith (chain.insert 0 idle) "url").value.map fun found => found.bind (·.value))
      = .ok (some "<H:[${port}]>") ∧
    (({ v with filters := [] } : View).getWith { filters := [noPort, shout] } "url").value
      = (v.getWith chain "url").value ∧
    (v.propertiesWith chain).value.get? "port" = none := by
  intro texts noPort shout v chain idle
  obtain ⟨hmove, hdrop, hinsert⟩ := context_filters_prefix
  obtain ⟨hsingle, hbulk⟩ := hdrop v chain [] noPort [shout] rfl "port"
  refine ⟨(hsingle (by decide +kernel)).1, ?_, ?_, hbulk (by decide +kernel)⟩
  · rw [← (hinsert idle (fun _ _ => rfl) v chain 0).1.getWith "url"]
    decide +kernel
  · exact (congrArg Journaled.value ((hmove v chain).getWith "url")).symm

end View

end LayeredConfig
