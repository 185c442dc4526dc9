import LayeredConfig.Proofs.Source.Listing
import LayeredConfig.View
import Mathlib.Data.List.Basic

/-!
# What reads come to

One key is resolved by a search through the sources, all keys by taking in one source
after the other. Both come to the same: the candidates that the sources have for a key,
combined in listing order, then filtered and evaluated.
-/
namespace LayeredConfig

/-! ## Candidates -/

theorem findSome?_congr {α β : Type} {f g : α → Option β} {as : List α}
    (h : ∀ a ∈ as, f a = g a) : as.findSome? f = as.findSome? g := by
  induction as with
  | nil => rfl
  | cons a as ih =>
    obtain ⟨ha, has⟩ := List.forall_mem_cons.mp h
    rw [List.findSome?_cons, List.findSome?_cons, ha, ih has]

theorem value_firstHolder (key : String) (ms : List Mount) :
    (firstHolder key ms).value = ms.findSome? fun m => (m.find key).value := by
  induction ms with
  | nil => rfl
  | cons m ms ih =>
    rw [firstHolder, Journaled.value_bind, List.findSome?_cons]
    cases (m.find key).value with
    | some p => rfl
    | none => exact ih

theorem value_candidates (key : String) (ms : List Mount) :
    (candidates key ms).value = ms.filterMap fun m => (m.find key).value := by
  induction ms with
  | nil => rfl
  | cons m ms ih =>
    rw [candidates, Journaled.value_bind, Journaled.value_bind, Journaled.value_pure, ih,
      List.filterMap_cons]
    cases (m.find key).value <;> rfl

theorem Mount.value_find (m : Mount) (key : String) :
    (m.find key).value = (m.source.get key).toOption.join := by
  rw [find, Mount.get]
  cases m.source.get key with
  | error e => rfl
  | ok found => cases found <;> rfl

theorem Mount.value_find_of_ok {m : Mount} {key : String} {found : Option Property}
    (h : m.source.get key = .ok found) : (m.find key).value = found := by
  rw [value_find, h]
  cases found <;> rfl

namespace Combination

/-- Only a policy that always takes the candidate says that it overrides. -/
def Lawful (c : Combination) : Prop :=
  c.overrides = true → ∀ current candidate, c.collect current candidate = some candidate

theorem lawful_overriding : overriding.Lawful := fun _ _ _ => rfl

/-- A lawful policy that overrides leaves the last candidate. -/
theorem Lawful.combine_eq_getLast? {c : Combination} (hlawful : c.Lawful)
    (hover : c.overrides = true) (ps : List Property) : c.combine ps = ps.getLast? := by
  rcases List.eq_nil_or_concat ps with rfl | ⟨front, last, rfl⟩
  · rfl
  · rw [combine, List.concat_eq_append, List.foldl_append, List.getLast?_concat]
    exact hlawful hover _ last

end Combination

/-! ## Filters -/

namespace Filter

/-- The filter asks the context for the key alone. -/
def OfKey (f : Filter) : Prop :=
  ∀ ctx ctx' p, ctx.key = ctx'.key → f ctx p = f ctx' p

theorem applyAll_congr {filters : List Filter} {ctx ctx' : FilterContext}
    (h : ∀ f ∈ filters, ∀ p, f ctx p = f ctx' p) (p : Property) :
    applyAll filters ctx p = applyAll filters ctx' p := by
  unfold applyAll
  induction filters generalizing p with
  | nil => rfl
  | cons f fs ih =>
    rw [List.foldlM_cons, List.foldlM_cons, h f List.mem_cons_self p]
    exact congrArg _ (funext fun q => ih (fun f' hf' => h f' (List.mem_cons_of_mem f hf')) q)

end Filter

namespace View

variable (v : View) (chain : FilterChain)

theorem filter_congr {ctx ctx' : FilterContext}
    (h : ∀ f ∈ v.filters ++ chain.filters, ∀ p, f ctx p = f ctx' p) (p : Property) :
    v.filter chain ctx p = v.filter chain ctx' p := by
  have hown : Filter.applyAll v.filters ctx p = Filter.applyAll v.filters ctx' p :=
    Filter.applyAll_congr (fun f hf => h f (List.mem_append_left _ hf)) p
  have hchain : chain.apply ctx = chain.apply ctx' :=
    funext (Filter.applyAll_congr fun f hf => h f (List.mem_append_right _ hf))
  rw [filter, filter, hown, hchain]

/-! ## One key -/

/-- What the sources have for a key, in listing order. -/
def held (key : String) : List Property :=
  v.sources.filterMap fun m => (m.find key).value

theorem value_resolve (hlawful : v.combination.Lawful) (key : String) :
    (v.resolve key).value = v.combination.combine (v.held key) := by
  unfold resolve held
  split
  · next hover =>
    rw [value_firstHolder, hlawful.combine_eq_getLast? hover, List.getLast?_filterMap]
  · rw [Journaled.value_map, value_candidates]

/-- Sources that have the same for a key may stand in for each other. -/
theorem value_resolve_map {v : View} {f : Mount → Mount} {key : String}
    (h : ∀ m ∈ v.sources, ((f m).find key).value = (m.find key).value) :
    (({ v with sources := v.sources.map f } : View).resolve key).value
      = (v.resolve key).value := by
  unfold resolve
  dsimp only
  split
  · rw [← List.map_reverse, value_firstHolder, value_firstHolder, List.findSome?_map]
    exact findSome?_congr fun m hm => h m (List.mem_reverse.mp hm)
  · rw [Journaled.value_map, Journaled.value_map, value_candidates, value_candidates,
      List.filterMap_map]
    exact congrArg _ (List.filterMap_congr h)

theorem value_getWith (key : String) :
    (v.getWith chain key).value
      = match (v.resolve key).value.bind (v.filter chain (.single key)) with
        | none => .ok none
        | some p => (v.evaluate chain p).value.map some := by
  rw [getWith, Journaled.value_bind, filtered, Journaled.value_bind, Journaled.value_pure]
  cases (v.resolve key).value.bind (v.filter chain (.single key)) with
  | none => rfl
  | some p => rfl

/-! ## All keys -/

theorem get?_merge (c : Combination) (combined : StringMap Property) (e : String × Property)
    (key : String) :
    (merge c combined e.1 e.2).get? key
      = if key = e.1 then c.collect (combined.get? key) e.2 else combined.get? key := by
  unfold merge
  by_cases hkey : key = e.1
  · rw [if_pos hkey, hkey]
    cases c.collect (combined.get? e.1) e.2 with
    | some p => rw [StringMap.get?_insert, if_pos rfl]
    | none => rw [StringMap.get?_erase, if_pos rfl]
  · rw [if_neg hkey]
    cases c.collect (combined.get? e.1) e.2 with
    | some p => rw [StringMap.get?_insert, if_neg hkey]
    | none => rw [StringMap.get?_erase, if_neg hkey]

theorem get?_mergeAll (c : Combination) (combined listed : StringMap Property) (key : String) :
    (mergeAll c combined listed).get? key
      = (listed.get? key).toList.foldl c.collect (combined.get? key) := by
  have hwalk := StringMap.get?_foldl_entries (get?_merge c) listed combined key
  rw [mergeAll, hwalk]
  cases listed.get? key <;> rfl

/-- A source that can be listed, and lists what it answers, offers a bulk read the same
candidate as a read of the key. -/
theorem get?_listing {m : Mount} (hscan : m.source.isScannable) (hcons : m.source.Consistent)
    (key : String) : (listing m).value.get? key = (m.find key).value := by
  obtain ⟨listed, hlist, hget⟩ := hcons
  rw [Mount.value_find_of_ok (hget key), listing, if_pos hscan, Journaled.value_bind, Mount.list,
    hlist]
  rfl

theorem get?_snapshot (h : ∀ m ∈ v.sources, m.source.isScannable ∧ m.source.Consistent)
    (key : String) : v.snapshot.value.get? key = v.combination.combine (v.held key) := by
  -- Each source adds its candidate behind those of the sources before it.
  have hfold : ∀ (ms : List Mount) (combined : StringMap Property), ms ⊆ v.sources →
      (ms.foldl (fun combined m => mergeAll v.combination combined (listing m).value)
          combined).get? key
        = (ms.filterMap fun m => (m.find key).value).foldl v.combination.collect
            (combined.get? key) := by
    intro ms
    induction ms with
    | nil => exact fun _ _ => rfl
    | cons m ms ih =>
      intro combined hms
      obtain ⟨hm, hms⟩ := List.cons_subset.mp hms
      obtain ⟨hscan, hcons⟩ := h m hm
      rw [List.foldl_cons, ih _ hms, get?_mergeAll, get?_listing hscan hcons,
        List.filterMap_cons]
      cases (m.find key).value <;> rfl
  rw [snapshot, Journaled.value_foldlM]
  exact hfold v.sources ∅ (List.Subset.refl _)

theorem value_bulkRead (all : StringMap Property) (key : String) (p : Property) :
    (v.bulkRead chain all key p).value
      = if chain.hidesMetadata && isMetadataKey key then none
        else (v.filter chain (.bulk key all) p).bind fun p =>
          (v.evaluate chain p).value.toOption := by
  unfold bulkRead
  split
  · rfl
  · cases v.filter chain (.bulk key all) p with
    | none => rfl
    | some p =>
      rw [Journaled.value_bind, Option.bind_some]
      cases (v.evaluate chain p).value <;> rfl

/-- What a bulk read shows of a key depends on what the snapshot holds for it, and on what
else it holds only so far as the filters ask. -/
theorem get?_propertiesWith (key : String) :
    (v.propertiesWith chain).value.get? key
      = (v.snapshot.value.get? key).bind fun p =>
          (v.bulkRead chain v.snapshot.value key p).value := by
  rw [propertiesWith, Journaled.value_bind, Journaled.value_foldlM]
  refine (StringMap.get?_foldl_entries
    (g := fun key found p => ((v.bulkRead chain v.snapshot.value key p).value).or found)
    (fun result e key => ?_) v.snapshot.value ∅ key).trans ?_
  · -- One step: the property that is read goes under its key, and no other key is touched.
    rw [Journaled.value_bind]
    by_cases hkey : key = e.1
    · rw [if_pos hkey, hkey]
      cases (v.bulkRead chain v.snapshot.value e.1 e.2).value with
      | some p => exact (StringMap.get?_insert _ _ _ _).trans (if_pos rfl)
      | none => rfl
    · rw [if_neg hkey]
      cases (v.bulkRead chain v.snapshot.value e.1 e.2).value with
      | some p => exact (StringMap.get?_insert _ _ _ _).trans (if_neg hkey)
      | none => rfl
  · cases v.snapshot.value.get? key with
    | none => rfl
    | some p => exact Option.or_none

end View

end LayeredConfig
