import LayeredConfig.Proofs.SideBySide
import LayeredConfig.Proofs.View.Reads

/-!
# Masked texts

Two configurations that differ in nothing but the texts of masked keys are read side by
side. The first filter makes their properties equal, and all that follows a filter sees
equal properties: later filters, placeholders, and the journal.
-/
namespace LayeredConfig

/-! ## Alike but for the texts of selected keys -/

structure Property.AlikeBut (selects : String → Bool) (p q : Property) : Prop where
  key : p.key = q.key
  source : p.source = q.source
  metadata : p.metadata = q.metadata
  present : p.value.isSome = q.value.isSome
  value : selects p.key = false → p.value = q.value

/-- Memory sources that hold the same keys, and the same texts under keys that are not
selected. -/
structure MemorySource.AlikeBut (selects : String → Bool) (s t : MemorySource) : Prop where
  name : s.name = t.name
  scannable : s.scannable = t.scannable
  entries : StringMap.Rel (fun key a b => selects key = false → a = b) s.entries t.entries

inductive Mount.AlikeBut (selects : String → Bool) : Mount → Mount → Prop where
  | memory {id : SourceId} {s t : MemorySource} :
      s.AlikeBut selects t → AlikeBut selects ⟨id, .memory s⟩ ⟨id, .memory t⟩

/-- Views that mask the selected keys first of all, and that are the same but for the texts
they mask. -/
structure View.AlikeBut (selects : String → Bool) (mask : String) (v w : View) : Prop where
  sources : List.Forall₂ (Mount.AlikeBut selects) v.sources w.sources
  overriding : v.combination = .overriding
  combination : v.combination = w.combination
  masks : ∃ later, v.filters = Filter.masking selects mask :: later
  filters : v.filters = w.filters
  evaluator : v.evaluator = w.evaluator

/-- The filter does not ask what the other keys hold. -/
def Filter.IgnoresOthers (f : Filter) : Prop :=
  ∀ key all all' p, f (.bulk key all) p = f (.bulk key all') p

variable {selects : String → Bool} {mask : String}

/-! ## Sources -/

theorem Property.AlikeBut.text {key value value' : String} (source : String)
    (h : selects key = false → value = value') :
    (Property.text key value source).AlikeBut selects (.text key value' source) where
  key := rfl
  source := rfl
  metadata := rfl
  present := rfl
  value hkey := congrArg some (h hkey)

theorem Mount.AlikeBut.find {m n : Mount} (h : m.AlikeBut selects n) (key : String) :
    Journaled.Rel (Option.Rel (Property.AlikeBut selects)) (m.find key) (n.find key) := by
  cases h with
  | @memory _ s t h =>
    refine ⟨?_, rfl⟩
    change Option.Rel _ (s.get key) (t.get key)
    rw [MemorySource.get, MemorySource.get, ← h.name]
    exact rel_option_map (h.entries key) (Property.AlikeBut.text s.name)

theorem rel_firstHolder {ms ns : List Mount} (h : List.Forall₂ (Mount.AlikeBut selects) ms ns)
    (key : String) :
    Journaled.Rel (Option.Rel (Property.AlikeBut selects)) (firstHolder key ms)
      (firstHolder key ns) := by
  induction h with
  | nil => exact .pure .none
  | cons hm _ ih =>
    rw [firstHolder, firstHolder]
    refine (hm.find key).bind fun hpq => ?_
    cases hpq with
    | some hpq => exact .pure (.some hpq)
    | none => exact ih

theorem rel_listing {m n : Mount} (h : m.AlikeBut selects n) :
    Journaled.Rel (StringMap.Rel fun _ => Property.AlikeBut selects) (View.listing m)
      (View.listing n) := by
  cases h with
  | @memory id s t h =>
    have hname : Mount.name ⟨id, .memory s⟩ = Mount.name ⟨id, .memory t⟩ := h.name
    rw [View.listing, View.listing, hname]
    by_cases hscan : (Source.memory s).isScannable = true
    · have hscan' : (Source.memory t).isScannable = true := h.scannable.symm.trans hscan
      rw [if_pos hscan, if_pos hscan']
      refine ⟨?_, rfl⟩
      change StringMap.Rel _ s.list t.list
      rw [MemorySource.list, MemorySource.list, ← h.name]
      exact h.entries.map (Property.AlikeBut.text s.name)
    · have hscan' : ¬ (Source.memory t).isScannable = true := fun ht =>
        hscan (h.scannable.trans ht)
      rw [if_neg hscan, if_neg hscan']
      exact ⟨.empty, rfl⟩

/-! ## Filters -/

/-- What the mask leaves of a property does not depend on the text that it covers. -/
theorem Filter.masking_eq {p q : Property} (h : p.AlikeBut selects q) (ctx : FilterContext) :
    masking selects mask ctx p = masking selects mask ctx q := by
  obtain ⟨key, value, source, metadata⟩ := p
  obtain ⟨key', value', source', metadata'⟩ := q
  obtain ⟨rfl, rfl, rfl, hpresent, hvalue⟩ := h
  dsimp only at hpresent hvalue
  unfold masking
  -- A key that is not selected has the same text in both; under a selected one the mask
  -- covers whichever text there is.
  cases hkey : selects key with
  | false => rw [hvalue hkey]
  | true =>
    cases value with
    | none =>
      cases value' with
      | none => rfl
      | some _ => cases hpresent
    | some _ =>
      cases value' with
      | none => cases hpresent
      | some _ => simp [Property.withValue, Property.withMetadata]

namespace View

variable {v w : View} {chain : FilterChain}

theorem AlikeBut.filter (h : v.AlikeBut selects mask w) {ctx ctx' : FilterContext}
    (hctx : ∀ f ∈ v.filters ++ chain.filters, ∀ p, f ctx p = f ctx' p) {p q : Property}
    (hpq : p.AlikeBut selects q) : v.filter chain ctx p = w.filter chain ctx' q := by
  obtain ⟨later, hlater⟩ := h.masks
  rw [v.filter_congr chain hctx, View.filter, View.filter, ← h.filters, hlater]
  unfold Filter.applyAll
  rw [List.foldlM_cons, List.foldlM_cons, Filter.masking_eq hpq]

/-! ## One key -/

theorem AlikeBut.resolve (h : v.AlikeBut selects mask w) (key : String) :
    Journaled.Rel (Option.Rel (Property.AlikeBut selects)) (v.resolve key) (w.resolve key) := by
  rw [View.resolve, View.resolve, ← h.combination, h.overriding]
  exact rel_firstHolder (List.rel_reverse h.sources) key

theorem AlikeBut.filtered (h : v.AlikeBut selects mask w) (key : String) :
    v.filtered chain key = w.filtered chain key := by
  refine Journaled.Rel.eq ((h.resolve key).bind fun hpq => .pure ?_)
  cases hpq with
  | none => rfl
  | some hpq => exact h.filter (fun _ _ _ => rfl) hpq

theorem AlikeBut.lookup (h : v.AlikeBut selects mask w) : v.lookup chain = w.lookup chain := by
  funext key
  rw [View.lookup, View.lookup, h.filtered]

theorem AlikeBut.evaluate (h : v.AlikeBut selects mask w) :
    v.evaluate chain = w.evaluate chain := by
  funext p
  rw [View.evaluate, View.evaluate, h.lookup, h.evaluator]

theorem AlikeBut.getWith (h : v.AlikeBut selects mask w) (key : String) :
    v.getWith chain key = w.getWith chain key := by
  rw [View.getWith, View.getWith, h.filtered, h.evaluate]

/-! ## All keys -/

theorem AlikeBut.snapshot (h : v.AlikeBut selects mask w) :
    Journaled.Rel (StringMap.Rel fun _ => Property.AlikeBut selects) v.snapshot w.snapshot := by
  rw [View.snapshot, View.snapshot, ← h.combination, h.overriding]
  refine Journaled.Rel.foldlM h.sources (fun hcombined hm => ?_) StringMap.Rel.empty
  exact (rel_listing hm).map fun hlisted => hcombined.insertAll hlisted.forall₂_entries

theorem AlikeBut.bulkRead (h : v.AlikeBut selects mask w)
    (hfilters : ∀ f ∈ v.filters ++ chain.filters, f.IgnoresOthers) {p q : Property}
    (hpq : p.AlikeBut selects q) (key : String) (all all' : StringMap Property) :
    v.bulkRead chain all key p = w.bulkRead chain all' key q := by
  -- The snapshots themselves hold the texts unmasked, so no filter may look at them.
  have hfilter : v.filter chain (.bulk key all) p = w.filter chain (.bulk key all') q :=
    h.filter (fun f hf => hfilters f hf key all all') hpq
  rw [View.bulkRead, View.bulkRead, hfilter, h.evaluate]

theorem AlikeBut.propertiesWith (h : v.AlikeBut selects mask w)
    (hfilters : ∀ f ∈ v.filters ++ chain.filters, f.IgnoresOthers) :
    v.propertiesWith chain = w.propertiesWith chain := by
  refine Journaled.Rel.eq (h.snapshot.bind fun hall => ?_)
  refine Journaled.Rel.foldlM hall.forall₂_entries (S := Eq) (fun hresult he => ?_) rfl
  obtain ⟨hkey, hpq⟩ := he
  rw [hresult, ← hkey, h.bulkRead hfilters hpq]
  exact .of_eq rfl

/-- Reads do not tell apart two configurations that differ in masked texts only: what they
give for a key, what placeholders see of it, what a bulk read gives, and all that is logged
on the way is the same. -/
theorem reads_eq_of_alikeBut (h : v.AlikeBut selects mask w)
    (hfilters : ∀ f ∈ v.filters ++ chain.filters, f.IgnoresOthers) :
    (∀ key, v.getWith chain key = w.getWith chain key) ∧
    (∀ key, v.lookup chain key = w.lookup chain key) ∧
    v.propertiesWith chain = w.propertiesWith chain :=
  ⟨h.getWith, congrFun h.lookup, h.propertiesWith hfilters⟩

/-- A reference to a masked key shows the mask, whether the masked text is a word or a
placeholder that is never closed. -/
theorem reads_eq_of_masked_token :
    let view (token : String) : View :=
      { sources := [⟨0, .memory
          { name := "app", entries := .ofList [("token", token), ("url", "http://${token}@host")] }⟩]
        combination := .overriding
        filters := [Filter.masking (· == "token") Filter.defaultMask]
        evaluator := some ⟨[.configuration], .fail, 10⟩ }
    (view "word").getWith .empty "url" = (view "$\x7btoken").getWith .empty "url" ∧
    (view "word").propertiesWith .empty = (view "$\x7btoken").propertiesWith .empty := by
  intro view
  have hentries : StringMap.Rel (fun key a b => (key == "token") = false → a = b)
      (.ofList [("token", "word"), ("url", "http://${token}@host")])
      (.ofList [("token", "$\x7btoken"), ("url", "http://${token}@host")]) :=
    (StringMap.Rel.empty.insert nofun).insert fun _ => rfl
  have halike : (view "word").AlikeBut (· == "token") Filter.defaultMask (view "$\x7btoken") :=
    { sources := .cons (.memory ⟨rfl, rfl, hentries⟩) .nil
      overriding := rfl
      combination := rfl
      masks := ⟨[], rfl⟩
      filters := rfl
      evaluator := rfl }
  have hfilters : ∀ f ∈ (view "word").filters ++ FilterChain.empty.filters, f.IgnoresOthers := by
    simp [view, FilterChain.empty, Filter.IgnoresOthers, Filter.masking]
  have hreads := reads_eq_of_alikeBut halike hfilters
  exact ⟨hreads.1 "url", hreads.2.2⟩

end View

end LayeredConfig
