import LayeredConfig.Proofs.Registry.Order
import LayeredConfig.Proofs.View.References

/-!
# Sources that fail

A source that fails is passed over wherever it is asked: for its ordinal, for a key, for all that
it holds, and for what a placeholder refers to. So nothing that is read tells it from a source
that does not fail and has nothing to say.
-/
namespace LayeredConfig

/-! ## Nothing in place of a failure -/

namespace Source

/-- The source that answers as this one does, and with nothing where this one fails. -/
def lenient : Source → Source
  | custom s => custom { s with
      get := fun content key => .ok (s.get content key).toOption.join
      list := fun content => .ok ((s.list content).toOption.getD ∅) }
  | s => s

@[simp] theorem name_lenient (s : Source) : s.lenient.name = s.name := by
  cases s <;> rfl

@[simp] theorem ordinal_lenient (s : Source) : s.lenient.ordinal = s.ordinal := by
  cases s <;> rfl

@[simp] theorem isScannable_lenient (s : Source) : s.lenient.isScannable = s.isScannable := by
  cases s <;> rfl

/-- The source has the name and standing of the other, and answers as that one does, but with
nothing where that one fails. -/
structure Overlooks (t s : Source) : Prop where
  name : t.name = s.name
  ordinal : t.ordinal = s.ordinal
  isScannable : t.isScannable = s.isScannable
  get : ∀ key, t.get key = match s.get key with
    | .ok found => .ok found
    | .error _ => .ok none
  list : t.list = match s.list with
    | .ok listed => .ok listed
    | .error _ => .ok ∅

theorem get_lenient (s : Source) (key : String) :
    s.lenient.get key = .ok (s.get key).toOption.join := by
  cases s <;> rfl

theorem list_lenient (s : Source) : s.lenient.list = .ok (s.list.toOption.getD ∅) := by
  cases s <;> rfl

theorem overlooks_lenient (s : Source) : s.lenient.Overlooks s where
  name := s.name_lenient
  ordinal := s.ordinal_lenient
  isScannable := s.isScannable_lenient
  get key := by
    rw [get_lenient]
    cases s.get key with
    | ok found => cases found <;> rfl
    | error e => rfl
  list := by
    rw [list_lenient]
    cases s.list <;> rfl

end Source

namespace Mount

def lenient (m : Mount) : Mount :=
  { m with source := m.source.lenient }

@[simp] theorem name_lenient (m : Mount) : m.lenient.name = m.name :=
  m.source.name_lenient

theorem value_find_lenient (m : Mount) (key : String) :
    (m.lenient.find key).value = (m.find key).value := by
  rw [value_find, value_find, lenient, Source.get_lenient]
  rfl

end Mount

def Sources.lenient (σ : Sources) : Sources :=
  ⟨σ.cells.map Source.lenient⟩

theorem Sources.mounts_lenient (σ : Sources) (ids : List SourceId) :
    σ.lenient.mounts ids = (σ.mounts ids).map Mount.lenient := by
  have hmount : σ.lenient.mount? = fun id => (σ.mount? id).map Mount.lenient := by
    funext id
    simp only [mount?, get?, lenient, Array.getElem?_map, Option.map_map]
    rfl
  rw [mounts, mounts, hmount, List.map_filterMap]

/-! ## Ranking -/

theorem Rank.of_lenient (m : Mount) : Rank.of m.lenient = Rank.of m := by
  have heffective : m.lenient.effectiveOrdinal.value = m.effectiveOrdinal.value := by
    refine Mount.value_ordinalAmong_congr m.source.ordinal_lenient fun key _ => ?_
    rw [Mount.lenient, Source.get_lenient]
    rfl
  exact congrArg₂ (Rank.mk m.id) m.name_lenient heffective

namespace Registry

theorem value_register_lenient (g : Registry) (m : Mount) :
    (g.register m.lenient).value = (g.register m).value := by
  rw [value_register, value_register, m.name_lenient]
  exact congrArg (fun rank => Registry.mk (place Rank.before rank _)) (Rank.of_lenient m)

theorem value_withSources_lenient (g : Registry) (batch : List Mount) :
    (g.withSources (batch.map Mount.lenient)).value = (g.withSources batch).value := by
  rw [withSources, withSources, Journaled.value_foldlM, Journaled.value_foldlM, List.foldl_map]
  simp only [value_register_lenient]

end Registry

theorem Configuration.Builder.value_build_lenient (b : Builder) :
    ({ b with sources := b.sources.map Mount.lenient } : Builder).build.value = b.build.value := by
  unfold build evaluator
  dsimp only
  split
  · rfl
  · simp only [Journaled.value_bind, Registry.value_withSources_lenient]

/-! ## Reading -/

namespace View

def lenient (v : View) : View :=
  { v with sources := v.sources.map Mount.lenient }

variable (v : View) (chain : FilterChain)

theorem value_resolve_lenient (key : String) :
    (v.lenient.resolve key).value = (v.resolve key).value :=
  value_resolve_map fun m _ => m.value_find_lenient key

theorem value_lookup_lenient (key : String) :
    (v.lenient.lookup chain key).value = (v.lookup chain key).value := by
  rw [value_lookup, value_lookup, value_resolve_lenient]
  rfl

theorem value_listing (m : Mount) :
    (listing m).value = if m.source.isScannable then m.source.list.toOption.getD ∅ else ∅ := by
  unfold listing
  dsimp only
  split
  · rw [Journaled.value_bind, Mount.list]
    simp only [Journaled.accessing]
    cases m.source.list <;> rfl
  · rfl

theorem value_snapshot_lenient : v.lenient.snapshot.value = v.snapshot.value := by
  have hlisting : ∀ m : Mount, (listing m.lenient).value = (listing m).value := by
    intro m
    rw [value_listing, value_listing, Mount.lenient, Source.list_lenient,
      Source.isScannable_lenient]
    rfl
  simp only [snapshot, Journaled.value_foldlM, Journaled.value_map, lenient, List.foldl_map,
    hlisting]

variable {v} (hresolvers : ∀ ev, v.evaluator = some ev → ∀ r ∈ ev.resolvers, r.SeesTexts)
include hresolvers

theorem value_evaluate_lenient (p : Property) :
    (v.lenient.evaluate chain p).value = (v.evaluate chain p).value := by
  have hevaluator : v.lenient.evaluator = v.evaluator := rfl
  rw [evaluate, evaluate, hevaluator]
  cases hev : v.evaluator with
  | none => rfl
  | some ev =>
    cases p.value with
    | none => rfl
    | some raw =>
      have hsame := Evaluator.evaluate_of_resolvers keptByBind_seesTexts (hresolvers ev hev) raw
        (v.lenient.lookup chain) (v.lookup chain) (v.value_lookup_lenient chain)
      dsimp only
      split
      · rw [Journaled.value_bind, Journaled.value_bind, hsame]
      · rfl

theorem value_getWith_lenient (key : String) :
    (v.lenient.getWith chain key).value = (v.getWith chain key).value := by
  rw [value_getWith, value_getWith, value_resolve_lenient]
  simp only [value_evaluate_lenient chain hresolvers]
  rfl

theorem value_propertiesWith_lenient :
    (v.lenient.propertiesWith chain).value = (v.propertiesWith chain).value := by
  apply StringMap.ext_get?
  intro key
  rw [get?_propertiesWith, get?_propertiesWith, value_snapshot_lenient]
  simp only [value_bulkRead, value_evaluate_lenient chain hresolvers]
  rfl

end View

namespace Configuration

theorem view_lenient (c : Configuration) (σ : Sources) : c.view σ.lenient = (c.view σ).lenient := by
  rw [view, σ.mounts_lenient]
  rfl

/-- Sources that answer with nothing in place of every failure are ranked as those that fail: what
is built from them is the same configuration, or the same error. And over them a configuration
reads each key as over those, be it to a value or to an error, and all keys at once. The resolvers
may be any that see texts only. -/
theorem failures_read_as_nothing :
    (∀ s : Source, s.lenient.Overlooks s) ∧
    (∀ (b : Builder) (σ : Sources) (ids : List SourceId),
      ({ b with sources := σ.lenient.mounts ids } : Builder).build.value
        = ({ b with sources := σ.mounts ids } : Builder).build.value) ∧
    ∀ (c : Configuration) (σ : Sources) (chain : FilterChain),
      (∀ ev, c.evaluator = some ev → ∀ r ∈ ev.resolvers, r.SeesTexts) →
      (∀ key, ((c.view σ.lenient).getWith chain key).value
        = ((c.view σ).getWith chain key).value) ∧
      ((c.view σ.lenient).propertiesWith chain).value
        = ((c.view σ).propertiesWith chain).value := by
  refine ⟨Source.overlooks_lenient, fun b σ ids => ?_, fun c σ chain hresolvers => ?_⟩
  · rw [σ.mounts_lenient]
    exact Builder.value_build_lenient { b with sources := σ.mounts ids }
  · have hview : ∀ ev, (c.view σ).evaluator = some ev → ∀ r ∈ ev.resolvers, r.SeesTexts :=
      hresolvers
    rw [view_lenient]
    exact ⟨View.value_getWith_lenient chain hview, View.value_propertiesWith_lenient chain hview⟩

/-- A source that fails for its first ordinal key, for the key that another one refers to, and
when it is listed. -/
theorem failures_read_as_nothing_of_outage :
    let down : Error := .source "remote" "down"
    let remote : CustomSource :=
      { name := "remote"
        content := .ofList [("CONFIG_ORDINAL", .text "CONFIG_ORDINAL" "200" "remote"),
          ("c", .text "c" "<${b}>" "remote")]
        get := fun content key =>
          if key = "a" || key = "_ordinal" then .error down else .ok (content.get? key)
        list := fun _ => .error down }
    let app : MemorySource := { name := "app", entries := .ofList [("a", "1"), ("b", "${a}")] }
    let σ : Sources := ⟨#[.custom remote, .memory app]⟩
    let built (σ : Sources) := Builder.build
      { sources := σ.mounts [0, 1], expressions := some { resolvers := [.configuration] } }
    ∃ c, (built σ).value = .ok c ∧ (built σ.lenient).value = .ok c ∧
      c.registry.ranks = [⟨1, "app", 0⟩, ⟨0, "remote", 200⟩] ∧
      ((c.view σ.lenient).getWith .empty "c").value = .ok (some (.text "c" "<1>" "remote")) ∧
      ((c.view σ.lenient).propertiesWith .empty).value
        = ((c.view σ).propertiesWith .empty).value := by
  intro down remote app σ built
  obtain ⟨c, hc⟩ : ∃ c, (built σ).value = .ok c := ⟨_, rfl⟩
  have hevaluator : c.evaluator = some ⟨[.configuration], .mask, 10⟩ := by
    cases hc
    rfl
  have hresolvers : ∀ ev, c.evaluator = some ev → ∀ r ∈ ev.resolvers, r.SeesTexts := by
    intro ev hev r hr
    cases hevaluator.symm.trans hev
    cases List.mem_singleton.mp hr
    exact Resolver.byLookup_configuration.seesTexts
  have hbuilt := failures_read_as_nothing.2.1
    { expressions := some { resolvers := [.configuration] } } σ [0, 1]
  obtain ⟨hget, hproperties⟩ := failures_read_as_nothing.2.2 c σ .empty hresolvers
  refine ⟨c, hc, hbuilt.trans hc, ?_, ?_, hproperties⟩
  · cases hc
    decide +kernel
  · rw [hget]
    cases hc
    decide +kernel

end Configuration

end LayeredConfig
