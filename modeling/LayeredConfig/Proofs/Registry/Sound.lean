import LayeredConfig.Configuration
import Mathlib.Data.List.Nodup

/-!
# Configurations over kept sources

A registry knows its sources by identity and by name. In every configuration that is built,
and then given and bereft of sources, a name stands once and belongs to a source that is
kept, whatever has become of its content since it was registered.
-/
namespace LayeredConfig

/-- The mount is of a source that is kept, whatever it held when it was mounted. -/
def Sources.Keeps (σ : Sources) (m : Mount) : Prop :=
  ∃ s, σ.get? m.id = some s ∧ s.name = m.name

variable {σ : Sources}

namespace Registry

structure Sound (g : Registry) (σ : Sources) : Prop where
  nodup_names : g.names.Nodup
  kept : ∀ rank ∈ g.ranks, ∃ s, σ.get? rank.id = some s ∧ s.name = rank.name

variable {g : Registry}

theorem sound_empty : empty.Sound σ := ⟨.nil, nofun⟩

theorem value_register (g : Registry) (m : Mount) :
    (g.register m).value
      = ⟨place Rank.before (Rank.ofMount m).value (g.ranks.filter (·.name != m.name))⟩ := by
  unfold register
  dsimp only
  split <;> rfl

theorem Sound.register (h : g.Sound σ) {m : Mount} (hm : σ.Keeps m) :
    (g.register m).value.Sound σ := by
  rw [value_register]
  have hperm := place_perm Rank.before (Rank.ofMount m).value (g.ranks.filter (·.name != m.name))
  refine ⟨?_, ?_⟩
  · refine (hperm.map _).nodup_iff.mpr (List.nodup_cons.mpr ⟨?_, ?_⟩)
    · -- The sources of this name have just been taken out.
      intro hname
      obtain ⟨rank, hrank, heq⟩ := List.mem_map.mp hname
      have hne := (List.mem_filter.mp hrank).2
      simp [show rank.name = m.name from heq] at hne
    · exact h.nodup_names.sublist (List.filter_sublist.map _)
  · intro rank hrank
    rcases List.mem_cons.mp (hperm.mem_iff.mp hrank) with rfl | hrank
    · exact hm
    · exact h.kept rank (List.mem_of_mem_filter hrank)

theorem Sound.withSources (h : g.Sound σ) {batch : List Mount} (hbatch : ∀ m ∈ batch, σ.Keeps m) :
    (g.withSources batch).value.Sound σ := by
  rw [Registry.withSources, Journaled.value_foldlM]
  induction batch generalizing g with
  | nil => exact h
  | cons m ms ih =>
    exact ih (h.register (hbatch m List.mem_cons_self)) fun n hn =>
      hbatch n (List.mem_cons_of_mem m hn)

theorem Sound.withoutSources (h : g.Sound σ) (names : List String) :
    (g.withoutSources names).Sound σ :=
  ⟨h.nodup_names.sublist (List.filter_sublist.map _),
    fun rank hrank => h.kept rank (List.mem_of_mem_filter hrank)⟩

/-! ## Sources that take changes -/

theorem mem_mutableMounts {m : Mount} :
    m ∈ g.mutableMounts σ ↔ m.id ∈ g.ids ∧ σ.get? m.id = some m.source ∧ m.source.isMutable := by
  unfold mutableMounts Sources.mounts Sources.mount?
  simp only [List.mem_filter, List.mem_filterMap, List.mem_reverse, Option.map_eq_some_iff,
    ← and_assoc]
  refine and_congr_left fun _ => ⟨?_, ?_⟩
  · rintro ⟨id, hid, s, hs, rfl⟩
    exact ⟨hid, hs⟩
  · rintro ⟨hid, hs⟩
    exact ⟨m.id, hid, m.source, hs, rfl⟩

/-- The sources behind a registry have the names under which it lists them. -/
theorem Sound.map_name_mounts (h : g.Sound σ) {ranks : List Rank} (hranks : ranks ⊆ g.ranks) :
    (σ.mounts (ranks.map (·.id))).map Mount.name = ranks.map (·.name) := by
  induction ranks with
  | nil => rfl
  | cons rank ranks ih =>
    obtain ⟨hrank, hranks⟩ := List.cons_subset.mp hranks
    obtain ⟨s, hs, hname⟩ := h.kept rank hrank
    have hmount : σ.mount? rank.id = some ⟨rank.id, s⟩ := by rw [Sources.mount?, hs]; rfl
    rw [List.map_cons, Sources.mounts, List.filterMap_cons, hmount]
    exact congrArg₂ List.cons hname (ih hranks)

theorem Sound.nodup_names_mutableMounts (h : g.Sound σ) :
    ((g.mutableMounts σ).map Mount.name).Nodup := by
  have hnames := h.map_name_mounts (show g.ranks.reverse ⊆ g.ranks by simp)
  rw [List.map_reverse] at hnames
  refine List.Nodup.sublist (List.filter_sublist.map _) ?_
  rw [Registry.ids, hnames, List.map_reverse, List.nodup_reverse]
  exact h.nodup_names

end Registry

/-! ## Configurations that come about -/

namespace Configuration

/-- A configuration over kept sources, as it is built and changed. -/
inductive Reachable (σ : Sources) : Configuration → Prop where
  | build {b : Builder} {c : Configuration} :
      (∀ m ∈ b.sources, σ.Keeps m) → b.build.value = .ok c → Reachable σ c
  | addSources {c : Configuration} {batch : List Mount} :
      Reachable σ c → (∀ m ∈ batch, σ.Keeps m) → Reachable σ (c.addSources batch).value
  | removeSources {c : Configuration} (names : List String) :
      Reachable σ c → Reachable σ (c.removeSources names).value
  | addConverter {c : Configuration} (k : Kind) (f : Converter k) :
      Reachable σ c → Reachable σ (c.addConverter k f)

theorem Reachable.sound {c : Configuration} (h : c.Reachable σ) : c.registry.Sound σ := by
  induction h with
  | build hsources hbuild =>
    obtain ⟨evaluator, -, rfl⟩ := Builder.eq_of_value_build hbuild
    exact Registry.sound_empty.withSources hsources
  | addSources _ hbatch ih => exact ih.withSources hbatch
  | removeSources names _ ih => exact ih.withoutSources names
  | addConverter _ _ _ ih => exact ih

end Configuration

end LayeredConfig
