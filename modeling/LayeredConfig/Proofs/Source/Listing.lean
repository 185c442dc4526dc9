import LayeredConfig.Source
import LayeredConfig.StringMap.Lemmas

/-!
# Sources that list what they answer

A source is asked for one key or for all that it holds, and nothing makes a custom source
answer both alike. Memory and environment sources do: the one keeps the texts it shows,
and the names of variables with the stem in front are one to one with the keys.
-/
namespace LayeredConfig

/-- The source never fails, and what it lists under a key is what it answers to the key. -/
def Source.Consistent (s : Source) : Prop :=
  ∃ listed, s.list = .ok listed ∧ ∀ key, s.get key = .ok (listed.get? key)

theorem MemorySource.get?_list (s : MemorySource) (key : String) :
    s.list.get? key = s.get key :=
  StringMap.get?_map _ s.entries key

namespace EnvironmentSource

variable {s : EnvironmentSource}

theorem keyOf?_eq_some_iff {name key : String} :
    s.keyOf? name = some key ↔ name = s.stem.getD "" ++ key := by
  unfold keyOf?
  cases s.stem with
  | none => simp
  | some stem =>
    dsimp only [Option.getD_some]
    rw [← String.toList_inj, String.toList_append]
    constructor
    · intro h
      split at h
      · next hprefix =>
        obtain ⟨rest, hrest⟩ := List.isPrefixOf_iff_prefix.mp hprefix
        rw [← hrest, List.drop_left] at h
        cases h
        rw [String.toList_ofList, hrest]
      · cases h
    · intro h
      rw [h, if_pos (List.isPrefixOf_iff_prefix.mpr (List.prefix_append _ _)), List.drop_left,
        String.ofList_toList]

theorem mem_listed_iff {key : String} {p : Property} :
    (key, p) ∈ s.vars.entries.filterMap (fun e =>
        (s.keyOf? e.1).map fun key => (key, Property.text key e.2 s.name))
      ↔ s.get key = some p := by
  rw [List.mem_filterMap, get, Option.map_eq_some_iff]
  constructor
  · rintro ⟨⟨name, value⟩, hmem, hentry⟩
    obtain ⟨key', hkey, hpair⟩ := Option.map_eq_some_iff.mp hentry
    cases hpair
    rw [keyOf?_eq_some_iff] at hkey
    dsimp only at hkey
    subst hkey
    exact ⟨value, StringMap.mem_entries_iff.mp hmem, rfl⟩
  · rintro ⟨value, hvalue, rfl⟩
    refine ⟨(s.stem.getD "" ++ key, value), StringMap.mem_entries_iff.mpr hvalue, ?_⟩
    dsimp only
    rw [keyOf?_eq_some_iff.mpr rfl]
    rfl

theorem get?_list (s : EnvironmentSource) (key : String) : s.list.get? key = s.get key := by
  ext p
  rw [list, StringMap.get?_ofList_eq_some, mem_listed_iff]
  intro a b ha hb
  rw [mem_listed_iff] at ha hb
  exact Option.some.inj (ha.symm.trans hb)

end EnvironmentSource

namespace Source

theorem consistent_memory (s : MemorySource) : (memory s).Consistent :=
  ⟨s.list, rfl, fun key => congrArg Except.ok (s.get?_list key).symm⟩

theorem consistent_environment (s : EnvironmentSource) : (environment s).Consistent :=
  ⟨s.list, rfl, fun key => congrArg Except.ok (s.get?_list key).symm⟩

end Source

end LayeredConfig
