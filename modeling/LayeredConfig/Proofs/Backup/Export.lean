import LayeredConfig.Backup.Json
import LayeredConfig.Proofs.Json.Records
import LayeredConfig.Proofs.Timestamp.ReadBack

/-!
# Backup stores that are exported

A store whose numbers fit in 64 bits, and which keeps to its cap, is read from what is
written of it.
-/
namespace LayeredConfig

namespace Backup

theorem plain_toJson (b : Backup) : b.toJson.Plain := by
  refine .obj fun f hf => ?_
  simp only [List.mem_cons, List.not_mem_nil, or_false] at hf
  rcases hf with rfl | rfl | rfl
  · exact .scalar (.int b.version)
  · exact .scalar (.str b.takenAt.toString)
  · exact Json.plain_ofTextMap b.properties

theorem ofJson?_toJson {b : Backup} (h : b.version < 2 ^ 64) : ofJson? b.toJson = some b := by
  have hrecord : b.toJson.record? ["version", "taken_at", "properties"]
      = some [some (.int b.version), some (.str b.takenAt.toString),
          some (.ofTextMap b.properties)] := rfl
  unfold ofJson?
  simp only [hrecord, Option.bind_eq_bind, Option.bind_some, Json.count?_int h,
    Timestamp.ofJson?_str, Json.textMap?_ofTextMap]
  rfl

end Backup

namespace BackupStore

variable {s : BackupStore}

/-- The store keeps to its cap, and has no number of more than 64 bits. -/
structure Portable (s : BackupStore) : Prop where
  cap : ∀ max, s.maxVersions = some max → max < 2 ^ 64
  versions : ∀ name, ∀ b ∈ s.ofSource name, b.version < 2 ^ 64
  pruned : ∀ name, prune s.maxVersions (s.ofSource name) = s.ofSource name

theorem ofSource_of_mem {e : String × List Backup} (h : e ∈ s.backups.entries) :
    s.ofSource e.1 = e.2 := by
  rw [ofSource, StringMap.mem_entries_iff.mp h]
  rfl

theorem plain_toJson (s : BackupStore) : s.toJson.Plain := by
  refine .obj fun f hf => ?_
  rcases List.mem_append.mp hf with hf | hf
  · obtain ⟨max, -, rfl⟩ := List.mem_map.mp hf
    exact .scalar (.int max)
  · rw [List.mem_singleton.mp hf]
    change Json.Plain (.ofMap (fun bs => .arr (bs.map Backup.toJson)) s.backups)
    apply Json.plain_ofMap
    intro e _
    refine .arr fun j hj => ?_
    obtain ⟨b, -, rfl⟩ := List.mem_map.mp hj
    exact b.plain_toJson

theorem ofJson?_toJson (h : s.Portable) : ofJson? s.toJson = some s := by
  have hbackups : Json.map? (Json.list? Backup.ofJson?)
      (.ofMap (fun bs => .arr (bs.map Backup.toJson)) s.backups) = some s.backups := by
    apply Json.map?_ofMap
    intro e he
    apply Json.list?_arr
    intro b hb
    exact Backup.ofJson?_toJson (h.versions e.1 b (by rwa [ofSource_of_mem he]))
  have hpruned : (s.backups.map fun _ bs => prune s.maxVersions bs) = s.backups := by
    apply StringMap.ext_get?
    intro name
    have hname := h.pruned name
    unfold ofSource at hname
    rw [StringMap.get?_map]
    cases hbs : s.backups.get? name with
    | none => rfl
    | some bs =>
      rw [hbs] at hname
      exact congrArg some hname
  have hrecord : s.toJson.record? ["max_versions", "backups"]
      = some [s.maxVersions.map fun max => .int max,
          some (.ofMap (fun bs => .arr (bs.map Backup.toJson)) s.backups)] := by
    unfold toJson
    cases s.maxVersions <;> rfl
  have hcap : ((s.maxVersions.map fun max : Nat => Json.int max).getD .null).nullable? Json.count?
      = some s.maxVersions := by
    cases hmax : s.maxVersions with
    | none => rfl
    | some max => exact congrArg (Option.map some) (Json.count?_int (h.cap max hmax))
  unfold ofJson?
  simp only [hrecord, Option.bind_eq_bind, Option.bind_some, hcap, hbackups, hpruned]
  rfl

theorem ofText?_toText (h : s.Portable) : ofText? s.toText = some s := by
  rw [ofText?, toText, Json.parse?_indented s.plain_toJson]
  exact ofJson?_toJson h

end BackupStore

end LayeredConfig
