import LayeredConfig.Backup
import LayeredConfig.StringMap.Lemmas

/-!
# What a backup adds to a store

A backup is put behind the earlier ones of its source, and pruning takes from the front. So
under any cap that leaves room for one version, the latest is the one just taken, and what is
kept of other sources stays as it is.
-/
namespace LayeredConfig

/-! ## Copies -/

/-- What a source listed when it was asked to. -/
structure Snapshot where
  takenAt : Timestamp
  listed : StringMap Property

namespace Backup

/-- The backup has the number and the time, every text that was listed, and nothing else. -/
structure Copies (b : Backup) (version : Nat) (taken : Snapshot) : Prop where
  version_eq : b.version = version
  takenAt_eq : b.takenAt = taken.takenAt
  properties_eq : ∀ key, b.properties.get? key = (taken.listed.get? key).bind (·.value)

theorem copies_texts (version : Nat) (taken : Snapshot) :
    Copies ⟨version, taken.takenAt, BackupStore.texts taken.listed⟩ version taken where
  version_eq := rfl
  takenAt_eq := rfl
  properties_eq _ := StringMap.get?_filterMap ..

theorem Copies.unique {b b' : Backup} {version : Nat} {taken : Snapshot}
    (h : b.Copies version taken) (h' : b'.Copies version taken) : b = b' := by
  obtain ⟨_, _, properties⟩ := b
  obtain ⟨_, _, properties'⟩ := b'
  obtain ⟨rfl, rfl, hkeys⟩ := h
  obtain ⟨rfl, rfl, hkeys'⟩ := h'
  have hproperties : properties = properties' :=
    StringMap.ext_get? fun key => (hkeys key).trans (hkeys' key).symm
  rw [hproperties]

end Backup

namespace BackupStore

variable (s : BackupStore)

/-! ## Pruning -/

theorem withMaxVersions_ne_zero (max : Nat) : (withMaxVersions max).maxVersions ≠ some 0 := by
  have hpos : Nat.max max 1 ≠ 0 := Nat.ne_of_gt (Nat.le_max_right max 1)
  exact fun hzero => hpos (Option.some.inj hzero)

@[simp] theorem prune_nil (cap : Option Nat) : prune cap [] = [] := by
  cases cap with
  | none => rfl
  | some max => exact List.drop_nil

theorem prune_subset (cap : Option Nat) (versions : List Backup) :
    prune cap versions ⊆ versions := by
  cases cap with
  | none => exact List.Subset.refl versions
  | some max => exact List.drop_subset _ versions

theorem prune_prune (cap : Option Nat) (versions : List Backup) :
    prune cap (prune cap versions) = prune cap versions := by
  cases cap with
  | none => rfl
  | some max =>
    unfold prune
    dsimp only
    rw [List.drop_drop, List.length_drop]
    congr 1
    omega

/-- What has been pruned before may as well be there when the next version comes. -/
theorem prune_prune_concat {cap : Option Nat} (hcap : cap ≠ some 0) (versions : List Backup)
    (b : Backup) : prune cap (prune cap versions ++ [b]) = prune cap (versions ++ [b]) := by
  cases cap with
  | none => rfl
  | some max =>
    have hmax : max ≠ 0 := fun h => hcap (h ▸ rfl)
    unfold prune
    simp only [List.length_append, List.length_drop, List.length_singleton]
    -- The cap leaves room for the new one, so only earlier ones are dropped, in one go or two.
    rw [List.drop_append_of_le_length (by rw [List.length_drop]; omega),
      List.drop_append_of_le_length (by omega), List.drop_drop]
    congr 2
    omega

/-- Where there is room for one version, pruning spares the newest. -/
theorem getLast?_prune {cap : Option Nat} (hcap : cap ≠ some 0) (versions : List Backup) :
    (prune cap versions).getLast? = versions.getLast? := by
  cases cap with
  | none => rfl
  | some max =>
    have hmax : max ≠ 0 := fun h => hcap (h ▸ rfl)
    unfold prune
    dsimp only
    rw [List.getLast?_drop]
    split
    · next hle =>
      have hnil : versions = [] := List.length_eq_zero_iff.mp (by omega)
      rw [hnil]
      rfl
    · rfl

/-! ## Taking backups -/

theorem ofSource_push (name : String) (takenAt : Timestamp) (properties : StringMap String)
    (other : String) :
    (s.push name takenAt properties).ofSource other
      = if other = name then prune s.maxVersions
          (s.ofSource name ++ [⟨nextVersion (s.ofSource name), takenAt, properties⟩])
        else s.ofSource other := by
  unfold push ofSource
  dsimp only
  rw [StringMap.get?_insert]
  split <;> rfl

theorem value_backup (m : Mount) (now : Timestamp) :
    (s.backup m now).value
      = match m.source.list with
        | .error e => (.error e, s)
        | .ok listed =>
          (.ok (nextVersion (s.ofSource m.name)), s.push m.name now (texts listed)) := by
  rw [backup, Mount.list]
  cases m.source.list <;> rfl

theorem maxVersions_backup (m : Mount) (now : Timestamp) :
    (s.backup m now).value.2.maxVersions = s.maxVersions := by
  rw [value_backup]
  cases m.source.list <;> rfl

theorem ofSource_backup_of_ne (m : Mount) (now : Timestamp) {name : String} (h : name ≠ m.name) :
    (s.backup m now).value.2.ofSource name = s.ofSource name := by
  rw [value_backup]
  cases m.source.list with
  | error e => rfl
  | ok listed => exact (s.ofSource_push ..).trans (if_neg h)

/-! ## The latest backup -/

theorem latest?_backup (hcap : s.maxVersions ≠ some 0) {m : Mount} {listed : StringMap Property}
    (hlist : m.source.list = .ok listed) (now : Timestamp) :
    (s.backup m now).value.2.latest? m.name
      = some ⟨nextVersion (s.ofSource m.name), now, texts listed⟩ := by
  rw [value_backup, hlist, latest?, ofSource_push, if_pos rfl, getLast?_prune hcap,
    List.getLast?_concat]

end BackupStore

/-- Every text of a memory source is backed up, and nothing else. -/
theorem MemorySource.texts_list (s : MemorySource) : BackupStore.texts s.list = s.entries := by
  apply StringMap.ext_get?
  intro key
  rw [BackupStore.texts, StringMap.get?_filterMap, list, StringMap.get?_map]
  cases s.entries.get? key <;> rfl

theorem MemorySource.copies_entries (s : MemorySource) (version : Nat) (now : Timestamp) :
    Backup.Copies ⟨version, now, s.entries⟩ version ⟨now, s.list⟩ := by
  have hcopies := Backup.copies_texts version ⟨now, s.list⟩
  rwa [texts_list] at hcopies

end LayeredConfig
