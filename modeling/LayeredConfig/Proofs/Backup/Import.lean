import LayeredConfig.Proofs.Backup.History
import LayeredConfig.Proofs.Source.Content

/-!
# Backup stores that are imported

A text may be read as a store with any cap, and with any numbers in any order; what is read keeps
to its cap at once. The next backup is numbered on from the last one. So it is lost under a cap
of zero, and it is hidden by an earlier one that has its number already; otherwise the store has
it under its number, as in a store that was never exported. Numbers that ascend leave the next one
free, short of the greatest one.
-/
namespace LayeredConfig.BackupStore

/-! ## Stores that keep to their cap -/

/-- No source has more backups than the cap leaves room for. -/
def KeepsToCap (s : BackupStore) : Prop :=
  ∀ name, prune s.maxVersions (s.ofSource name) = s.ofSource name

theorem keepsToCap_of_ofText? {text : String} {s : BackupStore} (h : ofText? text = some s) :
    s.KeepsToCap := by
  unfold ofText? ofJson? at h
  simp only [Option.bind_eq_bind, Option.bind_eq_some_iff] at h
  obtain ⟨j, -, fields, -, h⟩ := h
  split at h
  · simp only [Option.bind_eq_some_iff] at h
    obtain ⟨cap, -, given, -, bs, -, hs⟩ := h
    -- Whatever was read, it has just been pruned.
    cases hs
    intro name
    unfold ofSource
    rw [StringMap.get?_map]
    cases bs.get? name with
    | none => exact prune_nil cap
    | some versions => exact prune_prune cap versions
  · cases h

theorem KeepsToCap.push {s : BackupStore} (h : s.KeepsToCap) (name : String) (now : Timestamp)
    (properties : StringMap String) : (s.push name now properties).KeepsToCap := by
  intro other
  rw [ofSource_push]
  split
  · exact prune_prune ..
  · exact h other

theorem KeepsToCap.perform {s s' : BackupStore} {op : Operation} (h : s.KeepsToCap)
    (hop : op.perform s = some s') : s'.KeepsToCap := by
  cases op with
  | backup m now =>
    cases hop
    rw [value_backup]
    cases m.source.list with
    | error e => exact h
    | ok listed => exact h.push m.name now (texts listed)
  | remove removed =>
    cases hop
    intro name
    have hname := h name
    unfold remove ofSource at *
    rw [StringMap.get?_erase]
    split
    · exact prune_nil _
    · exact hname
  | reload => exact keepsToCap_of_ofText? hop

theorem KeepsToCap.run {s s' : BackupStore} {ops : List Operation} (h : s.KeepsToCap)
    (hrun : s.run ops = some s') : s'.KeepsToCap := by
  induction ops generalizing s with
  | nil =>
    cases hrun
    exact h
  | cons op ops ih =>
    unfold BackupStore.run at hrun
    rw [List.foldlM_cons, Option.bind_eq_bind, Option.bind_eq_some_iff] at hrun
    obtain ⟨next, hop, hrest⟩ := hrun
    exact ih (h.perform hop) hrest

/-- The backups of a source that the next one leaves in place. -/
def staying (s : BackupStore) (name : String) : List Backup :=
  if s.maxVersions = some (s.ofSource name).length then (s.ofSource name).tail
  else s.ofSource name

theorem staying_subset (s : BackupStore) (name : String) : s.staying name ⊆ s.ofSource name := by
  unfold staying
  split
  · exact (List.tail_sublist _).subset
  · exact List.Subset.refl _

/-- Where there is room at all, at most the oldest backup goes for a new one. -/
theorem KeepsToCap.prune_concat {s : BackupStore} (h : s.KeepsToCap)
    (hcap : s.maxVersions ≠ some 0) (name : String) (b : Backup) :
    prune s.maxVersions (s.ofSource name ++ [b]) = s.staying name ++ [b] := by
  have hname := h name
  unfold staying
  unfold prune at hname ⊢
  cases hmax : s.maxVersions with
  | none => simp
  | some max =>
    rw [hmax] at hname hcap
    have hpos : max ≠ 0 := fun hzero => hcap (congrArg some hzero)
    -- What pruning leaves alone is no longer than the cap, so at most one is too many now.
    have hroom : (s.ofSource name).length ≤ max := by
      have hlength := congrArg List.length hname
      rw [List.length_drop] at hlength
      omega
    simp only [Option.some.injEq, List.length_append, List.length_singleton]
    split
    · next hfull =>
      rw [← hfull, Nat.add_sub_cancel_left, List.drop_append_of_le_length (by omega),
        List.drop_one]
    · rw [Nat.sub_eq_zero_of_le (by omega), List.drop_zero]

/-! ## The backup just taken -/

/-- The store has the backup as the latest of its source, and has none but it under its number;
both ways to ask for it restore it. -/
structure Serves (s : BackupStore) (name : String) (b : Backup) : Prop where
  latest : s.latest? name = some b
  version : s.version? name b.version = some b
  once : (s.versions name).count b.version = 1
  /-- A source that takes what was backed up is left with just that. -/
  restored : ∀ (m : Mount) (σ : Sources) (source' : Source), m.name = name →
    σ.get? m.id = some m.source → m.source.replace b.properties = .ok source' →
    ∀ asked ∈ [some b.version, none],
      (s.restoreInto m asked σ).value = (.ok b.version, σ.set m.id source')

theorem value_restoreInto {s : BackupStore} {m : Mount} {asked : Option Nat} {b : Backup}
    (hfind : s.find? m.name asked = some b) {σ : Sources} (hm : σ.get? m.id = some m.source)
    {source' : Source} (hreplace : m.source.replace b.properties = .ok source') :
    (s.restoreInto m asked σ).value = (.ok b.version, σ.set m.id source') := by
  have hvalue := Sources.value_replace hm b.properties
  rw [hreplace] at hvalue
  rw [restoreInto, hfind]
  dsimp only
  rw [Journaled.value_bind, hvalue]
  rfl

theorem serves_of_ofSource {s : BackupStore} {name : String} {old : List Backup} {b : Backup}
    (h : s.ofSource name = old ++ [b]) (hold : ∀ a ∈ old, a.version ≠ b.version) :
    s.Serves name b := by
  have hlatest : s.latest? name = some b := by
    rw [latest?, h, List.getLast?_concat]
  have hversion : s.version? name b.version = some b := by
    have hnone : old.find? (·.version == b.version) = none :=
      List.find?_eq_none.mpr fun a ha => by simpa using hold a ha
    rw [version?, h, List.find?_append, hnone]
    simp
  refine ⟨hlatest, hversion, ?_, ?_⟩
  · have hnot : b.version ∉ old.map (·.version) := by
      simpa using hold
    rw [versions, h, List.map_append, List.count_append, List.count_eq_zero_of_not_mem hnot]
    simp
  · intro m σ source' hname hm hreplace asked hasked
    apply value_restoreInto _ hm hreplace
    rw [List.mem_pair] at hasked
    rcases hasked with rfl | rfl
    · rwa [hname]
    · rwa [hname]

theorem serves_push_iff {s : BackupStore} (h : s.KeepsToCap) (name : String) (now : Timestamp)
    (properties : StringMap String) :
    (s.push name now properties).Serves name ⟨nextVersion (s.ofSource name), now, properties⟩
      ↔ s.maxVersions ≠ some 0
        ∧ ∀ old ∈ s.staying name, old.version ≠ nextVersion (s.ofSource name) := by
  have hsource := s.ofSource_push name now properties name
  rw [if_pos rfl] at hsource
  constructor
  · intro hserves
    have hcap : s.maxVersions ≠ some 0 := by
      intro hzero
      have hlatest := hserves.latest
      simp [latest?, hsource, hzero, prune] at hlatest
    refine ⟨hcap, ?_⟩
    intro old hold hversion
    have honce := hserves.once
    rw [versions, hsource, h.prune_concat hcap, List.map_append, List.count_append] at honce
    -- The new backup has its number once, so no other one may have it.
    have hmany : 0 < ((s.staying name).map (·.version)).count (nextVersion (s.ofSource name)) :=
      List.count_pos_iff.mpr (List.mem_map.mpr ⟨old, hold, hversion⟩)
    simp at honce
    omega
  · rintro ⟨hcap, hstaying⟩
    rw [h.prune_concat hcap] at hsource
    exact serves_of_ofSource hsource hstaying

/-- Where the numbers ascend, as in a store that gave them itself, and do not end, the next one
is new. -/
theorem ne_nextVersion_of_ascending {s : BackupStore} {name : String}
    (h : (s.versions name).Pairwise (· < ·)) (hroom : ∀ n ∈ s.versions name, n + 1 < 2 ^ 64) :
    ∀ old ∈ s.staying name, old.version ≠ nextVersion (s.ofSource name) := by
  intro old hold
  have hmem := s.staying_subset name hold
  unfold versions at h hroom
  rcases List.eq_nil_or_concat (s.ofSource name) with hnil | ⟨before, last, hconcat⟩
  · rw [hnil] at hmem
    cases hmem
  · rw [List.concat_eq_append] at hconcat
    rw [hconcat] at hmem h hroom ⊢
    have hle : old.version ≤ last.version := by
      rcases List.mem_append.mp hmem with hbefore | hlast
      · rw [List.map_append, List.pairwise_append] at h
        exact Nat.le_of_lt (h.2.2 _ (List.mem_map_of_mem hbefore) _ (by simp))
      · rw [List.mem_singleton.mp hlast]
    have hlast : last.version + 1 < 2 ^ 64 := hroom _ (List.mem_map_of_mem (by simp))
    have hnext : nextVersion (before ++ [last]) = last.version + 1 := by
      unfold nextVersion
      rw [List.getLast?_concat]
      exact Nat.mod_eq_of_lt hlast
    omega

theorem serves_push_of_ascending {s : BackupStore} (h : s.KeepsToCap)
    (hcap : s.maxVersions ≠ some 0) {name : String} (hnumbers : (s.versions name).Pairwise (· < ·))
    (hroom : ∀ n ∈ s.versions name, n + 1 < 2 ^ 64) (now : Timestamp)
    (properties : StringMap String) :
    (s.push name now properties).Serves name ⟨nextVersion (s.ofSource name), now, properties⟩ :=
  (serves_push_iff h name now properties).mpr ⟨hcap, ne_nextVersion_of_ascending hnumbers hroom⟩

theorem value_backup_eq_ok {s s' : BackupStore} {m : Mount} {now : Timestamp} {v : Nat}
    (h : (s.backup m now).value = (.ok v, s')) :
    ∃ listed, m.source.list = .ok listed ∧ v = nextVersion (s.ofSource m.name)
      ∧ s' = s.push m.name now (texts listed) := by
  rw [value_backup] at h
  cases hlist : m.source.list with
  | error e =>
    rw [hlist] at h
    cases h
  | ok listed =>
    rw [hlist] at h
    cases h
    exact ⟨listed, rfl, rfl, rfl⟩

/-- Whatever text a store is read from, and whatever is done to it then: a backup that succeeds
is a copy of what its source listed. It is served if and only if the cap leaves room for a backup,
and no backup that stays has its number; so it is where there is room and the numbers ascend. -/
theorem serves_backup_iff {text : String} {s₀ s s' : BackupStore} {ops : List Operation}
    {m : Mount} {now : Timestamp} {v : Nat} (htext : ofText? text = some s₀)
    (hrun : s₀.run ops = some s) (hbackup : (s.backup m now).value = (.ok v, s')) :
    ∃ listed b, m.source.list = .ok listed ∧ b.Copies v ⟨now, listed⟩ ∧
      (s'.Serves m.name b
        ↔ s.maxVersions ≠ some 0 ∧ ∀ old ∈ s.staying m.name, old.version ≠ v) ∧
      (s.maxVersions ≠ some 0 → (s.versions m.name).Pairwise (· < ·) →
        (∀ n ∈ s.versions m.name, n + 1 < 2 ^ 64) → s'.Serves m.name b) := by
  have hkeeps : s.KeepsToCap := (keepsToCap_of_ofText? htext).run hrun
  obtain ⟨listed, hlist, rfl, rfl⟩ := value_backup_eq_ok hbackup
  refine ⟨listed, _, hlist, Backup.copies_texts _ ⟨now, listed⟩, ?_, ?_⟩
  · exact serves_push_iff hkeeps m.name now (texts listed)
  · intro hcap hnumbers hroom
    exact serves_push_of_ascending hkeeps hcap hnumbers hroom now (texts listed)

theorem portable_singleton {cap : Option Nat} {live : String} {bs : List Backup}
    (hcap : ∀ max, cap = some max → max < 2 ^ 64) (hversions : ∀ b ∈ bs, b.version < 2 ^ 64)
    (hpruned : prune cap bs = bs) :
    Portable { backups := .singleton live bs, maxVersions := cap } := by
  have hsource : ∀ name, ofSource { backups := .singleton live bs, maxVersions := cap } name
      = if name = live then bs else [] := by
    intro name
    unfold ofSource StringMap.singleton
    rw [StringMap.get?_insert]
    split <;> rfl
  refine ⟨hcap, ?_, ?_⟩
  · intro name b hb
    rw [hsource] at hb
    split at hb
    · exact hversions b hb
    · cases hb
  · intro name
    rw [hsource]
    split
    · exact hpruned
    · exact prune_nil cap

/-- A text with numbers that leave some out, under a cap of two. -/
theorem serves_backup_of_gap :
    let now : Timestamp :=
      { year := 2024, month := 2, day := 29, hour := 23, minute := 59, second := 59,
        nanosecond := 120, offset := 0 }
    let s : BackupStore :=
      { backups := .singleton "live" [⟨4, now, ∅⟩, ⟨9, now, ∅⟩], maxVersions := some 2 }
    let live : Mount := ⟨0, .memory { name := "live", entries := .singleton "a" "1" }⟩
    ∃ s', ofText? s.toText = some s ∧ (s.backup live now).value = (.ok 10, s') ∧
      s'.versions "live" = [9, 10] ∧ s'.Serves "live" ⟨10, now, .singleton "a" "1"⟩ := by
  intro now s live
  have htext : ofText? s.toText = some s :=
    ofText?_toText (portable_singleton (by decide) (by decide) rfl)
  have hrun : s.run [] = some s := rfl
  have hbackup : (s.backup live now).value = (.ok 10, s.push "live" now (.singleton "a" "1")) := by
    decide +kernel
  obtain ⟨listed, b, hlist, hcopies, hserves, -⟩ := serves_backup_iff htext hrun hbackup
  cases hlist
  rw [hcopies.unique (MemorySource.copies_entries _ 10 now)] at hserves
  exact ⟨_, htext, hbackup, by decide +kernel, hserves.mpr (by decide +kernel)⟩

/-- Under a cap of zero a backup succeeds and is not there; behind a number that was given
before, another backup is there in its place. -/
theorem imported_backup_not_served :
    let now : Timestamp :=
      { year := 2024, month := 2, day := 29, hour := 23, minute := 59, second := 59,
        nanosecond := 120, offset := 0 }
    let live : Mount := ⟨0, .memory { name := "live", entries := .singleton "a" "1" }⟩
    (∃ s s', ofText? "\x7b\"max_versions\":0,\"backups\":\x7b\x7d\x7d" = some s ∧
      (s.backup live now).value = (.ok 1, s') ∧ s'.latest? "live" = none ∧
      s'.versions "live" = [] ∧ ¬ s'.Serves "live" ⟨1, now, .singleton "a" "1"⟩) ∧
    (∃ text s s', ofText? text = some s ∧ s.versions "live" = [2, 1] ∧
      (s.backup live now).value = (.ok 2, s') ∧ s'.version? "live" 2 = some ⟨2, now, ∅⟩ ∧
      s'.versions "live" = [2, 1, 2] ∧ ¬ s'.Serves "live" ⟨2, now, .singleton "a" "1"⟩) := by
  intro now live
  constructor
  · refine ⟨{ maxVersions := some 0 }, _, by decide +kernel, rfl, by decide +kernel,
      by decide +kernel, ?_⟩
    intro hserves
    exact absurd hserves.latest (by decide +kernel)
  · refine ⟨_, { backups := .singleton "live" [⟨2, now, ∅⟩, ⟨1, now, ∅⟩] }, _,
      ofText?_toText (portable_singleton nofun (by decide) rfl), rfl, rfl, by decide +kernel,
      by decide +kernel, ?_⟩
    intro hserves
    exact absurd hserves.once (by decide +kernel)

end LayeredConfig.BackupStore
