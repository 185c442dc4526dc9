import LayeredConfig.Proofs.Backup.Export
import LayeredConfig.Proofs.Backup.Store
import Mathlib.Data.List.Induction

/-!
# Backups over whole runs

However backups are taken, removed, exported and read again, the store has copies of the newest
snapshots of each source that were taken since it was last removed, as many as the cap leaves
room for, numbered from one in the order in which they were taken.
-/
namespace LayeredConfig.BackupStore

/-! ## Runs -/

/-- What is done to a store. A store that is reloaded is exported, and goes on as what is read
from the export. -/
inductive Operation where
  | backup (m : Mount) (now : Timestamp)
  | remove (name : String)
  | reload

namespace Operation

def perform (s : BackupStore) : Operation → Option BackupStore
  | backup m now => some (s.backup m now).value.2
  | remove name => some (s.remove name).1
  | reload => ofText? s.toText

/-- The operation is on a source of this name. -/
def concerns (name : String) : Operation → Bool
  | backup m _ => m.name == name
  | remove other => other == name
  | reload => false

/-- The snapshots of a source that were taken since it was last removed, after one more
operation. -/
def record (name : String) (taken : List Snapshot) : Operation → List Snapshot
  | backup m now =>
    match m.source.list with
    | .ok listed => if m.name = name then taken ++ [⟨now, listed⟩] else taken
    | .error _ => taken
  | remove other => if other = name then [] else taken
  | reload => taken

variable {m : Mount} {now : Timestamp} {name : String} {taken : List Snapshot}

theorem record_backup {listed : StringMap Property} (h : m.source.list = .ok listed) :
    (backup m now).record name taken
      = if m.name = name then taken ++ [⟨now, listed⟩] else taken := by
  simp only [record, h]

theorem record_failed {e : Error} (h : m.source.list = .error e) :
    (backup m now).record name taken = taken := by
  simp only [record, h]

theorem record_remove (other : String) :
    (remove other).record name taken = if other = name then [] else taken := rfl

theorem length_record_le (op : Operation) (name : String) (taken : List Snapshot) :
    (op.record name taken).length ≤ taken.length + 1 := by
  cases op with
  | backup m now =>
    cases hlist : m.source.list with
    | error e =>
      rw [record_failed hlist]
      exact Nat.le_succ _
    | ok listed =>
      rw [record_backup hlist]
      split <;> simp
  | remove other =>
    rw [record_remove]
    split <;> simp
  | reload => exact Nat.le_succ _

/-- Only a removal takes away what was recorded. -/
theorem prefix_record {op : Operation} (h : op ≠ .remove name) :
    taken <+: op.record name taken := by
  cases op with
  | backup m now =>
    cases hlist : m.source.list with
    | error e => exact ⟨[], by rw [List.append_nil, record_failed hlist]⟩
    | ok listed =>
      rw [record_backup hlist]
      split
      · exact List.prefix_append ..
      · exact List.prefix_refl taken
  | remove other =>
    have hother : other ≠ name := fun heq => h (congrArg remove heq)
    exact ⟨[], by rw [List.append_nil, record_remove, if_neg hother]⟩
  | reload => exact List.prefix_refl taken

end Operation

def run (s : BackupStore) (ops : List Operation) : Option BackupStore :=
  ops.foldlM Operation.perform s

/-- The snapshots of a source that were taken in a run since it was last removed. -/
def taken (ops : List Operation) (name : String) : List Snapshot :=
  ops.foldl (Operation.record name) []

theorem taken_concat (before : List Operation) (op : Operation) (name : String) :
    taken (before ++ [op]) name = op.record name (taken before name) :=
  List.foldl_concat ..

/-- A new store, with a cap or without one. -/
def create : Option Nat → BackupStore
  | some max => withMaxVersions max
  | none => empty

/-- Of how many of so many snapshots a new store with this cap keeps copies. -/
def room (cap : Option Nat) (count : Nat) : Nat :=
  match cap with
  | some limit => min count (max limit 1)
  | none => count

theorem room_le (cap : Option Nat) (count : Nat) : room cap count ≤ count := by
  cases cap with
  | none => exact Nat.le_refl count
  | some limit => exact Nat.min_le_left ..

theorem room_pos (cap : Option Nat) {count : Nat} (h : 0 < count) : 0 < room cap count := by
  cases cap with
  | none => exact h
  | some limit => exact Nat.lt_min.mpr ⟨h, Nat.le_max_right limit 1⟩

/-- No run takes more snapshots than it has operations. -/
theorem length_taken_le (ops : List Operation) (name : String) :
    (taken ops name).length ≤ ops.length := by
  have hfold : ∀ start : List Snapshot,
      (ops.foldl (Operation.record name) start).length ≤ start.length + ops.length := by
    induction ops with
    | nil => exact fun start => Nat.le_refl _
    | cons op ops ih =>
      intro start
      have hone := op.length_record_le name start
      have hrest := ih (op.record name start)
      rw [List.foldl_cons, List.length_cons]
      omega
  exact Nat.le_trans (hfold []) (by simp)

/-- A snapshot stands in its place until its source is removed. -/
theorem getElem?_taken {before after : List Operation} {m : Mount} {now : Timestamp}
    {listed : StringMap Property} (hlist : m.source.list = .ok listed)
    (hafter : .remove m.name ∉ after) :
    (taken (before ++ .backup m now :: after) m.name)[(taken before m.name).length]?
      = some ⟨now, listed⟩ := by
  have hprefix : ∀ start : List Snapshot,
      start <+: after.foldl (Operation.record m.name) start := by
    induction after with
    | nil => exact List.prefix_refl
    | cons op after ih =>
      intro start
      rw [List.mem_cons, not_or] at hafter
      exact (Operation.prefix_record (Ne.symm hafter.1)).trans (ih hafter.2 _)
  obtain ⟨later, hlater⟩ := hprefix ((Operation.backup m now).record m.name (taken before m.name))
  rw [Operation.record_backup hlist, if_pos rfl] at hlater
  unfold taken at hlater ⊢
  rw [List.foldl_append, List.foldl_cons, Operation.record_backup hlist, if_pos rfl, ← hlater]
  simp

/-! ## The newest backups -/

/-- The backups are numbered from a first number on. -/
def NumberedFrom (first : Nat) (bs : List Backup) : Prop :=
  bs.map (·.version) = List.range' first bs.length

theorem NumberedFrom.concat {first : Nat} {bs : List Backup} (h : NumberedFrom first bs)
    {b : Backup} (hb : b.version = first + bs.length) : NumberedFrom first (bs ++ [b]) := by
  unfold NumberedFrom at h ⊢
  simp [h, hb, List.range'_concat]

theorem NumberedFrom.drop {first : Nat} {bs : List Backup} (h : NumberedFrom first bs)
    (count : Nat) : NumberedFrom (first + count) (bs.drop count) := by
  unfold NumberedFrom at h ⊢
  rw [List.map_drop, h, List.length_drop, List.drop_range']
  simp

theorem NumberedFrom.find? {first : Nat} {bs : List Backup} (h : NumberedFrom first bs)
    (version : Nat) :
    bs.find? (·.version == version)
      = if first ≤ version then bs[version - first]? else none := by
  induction bs generalizing first with
  | nil => simp
  | cons b bs ih =>
    unfold NumberedFrom at h
    rw [List.map_cons, List.length_cons, List.range'_succ] at h
    obtain ⟨hb, hbs⟩ := List.cons.inj h
    rw [List.find?_cons, ih hbs, hb]
    -- The number is the first one, or one after it, or one that comes before all.
    by_cases hversion : version = first
    · simp [hversion]
    · rw [beq_false_of_ne (Ne.symm hversion)]
      by_cases hle : first ≤ version
      · have hplace : version - first = version - (first + 1) + 1 := by omega
        rw [if_pos hle, if_pos (by omega), hplace]
        rfl
      · rw [if_neg hle, if_neg (by omega)]

theorem nextVersion_prune {cap : Option Nat} (hcap : cap ≠ some 0) {bs : List Backup}
    (h : NumberedFrom 1 bs) (hroom : bs.length + 1 < Nat.pow 2 64) :
    nextVersion (prune cap bs) = bs.length + 1 := by
  unfold nextVersion
  rw [getLast?_prune hcap]
  have hlast : bs.getLast?.map (·.version) = (List.range' 1 bs.length).getLast? := by
    rw [← h, List.getLast?_map]
  rw [List.getLast?_range'] at hlast
  cases hb : bs.getLast? with
  | none =>
    rw [List.getLast?_eq_none_iff.mp hb]
    rfl
  | some b =>
    rw [hb, Option.map_some] at hlast
    split at hlast
    · cases hlast
    · next hne =>
      have hversion : b.version + 1 = bs.length + 1 := by
        have hlength : b.version = 1 + bs.length - 1 := by simpa using hlast
        omega
      dsimp only
      rw [hversion, Nat.mod_eq_of_lt hroom]

/-! ## Copies of snapshots -/

/-- Backups of all snapshots, numbered in their order. -/
def copies (ts : List Snapshot) : List Backup :=
  ts.mapIdx fun i t => ⟨i + 1, t.takenAt, texts t.listed⟩

@[simp] theorem length_copies (ts : List Snapshot) : (copies ts).length = ts.length :=
  List.length_mapIdx

theorem copies_concat (ts : List Snapshot) (t : Snapshot) :
    copies (ts ++ [t]) = copies ts ++ [⟨ts.length + 1, t.takenAt, texts t.listed⟩] :=
  List.mapIdx_concat

theorem numberedFrom_copies (ts : List Snapshot) : NumberedFrom 1 (copies ts) := by
  induction ts using List.reverseRecOn with
  | nil => rfl
  | append_singleton ts t ih =>
    rw [copies_concat]
    exact ih.concat (by rw [length_copies, Nat.add_comm])

theorem getElem?_copies {ts : List Snapshot} {i : Nat} {b : Backup}
    (h : (copies ts)[i]? = some b) : ∃ t, ts[i]? = some t ∧ b.Copies (i + 1) t := by
  rw [copies, List.getElem?_mapIdx, Option.map_eq_some_iff] at h
  obtain ⟨t, ht, rfl⟩ := h
  exact ⟨t, ht, Backup.copies_texts (i + 1) t⟩

/-! ## What a store keeps -/

/-- Of the snapshots that were taken, the store keeps copies of the newest. -/
structure KeepsNewest (cap : Option Nat) (taken : String → List Snapshot) (s : BackupStore) :
    Prop where
  maxVersions : s.maxVersions = (create cap).maxVersions
  backups : ∀ name, s.backups.get? name
    = if taken name = [] then none else some (prune s.maxVersions (copies (taken name)))

theorem create_ne_zero (cap : Option Nat) : (create cap).maxVersions ≠ some 0 := by
  cases cap with
  | none => nofun
  | some max => exact withMaxVersions_ne_zero max

theorem prune_create (cap : Option Nat) (bs : List Backup) :
    prune (create cap).maxVersions bs = bs.drop (bs.length - room cap bs.length) := by
  cases cap with
  | none => simp [create, empty, prune, room]
  | some limit =>
    change bs.drop (bs.length - max limit 1) = bs.drop (bs.length - min bs.length (max limit 1))
    congr 1
    omega

theorem keepsNewest_create (cap : Option Nat) : (create cap).KeepsNewest cap fun _ => [] where
  maxVersions := rfl
  backups := by
    intro name
    cases cap <;> rfl

namespace KeepsNewest

variable {cap : Option Nat} {taken : String → List Snapshot} {s : BackupStore}

theorem ofSource (h : s.KeepsNewest cap taken) (name : String) :
    s.ofSource name = prune s.maxVersions (copies (taken name)) := by
  unfold BackupStore.ofSource
  rw [h.backups]
  split
  · next hnil =>
    rw [hnil]
    exact (prune_nil _).symm
  · rfl

theorem ofSource_eq_drop (h : s.KeepsNewest cap taken) (name : String) :
    s.ofSource name
      = (copies (taken name)).drop ((taken name).length - room cap (taken name).length) := by
  rw [h.ofSource, h.maxVersions, prune_create, length_copies]

theorem ne_zero (h : s.KeepsNewest cap taken) : s.maxVersions ≠ some 0 := by
  rw [h.maxVersions]
  exact create_ne_zero cap

theorem nextVersion (h : s.KeepsNewest cap taken) {name : String}
    (hroom : (taken name).length + 1 < Nat.pow 2 64) :
    nextVersion (s.ofSource name) = (taken name).length + 1 := by
  rw [← length_copies] at hroom ⊢
  rw [h.ofSource]
  exact nextVersion_prune h.ne_zero (numberedFrom_copies _) hroom

theorem portable (h : s.KeepsNewest cap taken) (hcap : ∀ max, cap = some max → max < 2 ^ 64)
    (htaken : ∀ name, (taken name).length < 2 ^ 64) : s.Portable where
  cap := by
    intro max hmax
    rw [h.maxVersions] at hmax
    cases cap with
    | none => cases hmax
    | some bound =>
      cases hmax
      exact Nat.max_lt.mpr ⟨hcap bound rfl, by decide⟩
  versions := by
    intro name b hb
    rw [h.ofSource] at hb
    have hversion : b.version ∈ (copies (taken name)).map (·.version) :=
      List.mem_map_of_mem (prune_subset _ _ hb)
    rw [numberedFrom_copies (taken name), List.mem_range'_1, length_copies] at hversion
    have hlength := htaken name
    omega
  pruned := by
    intro name
    rw [h.ofSource, prune_prune]

/-! ### Inspection -/

theorem versions_eq (h : s.KeepsNewest cap taken) (name : String) :
    s.versions name
      = List.range' ((taken name).length - room cap (taken name).length + 1)
          (room cap (taken name).length) := by
  have hroom := room_le cap (taken name).length
  have hdrop := (numberedFrom_copies (taken name)).drop
    ((taken name).length - room cap (taken name).length)
  unfold NumberedFrom at hdrop
  rw [versions, h.ofSource_eq_drop, hdrop, List.length_drop, length_copies, Nat.add_comm 1]
  congr 1
  omega

theorem version?_eq (h : s.KeepsNewest cap taken) (name : String) (version : Nat) :
    s.version? name version
      = if version ∈ s.versions name then (copies (taken name))[version - 1]? else none := by
  have hroom := room_le cap (taken name).length
  have hmem : version ∈ s.versions name ↔
      1 + ((taken name).length - room cap (taken name).length) ≤ version
        ∧ version ≤ (taken name).length := by
    rw [h.versions_eq, List.mem_range'_1]
    omega
  rw [version?, h.ofSource_eq_drop, ((numberedFrom_copies (taken name)).drop _).find?,
    List.getElem?_drop]
  by_cases hfirst : 1 + ((taken name).length - room cap (taken name).length) ≤ version
  · rw [if_pos hfirst, Nat.sub_add_eq, Nat.add_sub_cancel' (by omega)]
    split
    · rfl
    · next hversion =>
      rw [hmem, not_and] at hversion
      have hbeyond := hversion hfirst
      exact List.getElem?_eq_none (by rw [length_copies]; omega)
  · rw [if_neg hfirst, if_neg fun hversion => hfirst (hmem.mp hversion).1]

/-- A number that the store has is that of a copy of the snapshot in its place. -/
theorem exists_copies (h : s.KeepsNewest cap taken) {name : String} {version : Nat}
    (hversion : version ∈ s.versions name) :
    ∃ b t, s.version? name version = some b ∧ (taken name)[version - 1]? = some t ∧
      b.Copies version t := by
  have hmem := hversion
  rw [h.versions_eq, List.mem_range'_1] at hmem
  have hroom := room_le cap (taken name).length
  have hlt : version - 1 < (copies (taken name)).length := by
    rw [length_copies]
    omega
  have hplace := List.getElem?_eq_getElem hlt
  obtain ⟨t, ht, hcopies⟩ := getElem?_copies hplace
  rw [Nat.sub_add_cancel (by omega)] at hcopies
  exact ⟨_, t, by rw [h.version?_eq, if_pos hversion, hplace], ht, hcopies⟩

/-- The latest backup has the number of the last snapshot. -/
theorem latest?_eq (h : s.KeepsNewest cap taken) (name : String) :
    s.latest? name = s.version? name (taken name).length := by
  have hlatest : s.latest? name = (copies (taken name))[(taken name).length - 1]? := by
    rw [latest?, h.ofSource, getLast?_prune h.ne_zero, List.getLast?_eq_getElem?, length_copies]
  rw [h.version?_eq]
  split
  · exact hlatest
  · next hversion =>
    -- There is always room for the last snapshot, so there is none.
    have hnone : (taken name).length = 0 := by
      by_contra hsome
      have hroom := room_pos cap (Nat.pos_of_ne_zero hsome)
      rw [h.versions_eq, List.mem_range'_1] at hversion
      omega
    rw [hlatest]
    exact List.getElem?_eq_none (by rw [length_copies]; omega)

/-! ### Operations -/

/-- A call is answered with the next number. -/
theorem value_backup (h : s.KeepsNewest cap taken) {m : Mount} (now : Timestamp)
    {listed : StringMap Property} (hlist : m.source.list = .ok listed)
    (hroom : (taken m.name).length + 1 < Nat.pow 2 64) :
    (s.backup m now).value.1 = .ok ((taken m.name).length + 1) := by
  rw [BackupStore.value_backup, hlist]
  exact congrArg Except.ok (h.nextVersion hroom)

/-- What one operation makes of a store. -/
theorem perform (h : s.KeepsNewest cap taken) (hcap : ∀ max, cap = some max → max < 2 ^ 64)
    (op : Operation) (htaken : ∀ name, (op.record name (taken name)).length < 2 ^ 64) :
    ∃ s', op.perform s = some s' ∧ s'.KeepsNewest cap fun name => op.record name (taken name) := by
  cases op with
  | backup m now =>
    refine ⟨_, rfl, ?_⟩
    rw [BackupStore.value_backup]
    cases hlist : m.source.list with
    | error e =>
      simp only [Operation.record_failed hlist]
      exact h
    | ok listed =>
      have hroom := htaken m.name
      rw [Operation.record_backup hlist, if_pos rfl, List.length_append] at hroom
      simp only [Operation.record_backup hlist]
      refine ⟨h.maxVersions, ?_⟩
      intro name
      unfold push
      rw [StringMap.get?_insert]
      by_cases hname : name = m.name
      · subst hname
        -- What was pruned before makes no difference to the number nor to what is pruned now.
        rw [if_pos rfl, if_pos rfl, if_neg (by simp), h.nextVersion hroom, h.ofSource,
          prune_prune_concat h.ne_zero, copies_concat]
      · rw [if_neg hname, if_neg (Ne.symm hname)]
        exact h.backups name
  | remove other =>
    refine ⟨_, rfl, h.maxVersions, ?_⟩
    intro name
    unfold BackupStore.remove
    rw [Operation.record_remove, StringMap.get?_erase]
    by_cases hname : name = other
    · rw [if_pos hname, if_pos hname.symm, if_pos rfl]
    · rw [if_neg hname, if_neg (Ne.symm hname)]
      exact h.backups name
  | reload => exact ⟨s, ofText?_toText (h.portable hcap htaken), h⟩

theorem run (h : s.KeepsNewest cap taken) (hcap : ∀ max, cap = some max → max < 2 ^ 64)
    (ops : List Operation) (htaken : ∀ before, before <+: ops → ∀ name,
      (before.foldl (Operation.record name) (taken name)).length < 2 ^ 64) :
    ∃ s', s.run ops = some s' ∧
      s'.KeepsNewest cap fun name => ops.foldl (Operation.record name) (taken name) := by
  induction ops generalizing s taken with
  | nil => exact ⟨s, rfl, h⟩
  | cons op ops ih =>
    obtain ⟨s', hs', h'⟩ := h.perform hcap op (htaken [op] ⟨ops, rfl⟩)
    obtain ⟨s'', hs'', h''⟩ := ih h' fun before hbefore =>
      htaken (op :: before) (List.cons_prefix_cons.mpr ⟨rfl, hbefore⟩)
    refine ⟨s'', ?_, h''⟩
    unfold BackupStore.run at hs'' ⊢
    rw [List.foldlM_cons, hs']
    exact hs''

end KeepsNewest

/-! ## What a store tells -/

/-- What a store tells after a run, held against the snapshots that were taken in it. -/
structure Tells (cap : Option Nat) (ops : List Operation) (s : BackupStore) : Prop where
  /-- The numbers end with that of the last snapshot. -/
  versions : ∀ name, s.versions name
    = List.range' ((taken ops name).length - room cap (taken ops name).length + 1)
        (room cap (taken ops name).length)
  /-- Each call that listed its source was answered with the number of its snapshot, which stands
  in this place until the source is removed. -/
  answered : ∀ before m now after listed, ops = before ++ .backup m now :: after →
    m.source.list = .ok listed →
    (∃ earlier, (create cap).run before = some earlier ∧
      (earlier.backup m now).value.1 = .ok ((taken before m.name).length + 1)) ∧
    (.remove m.name ∉ after →
      (taken ops m.name)[(taken before m.name).length]? = some ⟨now, listed⟩)
  version : ∀ name, ∀ number ∈ s.versions name, ∃ b t,
    s.version? name number = some b ∧ (taken ops name)[number - 1]? = some t ∧ b.Copies number t
  missing : ∀ name, ∀ number ∉ s.versions name, s.version? name number = none
  latest : ∀ name, s.latest? name = s.version? name (taken ops name).length
  sourceNames : ∀ name, name ∈ s.sourceNames ↔ taken ops name ≠ []
  failed : ∀ m now e, m.source.list = .error e → (s.backup m now).value = (.error e, s)
  reload : ofText? s.toText = some s
  others : ∀ (op : Operation) (s' : BackupStore), op.perform s = some s' →
    ∀ name, op.concerns name = false → s'.backups.get? name = s.backups.get? name

/-- An operation leaves alone what is kept of other sources. -/
theorem Operation.get?_perform {s s' : BackupStore} (hreload : ofText? s.toText = some s)
    {op : Operation} (hop : op.perform s = some s') {name : String}
    (hname : op.concerns name = false) : s'.backups.get? name = s.backups.get? name := by
  cases op with
  | backup m now =>
    cases hop
    rw [BackupStore.value_backup]
    cases m.source.list with
    | error e => rfl
    | ok listed =>
      exact (StringMap.get?_insert ..).trans (if_neg (Ne.symm (ne_of_beq_false hname)))
  | remove other =>
    cases hop
    exact (StringMap.get?_erase ..).trans (if_neg (Ne.symm (ne_of_beq_false hname)))
  | reload =>
    rw [perform, hreload] at hop
    cases hop
    rfl

section Runs

variable {cap : Option Nat} {ops : List Operation}
  (hcap : ∀ max, cap = some max → max < 2 ^ 64)
  (hversions : ∀ before, before <+: ops → ∀ name, (taken before name).length < 2 ^ 64)
include hcap hversions

theorem exists_run_keepsNewest :
    ∃ s, (create cap).run ops = some s ∧ s.KeepsNewest cap (taken ops) :=
  (keepsNewest_create cap).run hcap ops hversions

theorem exists_run_answered {before after : List Operation} {m : Mount} {now : Timestamp}
    (hops : ops = before ++ .backup m now :: after) {listed : StringMap Property}
    (hlist : m.source.list = .ok listed) :
    ∃ s, (create cap).run before = some s ∧
      (s.backup m now).value.1 = .ok ((taken before m.name).length + 1) := by
  have hbefore : before <+: ops := ⟨_, hops.symm⟩
  obtain ⟨s, hs, h⟩ := exists_run_keepsNewest hcap fun earlier hearlier =>
    hversions earlier (hearlier.trans hbefore)
  -- With this call the snapshots still are no more than there are numbers.
  have hroom := hversions (before ++ [.backup m now]) ⟨after, by simp [hops]⟩ m.name
  rw [taken_concat, Operation.record_backup hlist, if_pos rfl, List.length_append] at hroom
  exact ⟨s, hs, h.value_backup now hlist hroom⟩

end Runs

/-- Whatever is done to a new store, in whatever order, for whichever sources: the run comes
to its end, with every export read again, and the store tells of just the snapshots that were
taken. Caps and versions are numbers of 64 bits. -/
theorem exists_run_tells (cap : Option Nat) (ops : List Operation)
    (hcap : ∀ max, cap = some max → max < 2 ^ 64)
    (hversions : ∀ before, before <+: ops → ∀ name, (taken before name).length < 2 ^ 64) :
    ∃ s, (create cap).run ops = some s ∧ s.Tells cap ops := by
  obtain ⟨s, hs, h⟩ := exists_run_keepsNewest hcap hversions
  have hreload : ofText? s.toText = some s :=
    ofText?_toText (h.portable hcap (hversions ops (List.prefix_refl ops)))
  refine ⟨s, hs, ?_⟩
  exact {
    versions := h.versions_eq
    answered := fun before m now after listed hops hlist =>
      ⟨exists_run_answered hcap hversions hops hlist, hops ▸ getElem?_taken hlist⟩
    version := fun _ _ => h.exists_copies
    missing := fun name number hnumber => by rw [h.version?_eq, if_neg hnumber]
    latest := h.latest?_eq
    sourceNames := by
      intro name
      rw [BackupStore.sourceNames, StringMap.mem_keys_iff, h.backups]
      split <;> simp_all
    failed := by
      intro m now e hlist
      rw [value_backup, hlist]
    reload := hreload
    others := fun _ _ hop _ hname => Operation.get?_perform hreload hop hname }

/-- A source with a property without a text, backed up three times with a reload in between;
another one that cannot be listed, and a third that was removed again; a cap of two. -/
theorem run_tells_after_reload :
    let now : Timestamp :=
      { year := 2024, month := 2, day := 29, hour := 23, minute := 59, second := 59,
        nanosecond := 120, offset := -90 }
    let listing (text : String) : StringMap Property :=
      .ofList [("a", .text "a" text "live"), ("gone", .null "gone" "live")]
    let live (text : String) : Mount :=
      ⟨0, .custom { name := "live", content := listing text }⟩
    let broken : Mount :=
      ⟨1, .custom { name := "broken", list := fun _ => .error (.source "broken" "unreachable") }⟩
    let other : Mount := ⟨2, .memory { name := "other" }⟩
    let ops : List Operation :=
      [.backup (live "1") now, .backup broken now, .backup (live "2") now, .backup other now,
        .reload, .backup (live "3") now, .remove "other", .reload]
    ∃ s, (create (some 2)).run ops = some s ∧ s.Tells (some 2) ops ∧
      s.versions "live" = [2, 3] ∧
      s.latest? "live" = some ⟨3, now, .singleton "a" "3"⟩ ∧
      "broken" ∉ s.sourceNames ∧ "other" ∉ s.sourceNames := by
  intro now listing live broken other ops
  have hcap : ∀ max, some 2 = some max → max < 2 ^ 64 := fun max hmax =>
    Option.some.inj hmax ▸ by decide
  have hversions : ∀ before, before <+: ops → ∀ name, (taken before name).length < 2 ^ 64 := by
    intro before hbefore name
    refine Nat.lt_of_le_of_lt (length_taken_le before name) ?_
    exact Nat.lt_of_le_of_lt hbefore.length_le (by decide)
  obtain ⟨s, hs, htells⟩ := exists_run_tells (some 2) ops hcap hversions
  have htaken : taken ops "live"
      = [⟨now, listing "1"⟩, ⟨now, listing "2"⟩, ⟨now, listing "3"⟩] := rfl
  have hnumbers : s.versions "live" = [2, 3] := by
    rw [htells.versions, htaken]
    rfl
  obtain ⟨b, t, hversion, ht, hcopies⟩ := htells.version "live" 3 (by simp [hnumbers])
  rw [htaken] at ht
  cases ht
  have hlisted : Backup.Copies ⟨3, now, .singleton "a" "3"⟩ 3 ⟨now, listing "3"⟩ := by
    refine ⟨rfl, rfl, ?_⟩
    intro key
    simp only [listing, StringMap.ofList, StringMap.insertAll, StringMap.singleton,
      List.foldl_cons, List.foldl_nil, StringMap.get?_insert]
    by_cases hgone : key = "gone"
    · rw [if_pos hgone, hgone]
      rfl
    · rw [if_neg hgone]
      split <;> rfl
  refine ⟨s, hs, htells, hnumbers, ?_, ?_, ?_⟩
  · rw [htells.latest, htaken]
    exact hversion.trans (congrArg some (hcopies.unique hlisted))
  · rw [htells.sourceNames]
    decide +kernel
  · rw [htells.sourceNames]
    decide +kernel

end LayeredConfig.BackupStore
