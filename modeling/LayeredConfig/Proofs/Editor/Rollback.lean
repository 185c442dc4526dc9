import LayeredConfig.Proofs.Backup.Store
import LayeredConfig.Proofs.Editor.Store

/-!
# Rolling a store back

A store backs every source up before the first change, and changes a memory source in its
texts alone. So restoring the latest backups, in whatever order and however often, undoes the
store; a source that refuses to be restored has refused the change as well.
-/
namespace LayeredConfig

/-! ## Backups before a store -/

namespace Editor

variable {now : Timestamp} {s : BackupStore} {ms : List Mount}

theorem value_backupAll_cons (m : Mount) :
    (backupAll now (m :: ms) s).value = (backupAll now ms (s.backup m now).value.2).value := by
  rw [backupAll, Journaled.value_bind]
  rcases (s.backup m now).value with ⟨_ | _, _⟩ <;> rfl

theorem latest?_backupAll_of_not_mem {name : String} (h : name ∉ ms.map Mount.name) :
    (backupAll now ms s).value.latest? name = s.latest? name := by
  induction ms generalizing s with
  | nil => rfl
  | cons m ms ih =>
    rw [List.map_cons, List.mem_cons, not_or] at h
    rw [value_backupAll_cons, ih h.2, BackupStore.latest?, s.ofSource_backup_of_ne m now h.1]
    rfl

/-- Of sources of different names, each one that can be listed has just been backed up. -/
theorem latest?_backupAll (hcap : s.maxVersions ≠ some 0) (hnames : (ms.map Mount.name).Nodup)
    {m : Mount} (hm : m ∈ ms) {listed : StringMap Property}
    (hlist : m.source.list = .ok listed) :
    ∃ version, (backupAll now ms s).value.latest? m.name
      = some ⟨version, now, BackupStore.texts listed⟩ := by
  induction ms generalizing s with
  | nil => cases hm
  | cons n ns ih =>
    obtain ⟨hn, htail⟩ := List.nodup_cons.mp hnames
    rw [value_backupAll_cons]
    rcases List.mem_cons.mp hm with rfl | hm
    · exact ⟨_, (latest?_backupAll_of_not_mem hn).trans (s.latest?_backup hcap hlist now)⟩
    · exact ih (by rwa [s.maxVersions_backup]) htail hm

/-! ## What a store does to sources and backups -/

variable {L : Type} {e : Editor L} {c : Configuration} {σ : Sources} {b : BackupStore}
  {stamp : Stamp}

/-- A store that is not refused backs up, and then propagates. -/
theorem value_store_of_ok {outcome : Outcome} (hrequest : e.request.isEmpty = false)
    (hok : (e.store c σ (some b) stamp).value.result = .ok outcome) :
    (e.store c σ (some b) stamp).value.backups
        = some (backupAll stamp.time (c.registry.mutableMounts σ) b).value ∧
    (e.store c σ (some b) stamp).value.sources
        = (e.policy.propagate e.request (c.registry.mutableMounts σ) σ).value.2 := by
  obtain ⟨hbackups, -, hsources, -⟩ := value_store_of_not_isEmpty hrequest hok
  exact ⟨hbackups, hsources⟩

end Editor

/-! ## Memory sources rewritten -/

/-- The source differs from another one in its texts at most, and not if it is read-only. -/
def MemorySource.Rewritten (s t : MemorySource) : Prop :=
  t = { s with entries := t.entries } ∧ (s.readOnly = true → t = s)

theorem MemorySource.Rewritten.refl (s : MemorySource) : s.Rewritten s := ⟨rfl, fun _ => rfl⟩

theorem Source.after_memory (s : MemorySource) (r : ChangeRequest) :
    ∃ t, (Source.memory s).after r = .memory t ∧ s.Rewritten t := by
  cases hreadOnly : s.readOnly with
  | true =>
    refine ⟨s, ?_, .refl s⟩
    simp [after, change, MemorySource.change, hreadOnly, Except.map, Except.toOption]
  | false =>
    exact ⟨_, after_writable hreadOnly r, rfl, by simp [hreadOnly]⟩

/-- A rewritten source takes its old texts back, or never lost them. -/
theorem MemorySource.Rewritten.replace {s t : MemorySource} (h : s.Rewritten t) :
    (Source.memory t).replace s.entries = .ok (.memory s) ∨
    (t = s ∧ ∃ error, (Source.memory t).replace s.entries = .error error) := by
  obtain ⟨htexts, hlocked⟩ := h
  cases hreadOnly : s.readOnly with
  | true =>
    obtain rfl := hlocked hreadOnly
    refine .inr ⟨rfl, t.rejection, ?_⟩
    simp [Source.replace, MemorySource.replace, hreadOnly, Except.map]
  | false =>
    refine .inl ?_
    have hopen : t.readOnly = false := by rw [htexts, ← hreadOnly]
    have hback : t.replace s.entries = .ok s := by
      unfold MemorySource.replace
      rw [if_neg (ne_true_of_eq_false hopen), htexts]
    exact congrArg (Except.map Source.memory) hback

/-- Of all sources, the targets alone are rewritten; they are memory sources. -/
structure Sources.Rewritten (σ : Sources) (targets : List Mount) (τ : Sources) : Prop where
  rewritten : ∀ m ∈ targets, ∃ s t, m.source = .memory s ∧
    τ.get? m.id = some (.memory t) ∧ s.Rewritten t
  others : ∀ id, id ∉ targets.map Mount.id → τ.get? id = σ.get? id

theorem Accounted.rewritten {p : Policy} {r : ChangeRequest} {targets : List Mount} {σ : Sources}
    {x : Journaled (Outcome × Sources)} (h : Accounted p r targets σ x)
    (hmounted : Errand.Mounted targets σ) (hids : (targets.map Mount.id).Nodup)
    (hmemory : ∀ m ∈ targets, ∃ s, m.source = .memory s) : σ.Rewritten targets x.value.2 where
  rewritten := by
    intro m hm
    obtain ⟨s, hs⟩ := hmemory m hm
    rw [h.get?_eq hmounted hids hm, hs]
    split
    · obtain ⟨t, hafter, hrewritten⟩ := Source.after_memory s (p.share r targets m)
      exact ⟨s, t, rfl, by rw [hafter], hrewritten⟩
    · exact ⟨s, s, rfl, rfl, .refl s⟩
  others := fun _ => h.get?_of_not_mem

/-! ## Restoring -/

namespace BackupStore

/-- Restore the latest backup of each source, whatever comes of the others. -/
def restoreAll (b : BackupStore) (ms : List Mount) (σ : Sources) : Journaled Sources :=
  ms.foldlM (fun σ m => do return (← b.restoreInto m none σ).2) σ

variable {b : BackupStore} {σ τ : Sources}

/-- A source that has been rewritten, and whose latest backup is of what it held before. -/
structure Restorable (b : BackupStore) (σ τ : Sources) (m : Mount) (s t : MemorySource) : Prop where
  original : σ.get? m.id = some (.memory s)
  current : τ.get? m.id = some (.memory t)
  rewritten : s.Rewritten t
  backed_up : ∃ version takenAt, b.latest? m.name = some ⟨version, takenAt, s.entries⟩

theorem get?_restoreInto {m : Mount} {s t : MemorySource} (h : b.Restorable σ τ m s t)
    (id : SourceId) :
    (b.restoreInto m none τ).value.2.get? id = if id = m.id then σ.get? id else τ.get? id := by
  obtain ⟨version, takenAt, hlatest⟩ := h.backed_up
  have hreplace := Sources.value_replace h.current s.entries
  have hvalue : (b.restoreInto m none τ).value.2 = (τ.replace m.id s.entries).value.2 := by
    simp only [restoreInto, find?, hlatest, Journaled.value_bind]
    rcases (τ.replace m.id s.entries).value with ⟨_ | _, _⟩ <;> rfl
  rw [hvalue, hreplace]
  rcases h.rewritten.replace with hok | ⟨rfl, error, herror⟩
  · rw [hok]
    by_cases hid : id = m.id
    · rw [if_pos hid, hid, h.original]
      exact Sources.get?_set_self h.current _
    · rw [if_neg hid]
      exact Sources.get?_set_of_ne hid _
  · rw [herror]
    by_cases hid : id = m.id
    · rw [if_pos hid, hid, h.original]
      exact h.current
    · rw [if_neg hid]

theorem get?_restoreAll {ms : List Mount} (h : ∀ m ∈ ms, ∃ s t, b.Restorable σ τ m s t)
    (id : SourceId) :
    (b.restoreAll ms τ).value.get? id
      = if id ∈ ms.map Mount.id then σ.get? id else τ.get? id := by
  induction ms generalizing τ with
  | nil => simp [restoreAll]
  | cons m ms ih =>
    obtain ⟨s, t, hm⟩ := h m List.mem_cons_self
    have hstep := get?_restoreInto hm
    -- The others can still be restored, and so can this one, should it come again.
    have hrest : ∀ n ∈ ms, ∃ s t, b.Restorable σ (b.restoreInto m none τ).value.2 n s t := by
      intro n hn
      obtain ⟨s', t', hn⟩ := h n (List.mem_cons_of_mem m hn)
      by_cases hid : n.id = m.id
      · exact ⟨s', s', hn.original, by rw [hstep, if_pos hid, hn.original], .refl s', hn.backed_up⟩
      · have hcurrent : (b.restoreInto m none τ).value.2.get? n.id = some (.memory t') := by
          rw [hstep, if_neg hid, hn.current]
        exact ⟨s', t', hn.original, hcurrent, hn.rewritten, hn.backed_up⟩
    have htail := ih hrest
    unfold restoreAll at htail ⊢
    rw [List.foldlM_cons, Journaled.value_bind]
    refine htail.trans ?_
    rw [hstep]
    by_cases hid : id = m.id
    · simp [hid]
    · simp [hid]

end BackupStore

/-! ## Rollback -/

variable {c : Configuration} {σ τ : Sources} {b : BackupStore}

/-- Whichever sources take changes after a rewriting, they took changes before it. -/
theorem Sources.Rewritten.exists_target (h : σ.Rewritten (c.registry.mutableMounts σ) τ)
    {m : Mount} (hm : m ∈ c.registry.mutableMounts τ) :
    ∃ n ∈ c.registry.mutableMounts σ, n.id = m.id ∧ n.name = m.name := by
  obtain ⟨hid, hsource, hmutable⟩ := Registry.mem_mutableMounts.mp hm
  by_cases htarget : m.id ∈ (c.registry.mutableMounts σ).map Mount.id
  · obtain ⟨n, hn, hnid⟩ := List.mem_map.mp htarget
    obtain ⟨s, t, hs, ht, hrewritten⟩ := h.rewritten n hn
    have hmt : m.source = .memory t := Option.some.inj (by rw [← hsource, ← hnid, ht])
    refine ⟨n, hn, hnid, ?_⟩
    unfold Mount.name
    rw [hs, hmt]
    exact (congrArg MemorySource.name hrewritten.1).symm
  · rw [h.others m.id htarget] at hsource
    exact ⟨m, Registry.mem_mutableMounts.mpr ⟨hid, hsource, hmutable⟩, rfl, rfl⟩

/-- Sources that were rewritten become what they were, once every one of them that takes
changes has been restored to a latest backup from before. -/
theorem Sources.Rewritten.restoreAll (h : σ.Rewritten (c.registry.mutableMounts σ) τ)
    (hlatest : ∀ m ∈ c.registry.mutableMounts σ, ∀ s, m.source = .memory s →
      ∃ version takenAt, b.latest? m.name = some ⟨version, takenAt, s.entries⟩)
    {order : List Mount} (horder : ∀ m, m ∈ order ↔ m ∈ c.registry.mutableMounts τ) :
    (b.restoreAll order τ).value = σ := by
  have hrestorable : ∀ m ∈ order, ∃ s t, b.Restorable σ τ m s t := by
    intro m hm
    obtain ⟨n, hn, hid, hname⟩ := h.exists_target ((horder m).mp hm)
    obtain ⟨s, t, hs, ht, hrewritten⟩ := h.rewritten n hn
    refine ⟨s, t, ?_, ?_, hrewritten, ?_⟩
    · rw [← hs, ← hid]
      exact (Registry.mem_mutableMounts.mp hn).2.1
    · rw [← ht, hid]
    · rw [← hname]
      exact hlatest n hn s hs
  apply Sources.ext_get?
  intro id
  rw [BackupStore.get?_restoreAll hrestorable]
  split
  · rfl
  · next hid =>
    -- A source that was rewritten takes changes still, and is in the order.
    apply h.others
    intro htarget
    obtain ⟨n, hn, rfl⟩ := List.mem_map.mp htarget
    obtain ⟨s, t, -, ht, -⟩ := h.rewritten n hn
    refine hid (List.mem_map.mpr ⟨⟨n.id, .memory t⟩, ?_, rfl⟩)
    exact (horder _).mpr
      (Registry.mem_mutableMounts.mpr ⟨(Registry.mem_mutableMounts.mp hn).1, ht, rfl⟩)

/-- After a store that is not refused, restoring the latest backup of every source that takes
changes, in any order, leaves all sources as they were before it: under every policy,
whichever sources failed, whatever backups were taken earlier, and under any cap. -/
theorem restoreAll_store {L : Type} {e : Editor L} {stamp : Stamp} {outcome : Outcome}
    (hc : c.Reachable σ)
    (hmemory : ∀ m ∈ c.registry.mutableMounts σ, ∃ s, m.source = .memory s)
    (hcap : b.maxVersions ≠ some 0) (hrequest : e.request.isEmpty = false)
    (hok : (e.store c σ (some b) stamp).value.result = .ok outcome) :
    let stored := (e.store c σ (some b) stamp).value
    ∃ b', stored.backups = some b' ∧ ∀ order : List Mount,
      (∀ m, m ∈ order ↔ m ∈ c.registry.mutableMounts stored.sources) →
      (b'.restoreAll order stored.sources).value = σ := by
  intro stored
  obtain ⟨hbackups, hsources⟩ := Editor.value_store_of_ok hrequest hok
  have hnames := hc.sound.nodup_names_mutableMounts
  have hmounted : Errand.Mounted (c.registry.mutableMounts σ) σ := fun m hm =>
    (Registry.mem_mutableMounts.mp hm).2.1
  have hrewritten : σ.Rewritten (c.registry.mutableMounts σ) stored.sources := by
    rw [show stored.sources = _ from hsources]
    exact (accounted_propagate e.policy e.request hmounted hnames).rewritten hmounted
      (nodup_ids hmounted hnames) hmemory
  refine ⟨_, hbackups, ?_⟩
  intro order horder
  refine hrewritten.restoreAll ?_ horder
  intro m hm s hs
  have hlist : m.source.list = .ok s.list := by rw [hs]; rfl
  obtain ⟨version, hlatest⟩ := Editor.latest?_backupAll hcap hnames hm hlist
  exact ⟨version, stamp.time, by rw [hlatest, s.texts_list]⟩

/-- One source is changed and another one refuses, with room for one backup of each. -/
theorem restoreAll_store_of_refusal :
    let time : Timestamp :=
      { year := 2024, month := 2, day := 29, hour := 0, minute := 0, second := 0,
        nanosecond := 0, offset := 0 }
    let σ : Sources :=
      ⟨#[.memory { name := "live", entries := .singleton "a" "1" },
         .memory { name := "locked", readOnly := true, entries := .singleton "a" "2" }]⟩
    let c : Configuration := { registry := (Registry.empty.withSources (σ.mounts [0, 1])).value }
    let b := (BackupStore.withMaxVersions 1).push "live" time (.singleton "a" "0")
    let e := (Editor.new (L := Unit) .all ⟨"r", time⟩).put "a" "9"
    let stored := (e.store c σ (some b) ⟨"s", time⟩).value
    (stored.sources.get? 0).map (·.holding? "a") = some (some (.text "a" "9" "live")) ∧
    stored.backups.map (·.versions "live") = some [2] ∧
    ∃ b', stored.backups = some b' ∧
      (b'.restoreAll (c.registry.mutableMounts stored.sources).reverse stored.sources).value
        = σ := by
  intro time σ c b e stored
  have hc : c.Reachable σ := by
    refine .build (b := { sources := σ.mounts [0, 1] }) ?_ rfl
    simp [σ, Sources.mounts, Sources.mount?, Sources.get?, Sources.Keeps, Mount.name]
  have hmemory : ∀ m ∈ c.registry.mutableMounts σ, ∃ s, m.source = .memory s := by
    intro m hm
    have hin : m.source ∈ σ.cells := Array.mem_of_getElem? (Registry.mem_mutableMounts.mp hm).2.1
    rcases List.mem_pair.mp (Array.mem_toList_iff.mpr hin) with hs | hs <;> exact ⟨_, hs⟩
  obtain ⟨outcome, hok⟩ : ∃ outcome, stored.result = .ok outcome :=
    Editor.exists_result_ok rfl (some b)
  refine ⟨by decide +kernel, by decide +kernel, ?_⟩
  obtain ⟨b', hb', hrestored⟩ := restoreAll_store (e := e) (c := c) (b := b) hc hmemory
    (BackupStore.withMaxVersions_ne_zero 1) (by decide) hok
  exact ⟨b', hb', hrestored _ fun m => List.mem_reverse⟩

end LayeredConfig
