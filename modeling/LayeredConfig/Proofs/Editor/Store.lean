import LayeredConfig.Editor
import LayeredConfig.Proofs.Propagation.Truth
import LayeredConfig.Proofs.Registry.Sound

/-!
# What a store comes to

A store that is not refused hands the pending request to the policy. What it leaves behind is
what the policy makes of the sources, and one change for each key of the request that reads
differently afterwards.
-/
namespace LayeredConfig

/-! ## The sources that take changes -/

theorem Registry.mounted_mutableMounts (g : Registry) (σ : Sources) :
    Errand.Mounted (g.mutableMounts σ) σ := by
  intro m hm
  exact (mem_mutableMounts.mp hm).2.1

theorem Configuration.Reachable.accounted {c : Configuration} {σ : Sources} (hc : c.Reachable σ)
    (p : Policy) (r : ChangeRequest) :
    Accounted p r (c.registry.mutableMounts σ) σ
      (p.propagate r (c.registry.mutableMounts σ) σ) :=
  accounted_propagate p r (c.registry.mounted_mutableMounts σ) hc.sound.nodup_names_mutableMounts

/-! ## Reading before and after -/

namespace View

/-- How a key reads, where a failure counts as absence. -/
def shown? (v : View) (key : String) : Option String :=
  (v.getText key).value.toOption.join

/-- The changes of the keys that read differently in another view. -/
def changesTo (v w : View) (keys : List String) : List (Change String) :=
  (keys.filter fun key => v.shown? key != w.shown? key).map fun key =>
    ⟨key, v.shown? key, w.shown? key⟩

@[simp] theorem changesTo_self (v : View) (keys : List String) : v.changesTo v keys = [] := by
  simp [changesTo]

end View

namespace Editor

theorem value_readQuietly (v : View) (key : String) : (readQuietly v key).value = v.shown? key := by
  rw [readQuietly, View.shown?, Journaled.value_bind]
  cases (v.getText key).value <;> rfl

theorem value_readAll (v : View) (keys : List String) :
    (readAll v keys).value = keys.map fun key => (key, v.shown? key) := by
  induction keys with
  | nil => rfl
  | cons key keys ih => simp [readAll, value_readQuietly, ih]

theorem value_changesSince (v w : View) (keys : List String) :
    (changesSince w (keys.map fun key => (key, v.shown? key))).value
      = v.changesTo w keys := by
  induction keys with
  | nil => rfl
  | cons key keys ih =>
    by_cases h : v.shown? key = w.shown? key
    · simp [changesSince, View.changesTo, value_readQuietly, ih, h]
    · simp [changesSince, View.changesTo, value_readQuietly, ih, h]

/-! ## The steps together -/

variable {L : Type} {e : Editor L} {c : Configuration} {σ : Sources}
  {backups : Option BackupStore} {stamp : Stamp} {outcome : Outcome}

theorem value_carryOut (targets : List Mount) (r : ChangeRequest) :
    (e.carryOut c σ targets r).value
      = let x := (e.policy.propagate r targets σ).value
        (x.1, x.2, if x.1.applied = [] then [] else (c.view σ).changesTo (c.view x.2) r.keys) := by
  simp only [carryOut, Journaled.value_bind, List.isEmpty_iff]
  split
  · simp
  · simp [value_readAll, value_changesSince]

theorem exists_result_ok (h : e.objection? = none) (backups : Option BackupStore) :
    ∃ outcome, (e.store c σ backups stamp).value.result = .ok outcome := by
  unfold store
  rw [h]
  dsimp only
  split
  · exact ⟨_, rfl⟩
  · cases backups <;> exact ⟨_, rfl⟩

theorem objection?_eq_none (hok : (e.store c σ backups stamp).value.result = .ok outcome) :
    e.objection? = none := by
  cases hobjection : e.objection? with
  | none => rfl
  | some objection => simp [store, hobjection] at hok

/-- Nothing comes of an empty request. -/
theorem value_store_of_isEmpty (hrequest : e.request.isEmpty)
    (hok : (e.store c σ backups stamp).value.result = .ok outcome) :
    (e.store c σ backups stamp).value.sources = σ ∧
    (e.store c σ backups stamp).value.deliveries = [] := by
  simp [store, objection?_eq_none hok, hrequest]

/-- Any other request goes to the policy, behind a backup. -/
theorem value_store_of_not_isEmpty (hrequest : e.request.isEmpty = false)
    (hok : (e.store c σ backups stamp).value.result = .ok outcome) :
    let stored := (e.store c σ backups stamp).value
    let targets := c.registry.mutableMounts σ
    let x := (e.policy.propagate e.request targets σ).value
    stored.backups = backups.map (fun b => (backupAll stamp.time targets b).value) ∧
    outcome = x.1 ∧ stored.sources = x.2 ∧
    stored.deliveries = (e.carryOut c σ targets e.request).value.2.2.flatMap e.listeners.deliver := by
  intro stored targets x
  have hstored : stored = {
      editor := { e with request := .new stamp }
      sources := x.2
      backups := backups.map fun b => (backupAll stamp.time targets b).value
      deliveries := (e.carryOut c σ targets e.request).value.2.2.flatMap e.listeners.deliver
      result := .ok x.1 } := by
    cases backups <;>
      simp [stored, targets, x, store, value_carryOut, objection?_eq_none hok, hrequest]
  rw [show (e.store c σ backups stamp).value = stored from rfl, hstored] at hok
  cases hok
  rw [hstored]
  exact ⟨rfl, rfl, rfl, rfl⟩

end Editor

end LayeredConfig
