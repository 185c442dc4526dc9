import LayeredConfig.Conversion
import LayeredConfig.DynamicValue

/-!
# Runs of a dynamic value

A run is any row of operations, each made while the configuration reads in a way of its own.
After every operation the state tells what the slots hold, and what is staged differs from
what is in force.
-/
namespace LayeredConfig

variable {α L : Type}

/-! ## Readings -/

/-- Readings are the same just in case their values are. -/
theorem Slot.same_eq_beq [BEq α] (a b : Slot α) :
    a.same b = (a.map (·.value) == b.map (·.value)) := by
  cases a <;> cases b <;> rfl

/-- Readings compare the same both ways round if values do. -/
theorem Slot.same_comm [BEq α] (hsymm : ∀ a b : α, (a == b) = (b == a)) (a b : Slot α) :
    a.same b = b.same a := by
  cases a with
  | none => cases b <;> rfl
  | some a =>
    cases b with
    | none => rfl
    | some b => exact hsymm a.value b.value

theorem Binary.beq_comm (a b : Binary) : (a == b) = (b == a) := by
  change same a b = same b a
  cases a with
  | nan => cases b <;> rfl
  | infinite a => cases b <;> simp [same, BEq.comm]
  | finite a m e => cases b <;> simp [same, Bool.and_comm, BEq.comm]

/-- The values of each type that a text converts to. -/
theorem Kind.beq_comm (k : Kind) (a b : k.Carrier) : (a == b) = (b == a) := by
  cases k with
  | float => exact Binary.beq_comm a b
  | string | bool | char | int => exact BEq.comm

namespace DynamicValue

/-! ## What each operation leaves -/

theorem value_new (keys : List String) (fetch : Fetch α) :
    (new keys fetch : Journaled (Except Error (DynamicValue α L))).value
      = if keys.isEmpty then .error (.config "a dynamic value needs at least one key")
        else
          let owner := ",".intercalate keys
          let committed := (resolve owner fetch keys).value
          .ok { keys, owner, committed, state := .settled committed.isSome } := by
  unfold new
  split <;> rfl

variable [BEq α]

theorem value_stage (d : DynamicValue α L) (fresh : Slot α) :
    (d.stage fresh).value
      = if fresh.same d.committed ∨ d.policy = .logOnly then d.settle
        else { d with staged := some fresh, state := .stale } := by
  unfold stage
  by_cases hsame : fresh.same d.committed = true
  · simp [hsame]
  · by_cases hpolicy : d.policy = .logOnly <;> simp [hsame, hpolicy]

/-- Whatever becomes of a reading, the state is written again. -/
@[simp] theorem stage_beginUpdate (d : DynamicValue α L) (fresh : Slot α) :
    d.beginUpdate.stage fresh = d.stage fresh := rfl

theorem value_update (fetch : Fetch α) (d : DynamicValue α L) :
    (d.update fetch).value
      = if d.policy = .never then (d, false)
        else
          let fresh := (resolve d.owner fetch d.keys).value
          ((d.stage fresh).value, !fresh.same d.committed) := by
  unfold update
  split
  · rfl
  · simp only [Journaled.value_bind]
    -- Whether the change of state is logged has no bearing on the value.
    split <;> rfl

theorem value_commit (d : DynamicValue α L) :
    d.commit.value.1
      = match d.staged with
        | none => d
        | some next => { d with committed := next }.settle := by
  unfold commit
  cases d.staged with
  | none => rfl
  | some next => dsimp only; split <;> rfl

theorem value_get (fetch : Fetch α) (d : DynamicValue α L) :
    (d.get fetch).value
      = if d.policy = .immediate then
          match (d.update fetch).value with
          | (d, true) => d.commit.value
          | (d, false) => (d, [])
        else (d, []) := by
  unfold get
  split
  · rw [Journaled.value_bind]
    rcases (d.update fetch).value with ⟨d, _ | _⟩ <;> rfl
  · rfl

/-! ## Runs -/

/-- What can be asked of a dynamic value. -/
inductive Operation (α : Type) where
  | get
  | update
  | commit
  | commitAndGet
  | discard
  | isPresent
  | orElse (default : α)
  | setPolicy (policy : UpdatePolicy)

def Operation.run (fetch : Fetch α) (d : DynamicValue α L) :
    Operation α → Journaled (DynamicValue α L × List (Delivery L α))
  | get => d.get fetch
  | update => do
    let (d, _) ← d.update fetch
    return (d, [])
  | commit => d.commit
  | commitAndGet => do
    let (d, deliveries, _) ← d.commitAndGet
    return (d, deliveries)
  | discard => pure (d.discard, [])
  | isPresent => do
    let (d, deliveries, _) ← d.isPresent fetch
    return (d, deliveries)
  | orElse default => do
    let (d, deliveries, _) ← d.orElse fetch default
    return (d, deliveries)
  | setPolicy policy => do
    return (← d.setPolicy policy, [])

/-- An operation, and how the configuration reads while it is carried out. -/
structure Step (α : Type) where
  operation : Operation α
  fetch : Fetch α

def run (d : DynamicValue α L) :
    List (Step α) → Journaled (DynamicValue α L × List (Delivery L α))
  | [] => pure (d, [])
  | step :: steps => do
    let (d, first) ← step.operation.run step.fetch d
    let (d, others) ← d.run steps
    return (d, first ++ others)

/-! ## Coherence -/

/-- The state is told by the slots, and what is staged is news. -/
structure Coherent (d : DynamicValue α L) : Prop where
  state_eq : d.state = if d.hasStaged then .stale else .settled d.committed.isSome
  news : ∀ next, d.staged = some next → next.same d.committed = false

/-- Nothing is staged in a new value, and its state is told by what it has read. -/
theorem coherent_new (keys : List String) (owner : String) (committed : Slot α) :
    Coherent (L := L) { keys, owner, committed, state := .settled committed.isSome } where
  state_eq := rfl
  news := nofun

theorem coherent_settle (d : DynamicValue α L) : d.settle.Coherent where
  state_eq := rfl
  news := nofun

theorem coherent_stage (d : DynamicValue α L) (fresh : Slot α) :
    (d.stage fresh).value.Coherent := by
  rw [value_stage]
  split
  · exact coherent_settle d
  · next hnews =>
    refine ⟨rfl, ?_⟩
    intro next hnext
    cases hnext
    simpa using fun hsame => hnews (.inl hsame)

variable {d : DynamicValue α L}

theorem Coherent.update (h : d.Coherent) (fetch : Fetch α) : (d.update fetch).value.1.Coherent := by
  rw [value_update]
  split
  · exact h
  · exact coherent_stage d _

theorem Coherent.commit (h : d.Coherent) : d.commit.value.1.Coherent := by
  rw [value_commit]
  cases d.staged with
  | none => exact h
  | some next => exact coherent_settle _

theorem Coherent.get (h : d.Coherent) (fetch : Fetch α) : (d.get fetch).value.1.Coherent := by
  rw [value_get]
  split
  · have hupdate := h.update fetch
    revert hupdate
    rcases (d.update fetch).value with ⟨d', _ | _⟩
    · exact id
    · exact Coherent.commit
  · exact h

theorem Coherent.discard (h : d.Coherent) : d.discard.Coherent := by
  unfold DynamicValue.discard
  split
  · exact coherent_settle d
  · exact h

/-- One operation: whatever the policy and whatever the configuration reads. -/
theorem Coherent.step (h : d.Coherent) (fetch : Fetch α) (op : Operation α) :
    (op.run fetch d).value.1.Coherent := by
  cases op with
  | get => exact h.get fetch
  | update => exact h.update fetch
  | commit => exact h.commit
  | commitAndGet => exact h.commit
  | discard => exact h.discard
  | isPresent => exact h.get fetch
  | orElse default => exact h.get fetch
  | setPolicy policy => exact ⟨h.state_eq, h.news⟩

theorem Coherent.run (h : d.Coherent) (steps : List (Step α)) :
    (d.run steps).value.1.Coherent := by
  induction steps generalizing d with
  | nil => exact h
  | cons step steps ih => exact ih (h.step step.fetch step.operation)

theorem Coherent.told_by_slots (h : d.Coherent) :
    d.state ≠ .updating ∧ (d.state = .stale ↔ d.hasStaged) ∧
    (d.state = .loaded → d.committed.isSome) ∧ (d.state = .noValue → d.committed = none) := by
  have hstate := h.state_eq
  cases hstaged : d.hasStaged with
  | true => simp [hstate, hstaged]
  | false =>
    cases hcommitted : d.committed <;> simp [hstate, hstaged, hcommitted, ValueState.settled]

/-- A dynamic value can be made of every row of keys but the empty one. From then on, after
any operations under any policies, and however the configuration reads at each of them, the
value is not in the middle of an update; it is stale just when something is staged; it is
loaded only with a value in force, and has no value only without one; and what is staged
differs from what is in force. -/
theorem state_told_by_slots (hsymm : ∀ a b : α, (a == b) = (b == a)) (keys : List String)
    (fetch : Fetch α) :
    match (new keys fetch : Journaled (Except Error (DynamicValue α L))).value with
    | .error _ => keys = []
    | .ok d => keys ≠ [] ∧ ∀ steps : List (Step α),
      let reached := (d.run steps).value.1
      reached.state ≠ .updating ∧
      (reached.state = .stale ↔ reached.hasStaged) ∧
      (reached.state = .loaded → reached.committed.isSome) ∧
      (reached.state = .noValue → reached.committed = none) ∧
      ∀ next, reached.staged = some next →
        (next.map (·.value) == reached.value?) = false ∧
        (reached.value? == next.map (·.value)) = false := by
  rw [value_new]
  cases keys with
  | nil => rfl
  | cons key keys =>
    refine ⟨nofun, ?_⟩
    intro steps reached
    have hreached : reached.Coherent := (coherent_new _ _ _).run steps
    obtain ⟨hupdating, hstale, hloaded, hnone⟩ := hreached.told_by_slots
    refine ⟨hupdating, hstale, hloaded, hnone, ?_⟩
    intro next hnext
    have hnews := hreached.news next hnext
    have hnews' := (Slot.same_comm hsymm _ _).trans hnews
    rw [Slot.same_eq_beq] at hnews hnews'
    exact ⟨hnews, hnews'⟩

/-- A NaN equals nothing, so that each update stages it again; the value stays stale under a
policy that reads no more. -/
theorem nan_stays_staged :
    let reading : Fetch (Kind.float .f64).Carrier := fun _ => pure (.ok (some .nan))
    let steps : List (Step (Kind.float .f64).Carrier) :=
      [⟨.update, reading⟩, ⟨.commit, reading⟩, ⟨.update, reading⟩, ⟨.setPolicy .never, reading⟩,
        ⟨.get, reading⟩]
    ∃ d : DynamicValue (Kind.float .f64).Carrier String,
      (new ["ratio"] reading).value = .ok d ∧
      (d.run steps).value.1.state = .stale ∧
      ((d.run steps).value.1.value? == some .nan) = false := by
  intro reading steps
  refine ⟨_, rfl, ?_⟩
  have htold := (state_told_by_slots (L := String) (Kind.beq_comm (.float .f64)) ["ratio"]
    reading).2 steps
  exact ⟨htold.2.1.mpr rfl, (htold.2.2.2.2 (some ⟨"ratio", .nan⟩) rfl).2⟩

end DynamicValue

end LayeredConfig
