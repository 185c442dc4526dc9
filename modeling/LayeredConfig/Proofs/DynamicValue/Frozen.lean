import LayeredConfig.Proofs.DynamicValue.History

/-!
# Values under a policy that freezes

Two policies put nothing into force: one does not look at the configuration any more, the other
only logs what it finds. Setting one of them leaves the stage as it is, and a commit asks for no
policy. So a value under them stays as it is for good if nothing is staged, and otherwise goes at
most once more, to what is staged, if a commit comes before the stage is cleared.
-/
namespace LayeredConfig

variable {α L : Type}

/-- The policy puts nothing into force. -/
def UpdatePolicy.freezes : UpdatePolicy → Bool
  | never | logOnly => true
  | explicit | immediate => false

namespace DynamicValue

/-! ## What becomes of the stage -/

/-- What an operation does with a reading that is staged. -/
inductive Fate where
  | keeps
  | clears
  | releases
deriving DecidableEq

namespace Operation

def keepsPolicy : Operation α → Bool
  | setPolicy _ => false
  | _ => true

/-- Where nothing comes into force by itself, a commit alone releases the stage. An update that
looks at the configuration, and stages nothing, clears it. -/
def fate (policy : UpdatePolicy) : Operation α → Fate
  | commit | commitAndGet => .releases
  | discard => .clears
  | update => if policy = .logOnly then .clears else .keeps
  | get | isPresent | orElse _ | setPolicy _ => .keeps

/-- The first operation that concerns the stage releases it. -/
def released (policy : UpdatePolicy) (ops : List (Operation α)) : Bool :=
  (ops.map (fate policy)).find? (· ≠ .keeps) = some .releases

theorem released_cons (policy : UpdatePolicy) (op : Operation α) (ops : List (Operation α)) :
    released policy (op :: ops)
      = match op.fate policy with
        | .keeps => released policy ops
        | .clears => false
        | .releases => true := by
  unfold released
  rw [List.map_cons]
  cases op.fate policy <;> rfl

end Operation

variable [BEq α] {d : DynamicValue α L}

/-! ## One operation -/

/-- The value once a reading has been released, if one was, and who hears of it. -/
def afterRelease (d : DynamicValue α L) :
    Option (Slot α) → Option (Slot α) → ValueState → DynamicValue α L × List (Delivery L α)
  | none, staged, state => ({ d with staged, state }, [])
  | some next, staged, state =>
    ({ d with committed := next, staged, state },
      if d.committed.same next then [] else d.listeners.deliver (d.changeTo next))

theorem afterRelease_frame (d : DynamicValue α L) (released staged' : Option (Slot α))
    (state' : ValueState) (staged : Option (Slot α)) (state : ValueState) :
    ({ d with staged, state } : DynamicValue α L).afterRelease released staged' state'
      = d.afterRelease released staged' state' := by
  cases released <;> rfl

theorem value_get_of_freezes (hpolicy : d.policy.freezes) (fetch : Fetch α) :
    (d.get fetch).value = (d, []) := by
  rw [value_get, if_neg]
  intro h
  simp [h, UpdatePolicy.freezes] at hpolicy

theorem value_run_of_freezes (hpolicy : d.policy.freezes) {op : Operation α}
    (hop : op.keepsPolicy) (fetch : Fetch α) :
    ∃ state, (op.run fetch d).value
      = match op.fate d.policy with
        | .keeps => d.afterRelease none d.staged state
        | .clears => d.afterRelease none none state
        | .releases => d.afterRelease d.staged none state := by
  have hnone : d.staged = none → (d, []) = d.afterRelease none none d.state :=
    congrArg fun staged => ({ d with staged }, [])
  have hcommit : ∃ state, d.commit.value = d.afterRelease d.staged none state := by
    cases hstaged : d.staged with
    | none =>
      rw [value_commit_none hstaged]
      exact ⟨d.state, hnone hstaged⟩
    | some next =>
      rw [value_commit_some hstaged]
      exact ⟨_, rfl⟩
  have hget : (d.get fetch).value = d.afterRelease none d.staged d.state :=
    value_get_of_freezes hpolicy fetch
  cases op with
  | get => exact ⟨d.state, hget⟩
  | update =>
    change ∃ state, ((d.update fetch).value.1, []) = _
    rw [value_update]
    cases h : d.policy with
    | explicit | immediate => simp [h, UpdatePolicy.freezes] at hpolicy
    | never => exact ⟨d.state, rfl⟩
    | logOnly =>
      rw [if_neg (by simp)]
      dsimp only
      rw [value_stage, if_pos (.inr h)]
      exact ⟨_, rfl⟩
  | commit => exact hcommit
  | commitAndGet => exact hcommit
  | discard =>
    change ∃ state, (d.discard, []) = d.afterRelease none none state
    unfold DynamicValue.discard hasStaged
    cases hstaged : d.staged with
    | none => exact ⟨d.state, hnone hstaged⟩
    | some next => exact ⟨_, rfl⟩
  | isPresent => exact ⟨d.state, hget⟩
  | orElse default => exact ⟨d.state, hget⟩
  | setPolicy policy => cases hop

/-! ## Any operations -/

/-- Whatever is asked, and however the configuration reads: what is in force stays, but for the
one reading that may have been left on the stage. -/
theorem exists_value_run_of_freezes (hpolicy : d.policy.freezes) (steps : List (Step α))
    (hsteps : ∀ s ∈ steps, s.operation.keepsPolicy) :
    ∃ staged state, (d.run steps).value
      = d.afterRelease
          (if Operation.released d.policy (steps.map (·.operation)) then d.staged else none)
          staged state := by
  induction steps generalizing d with
  | nil => exact ⟨d.staged, d.state, rfl⟩
  | cons step steps ih =>
    obtain ⟨hstep, hsteps⟩ := List.forall_mem_cons.mp hsteps
    obtain ⟨state, hvalue⟩ := value_run_of_freezes hpolicy hstep step.fetch
    have hcons : (d.run (step :: steps)).value
        = (((step.operation.run step.fetch d).value.1.run steps).value.1,
            (step.operation.run step.fetch d).value.2 ++
              ((step.operation.run step.fetch d).value.1.run steps).value.2) := rfl
    rw [hcons, List.map_cons, Operation.released_cons, hvalue]
    -- Once the stage is clear, the other operations find nothing to release.
    have hclear : ∀ d' : DynamicValue α L, d'.policy.freezes → d'.staged = none →
        ∃ staged state, (d'.run steps).value = d'.afterRelease none staged state := by
      intro d' hpolicy' hstaged
      obtain ⟨staged, state, hrest⟩ := ih hpolicy' hsteps
      rw [hstaged, ite_self] at hrest
      exact ⟨staged, state, hrest⟩
    cases step.operation.fate d.policy with
    | keeps =>
      obtain ⟨staged, state', hrest⟩ := ih (d := { d with state }) hpolicy hsteps
      exact ⟨staged, state', hrest.trans (d.afterRelease_frame ..)⟩
    | clears =>
      obtain ⟨staged, state', hrest⟩ := hclear { d with staged := none, state } hpolicy rfl
      exact ⟨staged, state', hrest⟩
    | releases =>
      cases hstaged : d.staged with
      | none =>
        obtain ⟨staged, state', hrest⟩ := hclear { d with staged := none, state } hpolicy rfl
        exact ⟨staged, state', hrest⟩
      | some next =>
        obtain ⟨staged, state', hrest⟩ :=
          hclear { d with committed := next, staged := none, state } hpolicy rfl
        have hforce := congrArg Prod.fst hrest
        have htold := congrArg Prod.snd hrest
        refine ⟨staged, state', Prod.ext hforce ?_⟩
        -- All that is told is told by the release.
        exact (congrArg (_ ++ ·) htold).trans (List.append_nil _)

/-! ## Values that come about -/

/-- The value has been made, and has lived through some turns. -/
def Reachable (d : DynamicValue α L) : Prop :=
  ∃ keys fetch, ∃ first : DynamicValue α L, (new keys fetch).value = .ok first ∧
    ∃ ts, (first.turns ts).value.1 = d

theorem Reachable.coherent (h : d.Reachable) : d.Coherent := by
  obtain ⟨keys, fetch, first, hfirst, ts, rfl⟩ := h
  have hnew := coherent_of_new (L := L) keys fetch
  rw [hfirst] at hnew
  exact hnew.1.turns ts

/-- Under a policy that freezes, and until another one is set, a value gives what is in force,
and this stays, with its key and without a word to anybody, unless something was left on the
stage and is released. Then what was staged, which differs from what was in force, is in force
from the release on, and the listeners hear of this one change. -/
theorem frozen_unless_released (hd : d.Reachable) (hpolicy : d.policy.freezes)
    (steps : List (Step α)) (hsteps : ∀ s ∈ steps, s.operation.keepsPolicy) :
    let reached := (d.run steps).value
    let released := Operation.released d.policy (steps.map (·.operation))
    (∀ fetch, (reached.1.get fetch).value = (reached.1, [])) ∧
    (d.staged = none ∨ released = false →
      reached.1.value? = d.value? ∧ reached.1.resolvedKey? = d.resolvedKey? ∧ reached.2 = []) ∧
    ∀ next, d.staged = some next →
      next.same d.committed = false ∧
      (released = true → reached.1.committed = next ∧
        reached.2
          = if d.committed.same next then [] else d.listeners.deliver (d.changeTo next)) := by
  intro reached released
  obtain ⟨staged, state, hreached⟩ := exists_value_run_of_freezes hpolicy steps hsteps
  change reached = d.afterRelease (if released then d.staged else none) staged state at hreached
  have hkept : reached.1.policy = d.policy := by
    rw [hreached]
    cases (if released then d.staged else none) <;> rfl
  refine ⟨?_, ?_, ?_⟩
  · exact value_get_of_freezes (hkept ▸ hpolicy)
  · intro hnone
    have hquiet : (if released then d.staged else none) = none := by
      rcases hnone with hstaged | hreleased
      · rw [hstaged, ite_self]
      · rw [hreleased]
        rfl
    rw [hreached, hquiet]
    exact ⟨rfl, rfl, rfl⟩
  · intro next hnext
    refine ⟨hd.coherent.news next hnext, ?_⟩
    intro hreleased
    rw [hreached, if_pos hreleased, hnext]
    exact ⟨rfl, rfl⟩

/-- What is left on the stage is cleared by an update that only logs, so the commit after it
finds nothing. -/
theorem frozen_of_cleared_stage :
    let reading (text : String) : Fetch String := fun _ => pure (.ok (some text))
    let left : List (Turn String Nat) :=
      [.listen 0, .step ⟨.update, reading "2"⟩, .step ⟨.setPolicy .logOnly, reading "2"⟩]
    let steps : List (Step String) :=
      [⟨.get, reading "3"⟩, ⟨.update, reading "3"⟩, ⟨.commitAndGet, reading "3"⟩]
    ∃ first : DynamicValue String Nat, (new ["k"] (reading "1")).value = .ok first ∧
      let d := (first.turns left).value.1
      d.staged = some (some ⟨"k", "2"⟩) ∧
      (d.run steps).value.1.value? = some "1" ∧ (d.run steps).value.2 = [] := by
  intro reading left steps
  refine ⟨_, rfl, rfl, ?_⟩
  obtain ⟨-, hquiet, -⟩ := frozen_unless_released (L := Nat) ⟨["k"], reading "1", _, rfl, left, rfl⟩
    rfl steps (by simp [steps, Operation.keepsPolicy])
  obtain ⟨hvalue, -, htold⟩ := hquiet (.inr rfl)
  exact ⟨hvalue, htold⟩

/-- Whichever policy that freezes is set, a commit puts into force what was staged before. -/
theorem commit_moves_frozen :
    let reading (text : String) : Fetch String := fun _ => pure (.ok (some text))
    ∀ policy ∈ [UpdatePolicy.never, .logOnly],
      let left : List (Turn String Nat) :=
        [.listen 0, .step ⟨.update, reading "2"⟩, .step ⟨.setPolicy policy, reading "2"⟩]
      ∃ first : DynamicValue String Nat, (new ["k"] (reading "1")).value = .ok first ∧
        let d := (first.turns left).value.1
        d.policy = policy ∧ d.value? = some "1" ∧
        (d.run [⟨.commit, reading "2"⟩]).value.1.value? = some "2" ∧
        (d.run [⟨.commit, reading "2"⟩]).value.2.map (·.change)
          = [⟨"k", some "1", some "2"⟩] := by
  intro reading policy hpolicy left
  refine ⟨_, rfl, ?_⟩
  have hcases : policy = .never ∨ policy = .logOnly := by simpa using hpolicy
  rcases hcases with rfl | rfl <;> exact ⟨rfl, rfl, rfl, rfl⟩

end DynamicValue

end LayeredConfig
