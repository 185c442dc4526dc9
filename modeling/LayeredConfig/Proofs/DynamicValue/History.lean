import LayeredConfig.Proofs.DynamicValue.Run

/-!
# The history of a dynamic value

A commit that puts another reading into force tells every listener so, and nothing else tells
them anything. So the changes that a listener hears of join up: each one begins where the one
before it ended, the first with the value that was in force when the listener came in, and the
last ends with the value that is in force now.
-/
namespace LayeredConfig

variable {α L : Type}

/-! ## Changes that join up -/

/-- The changes lead from one value to another, and none of them stays where it begins. -/
inductive Unbroken [BEq α] : Option α → List (Change α) → Option α → Prop where
  | nil (value : Option α) : Unbroken value [] value
  | cons {c : Change α} {cs : List (Change α)} {last : Option α} :
      (c.old == c.new) = false → Unbroken c.new cs last → Unbroken c.old (c :: cs) last

theorem Unbroken.append [BEq α] {first middle last : Option α} {cs ds : List (Change α)}
    (hcs : Unbroken first cs middle) (hds : Unbroken middle ds last) :
    Unbroken first (cs ++ ds) last := by
  induction hcs with
  | nil => exact hds
  | cons hmoves _ ih => exact .cons hmoves (ih hds)

/-! ## One listener among others -/

section Listening

variable [DecidableEq L]

/-- What one listener hears, of all that is delivered. -/
def heardBy (l : L) (ds : List (Delivery L α)) : List (Change α) :=
  (ds.filter (·.listener = l)).map (·.change)

theorem heardBy_append (l : L) (ds ds' : List (Delivery L α)) :
    heardBy l (ds ++ ds') = heardBy l ds ++ heardBy l ds' := by
  simp [heardBy]

/-- The listener is called once for a change of any key. -/
def Listeners.CallsOnce (ls : Listeners L) (l : L) : Prop :=
  ∀ key, (ls.audience key).count l = 1

theorem Listeners.CallsOnce.heardBy_deliver {ls : Listeners L} {l : L} (h : ls.CallsOnce l)
    (c : Change α) : heardBy l (ls.deliver c) = [c] := by
  have hcalls : (ls.audience c.key).filter (· = l) = [l] := by
    rw [List.filter_eq l, h c.key, List.replicate_one]
  rw [heardBy, deliver, List.filter_map, List.map_map]
  exact congrArg (List.map fun _ => c) hcalls

theorem Listeners.CallsOnce.onChange {ls : Listeners L} {l other : L} (h : ls.CallsOnce l)
    (hother : other ≠ l) : (ls.onChange other).CallsOnce l := by
  intro key
  have hkey := h key
  simp only [audience, List.count_append] at hkey ⊢
  simpa [Listeners.onChange, watching, List.count_singleton, hother] using hkey

end Listening

namespace DynamicValue

variable [BEq α] {d : DynamicValue α L}

/-! ## What each operation tells -/

/-- The change from one reading in force to another. -/
def changeTo (d : DynamicValue α L) (next : Slot α) : Change α :=
  ⟨changedKey d.keys d.committed next, d.value?, next.map (·.value)⟩

theorem value_commit_none (h : d.staged = none) : d.commit.value = (d, []) := by
  rw [commit, h]
  rfl

theorem value_commit_some {next : Slot α} (h : d.staged = some next) :
    d.commit.value
      = ({ d with committed := next }.settle,
          if d.committed.same next then [] else d.listeners.deliver (d.changeTo next)) := by
  rw [commit, h]
  dsimp only
  split <;> rfl

/-- Resolving again touches the stage and the state, and nothing else. -/
theorem value_update_frame (fetch : Fetch α) (d : DynamicValue α L) :
    ∃ staged state, (d.update fetch).value.1 = { d with staged, state } := by
  rw [value_update]
  split
  · exact ⟨d.staged, d.state, rfl⟩
  · dsimp only
    rw [value_stage]
    split
    · exact ⟨none, .settled d.committed.isSome, rfl⟩
    · exact ⟨some (resolve d.owner fetch d.keys).value, .stale, rfl⟩

/-- What comes of a value and of its listeners: what is in force stays, and nothing is told,
or another value comes into force, and all listeners hear of it. -/
inductive Goes (d : DynamicValue α L) : DynamicValue α L × List (Delivery L α) → Prop where
  | quiet {d' : DynamicValue α L} : d'.listeners = d.listeners → d'.committed = d.committed →
      Goes d (d', [])
  | told {d' : DynamicValue α L} : d'.listeners = d.listeners →
      d.committed.same d'.committed = false →
      Goes d (d', d.listeners.deliver (d.changeTo d'.committed))

/-- What is staged beforehand has no part in what is told. -/
theorem Goes.of_stage {staged : Option (Slot α)} {state : ValueState}
    {x : DynamicValue α L × List (Delivery L α)} (h : Goes { d with staged, state } x) :
    Goes d x := by
  cases h with
  | quiet hlisteners hcommitted => exact .quiet hlisteners hcommitted
  | told hlisteners hnews => exact .told hlisteners hnews

theorem Coherent.goes_commit (hsymm : ∀ a b : α, (a == b) = (b == a)) (h : d.Coherent) :
    Goes d d.commit.value := by
  cases hstaged : d.staged with
  | none =>
    rw [value_commit_none hstaged]
    exact .quiet rfl rfl
  | some next =>
    have hnews : d.committed.same next = false :=
      (Slot.same_comm hsymm _ _).trans (h.news next hstaged)
    rw [value_commit_some hstaged, hnews]
    exact .told rfl hnews

theorem Coherent.goes_get (hsymm : ∀ a b : α, (a == b) = (b == a)) (h : d.Coherent)
    (fetch : Fetch α) : Goes d (d.get fetch).value := by
  rw [value_get]
  split
  · obtain ⟨staged, state, hframe⟩ := value_update_frame fetch d
    have hcoherent := h.update fetch
    revert hframe hcoherent
    rcases (d.update fetch).value with ⟨d', _ | _⟩
    · rintro rfl -
      exact .quiet rfl rfl
    · rintro rfl hcoherent
      exact (hcoherent.goes_commit hsymm).of_stage
  · exact .quiet rfl rfl

/-- An operation puts a staged reading into force at most once, and some never do. -/
def Operation.mayCommit (policy : UpdatePolicy) : Operation α → Bool
  | get | isPresent | orElse _ => policy = .immediate
  | commit | commitAndGet => true
  | update | discard | setPolicy _ => false

/-- One operation: whatever the policy and whatever the configuration reads. -/
theorem Coherent.goes (hsymm : ∀ a b : α, (a == b) = (b == a)) (h : d.Coherent)
    (fetch : Fetch α) (op : Operation α) : Goes d (op.run fetch d).value := by
  cases op with
  | get => exact h.goes_get hsymm fetch
  | update =>
    obtain ⟨staged, state, hframe⟩ := value_update_frame fetch d
    change Goes d ((d.update fetch).value.1, [])
    rw [hframe]
    exact .quiet rfl rfl
  | commit => exact h.goes_commit hsymm
  | commitAndGet => exact h.goes_commit hsymm
  | discard =>
    change Goes d (d.discard, [])
    unfold DynamicValue.discard
    split <;> exact .quiet rfl rfl
  | isPresent => exact h.goes_get hsymm fetch
  | orElse default => exact h.goes_get hsymm fetch
  | setPolicy policy => exact .quiet rfl rfl

theorem Operation.deliveries_of_not_mayCommit {op : Operation α} (h : op.mayCommit d.policy = false)
    (fetch : Fetch α) : (op.run fetch d).value.2 = [] := by
  have hget : d.policy ≠ .immediate → (d.get fetch).value.2 = [] := by
    intro hpolicy
    rw [value_get, if_neg hpolicy]
  cases op with
  | get => exact hget (of_decide_eq_false h)
  | isPresent => exact hget (of_decide_eq_false h)
  | orElse default => exact hget (of_decide_eq_false h)
  | commit | commitAndGet => cases h
  | update | discard | setPolicy => rfl

/-! ## Whole lives -/

/-- A value can be made of every row of keys but the empty one, and nobody listens to it yet. -/
theorem coherent_of_new (keys : List String) (fetch : Fetch α) :
    match (new keys fetch : Journaled (Except Error (DynamicValue α L))).value with
    | .error _ => keys = []
    | .ok d => d.Coherent ∧ d.listeners = {} := by
  rw [value_new]
  cases keys with
  | nil => rfl
  | cons key keys => exact ⟨coherent_new _ _ _, rfl⟩

/-- What may happen to a dynamic value: an operation, a listener that comes in, another owner. -/
inductive Turn (α L : Type) where
  | step (s : Step α)
  | listen (l : L)
  | own (owner : String)

def Turn.mayCommit (policy : UpdatePolicy) : Turn α L → Bool
  | step s => s.operation.mayCommit policy
  | listen _ | own _ => false

def turn (d : DynamicValue α L) : Turn α L → Journaled (DynamicValue α L × List (Delivery L α))
  | .step s => s.operation.run s.fetch d
  | .listen l => pure (d.onChange l, [])
  | .own owner => pure (d.withOwner owner, [])

def turns (d : DynamicValue α L) :
    List (Turn α L) → Journaled (DynamicValue α L × List (Delivery L α))
  | [] => pure (d, [])
  | t :: ts => do
    let (d, first) ← d.turn t
    let (d, others) ← d.turns ts
    return (d, first ++ others)

theorem deliveries_of_not_mayCommit {t : Turn α L} (h : t.mayCommit d.policy = false) :
    (d.turn t).value.2 = [] := by
  cases t with
  | step s => exact Operation.deliveries_of_not_mayCommit h s.fetch
  | listen l => rfl
  | own owner => rfl

theorem value_turns_cons (t : Turn α L) (ts : List (Turn α L)) :
    (d.turns (t :: ts)).value
      = (((d.turn t).value.1.turns ts).value.1,
          (d.turn t).value.2 ++ ((d.turn t).value.1.turns ts).value.2) := rfl

theorem Coherent.turn (h : d.Coherent) (t : Turn α L) : (d.turn t).value.1.Coherent := by
  cases t with
  | step s => exact h.step s.fetch s.operation
  | listen l => exact ⟨h.state_eq, h.news⟩
  | own owner => exact ⟨h.state_eq, h.news⟩

theorem Coherent.turns (h : d.Coherent) (ts : List (Turn α L)) : (d.turns ts).value.1.Coherent := by
  induction ts generalizing d with
  | nil => exact h
  | cons t ts ih => exact ih (h.turn t)

/-! ## What one listener hears -/

/-- What a listener hears of one turn, held against the value before it and after it. -/
structure Heard (before after : DynamicValue α L) (cs : List (Change α)) : Prop where
  unbroken : Unbroken before.value? cs after.value?
  at_most_one : cs.length ≤ 1
  ends : ∀ c ∈ cs, c.old = before.value? ∧ c.new = after.value?
  key : ∀ c ∈ cs, some c.key = after.resolvedKey?.or before.resolvedKey?

theorem heard_quiet {before after : DynamicValue α L} (h : after.committed = before.committed) :
    Heard before after [] where
  unbroken := by
    rw [value?, value?, h]
    exact .nil _
  at_most_one := Nat.zero_le 1
  ends := nofun
  key := nofun

theorem heard_told {before after : DynamicValue α L}
    (h : before.committed.same after.committed = false) :
    Heard before after [before.changeTo after.committed] where
  unbroken := by
    have hmoves : (before.value? == after.value?) = false := (Slot.same_eq_beq _ _).symm.trans h
    exact .cons (c := before.changeTo after.committed) hmoves (.nil _)
  at_most_one := Nat.le_refl 1
  ends := by
    intro c hc
    rw [List.mem_singleton.mp hc]
    exact ⟨rfl, rfl⟩
  key := by
    intro c hc
    rw [List.mem_singleton.mp hc, changeTo, changedKey, resolvedKey?, resolvedKey?]
    cases hafter : after.committed with
    | some r => rfl
    | none =>
      cases hbefore : before.committed with
      | some r => rfl
      | none =>
        rw [hafter, hbefore] at h
        cases h

section Listening

variable [DecidableEq L] {l : L}

theorem Goes.heard {x : DynamicValue α L × List (Delivery L α)} (h : Goes d x)
    (hl : d.listeners.CallsOnce l) : Heard d x.1 (heardBy l x.2) ∧ x.1.listeners.CallsOnce l := by
  cases h with
  | quiet hlisteners hcommitted => exact ⟨heard_quiet hcommitted, hlisteners ▸ hl⟩
  | told hlisteners hnews =>
    refine ⟨?_, hlisteners ▸ hl⟩
    dsimp only
    rw [hl.heardBy_deliver]
    exact heard_told hnews

/-- One turn: whatever it is. -/
theorem Coherent.heard_turn (hsymm : ∀ a b : α, (a == b) = (b == a)) (h : d.Coherent)
    (hl : d.listeners.CallsOnce l) {t : Turn α L} (ht : t ≠ .listen l) :
    Heard d (d.turn t).value.1 (heardBy l (d.turn t).value.2) ∧
    (d.turn t).value.1.listeners.CallsOnce l := by
  cases t with
  | step s => exact (h.goes hsymm s.fetch s.operation).heard hl
  | listen other => exact ⟨heard_quiet rfl, hl.onChange fun heq => ht (congrArg Turn.listen heq)⟩
  | own owner => exact ⟨heard_quiet rfl, hl⟩

theorem Coherent.unbroken_turns (hsymm : ∀ a b : α, (a == b) = (b == a)) (h : d.Coherent)
    (hl : d.listeners.CallsOnce l) {ts : List (Turn α L)} (hts : .listen l ∉ ts) :
    Unbroken d.value? (heardBy l (d.turns ts).value.2) (d.turns ts).value.1.value? ∧
    (d.turns ts).value.1.listeners.CallsOnce l := by
  induction ts generalizing d with
  | nil => exact ⟨.nil _, hl⟩
  | cons t ts ih =>
    rw [List.mem_cons, not_or] at hts
    obtain ⟨hheard, hl'⟩ := h.heard_turn hsymm hl (Ne.symm hts.1)
    obtain ⟨hrest, hl''⟩ := ih (h.turn t) hl' hts.2
    rw [value_turns_cons, heardBy_append]
    exact ⟨hheard.unbroken.append hrest, hl''⟩

/-- A listener that comes in when the value is made hears of an unbroken history: from the value
that was read first to the one in force after any turns, each change begins where the one before
it ended, and none ends where it begins. A turn that commits makes for one change at most, which
goes from the value before the turn to the one after it, under the key of the reading then in
force, or, if there is none, of the one before; any other turn makes for no change. -/
theorem changes_unbroken (hsymm : ∀ a b : α, (a == b) = (b == a)) (keys : List String)
    (fetch : Fetch α) (l : L) (ts : List (Turn α L)) (hts : .listen l ∉ ts) :
    match (new keys fetch : Journaled (Except Error (DynamicValue α L))).value with
    | .error _ => keys = []
    | .ok d =>
      let first := d.onChange l
      Unbroken d.value? (heardBy l (first.turns ts).value.2) (first.turns ts).value.1.value? ∧
      ∀ front t back, ts = front ++ t :: back →
        let before := (first.turns front).value.1
        let after := (before.turn t).value.1
        let changes := heardBy l (before.turn t).value.2
        changes.length ≤ (if t.mayCommit before.policy then 1 else 0) ∧
        ∀ c ∈ changes, c.old = before.value? ∧ c.new = after.value? ∧
          some c.key = after.resolvedKey?.or before.resolvedKey? := by
  have hnew := coherent_of_new (L := L) keys fetch
  revert hnew
  cases (new keys fetch : Journaled (Except Error (DynamicValue α L))).value with
  | error e => exact id
  | ok d =>
    rintro ⟨hd, hlisteners⟩
    have hcoherent : (d.onChange l).Coherent := ⟨hd.state_eq, hd.news⟩
    have hl : (d.onChange l).listeners.CallsOnce l := by
      intro key
      rw [onChange, hlisteners]
      exact List.count_singleton_self
    refine ⟨(hcoherent.unbroken_turns hsymm hl hts).1, ?_⟩
    rintro front t back rfl before after changes
    rw [List.mem_append, List.mem_cons, not_or, not_or] at hts
    have hbefore : before.Coherent := hcoherent.turns front
    obtain ⟨hheard, -⟩ := hbefore.heard_turn hsymm
      (hcoherent.unbroken_turns hsymm hl hts.1).2 (Ne.symm hts.2.1)
    refine ⟨?_, fun c hc => ⟨(hheard.ends c hc).1, (hheard.ends c hc).2, hheard.key c hc⟩⟩
    split
    · exact hheard.at_most_one
    · next hcommit =>
      have hsilent : (before.turn t).value.2 = [] :=
        deliveries_of_not_mayCommit (Bool.eq_false_iff.mpr hcommit)
      rw [show changes = heardBy l [] from congrArg (heardBy l) hsilent]
      exact Nat.le_refl 0

/-- A NaN follows on itself, is gone, and comes back under another key, while a second listener
comes in late. -/
theorem changes_unbroken_of_nan :
    let nan (name : String) : Fetch (Kind.float .f64).Carrier := fun key =>
      pure (.ok (if key = name then some .nan else none))
    let gone : Fetch (Kind.float .f64).Carrier := fun _ => pure (.ok none)
    let ts : List (Turn (Kind.float .f64).Carrier Nat) :=
      [.step ⟨.update, nan "ratio"⟩, .listen 1, .step ⟨.commit, nan "ratio"⟩,
        .step ⟨.setPolicy .immediate, gone⟩, .step ⟨.get, gone⟩, .step ⟨.get, nan "scale"⟩]
    ∃ d : DynamicValue (Kind.float .f64).Carrier Nat,
      (new ["ratio", "scale"] (nan "ratio")).value = .ok d ∧
      heardBy 0 ((d.onChange 0).turns ts).value.2
        = [⟨"ratio", some .nan, some .nan⟩, ⟨"ratio", some .nan, none⟩,
            ⟨"scale", none, some .nan⟩] ∧
      Unbroken d.value? (heardBy 0 ((d.onChange 0).turns ts).value.2)
        ((d.onChange 0).turns ts).value.1.value? := by
  intro nan gone ts
  have hunbroken := changes_unbroken (Kind.beq_comm (.float .f64)) ["ratio", "scale"]
    (nan "ratio") 0 ts (by simp [ts])
  refine ⟨_, rfl, ?_, hunbroken.1⟩
  rfl

end Listening

end DynamicValue

end LayeredConfig
