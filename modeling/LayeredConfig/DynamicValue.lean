import LayeredConfig.Error
import LayeredConfig.Journal
import LayeredConfig.Listeners

/-!
# Dynamic values

A dynamic value follows the first of its keys that can be read. It is resolved when it is
made and serves what is committed; resolving again only stages what it finds, and a commit
puts the staged reading into force and tells the listeners. The update policy says when
that happens by itself, or that it must not happen at all.
-/
namespace LayeredConfig

inductive UpdatePolicy where
  /-- Staged readings wait for a commit. -/
  | explicit
  /-- Every read resolves and commits first. -/
  | immediate
  | never
  /-- Changes are logged and not staged. -/
  | logOnly
deriving DecidableEq, Repr

def UpdatePolicy.name : UpdatePolicy → String
  | explicit => "Explicit"
  | immediate => "Immediate"
  | never => "Never"
  | logOnly => "LogOnly"

inductive ValueState where
  | noValue
  | loaded
  | stale
  /-- A reading is under way. -/
  | updating
deriving DecidableEq, Repr

namespace ValueState

def name : ValueState → String
  | noValue => "NoValue"
  | loaded => "Loaded"
  | stale => "Stale"
  | updating => "Updating"

/-- The state of a value that has nothing staged. -/
def settled (present : Bool) : ValueState :=
  if present then loaded else noValue

end ValueState

/-- A value and the key it was read from. -/
structure Resolved (α : Type) where
  key : String
  value : α
deriving DecidableEq

/-- A reading: what the first key that could be read gave, if there is one. -/
abbrev Slot (α : Type) : Type := Option (Resolved α)

/-- Two readings are the same if their values are; the keys do not count. -/
def Slot.same {α : Type} [BEq α] (a b : Slot α) : Bool :=
  match a, b with
  | none, none => true
  | some a, some b => a.value == b.value
  | _, _ => false

/-- How a key reads in the configuration as it is now. -/
abbrev Fetch (α : Type) : Type := String → Journaled (Except Error (Option α))

structure DynamicValue (α L : Type) where
  keys : List String
  owner : String
  committed : Slot α
  staged : Option (Slot α) := none
  policy : UpdatePolicy := .explicit
  state : ValueState
  listeners : Listeners L := {}

namespace DynamicValue

variable {α L : Type}

/-! ## Reading the configuration -/

/-- The first key that reads as a value; keys that fail are passed over. -/
def resolve (owner : String) (fetch : Fetch α) : List String → Journaled (Slot α)
  | [] => pure none
  | key :: keys => do
    match ← fetch key with
    | .ok (some value) => pure (some ⟨key, value⟩)
    | .ok none => resolve owner fetch keys
    | .error e => do
      let reason := e.message
      Journaled.warn
        s!"Dynamic value '{owner}' could not read '{key}', treating it as absent: {reason}"
      resolve owner fetch keys

def new (keys : List String) (fetch : Fetch α) : Journaled (Except Error (DynamicValue α L)) :=
  if keys.isEmpty then pure (.error (.config "a dynamic value needs at least one key"))
  else do
    let owner := ",".intercalate keys
    let committed ← resolve owner fetch keys
    return .ok { keys, owner, committed, state := .settled committed.isSome }

def withOwner (d : DynamicValue α L) (owner : String) : DynamicValue α L :=
  { d with owner }

/-! ## Inspection -/

def value? (d : DynamicValue α L) : Option α :=
  d.committed.map (·.value)

def resolvedKey? (d : DynamicValue α L) : Option String :=
  d.committed.map (·.key)

def hasStaged (d : DynamicValue α L) : Bool :=
  d.staged.isSome

/-! ## Updates -/

def setPolicy (d : DynamicValue α L) (policy : UpdatePolicy) : Journaled (DynamicValue α L) := do
  let owner := d.owner
  let name := policy.name
  Journaled.debug s!"Dynamic value '{owner}' now uses {name} updates"
  return { d with policy }

/-- The value with nothing staged. -/
def settle (d : DynamicValue α L) : DynamicValue α L :=
  { d with staged := none, state := .settled d.committed.isSome }

/-- What a fresh reading makes of the value: it is staged if it is news, and the policy
does not only want it logged. -/
def stage [BEq α] (d : DynamicValue α L) (fresh : Slot α) : Journaled (DynamicValue α L) :=
  if fresh.same d.committed then pure d.settle
  else if d.policy = .logOnly then do
    let owner := d.owner
    let key := Text.optional (fresh.map fun r => Text.quoted r.key)
    Journaled.info
      s!"Dynamic value '{owner}' changed in the configuration (key {key}), not applied"
    return d.settle
  else pure { d with staged := some fresh, state := .stale }

/-- The value while its keys are read. -/
def beginUpdate (d : DynamicValue α L) : DynamicValue α L :=
  { d with state := .updating }

/-- Resolve again; tells whether the configuration differs from what is committed. -/
def update [BEq α] (fetch : Fetch α) (d : DynamicValue α L) :
    Journaled (DynamicValue α L × Bool) :=
  if d.policy = .never then pure (d, false)
  else do
    let fresh ← resolve d.owner fetch d.keys
    let next ← d.beginUpdate.stage fresh
    if d.state ≠ next.state then
      let owner := d.owner
      let before := d.state.name
      let after := next.state.name
      Journaled.debug s!"Dynamic value '{owner}': {before} -> {after}"
    return (next, !fresh.same d.committed)

/-- The key that a change is reported under: where the new value comes from, or where the
old one came from if there is no new one. -/
def changedKey (keys : List String) (old new : Slot α) : String :=
  (new <|> old).elim (keys.headD "") (·.key)

/-- Put the staged reading into force. -/
def commit [BEq α] (d : DynamicValue α L) :
    Journaled (DynamicValue α L × List (Delivery L α)) :=
  match d.staged with
  | none => pure (d, [])
  | some next =>
    let after := { d with committed := next }.settle
    if d.committed.same next then pure (after, [])
    else do
      let owner := d.owner
      let key := changedKey d.keys d.committed next
      Journaled.debug s!"Dynamic value '{owner}' committed new value of '{key}'"
      return (after, d.listeners.deliver ⟨key, d.value?, next.map (·.value)⟩)

def discard (d : DynamicValue α L) : DynamicValue α L :=
  if d.hasStaged then d.settle else d

/-- The committed value, brought up to date first under the immediate policy. -/
def get [BEq α] (fetch : Fetch α) (d : DynamicValue α L) :
    Journaled (DynamicValue α L × List (Delivery L α)) :=
  if d.policy = .immediate then do
    match ← d.update fetch with
    | (d, true) => d.commit
    | (d, false) => return (d, [])
  else pure (d, [])

/-- Commit, and give the value that is then in force. -/
def commitAndGet [BEq α] (d : DynamicValue α L) :
    Journaled (DynamicValue α L × List (Delivery L α) × Option α) := do
  let (d, deliveries) ← d.commit
  return (d, deliveries, d.value?)

/-- Read, and tell whether there is a value. -/
def isPresent [BEq α] (fetch : Fetch α) (d : DynamicValue α L) :
    Journaled (DynamicValue α L × List (Delivery L α) × Bool) := do
  let (d, deliveries) ← d.get fetch
  return (d, deliveries, d.value?.isSome)

/-- Read, and give the default where there is no value. -/
def orElse [BEq α] (fetch : Fetch α) (d : DynamicValue α L) (default : α) :
    Journaled (DynamicValue α L × List (Delivery L α) × α) := do
  let (d, deliveries) ← d.get fetch
  return (d, deliveries, d.value?.getD default)

def onChange (d : DynamicValue α L) (l : L) : DynamicValue α L :=
  { d with listeners := d.listeners.onChange l }

/-! ## Description -/

def description (d : DynamicValue α L) : String :=
  Text.record "DynamicValue"
    [("owner", Text.quoted d.owner), ("keys", Text.quotedList d.keys),
     ("policy", d.policy.name), ("state", d.state.name)]

end DynamicValue

end LayeredConfig
