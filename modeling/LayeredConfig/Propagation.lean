import LayeredConfig.Source

/-!
# Propagation of changes

A policy decides which of the sources that take changes are asked to carry out a request,
and with which part of it. The outcome names the sources that did, and the failures.
-/
namespace LayeredConfig

structure Outcome where
  requestId : String
  applied : List String := []
  failures : List Failure := []
deriving DecidableEq

namespace Outcome

def new (requestId : String) : Outcome := { requestId }

def recordSuccess (o : Outcome) (source : String) : Outcome :=
  { o with applied := o.applied ++ [source] }

def recordFailure (o : Outcome) (source message : String) : Journaled Outcome := do
  let request := o.requestId
  Journaled.warn s!"Change request {request} failed for '{source}': {message}"
  return { o with failures := o.failures ++ [⟨source, message⟩] }

def isComplete (o : Outcome) : Bool :=
  o.failures.isEmpty

/-- The outcome, unless something failed. -/
def result (o : Outcome) : Except Error Outcome :=
  if o.isComplete then .ok o else .error (.partialPropagation o.requestId o.failures)

end Outcome

/-! ## Asking sources -/

/-- Ask one source, and record how it went. -/
def applyTo (m : Mount) (r : ChangeRequest) (o : Outcome) (σ : Sources) :
    Journaled (Outcome × Sources) := do
  match ← σ.change m.id r with
  | (.ok (), σ) => return (o.recordSuccess m.name, σ)
  | (.error e, σ) => return (← o.recordFailure m.name e.message, σ)

def applyToAll (r : ChangeRequest) :
    List Mount → Outcome → Sources → Journaled (Outcome × Sources)
  | [], o, σ => pure (o, σ)
  | m :: ms, o, σ => do
    let (o, σ) ← applyTo m r o σ
    applyToAll r ms o σ

/-! ## Routing key by key -/

/-- The place of the first source that holds the key. -/
def firstHolderIndex (key : String) : List Mount → Journaled (Option Nat)
  | [] => pure none
  | m :: ms => do
    match ← m.find key with
    | some _ => pure (some 0)
    | none => return (← firstHolderIndex key ms).map (· + 1)

/-- The keys with the place of the source they go to: the first holder, else the fallback.
A key with neither is a failure. -/
def route (targets : List Mount) (fallback : String) :
    List String → Outcome → Journaled (List (String × Nat) × Outcome)
  | [], o => pure ([], o)
  | key :: keys, o => do
    let holder ← firstHolderIndex key targets
    match holder <|> targets.findIdx? (·.name == fallback) with
    | some i => do
      let (routed, o) ← route targets fallback keys o
      return ((key, i) :: routed, o)
    | none => do
      let o ← o.recordFailure fallback
        s!"no source holds '{key}' and the default source is not registered"
      route targets fallback keys o

/-- The part of the request for one place, with the identity of the whole. -/
def ChangeRequest.part (r : ChangeRequest) (routed : List (String × Nat)) (place : Nat) :
    ChangeRequest :=
  (routed.filter (·.2 == place)).foldl
    (fun part e => match r.puts.get? e.1 with
      | some value => part.put e.1 value
      | none => part.remove e.1)
    r.deriveEmpty

/-- Hand out the parts, from the first place on. -/
def applyParts (r : ChangeRequest) (routed : List (String × Nat)) :
    List (Mount × Nat) → Outcome → Sources → Journaled (Outcome × Sources)
  | [], o, σ => pure (o, σ)
  | (m, i) :: ms, o, σ => do
    let part := r.part routed i
    if part.isEmpty then applyParts r routed ms o σ
    else do
      let count := part.size
      let request := r.id
      let name := m.name
      Journaled.debug s!"Routing {count} change(s) of request {request} to '{name}'"
      let (o, σ) ← applyTo m part o σ
      applyParts r routed ms o σ

/-! ## Policies -/

inductive Policy where
  | all
  /-- Each key goes to the first source that holds it, else to the named source. -/
  | firstMatching (fallback : String)
  | mostSignificant
  | selective (names : StringSet)
  /-- Nothing is asked. -/
  | dryRun
deriving DecidableEq

namespace Policy

def name : Policy → String
  | all => "apply-to-all"
  | firstMatching _ => "apply-to-first-matching"
  | mostSignificant => "most-significant-only"
  | selective _ => "selective"
  | dryRun => "no-op"

def noMutableSource : String := "no mutable property source registered"

/-- Record the names for which there is no source that takes changes. -/
def recordMissing (targets : List Mount) (names : List String) (o : Outcome) :
    Journaled Outcome :=
  (names.filter fun name => !targets.any (·.name == name)).foldlM
    (fun o name => o.recordFailure name (Error.notMutable name).message) o

/-- Carry out a request on sources that take changes, given in order of precedence. -/
def propagate (p : Policy) (r : ChangeRequest) (targets : List Mount) (σ : Sources) :
    Journaled (Outcome × Sources) :=
  let start := Outcome.new r.id
  match p with
  | all =>
    if targets.isEmpty then do return (← start.recordFailure "*" noMutableSource, σ)
    else applyToAll r targets start σ
  | firstMatching fallback => do
    let (routed, o) ← route targets fallback r.keys start
    applyParts r routed targets.zipIdx o σ
  | mostSignificant =>
    match targets with
    | m :: _ => applyTo m r start σ
    | [] => do return (← start.recordFailure "*" noMutableSource, σ)
  | selective names => do
    let (o, σ) ← applyToAll r (targets.filter fun m => names.contains m.name) start σ
    return (← recordMissing targets names.keys o, σ)
  | dryRun => do
    let request := r.id
    let count := r.size
    Journaled.info s!"Dry run: change request {request} with {count} change(s) not applied"
    return (start, σ)

end Policy

end LayeredConfig
