import LayeredConfig.Backup
import LayeredConfig.Configuration
import LayeredConfig.Listeners
import LayeredConfig.Propagation
import LayeredConfig.Validators

/-!
# Editing a configuration

An editor collects changes in a pending request. Storing it validates every value, backs up
the sources that take changes, has the policy carry the request out, and tells the listeners
which of its keys read differently afterwards.
-/
namespace LayeredConfig

structure Editor (L : Type) where
  policy : Policy
  /-- What has been asked for since the last store. -/
  request : ChangeRequest
  listeners : Listeners L := {}
  validators : Validators := .empty

/-- What a store leaves behind. -/
structure Stored (L : Type) where
  editor : Editor L
  sources : Sources
  backups : Option BackupStore
  deliveries : List (Delivery L String) := []
  result : Except Error Outcome

namespace Editor

variable {L : Type}

def new (policy : Policy) (stamp : Stamp) : Editor L :=
  { policy, request := .new stamp }

/-! ## Pending changes -/

def put (e : Editor L) (key value : String) : Editor L :=
  { e with request := e.request.put key value }

def putAll (e : Editor L) (entries : List (String × String)) : Editor L :=
  { e with request := e.request.putAll entries }

def remove (e : Editor L) (key : String) : Editor L :=
  { e with request := e.request.remove key }

def removeAll (e : Editor L) (keys : List String) : Editor L :=
  { e with request := e.request.removeAll keys }

/-- Begin anew; gives the request that is dropped. -/
def discard (e : Editor L) (stamp : Stamp) : Journaled (Editor L × ChangeRequest) := do
  let request := e.request.id
  Journaled.debug s!"Discarded change request {request}"
  return ({ e with request := .new stamp }, e.request)

def addValidator (e : Editor L) (key : String) (v : Validator) : Editor L :=
  { e with validators := e.validators.add key v }

def onChange (e : Editor L) (l : L) : Editor L :=
  { e with listeners := e.listeners.onChange l }

def watch (e : Editor L) (key : String) (l : L) : Editor L :=
  { e with listeners := e.listeners.watch key l }

/-! ## The steps of a store -/

/-- The objection to the first value, in key order, that meets one. -/
def objection? (e : Editor L) : Option Error :=
  e.request.puts.entries.findSome? fun (key, value) =>
    (e.validators.objection? key value).map (.validation key)

/-- Back up each source; one that cannot be backed up does not hinder the others. -/
def backupAll (now : Timestamp) : List Mount → BackupStore → Journaled BackupStore
  | [], s => pure s
  | m :: ms, s => do
    match ← s.backup m now with
    | (.ok _, s) => backupAll now ms s
    | (.error e, s) => do
      let name := m.name
      let reason := e.message
      Journaled.warn s!"Failed to back up property source '{name}': {reason}"
      backupAll now ms s

/-- How a key reads, where a failure counts as absence. -/
def readQuietly (v : View) (key : String) : Journaled (Option String) := do
  match ← v.getText key with
  | .ok found => pure found
  | .error e => do
    let reason := e.message
    Journaled.warn s!"Could not read '{key}' for change notification: {reason}"
    pure none

def readAll (v : View) : List String → Journaled (List (String × Option String))
  | [] => pure []
  | key :: keys => do
    let found ← readQuietly v key
    let others ← readAll v keys
    return (key, found) :: others

/-- The changes against what was read before. -/
def changesSince (v : View) : List (String × Option String) → Journaled (List (Change String))
  | [] => pure []
  | (key, old) :: before => do
    let new ← readQuietly v key
    let others ← changesSince v before
    return if old = new then others else ⟨key, old, new⟩ :: others

/-- Carry a request out and report the keys that read differently. Where no source accepted
anything, nothing is read again. -/
def carryOut (e : Editor L) (c : Configuration) (σ : Sources) (targets : List Mount)
    (r : ChangeRequest) : Journaled (Outcome × Sources × List (Change String)) := do
  let before ← readAll (c.view σ) r.keys
  let (outcome, σ) ← e.policy.propagate r targets σ
  let request := r.id
  let policy := e.policy.name
  let updated := outcome.applied.length
  let failed := outcome.failures.length
  Journaled.info s!"Stored change request {request} via {policy}: {updated} source(s) updated, {failed} failure(s)"
  if outcome.applied.isEmpty then return (outcome, σ, [])
  else return (outcome, σ, ← changesSince (c.view σ) before)

/-! ## Storing -/

/-- Store the pending request; the stamp marks the request that is pending afterwards. -/
def store (e : Editor L) (c : Configuration) (σ : Sources) (backups : Option BackupStore)
    (stamp : Stamp) : Journaled (Stored L) :=
  match e.objection? with
  | some objection =>
    pure { editor := e, sources := σ, backups, result := .error objection }
  | none => do
    let r := e.request
    let next := { e with request := .new stamp }
    if r.isEmpty then
      let request := r.id
      Journaled.debug s!"Change request {request} is empty, nothing to store"
      return { editor := next, sources := σ, backups, result := .ok (.new r.id) }
    else
      let targets := c.registry.mutableMounts σ
      let backups ← match backups with
        | some s => some <$> backupAll stamp.time targets s
        | none => pure none
      let (outcome, sources, changes) ← e.carryOut c σ targets r
      return {
        editor := next
        sources
        backups
        deliveries := changes.flatMap e.listeners.deliver
        result := .ok outcome }

end Editor

end LayeredConfig
