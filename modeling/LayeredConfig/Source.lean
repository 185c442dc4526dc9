import LayeredConfig.Error
import LayeredConfig.Journal
import LayeredConfig.Property
import LayeredConfig.Request

/-!
# Sources

A source is a named holder of properties. Memory sources hold texts that can be changed;
environment sources show the variables of an environment; a custom source answers in any
way at all, by functions of what it holds. A source is a value: its changes are made where
it is kept, under its identity, in `Sources`.
-/
namespace LayeredConfig

structure MemorySource where
  name : String
  ordinal : Int := 0
  scannable : Bool := true
  readOnly : Bool := false
  entries : StringMap String := ∅
deriving DecidableEq

structure EnvironmentSource where
  vars : StringMap String
  /-- What the name of a variable has in front of the key, where only some variables are shown. -/
  stem : Option String := none
  ordinal : Int := 300
deriving DecidableEq

/-- How a custom source takes changes: what it then holds, or why it refuses. -/
structure Writer where
  change : ChangeRequest → StringMap Property → Except Error (StringMap Property)
  replace : StringMap String → StringMap Property → Except Error (StringMap Property)

structure CustomSource where
  name : String
  ordinal : Int := 0
  scannable : Bool := true
  content : StringMap Property := ∅
  get : StringMap Property → String → Except Error (Option Property) := fun m key => .ok (m.get? key)
  list : StringMap Property → Except Error (StringMap Property) := .ok
  writer : Option Writer := none

inductive Source where
  | memory (s : MemorySource)
  | environment (s : EnvironmentSource)
  | custom (s : CustomSource)

/-! ## Memory sources -/

namespace MemorySource

def get (s : MemorySource) (key : String) : Option Property :=
  (s.entries.get? key).map fun value => .text key value s.name

def list (s : MemorySource) : StringMap Property :=
  s.entries.map fun key value => .text key value s.name

def set (s : MemorySource) (key value : String) : MemorySource :=
  { s with entries := s.entries.insert key value }

/-- Remove a key; also gives the text that was there. -/
def unset (s : MemorySource) (key : String) : MemorySource × Option String :=
  ({ s with entries := s.entries.erase key }, s.entries.get? key)

def rejection (s : MemorySource) : Error :=
  .changeRejected s.name "source is read-only"

def change (s : MemorySource) (r : ChangeRequest) : Except Error MemorySource :=
  if s.readOnly then .error s.rejection else .ok { s with entries := r.applyTo s.entries }

def replace (s : MemorySource) (content : StringMap String) : Except Error MemorySource :=
  if s.readOnly then .error s.rejection else .ok { s with entries := content }

end MemorySource

/-! ## Environment sources -/

namespace EnvironmentSource

def name (s : EnvironmentSource) : String :=
  match s.stem with
  | some stem => s!"environment-properties[{stem}]"
  | none => "environment-properties"

def get (s : EnvironmentSource) (key : String) : Option Property :=
  (s.vars.get? (s.stem.getD "" ++ key)).map fun value => .text key value s.name

/-- The key under which a variable is shown. -/
def keyOf? (s : EnvironmentSource) (name : String) : Option String :=
  match s.stem with
  | some stem =>
    if stem.toList.isPrefixOf name.toList then
      some (.ofList (name.toList.drop stem.toList.length))
    else none
  | none => some name

def list (s : EnvironmentSource) : StringMap Property :=
  .ofList (s.vars.entries.filterMap fun e =>
    (s.keyOf? e.1).map fun key => (key, .text key e.2 s.name))

end EnvironmentSource

/-! ## All sources -/

namespace Source

def name : Source → String
  | memory s => s.name
  | environment s => s.name
  | custom s => s.name

/-- The ordinal a source has of its own; what it holds may declare another one. -/
def ordinal : Source → Int
  | memory s => s.ordinal
  | environment s => s.ordinal
  | custom s => s.ordinal

def isScannable : Source → Bool
  | memory s => s.scannable
  | environment _ => true
  | custom s => s.scannable

def isMutable : Source → Bool
  | memory _ => true
  | environment _ => false
  | custom s => s.writer.isSome

def get : Source → String → Except Error (Option Property)
  | memory s, key => .ok (s.get key)
  | environment s, key => .ok (s.get key)
  | custom s, key => s.get s.content key

def list : Source → Except Error (StringMap Property)
  | memory s => .ok s.list
  | environment s => .ok s.list
  | custom s => s.list s.content

/-- The source after a change. -/
def change : Source → ChangeRequest → Except Error Source
  | memory s, r => (s.change r).map memory
  | environment s, _ => .error (.notMutable s.name)
  | custom s, r =>
    match s.writer with
    | some w => (w.change r s.content).map fun content => custom { s with content }
    | none => .error (.notMutable s.name)

/-- The source with another content. -/
def replace : Source → StringMap String → Except Error Source
  | memory s, m => (s.replace m).map memory
  | environment s, _ => .error (.notMutable s.name)
  | custom s, m =>
    match s.writer with
    | some w => (w.replace m s.content).map fun content => custom { s with content }
    | none => .error (.notMutable s.name)

end Source

/-! ## Sources in their places -/

/-- A source together with its identity. -/
structure Mount where
  id : SourceId
  source : Source

namespace Mount

def name (m : Mount) : String := m.source.name

def get (m : Mount) (key : String) : Journaled (Except Error (Option Property)) :=
  .accessing m.id (.get key) (m.source.get key)

def list (m : Mount) : Journaled (Except Error (StringMap Property)) :=
  .accessing m.id .list m.source.list

/-- The property a source has for a key; one that fails has none. -/
def find (m : Mount) (key : String) : Journaled (Option Property) := do
  match ← m.get key with
  | .ok found => pure found
  | .error e => do
    let name := m.name
    let reason := e.message
    Journaled.warn s!"Property source '{name}' failed to resolve '{key}', skipping: {reason}"
    pure none

end Mount

/-- What all sources hold at one moment, by identity. -/
structure Sources where
  cells : Array Source := #[]

namespace Sources

def empty : Sources := {}

def get? (σ : Sources) (id : SourceId) : Option Source :=
  σ.cells[id]?

def mount? (σ : Sources) (id : SourceId) : Option Mount :=
  (σ.get? id).map (⟨id, ·⟩)

/-- The sources behind a list of identities. -/
def mounts (σ : Sources) (ids : List SourceId) : List Mount :=
  ids.filterMap σ.mount?

/-- Keep one more source, under a new identity. -/
def add (σ : Sources) (s : Source) : SourceId × Sources :=
  (σ.cells.size, ⟨σ.cells.push s⟩)

def set (σ : Sources) (id : SourceId) (s : Source) : Sources :=
  ⟨σ.cells.setIfInBounds id s⟩

/-- Ask a source to carry out a request. A source that refuses stays as it was. -/
def change (σ : Sources) (id : SourceId) (r : ChangeRequest) :
    Journaled (Except Error Unit × Sources) :=
  match σ.get? id with
  | none => pure (.error (.sourceNotFound (toString id)), σ)
  | some s => do
    match ← Journaled.accessing id (.change r.id) (s.change r) with
    | .error e => pure (.error e, σ)
    | .ok s' => do
      logChange s r
      pure (.ok (), σ.set id s')
where
  logChange (s : Source) (r : ChangeRequest) : Journaled Unit :=
    match s with
    | .memory m => do
      let request := r.id
      let name := m.name
      let puts := r.puts.size
      let removes := r.removes.size
      Journaled.debug
        s!"Applied change request {request} to '{name}' ({puts} puts, {removes} removes)"
    | _ => pure ()

/-- Ask a source to hold another content. -/
def replace (σ : Sources) (id : SourceId) (content : StringMap String) :
    Journaled (Except Error Unit × Sources) :=
  match σ.get? id with
  | none => pure (.error (.sourceNotFound (toString id)), σ)
  | some s => do
    match ← Journaled.accessing id .replace (s.replace content) with
    | .error e => pure (.error e, σ)
    | .ok s' => pure (.ok (), σ.set id s')

end Sources

end LayeredConfig
