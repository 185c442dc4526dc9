import LayeredConfig.Source

/-!
# Backups

A store keeps numbered copies of what sources held, oldest first, and under a cap only the
latest of them. Versions of a source count on from the last one kept.
-/
namespace LayeredConfig

structure Backup where
  version : Nat
  takenAt : Timestamp
  properties : StringMap String
deriving DecidableEq

structure BackupStore where
  backups : StringMap (List Backup) := ∅
  maxVersions : Option Nat := none
deriving DecidableEq

namespace BackupStore

def empty : BackupStore := {}

/-- A store that keeps at most so many versions of a source, and at least one. -/
def withMaxVersions (max : Nat) : BackupStore :=
  { maxVersions := some (Nat.max max 1) }

/-! ## Inspection -/

def ofSource (s : BackupStore) (name : String) : List Backup :=
  (s.backups.get? name).getD []

def latest? (s : BackupStore) (name : String) : Option Backup :=
  (s.ofSource name).getLast?

def version? (s : BackupStore) (name : String) (version : Nat) : Option Backup :=
  (s.ofSource name).find? (·.version == version)

def versions (s : BackupStore) (name : String) : List Nat :=
  (s.ofSource name).map (·.version)

def sourceNames (s : BackupStore) : List String :=
  s.backups.keys

def size (s : BackupStore) : Nat :=
  s.backups.values.flatten.length

def isEmpty (s : BackupStore) : Bool :=
  s.size == 0

/-! ## Taking backups -/

/-- Drop the oldest versions beyond the cap. -/
def prune (maxVersions : Option Nat) (versions : List Backup) : List Backup :=
  match maxVersions with
  | some max => versions.drop (versions.length - max)
  | none => versions

/-- The number after the last one. Numbers have 64 bits and begin again behind the greatest. -/
def nextVersion (versions : List Backup) : Nat :=
  match versions.getLast? with
  | some b => (b.version + 1) % Nat.pow 2 64
  | none => 1

/-- The texts of a listing; a property without one is not kept. -/
def texts (listed : StringMap Property) : StringMap String :=
  listed.filterMap fun _ p => p.value

def push (s : BackupStore) (name : String) (takenAt : Timestamp) (properties : StringMap String) :
    BackupStore :=
  let versions := s.ofSource name
  let backup : Backup := ⟨nextVersion versions, takenAt, properties⟩
  { s with backups := s.backups.insert name (prune s.maxVersions (versions ++ [backup])) }

/-- Back a source up, and tell the version. A source that cannot be listed leaves the store
as it is. -/
def backup (s : BackupStore) (m : Mount) (now : Timestamp) :
    Journaled (Except Error Nat × BackupStore) := do
  match ← m.list with
  | .error e => return (.error e, s)
  | .ok listed => do
    let name := m.name
    let version := nextVersion (s.ofSource name)
    Journaled.debug s!"Backed up property source '{name}' as version {version}"
    return (.ok version, s.push name now (texts listed))

def remove (s : BackupStore) (name : String) : BackupStore × Bool :=
  ({ s with backups := s.backups.erase name }, s.backups.contains name)

/-! ## Restoring -/

/-- The backup of the version, or the latest one. -/
def find? (s : BackupStore) (name : String) : Option Nat → Option Backup
  | some version => s.version? name version
  | none => s.latest? name

/-- Write a backup back into a source, and tell its version. -/
def restoreInto (s : BackupStore) (m : Mount) (version : Option Nat) (σ : Sources) :
    Journaled (Except Error Nat × Sources) :=
  match s.find? m.name version with
  | none => pure (.error (.backupNotFound m.name version), σ)
  | some b => do
    match ← σ.replace m.id b.properties with
    | (.error e, σ) => return (.error e, σ)
    | (.ok (), σ) => do
      let name := m.name
      let restored := b.version
      Journaled.info s!"Restored property source '{name}' to version {restored}"
      return (.ok restored, σ)

end BackupStore

end LayeredConfig
