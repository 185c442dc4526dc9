import LayeredConfig.Backup
import LayeredConfig.Request.Json

/-!
# Backup stores as JSON

A store is written indented, with its cap if it has one. A store that is read keeps to its
cap at once.
-/
namespace LayeredConfig

namespace Backup

def toJson (b : Backup) : Json :=
  .obj [("version", .int b.version), ("taken_at", .str b.takenAt.toString),
    ("properties", .ofTextMap b.properties)]

def ofJson? (j : Json) : Option Backup := do
  match ← j.record? ["version", "taken_at", "properties"] with
  | [version, takenAt, properties] => do
    let version ← (← version).count?
    let takenAt ← Timestamp.ofJson? (← takenAt)
    let properties ← (← properties).textMap?
    return { version, takenAt, properties }
  | _ => none

end Backup

namespace BackupStore

def toJson (s : BackupStore) : Json :=
  let cap := s.maxVersions.toList.map fun max => ("max_versions", .int max)
  let backups := ("backups", .ofMap (fun bs => .arr (bs.map Backup.toJson)) s.backups)
  .obj (cap ++ [backups])

def ofJson? (j : Json) : Option BackupStore := do
  match ← j.record? ["max_versions", "backups"] with
  | [maxVersions, backups] => do
    let maxVersions ← (maxVersions.getD .null).nullable? Json.count?
    let backups ← (← backups).map? (Json.list? Backup.ofJson?)
    return { maxVersions, backups := backups.map fun _ bs => prune maxVersions bs }
  | _ => none

def toText (s : BackupStore) : String :=
  s.toJson.indented

def ofText? (t : String) : Option BackupStore := do
  ofJson? (← Json.parse? t)

end BackupStore

end LayeredConfig
