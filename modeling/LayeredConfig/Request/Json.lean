import LayeredConfig.Json.Decode
import LayeredConfig.Json.Parser
import LayeredConfig.Request

/-!
# Change requests as JSON

Settings and removals are always written, and may be left out.
-/
namespace LayeredConfig

def Timestamp.ofJson? (j : Json) : Option Timestamp := do
  Timestamp.ofString? (← j.text?)

namespace ChangeRequest

def toJson (r : ChangeRequest) : Json :=
  .obj [("id", .str r.id), ("created_at", .str r.createdAt.toString),
    ("puts", .ofTextMap r.puts), ("removes", .ofTexts r.removes.keys)]

def ofJson? (j : Json) : Option ChangeRequest := do
  match ← j.record? ["id", "created_at", "puts", "removes"] with
  | [id, createdAt, puts, removes] => do
    let id ← (← id).text?
    let createdAt ← Timestamp.ofJson? (← createdAt)
    let puts ← (puts.getD (.obj [])).textMap?
    let removes ← (removes.getD (.arr [])).textSet?
    return { id, createdAt, puts, removes }
  | _ => none

def toText (r : ChangeRequest) : String :=
  r.toJson.compact

def ofText? (s : String) : Option ChangeRequest := do
  ofJson? (← Json.parse? s)

end ChangeRequest

end LayeredConfig
