import LayeredConfig.Json.Decode
import LayeredConfig.Json.Parser
import LayeredConfig.Property

/-!
# Properties as JSON

The metadata are written only if there are any, and may be left out.
-/
namespace LayeredConfig.Property

def toJson (p : Property) : Json :=
  let fields := [("key", .str p.key), ("value", .ofOption .str p.value), ("source", .str p.source)]
  let metadata := if p.metadata.isEmpty then [] else [("metadata", .ofTextMap p.metadata)]
  .obj (fields ++ metadata)

def ofJson? (j : Json) : Option Property := do
  match ← j.record? ["key", "value", "source", "metadata"] with
  | [key, value, source, metadata] => do
    let key ← (← key).text?
    let value ← (value.getD .null).nullable? Json.text?
    let source ← (← source).text?
    let metadata ← (metadata.getD (.obj [])).textMap?
    return { key, value, source, metadata }
  | _ => none

def toText (p : Property) : String :=
  p.toJson.compact

def ofText? (s : String) : Option Property := do
  ofJson? (← Json.parse? s)

end LayeredConfig.Property
