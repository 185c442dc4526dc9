import LayeredConfig.Json
import LayeredConfig.StringMap

/-!
# Reading records from JSON values

A record is an object, whose unknown fields are passed over and whose known fields
may stand only once, or an array of the fields in their order.
-/
namespace LayeredConfig.Json

/-- The fields of a record in the order of their names, `none` for one that is left out. -/
def record? (names : List String) : Json → Option (List (Option Json))
  | .obj fields => names.mapM fun name =>
    match fields.filter (·.1 == name) with
    | [] => some none
    | [(_, v)] => some (some v)
    | _ => none
  | .arr items =>
    if items.length ≤ names.length then
      some (items.map some ++ List.replicate (names.length - items.length) none)
    else none
  | _ => none

def text? : Json → Option String
  | .str s => some s
  | _ => none

/-- A natural number below `2 ^ 64`. -/
def count? : Json → Option Nat
  | .int n => if 0 ≤ n ∧ n.toNat < Nat.pow 2 64 then some n.toNat else none
  | _ => none

/-- A value that may be `null`. -/
def nullable? {α : Type} (read : Json → Option α) : Json → Option (Option α)
  | .null => some none
  | v => (read v).map some

def list? {α : Type} (read : Json → Option α) : Json → Option (List α)
  | .arr items => items.mapM read
  | _ => none

/-- An object as a map; of two fields with one name the later counts. -/
def map? {α : Type} (read : Json → Option α) : Json → Option (StringMap α)
  | .obj fields => do
    let entries ← fields.mapM fun (k, v) => (read v).map (k, ·)
    return .ofList entries
  | _ => none

def textMap? : Json → Option (StringMap String) :=
  map? text?

def textSet? (j : Json) : Option StringSet :=
  (list? text? j).map StringSet.ofList

/-! ## Writing maps -/

def ofMap {α : Type} (write : α → Json) (m : StringMap α) : Json :=
  .obj (m.entries.map fun e => (e.1, write e.2))

def ofTextMap : StringMap String → Json :=
  ofMap .str

def ofTexts (texts : List String) : Json :=
  .arr (texts.map .str)

def ofOption {α : Type} (write : α → Json) : Option α → Json
  | some a => write a
  | none => .null

end LayeredConfig.Json
