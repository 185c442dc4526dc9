import LayeredConfig.Error
import LayeredConfig.Numeral.Binary

/-!
# Conversion of texts

A value is stored as a text and read as one of some family of types. Converters are asked from
the latest registered to the earliest; the first that accepts the text decides, and the
converters of other types have no say.
-/
namespace LayeredConfig

/-- A family of types that texts are read as. Its members are told apart when a converter is
looked for. -/
class TypeFamily (κ : Type) where
  [decEq : DecidableEq κ]
  Carrier : κ → Type
  /-- The name of the type in error messages. -/
  typeName : κ → String
  /-- The converters that there are before any is registered. -/
  standard : List ((k : κ) × (String → Option (Carrier k)))

attribute [reducible, instance] TypeFamily.decEq
attribute [reducible] TypeFamily.Carrier

abbrev Converter {κ : Type} [TypeFamily κ] (k : κ) : Type :=
  String → Option (TypeFamily.Carrier k)

/-! ## The usual types -/

inductive Kind where
  | string
  | bool
  | char
  | int (type : IntType)
  | float (type : FloatType)
deriving DecidableEq, Repr

namespace Kind

@[reducible] def Carrier : Kind → Type
  | string => String
  | bool => Bool
  | char => Char
  | int _ => Int
  | float _ => Binary

instance : (k : Kind) → BEq k.Carrier
  | string => inferInstanceAs (BEq String)
  | bool => inferInstanceAs (BEq Bool)
  | char => inferInstanceAs (BEq Char)
  | int _ => inferInstanceAs (BEq Int)
  | float _ => inferInstanceAs (BEq Binary)

def all : List Kind :=
  [string, bool, char] ++ IntType.all.map int ++ FloatType.all.map float

/-- The name of the type in error messages. -/
def typeName : Kind → String
  | string => "alloc::string::String"
  | bool => "bool"
  | char => "char"
  | int t => t.name
  | float t => t.name

end Kind

/-! ## The default conversions -/

def readBool? (s : String) : Option Bool :=
  let word : String := .ofList ((Text.trimChars s.toList).map Char.toLower)
  if word ∈ ["true", "yes", "y", "on", "1"] then some true
  else if word ∈ ["false", "no", "n", "off", "0"] then some false
  else none

def readChar? (s : String) : Option Char :=
  match s.toList with
  | [c] => some c
  | _ => none

def Kind.read? : (k : Kind) → String → Option k.Carrier
  | .string => some
  | .bool => readBool?
  | .char => readChar?
  | .int t => t.read?
  | .float t => Binary.read? t

@[reducible, default_instance] instance : TypeFamily Kind where
  Carrier := Kind.Carrier
  typeName := Kind.typeName
  standard := Kind.all.map fun k => ⟨k, k.read?⟩

/-! ## Registered converters -/

/-- The converters of each type, the latest first, and the types that have any. -/
structure Converters (κ : Type := Kind) [TypeFamily κ] where
  table : (k : κ) → List (Converter k)
  types : List κ
  nodup_types : types.Nodup
  mem_types : ∀ k, k ∈ types ↔ table k ≠ []

namespace Converters

variable {κ : Type} [TypeFamily κ]

def empty (κ : Type := Kind) [TypeFamily κ] : Converters κ where
  table _ := []
  types := []
  nodup_types := .nil
  mem_types _ := by simp

def register (cs : Converters κ) (k : κ) (c : Converter k) : Converters κ where
  table j := if h : k = j then (h ▸ c) :: cs.table j else cs.table j
  types := if k ∈ cs.types then cs.types else k :: cs.types
  nodup_types := by
    split
    · exact cs.nodup_types
    · next h => exact List.nodup_cons.mpr ⟨h, cs.nodup_types⟩
  mem_types j := by
    by_cases hj : k = j
    · subst hj
      split <;> simp_all
    · have hmem := cs.mem_types j
      split <;> simp_all [Ne.symm hj]

def registerAll (cs : Converters κ) (entries : List ((k : κ) × Converter k)) : Converters κ :=
  entries.foldl (fun cs e => cs.register e.1 e.2) cs

def defaults (κ : Type := Kind) [TypeFamily κ] : Converters κ :=
  (empty κ).registerAll (TypeFamily.standard)

def has (cs : Converters κ) (k : κ) : Bool :=
  !(cs.table k).isEmpty

/-- The number of types that have a converter. -/
def size (cs : Converters κ) : Nat :=
  cs.types.length

def isEmpty (cs : Converters κ) : Bool :=
  cs.size == 0

def convert (cs : Converters κ) (k : κ) (key raw : String) :
    Except Error (TypeFamily.Carrier k) :=
  if cs.has k then
    match (cs.table k).findSome? (· raw) with
    | some value => .ok value
    | none => .error (.conversion key raw (TypeFamily.typeName k))
  else .error (.noConverter (TypeFamily.typeName k))

def description (cs : Converters κ) : String :=
  Text.record "ConverterRegistry" [("types", toString cs.size)]

end Converters

end LayeredConfig
