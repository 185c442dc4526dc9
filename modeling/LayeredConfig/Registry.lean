import LayeredConfig.Arrangement
import LayeredConfig.Numeral.Integer
import LayeredConfig.Source

/-!
# The registry of sources

Sources are listed by effective ordinal, and within one ordinal by name from last to
first; the last of the listing takes precedence. A name stands once: registering it
again replaces the source.
-/
namespace LayeredConfig

/-! ## Effective ordinals -/

/-- The ordinal that a property declares as a text, in its metadata or else in its value. -/
def Property.declaredOrdinal? (p : Property) : Option String :=
  p.metadata? Metadata.ordinal <|> p.value

namespace Mount

/-- What a source declares under one of the ordinal keys. -/
def declaredOrdinal (m : Mount) (key : String) : Journaled (Option String) := do
  match ← m.get key with
  | .ok found => pure (found.bind Property.declaredOrdinal?)
  | .error e => do
    let name := m.name
    let reason := e.message
    Journaled.warn s!"Failed to read ordinal of property source '{name}': {reason}"
    pure none

/-- The declared ordinal, or the source's own where the declaration is no number. -/
def readOrdinal (m : Mount) (key raw : String) : Journaled Int :=
  match IntType.readDecimal? .i32 (Text.trimChars raw.toList) with
  | some n => pure n
  | none => do
    let name := m.name
    let own := m.source.ordinal
    Journaled.warn
      s!"Ignoring invalid {key} '{raw}' of property source '{name}', using {own}"
    pure own

/-- The first declaration under the given keys decides. -/
def ordinalAmong (m : Mount) : List String → Journaled Int
  | [] => pure m.source.ordinal
  | key :: keys => do
    match ← m.declaredOrdinal key with
    | some raw => m.readOrdinal key raw
    | none => m.ordinalAmong keys

def effectiveOrdinal (m : Mount) : Journaled Int :=
  m.ordinalAmong [Metadata.ordinal, Metadata.ordinalVariable]

end Mount

/-! ## The listing -/

/-- A source in the listing, with the ordinal it had when it was registered. -/
structure Rank where
  id : SourceId
  name : String
  ordinal : Int
deriving DecidableEq, Repr

namespace Rank

/-- The order of the listing. -/
def before (a b : Rank) : Bool :=
  a.ordinal < b.ordinal || (a.ordinal == b.ordinal && b.name < a.name)

def ofMount (m : Mount) : Journaled Rank := do
  return ⟨m.id, m.name, ← m.effectiveOrdinal⟩

def description (r : Rank) : String :=
  Text.record "RankedSource" [("name", Text.quoted r.name), ("ordinal", toString r.ordinal)]

end Rank

structure Registry where
  ranks : List Rank := []
deriving DecidableEq

namespace Registry

def empty : Registry := {}

/-- Register one source in the place of one of the same name. -/
def register (g : Registry) (m : Mount) : Journaled Registry := do
  let name := m.name
  let others := g.ranks.filter (·.name != name)
  if g.ranks.any (·.name == name) then
    Journaled.debug s!"Replacing property source '{name}'"
  let rank ← Rank.ofMount m
  let ordinal := rank.ordinal
  Journaled.debug s!"Registered property source '{name}' with ordinal {ordinal}"
  return ⟨place Rank.before rank others⟩

def withSources (g : Registry) (batch : List Mount) : Journaled Registry :=
  batch.foldlM register g

def withoutSources (g : Registry) (names : List String) : Registry :=
  ⟨g.ranks.filter fun r => !names.contains r.name⟩

def names (g : Registry) : List String :=
  g.ranks.map (·.name)

def ids (g : Registry) : List SourceId :=
  g.ranks.map (·.id)

def size (g : Registry) : Nat := g.ranks.length

def isEmpty (g : Registry) : Bool := g.ranks.isEmpty

/-- The sources from the one that takes precedence down. -/
def precedence (g : Registry) : List Rank := g.ranks.reverse

def find? (g : Registry) (name : String) : Option SourceId :=
  (g.ranks.find? (·.name == name)).map (·.id)

/-- The sources that take changes, in order of precedence. -/
def mutableMounts (g : Registry) (σ : Sources) : List Mount :=
  (σ.mounts g.ids.reverse).filter (·.source.isMutable)

def description (g : Registry) : String :=
  Text.record "PropertySourceRegistry"
    [("sources", Text.bracketed (g.ranks.map Rank.description))]

end Registry

/-! ## Reading one key -/

/-- The property of the first source, from the top down, that has one for the key; no
source below it is asked. -/
def firstHolder (key : String) : List Mount → Journaled (Option Property)
  | [] => pure none
  | m :: ms => do
    match ← m.find key with
    | some p => pure (some p)
    | none => firstHolder key ms

/-- What all sources have for the key, in the order given. -/
def candidates (key : String) : List Mount → Journaled (List Property)
  | [] => pure []
  | m :: ms => do
    let found ← m.find key
    let others ← candidates key ms
    return found.toList ++ others

end LayeredConfig
