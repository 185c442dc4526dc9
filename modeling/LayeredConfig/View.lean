import LayeredConfig.Expression.Evaluator
import LayeredConfig.Filter
import LayeredConfig.Registry

/-!
# Reading a configuration

A view is what a configuration shows at one moment: the sources in listing order with
what they hold, and how their properties are combined, filtered and evaluated.
-/
namespace LayeredConfig

/-- How the properties of several sources for one key become one. -/
structure Combination where
  collect : Option Property → Property → Option Property
  /-- The last candidate alone counts, so the search may stop at the highest holder. -/
  overrides : Bool

namespace Combination

def overriding : Combination := ⟨fun _ candidate => some candidate, true⟩

def combine (c : Combination) (candidates : List Property) : Option Property :=
  candidates.foldl (fun current candidate => c.collect current candidate) none

end Combination

structure View where
  /-- In listing order: the last takes precedence. -/
  sources : List Mount
  combination : Combination
  filters : List Filter
  evaluator : Option Evaluator

namespace View

/-! ## One key -/

def resolve (v : View) (key : String) : Journaled (Option Property) :=
  if v.combination.overrides then firstHolder key v.sources.reverse
  else v.combination.combine <$> candidates key v.sources

/-- The filters of the configuration, then those of the caller. -/
def filter (v : View) (chain : FilterChain) (ctx : FilterContext) (p : Property) :
    Option Property :=
  (Filter.applyAll v.filters ctx p).bind (chain.apply ctx)

def filtered (v : View) (chain : FilterChain) (key : String) : Journaled (Option Property) := do
  return (← v.resolve key).bind (v.filter chain (.single key))

/-- What a placeholder sees of a key: filtered, but not evaluated. -/
def lookup (v : View) (chain : FilterChain) : Lookup := fun key => do
  return (← v.filtered chain key).bind (·.value)

/-- The property with its placeholders substituted. -/
def evaluate (v : View) (chain : FilterChain) (p : Property) :
    Journaled (Except Error Property) :=
  match v.evaluator, p.value with
  | some ev, some raw =>
    if Segment.needsEvaluation raw.toList then do
      return (← ev.evaluate (v.lookup chain) raw).map fun text => p.withValue (some text)
    else pure (.ok p)
  | _, _ => pure (.ok p)

def getWith (v : View) (chain : FilterChain) (key : String) :
    Journaled (Except Error (Option Property)) := do
  match ← v.filtered chain key with
  | none => return .ok none
  | some p => return (← v.evaluate chain p).map some

def get (v : View) (key : String) : Journaled (Except Error (Option Property)) :=
  v.getWith .empty key

def getText (v : View) (key : String) : Journaled (Except Error (Option String)) := do
  return (← v.get key).map fun found => found.bind (·.value)

/-! ## All keys -/

/-- Take the candidate for a key into the properties combined so far. -/
def merge (c : Combination) (combined : StringMap Property) (key : String)
    (candidate : Property) : StringMap Property :=
  match c.collect (combined.get? key) candidate with
  | some p => combined.insert key p
  | none => combined.erase key

def mergeAll (c : Combination) (combined listed : StringMap Property) : StringMap Property :=
  listed.entries.foldl (fun combined e => merge c combined e.1 e.2) combined

/-- What one source lists, if it can be listed. -/
def listing (m : Mount) : Journaled (StringMap Property) := do
  let name := m.name
  if m.source.isScannable then
    match ← m.list with
    | .ok listed => pure listed
    | .error e => do
      let reason := e.message
      Journaled.warn s!"Property source '{name}' failed to list properties, skipping: {reason}"
      pure ∅
  else
    Journaled.debug s!"Skipping non-scannable property source '{name}'"
    pure ∅

/-- The combined properties of all sources that can be listed, neither filtered nor evaluated. -/
def snapshot (v : View) : Journaled (StringMap Property) :=
  v.sources.foldlM (fun combined m => mergeAll v.combination combined <$> listing m) ∅

/-- One property of a bulk read. One that cannot be evaluated is left out. -/
def bulkRead (v : View) (chain : FilterChain) (snapshot : StringMap Property)
    (key : String) (p : Property) : Journaled (Option Property) :=
  if chain.hidesMetadata && isMetadataKey key then pure none
  else
    match v.filter chain (.bulk key snapshot) p with
    | none => pure none
    | some p => do
      match ← v.evaluate chain p with
      | .ok p => pure (some p)
      | .error e => do
        let reason := e.message
        Journaled.warn s!"Leaving '{key}' out of bulk read: {reason}"
        pure none

def propertiesWith (v : View) (chain : FilterChain) : Journaled (StringMap Property) := do
  let snapshot ← v.snapshot
  snapshot.entries.foldlM
    (fun result e => do
      match ← v.bulkRead chain snapshot e.1 e.2 with
      | some p => pure (result.insert e.1 p)
      | none => pure result)
    ∅

def properties (v : View) : Journaled (StringMap Property) :=
  v.propertiesWith .empty

def propertyNames (v : View) : Journaled (List String) :=
  StringMap.keys <$> v.properties

end View

end LayeredConfig
