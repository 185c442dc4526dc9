import LayeredConfig.Conversion
import LayeredConfig.View

/-!
# Configurations

A configuration says which sources are registered and how their properties are read and
converted. It is a value: adding a source or a converter makes another configuration, and
one that is kept goes on reading the same sources.
-/
namespace LayeredConfig

structure Configuration (κ : Type := Kind) [TypeFamily κ] where
  registry : Registry := .empty
  converters : Converters κ := .defaults κ
  combination : Combination := .overriding
  filters : List Filter := []
  evaluator : Option Evaluator := none

namespace Configuration

variable {κ : Type} [TypeFamily κ]

/-- What the configuration shows while the sources hold the given contents. -/
def view (c : Configuration κ) (σ : Sources) : View where
  sources := σ.mounts c.registry.ids
  combination := c.combination
  filters := c.filters
  evaluator := c.evaluator

/-! ## Changes -/

def addSources (c : Configuration κ) (batch : List Mount) : Journaled (Configuration κ) := do
  return { c with registry := ← c.registry.withSources batch }

def removeSources (c : Configuration κ) (names : List String) : Journaled (Configuration κ) := do
  let listed := Text.quotedList names
  Journaled.debug s!"Removed property sources {listed}"
  return { c with registry := c.registry.withoutSources names }

def addConverter (c : Configuration κ) (k : κ) (f : Converter k) : Configuration κ :=
  { c with converters := c.converters.register k f }

/-! ## Typed reads -/

def getAs (c : Configuration κ) (σ : Sources) (k : κ) (key : String) :
    Journaled (Except Error (Option (TypeFamily.Carrier k))) := do
  match ← (c.view σ).getText key with
  | .error e => return .error e
  | .ok none => return .ok none
  | .ok (some raw) => return (c.converters.convert k key raw).map some

def require (c : Configuration κ) (σ : Sources) (k : κ) (key : String) :
    Journaled (Except Error (TypeFamily.Carrier k)) := do
  match ← c.getAs σ k key with
  | .error e => return .error e
  | .ok none => return .error (.propertyNotFound key)
  | .ok (some value) => return .ok value

def sourceNames (c : Configuration κ) : List String :=
  c.registry.names

/-! ## Descriptions -/

def contextDescription (c : Configuration κ) : String :=
  Text.record "ConfigurationContext"
    [("sources", Text.quotedList c.sourceNames),
     ("converters", c.converters.description),
     ("filters", toString c.filters.length),
     ("evaluator", Text.optional (c.evaluator.map Evaluator.description))]

def description (c : Configuration κ) : String :=
  Text.record "Configuration" [("context", c.contextDescription)]

/-! ## Building -/

structure Builder (κ : Type := Kind) [TypeFamily κ] where
  sources : List Mount := []
  converters : Converters κ := .defaults κ
  combination : Combination := .overriding
  filters : List Filter := []
  /-- Expressions are off until something is said about them. -/
  expressions : Option Evaluator.Builder := none

namespace Builder

def withSources (b : Builder κ) (batch : List Mount) : Builder κ :=
  { b with sources := b.sources ++ batch }

def withConverter (b : Builder κ) (k : κ) (f : Converter k) : Builder κ :=
  { b with converters := b.converters.register k f }

def withConverters (b : Builder κ) (converters : Converters κ) : Builder κ :=
  { b with converters }

def withCombination (b : Builder κ) (combination : Combination) : Builder κ :=
  { b with combination }

def withFilter (b : Builder κ) (f : Filter) : Builder κ :=
  { b with filters := b.filters ++ [f] }

def withExpressions (b : Builder κ) (f : Evaluator.Builder → Evaluator.Builder) : Builder κ :=
  { b with expressions := some (f (b.expressions.getD {})) }

def evaluator (b : Builder κ) : Except Error (Option Evaluator) :=
  match b.expressions with
  | none => .ok none
  | some e => e.build.map some

def build (b : Builder κ) : Journaled (Except Error (Configuration κ)) := do
  match b.evaluator with
  | .error e => return .error e
  | .ok evaluator => do
    let registry ← Registry.empty.withSources b.sources
    let count := registry.size
    let state := if evaluator.isSome then "enabled" else "disabled"
    Journaled.info s!"Configuration built with {count} source(s), expressions {state}"
    return .ok {
      registry
      converters := b.converters
      combination := b.combination
      filters := b.filters
      evaluator }

theorem eq_of_value_build {b : Builder κ} {c : Configuration κ} (h : b.build.value = .ok c) :
    ∃ evaluator, b.evaluator = .ok evaluator ∧ c =
      { registry := (Registry.empty.withSources b.sources).value
        converters := b.converters
        combination := b.combination
        filters := b.filters
        evaluator } := by
  unfold build at h
  cases hevaluator : b.evaluator with
  | error e =>
    rw [hevaluator] at h
    cases h
  | ok evaluator =>
    rw [hevaluator] at h
    cases h
    exact ⟨evaluator, rfl, rfl⟩

end Builder

end Configuration

end LayeredConfig
