import LayeredConfig.Text.Quoted

/-!
# Errors

What can go wrong, as causes; `Error.message` is the only place that words them.
-/
namespace LayeredConfig

/-- A source that did not accept a change, and why. -/
structure Failure where
  source : String
  message : String
deriving DecidableEq, Repr

inductive Error where
  | config (message : String)
  | missingResolver
  | expressionLoop (expression : String) (passes : Nat)
  /-- The placeholder that opens at byte `position` is never closed. -/
  | expressionFormat (expression : String) (position : Nat)
  | unresolvedExpression (placeholder : String)
  | source (name message : String)
  | sourceNotFound (name : String)
  | notMutable (name : String)
  | propertyNotFound (key : String)
  | noConverter (target : String)
  | conversion (key value target : String)
  | partialPropagation (request : String) (failures : List Failure)
  | changeRejected (source reason : String)
  | validation (key message : String)
  | backupNotFound (source : String) (version : Option Nat)
  /-- A stored document does not have the form it should have. -/
  | malformedDocument
deriving DecidableEq, Repr

namespace Failure

def text (f : Failure) : String :=
  s!"{f.source}: {f.message}"

end Failure

namespace Error

def message : Error → String
  | config message => s!"Configuration error: {message}"
  | missingResolver => "No expression resolver registered"
  | expressionLoop expression passes =>
    s!"Expression '{expression}' did not settle after {passes} passes (circular reference?)"
  | expressionFormat expression position =>
    s!"Malformed expression '{expression}': unterminated placeholder at byte {position}"
  | unresolvedExpression placeholder => s!"Unresolved expression: {placeholder}"
  | source name message => s!"Property source '{name}' failed: {message}"
  | sourceNotFound name => s!"Property source '{name}' not registered"
  | notMutable name => s!"Property source '{name}' is not mutable"
  | propertyNotFound key => s!"Property not found: {key}"
  | noConverter target => s!"No converter registered for type {target}"
  | conversion key value target => s!"Cannot convert value '{value}' of {key} to {target}"
  | partialPropagation request failures =>
    let listed := "; ".intercalate (failures.map Failure.text)
    s!"Change request {request} was only partially applied: {listed}"
  | changeRejected name reason => s!"Property source '{name}' rejected the change: {reason}"
  | validation key message => s!"Invalid value for {key}: {message}"
  | backupNotFound name version =>
    let shown := Text.optional (version.map toString)
    s!"No backup of '{name}' with version {shown}"
  | malformedDocument => "Failed to serialize data"

/-- The error says that something asked for is not there. -/
def isNotFound : Error → Bool
  | propertyNotFound _ | sourceNotFound _ | backupNotFound .. => true
  | _ => false

/-- The error lies in how the configuration is set up or written. -/
def isConfigurationError : Error → Bool
  | config _ | missingResolver | expressionLoop .. | expressionFormat ..
  | unresolvedExpression _ | noConverter _ => true
  | _ => false

end Error

end LayeredConfig
