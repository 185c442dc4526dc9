import LayeredConfig.Journal
import LayeredConfig.StringMap
import LayeredConfig.Text.Blank

/-!
# Resolvers

A resolver answers the expressions of one scheme. It may look up other keys of the
configuration on the way.
-/
namespace LayeredConfig

/-- The text of a key, as the configuration shows it. -/
abbrev Lookup : Type := String → Journaled (Option String)

/-- A map of texts shows what it holds. -/
def Lookup.ofMap (texts : StringMap String) : Lookup := fun key => pure (texts.get? key)

structure Resolver where
  scheme : String
  /-- Resolvers of higher priority are asked first about an expression without a scheme. -/
  priority : Int
  resolve : String → Lookup → Journaled (Option String)

/-- What becomes of a placeholder that no resolver answers. -/
inductive Unresolved where
  /-- It stays, in brackets. -/
  | mask
  | empty
  | fail
deriving DecidableEq, Repr

namespace Unresolved

def ofMaskFlag (masked : Bool) : Unresolved :=
  if masked then .mask else .empty

def name : Unresolved → String
  | mask => "Mask"
  | empty => "Empty"
  | fail => "Fail"

end Unresolved

namespace Resolver

/-- Refers to other keys of the configuration. -/
def configuration : Resolver where
  scheme := "conf"
  priority := 100
  resolve expression lookup := lookup (Text.trim expression)

/-- Refers to variables of an environment. -/
def environment (vars : StringMap String) : Resolver where
  scheme := "env"
  priority := 0
  resolve expression _ := pure (vars.get? (Text.trim expression))

def ofFunction (scheme : String) (priority : Int) (f : String → Option String) : Resolver where
  scheme := scheme
  priority := priority
  resolve expression _ := pure (f expression)

/-- Higher priority first, then by scheme. -/
def precedes (a b : Resolver) : Bool :=
  b.priority < a.priority || (a.priority == b.priority && a.scheme ≤ b.scheme)

end Resolver

end LayeredConfig
