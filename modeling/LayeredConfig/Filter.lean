import LayeredConfig.Pattern
import LayeredConfig.Property

/-!
# Filters

A filter passes a property on, changed or not, or drops it. It is told the key that is
read and, when all properties are read at once, what the other keys hold. The filters of
a chain are applied in order, and one that drops a property ends the matter.
-/
namespace LayeredConfig

structure FilterContext where
  key : String
  /-- All properties as they were before any filter, when all are read at once. -/
  snapshot : Option (StringMap Property)

namespace FilterContext

def single (key : String) : FilterContext := ⟨key, none⟩

def bulk (key : String) (snapshot : StringMap Property) : FilterContext := ⟨key, some snapshot⟩

def isSingle (ctx : FilterContext) : Bool :=
  ctx.snapshot.isNone

def sibling? (ctx : FilterContext) (key : String) : Option Property := do
  (← ctx.snapshot).get? key

end FilterContext

abbrev Filter : Type := FilterContext → Property → Option Property

namespace Filter

def applyAll (filters : List Filter) (ctx : FilterContext) (p : Property) : Option Property :=
  filters.foldlM (fun p f => f ctx p) p

/-- Drops the properties whose key is selected. -/
def dropKeys (selects : String → Bool) : Filter := fun _ p =>
  if selects p.key then none else some p

def defaultMask : String := "*****"

/-- Replaces the text of selected keys by a mask and notes that it did. -/
def masking (selects : String → Bool) (mask : String) : Filter := fun _ p =>
  if p.value.isNone || !selects p.key then some p
  else some ((p.withValue (some mask)).withMetadata Metadata.masked "true")

/-- Drops the properties whose key matches the pattern. -/
def dropMatching (pattern : String) : Except Error Filter :=
  (Pattern.compile pattern).map fun p => dropKeys p.isMatch

def maskMatching (pattern : String) (mask : String) : Except Error Filter :=
  (Pattern.compile pattern).map fun p => masking p.isMatch mask

end Filter

/-! ## Chains -/

/-- The filters of one caller, which see no other caller's. -/
structure FilterChain where
  filters : List Filter := []
  /-- Metadata keys are left out when all properties are read at once. -/
  hidesMetadata : Bool := true

namespace FilterChain

def empty : FilterChain := {}

def size (c : FilterChain) : Nat := c.filters.length

def isEmpty (c : FilterChain) : Bool := c.filters.isEmpty

def apply (c : FilterChain) (ctx : FilterContext) (p : Property) : Option Property :=
  Filter.applyAll c.filters ctx p

def add (c : FilterChain) (f : Filter) : FilterChain :=
  { c with filters := c.filters ++ [f] }

/-- Insert at a position, or at the end if the chain is not that long. -/
def insert (c : FilterChain) (position : Nat) (f : Filter) : FilterChain :=
  { c with filters := c.filters.take position ++ f :: c.filters.drop position }

/-- Remove the filter at a position, and tell whether there was one. -/
def remove (c : FilterChain) (position : Nat) : FilterChain × Bool :=
  ({ c with filters := c.filters.eraseIdx position }, decide (position < c.filters.length))

def clear (c : FilterChain) : FilterChain :=
  { c with filters := [] }

def setFilters (c : FilterChain) (filters : List Filter) : FilterChain :=
  { c with filters }

def setMetadataHiding (c : FilterChain) (on : Bool) : FilterChain :=
  { c with hidesMetadata := on }

def cleanup (_ : FilterChain) : FilterChain := empty

/-- Work on a chain that is clean again afterwards, however the work ends. -/
def scope {α : Type} (c : FilterChain) (work : FilterChain → FilterChain × α) : FilterChain × α :=
  let (used, result) := work c
  (used.cleanup, result)

def description (c : FilterChain) : String :=
  Text.record "FilterChain"
    [("filters", toString c.size), ("filter_metadata", toString c.hidesMetadata)]

end FilterChain

end LayeredConfig
