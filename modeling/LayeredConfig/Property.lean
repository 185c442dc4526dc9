import LayeredConfig.StringMap

/-!
# Properties

A property is one key with what a source says about it: a text or nothing, the
name of the source, and metadata.
-/
namespace LayeredConfig

structure Property where
  key : String
  value : Option String
  source : String
  metadata : StringMap String := ∅
deriving DecidableEq

/-! ## Reserved keys -/

/-- Keys that begin with an underscore describe a source and are not settings. -/
def isMetadataKey (key : String) : Bool :=
  key.startsWith "_"

namespace Metadata

def ordinal : String := "_ordinal"

/-- The other key under which a source may declare its ordinal. -/
def ordinalVariable : String := "CONFIG_ORDINAL"

def masked : String := "_masked"

end Metadata

namespace Property

def text (key value source : String) : Property :=
  { key, value := some value, source }

def null (key source : String) : Property :=
  { key, value := none, source }

def metadata? (p : Property) (key : String) : Option String :=
  p.metadata.get? key

def withValue (p : Property) (value : Option String) : Property :=
  { p with value }

def withMetadata (p : Property) (key value : String) : Property :=
  { p with metadata := p.metadata.insert key value }

def withAllMetadata (p : Property) (entries : List (String × String)) : Property :=
  { p with metadata := p.metadata.insertAll entries }

def isMetadata (p : Property) : Bool :=
  isMetadataKey p.key

end Property

end LayeredConfig
