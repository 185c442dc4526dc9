import LayeredConfig.StringMap

/-!
# Validators

A validator objects to a value with a message, or does not. Of the validators of a
key the one registered first that objects is heard.
-/
namespace LayeredConfig

abbrev Validator : Type := String → Option String

structure Validators where
  ofKey : StringMap (List Validator) := ∅

namespace Validators

def empty : Validators := {}

def forKey (vs : Validators) (key : String) : List Validator :=
  (vs.ofKey.get? key).getD []

def add (vs : Validators) (key : String) (v : Validator) : Validators :=
  ⟨vs.ofKey.insert key (vs.forKey key ++ [v])⟩

def objection? (vs : Validators) (key value : String) : Option String :=
  (vs.forKey key).findSome? (· value)

end Validators

end LayeredConfig
