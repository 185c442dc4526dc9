import LayeredConfig.StringMap

/-!
# Changes and who hears of them

A change is heard by the global listeners and then by the watchers of its key, each
group in the order of registration. Who hears of it is settled when the notification
begins: a listener that is registered meanwhile waits for the next one.
-/
namespace LayeredConfig

structure Change (α : Type) where
  key : String
  old : Option α
  new : Option α
deriving DecidableEq

def Change.isRemoval {α : Type} (c : Change α) : Bool :=
  c.old.isSome && c.new.isNone

structure Listeners (L : Type) where
  everywhere : List L := []
  watchers : StringMap (List L) := ∅

namespace Listeners

variable {L : Type}

def empty : Listeners L := {}

def onChange (ls : Listeners L) (l : L) : Listeners L :=
  { ls with everywhere := ls.everywhere ++ [l] }

def watching (ls : Listeners L) (key : String) : List L :=
  (ls.watchers.get? key).getD []

def watch (ls : Listeners L) (key : String) (l : L) : Listeners L :=
  { ls with watchers := ls.watchers.insert key (ls.watching key ++ [l]) }

def unwatch (ls : Listeners L) (key : String) : Listeners L :=
  { ls with watchers := ls.watchers.erase key }

def clear (_ : Listeners L) : Listeners L := empty

def size (ls : Listeners L) : Nat :=
  ls.everywhere.length + ls.watchers.values.flatten.length

def isEmpty (ls : Listeners L) : Bool :=
  ls.size == 0

/-- Those who hear of a change of the key, in order. -/
def audience (ls : Listeners L) (key : String) : List L :=
  ls.everywhere ++ ls.watching key

/-- Call the audience of the key. A listener may answer its call by registering further
global listeners, which `reaction` lists. -/
def notify (reaction : L → List L) (ls : Listeners L) (key : String) : List L × Listeners L :=
  let called := ls.audience key
  (called, called.foldl (fun ls l => (reaction l).foldl onChange ls) ls)

end Listeners

/-- A change on its way to one listener. -/
structure Delivery (L α : Type) where
  listener : L
  change : Change α

def Listeners.deliver {L α : Type} (ls : Listeners L) (c : Change α) : List (Delivery L α) :=
  (ls.audience c.key).map fun l => ⟨l, c⟩

end LayeredConfig
