import LayeredConfig.StringMap
import LayeredConfig.Timestamp

/-!
# Change requests

A request collects what is to be set and what is to be removed. A later word on a key
takes back an earlier one, so a request that is built by its operations never both
sets and removes a key.
-/
namespace LayeredConfig

/-- What marks a new request off from all others. -/
structure Stamp where
  id : String
  time : Timestamp
deriving DecidableEq

structure ChangeRequest where
  id : String
  createdAt : Timestamp
  puts : StringMap String := ∅
  removes : StringSet := ∅
deriving DecidableEq

namespace ChangeRequest

def new (stamp : Stamp) : ChangeRequest :=
  { id := stamp.id, createdAt := stamp.time }

/-- An empty request of the same identity. -/
def deriveEmpty (r : ChangeRequest) : ChangeRequest :=
  { id := r.id, createdAt := r.createdAt }

def put (r : ChangeRequest) (key value : String) : ChangeRequest :=
  { r with removes := r.removes.erase key, puts := r.puts.insert key value }

def putAll (r : ChangeRequest) (entries : List (String × String)) : ChangeRequest :=
  entries.foldl (fun r e => r.put e.1 e.2) r

def remove (r : ChangeRequest) (key : String) : ChangeRequest :=
  { r with puts := r.puts.erase key, removes := r.removes.insert key () }

def removeAll (r : ChangeRequest) (keys : List String) : ChangeRequest :=
  keys.foldl remove r

/-- The keys the request speaks about, in ascending order. -/
def keys (r : ChangeRequest) : List String :=
  (r.puts.keySet.union r.removes).keys

def touches (r : ChangeRequest) (key : String) : Bool :=
  r.puts.contains key || r.removes.contains key

def size (r : ChangeRequest) : Nat :=
  r.puts.size + r.removes.size

def isEmpty (r : ChangeRequest) : Bool :=
  r.puts.isEmpty && r.removes.isEmpty

/-- What a content becomes when the removals and then the settings are carried out. -/
def applyTo (r : ChangeRequest) (content : StringMap String) : StringMap String :=
  (content.eraseAll r.removes.keys).insertAll r.puts.entries

end ChangeRequest

end LayeredConfig
