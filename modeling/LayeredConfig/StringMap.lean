/-!
# String-keyed maps

A map is its list of entries in strictly ascending key order, keys compared by
code point. Two maps with the same entries are therefore equal, and every walk
over a map visits the keys in ascending order.
-/
namespace LayeredConfig

structure StringMap (α : Type) where
  entries : List (String × α)
  ordered : entries.Pairwise fun a b => a.1 < b.1
deriving DecidableEq

/-- A set of strings is a map that keeps nothing at its keys. -/
abbrev StringSet : Type := StringMap Unit

namespace StringMap

variable {α β : Type}

def empty : StringMap α := ⟨[], .nil⟩

instance : EmptyCollection (StringMap α) := ⟨empty⟩

instance : Inhabited (StringMap α) := ⟨empty⟩

/-! ## Reading -/

def get? (m : StringMap α) (key : String) : Option α :=
  m.entries.lookup key

def contains (m : StringMap α) (key : String) : Bool :=
  (m.get? key).isSome

def keys (m : StringMap α) : List String :=
  m.entries.map (·.1)

def values (m : StringMap α) : List α :=
  m.entries.map (·.2)

def size (m : StringMap α) : Nat :=
  m.entries.length

def isEmpty (m : StringMap α) : Bool :=
  m.entries.isEmpty

/-! ## Insertion -/

/-- Put an entry in its place, in the stead of an entry of the same key. -/
def insertEntry (key : String) (value : α) : List (String × α) → List (String × α)
  | [] => [(key, value)]
  | e :: es =>
    if key < e.1 then (key, value) :: e :: es
    else if key = e.1 then (key, value) :: es
    else e :: insertEntry key value es

theorem mem_insertEntry {key : String} {value : α} {e : String × α} {es : List (String × α)}
    (h : e ∈ insertEntry key value es) : e = (key, value) ∨ e ∈ es := by
  induction es with
  | nil => simpa [insertEntry] using h
  | cons d ds ih =>
    rw [insertEntry] at h
    split at h
    · simpa using h
    · split at h
      · rcases List.mem_cons.mp h with h | h
        · exact .inl h
        · exact .inr (List.mem_cons_of_mem _ h)
      · rcases List.mem_cons.mp h with h | h
        · exact .inr (h ▸ List.mem_cons_self)
        · exact (ih h).imp_right (List.mem_cons_of_mem _)

theorem lt_of_not_lt_of_ne {a b : String} (h : ¬ a < b) (hne : a ≠ b) : b < a := by
  rcases Decidable.em (b < a) with hlt | hlt
  · exact hlt
  · exact absurd (String.le_antisymm (String.not_lt.mp hlt) (String.not_lt.mp h)) hne

theorem ordered_insertEntry (key : String) (value : α) {es : List (String × α)}
    (h : es.Pairwise fun a b => a.1 < b.1) :
    (insertEntry key value es).Pairwise fun a b => a.1 < b.1 := by
  induction es with
  | nil => simp [insertEntry]
  | cons d ds ih =>
    have hd := List.pairwise_cons.mp h
    rw [insertEntry]
    split
    · next hlt =>
      refine List.pairwise_cons.mpr ⟨fun e he => ?_, h⟩
      rcases List.mem_cons.mp he with rfl | he
      · exact hlt
      · exact String.lt_trans hlt (hd.1 e he)
    · next hnot =>
      split
      · next heq => exact List.pairwise_cons.mpr ⟨fun e he => heq ▸ hd.1 e he, hd.2⟩
      · next hne =>
        refine List.pairwise_cons.mpr ⟨fun e he => ?_, ih hd.2⟩
        rcases mem_insertEntry he with rfl | he
        · exact lt_of_not_lt_of_ne hnot hne
        · exact hd.1 e he

def insert (m : StringMap α) (key : String) (value : α) : StringMap α :=
  ⟨insertEntry key value m.entries, ordered_insertEntry key value m.ordered⟩

/-- Entries inserted one after the other; of two with one key the later stays. -/
def insertAll (m : StringMap α) (es : List (String × α)) : StringMap α :=
  es.foldl (fun m e => m.insert e.1 e.2) m

def ofList (es : List (String × α)) : StringMap α :=
  empty.insertAll es

def singleton (key : String) (value : α) : StringMap α :=
  empty.insert key value

/-! ## Removal and transformation -/

def filter (m : StringMap α) (p : String → α → Bool) : StringMap α :=
  ⟨m.entries.filter fun e => p e.1 e.2, m.ordered.filter _⟩

def erase (m : StringMap α) (key : String) : StringMap α :=
  m.filter fun k _ => k != key

def eraseAll (m : StringMap α) (keys : List String) : StringMap α :=
  keys.foldl erase m

def filterMap (f : String → α → Option β) (m : StringMap α) : StringMap β where
  entries := m.entries.filterMap fun e => (f e.1 e.2).map (e.1, ·)
  ordered := by
    refine List.pairwise_filterMap.mpr (m.ordered.imp fun {a b} hab x hx y hy => ?_)
    obtain ⟨_, _, rfl⟩ := Option.map_eq_some_iff.mp hx
    obtain ⟨_, _, rfl⟩ := Option.map_eq_some_iff.mp hy
    exact hab

def map (f : String → α → β) (m : StringMap α) : StringMap β where
  entries := m.entries.map fun e => (e.1, f e.1 e.2)
  ordered := List.pairwise_map.mpr m.ordered

/-- The keys of a map, as a set. -/
def keySet (m : StringMap α) : StringSet :=
  m.map fun _ _ => ()

end StringMap

namespace StringSet

def ofList (keys : List String) : StringSet :=
  StringMap.ofList (keys.map (·, ()))

def union (a b : StringSet) : StringSet :=
  a.insertAll b.entries

end StringSet

end LayeredConfig
