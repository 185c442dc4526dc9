/-!
# Sets of characters as ranges

A set is a list of ranges in ascending order, no two of which touch.
-/
namespace LayeredConfig.Text

/-- Ranges of code points, both ends included. -/
abbrev Ranges : Type := List (Nat × Nat)

namespace Ranges

def containsPoint (rs : Ranges) (n : Nat) : Bool :=
  rs.any fun r => r.1 ≤ n && n ≤ r.2

def contains (rs : Ranges) (c : Char) : Bool :=
  rs.containsPoint c.toNat

/-- The number of code points in the set. -/
def size (rs : Ranges) : Nat :=
  rs.foldl (fun count r => count + (r.2 + 1 - r.1)) 0

/-- The code points in the set, in ascending order. -/
def points (rs : Ranges) : List Nat :=
  rs.flatMap fun r => List.range' r.1 (r.2 + 1 - r.1)

/-- A range joined with those after it that it touches, where they begin in ascending order. -/
def join (r : Nat × Nat) : Ranges → Ranges
  | [] => [r]
  | s :: rs => if s.1 ≤ r.2 + 1 then join (r.1, max r.2 s.2) rs else r :: join s rs

/-- The set of all characters that are in one of the ranges. -/
def normalize (rs : Ranges) : Ranges :=
  match rs.mergeSort (fun r s => r.1 ≤ s.1) with
  | [] => []
  | r :: rs => join r rs

def union (rs ss : Ranges) : Ranges :=
  normalize (rs ++ ss)

/-- The code points from the given one on that are not in the set. -/
def complementFrom (next : Nat) : Ranges → Ranges
  | [] => if next ≤ 0x10FFFF then [(next, 0x10FFFF)] else []
  | r :: rs =>
    if next < r.1 then (next, r.1 - 1) :: complementFrom (r.2 + 1) rs
    else complementFrom (r.2 + 1) rs

def complement (rs : Ranges) : Ranges :=
  complementFrom 0 rs

def inter (rs ss : Ranges) : Ranges :=
  (rs.complement.union ss.complement).complement

def diff (rs ss : Ranges) : Ranges :=
  rs.inter ss.complement

/-- What is in exactly one of two sets. -/
def symmDiff (rs ss : Ranges) : Ranges :=
  (rs.union ss).diff (rs.inter ss)

end Ranges

end LayeredConfig.Text
