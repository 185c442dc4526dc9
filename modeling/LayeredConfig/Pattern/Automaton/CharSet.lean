import LayeredConfig.Pattern.Automaton
import LayeredConfig.Text.Encoding
import Std.Data.HashMap

/-!
# Automata for sets of characters

A set of ASCII characters is one state with a way on for each range. For another set, the byte
sequences of its members share states, as far as the states made last are remembered: they are
kept in a table with a fixed number of slots, where a state takes the place of the one before it
in its slot.
-/
namespace LayeredConfig.Pattern.Automaton

/-- The states that are remembered, each by what it was made of. -/
abbrev Memory (α : Type) : Type := Std.HashMap Nat (α × Nat)

/-- The slot for a list of numbers, by the hash function FNV-1a on 64 bits. -/
def slot (slots : Nat) (key : List Nat) : Nat :=
  let hash := key.foldl (fun h n => (h ^^^ n.toUInt64) * 1099511628211)
    (14695981039346656037 : UInt64)
  hash.toNat % slots

/-- The state that was made of the given key, if its slot still holds it. -/
def Memory.find? {α : Type} [BEq α] (memory : Memory α) (i : Nat) (key : α) : Option Nat :=
  match memory[i]? with
  | some (k, state) => if k == key then some state else none
  | none => none

/-! ## Backwards

A state for each byte range, which leads to the state `target` for the byte before it. Equal
ranges with equal targets share a state, so the sequences share what they begin with. -/

def backwardSlots : Nat := 1000

structure Backward where
  /-- The number of the next state. -/
  next : Nat
  memory : Memory (Nat × Nat × Nat) := {}

def Backward.addRange (b : Backward) (target first last : Nat) : Backward × Nat :=
  let key := (target, first, last)
  let i := slot backwardSlots [target, first, last]
  match b.memory.find? i key with
  | some state => (b, state)
  | none => (⟨b.next + 1, b.memory.insert i (key, b.next)⟩, b.next)

def Backward.addSequence (target : Nat) (b : Backward) (s : Text.ByteSequence) : Backward :=
  (s.foldl (fun (b, target) (first, last) => b.addRange target first last) (b, target)).1

/-- A state with a jump to the last byte of each sequence, a common end, and what is between. -/
def backwardSet (sequences : List Text.ByteSequence) (m : Automaton) : Option Automaton :=
  let b : Backward := sequences.foldl (Backward.addSequence (m.states + 1)) { next := m.states + 2 }
  m.grow (b.next - m.states) (jumpSize * sequences.length)

/-! ## Forwards

A state for each inner node of the tree of the sequences, with a way on for each range. Equal
nodes share a state, so the sequences share what they end with. -/

def forwardSlots : Nat := 10000

structure Forward where
  /-- The number of the next state. -/
  next : Nat
  ways : Nat := 0
  memory : Memory (List (Nat × Nat × Nat)) := {}

/-- A state with the given ways on: the first and the last byte of each, and where it leads. -/
def Forward.addNode (f : Forward) (node : List (Nat × Nat × Nat)) : Forward × Nat :=
  let i := slot forwardSlots (node.flatMap fun (first, last, target) => [first, last, target])
  match f.memory.find? i node with
  | some state => (f, state)
  | none =>
    (⟨f.next + 1, f.ways + branchSize * node.length, f.memory.insert i (node, f.next)⟩, f.next)

/-- The node for sequences of at most `depth` ranges, after the nodes that it leads to. -/
def Forward.addTree (target : Nat) :
    Nat → Forward → List Text.ByteSequence → Forward × Nat
  | 0, f, _ => (f, target)
  | depth + 1, f, sequences =>
    let groups := sequences.splitBy fun s t => s.head? == t.head?
    let (f, node) := groups.foldl (fun (f, node) group =>
      match group with
      | ((first, last) :: rest) :: _ =>
        let (f, child) :=
          if rest.isEmpty then (f, target) else addTree target depth f (group.map List.tail)
        (f, (first, last, child) :: node)
      | _ => (f, node)) (f, [])
    f.addNode node.reverse

/-- The common end of all sequences, and the tree. No sequence has more than four ranges. -/
def forwardSet (sequences : List Text.ByteSequence) (m : Automaton) : Option Automaton :=
  let (f, _) := Forward.addTree m.states 4 { next := m.states + 1 } sequences
  m.grow (f.next - m.states) f.ways

/-- The part of an automaton that reads one character of a set. The byte sequences are worked
out when it is made for the first time. -/
def setPlan (d : Direction) (members : Text.Ranges) : Plan :=
  let sequences : Thunk (List Text.ByteSequence) := .mk fun _ => members.encoded
  ⟨fun m =>
    if sequences.get.all (·.length == 1) then m.grow 2 (branchSize * sequences.get.length)
    else match d with
      | .forwards => forwardSet sequences.get m
      | .backwards => backwardSet sequences.get m⟩

end LayeredConfig.Pattern.Automaton
