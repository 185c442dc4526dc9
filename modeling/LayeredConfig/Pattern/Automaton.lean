/-!
# Automata of a pattern

A pattern is matched by automata over bytes, one that reads a text forwards and one that reads
it backwards. Repetitions are spelled out in them, so a short pattern may ask for huge ones,
and their size is limited. This module holds as much of an automaton as its size depends on.
Its states are numbered in the order in which they are made.
-/
namespace LayeredConfig.Pattern

inductive Direction where
  | forwards
  | backwards
deriving DecidableEq, Repr

/-- An automaton under construction: how many states it has, and how many bytes the lists of
the ways on from its states take. -/
structure Automaton where
  states : Nat := 0
  ways : Nat := 0
deriving DecidableEq, Repr

namespace Automaton

/-- What a state takes, apart from a list of several ways on. -/
def stateSize : Nat := 32

/-- What a way on by reading a byte takes in such a list. -/
def branchSize : Nat := 8

/-- What a way on without reading takes in such a list. -/
def jumpSize : Nat := 4

/-- The size that no automaton may exceed: ten mebibytes. -/
def sizeLimit : Nat := 10 * 1024 * 1024

def size (m : Automaton) : Nat :=
  stateSize * m.states + m.ways

def grow (states ways : Nat) (m : Automaton) : Option Automaton :=
  let m : Automaton := ⟨m.states + states, m.ways + ways⟩
  if m.size ≤ sizeLimit then some m else none

end Automaton

/-- How to make a part of an automaton, if it does not get too large. -/
structure Plan where
  extend : Automaton → Option Automaton

namespace Plan

def add (states ways : Nat) : Plan :=
  ⟨Automaton.grow states ways⟩

/-- One part and then the other. -/
def andThen (p q : Plan) : Plan :=
  ⟨fun m => (p.extend m).bind q.extend⟩

instance : Append Plan := ⟨andThen⟩

def extendTimes (p : Plan) : Nat → Automaton → Option Automaton
  | 0, m => some m
  | n + 1, m => (p.extend m).bind (extendTimes p n)

/-- The same part so many times. -/
def times (p : Plan) (n : Nat) : Plan :=
  ⟨p.extendTimes n⟩

end Plan

end LayeredConfig.Pattern
