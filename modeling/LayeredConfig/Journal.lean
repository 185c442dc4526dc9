/-!
# Journals

What an operation does besides computing its result: the lines it logs and the
sources it turns to, in order. A journaled result is the result together with
the journal that led to it, so that statements about results and statements
about accesses can be made apart from each other.
-/
namespace LayeredConfig

/-- The identity of a source; it outlives every change of what the source holds. -/
abbrev SourceId : Type := Nat

inductive Level where
  | debug
  | info
  | warn
deriving DecidableEq, Repr

def Level.rank : Level → Nat
  | .debug => 0
  | .info => 1
  | .warn => 2

/-- One request to a source. -/
inductive Access where
  | get (key : String)
  | list
  | change (request : String)
  | replace
deriving DecidableEq, Repr

inductive Journal.Entry where
  | log (level : Level) (text : String)
  | access (source : SourceId) (access : Access)
deriving DecidableEq, Repr

abbrev Journal : Type := List Journal.Entry

/-- The logged lines of at least the given level. -/
def Journal.lines (j : Journal) (least : Level) : List (Level × String) :=
  j.filterMap fun
    | .log level text => if least.rank ≤ level.rank then some (level, text) else none
    | .access .. => none

/-- The sources that were asked for a key, once per asking. -/
def Journal.gets (j : Journal) : List SourceId :=
  j.filterMap fun
    | .access source (.get _) => some source
    | _ => none

structure Journaled (α : Type) where
  value : α
  journal : Journal := []

namespace Journaled

variable {α β : Type}

instance : Monad Journaled where
  pure a := ⟨a, []⟩
  bind x f := ⟨(f x.value).value, x.journal ++ (f x.value).journal⟩

@[simp] theorem value_pure (a : α) : (pure a : Journaled α).value = a := rfl

@[simp] theorem journal_pure (a : α) : (pure a : Journaled α).journal = [] := rfl

@[simp] theorem value_bind (x : Journaled α) (f : α → Journaled β) :
    (x >>= f).value = (f x.value).value := rfl

@[simp] theorem journal_bind (x : Journaled α) (f : α → Journaled β) :
    (x >>= f).journal = x.journal ++ (f x.value).journal := rfl

theorem ext_iff {x y : Journaled α} : x = y ↔ x.value = y.value ∧ x.journal = y.journal := by
  cases x; cases y; simp

instance : LawfulMonad Journaled :=
  LawfulMonad.mk' Journaled
    (fun x => by simp [Functor.map])
    (fun a f => by simp [ext_iff])
    (fun x f g => by simp [ext_iff])

@[simp] theorem value_map (f : α → β) (x : Journaled α) : (f <$> x).value = f x.value := rfl

@[simp] theorem journal_map (f : α → β) (x : Journaled α) : (f <$> x).journal = x.journal := by
  simp [Functor.map]

@[simp] theorem value_foldlM (f : β → α → Journaled β) (b : β) (as : List α) :
    (as.foldlM f b).value = as.foldl (fun b a => (f b a).value) b := by
  induction as generalizing b with
  | nil => rfl
  | cons a as ih => rw [List.foldlM_cons, value_bind, ih, List.foldl_cons]

/-! ## Writing to the journal -/

def debug (text : String) : Journaled Unit := ⟨(), [.log .debug text]⟩

def info (text : String) : Journaled Unit := ⟨(), [.log .info text]⟩

def warn (text : String) : Journaled Unit := ⟨(), [.log .warn text]⟩

/-- An answer of a source, with the access that obtained it. -/
def accessing (source : SourceId) (access : Access) (answer : α) : Journaled α :=
  ⟨answer, [.access source access]⟩

end Journaled

end LayeredConfig
