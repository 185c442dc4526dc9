import LayeredConfig.Listeners
import LayeredConfig.StringMap.Lemmas
import Mathlib.Data.List.Basic
import Mathlib.Data.List.Induction

/-!
# Who hears of a change

A registration stands until the listeners are cleared or, if it is for one key, until that key is
no longer watched. Who hears of a change follows from the registrations that stand when the
notification begins, and from nothing else in the history.
-/
namespace LayeredConfig.Listeners

variable {L : Type}

/-! ## Registrations that stand -/

/-- A listener, with the key whose changes it is to hear if it is not to hear all changes. -/
structure Registration (L : Type) where
  key? : Option String
  listener : L

/-- What bears on who is registered. -/
inductive Event (L : Type) where
  | registered (r : Registration L)
  | unwatched (key : String)
  | cleared

namespace Event

def registration? : Event L → Option (Registration L)
  | registered r => some r
  | _ => none

/-- The event puts an end to registrations for the key, or for all keys. -/
def ends (key? : Option String) : Event L → Bool
  | registered _ => false
  | unwatched key => key? = some key
  | cleared => true

def apply (ls : Listeners L) : Event L → Listeners L
  | registered ⟨none, l⟩ => ls.onChange l
  | registered ⟨some key, l⟩ => ls.watch key l
  | unwatched key => ls.unwatch key
  | cleared => ls.clear

end Event

/-- The registrations that no later event has put an end to, in their order. -/
def standing : List (Event L) → List (Registration L)
  | [] => []
  | .registered r :: later =>
    if later.any (Event.ends r.key?) then standing later else r :: standing later
  | .unwatched _ :: later => standing later
  | .cleared :: later => standing later

/-- Those who are registered for the key, or for all keys. -/
def registeredFor (key? : Option String) (rs : List (Registration L)) : List L :=
  (rs.filter (·.key? = key?)).map (·.listener)

theorem standing_concat (es : List (Event L)) (e : Event L) :
    standing (es ++ [e])
      = (standing es).filter (fun r => !e.ends r.key?) ++ e.registration?.toList := by
  induction es with
  | nil => cases e <;> rfl
  | cons d es ih =>
    cases d with
    | registered r =>
      have hany : (es ++ [e]).any (Event.ends r.key?)
          = (es.any (Event.ends r.key?) || e.ends r.key?) := by simp
      simp only [List.cons_append, standing, hany, ih]
      cases es.any (Event.ends r.key?) with
      | true => simp
      | false => cases hlast : e.ends r.key? <;> simp [hlast]
    | unwatched _ | cleared => exact ih

theorem standing_append_registered (es : List (Event L)) (rs : List (Registration L)) :
    standing (es ++ rs.map .registered) = standing es ++ rs := by
  induction rs generalizing es with
  | nil => simp
  | cons r rs ih =>
    have hnext := ih (es ++ [.registered r])
    simpa [standing_concat, Event.ends, Event.registration?] using hnext

section RegisteredFor

variable (key? : Option String) (rs rs' : List (Registration L))

theorem registeredFor_append :
    registeredFor key? (rs ++ rs') = registeredFor key? rs ++ registeredFor key? rs' := by
  simp [registeredFor]

theorem registeredFor_filter (p : Option String → Bool) :
    registeredFor key? (rs.filter fun r => p r.key?)
      = if p key? then registeredFor key? rs else [] := by
  induction rs with
  | nil => simp [registeredFor]
  | cons r rs ih =>
    unfold registeredFor at ih ⊢
    by_cases hkey : r.key? = key?
    · subst hkey
      cases hp : p r.key? <;> simp_all
    · cases hp : p r.key? <;> simp_all

/-- All who are registered for the key are registered, and so are all others. -/
theorem length_registeredFor_add :
    (registeredFor key? rs).length + (rs.filter (·.key? ≠ key?)).length = rs.length := by
  have hsplit := List.length_eq_length_filter_add (l := rs) (fun r => decide (r.key? = key?))
  simpa [registeredFor] using hsplit.symm

end RegisteredFor

/-! ## Operations -/

section Steps

variable (ls : Listeners L) (l : L) (key other : String)

theorem watching_watch :
    (ls.watch key l).watching other
      = if other = key then ls.watching other ++ [l] else ls.watching other := by
  unfold watching watch
  rw [StringMap.get?_insert]
  split
  · next h => simp [h, watching]
  · rfl

theorem watching_unwatch :
    (ls.unwatch key).watching other = if other = key then [] else ls.watching other := by
  unfold watching unwatch
  rw [StringMap.get?_erase]
  split <;> rfl

/-- The watchers of one key, and all other listeners. -/
theorem size_eq_add : ls.size = (ls.watching key).length + (ls.unwatch key).size := by
  unfold size watching unwatch
  cases h : ls.watchers.get? key with
  | none =>
    rw [StringMap.erase_eq_self h]
    simp
  | some watching =>
    have hwatchers : ls.watchers.values.flatten.length
        = watching.length + (ls.watchers.erase key).values.flatten.length := by
      have hperm := ((StringMap.entries_perm h).map (·.2)).flatten.length_eq
      simpa [StringMap.values] using hperm
    simp only [Option.getD_some, hwatchers]
    omega

theorem size_watch : (ls.watch key l).size = ls.size + 1 := by
  have hothers : (ls.watch key l).unwatch key = ls.unwatch key := by
    simp [watch, unwatch, StringMap.erase_insert]
  rw [size_eq_add _ key, size_eq_add ls key, hothers, watching_watch, if_pos rfl]
  simp only [List.length_append, List.length_singleton]
  omega

theorem size_onChange : (ls.onChange l).size = ls.size + 1 := by
  simp only [onChange, size, List.length_append, List.length_singleton]
  omega

end Steps

/-! ## Runs -/

/-- A call on the listeners. What listeners register when they are called may differ from one
notification to the next. -/
inductive Operation (L : Type) where
  | onChange (l : L)
  | watch (key : String) (l : L)
  | unwatch (key : String)
  | clear
  | notify (key : String) (reaction : L → List L)

/-- Those who are registered for all keys, and then those who are registered for the key. -/
def hearers (rs : List (Registration L)) (key : String) : List L :=
  registeredFor none rs ++ registeredFor (some key) rs

namespace Operation

def perform (ls : Listeners L) : Operation L → Listeners L
  | onChange l => ls.onChange l
  | watch key l => ls.watch key l
  | unwatch key => ls.unwatch key
  | clear => ls.clear
  | notify key reaction => (ls.notify reaction key).2

/-- What comes of the operation after these events. -/
def events (es : List (Event L)) : Operation L → List (Event L)
  | onChange l => [.registered ⟨none, l⟩]
  | watch key l => [.registered ⟨some key, l⟩]
  | unwatch key => [.unwatched key]
  | clear => [.cleared]
  | notify key reaction =>
    ((hearers (standing es) key).flatMap reaction).map fun l => .registered ⟨none, l⟩

end Operation

def run (ops : List (Operation L)) : Listeners L :=
  ops.foldl Operation.perform empty

def history (ops : List (Operation L)) : List (Event L) :=
  ops.foldl (fun es op => es ++ op.events es) []

/-! ## What every history leaves -/

/-- The listeners are those of the registrations, each in its place. -/
structure Holds (ls : Listeners L) (rs : List (Registration L)) : Prop where
  everywhere : ls.everywhere = registeredFor none rs
  watching : ∀ key, ls.watching key = registeredFor (some key) rs
  size : ls.size = rs.length

theorem holds_empty : (empty : Listeners L).Holds [] := ⟨rfl, fun _ => rfl, rfl⟩

namespace Holds

variable {ls : Listeners L} {rs : List (Registration L)}

theorem onChange (h : ls.Holds rs) (l : L) : (ls.onChange l).Holds (rs ++ [⟨none, l⟩]) where
  everywhere := by simp [Listeners.onChange, registeredFor, h.everywhere]
  watching key := by
    rw [registeredFor_append, ← h.watching key]
    simp [Listeners.onChange, Listeners.watching, registeredFor]
  size := by
    rw [size_onChange, h.size, List.length_append, List.length_singleton]

theorem watch (h : ls.Holds rs) (key : String) (l : L) :
    (ls.watch key l).Holds (rs ++ [⟨some key, l⟩]) where
  everywhere := by simp [Listeners.watch, registeredFor, h.everywhere]
  watching other := by
    rw [registeredFor_append, ← h.watching other, watching_watch]
    by_cases hkey : other = key
    · simp [registeredFor, hkey]
    · simp [registeredFor, hkey, Ne.symm hkey]
  size := by
    rw [size_watch, h.size, List.length_append, List.length_singleton]

theorem unwatch (h : ls.Holds rs) (key : String) :
    (ls.unwatch key).Holds (rs.filter (·.key? ≠ some key)) where
  everywhere := by
    have hothers := registeredFor_filter none rs (fun key? => decide (key? ≠ some key))
    simpa [Listeners.unwatch, h.everywhere] using hothers.symm
  watching other := by
    have hothers := registeredFor_filter (some other) rs (fun key? => decide (key? ≠ some key))
    rw [watching_unwatch, h.watching other, hothers]
    by_cases hkey : other = key <;> simp [hkey]
  size := by
    have hsplit := length_registeredFor_add (some key) rs
    rw [← h.watching key, ← h.size, size_eq_add ls key] at hsplit
    omega

theorem apply {es : List (Event L)} (h : ls.Holds (standing es)) (e : Event L) :
    (e.apply ls).Holds (standing (es ++ [e])) := by
  rw [standing_concat]
  cases e with
  | registered r =>
    obtain ⟨_ | key, l⟩ := r
    · simpa [Event.apply, Event.ends, Event.registration?] using h.onChange l
    · simpa [Event.apply, Event.ends, Event.registration?] using h.watch key l
  | unwatched key =>
    simpa [Event.apply, Event.ends, Event.registration?, eq_comm] using h.unwatch key
  | cleared => simpa [Event.apply, Event.ends, Event.registration?, clear] using holds_empty

theorem foldl {es : List (Event L)} (h : ls.Holds (standing es)) (later : List (Event L)) :
    (later.foldl Event.apply ls).Holds (standing (es ++ later)) := by
  induction later generalizing ls es with
  | nil => simpa using h
  | cons e later ih => simpa using ih (h.apply e)

/-- A notification calls those who are registered when it begins. -/
theorem audience (h : ls.Holds rs) (key : String) : ls.audience key = hearers rs key := by
  rw [Listeners.audience, h.everywhere, h.watching key, hearers]

theorem perform {es : List (Event L)} (h : ls.Holds (standing es)) (op : Operation L) :
    (op.perform ls).Holds (standing (es ++ op.events es)) := by
  have hperform : op.perform ls = (op.events es).foldl Event.apply ls := by
    cases op with
    | onChange | watch | unwatch | clear => rfl
    | notify key reaction =>
      simp only [Operation.perform, notify, Operation.events, h.audience key, List.foldl_map,
        List.foldl_flatMap]
      rfl
  rw [hperform]
  exact h.foldl (op.events es)

end Holds

theorem holds_run (ops : List (Operation L)) : (run ops).Holds (standing (history ops)) := by
  induction ops using List.reverseRecOn with
  | nil => exact holds_empty
  | append_singleton ops op ih =>
    simp only [run, history, List.foldl_append, List.foldl_cons, List.foldl_nil]
    exact ih.perform op

theorem length_hearers_le (rs : List (Registration L)) (key : String) :
    (hearers rs key).length ≤ rs.length := by
  have hall := length_registeredFor_add none rs
  have hkeyed := length_registeredFor_add (some key) (rs.filter (·.key? ≠ none))
  have hsame := registeredFor_filter (some key) rs (fun key? => decide (key? ≠ none))
  rw [if_pos (by simp)] at hsame
  rw [hsame] at hkeyed
  rw [hearers, List.length_append]
  omega

/-- Those who are registered meanwhile come after all who are registered for all keys already. -/
theorem hearers_append_map (rs : List (Registration L)) (news : List L) (key : String) :
    hearers (rs ++ news.map fun l => ⟨none, l⟩) key
      = registeredFor none rs ++ news ++ registeredFor (some key) rs := by
  have heverywhere : registeredFor none (news.map fun l => (⟨none, l⟩ : Registration L)) = news := by
    simp [registeredFor, List.filter_map, Function.comp_def]
  have hkeyed : registeredFor (some key) (news.map fun l => (⟨none, l⟩ : Registration L)) = [] := by
    simp [registeredFor, List.filter_map, Function.comp_def]
  rw [hearers, registeredFor_append, registeredFor_append, heverywhere, hkeyed, List.append_nil]

/-- A notification calls each of those who are registered for all keys when it begins, and then each
of those who are registered for its key, in the order of their registrations and no other; so it
ends. What the called listeners register is called from the next notification on. The size is that
of all registrations that stand. -/
theorem notification_calls_standing (ops : List (Operation L)) (key : String)
    (reaction : L → List L) :
    let rs := standing (history ops)
    let round := (run ops).notify reaction key
    round.1 = registeredFor none rs ++ registeredFor (some key) rs ∧
    round.1.length ≤ rs.length ∧
    (∀ next reaction', (round.2.notify reaction' next).1
      = registeredFor none rs ++ round.1.flatMap reaction ++ registeredFor (some next) rs) ∧
    (run ops).size = rs.length := by
  intro rs round
  have hholds : (run ops).Holds rs := holds_run ops
  have hcalled : round.1 = hearers rs key := hholds.audience key
  refine ⟨hcalled, hcalled ▸ length_hearers_le rs key, fun next reaction' => ?_, hholds.size⟩
  have hafter : round.2.Holds (rs ++ (round.1.flatMap reaction).map fun l => ⟨none, l⟩) := by
    rw [← standing_append_registered, List.map_map, hcalled]
    exact hholds.perform (.notify key reaction)
  exact (hafter.audience next).trans (hearers_append_map rs _ next)

/-- Each of those who are called registers one more. -/
example :
    let ops : List (Operation Nat) :=
      [.onChange 1, .watch "a" 2, .watch "b" 3, .unwatch "b", .onChange 4]
    let round := (run ops).notify (fun l => [l + 10]) "a"
    round.1 = [1, 4, 2] ∧ (round.2.notify (fun _ => []) "b").1 = [1, 4, 11, 14, 12] := by
  decide +kernel

end LayeredConfig.Listeners
