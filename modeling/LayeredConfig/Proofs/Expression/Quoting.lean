import LayeredConfig.Proofs.Expression.Settling
import LayeredConfig.Proofs.View.References

/-!
# Quoted texts

Every text can be written so that it is evaluated to itself: a backslash goes in front of each of
its dollars. There is no way to write a backslash other than by itself, and none is needed, for the
backslash that stands right in front of a dollar is always read together with it, however many
stand before.
-/
namespace LayeredConfig

namespace Segment

/-! ## Quoting -/

/-- The text with every dollar escaped. -/
def quoted (text : List Char) : List Char :=
  text.flatMap fun c => if c = '$' then ['\\', '$'] else [c]

example : quoted "\\${a}$".toList = "\\\\${a}\\$".toList := by decide

/-- What a character of the text is read as in the quoted text. -/
def quotedPiece (c : Char) : Segment :=
  if c = '$' then .escape else .literal [c]

@[simp] theorem quoted_nil : quoted [] = [] := rfl

@[simp] theorem quoted_dollar (cs : List Char) :
    quoted ('$' :: cs) = '\\' :: '$' :: quoted cs := rfl

theorem quoted_cons {c : Char} (hc : c ≠ '$') (cs : List Char) :
    quoted (c :: cs) = c :: quoted cs := by
  simp [quoted, hc]

theorem head?_quoted (text : List Char) : (quoted text).head? ≠ some '$' := by
  cases text with
  | nil => simp
  | cons c cs =>
    by_cases hc : c = '$'
    · subst hc
      simp
    · simp [quoted_cons hc, hc]

/-- No dollar is left to be read by itself, so nothing is opened but the escapes. -/
theorem scan_quoted (text : List Char) : Scan (quoted text) (text.map quotedPiece) [] := by
  induction text with
  | nil => exact .done
  | cons c cs ih =>
    by_cases hc : c = '$'
    · subst hc
      exact .escape ih
    · have ho : ¬ Opens c (quoted cs) := by
        rintro (⟨-, hhead⟩ | ⟨hdollar, -⟩)
        · exact head?_quoted cs hhead
        · exact hc hdollar
      rw [quoted_cons hc, List.map_cons, quotedPiece, if_neg hc]
      exact .char ho ih

end Segment

open Segment

/-! ## Resolvers that note what they are asked -/

/-- The resolver, which writes down first what it is asked. -/
def Resolver.noting (r : Resolver) : Resolver :=
  { r with resolve := fun expression lookup => do
      let scheme := r.scheme
      Journaled.info s!"{scheme} is asked for {expression}"
      r.resolve expression lookup }

namespace Evaluator

/-- The evaluator with resolvers that write down what they are asked. -/
def noting (ev : Evaluator) : Evaluator :=
  { ev with resolvers := ev.resolvers.map Resolver.noting }

/-! ## Evaluation of quoted texts -/

/-- The text that is evaluated to the given one. -/
def quote (s : String) : String :=
  .ofList (quoted s.toList)

variable {ev : Evaluator}

/-- The passes find nothing to do, and rendering takes off again what quoting put on. -/
theorem run_quoted (hpasses : 0 < ev.maxPasses) (lookup : Lookup) (text : List Char) :
    ev.run lookup (quoted text) = pure (.ok text) := by
  refine run_of_scan hpasses lookup (scan_quoted text) ?_ ?_
  · intro c inner
    unfold quotedPiece
    split
    · nofun
    · nofun
  · intro c
    unfold quotedPiece
    split
    · next hc => rw [hc, shown]
    · rw [shown]

theorem evaluate_quoted (hpasses : 0 < ev.maxPasses) (lookup : Lookup) (s : String) :
    ev.evaluate lookup (quote s) = pure (.ok s) := by
  rw [evaluate_eq_run hpasses, quote, String.toList_ofList, run_quoted hpasses, pure_bind,
    Except.map, String.ofList_toList]

theorem value_getText_of_quoted {v : View} (hpasses : 0 < ev.maxPasses)
    (hev : v.evaluator = some ev) {key s : String}
    (hshows : (v.lookup .empty key).value = some (quote s)) :
    (v.getText key).value = .ok (some s) := by
  rw [View.getText_eq_reading, View.reading, Journaled.value_bind, hev, hshows]
  dsimp only
  rw [Journaled.value_bind, evaluate_quoted hpasses]
  rfl

/-- A quoted text is evaluated to the text it was made of, by every evaluator and under every
lookup, with nothing logged and no source asked. Nobody who would note it is asked for anything.
And a key that holds the quoted text reads as the text itself. -/
theorem evaluate_quote {b : Builder} (hbuilt : b.build = .ok ev) (s : String) :
    (∀ lookup, ev.evaluate lookup (quote s) = pure (.ok s)) ∧
    (∀ lookup, (ev.noting.evaluate lookup (quote s)).journal = []) ∧
    ∀ v : View, v.evaluator = some ev → ∀ key,
      (v.lookup .empty key).value = some (quote s) → (v.getText key).value = .ok (some s) := by
  have hpasses : 0 < ev.maxPasses := Builder.maxPasses_pos hbuilt
  have hnoting : 0 < ev.noting.maxPasses := hpasses
  refine ⟨fun lookup => evaluate_quoted hpasses lookup s, ?_, ?_⟩
  · intro lookup
    rw [evaluate_quoted hnoting]
    rfl
  · exact fun v hev key hshows => value_getText_of_quoted hpasses hev hshows

/-- Backslashes in front of what looks like a placeholder, which the resolver at hand would answer
if it were asked. -/
theorem evaluate_quote_of_placeholder :
    let s := "\\\\${a}$\\"
    let b : Builder := { resolvers := [.configuration], unresolved := .fail, maxPasses := 1 }
    let ev : Evaluator := ⟨b.resolvers, .fail, 1⟩
    let app : MemorySource := { name := "app", entries := .ofList [("a", "1"), ("k", quote s)] }
    let v : View := ⟨[⟨0, .memory app⟩], .overriding, [], some ev⟩
    quote s = "\\\\\\${a}\\$\\" ∧
    (ev.noting.evaluate (v.lookup .empty) "${a}").journal ≠ [] ∧
    b.build = .ok ev ∧
    (v.lookup .empty "k").value = some (quote s) ∧
    ev.evaluate (v.lookup .empty) (quote s) = pure (.ok s) ∧
    (ev.noting.evaluate (v.lookup .empty) (quote s)).journal = [] ∧
    (v.getText "k").value = .ok (some s) := by
  intro s b ev app v
  have hbuilt : b.build = .ok ev := rfl
  have hshows : (v.lookup .empty "k").value = some (quote s) := by decide +kernel
  obtain ⟨hvalue, hnoting, hstored⟩ := evaluate_quote hbuilt s
  refine ⟨by decide +kernel, by decide +kernel, hbuilt, hshows, hvalue _, hnoting _, ?_⟩
  exact hstored v rfl "k" hshows

end Evaluator

end LayeredConfig
