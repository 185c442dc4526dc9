import LayeredConfig.Proofs.Expression.Dispatch
import LayeredConfig.Proofs.Expression.Settling

/-!
# A text and a reference to it

A text that is nothing but a reference to a key comes to the text of that key in one pass, and from
there on goes as that text goes by itself: to the same end, one pass later.
-/
namespace LayeredConfig

open Segment

/-- How an error of a text is reported of a reference to it: a loop is one of the reference, and
comes to light one pass later. -/
def Error.ofReference (reference : String) : Error → Error
  | .expressionLoop _ passes => .expressionLoop reference (passes + 1)
  | e => e

namespace Evaluator

/-- The text that refers to a key of the configuration. -/
def reference (key : String) : String :=
  "$\x7bconf:" ++ key ++ "\x7d"

example : reference "db.url" = "${conf:db.url}" := by decide

theorem toList_reference (key : String) :
    (reference key).toList = raw ("conf:".toList ++ key.toList) := by
  simp [reference, raw]

/-! ## Another bound -/

theorem display_mapError (reference : String) (policy : Unresolved) (ss : List Segment) :
    (display policy ss).mapError (Error.ofReference reference) = display policy ss := by
  unfold display
  cases hfound : ss.findSome? (refusalOf? policy) with
  | none => rfl
  | some e =>
    obtain ⟨s, _, hs⟩ := List.exists_of_findSome?_eq_some hfound
    -- Only what is left of a placeholder is refused, which is no loop.
    cases s with
    | literal text => simp [refusalOf?] at hs
    | escape => simp [refusalOf?] at hs
    | placeholder inner =>
      obtain ⟨-, rfl⟩ : policy = .fail ∧ Error.unresolvedExpression (.ofList (raw inner)) = e := by
        simpa [refusalOf?] using hs
      rfl

section Onward

variable {ev ev' : Evaluator} {lookup : Lookup} (hresolvers : ev'.resolvers = ev.resolvers)
include hresolvers

theorem answerTo_of_resolvers_eq : ev'.answerTo lookup = ev.answerTo lookup := by
  funext s
  cases s with
  | placeholder inner => simp only [answerTo, answerSegment, answer, named?, hresolvers]
  | literal text => rfl
  | escape => rfl

/-- The same passes, counted on by one and under a bound that is one higher, come to the same end.
Which text was given at the outset and how many passes there were shows in a loop only. -/
theorem value_settle_onward (hunresolved : ev'.unresolved = ev.unresolved)
    (hpasses : ev'.maxPasses = ev.maxPasses + 1) (whole reference : List Char) (left pass : Nat)
    (text : List Char) :
    (ev'.settle lookup reference left (pass + 1) text).value
      = (ev.settle lookup whole left pass text).value.mapError
          (Error.ofReference (.ofList reference)) := by
  have hanswerTo : ev'.answerTo lookup = ev.answerTo lookup := answerTo_of_resolvers_eq hresolvers
  induction left generalizing pass text with
  | zero =>
    rw [settle, settle, hpasses]
    rfl
  | succ left ih =>
    cases hparse : parse text with
    | error position =>
      rw [settle, settle, hparse]
      rfl
    | ok ss =>
      have hreplacement : ev'.replacement lookup = ev.replacement lookup := by
        funext s
        rw [replacement, replacement, hanswerTo]
      have hpassText : ev'.passText lookup ss = ev.passText lookup ss := by
        rw [passText_eq_flatMap, passText_eq_flatMap, hreplacement]
      have hanswers : ev'.answers lookup ss = ev.answers lookup ss := by
        rw [answers, answers, hanswerTo]
      rw [value_settle_succ hparse, value_settle_succ hparse, hpassText, hanswers, hunresolved, ih]
      by_cases hfix : ev.passText lookup ss = text
      · rw [if_pos hfix, if_pos hfix]
        by_cases hans : ev.answers lookup ss = []
        · rw [if_pos hans, if_pos hans, display_mapError]
        · rw [if_neg hans, if_neg hans]
          rfl
      · rw [if_neg hfix, if_neg hfix]

end Onward

/-! ## The first pass over a reference -/

variable {ev : Evaluator} {lookup : Lookup} {key : String}

theorem parse_reference (hbrace : '}' ∉ key.toList) :
    parse (reference key).toList = .ok [.placeholder ("conf:".toList ++ key.toList)] := by
  have hinner : '}' ∉ "conf:".toList ++ key.toList := by simpa using hbrace
  have hparse := parseFrom_placeholder hinner [] 0
  rw [List.append_nil] at hparse
  rw [toList_reference, parse, hparse, parseFrom]
  rfl

theorem splitScheme?_reference (key : List Char) :
    splitScheme? ("conf:".toList ++ key) = some ("conf".toList, key) := by
  simp [splitScheme?, isSchemeChar]

/-- The configuration is asked for the key. -/
theorem answerTo_reference
    (hconf : ev.resolvers.find? (·.scheme == "conf") = some .configuration)
    (htrim : Text.trim key = key) :
    ev.answerTo lookup (.placeholder ("conf:".toList ++ key.toList)) = (lookup key).value := by
  have hanswer : ev.answer lookup ("conf:".toList ++ key.toList) = lookup key := by
    rw [answer, named?_eq_find? (splitScheme?_reference key.toList), String.ofList_toList, hconf,
      Option.map_some]
    dsimp only
    rw [String.ofList_toList]
    exact congrArg lookup htrim
  exact congrArg Journaled.value hanswer

/-- One pass goes to the text of the key. -/
theorem value_settle_reference
    (hconf : ev.resolvers.find? (·.scheme == "conf") = some .configuration)
    (hbrace : '}' ∉ key.toList) (htrim : Text.trim key = key) {value : String}
    (hvalue : (lookup key).value = some value) (hother : value ≠ reference key)
    (whole : List Char) (left pass : Nat) :
    (ev.settle lookup whole (left + 1) pass (reference key).toList).value
      = (ev.settle lookup whole left (pass + 1) value.toList).value := by
  have hanswer : ev.answerTo lookup (.placeholder ("conf:".toList ++ key.toList)) = some value :=
    (answerTo_reference hconf htrim).trans hvalue
  have hpassText : ev.passText lookup [.placeholder ("conf:".toList ++ key.toList)]
      = value.toList := by
    rw [passText_cons, ev.replacement_of_some lookup hanswer, passText_nil, List.append_nil]
  have hmoves : value.toList ≠ (reference key).toList := fun h => hother (String.toList_inj.mp h)
  rw [value_settle_succ (parse_reference hbrace), hpassText, if_neg hmoves]

theorem value_evaluate_reference (ev ev' : Evaluator) (hresolvers : ev'.resolvers = ev.resolvers)
    (hunresolved : ev'.unresolved = ev.unresolved) (hpasses : ev'.maxPasses = ev.maxPasses + 1)
    (hbound : 0 < ev.maxPasses)
    (hconf : ev.resolvers.find? (·.scheme == "conf") = some .configuration)
    (hbrace : '}' ∉ key.toList) (htrim : Text.trim key = key) {value : String}
    (hvalue : (lookup key).value = some value) (hother : value ≠ reference key) :
    (ev'.evaluate lookup (reference key)).value
      = (ev.evaluate lookup value).value.mapError (Error.ofReference (reference key)) := by
  have hconf' : ev'.resolvers.find? (·.scheme == "conf") = some .configuration :=
    hresolvers ▸ hconf
  have honward : (ev'.settle lookup (reference key).toList ev.maxPasses 2 value.toList).value
      = (ev.run lookup value.toList).value.mapError
          (Error.ofReference (.ofList (reference key).toList)) :=
    value_settle_onward hresolvers hunresolved hpasses _ _ ev.maxPasses 1 value.toList
  rw [String.ofList_toList] at honward
  calc (ev'.evaluate lookup (reference key)).value
      = (ev'.run lookup (reference key).toList).value.map String.ofList :=
        value_evaluate (hpasses ▸ Nat.succ_pos _) (reference key)
    _ = (ev'.settle lookup (reference key).toList ev.maxPasses 2 value.toList).value.map
          String.ofList := by
        rw [run, hpasses, value_settle_reference hconf' hbrace htrim hvalue hother]
    _ = ((ev.run lookup value.toList).value.mapError (Error.ofReference (reference key))).map
          String.ofList := by
        rw [honward]
    _ = (ev.evaluate lookup value).value.mapError (Error.ofReference (reference key)) := by
        rw [value_evaluate hbound]
        cases (ev.run lookup value.toList).value <;> rfl

/-- A reference to a key costs one pass and changes nothing else. Under a bound that is one higher
it comes to what the text of the key comes to by itself, be it a text, an unclosed placeholder or
one without an answer, and it is a loop if that is one. -/
theorem evaluate_reference (ev : Evaluator) (lookup : Lookup)
    (hconf : ev.resolvers.find? (·.scheme == "conf") = some .configuration) (key value : String)
    (hbrace : '}' ∉ key.toList) (htrim : Text.trim key = key)
    (hvalue : (lookup key).value = some value) (hother : value ≠ reference key) (bound : Nat)
    (hbound : 1 ≤ bound) :
    let referred :=
      (({ ev with maxPasses := bound + 1 } : Evaluator).evaluate lookup (reference key)).value
    match (({ ev with maxPasses := bound } : Evaluator).evaluate lookup value).value with
    | .ok text => referred = .ok text
    | .error (.expressionLoop _ passes) =>
      referred = .error (.expressionLoop (reference key) (passes + 1))
    | .error e => referred = .error e := by
  have hreferred :
      (({ ev with maxPasses := bound + 1 } : Evaluator).evaluate lookup (reference key)).value
        = (({ ev with maxPasses := bound } : Evaluator).evaluate lookup value).value.mapError
            (Error.ofReference (reference key)) :=
    value_evaluate_reference { ev with maxPasses := bound } { ev with maxPasses := bound + 1 }
      rfl rfl rfl hbound hconf hbrace htrim hvalue hother
  dsimp only
  rw [hreferred]
  cases (({ ev with maxPasses := bound } : Evaluator).evaluate lookup value).value with
  | ok text => rfl
  | error e => cases e <;> rfl

/-- A reference into a circle of two, and one to a text with a placeholder that is never closed. -/
theorem evaluate_reference_of_circle_and_unclosed :
    let lookup := Lookup.ofMap
      (.ofList [("a", "${conf:b}"), ("b", "${conf:a}"), ("c", "<$\x7bopen")])
    let ev (bound : Nat) : Evaluator := ⟨[.configuration], .fail, bound⟩
    ((ev 4).evaluate lookup (reference "a")).value
      = .error (.expressionLoop (reference "a") 4) ∧
    ((ev 2).evaluate lookup (reference "c")).value
      = .error (.expressionFormat "<$\x7bopen" 1) := by
  intro lookup ev
  have hcircle : ((ev 3).evaluate lookup "${conf:b}").value
      = .error (.expressionLoop "${conf:b}" 3) := by decide +kernel
  have hunclosed : ((ev 1).evaluate lookup "<$\x7bopen").value
      = .error (.expressionFormat "<$\x7bopen" 1) := by decide +kernel
  have ha := evaluate_reference (ev 0) lookup rfl "a" "${conf:b}" (by decide) (by decide) rfl
    (by decide) 3 (by decide)
  have hc := evaluate_reference (ev 0) lookup rfl "c" "<$\x7bopen" (by decide) (by decide) rfl
    (by decide) 1 (by decide)
  dsimp only at ha hc
  rw [hcircle] at ha
  rw [hunclosed] at hc
  exact ⟨ha, hc⟩

end Evaluator

end LayeredConfig
