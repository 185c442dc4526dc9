import LayeredConfig.Proofs.Expression.Expansion

/-!
# Passes until the text settles

Where answers are closed a pass follows every reference exactly once: no answer joins onto
its neighbours, so the next pass reads in it what it read alone. A text then settles in one
pass more than its references are deep, and what it settles to is its expansion.
-/
namespace LayeredConfig.Evaluator

open Segment

variable {ev : Evaluator} {lookup : Lookup}

/-! ## One pass over closed answers -/

/-- In front of the text after the pass a character opens nothing that it did not open
before. -/
theorem opens_of_opens_passText (hclosed : ev.AnswersClosed lookup) {c : Char} {cs : List Char}
    {ts : List Segment} (h : Scan cs ts []) (hopen : Opens c (ev.passText lookup ts)) :
    Opens c cs := by
  -- What stands first after the pass stood there before, unless it comes from an answer.
  cases h with
  | done => exact hopen
  | char => exact hopen
  | escape => exact hopen
  | @placeholder inner cs _ ts _ h =>
    rw [passText_cons] at hopen
    cases hs : ev.answerTo lookup (.placeholder inner) with
    | none =>
      rw [ev.replacement_of_none lookup hs] at hopen
      exact hopen
    | some value =>
      have hvalue := hclosed.isClosed hs
      rw [ev.replacement_of_some lookup hs] at hopen
      -- An answer may begin with a dollar, as the placeholder did; it is not empty, and it
      -- does not begin with a brace.
      obtain ⟨d, ds, hd⟩ := List.exists_cons_of_ne_nil hvalue.ne_nil
      rw [hd] at hopen
      rcases hopen with ⟨rfl, _⟩ | ⟨_, hhead⟩
      · exact opens_escape _
      · exact absurd (by rw [hd]; exact hhead) hvalue.noBrace

theorem scan_passText (hclosed : ev.AnswersClosed lookup) {cs : List Char} {ts : List Segment}
    (h : Scan cs ts []) : Scan (ev.passText lookup ts) (ts.flatMap (ev.follow lookup)) [] := by
  generalize hstop : [] = stop at h
  induction h with
  | done => exact hstop ▸ .done
  | @char c cs _ ts ho h ih =>
    subst hstop
    exact .char (fun hopen => ho (opens_of_opens_passText hclosed h hopen)) (ih rfl)
  | escape _ ih => exact .escape (ih hstop)
  | @placeholder inner cs _ ts hc _ ih =>
    rw [passText_cons, List.flatMap_cons]
    cases hs : ev.answerTo lookup (.placeholder inner) with
    | none =>
      rw [ev.replacement_of_none lookup hs, ev.follow_of_none lookup hs]
      exact .placeholder hc (ih hstop)
    | some value =>
      have hvalue := hclosed.isClosed hs
      have hscan : Scan value.toList (pieces (parsed value.toList)) [] :=
        scan_of_parse (hclosed.parse hs)
      rw [ev.replacement_of_some lookup hs, ev.follow_of_some lookup hs]
      -- The answer is read as it is alone: its last character opens nothing.
      refine (hscan.extend fun d hd hopen => ?_).append (ih hstop)
      rcases hopen with ⟨rfl, _⟩ | ⟨rfl, _⟩
      · exact hvalue.noBackslash hd
      · exact hvalue.noDollar hd

/-- The text after a pass parses, and in pieces it is the text before with every reference
followed. -/
theorem parse_passText (hclosed : ev.AnswersClosed lookup) {text : List Char}
    {ss : List Segment} (h : parse text = .ok ss) :
    ∃ ns, parse (ev.passText lookup ss) = .ok ns ∧
      pieces ns = (pieces ss).flatMap (ev.follow lookup) := by
  have hscan := scan_passText hclosed (scan_of_parse h)
  rw [passText_pieces] at hscan
  exact hscan.parses

theorem answers_next {ss ns : List Segment}
    (h : pieces ns = (pieces ss).flatMap (ev.follow lookup)) :
    ev.answers lookup ns
      = (ev.answers lookup ss).flatMap fun value => ev.answers lookup (parsed value.toList) := by
  rw [← answers_pieces, h, answers_follow, answers_pieces]

/-- A pass that answers anything takes the first link off every chain. -/
theorem hasChain_next (hclosed : ev.AnswersClosed lookup) {text : List Char} {ss : List Segment}
    (h : parse text = .ok ss) (hans : ev.answers lookup ss ≠ []) (n : Nat) :
    ev.HasChain lookup n (ev.passText lookup ss) ↔ ev.HasChain lookup (n + 1) text := by
  rw [hasChain_succ, parsed_of_parse h]
  cases n with
  | zero =>
    obtain ⟨value, hvalue⟩ := List.exists_mem_of_ne_nil _ hans
    exact ⟨fun _ => ⟨value, hvalue, trivial⟩, fun _ => trivial⟩
  | succ n =>
    obtain ⟨ns, hns, hpieces⟩ := parse_passText hclosed h
    rw [hasChain_succ, parsed_of_parse hns, answers_next hpieces]
    constructor
    · rintro ⟨value, hvalue, hchain⟩
      obtain ⟨v, hv, hvalue⟩ := List.mem_flatMap.mp hvalue
      exact ⟨v, hv, value, hvalue, hchain⟩
    · rintro ⟨v, hv, value, hvalue, hchain⟩
      exact ⟨value, List.mem_flatMap.mpr ⟨v, hv, hvalue⟩, hchain⟩

/-- A text that a pass leaves as it is and yet answers something in has chains of every
length. -/
theorem hasChain_of_passText_eq (hclosed : ev.AnswersClosed lookup) {text : List Char}
    {ss : List Segment} (h : parse text = .ok ss) (hans : ev.answers lookup ss ≠ [])
    (hfix : ev.passText lookup ss = text) (n : Nat) : ev.HasChain lookup n text := by
  induction n with
  | zero => trivial
  | succ n ih => exact (hasChain_next hclosed h hans n).mp (hfix ▸ ih)

theorem passText_of_answers_eq_nil {text : List Char} {ss : List Segment}
    (h : parse text = .ok ss) (hans : ev.answers lookup ss = []) :
    ev.passText lookup ss = text := by
  rw [ev.passText_of_unanswered lookup ((ev.answers_eq_nil_iff lookup).mp hans),
    writeAll_of_parse h]

/-- The next text means what this one means. -/
theorem expands_next {ss ns es : List Segment}
    (h : pieces ns = (pieces ss).flatMap (ev.follow lookup)) (hes : ev.Expands lookup ss es) :
    ev.Expands lookup ns es := by
  rw [← Expands.pieces_iff, h]
  exact (Expands.pieces_iff.mpr hes).follow

/-! ## All passes -/

theorem any_isSome_iff (ss : List Segment) :
    (ss.any fun s => (ev.answerTo lookup s).isSome) = true ↔ ev.answers lookup ss ≠ [] := by
  rw [ne_eq, answers_eq_nil_iff, List.any_eq_true]
  simp [Option.isSome_iff_ne_none]

/-- One pass and what follows it. -/
theorem value_settle_succ {text : List Char} {ss : List Segment} (h : parse text = .ok ss)
    (whole : List Char) (left pass : Nat) :
    (ev.settle lookup whole (left + 1) pass text).value
      = if ev.passText lookup ss = text then
          if ev.answers lookup ss = [] then display ev.unresolved ss
          else .error (.expressionLoop (.ofList whole) pass)
        else (ev.settle lookup whole left (pass + 1) (ev.passText lookup ss)).value := by
  rw [settle, h, Journaled.value_bind, value_substitute, ← passText_eq_flatMap]
  dsimp only
  by_cases hfix : ev.passText lookup ss = text
  · rw [if_pos hfix, if_pos hfix]
    by_cases hans : ev.answers lookup ss = []
    · have hany : ¬ (ss.any fun s => (ev.answerTo lookup s).isSome) = true := fun h =>
        (any_isSome_iff ss).mp h hans
      rw [if_pos hans, if_neg hany, Journaled.value_pure, render_eq_display]
    · rw [if_neg hans, if_pos ((any_isSome_iff ss).mpr hans), Journaled.value_pure]
  · rw [if_neg hfix, if_neg hfix]
    rfl

/-- Where no chain is as long as passes are left, the text settles to what it means. -/
theorem value_settle_of_not_hasChain (hclosed : ev.AnswersClosed lookup) (whole : List Char)
    {left pass : Nat} {text : List Char} {ss es : List Segment} (h : parse text = .ok ss)
    (hchain : ¬ ev.HasChain lookup left text) (hes : ev.Expands lookup ss es) :
    (ev.settle lookup whole left pass text).value = display ev.unresolved es := by
  -- Every pass takes one link off the longest chain, and one from the passes that are left.
  induction left generalizing pass text ss with
  | zero => exact absurd trivial hchain
  | succ left ih =>
    rw [value_settle_succ h]
    by_cases hans : ev.answers lookup ss = []
    · have hself := Expands.of_unanswered ((ev.answers_eq_nil_iff lookup).mp hans)
      rw [if_pos (passText_of_answers_eq_nil h hans), if_pos hans, hes.unique hself, display_pieces]
    · have hmoves : ev.passText lookup ss ≠ text := fun hfix =>
        hchain (hasChain_of_passText_eq hclosed h hans hfix _)
      obtain ⟨ns, hns, hpieces⟩ := parse_passText hclosed h
      rw [if_neg hmoves]
      exact ih hns (fun hnext => hchain ((hasChain_next hclosed h hans left).mp hnext))
        (expands_next hpieces hes)

/-- Where some chain is as long as passes are left, the passes run out or go in a circle. -/
theorem value_settle_of_hasChain (hclosed : ev.AnswersClosed lookup) (whole : List Char)
    {left pass : Nat} {text : List Char} {ss : List Segment} (h : parse text = .ok ss)
    (hchain : ev.HasChain lookup left text) (hpass : pass + left ≤ ev.maxPasses + 1) :
    ∃ passes ≤ ev.maxPasses, (ev.settle lookup whole left pass text).value
      = .error (.expressionLoop (.ofList whole) passes) := by
  induction left generalizing pass text ss with
  | zero => exact ⟨ev.maxPasses, Nat.le_refl _, rfl⟩
  | succ left ih =>
    rw [value_settle_succ h]
    have hans : ev.answers lookup ss ≠ [] := by
      obtain ⟨value, hvalue, _⟩ := hchain
      rw [parsed_of_parse h] at hvalue
      exact List.ne_nil_of_mem hvalue
    by_cases hfix : ev.passText lookup ss = text
    · -- The text came back as it was, though something was answered.
      rw [if_pos hfix, if_neg hans]
      exact ⟨pass, by omega, rfl⟩
    · rw [if_neg hfix]
      obtain ⟨ns, hns, _⟩ := parse_passText hclosed h
      exact ih hns ((hasChain_next hclosed h hans left).mpr hchain) (by omega)

/-! ## Texts without placeholders -/

/-- A text without placeholders is shown after the first pass, for which nobody was asked. -/
theorem run_of_no_placeholder (hpasses : 0 < ev.maxPasses) (lookup : Lookup) {text : List Char}
    {ss : List Segment} (hparse : parse text = .ok ss) (h : ∀ inner, .placeholder inner ∉ ss) :
    ev.run lookup text = pure (.ok (ss.flatMap (shown ev.unresolved))) := by
  obtain ⟨left, hleft⟩ := Nat.exists_eq_succ_of_ne_zero (Nat.ne_of_gt hpasses)
  rw [run, hleft, settle, hparse]
  dsimp only
  rw [ev.substitute_of_no_placeholder lookup h, pure_bind]
  dsimp only
  rw [if_pos (writeAll_of_parse hparse), if_neg Bool.false_ne_true, render_eq_display,
    display_of_no_placeholder _ h]

/-- What is read piece by piece, each of which is shown as one character, is shown as those
characters. -/
theorem run_of_scan (hpasses : 0 < ev.maxPasses) (lookup : Lookup) {text out : List Char}
    {piece : Char → Segment} (hscan : Scan text (out.map piece) [])
    (hplain : ∀ c inner, piece c ≠ .placeholder inner)
    (hshown : ∀ c, shown ev.unresolved (piece c) = [c]) :
    ev.run lookup text = pure (.ok out) := by
  obtain ⟨ss, hss, hpieces⟩ := hscan.parses
  have hnone : ∀ inner, .placeholder inner ∉ ss := by
    intro inner
    rw [← placeholder_mem_pieces, hpieces, List.mem_map]
    rintro ⟨c, -, hc⟩
    exact hplain c inner hc
  have hout : ss.flatMap (shown ev.unresolved) = out := by
    rw [← flatMap_shown_pieces, hpieces, List.flatMap_map]
    simp only [hshown, List.flatMap_singleton']
  rw [run_of_no_placeholder hpasses lookup hss hnone, hout]

/-- A text that needs no evaluation is a literal run. -/
theorem scan_of_needsEvaluation {cs : List Char} (h : needsEvaluation cs = false) :
    Scan cs (cs.map fun c => .literal [c]) [] := by
  fun_induction needsEvaluation cs with
  | case1 => cases h
  | case2 => cases h
  | case3 c rest hescape hplaceholder ih =>
    exact .char (not_opens hescape hplaceholder) (ih h)
  | case4 => exact .done

theorem run_of_needsEvaluation (hpasses : 0 < ev.maxPasses) (lookup : Lookup) {text : List Char}
    (h : needsEvaluation text = false) : ev.run lookup text = pure (.ok text) :=
  run_of_scan hpasses lookup (scan_of_needsEvaluation h) (fun _ _ => nofun) fun _ => rfl

/-! ## Evaluation -/

/-- Leaving out the passes where they are not needed makes no difference, to the result or to
what is done for it. -/
theorem evaluate_eq_run (hpasses : 0 < ev.maxPasses) (lookup : Lookup) (text : String) :
    ev.evaluate lookup text
      = do return (← ev.run lookup text.toList).map String.ofList := by
  unfold evaluate
  cases hneeds : needsEvaluation text.toList with
  | true => rfl
  | false =>
    rw [run_of_needsEvaluation hpasses lookup hneeds, pure_bind, Except.map, String.ofList_toList]
    rfl

theorem value_evaluate (hpasses : 0 < ev.maxPasses) (text : String) :
    (ev.evaluate lookup text).value = (ev.run lookup text.toList).value.map String.ofList := by
  rw [evaluate_eq_run hpasses]
  rfl

theorem Builder.maxPasses_pos {b : Builder} (h : b.build = .ok ev) : 0 < ev.maxPasses := by
  unfold build at h
  split at h
  · cases h
  · split at h
    · cases h
    · next hpasses =>
      cases h
      exact Nat.pos_of_ne_zero hpasses

/-- If every answer is closed, a text whose references are less deep than passes are allowed
evaluates to its expansion, displayed once, in which only placeholders without an answer
are left; any other is reported as a loop, and so is every text from which a circle of
references can be reached. -/
theorem evaluate_eq_display_expansion {b : Builder} (hbuilt : b.build = .ok ev)
    (hclosed : ev.AnswersClosed lookup) {text : String} {ss : List Segment}
    (hparse : parse text.toList = .ok ss) :
    (ev.depth lookup text.toList < ev.maxPasses →
      ∃ es, (∀ us, ev.Expands lookup ss us ↔ us = es) ∧
        (∀ s ∈ es, ev.answerTo lookup s = none) ∧
        (ev.evaluate lookup text).value = (display ev.unresolved es).map String.ofList) ∧
    (ev.maxPasses ≤ ev.depth lookup text.toList →
      ∃ passes ≤ ev.maxPasses,
        (ev.evaluate lookup text).value = .error (.expressionLoop text passes)) ∧
    (∀ circular, Relation.ReflTransGen (ev.Refers lookup) text.toList circular →
      Relation.TransGen (ev.Refers lookup) circular circular →
      ev.depth lookup text.toList = ⊤) := by
  have hevaluate : (ev.evaluate lookup text).value
      = (ev.settle lookup text.toList ev.maxPasses 1 text.toList).value.map String.ofList :=
    value_evaluate (Builder.maxPasses_pos hbuilt) text
  refine ⟨?_, ?_, fun _ => depth_eq_top_of_circular ev lookup⟩
  · intro hdepth
    have hchain : ¬ ev.HasChain lookup ev.maxPasses text.toList := by
      rw [← natCast_le_depth]
      exact not_le_of_gt hdepth
    obtain ⟨es, hes⟩ := Expands.exists_of_not_hasChain hchain
    rw [parsed_of_parse hparse] at hes
    refine ⟨es, fun us => ⟨fun hus => hus.unique hes, fun heq => heq ▸ hes⟩, hes.unanswered, ?_⟩
    rw [hevaluate, value_settle_of_not_hasChain hclosed _ hparse hchain hes]
  · intro hdepth
    obtain ⟨passes, hle, hloop⟩ := value_settle_of_hasChain hclosed text.toList hparse
      ((natCast_le_depth ev lookup).mp hdepth) (Nat.le_of_eq (Nat.add_comm 1 _))
    refine ⟨passes, hle, ?_⟩
    rw [hevaluate, hloop, String.ofList_toList]
    rfl

/-- A reference to a text that refers to another is two deep, and three passes settle it. What
is left without an answer is masked. -/
theorem evaluate_two_references :
    let ev : Evaluator := ⟨[.configuration], .mask, 3⟩
    let lookup := Lookup.ofMap (.ofList [("a", "<${b}>"), ("b", "${x}")])
    let ss := [.placeholder ['a'], .literal ['!']]
    let es := [.literal ['<'], .placeholder ['x'], .literal ['>'], .literal ['!']]
    Builder.build ⟨[.configuration], .mask, 3⟩ = .ok ev ∧ ev.AnswersClosed lookup ∧
    parse "${a}!".toList = .ok ss ∧ ev.depth lookup "${a}!".toList < ev.maxPasses ∧
    (∀ us, ev.Expands lookup ss us ↔ us = es) ∧ (∀ s ∈ es, ev.answerTo lookup s = none) ∧
    (ev.evaluate lookup "${a}!").value = .ok "<[${x}]>!" := by
  intro ev lookup ss es
  have hbuilt : Builder.build ⟨[.configuration], .mask, 3⟩ = .ok ev := rfl
  have hclosed : ev.AnswersClosed lookup := answersClosed_ofMap (by decide +kernel) rfl
  have hparse : parse "${a}!".toList = .ok ss := by decide +kernel
  have hdepth : ev.depth lookup "${a}!".toList < ev.maxPasses := by
    rw [← not_le, natCast_le_depth]
    decide +kernel
  -- The text of `b` stays as it is, and that of `a` takes it in.
  have hparsedB : parsed "${x}".toList = [.placeholder ['x']] :=
    parsed_of_parse (by decide +kernel)
  have hb : ev.Expands lookup (parsed "${x}".toList) [.placeholder ['x']] := by
    rw [hparsedB]
    exact .kept (by decide +kernel) .nil
  have hparsedA : parsed "<${b}>".toList = [.literal ['<'], .placeholder ['b'], .literal ['>']] :=
    parsed_of_parse (by decide +kernel)
  have ha : ev.Expands lookup (parsed "<${b}>".toList)
      [.literal ['<'], .placeholder ['x'], .literal ['>']] := by
    rw [hparsedA]
    exact .kept rfl (.answered (by decide +kernel) hb (.kept rfl .nil))
  have hes : ev.Expands lookup ss es := .answered (by decide +kernel) ha (.kept rfl .nil)
  obtain ⟨us, hus, hunanswered, hvalue⟩ :=
    (evaluate_eq_display_expansion hbuilt hclosed hparse).1 hdepth
  obtain rfl := (hus es).mp hes
  exact ⟨hbuilt, hclosed, hparse, hdepth, hus, hunanswered, hvalue⟩

end LayeredConfig.Evaluator
