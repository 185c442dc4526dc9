import LayeredConfig.Proofs.Expression.Canonical
import LayeredConfig.Proofs.Expression.Settling
import LayeredConfig.View

/-!
# Texts that need no evaluation

Whether a text needs evaluation is told by two pairs of characters, wherever they stand in it,
while the parser may have taken either character of a pair for something before it. The test is
exact all the same: the first of such pairs in a text is always read as what it opens. So a text is
passed over exactly if it parses to a literal run and nothing else, and the passes would have left
it as it is.
-/
namespace LayeredConfig

namespace Segment

/-! ## The test -/

theorem needsEvaluation_eq_true_iff {text : List Char} :
    needsEvaluation text = true ↔ ['$', '{'] <:+: text ∨ ['\\', '$'] <:+: text := by
  fun_induction needsEvaluation text with
  | case1 rest => simp [pair_infix_cons]
  | case2 rest => simp [pair_infix_cons]
  | case3 c rest hescape hplaceholder ih =>
    have ho : ¬ Opens c rest := not_opens hescape hplaceholder
    have hopen : ¬ ('$' = c ∧ rest.head? = some '{') := fun h => ho (.inr ⟨h.1.symm, h.2⟩)
    have hescape : ¬ ('\\' = c ∧ rest.head? = some '$') := fun h => ho (.inl ⟨h.1.symm, h.2⟩)
    rw [ih, pair_infix_cons, pair_infix_cons, or_iff_right hopen, or_iff_right hescape]
  | case4 => simp

theorem needsEvaluation_eq_false_iff_pairs {text : List Char} :
    needsEvaluation text = false ↔ ¬ ['$', '{'] <:+: text ∧ ¬ ['\\', '$'] <:+: text := by
  rw [← Bool.not_eq_true, needsEvaluation_eq_true_iff, not_or]

/-! ## The parse of a text that passes it -/

theorem parse_of_needsEvaluation {text : List Char} (h : needsEvaluation text = false) :
    parse text = .ok (literalRun text) := by
  obtain ⟨hopen, hescape⟩ := needsEvaluation_eq_false_iff_pairs.mp h
  rw [parse_eq_ok_iff]
  cases text with
  | nil => exact ⟨canonical_nil, rfl⟩
  | cons c cs =>
    refine ⟨canonical_literal_cons.mpr ⟨⟨List.cons_ne_nil c cs, hopen, hescape⟩, ?_⟩, ?_⟩
    · exact ⟨by simp, by simp, canonical_nil⟩
    · exact List.append_nil (c :: cs)

/-- The first literal run of a canonical list is followed by something else, so a list of literal
runs is one run at most. -/
theorem Canonical.eq_literalRun {ss : List Segment} (h : Canonical ss)
    (hliteral : ∀ s ∈ ss, ∃ run, s = .literal run) : ss = literalRun (writeAll ss) := by
  cases ss with
  | nil => rfl
  | cons s ss =>
    obtain ⟨run, rfl⟩ := hliteral s List.mem_cons_self
    obtain ⟨⟨hne, -, -⟩, hapart, -, -⟩ := canonical_literal_cons.mp h
    cases ss with
    | nil => simp [write, literalRun, hne]
    | cons s' ss =>
      obtain ⟨run', rfl⟩ := hliteral s' (by simp)
      exact absurd rfl (hapart run')

theorem needsEvaluation_eq_false_iff {text : List Char} :
    needsEvaluation text = false ↔
      ∃ ss, parse text = .ok ss ∧ ∀ s ∈ ss, ∃ run, s = .literal run := by
  constructor
  · intro h
    refine ⟨literalRun text, parse_of_needsEvaluation h, fun s hs => ⟨text, ?_⟩⟩
    unfold literalRun at hs
    split at hs
    · cases hs
    · exact List.mem_singleton.mp hs
  · rintro ⟨ss, hparse, hliteral⟩
    obtain ⟨hcanonical, htext⟩ := parse_eq_ok_iff.mp hparse
    have hrun := hcanonical.eq_literalRun hliteral
    rw [htext] at hrun
    rw [needsEvaluation_eq_false_iff_pairs]
    -- Of the empty text nothing is to be shown; any other is a run that was parsed.
    cases text with
    | nil => simp
    | cons c cs =>
      have hmem : Segment.literal (c :: cs) ∈ ss := by simp [hrun, literalRun]
      exact (hcanonical.literal _ hmem).2

/-- What needs evaluation is an escape, a placeholder, or an error. -/
theorem needsEvaluation_iff_parse {text : List Char} :
    needsEvaluation text = true ↔ (∃ position, parse text = .error position) ∨
      ∃ ss, parse text = .ok ss ∧ (.escape ∈ ss ∨ ∃ inner, .placeholder inner ∈ ss) := by
  rw [← Bool.not_eq_false, needsEvaluation_eq_false_iff]
  cases hparse : parse text with
  | error position => simp
  | ok ss =>
    have hkind : (∀ s ∈ ss, ∃ run, s = .literal run) ↔
        ¬ (.escape ∈ ss ∨ ∃ inner, .placeholder inner ∈ ss) := by
      constructor
      · rintro hliteral (hmem | ⟨inner, hmem⟩)
        · exact nomatch hliteral _ hmem
        · exact nomatch hliteral _ hmem
      · intro hnone s hs
        cases s with
        | literal run => exact ⟨run, rfl⟩
        | escape => exact absurd (.inl hs) hnone
        | placeholder inner => exact absurd (.inr ⟨inner, hs⟩) hnone
    simp only [Except.ok.injEq, exists_eq_left', reduceCtorEq, exists_false, false_or, hkind,
      not_not]

end Segment

open Segment

/-! ## Both short ways -/

theorem View.evaluate_eq_run {v : View} {ev : Evaluator} (hpasses : 0 < ev.maxPasses)
    (hev : v.evaluator = some ev) (chain : FilterChain) {p : Property} {raw : String}
    (hraw : p.value = some raw) :
    v.evaluate chain p
      = do return (← ev.run (v.lookup chain) raw.toList).map fun text =>
          p.withValue (some (.ofList text)) := by
  unfold evaluate
  rw [hev, hraw]
  dsimp only
  split
  · rw [Evaluator.evaluate_eq_run hpasses, bind_assoc]
    congr 1
    funext answer
    cases answer <;> rfl
  · next hneeds =>
    have hsame : p.withValue (some raw) = p := by rw [← hraw]; rfl
    rw [Evaluator.run_of_needsEvaluation hpasses _ (Bool.eq_false_of_not_eq_true hneeds), pure_bind,
      Except.map, String.ofList_toList, hsame]

namespace Evaluator

/-- A text is taken for one that needs evaluation exactly if one of the two pairs of characters
stands in it, which is exactly if it does not parse or has an escape or a placeholder among its
segments. Of any other text all passes and the rendering make the text itself, and ask nobody. So
the evaluator and the view, which both pass such texts over, do on every text what all passes on it
would have done. -/
theorem needsEvaluation_exact {b : Builder} {ev : Evaluator} (hbuilt : b.build = .ok ev) :
    (∀ text, needsEvaluation text = true ↔ ['$', '{'] <:+: text ∨ ['\\', '$'] <:+: text) ∧
    (∀ text, needsEvaluation text = false ↔
      ∃ ss, parse text = .ok ss ∧ ∀ s ∈ ss, ∃ run, s = .literal run) ∧
    (∀ text, needsEvaluation text = true ↔ (∃ position, parse text = .error position) ∨
      ∃ ss, parse text = .ok ss ∧ (.escape ∈ ss ∨ ∃ inner, .placeholder inner ∈ ss)) ∧
    (∀ lookup text, needsEvaluation text = false → ev.run lookup text = pure (.ok text)) ∧
    (∀ lookup text, ev.evaluate lookup text
      = do return (← ev.run lookup text.toList).map String.ofList) ∧
    ∀ (v : View) (chain : FilterChain) (p : Property) (raw : String),
      v.evaluator = some ev → p.value = some raw →
      v.evaluate chain p
        = do return (← ev.run (v.lookup chain) raw.toList).map fun text =>
            p.withValue (some (.ofList text)) := by
  have hpasses : 0 < ev.maxPasses := Builder.maxPasses_pos hbuilt
  refine ⟨?_, ?_, ?_, ?_, ?_, ?_⟩
  · exact fun text => needsEvaluation_eq_true_iff
  · exact fun text => needsEvaluation_eq_false_iff
  · exact fun text => needsEvaluation_iff_parse
  · exact fun lookup text => run_of_needsEvaluation hpasses lookup
  · exact evaluate_eq_run hpasses
  · exact fun v chain p raw hev hraw => View.evaluate_eq_run hpasses hev chain hraw

/-- A text of dollars, braces and backslashes in which no two of them come together so as to open
anything, before an evaluator of one pass that answers everything and refuses what it cannot. -/
theorem needsEvaluation_exact_of_loose_marks :
    let text := "\x7b$\x7d \\\x7b$$\\"
    let b : Builder :=
      { resolvers := [.ofFunction "x" 0 some], unresolved := .fail, maxPasses := 1 }
    let v : View := ⟨[], .overriding, [], some ⟨b.resolvers, .fail, 1⟩⟩
    needsEvaluation text.toList = false ∧
    (∃ ss, parse text.toList = .ok ss ∧ ∀ s ∈ ss, ∃ run, s = .literal run) ∧
    ∃ ev, b.build = .ok ev ∧ ev.run (Lookup.ofMap ∅) text.toList = pure (.ok text.toList) ∧
      v.evaluate .empty (.text "k" text "app") = pure (.ok (.text "k" text "app")) := by
  intro text b v
  have hbuilt : b.build = .ok ⟨b.resolvers, .fail, 1⟩ := rfl
  obtain ⟨-, hliteral, -, hrun, -, hview⟩ := needsEvaluation_exact hbuilt
  have hneeds : needsEvaluation text.toList = false := by decide
  refine ⟨hneeds, (hliteral _).mp hneeds, _, hbuilt, hrun _ _ hneeds, ?_⟩
  rw [hview v .empty (.text "k" text "app") text rfl rfl, hrun _ _ hneeds, pure_bind, Except.map,
    String.ofList_toList]
  rfl

end Evaluator

end LayeredConfig
