import LayeredConfig.Proofs.Expression.Lookups
import LayeredConfig.Proofs.Expression.Pass
import LayeredConfig.StringMap.Lemmas
import Mathlib.Data.ENat.Lattice
import Mathlib.Order.CompletePartialOrder

/-!
# What placeholders mean

The meaning of a text does not speak of passes: a placeholder stands for the text that
answers it, that text for what its own placeholders stand for, and so on. `Expands` is
this recursion. `depth` is the length of the longest chain of answers that refer to each
other, infinite where references go in circles or never end.
-/
namespace LayeredConfig

namespace Segment

/-- A text that joins onto nothing, whatever it is put between. -/
structure IsClosed (text : List Char) : Prop where
  ne_nil : text ≠ []
  parses : ∃ ss, parse text = .ok ss
  noBrace : text.head? ≠ some '{'
  noDollar : text.getLast? ≠ some '$'
  noBackslash : text.getLast? ≠ some '\\'

theorem isClosed_iff {text : List Char} : IsClosed text ↔
    text ≠ [] ∧ (parse text).isOk ∧ text.head? ≠ some '{' ∧ text.getLast? ≠ some '$' ∧
      text.getLast? ≠ some '\\' := by
  constructor
  · rintro ⟨hne, ⟨ss, hss⟩, hbrace, hdollar, hbackslash⟩
    exact ⟨hne, by rw [hss]; rfl, hbrace, hdollar, hbackslash⟩
  · rintro ⟨hne, hok, hbrace, hdollar, hbackslash⟩
    refine ⟨hne, ?_, hbrace, hdollar, hbackslash⟩
    cases hparse : parse text with
    | ok ss => exact ⟨ss, rfl⟩
    | error position =>
      rw [hparse] at hok
      cases hok

instance (text : List Char) : Decidable (IsClosed text) :=
  decidable_of_iff' _ isClosed_iff

/-- The segments of a text; none, if it cannot be parsed. -/
def parsed (text : List Char) : List Segment :=
  match parse text with
  | .ok ss => ss
  | .error _ => []

theorem parsed_of_parse {text : List Char} {ss : List Segment} (h : parse text = .ok ss) :
    parsed text = ss := by
  rw [parsed, h]

end Segment

open Segment

namespace Evaluator

variable (ev : Evaluator) (lookup : Lookup)

/-! ## Answers -/

/-- Whatever a resolver answers is closed. -/
def AnswersClosed : Prop :=
  ∀ r ∈ ev.resolvers, ∀ expression value,
    (r.resolve expression lookup).value = some value → IsClosed value.toList

/-- The answers to the placeholders that have one. -/
def answers (ss : List Segment) : List String :=
  ss.filterMap (ev.answerTo lookup)

theorem firstAnswer_some {expression value : String} {rs : List Resolver}
    (h : (firstAnswer expression lookup rs).value = some value) :
    ∃ r ∈ rs, (r.resolve expression lookup).value = some value := by
  induction rs with
  | nil => cases h
  | cons r rs ih =>
    rw [firstAnswer, Journaled.value_bind] at h
    cases hr : (r.resolve expression lookup).value with
    | some answer =>
      rw [hr] at h
      cases h
      exact ⟨r, List.mem_cons_self, hr⟩
    | none =>
      rw [hr] at h
      obtain ⟨r', hr', hvalue⟩ := ih h
      exact ⟨r', List.mem_cons_of_mem r hr', hvalue⟩

/-- Every answer is the answer of some resolver to some expression. -/
theorem answerTo_some {s : Segment} {value : String} (h : ev.answerTo lookup s = some value) :
    ∃ r ∈ ev.resolvers, ∃ expression, (r.resolve expression lookup).value = some value := by
  cases s with
  | literal text => cases h
  | escape => cases h
  | placeholder inner =>
    change (ev.answer lookup inner).value = some value at h
    unfold answer at h
    cases hnamed : ev.named? inner with
    | none =>
      rw [hnamed] at h
      obtain ⟨r, hr, hvalue⟩ := firstAnswer_some lookup h
      exact ⟨r, hr, _, hvalue⟩
    | some named =>
      obtain ⟨r, expression⟩ := named
      rw [hnamed] at h
      exact ⟨r, mem_of_named? hnamed, _, h⟩

variable {ev lookup}

theorem AnswersClosed.isClosed (hclosed : ev.AnswersClosed lookup) {s : Segment} {value : String}
    (h : ev.answerTo lookup s = some value) : IsClosed value.toList := by
  obtain ⟨r, hr, expression, hvalue⟩ := ev.answerTo_some lookup h
  exact hclosed r hr expression value hvalue

theorem AnswersClosed.parse (hclosed : ev.AnswersClosed lookup) {s : Segment} {value : String}
    (h : ev.answerTo lookup s = some value) :
    Segment.parse value.toList = .ok (parsed value.toList) := by
  obtain ⟨ss, hss⟩ := (hclosed.isClosed h).parses
  rw [parsed_of_parse hss, hss]

variable (ev lookup)

/-- A configuration that holds closed texts answers with closed texts. -/
theorem answersClosed_ofMap {texts : StringMap String}
    (htexts : ∀ e ∈ texts.entries, IsClosed e.2.toList) {ev : Evaluator}
    (hev : ev.resolvers = [.configuration]) : ev.AnswersClosed (Lookup.ofMap texts) := by
  intro r hr expression value hvalue
  rw [hev] at hr
  obtain rfl := List.mem_singleton.mp hr
  exact htexts (Text.trim expression, value) (StringMap.mem_entries_iff.mpr hvalue)

/-- The placeholders of a text are those of its pieces. -/
theorem answers_pieces (ss : List Segment) :
    ev.answers lookup (pieces ss) = ev.answers lookup ss := by
  induction ss with
  | nil => rfl
  | cons s ss ih =>
    unfold answers at ih ⊢
    cases s with
    | literal text =>
      have hrun : (text.map fun c => Segment.literal [c]).filterMap (ev.answerTo lookup) = [] := by
        simp
      rw [pieces_literal, List.filterMap_append, hrun, ih]
      rfl
    | escape => rw [pieces_escape, List.filterMap_cons, List.filterMap_cons, ih]
    | placeholder inner => rw [pieces_placeholder, List.filterMap_cons, List.filterMap_cons, ih]

theorem answers_append (ss ss' : List Segment) :
    ev.answers lookup (ss ++ ss') = ev.answers lookup ss ++ ev.answers lookup ss' :=
  List.filterMap_append

theorem passText_pieces (ss : List Segment) :
    ev.passText lookup (pieces ss) = ev.passText lookup ss := by
  induction ss with
  | nil => rfl
  | cons s ss ih =>
    cases s with
    | literal text =>
      have hrun : ev.passText lookup (text.map fun c => .literal [c]) = text := by
        rw [passText_of_unanswered, writeAll_literals]
        simp
      rw [pieces_literal, passText_append, hrun, ih]
      rfl
    | escape => rw [pieces_escape, passText_cons, passText_cons, ih]
    | placeholder inner => rw [pieces_placeholder, passText_cons, passText_cons, ih]

theorem answers_eq_nil_iff {ss : List Segment} :
    ev.answers lookup ss = [] ↔ ∀ s ∈ ss, ev.answerTo lookup s = none :=
  List.filterMap_eq_nil_iff

/-! ## Depth -/

/-- There is a chain of `n` answers, the first of them to a placeholder of the text and each
other to a placeholder of the one before. -/
def HasChain : Nat → List Char → Prop
  | 0, _ => True
  | n + 1, text => ∃ value ∈ ev.answers lookup (parsed text), HasChain n value.toList

theorem hasChain_succ {n : Nat} {text : List Char} :
    ev.HasChain lookup (n + 1) text ↔
      ∃ value ∈ ev.answers lookup (parsed text), ev.HasChain lookup n value.toList :=
  Iff.rfl

instance HasChain.decidable : (n : Nat) → (text : List Char) → Decidable (ev.HasChain lookup n text)
  | 0, _ => .isTrue trivial
  | n + 1, text =>
    have (value : String) := HasChain.decidable n value.toList
    inferInstanceAs (Decidable (∃ value ∈ ev.answers lookup (parsed text), _))

theorem hasChain_of_succ {n : Nat} {text : List Char} (h : ev.HasChain lookup (n + 1) text) :
    ev.HasChain lookup n text := by
  induction n generalizing text with
  | zero => trivial
  | succ n ih =>
    obtain ⟨value, hvalue, hchain⟩ := h
    exact ⟨value, hvalue, ih hchain⟩

theorem HasChain.mono {m n : Nat} {text : List Char} (h : ev.HasChain lookup n text)
    (hle : m ≤ n) : ev.HasChain lookup m text := by
  induction hle with
  | refl => exact h
  | step _ ih => exact ih (ev.hasChain_of_succ lookup h)

/-- How deep the references of a text go. -/
noncomputable def depth (text : List Char) : ℕ∞ :=
  ⨆ (n : ℕ) (_ : ev.HasChain lookup n text), (n : ℕ∞)

theorem natCast_le_depth {n : ℕ} {text : List Char} :
    (n : ℕ∞) ≤ ev.depth lookup text ↔ ev.HasChain lookup n text := by
  constructor
  · intro hle
    by_contra hchain
    cases n with
    | zero => exact hchain trivial
    | succ n =>
      -- Chains get shorter by cutting them off, so none is longer than `n` either.
      have hbound : ev.depth lookup text ≤ n := by
        refine iSup₂_le fun m hm => Nat.cast_le.mpr ?_
        by_contra hlt
        exact hchain (hm.mono ev lookup (by omega))
      have : ((n + 1 : ℕ) : ℕ∞) ≤ (n : ℕ) := hle.trans hbound
      exact absurd (Nat.cast_le.mp this) (by omega)
  · exact fun h => le_iSup₂_of_le n h le_rfl

/-- Nothing to follow is depth zero; else the depth is one more than that of the deepest
answer. -/
theorem depth_eq (text : List Char) :
    ev.depth lookup text
      = ⨆ value ∈ ev.answers lookup (parsed text), (ev.depth lookup value.toList + 1) := by
  -- Both sides have the same naturals below them.
  refine ENat.eq_of_forall_natCast_le_iff fun n => ?_
  cases n with
  | zero => simp
  | succ n =>
    rw [natCast_le_depth, Nat.cast_add, Nat.cast_one, ENat.natCast_add_one_le_iff]
    simp only [lt_iSup_iff, ENat.natCast_lt_add_one_iff, natCast_le_depth, exists_prop]
    rfl

/-- Some placeholder of the first text is answered by the second. -/
def Refers (text text' : List Char) : Prop :=
  ∃ value ∈ ev.answers lookup (parsed text), value.toList = text'

variable {ev lookup} in
theorem Refers.depth_le {text text' : List Char} (h : ev.Refers lookup text text') :
    ev.depth lookup text' + 1 ≤ ev.depth lookup text := by
  obtain ⟨value, hvalue, rfl⟩ := h
  rw [ev.depth_eq lookup text]
  exact le_iSup₂_of_le value hvalue le_rfl

/-- References that come round to a circle never end. -/
theorem depth_eq_top_of_circular {text circular : List Char}
    (hreach : Relation.ReflTransGen (ev.Refers lookup) text circular)
    (hcircle : Relation.TransGen (ev.Refers lookup) circular circular) :
    ev.depth lookup text = ⊤ := by
  have hmore : ∀ {a b}, Relation.TransGen (ev.Refers lookup) a b →
      ev.depth lookup b + 1 ≤ ev.depth lookup a := by
    intro a b h
    induction h with
    | single h => exact h.depth_le
    | tail _ h ih => exact (h.depth_le.trans le_self_add).trans ih
  -- Round the circle the depth would have to be less than itself.
  have htop : ev.depth lookup circular = ⊤ := by
    by_contra hfinite
    exact absurd (hmore hcircle) (not_le_of_gt (ENat.lt_add_one_iff hfinite |>.mpr le_rfl))
  rcases Relation.reflTransGen_iff_eq_or_transGen.mp hreach with rfl | hreach
  · exact htop
  · exact top_le_iff.mp (htop ▸ le_self_add.trans (hmore hreach))

/-! ## Expansion -/

/-- Every placeholder that is answered gives way to the expansion of its answer; all else
stays. Literal runs come out in pieces, for a run may go on in an answer beside it. -/
inductive Expands : List Segment → List Segment → Prop where
  | nil : Expands [] []
  | kept {s : Segment} {ss es : List Segment} :
      ev.answerTo lookup s = none → Expands ss es → Expands (s :: ss) (pieces [s] ++ es)
  | answered {s : Segment} {value : String} {ss vs es : List Segment} :
      ev.answerTo lookup s = some value → Expands (parsed value.toList) vs → Expands ss es →
      Expands (s :: ss) (vs ++ es)

namespace Expands

variable {ev lookup} {ss ss' es es' : List Segment}

theorem append (h : Expands ev lookup ss es) (h' : Expands ev lookup ss' es') :
    Expands ev lookup (ss ++ ss') (es ++ es') := by
  induction h with
  | nil => exact h'
  | kept hs _ ih =>
    rw [List.append_assoc]
    exact .kept hs ih
  | answered hs hvs _ _ ih =>
    rw [List.append_assoc]
    exact .answered hs hvs ih

theorem split (h : Expands ev lookup (ss ++ ss') es) :
    ∃ us us', es = us ++ us' ∧ Expands ev lookup ss us ∧ Expands ev lookup ss' us' := by
  induction ss generalizing es with
  | nil => exact ⟨[], es, rfl, .nil, h⟩
  | cons s ss ih =>
    cases h with
    | kept hs h =>
      obtain ⟨us, us', rfl, hus, hus'⟩ := ih h
      exact ⟨pieces [s] ++ us, us', by rw [List.append_assoc], .kept hs hus, hus'⟩
    | @answered _ _ _ vs _ hs hvs h =>
      obtain ⟨us, us', rfl, hus, hus'⟩ := ih h
      exact ⟨vs ++ us, us', by rw [List.append_assoc], .answered hs hvs hus, hus'⟩

theorem unique (h : Expands ev lookup ss es) (h' : Expands ev lookup ss es') : es = es' := by
  induction h generalizing es' with
  | nil =>
    cases h'
    rfl
  | kept hs _ ih =>
    cases h' with
    | kept _ h' => rw [ih h']
    | answered hs' => cases hs.symm.trans hs'
  | answered hs _ _ ihvs ih =>
    cases h' with
    | kept hs' => cases hs.symm.trans hs'
    | answered hs' hvs' h' =>
      cases hs.symm.trans hs'
      rw [ihvs hvs', ih h']

/-- Where nothing is answered the expansion is the text itself. -/
theorem of_unanswered (h : ∀ s ∈ ss, ev.answerTo lookup s = none) :
    Expands ev lookup ss (pieces ss) := by
  induction ss with
  | nil => exact .nil
  | cons s ss ih =>
    rw [← List.singleton_append, pieces_append]
    exact .kept (h s List.mem_cons_self) (ih fun s' hs' => h s' (List.mem_cons_of_mem s hs'))

/-- No placeholder of an expansion has an answer. -/
theorem unanswered (h : Expands ev lookup ss es) : ∀ s ∈ es, ev.answerTo lookup s = none := by
  induction h with
  | nil => exact fun s hs => nomatch hs
  | @kept s _ _ hs _ ih =>
    intro t ht
    rcases List.mem_append.mp ht with ht | ht
    · cases s with
      | literal text =>
        obtain ⟨c, _, rfl⟩ : ∃ c ∈ text, .literal [c] = t := by simpa using ht
        rfl
      | escape => exact List.mem_singleton.mp ht ▸ rfl
      | placeholder inner => exact List.mem_singleton.mp ht ▸ hs
    · exact ih t ht
  | answered _ _ _ ihvs ih =>
    intro t ht
    exact (List.mem_append.mp ht).elim (ihvs t) (ih t)

theorem append_iff : Expands ev lookup (ss ++ ss') es ↔
    ∃ us us', es = us ++ us' ∧ Expands ev lookup ss us ∧ Expands ev lookup ss' us' := by
  refine ⟨split, ?_⟩
  rintro ⟨us, us', rfl, h, h'⟩
  exact h.append h'

theorem literals (text : List Char) : Expands ev lookup (text.map fun c => .literal [c])
    (text.map fun c => .literal [c]) := by
  have h : Expands ev lookup (text.map fun c => .literal [c])
      (pieces (text.map fun c => .literal [c])) :=
    of_unanswered fun s hs => by
      obtain ⟨c, _, rfl⟩ := List.mem_map.mp hs
      rfl
  rwa [pieces_literals] at h

/-- A text and its pieces mean the same. -/
theorem pieces_iff : Expands ev lookup (pieces ss) es ↔ Expands ev lookup ss es := by
  induction ss generalizing es with
  | nil => rfl
  | cons s ss ih =>
    have hs : ∀ us, Expands ev lookup (pieces [s]) us ↔ Expands ev lookup [s] us := by
      intro us
      -- Pieces take apart literal runs only, and a run stands for itself either way.
      cases s with
      | literal text =>
        have hrun : Expands ev lookup [.literal text] (pieces [.literal text]) :=
          of_unanswered fun s hs => List.mem_singleton.mp hs ▸ rfl
        have hpieces : Expands ev lookup (pieces [.literal text]) (pieces [.literal text]) := by
          simpa using literals text
        exact ⟨fun h => hpieces.unique h ▸ hrun, fun h => hrun.unique h ▸ hpieces⟩
      | escape => rfl
      | placeholder inner => rfl
    rw [← List.singleton_append, pieces_append, append_iff, append_iff]
    simp only [hs, ih]

/-- References that come to an end have an expansion. -/
theorem exists_of_answers
    (h : ∀ value ∈ ev.answers lookup ss, ∃ vs, Expands ev lookup (parsed value.toList) vs) :
    ∃ es, Expands ev lookup ss es := by
  induction ss with
  | nil => exact ⟨[], .nil⟩
  | cons s ss ih =>
    unfold answers at h ih
    cases hs : ev.answerTo lookup s with
    | none =>
      rw [List.filterMap_cons_none hs] at h
      obtain ⟨es, hes⟩ := ih h
      exact ⟨_, .kept hs hes⟩
    | some value =>
      rw [List.filterMap_cons_some hs] at h
      obtain ⟨vs, hvs⟩ := h value List.mem_cons_self
      obtain ⟨es, hes⟩ := ih fun value' hmem => h value' (List.mem_cons_of_mem value hmem)
      exact ⟨_, .answered hs hvs hes⟩

theorem exists_of_not_hasChain {n : Nat} {text : List Char}
    (h : ¬ ev.HasChain lookup n text) : ∃ es, Expands ev lookup (parsed text) es := by
  induction n generalizing text with
  | zero => exact absurd trivial h
  | succ n ih =>
    exact exists_of_answers fun value hvalue => ih fun hchain => h ⟨value, hvalue, hchain⟩

end Expands

/-! ## One pass -/

section Follow

/-- A segment after a pass, in pieces. -/
def follow (s : Segment) : List Segment :=
  match ev.answerTo lookup s with
  | some value => pieces (parsed value.toList)
  | none => pieces [s]

theorem follow_of_none {s : Segment} (h : ev.answerTo lookup s = none) :
    ev.follow lookup s = pieces [s] := by
  rw [follow, h]

theorem follow_of_some {s : Segment} {value : String} (h : ev.answerTo lookup s = some value) :
    ev.follow lookup s = pieces (parsed value.toList) := by
  rw [follow, h]

/-- The answers after a pass are the answers to what was answered before. -/
theorem answers_follow (ss : List Segment) :
    ev.answers lookup (ss.flatMap (ev.follow lookup))
      = (ev.answers lookup ss).flatMap fun value => ev.answers lookup (parsed value.toList) := by
  induction ss with
  | nil => rfl
  | cons s ss ih =>
    rw [List.flatMap_cons, answers_append, ih]
    cases hs : ev.answerTo lookup s with
    | none =>
      have hnone : ev.answers lookup [s] = [] := List.filterMap_cons_none hs
      have hcons : ev.answers lookup (s :: ss) = ev.answers lookup ss :=
        List.filterMap_cons_none hs
      rw [ev.follow_of_none lookup hs, answers_pieces, hnone, hcons, List.nil_append]
    | some value =>
      have hcons : ev.answers lookup (s :: ss) = value :: ev.answers lookup ss :=
        List.filterMap_cons_some hs
      rw [ev.follow_of_some lookup hs, answers_pieces, hcons, List.flatMap_cons]

variable {ev lookup}

/-- Following the references of a text once leaves its meaning as it is. -/
theorem Expands.follow {ss es : List Segment} (h : Expands ev lookup ss es) :
    Expands ev lookup (ss.flatMap (ev.follow lookup)) es := by
  induction h with
  | nil => exact .nil
  | @kept s ss es hs h ih =>
    rw [List.flatMap_cons, ev.follow_of_none lookup hs]
    refine append (pieces_iff.mpr ?_) ih
    exact of_unanswered fun s' hs' => List.mem_singleton.mp hs' ▸ hs
  | answered hs hvs _ _ ih =>
    rw [List.flatMap_cons, ev.follow_of_some lookup hs]
    exact append (pieces_iff.mpr hvs) ih

end Follow

end Evaluator

end LayeredConfig
