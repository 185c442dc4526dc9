import LayeredConfig.Proofs.Expression.Bytes

/-!
# Canonical segments

The segments of a text carry its division into runs, escapes and placeholders in one way
only. The lists that come out of a parse are told by what stands next to what, each of them
is the parse of its own writing, and a text that is refused has such a list in front of the
placeholder that is never closed.
-/
namespace LayeredConfig.Segment

/-! ## Canonical lists -/

/-- Segments as they come out of a text. -/
structure Canonical (ss : List Segment) : Prop where
  literal : ∀ text, .literal text ∈ ss →
    text ≠ [] ∧ ¬ ['$', '{'] <:+: text ∧ ¬ ['\\', '$'] <:+: text
  placeholder : ∀ inner, .placeholder inner ∈ ss → '}' ∉ inner
  apart : ∀ text text', ¬ [.literal text, .literal text'] <:+: ss
  unescaped : ∀ text inner, [.literal text, .placeholder inner] <:+: ss →
    text.getLast? ≠ some '\\'

/-- The last segment is a literal run that ends in a backslash. -/
def EndsInBackslash (ss : List Segment) : Prop :=
  ∃ text, ss.getLast? = some (.literal text) ∧ text.getLast? = some '\\'

theorem pair_infix_cons {α : Type} {a b c : α} {cs : List α} :
    [a, b] <:+: c :: cs ↔ (a = c ∧ cs.head? = some b) ∨ [a, b] <:+: cs := by
  rw [List.infix_cons_iff, List.cons_prefix_cons]
  cases cs with
  | nil => simp
  | cons d ds => simp [List.cons_prefix_cons, eq_comm]

section Cons

variable {ss : List Segment}

@[simp] theorem canonical_nil : Canonical [] := ⟨nofun, nofun, by simp, by simp⟩

theorem Canonical.tail {s : Segment} (h : Canonical (s :: ss)) : Canonical ss where
  literal text hmem := h.literal text (List.mem_cons_of_mem s hmem)
  placeholder inner hmem := h.placeholder inner (List.mem_cons_of_mem s hmem)
  apart text text' hin := h.apart text text' (List.infix_cons hin)
  unescaped text inner hin := h.unescaped text inner (List.infix_cons hin)

@[simp] theorem canonical_escape_cons : Canonical (.escape :: ss) ↔ Canonical ss := by
  constructor
  · exact Canonical.tail
  · intro h
    constructor
    · simpa using h.literal
    · simpa using h.placeholder
    · simpa [pair_infix_cons] using h.apart
    · simpa [pair_infix_cons] using h.unescaped

@[simp] theorem canonical_placeholder_cons {inner : List Char} :
    Canonical (.placeholder inner :: ss) ↔ '}' ∉ inner ∧ Canonical ss := by
  constructor
  · intro h
    exact ⟨h.placeholder inner List.mem_cons_self, h.tail⟩
  · rintro ⟨hc, h⟩
    constructor
    · simpa using h.literal
    · simpa [hc] using h.placeholder
    · simpa [pair_infix_cons] using h.apart
    · simpa [pair_infix_cons] using h.unescaped

theorem canonical_literal_cons {text : List Char} :
    Canonical (.literal text :: ss) ↔
      (text ≠ [] ∧ ¬ ['$', '{'] <:+: text ∧ ¬ ['\\', '$'] <:+: text) ∧
      (∀ text', ss.head? ≠ some (.literal text')) ∧
      (∀ inner, ss.head? = some (.placeholder inner) → text.getLast? ≠ some '\\') ∧
      Canonical ss := by
  constructor
  · intro h
    refine ⟨h.literal text List.mem_cons_self, ?_, ?_, h.tail⟩
    · intro text' hhead
      exact h.apart text text' (pair_infix_cons.mpr (.inl ⟨rfl, hhead⟩))
    · intro inner hhead
      exact h.unescaped text inner (pair_infix_cons.mpr (.inl ⟨rfl, hhead⟩))
  · rintro ⟨htext, hapart, hunescaped, h⟩
    constructor
    · intro text' hmem
      rcases List.mem_cons.mp hmem with heq | hmem
      · cases heq
        exact htext
      · exact h.literal text' hmem
    · simpa using h.placeholder
    · intro a b hin
      rcases pair_infix_cons.mp hin with ⟨-, hhead⟩ | hin
      · exact hapart b hhead
      · exact h.apart a b hin
    · intro a inner hin
      rcases pair_infix_cons.mp hin with ⟨heq, hhead⟩ | hin
      · cases heq
        exact hunescaped inner hhead
      · exact h.unescaped a inner hin

/-- A character that opens nothing in front of the text of the segments. -/
theorem Canonical.consChar {c : Char} (h : Canonical ss) (ho : ¬ Opens c (writeAll ss)) :
    Canonical (consChar c ss) := by
  have halone : [c] ≠ [] ∧ ¬ ['$', '{'] <:+: [c] ∧ ¬ ['\\', '$'] <:+: [c] := by
    simp [pair_infix_cons]
  cases ss with
  | nil => exact canonical_literal_cons.mpr ⟨halone, by simp, by simp, h⟩
  | cons s ss =>
    cases s with
    | escape => exact canonical_literal_cons.mpr ⟨halone, by simp, by simp, h⟩
    | placeholder inner =>
      refine canonical_literal_cons.mpr ⟨halone, by simp, ?_, h⟩
      rintro _ - hlast
      obtain rfl : c = '\\' := by simpa using hlast
      exact ho (opens_escape _)
    | literal text =>
      -- The run grows by a character, which must not open anything with the next one.
      obtain ⟨⟨hne, hopen, hescape⟩, hapart, hunescaped, htail⟩ := canonical_literal_cons.mp h
      obtain ⟨d, text, rfl⟩ := List.exists_cons_of_ne_nil hne
      refine canonical_literal_cons.mpr ⟨⟨by simp, ?_, ?_⟩, hapart, ?_, htail⟩
      · rw [pair_infix_cons, not_or]
        refine ⟨?_, hopen⟩
        rintro ⟨rfl, hhead⟩
        obtain rfl : d = '{' := by simpa using hhead
        exact ho (opens_placeholder _)
      · rw [pair_infix_cons, not_or]
        refine ⟨?_, hescape⟩
        rintro ⟨rfl, hhead⟩
        obtain rfl : d = '$' := by simpa using hhead
        exact ho (opens_escape _)
      · simpa using hunescaped

end Cons

/-! ## What parses -/

theorem canonical_of_parseFrom {position : Nat} {cs : List Char} {ss : List Segment}
    (h : parseFrom position cs = .ok ss) : Canonical ss := by
  fun_induction parseFrom position cs generalizing ss with
  | case1 =>
    cases h
    exact canonical_nil
  | case2 position rest ih =>
    obtain ⟨ss, hrest, rfl⟩ := except_map_ok h
    exact canonical_escape_cons.mpr (ih hrest)
  | case3 position rest inner c rest' hd =>
    rename_i ih
    obtain ⟨ss, hrest, rfl⟩ := except_map_ok h
    exact canonical_placeholder_cons.mpr ⟨(raw_takeWhile_append hd).1, ih hrest⟩
  | case4 => cases h
  | case5 position c rest hescape hplaceholder ih =>
    obtain ⟨ss, hrest, rfl⟩ := except_map_ok h
    refine (ih hrest).consChar ?_
    rw [writeAll_of_parseFrom hrest]
    exact not_opens hescape hplaceholder

/-! ## What is written -/

/-- A run of characters none of which opens anything. -/
theorem parseFrom_run {text rest : List Char} (hopen : ¬ ['$', '{'] <:+: text)
    (hescape : ¬ ['\\', '$'] <:+: text) (hseam : ∀ c, text.getLast? = some c → ¬ Opens c rest)
    (position : Nat) :
    parseFrom position (text ++ rest)
      = (parseFrom (position + byteLength text) rest).map fun ss => text.foldr consChar ss := by
  induction text generalizing position with
  | nil =>
    rw [List.nil_append, byteLength, Nat.add_zero]
    cases parseFrom position rest <;> rfl
  | cons c text ih =>
    rw [pair_infix_cons, not_or] at hopen hescape
    have ho : ¬ Opens c (text ++ rest) := by
      cases text with
      | nil => exact hseam c rfl
      | cons d text =>
        rintro (⟨hc, hd⟩ | ⟨hc, hd⟩)
        · exact hescape.1 ⟨hc.symm, hd⟩
        · exact hopen.1 ⟨hc.symm, hd⟩
    have hlast : ∀ d, text.getLast? = some d → ¬ Opens d rest := fun d hd =>
      hseam d (by rw [List.getLast?_cons, hd]; rfl)
    rw [List.cons_append, parseFrom_char ho, ih hopen.2 hescape.2 hlast, byteLength, Nat.add_assoc]
    cases parseFrom (position + (c.utf8Size + byteLength text)) rest <;> rfl

/-- Segments that begin with no run open nothing behind a character, if it is not the backslash
of a run. -/
theorem not_opens_writeAll {c : Char} {ss : List Segment}
    (hapart : ∀ text, ss.head? ≠ some (.literal text))
    (hunescaped : ∀ inner, ss.head? = some (.placeholder inner) → c ≠ '\\') :
    ¬ Opens c (writeAll ss) := by
  cases ss with
  | nil => simp [Opens]
  | cons s ss =>
    cases s with
    | literal text => exact absurd rfl (hapart text)
    | escape => simp [Opens, write]
    | placeholder inner =>
      have hc := hunescaped inner rfl
      simp [Opens, write, raw, hc]

theorem parseFrom_writeAll {ss : List Segment} (h : Canonical ss) (position : Nat) :
    parseFrom position (writeAll ss) = .ok ss := by
  induction ss generalizing position with
  | nil => rw [writeAll_nil, parseFrom]
  | cons s ss ih =>
    cases s with
    | escape => simp [write, parseFrom_escape, ih h.tail, Except.map]
    | placeholder inner =>
      obtain ⟨hc, h⟩ := canonical_placeholder_cons.mp h
      simp [write, parseFrom_placeholder hc, ih h, Except.map]
    | literal text =>
      obtain ⟨⟨hne, hopen, hescape⟩, hapart, hunescaped, h⟩ := canonical_literal_cons.mp h
      have hseam : ∀ c, text.getLast? = some c → ¬ Opens c (writeAll ss) := by
        intro c hc
        refine not_opens_writeAll hapart fun inner hinner heq => hunescaped inner hinner ?_
        rw [hc, heq]
      rw [writeAll_cons, write, parseFrom_run hopen hescape hseam, ih h, Except.map,
        foldr_consChar text hapart, literalRun, if_neg hne]
      rfl

/-! ## What does not parse -/

theorem scan_of_parseFrom_error {position failed : Nat} {cs : List Char}
    (h : parseFrom position cs = .error failed) :
    ∃ ts rest, Scan cs ts ('$' :: '{' :: rest) ∧ '}' ∉ rest ∧
      failed = position + byteLength (writeAll ts) := by
  fun_induction parseFrom position cs with
  | case1 => cases h
  | case2 position rest ih =>
    obtain ⟨ts, back, hscan, hback, hfailed⟩ := ih (except_map_error h)
    refine ⟨_, back, .escape hscan, hback, ?_⟩
    have hwidth : byteLength (write .escape) = 2 := rfl
    rw [writeAll_cons, byteLength_append, hwidth]
    omega
  | case3 position rest inner c rest' hd =>
    rename_i width ih
    obtain ⟨ts, back, hscan, hback, hfailed⟩ := ih (except_map_error h)
    obtain ⟨hc, htext⟩ := raw_takeWhile_append hd
    have hscan' := Scan.placeholder hc hscan
    rw [← htext] at hscan'
    refine ⟨_, back, hscan', hback, ?_⟩
    rw [hfailed, writeAll_cons, byteLength_append, write, byteLength_raw, Nat.add_assoc]
  | case4 position rest hd =>
    cases h
    refine ⟨[], rest, .done, ?_, rfl⟩
    intro hmem
    simpa using List.dropWhile_eq_nil_iff.mp hd '}' hmem
  | case5 position c rest hescape hplaceholder ih =>
    obtain ⟨ts, back, hscan, hback, hfailed⟩ := ih (except_map_error h)
    refine ⟨_, back, .char (not_opens hescape hplaceholder) hscan, hback, ?_⟩
    rw [writeAll_cons, byteLength_append]
    change failed = position + ((c.utf8Size + 0) + _)
    omega

/-- A run that ends in a backslash is not read in front of an opening. -/
theorem not_endsInBackslash_of_scan {cs rest : List Char} {ss : List Segment}
    (h : Scan cs (pieces ss) ('$' :: rest)) : ¬ EndsInBackslash ss := by
  -- The backslash is a piece of its own, and opens an escape where a dollar follows.
  rintro ⟨text, hlast, hbackslash⟩
  obtain ⟨front, rfl⟩ := List.getLast?_eq_some_iff.mp hlast
  obtain ⟨run, rfl⟩ := List.getLast?_eq_some_iff.mp hbackslash
  have hpieces : pieces (front ++ [.literal (run ++ ['\\'])])
      = pieces (front ++ [.literal run]) ++ [.literal ['\\']] := by
    simp
  rw [hpieces] at h
  obtain ⟨mid, -, hseam⟩ := h.split
  cases hseam with
  | char ho hdone =>
    cases hdone
    exact ho (opens_escape rest)

theorem getLast?_writeAll {ss : List Segment} (h : Canonical ss)
    (hlast : (writeAll ss).getLast? = some '\\') : EndsInBackslash ss := by
  rcases List.eq_nil_or_concat ss with rfl | ⟨front, s, rfl⟩
  · simp at hlast
  · rw [List.concat_eq_append, writeAll_append] at hlast
    cases s with
    | escape => simp [write] at hlast
    | placeholder inner =>
      have hraw : write (.placeholder inner) = ('$' :: '{' :: inner) ++ ['}'] := rfl
      rw [writeAll_cons, writeAll_nil, List.append_nil, hraw, ← List.append_assoc,
        List.getLast?_concat] at hlast
      cases hlast
    | literal text =>
      have hne := (h.literal text (by simp)).1
      refine ⟨text, by simp, ?_⟩
      simpa [write, List.getLast?_append, List.getLast?_eq_some_getLast hne] using hlast

theorem parseFrom_unclosed {rest : List Char} (hrest : '}' ∉ rest) (position : Nat) :
    parseFrom position ('$' :: '{' :: rest) = .error position := by
  have hdrop : rest.dropWhile (· != '}') = [] := by
    rw [List.dropWhile_eq_nil_iff]
    intro c hc
    rw [bne_iff_ne]
    exact fun heq => hrest (heq ▸ hc)
  rw [parseFrom]
  split
  · next heq =>
    rw [hdrop] at heq
    cases heq
  · rfl

theorem parse_eq_ok_iff {text : List Char} {ss : List Segment} :
    parse text = .ok ss ↔ Canonical ss ∧ writeAll ss = text := by
  constructor
  · intro h
    exact ⟨canonical_of_parseFrom h, writeAll_of_parse h⟩
  · rintro ⟨hcanonical, rfl⟩
    exact parseFrom_writeAll hcanonical 0

/-- A text is refused at the opening of a placeholder that is never closed, behind what parses
by itself and stays as it is in front of an opening. -/
theorem parse_eq_error_iff {text : List Char} {position : Nat} :
    parse text = .error position ↔
      ∃ ss rest, text = writeAll ss ++ '$' :: '{' :: rest ∧ position = byteLength (writeAll ss) ∧
        Canonical ss ∧ ¬ EndsInBackslash ss ∧ '}' ∉ rest := by
  constructor
  · intro h
    -- What was scanned before the failure parses by itself.
    obtain ⟨ts, rest, hscan, hrest, hposition⟩ := scan_of_parseFrom_error h
    obtain ⟨ss, hparse, rfl⟩ := hscan.truncate.parses
    rw [writeAll_pieces] at hposition
    refine ⟨ss, rest, ?_, by omega, canonical_of_parseFrom hparse,
      not_endsInBackslash_of_scan hscan, hrest⟩
    rw [hscan.text_eq, writeAll_pieces]
  · rintro ⟨ss, rest, rfl, rfl, hcanonical, hend, hrest⟩
    -- The parser comes to the opening, for no character before it opens anything there.
    have hwhole : Scan (writeAll ss) (pieces ss) [] :=
      scan_of_parse (parseFrom_writeAll hcanonical 0)
    have hscan : Scan (writeAll ss ++ '$' :: '{' :: rest) (pieces ss) ('$' :: '{' :: rest) := by
      refine hwhole.extend ?_
      rintro c hc (⟨rfl, -⟩ | ⟨-, hbrace⟩)
      · exact hend (getLast?_writeAll hcanonical hc)
      · cases hbrace
    have hparse := hscan.parseFrom_eq 0
    rw [parseFrom_unclosed hrest, Nat.zero_add, writeAll_pieces] at hparse
    exact except_map_error hparse

/-! ## Schemes -/

theorem isSchemeChar_iff {c : Char} :
    isSchemeChar c ↔ ('a' ≤ c ∧ c ≤ 'z') ∨ ('A' ≤ c ∧ c ≤ 'Z') ∨ ('0' ≤ c ∧ c ≤ '9') ∨
      c = '_' ∨ c = '-' := by
  -- The tests on characters are conjunctions that compute.
  have hand (p q : Prop) [Decidable p] [Decidable q] :
      (decide p && decide q) = true ↔ p ∧ q := by simp
  have hupper : c.isUpper ↔ 'A' ≤ c ∧ c ≤ 'Z' := decide_eq_true_iff
  have hlower : c.isLower ↔ 'a' ≤ c ∧ c ≤ 'z' := hand _ _
  have hdigit : c.isDigit ↔ '0' ≤ c ∧ c ≤ '9' := hand _ _
  have halpha : c.isAlpha = (c.isUpper || c.isLower) := rfl
  have halphanum : c.isAlphanum = (c.isAlpha || c.isDigit) := rfl
  simp [isSchemeChar, hupper, hlower, hdigit, halpha, halphanum, or_assoc, or_left_comm]

theorem splitScheme?_eq_some_iff {inner scheme expression : List Char} :
    splitScheme? inner = some (scheme, expression) ↔
      inner = scheme ++ ':' :: expression ∧ ':' ∉ scheme ∧ scheme ≠ [] ∧
        ∀ c ∈ scheme, isSchemeChar c := by
  have hsplit := List.takeWhile_append_dropWhile (p := (· != ':')) (l := inner)
  constructor
  · intro h
    unfold splitScheme? at h
    split at h
    · next rest hd =>
      dsimp only at h
      split at h
      · next hvalid =>
        cases h
        obtain ⟨hne, hall⟩ : inner.takeWhile (· != ':') ≠ [] ∧
            ∀ c ∈ inner.takeWhile (· != ':'), isSchemeChar c := by simpa using hvalid
        rw [hd] at hsplit
        exact ⟨hsplit.symm, fun hmem => by simpa using List.mem_takeWhile_imp hmem, hne, hall⟩
      · cases h
    · cases h
  · rintro ⟨rfl, hcolon, hne, hall⟩
    have hscheme : ∀ c ∈ scheme, (c != ':') = true := fun c hc => by
      rw [bne_iff_ne]
      exact fun heq => hcolon (heq ▸ hc)
    simpa [splitScheme?, List.takeWhile_append_of_pos hscheme,
      List.dropWhile_append_of_pos hscheme, hne] using hall
/-- The parse of a text is the one canonical list that is written as the text, and a text
without one holds an unclosed placeholder at the place the error tells. The scan over the bytes
comes to the same, with no slice that does not exist. -/
theorem parse_exactly_canonical :
    (∀ text ss, parse text = .ok ss ↔ Canonical ss ∧ writeAll ss = text) ∧
    (∀ text position, parse text = .error position ↔
      ∃ ss rest, text = writeAll ss ++ '$' :: '{' :: rest ∧ position = byteLength (writeAll ss) ∧
        Canonical ss ∧ ¬ EndsInBackslash ss ∧ '}' ∉ rest) ∧
    (∀ inner scheme expression, splitScheme? inner = some (scheme, expression) ↔
      inner = scheme ++ ':' :: expression ∧ ':' ∉ scheme ∧ scheme ≠ [] ∧
        ∀ c ∈ scheme, ('a' ≤ c ∧ c ≤ 'z') ∨ ('A' ≤ c ∧ c ≤ 'Z') ∨ ('0' ≤ c ∧ c ≤ '9') ∨
          c = '_' ∨ c = '-') ∧
    (∀ text, scanBytes text 0 0 = some ((parse text).map fun ss => ss.map excerpt)) := by
  refine ⟨?_, ?_, ?_, scanBytes_eq_parse⟩
  · intro text ss
    exact parse_eq_ok_iff
  · intro text position
    exact parse_eq_error_iff
  · intro inner scheme expression
    simp only [splitScheme?_eq_some_iff, isSchemeChar_iff]

end LayeredConfig.Segment
