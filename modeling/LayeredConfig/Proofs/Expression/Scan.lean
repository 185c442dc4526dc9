import Mathlib.Data.List.TakeWhile
import LayeredConfig.Expression.Segment

/-!
# Scanning as a relation

The parser reads a text from left to right and looks ahead. `Scan cs ts rest` says that
it reads the pieces `ts` at the front of `cs` and then stands at `rest`, between two
pieces. The text still to be read is part of the judgment, so two scans can be put
together only where no character opens an escape or a placeholder across the seam.

A piece is a segment whose literal run is a single character: where runs begin and end
depends on the neighbours, where pieces do does not.
-/
namespace LayeredConfig.Segment

/-- In front of the text the character opens an escape or a placeholder. -/
def Opens (c : Char) (cs : List Char) : Prop :=
  (c = '\\' ∧ cs.head? = some '$') ∨ (c = '$' ∧ cs.head? = some '{')

inductive Scan : List Char → List Segment → List Char → Prop where
  | done {rest : List Char} : Scan rest [] rest
  | char {c : Char} {cs rest : List Char} {ts : List Segment} :
      ¬ Opens c cs → Scan cs ts rest → Scan (c :: cs) (.literal [c] :: ts) rest
  | escape {cs rest : List Char} {ts : List Segment} :
      Scan cs ts rest → Scan ('\\' :: '$' :: cs) (.escape :: ts) rest
  | placeholder {inner cs rest : List Char} {ts : List Segment} :
      '}' ∉ inner → Scan cs ts rest → Scan (raw inner ++ cs) (.placeholder inner :: ts) rest

/-! ## Pieces -/

/-- The literal runs taken apart into single characters. -/
def pieces (ss : List Segment) : List Segment :=
  ss.flatMap fun
    | .literal text => text.map fun c => .literal [c]
    | s => [s]

@[simp] theorem pieces_nil : pieces [] = [] := rfl

@[simp] theorem pieces_literal (text : List Char) (ss : List Segment) :
    pieces (.literal text :: ss) = text.map (fun c => .literal [c]) ++ pieces ss := rfl

@[simp] theorem pieces_escape (ss : List Segment) :
    pieces (.escape :: ss) = .escape :: pieces ss := rfl

@[simp] theorem pieces_placeholder (inner : List Char) (ss : List Segment) :
    pieces (.placeholder inner :: ss) = .placeholder inner :: pieces ss := rfl

@[simp] theorem pieces_append (ss ss' : List Segment) :
    pieces (ss ++ ss') = pieces ss ++ pieces ss' := by
  simp [pieces]

@[simp] theorem pieces_literals (text : List Char) :
    pieces (text.map fun c => .literal [c]) = text.map fun c => .literal [c] := by
  induction text with
  | nil => rfl
  | cons c text ih => simp [ih]

@[simp] theorem pieces_consChar (c : Char) (ss : List Segment) :
    pieces (consChar c ss) = .literal [c] :: pieces ss := by
  unfold consChar
  split <;> simp

@[simp] theorem writeAll_nil : writeAll [] = [] := rfl

@[simp] theorem writeAll_append (ss ss' : List Segment) :
    writeAll (ss ++ ss') = writeAll ss ++ writeAll ss' := by
  simp [writeAll]

@[simp] theorem writeAll_literals (text : List Char) :
    writeAll (text.map fun c => .literal [c]) = text := by
  induction text with
  | nil => rfl
  | cons c text ih => simp [write, ih]

@[simp] theorem writeAll_pieces (ss : List Segment) : writeAll (pieces ss) = writeAll ss := by
  induction ss with
  | nil => rfl
  | cons s ss ih =>
    cases s with
    | literal text => simp [write, ih]
    | escape => simp [ih]
    | placeholder inner => simp [ih]

theorem placeholder_mem_pieces {inner : List Char} {ss : List Segment} :
    .placeholder inner ∈ pieces ss ↔ .placeholder inner ∈ ss := by
  induction ss with
  | nil => rfl
  | cons s ss ih => cases s <;> simp [ih]

theorem pieces_cons_of_ne_literal {s : Segment} (hs : ∀ text, s ≠ .literal text)
    (ss : List Segment) : pieces (s :: ss) = s :: pieces ss := by
  cases s with
  | literal text => exact absurd rfl (hs text)
  | escape => rfl
  | placeholder inner => rfl

/-- A segment that is no literal run stands among the segments where it stands among their
pieces. -/
theorem split_of_pieces {s : Segment} {ss ts ts' : List Segment}
    (hs : ∀ text, s ≠ .literal text) (h : pieces ss = ts ++ s :: ts') :
    ∃ before after, ss = before ++ s :: after ∧ pieces before = ts ∧ pieces after = ts' := by
  induction ss generalizing ts with
  | nil => simp at h
  | cons d ss ih =>
    by_cases hd : ∃ text, d = .literal text
    · obtain ⟨text, rfl⟩ := hd
      rw [pieces_literal] at h
      rcases List.append_eq_append_iff.mp h with ⟨us, rfl, hss⟩ | ⟨us, htext, hss⟩
      · obtain ⟨before, after, rfl, rfl, rfl⟩ := ih hss
        exact ⟨.literal text :: before, after, rfl, rfl, rfl⟩
      · cases us with
        | nil =>
          have hss : pieces ss = [] ++ s :: ts' := hss.symm
          obtain ⟨before, after, rfl, hbefore, rfl⟩ := ih hss
          refine ⟨.literal text :: before, after, rfl, ?_, rfl⟩
          rw [pieces_literal, htext, hbefore, List.append_nil, List.append_nil]
        | cons u us =>
          -- Here `s` would be a character of the run.
          have hmem : s ∈ text.map fun c => Segment.literal [c] := by
            rw [htext, (List.cons.inj hss).1]
            simp
          obtain ⟨c, _, rfl⟩ := List.mem_map.mp hmem
          exact absurd rfl (hs [c])
    · rw [pieces_cons_of_ne_literal fun text ht => hd ⟨text, ht⟩] at h
      cases ts with
      | nil =>
        obtain ⟨rfl, rfl⟩ := List.cons.inj h
        exact ⟨[], ss, rfl, rfl, rfl⟩
      | cons t ts =>
        obtain ⟨rfl, hss⟩ := List.cons.inj h
        obtain ⟨before, after, rfl, rfl, rfl⟩ := ih hss
        exact ⟨d :: before, after, rfl,
          pieces_cons_of_ne_literal (fun text ht => hd ⟨text, ht⟩) before, rfl⟩

/-! ## Runs -/

/-- The segment of a run of characters, if there are any. -/
def literalRun (run : List Char) : List Segment :=
  if run = [] then [] else [.literal run]

/-- A run of characters in front of segments that begin with none. -/
theorem foldr_consChar (run : List Char) {ss : List Segment}
    (hss : ∀ text, ss.head? ≠ some (.literal text)) :
    run.foldr consChar ss = literalRun run ++ ss := by
  induction run with
  | nil => rfl
  | cons c run ih =>
    rw [List.foldr_cons, ih]
    cases run with
    | cons d run => rfl
    | nil =>
      cases ss with
      | nil => rfl
      | cons s ss =>
        cases s with
        | literal text => exact absurd rfl (hss text)
        | escape => rfl
        | placeholder inner => rfl

/-! ## Putting scans together -/

namespace Scan

variable {cs ds mid rest : List Char} {ts us : List Segment}

/-- What is read is what is written. -/
theorem text_eq (h : Scan cs ts rest) : cs = writeAll ts ++ rest := by
  induction h with
  | done => rfl
  | char _ _ ih => rw [ih]; rfl
  | escape _ ih => rw [ih]; rfl
  | placeholder _ _ ih => rw [ih, writeAll_cons, List.append_assoc]; rfl

theorem append (first : Scan cs ts mid) (last : Scan mid us rest) : Scan cs (ts ++ us) rest := by
  induction first with
  | done => exact last
  | char ho _ ih => exact .char ho (ih last)
  | escape _ ih => exact .escape (ih last)
  | placeholder hc _ ih => exact .placeholder hc (ih last)

theorem split (h : Scan cs (ts ++ us) rest) : ∃ mid, Scan cs ts mid ∧ Scan mid us rest := by
  induction ts generalizing cs with
  | nil => exact ⟨cs, .done, h⟩
  | cons t ts ih =>
    cases h with
    | char ho h =>
      obtain ⟨mid, hts, hus⟩ := ih h
      exact ⟨mid, .char ho hts, hus⟩
    | escape h =>
      obtain ⟨mid, hts, hus⟩ := ih h
      exact ⟨mid, .escape hts, hus⟩
    | placeholder hc h =>
      obtain ⟨mid, hts, hus⟩ := ih h
      exact ⟨mid, .placeholder hc hts, hus⟩

end Scan

theorem opens_append {c : Char} {cs rest : List Char} (h : Opens c cs) : Opens c (cs ++ rest) := by
  cases cs with
  | nil => simp [Opens] at h
  | cons d cs => exact h

namespace Scan

variable {cs rest : List Char} {ts us : List Segment}

/-- A text that is read up to a boundary is read alike when it ends there. -/
theorem truncate (h : Scan cs ts rest) : Scan (writeAll ts) ts [] := by
  induction h with
  | done => exact .done
  | char ho h ih =>
    refine .char (fun hopen => ho ?_) ih
    rw [h.text_eq]
    exact opens_append hopen
  | escape _ ih => exact .escape ih
  | placeholder hc _ ih => exact .placeholder hc ih

/-- A whole text is read alike in front of another, if its last character does not open
anything there. -/
theorem extend (h : Scan cs ts []) (hseam : ∀ c, cs.getLast? = some c → ¬ Opens c rest) :
    Scan (cs ++ rest) ts rest := by
  have hlast : ∀ (front : List Char) {back : List Char} {d : Char},
      back.getLast? = some d → (front ++ back).getLast? = some d := by
    intro front back d hd
    rw [List.getLast?_append, hd]
    rfl
  -- What follows the first piece has the same last character, if it has one, so the condition
  -- on the seam goes down the induction.
  generalize hstop : [] = stop at h
  induction h with
  | done => exact hstop ▸ .done
  | @char c cs _ _ ho _ ih =>
    refine .char ?_ (ih (fun d hd => hseam d (hlast [c] hd)) hstop)
    cases cs with
    | nil => exact hseam c rfl
    | cons d cs => exact ho
  | escape _ ih =>
    exact .escape (ih (fun d hd => hseam d (hlast ['\\', '$'] hd)) hstop)
  | @placeholder inner _ _ _ hc _ ih =>
    rw [List.append_assoc]
    exact .placeholder hc (ih (fun d hd => hseam d (hlast (raw inner) hd)) hstop)

end Scan

/-! ## The parser scans -/

theorem opens_escape (cs : List Char) : Opens '\\' ('$' :: cs) := .inl ⟨rfl, rfl⟩

theorem opens_placeholder (cs : List Char) : Opens '$' ('{' :: cs) := .inr ⟨rfl, rfl⟩

/-- What the last case of the parser knows of its character. -/
theorem not_opens {c : Char} {cs : List Char}
    (hescape : ∀ rest, c = '\\' → cs = '$' :: rest → False)
    (hplaceholder : ∀ rest, c = '$' → cs = '{' :: rest → False) : ¬ Opens c cs := by
  rintro (⟨rfl, hhead⟩ | ⟨rfl, hhead⟩)
  · obtain ⟨rest, rfl⟩ := List.head?_eq_some_iff.mp hhead
    exact hescape rest rfl rfl
  · obtain ⟨rest, rfl⟩ := List.head?_eq_some_iff.mp hhead
    exact hplaceholder rest rfl rfl

/-- A brace that is found behind an opening closes the placeholder. -/
theorem raw_takeWhile_append {c : Char} {rest rest' : List Char}
    (hd : rest.dropWhile (· != '}') = c :: rest') :
    '}' ∉ rest.takeWhile (· != '}') ∧
      '$' :: '{' :: rest = raw (rest.takeWhile (· != '}')) ++ rest' := by
  have hsplit := List.takeWhile_append_dropWhile (p := (· != '}')) (l := rest)
  have hbrace : c = '}' := by
    simpa [hd] using List.head?_dropWhile_not (p := (· != '}')) rest
  rw [hd, hbrace] at hsplit
  exact ⟨fun hmem => by simpa using List.mem_takeWhile_imp hmem, by simp [raw, hsplit]⟩

theorem parseFrom_char {c : Char} {cs : List Char} (ho : ¬ Opens c cs) (position : Nat) :
    parseFrom position (c :: cs) = (parseFrom (position + c.utf8Size) cs).map (consChar c) := by
  rw [parseFrom]
  · rintro rest rfl rfl
    exact ho (opens_escape rest)
  · rintro rest rfl rfl
    exact ho (opens_placeholder rest)

theorem parseFrom_escape (cs : List Char) (position : Nat) :
    parseFrom position ('\\' :: '$' :: cs)
      = (parseFrom (position + 2) cs).map (.escape :: ·) := by
  rw [parseFrom]

theorem parseFrom_placeholder {inner : List Char} (hc : '}' ∉ inner) (cs : List Char)
    (position : Nat) :
    parseFrom position (raw inner ++ cs)
      = (parseFrom (position + (3 + byteLength inner)) cs).map (.placeholder inner :: ·) := by
  have hall : ∀ c ∈ inner, (c != '}') = true := fun c hmem => by
    rw [bne_iff_ne]
    exact fun heq => hc (heq ▸ hmem)
  have htake : (inner ++ '}' :: cs).takeWhile (· != '}') = inner := by
    rw [List.takeWhile_append_of_pos hall]
    simp
  have hdrop : (inner ++ '}' :: cs).dropWhile (· != '}') = '}' :: cs := by
    rw [List.dropWhile_append_of_pos hall]
    simp
  have hraw : raw inner ++ cs = '$' :: '{' :: (inner ++ '}' :: cs) := by simp [raw]
  rw [hraw, parseFrom]
  split
  · next c rest heq =>
    rw [hdrop] at heq
    obtain ⟨rfl, rfl⟩ := List.cons.inj heq
    rw [htake]
  · next heq =>
    rw [hdrop] at heq
    cases heq

theorem except_map_ok {α β : Type} {f : α → β} {r : Except Nat α} {b : β}
    (h : r.map f = .ok b) : ∃ a, r = .ok a ∧ f a = b := by
  cases r with
  | error e => cases h
  | ok a =>
    cases h
    exact ⟨a, rfl, rfl⟩

theorem except_map_error {α β : Type} {f : α → β} {r : Except Nat α} {e : Nat}
    (h : r.map f = .error e) : r = .error e := by
  cases r with
  | error e' =>
    cases h
    rfl
  | ok a => cases h

theorem scan_of_parseFrom {position : Nat} {cs : List Char} {ss : List Segment}
    (h : parseFrom position cs = .ok ss) : Scan cs (pieces ss) [] := by
  -- The cases of the parser: the end, an escape, a placeholder that is closed, one that is
  -- not, and any other character.
  fun_induction parseFrom position cs generalizing ss with
  | case1 =>
    cases h
    exact .done
  | case2 position rest ih =>
    obtain ⟨ss, hr, rfl⟩ := except_map_ok h
    exact .escape (ih hr)
  | case3 position rest inner c rest' hd width =>
    rename_i ih
    obtain ⟨ss, hr, rfl⟩ := except_map_ok h
    obtain ⟨hc, htext⟩ := raw_takeWhile_append hd
    rw [htext]
    exact .placeholder hc (ih hr)
  | case4 => cases h
  | case5 position c rest hescape hplaceholder ih =>
    obtain ⟨ss, hr, rfl⟩ := except_map_ok h
    rw [pieces_consChar]
    exact .char (not_opens hescape hplaceholder) (ih hr)

theorem byteLength_append (cs ds : List Char) :
    byteLength (cs ++ ds) = byteLength cs + byteLength ds := by
  induction cs with
  | nil => simp [byteLength]
  | cons c cs ih =>
    simp only [List.cons_append, byteLength, ih]
    omega

theorem byteLength_raw (inner : List Char) : byteLength (raw inner) = 3 + byteLength inner := by
  have hopen : byteLength ['$', '{'] = 2 := rfl
  have hclose : byteLength ['}'] = 1 := rfl
  have hraw : raw inner = ['$', '{'] ++ inner ++ ['}'] := by simp [raw]
  rw [hraw, byteLength_append, byteLength_append, hopen, hclose]
  omega

private theorem map_pieces_cons {s : Segment} {ts : List Segment}
    {f : List Segment → List Segment} {a b : Except Nat (List Segment)}
    (hf : ∀ ss, pieces (f ss) = s :: pieces ss)
    (h : a.map pieces = b.map (ts ++ pieces ·)) :
    (a.map f).map pieces = b.map (s :: ts ++ pieces ·) := by
  cases a with
  | error e => cases b <;> cases h; rfl
  | ok ss =>
    cases b with
    | error e => cases h
    | ok ss' =>
      have hss : pieces ss = ts ++ pieces ss' := Except.ok.inj h
      simp [Except.map, hf, hss]

/-- Parsing goes on from every boundary that a scan comes to. -/
theorem Scan.parseFrom_eq {cs rest : List Char} {ts : List Segment} (h : Scan cs ts rest)
    (position : Nat) :
    (parseFrom position cs).map pieces
      = (parseFrom (position + byteLength (writeAll ts)) rest).map (ts ++ pieces ·) := by
  -- The position does not touch the pieces, but the parser counts it up step by step.
  induction h generalizing position with
  | done => rfl
  | @char c cs rest ts ho _ ih =>
    have hwidth : position + c.utf8Size + byteLength (writeAll ts)
        = position + byteLength (writeAll (.literal [c] :: ts)) := by
      simp only [writeAll_cons, write, List.singleton_append, byteLength]
      omega
    rw [parseFrom_char ho, ← hwidth]
    exact map_pieces_cons (pieces_consChar c) (ih _)
  | @escape cs rest ts _ ih =>
    have hwidth : position + 2 + byteLength (writeAll ts)
        = position + byteLength (writeAll (.escape :: ts)) := by
      have hescape : byteLength ['\\', '$'] = 2 := rfl
      rw [writeAll_cons, write, byteLength_append, hescape]
      omega
    rw [parseFrom_escape, ← hwidth]
    exact map_pieces_cons pieces_escape (ih _)
  | @placeholder inner cs rest ts hc _ ih =>
    have hwidth : position + (3 + byteLength inner) + byteLength (writeAll ts)
        = position + byteLength (writeAll (.placeholder inner :: ts)) := by
      rw [writeAll_cons, write, byteLength_append, byteLength_raw]
      omega
    rw [parseFrom_placeholder hc, ← hwidth]
    exact map_pieces_cons (pieces_placeholder inner) (ih _)

/-! ## Whole texts -/

theorem scan_of_parse {text : List Char} {ss : List Segment} (h : parse text = .ok ss) :
    Scan text (pieces ss) [] :=
  scan_of_parseFrom h

/-- A scan to the end is a parse. -/
theorem Scan.parses {text : List Char} {ts : List Segment} (h : Scan text ts []) :
    ∃ ss, parse text = .ok ss ∧ pieces ss = ts := by
  have hmap := h.parseFrom_eq 0
  rw [parseFrom] at hmap
  obtain ⟨ss, hss, hpieces⟩ := except_map_ok hmap
  exact ⟨ss, hss, by simpa using hpieces⟩

/-- A parsed text is read in one way only: whatever is scanned at its front is the front of
its pieces. -/
theorem Scan.prefix_of_parse {text rest : List Char} {ss ts : List Segment}
    (h : Scan text ts rest) (hparse : parse text = .ok ss) :
    ∃ us, pieces ss = ts ++ us ∧ Scan rest us [] := by
  have hmap := h.parseFrom_eq 0
  rw [show parseFrom 0 text = .ok ss from hparse] at hmap
  obtain ⟨us, hus, hpieces⟩ := except_map_ok hmap.symm
  exact ⟨pieces us, hpieces.symm, scan_of_parseFrom hus⟩

end LayeredConfig.Segment
