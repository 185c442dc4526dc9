import LayeredConfig.Proofs.Expression.Scan

/-!
# The scan over bytes

The scanner walks over the bytes of a text with two cursors, where the current run begins and
where the next byte is, and takes its segments as slices of the text. A slice whose ends do
not fall between two characters does not exist, so the scan could break off; that it never
does, and that it comes to the same segments as the parser, is shown here.
-/
namespace LayeredConfig.Segment

/-- The UTF-8 bytes of a text. -/
def bytes (text : List Char) : List UInt8 :=
  text.flatMap String.utf8EncodeChar

/-! ## Cutting a text -/

/-- The text before and behind the `n`th byte, if two characters meet there. -/
def cut? : List Char → Nat → Option (List Char × List Char)
  | cs, 0 => some ([], cs)
  | [], _ + 1 => none
  | c :: cs, n + 1 =>
    if c.utf8Size ≤ n + 1 then
      (cut? cs (n + 1 - c.utf8Size)).map fun (front, back) => (c :: front, back)
    else none

/-- The text from byte `start` to byte `stop`. -/
def slice? (text : List Char) (start stop : Nat) : Option (List Char) := do
  if start ≤ stop then
    let (_, back) ← cut? text start
    let (slice, _) ← cut? back (stop - start)
    return slice
  else none

/-- A segment with the slices of the text that tell it. -/
inductive Excerpt where
  | literal (text : List Char)
  | escape
  | placeholder (raw inner : List Char) (scheme : Option (List Char × List Char))
deriving DecidableEq, Repr

def excerpt : Segment → Excerpt
  | .literal text => .literal text
  | .escape => .escape
  | .placeholder inner => .placeholder (raw inner) inner (splitScheme? inner)

/-! ## The scan -/

/-- The run between the cursors, if they have moved apart. -/
def literalBetween (text : List Char) (start stop : Nat) : Option (List Excerpt) :=
  if start < stop then (slice? text start stop).map fun run => [.literal run]
  else some []

/-- Where a character is found first. -/
def find? (c : Char) (text : List Char) : Option Nat :=
  if c ∈ text then some (byteLength (text.takeWhile (· != c))) else none

/-- The outer `none` is a slice that does not exist, an error the position of a placeholder
that is never closed. -/
def scanBytes (text : List Char) (position start : Nat) :
    Option (Except Nat (List Excerpt)) :=
  if _h : position < (bytes text).length then
    let byte := (bytes text)[position]
    let next := (bytes text)[position + 1]?
    if byte = '\\'.toUInt8 ∧ next = some '$'.toUInt8 then do
      let run ← literalBetween text start position
      let rest ← scanBytes text (position + 2) (position + 2)
      return rest.map (run ++ .escape :: ·)
    else if byte = '$'.toUInt8 ∧ next = some '{'.toUInt8 then do
      match find? '}' (← slice? text (position + 2) (bytes text).length) with
      | none => return .error position
      | some close =>
        let stop := position + 2 + close
        let run ← literalBetween text start position
        let inner ← slice? text (position + 2) stop
        let whole ← slice? text position (stop + 1)
        let rest ← scanBytes text (stop + 1) (stop + 1)
        return rest.map (run ++ .placeholder whole inner (splitScheme? inner) :: ·)
    else scanBytes text (position + 1) start
  else do
    let run ← literalBetween text start (bytes text).length
    return .ok run
termination_by (bytes text).length - position

/-! ## Bytes and characters -/

@[simp] theorem bytes_nil : bytes [] = [] := rfl

@[simp] theorem bytes_cons (c : Char) (cs : List Char) :
    bytes (c :: cs) = String.utf8EncodeChar c ++ bytes cs := rfl

theorem bytes_append (cs ds : List Char) : bytes (cs ++ ds) = bytes cs ++ bytes ds :=
  List.flatMap_append

theorem length_bytes (cs : List Char) : (bytes cs).length = byteLength cs := by
  induction cs with
  | nil => rfl
  | cons c cs ih => simp [byteLength, ih]

/-- The bytes behind a part of the text. -/
theorem getElem?_bytes_append (front back : List Char) (i : Nat) :
    (bytes (front ++ back))[byteLength front + i]? = (bytes back)[i]? := by
  rw [bytes_append, ← length_bytes, List.getElem?_append_right (Nat.le_add_right ..),
    Nat.add_sub_cancel_left]

/-- A character below 128 is its only byte; all bytes of any other are from 128 on. -/
theorem encode_cases (c : Char) :
    (c.toNat < 128 ∧ String.utf8EncodeChar c = [c.toUInt8]) ∨
    (128 ≤ c.toNat ∧ ∀ b ∈ String.utf8EncodeChar c, 128 ≤ b.toNat) := by
  by_cases hc : c.toNat < 128
  · refine .inl ⟨hc, ?_⟩
    have hle : c.val.toNat ≤ 127 := by
      have : c.val.toNat < 128 := hc
      omega
    simp only [String.utf8EncodeChar, hle, if_true]
    rfl
  · refine .inr ⟨by omega, ?_⟩
    have hle : ¬ c.val.toNat ≤ 127 := fun h => hc (by change c.val.toNat < 128; omega)
    intro b hb
    simp only [String.utf8EncodeChar, hle, if_false] at hb
    -- Two bytes, three, or four: each is a marker of 128 or more with some bits of the character.
    split at hb
    · simp only [List.mem_cons, List.not_mem_nil, or_false] at hb
      rcases hb with rfl | rfl <;> simp only [UInt8.toNat_ofNat'] <;> omega
    · split at hb
      · simp only [List.mem_cons, List.not_mem_nil, or_false] at hb
        rcases hb with rfl | rfl | rfl <;> simp only [UInt8.toNat_ofNat'] <;> omega
      · simp only [List.mem_cons, List.not_mem_nil, or_false] at hb
        rcases hb with rfl | rfl | rfl | rfl <;> simp only [UInt8.toNat_ofNat'] <;> omega

theorem toNat_toUInt8 {d : Char} (hd : d.toNat < 128) : d.toUInt8.toNat = d.toNat := by
  change d.val.toNat % 256 = d.val.toNat
  have : d.val.toNat < 128 := hd
  omega

theorem toUInt8_inj {c d : Char} (hc : c.toNat < 128) (hd : d.toNat < 128)
    (h : c.toUInt8 = d.toUInt8) : c = d := by
  apply Char.toNat_inj.mp
  rw [← toNat_toUInt8 hc, ← toNat_toUInt8 hd, h]

/-- The next byte tells the next character, if that is below 128. -/
theorem getElem?_bytes_zero {d : Char} (hd : d.toNat < 128) (cs : List Char) :
    (bytes cs)[0]? = some d.toUInt8 ↔ cs.head? = some d := by
  cases cs with
  | nil => simp
  | cons c cs =>
    rcases encode_cases c with ⟨hc, henc⟩ | ⟨hc, henc⟩
    · simp only [bytes_cons, henc, List.cons_append, List.getElem?_cons_zero, List.head?_cons,
        Option.some.injEq]
      exact ⟨toUInt8_inj hc hd, congrArg Char.toUInt8⟩
    · constructor
      · intro h
        have hmem : d.toUInt8 ∈ String.utf8EncodeChar c := by
          cases hbytes : String.utf8EncodeChar c with
          | nil => exact absurd hbytes String.utf8EncodeChar_ne_nil
          | cons b bs =>
            simp only [bytes_cons, hbytes, List.cons_append, List.getElem?_cons_zero,
              Option.some.injEq] at h
            simp [h]
        have hge := henc _ hmem
        rw [toNat_toUInt8 hd] at hge
        omega
      · intro h
        obtain rfl : c = d := by simpa using h
        omega

/-! ## Steps of the scan -/

section Steps

variable {text : List Char} {position start : Nat}

theorem scanBytes_end (h : (bytes text).length ≤ position) :
    scanBytes text position start
      = (literalBetween text start (bytes text).length).map .ok := by
  rw [scanBytes, dif_neg (by omega)]
  cases literalBetween text start (bytes text).length <;> rfl

theorem scanBytes_step {b : UInt8} (hb : (bytes text)[position]? = some b)
    (hescape : ¬ (b = '\\'.toUInt8 ∧ (bytes text)[position + 1]? = some '$'.toUInt8))
    (hplaceholder : ¬ (b = '$'.toUInt8 ∧ (bytes text)[position + 1]? = some '{'.toUInt8)) :
    scanBytes text position start = scanBytes text (position + 1) start := by
  obtain ⟨hlt, rfl⟩ := List.getElem?_eq_some_iff.mp hb
  rw [scanBytes, dif_pos hlt]
  simp only [if_neg hescape, if_neg hplaceholder]

theorem scanBytes_escape {run : List Excerpt} {result : Except Nat (List Excerpt)}
    (hb : (bytes text)[position]? = some '\\'.toUInt8)
    (hnext : (bytes text)[position + 1]? = some '$'.toUInt8)
    (hrun : literalBetween text start position = some run)
    (hrest : scanBytes text (position + 2) (position + 2) = some result) :
    scanBytes text position start = some (result.map (run ++ .escape :: ·)) := by
  obtain ⟨hlt, hbyte⟩ := List.getElem?_eq_some_iff.mp hb
  rw [scanBytes, dif_pos hlt]
  simp [hbyte, hnext, hrun, hrest]

theorem scanBytes_unclosed {back : List Char}
    (hb : (bytes text)[position]? = some '$'.toUInt8)
    (hnext : (bytes text)[position + 1]? = some '{'.toUInt8)
    (hback : slice? text (position + 2) (bytes text).length = some back)
    (hclose : find? '}' back = none) :
    scanBytes text position start = some (.error position) := by
  obtain ⟨hlt, hbyte⟩ := List.getElem?_eq_some_iff.mp hb
  have hne : '$'.toUInt8 ≠ '\\'.toUInt8 := by decide
  rw [scanBytes, dif_pos hlt]
  simp [hbyte, hnext, hne, hback, hclose]

theorem scanBytes_placeholder {back inner whole : List Char} {close stop : Nat}
    {run : List Excerpt} {result : Except Nat (List Excerpt)}
    (hstop : position + 2 + close + 1 = stop)
    (hb : (bytes text)[position]? = some '$'.toUInt8)
    (hnext : (bytes text)[position + 1]? = some '{'.toUInt8)
    (hback : slice? text (position + 2) (bytes text).length = some back)
    (hclose : find? '}' back = some close)
    (hrun : literalBetween text start position = some run)
    (hinner : slice? text (position + 2) (position + 2 + close) = some inner)
    (hwhole : slice? text position stop = some whole)
    (hrest : scanBytes text stop stop = some result) :
    scanBytes text position start
      = some (result.map (run ++ .placeholder whole inner (splitScheme? inner) :: ·)) := by
  obtain ⟨hlt, hbyte⟩ := List.getElem?_eq_some_iff.mp hb
  have hne : '$'.toUInt8 ≠ '\\'.toUInt8 := by decide
  subst hstop
  rw [scanBytes, dif_pos hlt]
  simp [hbyte, hnext, hne, hback, hclose, hrun, hinner, hwhole, hrest]

end Steps

/-! ## Cutting where characters meet -/

theorem cut?_cons {n : Nat} (hn : 0 < n) (c : Char) (cs : List Char) :
    cut? (c :: cs) n
      = if c.utf8Size ≤ n then (cut? cs (n - c.utf8Size)).map fun (front, back) => (c :: front, back)
        else none := by
  cases n with
  | zero => omega
  | succ n => rfl

theorem cut?_append (front back : List Char) :
    cut? (front ++ back) (byteLength front) = some (front, back) := by
  induction front with
  | nil => simp [byteLength, cut?]
  | cons c front ih =>
    have hpos := c.utf8Size_pos
    rw [List.cons_append, byteLength, cut?_cons (by omega), if_pos (by omega),
      Nat.add_sub_cancel_left, ih]
    rfl

theorem slice?_append (front mid back : List Char) :
    slice? (front ++ mid ++ back) (byteLength front) (byteLength (front ++ mid)) = some mid := by
  have hle : byteLength front ≤ byteLength front + byteLength mid := Nat.le_add_right ..
  rw [slice?, byteLength_append, if_pos hle, List.append_assoc, cut?_append]
  simp [cut?_append]

/-! ## Where the scan stands -/

/-- The cursors of a scan: `run` is the text between them, `rest` is still to be read. -/
def Standing (text : List Char) (position start : Nat) (run rest : List Char) : Prop :=
  ∃ front, text = front ++ run ++ rest ∧ start = byteLength front ∧
    position = byteLength (front ++ run)

namespace Standing

variable {text run rest : List Char} {position start : Nat}

theorem byte (h : Standing text position start run rest) (i : Nat) :
    (bytes text)[position + i]? = (bytes rest)[i]? := by
  obtain ⟨front, rfl, -, rfl⟩ := h
  exact getElem?_bytes_append (front ++ run) rest i

theorem length (h : Standing text position start run rest) :
    (bytes text).length = position + byteLength rest := by
  obtain ⟨front, rfl, -, rfl⟩ := h
  rw [length_bytes, byteLength_append]

theorem literalBetween (h : Standing text position start run rest) :
    literalBetween text start position = some ((literalRun run).map excerpt) := by
  obtain ⟨front, rfl, rfl, rfl⟩ := h
  cases run with
  | nil => simp [Segment.literalBetween, literalRun]
  | cons c run =>
    have hpos := c.utf8Size_pos
    have hlt : byteLength front < byteLength (front ++ c :: run) := by
      rw [byteLength_append, byteLength]
      omega
    rw [Segment.literalBetween, if_pos hlt, slice?_append]
    rfl

/-- The scan has come behind a character of the run. -/
theorem extend {c : Char} (h : Standing text position start run (c :: rest)) :
    Standing text (position + c.utf8Size) start (run ++ [c]) rest := by
  obtain ⟨front, rfl, rfl, rfl⟩ := h
  refine ⟨front, by simp, rfl, ?_⟩
  rw [← List.append_assoc, byteLength_append (front ++ run)]
  rfl

/-- The scan has come behind a token, where a new run begins. -/
theorem skip (token : List Char) (h : Standing text position start run (token ++ rest)) :
    Standing text (position + byteLength token) (position + byteLength token) [] rest := by
  obtain ⟨front, rfl, rfl, rfl⟩ := h
  refine ⟨front ++ run ++ token, by simp, ?_, ?_⟩
  · exact (byteLength_append (front ++ run) token).symm
  · rw [List.append_nil]
    exact (byteLength_append (front ++ run) token).symm

theorem slice (mid : List Char) (h : Standing text position start run (mid ++ rest)) :
    slice? text position (position + byteLength mid) = some mid := by
  obtain ⟨front, rfl, rfl, rfl⟩ := h
  rw [← byteLength_append, ← List.append_assoc]
  exact slice?_append (front ++ run) mid rest

theorem slice_rest (h : Standing text position start run rest) :
    slice? text position (bytes text).length = some rest := by
  rw [h.length]
  exact Standing.slice rest (by rw [List.append_nil]; exact h)

/-- The scan passes over a character that opens nothing, byte by byte. -/
theorem scanBytes_char {c : Char} (h : Standing text position start run (c :: rest))
    (ho : ¬ Opens c rest) :
    scanBytes text position start = scanBytes text (position + c.utf8Size) start := by
  rcases encode_cases c with ⟨hc, henc⟩ | ⟨-, henc⟩
  · have hsize : c.utf8Size = 1 := by rw [← String.length_utf8EncodeChar, henc]; rfl
    have hbyte : (bytes text)[position]? = some c.toUInt8 := by
      rw [← Nat.add_zero position, h.byte, bytes_cons, henc]
      rfl
    have hnext : (bytes text)[position + 1]? = (bytes rest)[0]? := by
      rw [h.byte, bytes_cons, henc]
      rfl
    rw [hsize]
    apply scanBytes_step hbyte
    · rintro ⟨hb, hdollar⟩
      rw [hnext, getElem?_bytes_zero (by decide)] at hdollar
      exact ho (.inl ⟨toUInt8_inj hc (by decide) hb, hdollar⟩)
    · rintro ⟨hb, hbrace⟩
      rw [hnext, getElem?_bytes_zero (by decide)] at hbrace
      exact ho (.inr ⟨toUInt8_inj hc (by decide) hb, hbrace⟩)
  · -- None of its bytes is one that the scan looks for.
    have hpass : ∀ i ≤ c.utf8Size,
        scanBytes text position start = scanBytes text (position + i) start := by
      intro i hi
      induction i with
      | zero => rfl
      | succ i ih =>
        have hlt : i < (String.utf8EncodeChar c).length := by
          rw [String.length_utf8EncodeChar]
          omega
        have hge := henc _ (List.getElem_mem hlt)
        rw [ih (by omega), ← Nat.add_assoc]
        apply scanBytes_step (b := (String.utf8EncodeChar c)[i])
        · rw [h.byte, bytes_cons, List.getElem?_append_left hlt, List.getElem?_eq_getElem hlt]
        · rintro ⟨hb, -⟩
          rw [hb] at hge
          exact absurd hge (by decide)
        · rintro ⟨hb, -⟩
          rw [hb] at hge
          exact absurd hge (by decide)
    exact hpass _ (Nat.le_refl _)

end Standing

/-! ## The two scans agree -/

theorem find?_closing {inner : List Char} (hc : '}' ∉ inner) (rest : List Char) :
    find? '}' (inner ++ '}' :: rest) = some (byteLength inner) := by
  have hall : ∀ c ∈ inner, (c != '}') = true := fun c hmem => by
    rw [bne_iff_ne]
    exact fun heq => hc (heq ▸ hmem)
  simp [find?, List.takeWhile_append_of_pos hall]

/-- The run that has ended goes in front of a segment that is no literal. -/
theorem map_excerpt_cons (run : List Char) {s : Segment} (hs : ∀ text, s ≠ .literal text)
    (result : Except Nat (List Segment)) :
    (result.map fun ss => ss.map excerpt).map ((literalRun run).map excerpt ++ s.excerpt :: ·)
      = (result.map (s :: ·)).map fun ss => (run.foldr consChar ss).map excerpt := by
  cases result with
  | error e => rfl
  | ok ss =>
    have hhead : ∀ text, (s :: ss).head? ≠ some (.literal text) := fun text h =>
      hs text (Option.some.inj h)
    simp only [Except.map, foldr_consChar run hhead, List.map_append, List.map_cons]

/-- From wherever it stands, the scan goes on as the parser does, with the run that has begun
in front. -/
theorem Standing.scanBytes_eq {text run rest : List Char} {position start : Nat}
    (h : Standing text position start run rest) :
    scanBytes text position start
      = some ((parseFrom position rest).map fun ss => (run.foldr consChar ss).map excerpt) := by
  -- The cases of the parser, on the text still to be read. A character that opens nothing goes to
  -- the end of the run; at a token the run ends, and a new one begins behind it.
  fun_induction parseFrom position rest generalizing run start with
  | case1 position =>
    have hlength : (bytes text).length = position := h.length
    rw [scanBytes_end (Nat.le_of_eq hlength), hlength, h.literalBetween, Except.map,
      foldr_consChar run (by simp), List.append_nil]
    rfl
  | case2 position rest ih =>
    have hbyte : (bytes text)[position]? = some '\\'.toUInt8 := h.byte 0
    rw [scanBytes_escape hbyte (h.byte 1) h.literalBetween (ih (h.skip ['\\', '$']))]
    exact congrArg some (map_excerpt_cons run (s := .escape) (by simp) _)
  | case3 position rest inner c rest' hd =>
    rename_i width ih
    obtain ⟨hc, htext⟩ := raw_takeWhile_append hd
    rw [show raw _ = raw inner from rfl] at htext
    -- Three slices are taken: the text behind the opening, the inside and the whole.
    have hbehind : Standing text (position + 2) (position + 2) [] (inner ++ '}' :: rest') := by
      have hopen : Standing text position start run (['$', '{'] ++ (inner ++ '}' :: rest')) := by
        simpa [htext, raw] using h
      exact hopen.skip ['$', '{']
    have hbyte : (bytes text)[position]? = some '$'.toUInt8 := h.byte 0
    have hclosed : Standing text position start run (raw inner ++ rest') := htext ▸ h
    have hwidth : byteLength (raw inner) = width := byteLength_raw inner
    have hstop : position + 2 + byteLength inner + 1 = position + width := by
      change _ = position + (3 + byteLength inner)
      omega
    rw [scanBytes_placeholder hstop hbyte (h.byte 1) hbehind.slice_rest (find?_closing hc rest')
      h.literalBetween (hbehind.slice inner) (hwidth ▸ hclosed.slice (raw inner))
      (ih (hwidth ▸ hclosed.skip (raw inner)))]
    exact congrArg some (map_excerpt_cons run (s := .placeholder inner) (by simp) _)
  | case4 position rest hd =>
    have hbehind : Standing text (position + 2) (position + 2) [] rest := h.skip ['$', '{']
    have hbyte : (bytes text)[position]? = some '$'.toUInt8 := h.byte 0
    have hnone : '}' ∉ rest := fun hmem => by
      simpa using List.dropWhile_eq_nil_iff.mp hd '}' hmem
    have hclose : find? '}' rest = none := by simp [find?, hnone]
    rw [scanBytes_unclosed hbyte (h.byte 1) hbehind.slice_rest hclose]
    rfl
  | case5 position c rest hescape hplaceholder ih =>
    rw [h.scanBytes_char (not_opens hescape hplaceholder), ih h.extend]
    cases parseFrom (position + c.utf8Size) rest with
    | error e => rfl
    | ok ss => simp [Except.map]

/-- Every slice of the scan exists, and its segments are those of the parser. -/
theorem scanBytes_eq_parse (text : List Char) :
    scanBytes text 0 0 = some ((parse text).map fun ss => ss.map excerpt) := by
  have hstart : Standing text 0 0 [] text := ⟨[], rfl, rfl, rfl⟩
  exact hstart.scanBytes_eq

example : scanBytes "é\\$${x:ü}$\\".toList 0 0
    = some (.ok [.literal ['é'], .escape,
        .placeholder "${x:ü}".toList "x:ü".toList (some (['x'], ['ü'])), .literal ['$', '\\']]) := by
  cbv

end LayeredConfig.Segment
