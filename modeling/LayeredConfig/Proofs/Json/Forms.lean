import LayeredConfig.Proofs.Json.Scalars
import Mathlib.Data.List.DropRight

/-!
# Written forms of JSON values

A value may be written with blanks between its signs. The reader makes out the value of
every such form, and both writers produce one.
-/
namespace LayeredConfig.Json

/-! ## Blanks -/

def Blanks (cs : List Char) : Prop :=
  ∀ c ∈ cs, isBlank c

theorem blanks_nil : Blanks [] := nofun

theorem skipBlank_append {b : List Char} (hb : Blanks b) (cs : List Char) :
    skipBlank (b ++ cs) = skipBlank cs :=
  List.dropWhile_append_of_pos hb

theorem skipBlank_cons {c : Char} (hc : isBlank c = false) (cs : List Char) :
    skipBlank (c :: cs) = c :: cs :=
  List.dropWhile_cons_of_neg (ne_true_of_eq_false hc)

theorem skipBlank_skipBlank (cs : List Char) : skipBlank (skipBlank cs) = skipBlank cs :=
  List.dropWhile_idempotent isBlank cs

theorem readValue_skipBlank (fuel : Nat) (cs : List Char) :
    readValue fuel (skipBlank cs) = readValue fuel cs := by
  cases fuel with
  | zero => rfl
  | succ fuel => rw [readValue, readValue, skipBlank_skipBlank]

theorem readItems_skipBlank (fuel : Nat) (cs : List Char) :
    readItems fuel (skipBlank cs) = readItems fuel cs := by
  cases fuel with
  | zero => rfl
  | succ fuel => rw [readItems, readItems, readValue_skipBlank]

theorem readFields_skipBlank (fuel : Nat) (cs : List Char) :
    readFields fuel (skipBlank cs) = readFields fuel cs := by
  cases fuel with
  | zero => rfl
  | succ fuel => rw [readFields, readFields, skipBlank_skipBlank]

/-! ## The forms of a value -/

/-- What holds no other values and is written in one way. -/
inductive IsScalar : Json → Prop where
  | null : IsScalar .null
  | bool (b : Bool) : IsScalar (.bool b)
  | int (n : Int) : IsScalar (.int n)
  | str (s : String) : IsScalar (.str s)

mutual

/-- A form in which a value may be written. -/
inductive Form : Json → List Char → Prop where
  | scalar {j : Json} : j.IsScalar → Form j (writeScalar j)
  | noItems : Form (.arr []) ['[', ']']
  | items {vs : List Json} {cs : List Char} : ItemsForm vs cs → Form (.arr vs) ('[' :: cs)
  | noFields : Form (.obj []) ['{', '}']
  | fields {fs : List (String × Json)} {cs : List Char} :
      FieldsForm fs cs → Form (.obj fs) ('{' :: cs)

/-- A form of the items of an array, up to and including the closing bracket. -/
inductive ItemsForm : List Json → List Char → Prop where
  | last {b cs b' : List Char} {v : Json} :
      Blanks b → Form v cs → Blanks b' → ItemsForm [v] (b ++ (cs ++ (b' ++ [']'])))
  | more {b cs ds : List Char} {v : Json} {vs : List Json} :
      Blanks b → Form v cs → ItemsForm vs ds → ItemsForm (v :: vs) (b ++ (cs ++ ',' :: ds))

/-- A form of the fields of an object, up to and including the closing brace. -/
inductive FieldsForm : List (String × Json) → List Char → Prop where
  | last {b b' cs b'' : List Char} {k : String} {v : Json} :
      Blanks b → Blanks b' → Form v cs → Blanks b'' →
      FieldsForm [(k, v)] (b ++ (writeText k ++ ':' :: (b' ++ (cs ++ (b'' ++ ['}'])))))
  | more {b b' cs ds : List Char} {k : String} {v : Json} {fs : List (String × Json)} :
      Blanks b → Blanks b' → Form v cs → FieldsForm fs ds →
      FieldsForm ((k, v) :: fs) (b ++ (writeText k ++ ':' :: (b' ++ (cs ++ ',' :: ds))))

end

/-! ## Reading a form -/

theorem isBlank_of_isDigit {c : Char} (h : c.isDigit) : isBlank c = false := by
  by_contra hblank
  simp only [isBlank, Bool.not_eq_false, Bool.or_eq_true, beq_iff_eq] at hblank
  rcases hblank with ((rfl | rfl) | rfl) | rfl <;> cases h

theorem readValue_digit {c : Char} (hc : c.isDigit) (fuel : Nat) (cs : List Char) :
    readValue (fuel + 1) (c :: cs) = readNumber false (c :: cs) := by
  rw [readValue, skipBlank_cons (isBlank_of_isDigit hc)]
  split
  all_goals first | rfl | (next heq => cases heq; cases hc)

theorem writeText_append (s : String) (rest : List Char) :
    writeText s ++ rest = '"' :: (s.toList.flatMap escapeChar ++ '"' :: rest) := by
  simp [writeText]

theorem readValue_str (s : String) (fuel : Nat) (rest : List Char) :
    readValue (fuel + 1) (writeText s ++ rest) = some (.str s, rest) := by
  rw [writeText_append, readValue, skipBlank_cons rfl]
  simp [readUnits_flatMap_escapeChar, joinUnits_map_toNat]

theorem readValue_int (n : Int) (fuel : Nat) {rest : List Char} (hrest : Ends rest) :
    readValue (fuel + 1) ((toString n).toList ++ rest) = some (.int n, rest) := by
  cases n with
  | ofNat n =>
    have hnumber := readNumber_toDigits false (n := n) nofun hrest
    have hdigits : ∀ d ∈ Nat.toDigits 10 n, d.isDigit := fun d hd =>
      Nat.isDigit_of_mem_toDigits (by decide) (by decide) hd
    rw [Int.ofNat_eq_natCast, toList_toString_nat]
    cases hds : Nat.toDigits 10 n with
    | nil => exact absurd hds Nat.toDigits_ne_nil
    | cons d ds =>
      rw [hds] at hnumber hdigits
      exact (readValue_digit (hdigits d List.mem_cons_self) fuel _).trans hnumber
  | negSucc n =>
    have hnumber := readNumber_toDigits true (n := n + 1) (fun _ => by omega) hrest
    rw [toList_toString_negSucc, List.cons_append, readValue, skipBlank_cons rfl]
    exact hnumber

theorem readValue_scalar {j : Json} (hj : j.IsScalar) (fuel : Nat) {rest : List Char}
    (hrest : Ends rest) : readValue (fuel + 1) (writeScalar j ++ rest) = some (j, rest) := by
  cases hj with
  | null => rfl
  | bool b => cases b <;> rfl
  | int n => exact readValue_int n fuel hrest
  | str s => exact readValue_str s fuel rest

/-! ### One step of the reader -/

theorem readValue_append {b : List Char} (hb : Blanks b) (fuel : Nat) (cs : List Char) :
    readValue fuel (b ++ cs) = readValue fuel cs := by
  rw [← readValue_skipBlank, skipBlank_append hb, readValue_skipBlank]

variable {fuel : Nat} {cs rest : List Char} {v : Json} {vs : List Json}
  {fs : List (String × Json)}

theorem readValue_items (hopen : (skipBlank cs).head? ≠ some ']')
    (hvs : readItems fuel cs = some (vs, rest)) :
    readValue (fuel + 1) ('[' :: cs) = some (.arr vs, rest) := by
  rw [← readItems_skipBlank] at hvs
  rw [readValue, skipBlank_cons rfl]
  simp only
  split
  · next heq =>
    rw [heq] at hopen
    exact absurd rfl hopen
  · rw [hvs]
    rfl

theorem readValue_fields (hopen : (skipBlank cs).head? ≠ some '}')
    (hfs : readFields fuel cs = some (some fs, rest)) :
    readValue (fuel + 1) ('{' :: cs) = some (.obj fs, rest) := by
  rw [← readFields_skipBlank] at hfs
  rw [readValue, skipBlank_cons rfl]
  simp only
  split
  · next heq =>
    rw [heq] at hopen
    exact absurd rfl hopen
  · rw [hfs]
    rfl

theorem readItems_last {b : List Char} (hb : Blanks b)
    (hv : readValue fuel cs = some (v, b ++ ']' :: rest)) :
    readItems (fuel + 1) cs = some ([v], rest) := by
  rw [readItems, hv]
  simp only [Option.bind_eq_bind, Option.bind_some, skipBlank_append hb]
  rfl

theorem readItems_more {ds : List Char} (hv : readValue fuel cs = some (v, ',' :: ds))
    (hvs : readItems fuel ds = some (vs, rest)) :
    readItems (fuel + 1) cs = some (v :: vs, rest) := by
  rw [readItems, hv]
  change (readItems fuel ds).bind _ = _
  rw [hvs]
  rfl

/-- A key is read, and its value after the colon. -/
theorem readFields_key (k : String) (hv : readValue fuel cs = some (v, rest)) :
    readFields (fuel + 1) (writeText k ++ ':' :: cs)
      = match skipBlank rest with
        | '}' :: rest => some (some [(k, v)], rest)
        | ',' :: rest => do
          let (fs, rest) ← readFields fuel rest
          return (do return (k, v) :: (← fs), rest)
        | _ => none := by
  rw [writeText_append, readFields, skipBlank_cons rfl]
  simp only [readUnits_flatMap_escapeChar, Option.bind_eq_bind, Option.bind_some]
  change (readValue fuel cs).bind _ = _
  rw [hv]
  simp only [joinUnits_map_toNat, Option.map_some, String.ofList_toList, Option.bind_some]
  rfl

theorem readFields_append {b : List Char} (hb : Blanks b) (cs : List Char) :
    readFields fuel (b ++ cs) = readFields fuel cs := by
  rw [← readFields_skipBlank, skipBlank_append hb, readFields_skipBlank]

theorem readFields_last {k : String} {b : List Char} (hb : Blanks b)
    (hv : readValue fuel cs = some (v, b ++ '}' :: rest)) :
    readFields (fuel + 1) (writeText k ++ ':' :: cs) = some (some [(k, v)], rest) := by
  rw [readFields_key k hv, skipBlank_append hb]
  rfl

theorem readFields_more {k : String} {ds : List Char}
    (hv : readValue fuel cs = some (v, ',' :: ds))
    (hfs : readFields fuel ds = some (some fs, rest)) :
    readFields (fuel + 1) (writeText k ++ ':' :: cs) = some (some ((k, v) :: fs), rest) := by
  rw [readFields_key k hv]
  change (readFields fuel ds).bind _ = _
  rw [hfs]
  rfl

/-! ### The reader on a form -/

theorem exists_cons_toString (n : Int) :
    ∃ c ds, (toString n).toList = c :: ds ∧ isBlank c = false ∧ c ≠ ']' := by
  cases n with
  | ofNat n =>
    rw [Int.ofNat_eq_natCast, toList_toString_nat]
    cases hds : Nat.toDigits 10 n with
    | nil => exact absurd hds Nat.toDigits_ne_nil
    | cons d ds =>
      have hd : d.isDigit :=
        Nat.isDigit_of_mem_toDigits (by decide) (by decide) (hds ▸ List.mem_cons_self)
      refine ⟨d, ds, rfl, isBlank_of_isDigit hd, ?_⟩
      rintro rfl
      cases hd
  | negSucc n => exact ⟨_, _, toList_toString_negSucc n, rfl, by decide⟩

/-- A value begins with a sign of its own. -/
theorem Form.exists_cons {j : Json} {cs : List Char} (h : Form j cs) :
    ∃ c ds, cs = c :: ds ∧ isBlank c = false ∧ c ≠ ']' := by
  cases h with
  | scalar hj =>
    cases hj with
    | null => exact ⟨_, _, rfl, rfl, by decide⟩
    | bool b => cases b <;> exact ⟨_, _, rfl, rfl, by decide⟩
    | int n => exact exists_cons_toString n
    | str s => exact ⟨_, _, rfl, rfl, by decide⟩
  | noItems | noFields => exact ⟨_, _, rfl, rfl, by decide⟩
  | items _ => exact ⟨_, _, rfl, rfl, by decide⟩
  | fields _ => exact ⟨_, _, rfl, rfl, by decide⟩

theorem head?_skipBlank_append {b : List Char} (hb : Blanks b) {c : Char}
    (hc : isBlank c = false) (cs : List Char) : (skipBlank (b ++ c :: cs)).head? = some c := by
  rw [skipBlank_append hb, skipBlank_cons hc]
  rfl

theorem ItemsForm.head?_ne {vs : List Json} {cs : List Char} (h : ItemsForm vs cs)
    (rest : List Char) : (skipBlank (cs ++ rest)).head? ≠ some ']' := by
  obtain ⟨b, c, ds, rfl, hb, hblank, hc⟩ :
      ∃ b c ds, cs = b ++ c :: ds ∧ Blanks b ∧ isBlank c = false ∧ c ≠ ']' := by
    cases h with
    | last hb hv _ | more hb hv _ =>
      obtain ⟨c, ds, rfl, hblank, hc⟩ := hv.exists_cons
      exact ⟨_, c, _, rfl, hb, hblank, hc⟩
  rw [List.append_assoc, List.cons_append, head?_skipBlank_append hb hblank]
  exact fun heq => hc (Option.some.inj heq)

theorem FieldsForm.head?_ne {fs : List (String × Json)} {cs : List Char} (h : FieldsForm fs cs)
    (rest : List Char) : (skipBlank (cs ++ rest)).head? ≠ some '}' := by
  obtain ⟨b, ds, rfl, hb⟩ : ∃ b ds, cs = b ++ '"' :: ds ∧ Blanks b := by
    cases h with
    | last hb _ _ _ | more hb _ _ _ => exact ⟨_, _, rfl, hb⟩
  rw [List.append_assoc, List.cons_append, head?_skipBlank_append hb rfl]
  decide

theorem ends_append {b : List Char} (hb : Blanks b) {c : Char}
    (hc : c = ',' ∨ c = ']' ∨ c = '}') (cs : List Char) : Ends (b ++ c :: cs) := by
  intro d hd
  cases b with
  | nil => exact .inr (Option.some.inj hd ▸ hc)
  | cons d' b => exact .inl (Option.some.inj hd ▸ hb d' List.mem_cons_self)

mutual

/-- Every form of a value is read as the value. An array takes two calls where it takes a
sign, hence twice the length. -/
theorem Form.reads {j : Json} {cs : List Char} (h : Form j cs) {fuel : Nat}
    (hfuel : 2 * cs.length ≤ fuel + 1) {rest : List Char} (hrest : Ends rest) :
    readValue fuel (cs ++ rest) = some (j, rest) := by
  obtain ⟨_, _, hcons, -, -⟩ := h.exists_cons
  rw [hcons, List.length_cons] at hfuel
  obtain ⟨fuel, rfl⟩ : ∃ n, fuel = n + 1 := ⟨fuel - 1, by omega⟩
  match h with
  | .scalar hj => exact readValue_scalar hj fuel hrest
  | .noItems | .noFields => rfl
  | .items hvs =>
    cases hcons
    exact readValue_items (hvs.head?_ne rest) (hvs.reads (by omega) rest)
  | .fields hfs =>
    cases hcons
    exact readValue_fields (hfs.head?_ne rest) (hfs.reads (by omega) rest)

theorem ItemsForm.reads {vs : List Json} {cs : List Char} (h : ItemsForm vs cs) {fuel : Nat}
    (hfuel : 2 * cs.length ≤ fuel) (rest : List Char) :
    readItems fuel (cs ++ rest) = some (vs, rest) := by
  match h with
  | .last hb hv hb' =>
    simp only [List.length_append, List.length_singleton] at hfuel
    obtain ⟨fuel, rfl⟩ : ∃ n, fuel = n + 1 := ⟨fuel - 1, by omega⟩
    simp only [List.append_assoc, List.singleton_append]
    apply readItems_last hb'
    rw [readValue_append hb]
    exact hv.reads (by omega) (ends_append hb' (.inr (.inl rfl)) rest)
  | .more hb hv hvs =>
    simp only [List.length_append, List.length_cons] at hfuel
    obtain ⟨fuel, rfl⟩ : ∃ n, fuel = n + 1 := ⟨fuel - 1, by omega⟩
    simp only [List.append_assoc, List.cons_append]
    refine readItems_more ?_ (hvs.reads (by omega) rest)
    rw [readValue_append hb]
    exact hv.reads (by omega) (ends_append blanks_nil (.inl rfl) _)

theorem FieldsForm.reads {fs : List (String × Json)} {cs : List Char} (h : FieldsForm fs cs)
    {fuel : Nat} (hfuel : 2 * cs.length ≤ fuel) (rest : List Char) :
    readFields fuel (cs ++ rest) = some (some fs, rest) := by
  match h with
  | .last hb hb' hv hb'' =>
    simp only [List.length_append, List.length_cons] at hfuel
    obtain ⟨fuel, rfl⟩ : ∃ n, fuel = n + 1 := ⟨fuel - 1, by omega⟩
    simp only [List.append_assoc, List.cons_append, readFields_append hb]
    apply readFields_last hb''
    rw [readValue_append hb']
    exact hv.reads (by omega) (ends_append hb'' (.inr (.inr rfl)) rest)
  | .more hb hb' hv hfs =>
    simp only [List.length_append, List.length_cons] at hfuel
    obtain ⟨fuel, rfl⟩ : ∃ n, fuel = n + 1 := ⟨fuel - 1, by omega⟩
    simp only [List.append_assoc, List.cons_append, readFields_append hb]
    refine readFields_more ?_ (hfs.reads (by omega) rest)
    rw [readValue_append hb']
    exact hv.reads (by omega) (ends_append blanks_nil (.inl rfl) _)

end

theorem parse?_of_form {j : Json} {cs : List Char} (h : Form j cs) :
    parse? (.ofList cs) = some j := by
  have hreads : readValue (2 * cs.length + 2) (cs ++ []) = some (j, []) :=
    h.reads (by omega) nofun
  rw [List.append_nil] at hreads
  rw [parse?, String.toList_ofList]
  dsimp only
  rw [hreads]
  rfl

/-! ## Writing a form -/

/-- A value of the forms that the writers and the reader agree on: there is no number with a
fraction or an exponent in it, and no text that could not be read. -/
inductive Plain : Json → Prop where
  | scalar {j : Json} : j.IsScalar → Plain j
  | arr {vs : List Json} : (∀ v ∈ vs, Plain v) → Plain (.arr vs)
  | obj {fs : List (String × Json)} : (∀ f ∈ fs, Plain f.2) → Plain (.obj fs)

theorem IsScalar.write_eq {j : Json} (h : j.IsScalar) : j.write = writeScalar j := by
  cases h <;> rfl

theorem IsScalar.indent_eq {j : Json} (h : j.IsScalar) (depth : Nat) :
    j.indent depth = writeScalar j := by
  cases h <;> rfl

/-! ### Compactly -/

theorem itemsForm_writeItems {v : Json} {vs : List Json} (h : ∀ w ∈ v :: vs, Form w w.write) :
    ItemsForm (v :: vs) (writeItems (v :: vs)) := by
  induction vs generalizing v with
  | nil => exact .last blanks_nil (h v List.mem_cons_self) blanks_nil
  | cons w vs ih =>
    exact .more blanks_nil (h v List.mem_cons_self)
      (ih fun u hu => h u (List.mem_cons_of_mem v hu))

theorem fieldsForm_writeFields {f : String × Json} {fs : List (String × Json)}
    (h : ∀ g ∈ f :: fs, Form g.2 g.2.write) : FieldsForm (f :: fs) (writeFields (f :: fs)) := by
  induction fs generalizing f with
  | nil => exact .last blanks_nil blanks_nil (h f List.mem_cons_self) blanks_nil
  | cons g fs ih =>
    exact .more blanks_nil blanks_nil (h f List.mem_cons_self)
      (ih fun u hu => h u (List.mem_cons_of_mem f hu))

theorem Plain.form_write {j : Json} (h : Plain j) : Form j j.write := by
  induction h with
  | scalar hj =>
    rw [hj.write_eq]
    exact .scalar hj
  | @arr vs _ ih =>
    cases vs with
    | nil => exact .noItems
    | cons v vs => exact .items (itemsForm_writeItems ih)
  | @obj fs _ ih =>
    cases fs with
    | nil => exact .noFields
    | cons f fs => exact .fields (fieldsForm_writeFields ih)

/-! ### Indented -/

theorem blanks_newline (depth : Nat) : Blanks (newline depth) := by
  intro c hc
  rcases List.mem_cons.mp hc with rfl | hc
  · rfl
  · rw [List.eq_of_mem_replicate hc]
    rfl

theorem itemsForm_indentItems {depth : Nat} {v : Json} {vs : List Json}
    (h : ∀ w ∈ v :: vs, Form w (w.indent depth)) (outer : Nat) :
    ItemsForm (v :: vs) (indentItems depth (v :: vs) ++ newline outer ++ [']']) := by
  induction vs generalizing v with
  | nil =>
    have hlast := ItemsForm.last (blanks_newline depth) (h v List.mem_cons_self)
      (blanks_newline outer)
    simpa [indentItems] using hlast
  | cons w vs ih =>
    have hmore := ItemsForm.more (blanks_newline depth) (h v List.mem_cons_self)
      (ih fun u hu => h u (List.mem_cons_of_mem v hu))
    simpa [indentItems] using hmore

theorem fieldsForm_indentFields {depth : Nat} {f : String × Json} {fs : List (String × Json)}
    (h : ∀ g ∈ f :: fs, Form g.2 (g.2.indent depth)) (outer : Nat) :
    FieldsForm (f :: fs) (indentFields depth (f :: fs) ++ newline outer ++ ['}']) := by
  have hspace : Blanks [' '] := by simp [Blanks, isBlank]
  induction fs generalizing f with
  | nil =>
    have hlast := FieldsForm.last (k := f.1) (blanks_newline depth) hspace
      (h f List.mem_cons_self) (blanks_newline outer)
    simpa [indentFields] using hlast
  | cons g fs ih =>
    have hmore := FieldsForm.more (k := f.1) (blanks_newline depth) hspace
      (h f List.mem_cons_self) (ih fun u hu => h u (List.mem_cons_of_mem f hu))
    simpa [indentFields] using hmore

theorem Plain.form_indent {j : Json} (h : Plain j) (depth : Nat) : Form j (j.indent depth) := by
  induction h generalizing depth with
  | scalar hj =>
    rw [hj.indent_eq]
    exact .scalar hj
  | @arr vs _ ih =>
    cases vs with
    | nil => exact .noItems
    | cons v vs =>
      exact .items (itemsForm_indentItems (fun w hw => ih w hw (depth + 1)) depth)
  | @obj fs _ ih =>
    cases fs with
    | nil => exact .noFields
    | cons f fs => exact .fields (fieldsForm_indentFields (fun g hg => ih g hg (depth + 1)) depth)

/-! ## There and back -/

theorem parse?_compact {j : Json} (h : Plain j) : parse? j.compact = some j :=
  parse?_of_form h.form_write

theorem parse?_indented {j : Json} (h : Plain j) : parse? j.indented = some j :=
  parse?_of_form (h.form_indent 0)

end LayeredConfig.Json
