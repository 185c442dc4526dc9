import LayeredConfig.Conversion
import LayeredConfig.Proofs.Conversion.Registrations
import LayeredConfig.Proofs.Json.Scalars
import Mathlib.Data.List.DropRight
import Mathlib.Data.List.Forall2
import Mathlib.Data.Nat.Digits.Defs
import Mathlib.Tactic.SplitIfs

/-!
# Integers from texts

What an integer text denotes is said here without a reader: each digit counts its value times the
power of the base for the digits behind it, and a sign or a prefix stands in front. That is a number
of any size. The default converter of a type gives this number where the type holds it, and an error
for every other text.
-/
namespace LayeredConfig

/-! ## Trimming -/

namespace Text

theorem exists_trimChars (cs : List Char) :
    ∃ front back, cs = front ++ trimChars cs ++ back ∧ (∀ c ∈ front, isBlank c) ∧
      ∀ c ∈ back, isBlank c := by
  refine ⟨cs.takeWhile isBlank, (cs.dropWhile isBlank).rtakeWhile isBlank, ?_, ?_, ?_⟩
  · change cs = cs.takeWhile isBlank ++ (cs.dropWhile isBlank).rdropWhile isBlank ++ _
    rw [List.append_assoc, List.rdropWhile_append_rtakeWhile, List.takeWhile_append_dropWhile]
  · exact fun c hc => List.mem_takeWhile_imp hc
  · exact fun c hc => List.mem_takeWhile_imp (List.mem_reverse.mp hc)

theorem dropWhile_isBlank_eq_self {cs : List Char} (h : ∀ c ∈ cs, isBlank c = false) :
    cs.dropWhile isBlank = cs := by
  cases cs with
  | nil => rfl
  | cons c cs => exact List.dropWhile_cons_of_neg (by simp [h c])

theorem trimChars_append {front body back : List Char} (hfront : ∀ c ∈ front, isBlank c)
    (hbody : ∀ c ∈ body, isBlank c = false) (hback : ∀ c ∈ back, isBlank c) :
    trimChars (front ++ body ++ back) = body := by
  unfold trimChars
  rw [List.append_assoc, List.dropWhile_append_of_pos hfront]
  cases body with
  | nil =>
    rw [List.nil_append, List.dropWhile_eq_nil_iff.mpr hback]
    rfl
  | cons c body =>
    have hstart : (c :: body ++ back).dropWhile isBlank = c :: body ++ back :=
      List.dropWhile_cons_of_neg (by simp [hbody c])
    have hend : ∀ b ∈ back.reverse, isBlank b := fun b hb => hback b (List.mem_reverse.mp hb)
    have hrest : ∀ b ∈ (c :: body).reverse, isBlank b = false :=
      fun b hb => hbody b (List.mem_reverse.mp hb)
    rw [hstart, List.reverse_append, List.dropWhile_append_of_pos hend,
      dropWhile_isBlank_eq_self hrest, List.reverse_reverse]

end Text

namespace Numeral

variable {base : Nat} {signed : Bool} {cs : List Char}

/-! ## Digits -/

/-- A character is the digit of a value below the base. A letter may be of either case. -/
def IsDigit (base : Nat) (c : Char) (d : Nat) : Prop :=
  d < base ∧ (c = Nat.digitChar d ∨ c = (Nat.digitChar d).toUpper)

theorem IsDigit.sixteen {c : Char} {d : Nat} (h : IsDigit base c d) (hbase : base ≤ 16) :
    IsDigit 16 c d :=
  ⟨h.1.trans_le hbase, h.2⟩

theorem digit?_sixteen_eq_some_iff {c : Char} {d : Nat} :
    digit? 16 c = some d ↔ IsDigit 16 c d := by
  constructor
  · intro h
    -- Numerals, small letters and capital letters are three runs of codes.
    have hcode : (d < 10 ∧ c.toNat = 48 + d) ∨
        (10 ≤ d ∧ d < 16 ∧ (c.toNat = 87 + d ∨ c.toNat = 55 + d)) := by
      simp only [digit?, Char.le_def, UInt32.le_iff_toNat_le, Bool.and_eq_true, decide_eq_true_eq,
        Option.ite_none_right_eq_some, Option.some.injEq, Char.reduceVal, UInt32.reduceToNat,
        Char.reduceToNat, Char.toNat_val] at h
      split_ifs at h <;> omega
    have htable : ∀ d < 16, (d < 10 → (Nat.digitChar d).toNat = 48 + d) ∧
        (10 ≤ d → (Nat.digitChar d).toNat = 87 + d ∧ (Nat.digitChar d).toUpper.toNat = 55 + d) := by
      decide
    rw [IsDigit, ← Char.toNat_inj, ← Char.toNat_inj]
    grind
  · rintro ⟨hd, rfl | rfl⟩
    · revert d
      decide
    · revert d
      decide

theorem digit?_eq_some_iff (hbase : base ≤ 16) {c : Char} {d : Nat} :
    digit? base c = some d ↔ IsDigit base c d := by
  have hsixteen : digit? base c = some d ↔ d < base ∧ digit? 16 c = some d := by
    unfold digit?
    split_ifs <;> simp <;> omega
  rw [hsixteen, digit?_sixteen_eq_some_iff]
  constructor
  · exact fun ⟨hd, h⟩ => ⟨hd, h.2⟩
  · exact fun h => ⟨h.1, h.sixteen hbase⟩

/-- A character that is no digit in base sixteen is none in a smaller base. -/
theorem IsDigit.ne {c s : Char} {d : Nat} (h : IsDigit base c d) (hbase : base ≤ 16)
    (hs : digit? 16 s = none) : c ≠ s := by
  rintro rfl
  rw [digit?_sixteen_eq_some_iff.mpr (h.sixteen hbase)] at hs
  cases hs

theorem IsDigit.isBlank_eq_false {c : Char} {d : Nat} (h : IsDigit base c d) (hbase : base ≤ 16) :
    Text.isBlank c = false := by
  obtain ⟨hd, hc⟩ := h.sixteen hbase
  have htable : ∀ d < 16, Text.isBlank (Nat.digitChar d) = false ∧
      Text.isBlank (Nat.digitChar d).toUpper = false := by
    decide
  rcases hc with rfl | rfl
  · exact (htable d hd).1
  · exact (htable d hd).2

/-! ## Numbers without a sign -/

/-- One or more digits, and the number they denote. Each digit counts its value times the power of
the base for the digits behind it. -/
def IsNatural (base : Nat) (cs : List Char) (n : Nat) : Prop :=
  cs ≠ [] ∧ ∃ ds, List.Forall₂ (IsDigit base) cs ds ∧ n = Nat.ofDigits base ds.reverse

theorem IsNatural.exists_isDigit {n : Nat} (h : IsNatural base cs n) {c : Char} (hc : c ∈ cs) :
    ∃ d, IsDigit base c d := by
  obtain ⟨-, ds, hds, -⟩ := h
  induction hds with
  | nil => cases hc
  | cons hd _ ih =>
    rcases List.mem_cons.mp hc with rfl | hc
    · exact ⟨_, hd⟩
    · exact ih hc

/-- Digits are read onto what was read before them, which they move up by their number. -/
theorem readDigits_eq_some_iff (hbase : base ≤ 16) {m n : Nat} :
    readDigits base m cs = some n ↔
      ∃ ds, List.Forall₂ (IsDigit base) cs ds ∧
        n = base ^ cs.length * m + Nat.ofDigits base ds.reverse := by
  induction cs generalizing m with
  | nil => simp [readDigits, eq_comm]
  | cons c cs ih =>
    -- What was read before moves up for the first digit, and together they move up for the others.
    have hvalue : ∀ (d : Nat) (ds : List Nat), cs.length = ds.length →
        base ^ (c :: cs).length * m + Nat.ofDigits base (d :: ds).reverse
          = base ^ cs.length * (base * m + d) + Nat.ofDigits base ds.reverse := by
      intro d ds hlength
      rw [List.reverse_cons, Nat.ofDigits_append, Nat.ofDigits_singleton, List.length_reverse,
        ← hlength, List.length_cons, Nat.pow_succ]
      ring
    rw [readDigits, Option.bind_eq_bind, Option.bind_eq_some_iff]
    constructor
    · rintro ⟨d, hd, hrest⟩
      obtain ⟨ds, hds, rfl⟩ := ih.mp hrest
      refine ⟨d :: ds, .cons ((digit?_eq_some_iff hbase).mp hd) hds, ?_⟩
      exact (hvalue d ds hds.length_eq).symm
    · rintro ⟨_, hall, rfl⟩
      obtain ⟨d, ds, hd, hds, rfl⟩ := List.forall₂_cons_left_iff.mp hall
      exact ⟨d, (digit?_eq_some_iff hbase).mpr hd, ih.mpr ⟨ds, hds, hvalue d ds hds.length_eq⟩⟩

theorem readNatural_eq_some_iff (hbase : base ≤ 16) {n : Nat} :
    readNatural base cs = some n ↔ IsNatural base cs n := by
  cases cs with
  | nil => simp [readNatural, IsNatural]
  | cons c cs =>
    change readDigits base 0 (c :: cs) = some n ↔ _
    simp only [readDigits_eq_some_iff hbase, Nat.mul_zero, Nat.zero_add]
    exact (and_iff_right (List.cons_ne_nil c cs)).symm

/-! ## Numbers with a sign -/

/-- A number behind an optional sign. Minus is a sign where there are numbers below zero. -/
inductive IsSigned (base : Nat) (signed : Bool) : List Char → Int → Prop
  | bare {cs : List Char} {n : Nat} : IsNatural base cs n → IsSigned base signed cs n
  | plus {cs : List Char} {n : Nat} : IsNatural base cs n → IsSigned base signed ('+' :: cs) n
  | minus {cs : List Char} {n : Nat} :
      signed → IsNatural base cs n → IsSigned base signed ('-' :: cs) (-n)

theorem IsSigned.sign_or_isDigit {n : Int} (h : IsSigned base signed cs n) {c : Char}
    (hc : c ∈ cs) : c = '+' ∨ c = '-' ∨ ∃ d, IsDigit base c d := by
  cases h with
  | bare hn => exact .inr (.inr (hn.exists_isDigit hc))
  | plus hn =>
    rcases List.mem_cons.mp hc with hc | hc
    · exact .inl hc
    · exact .inr (.inr (hn.exists_isDigit hc))
  | minus _ hn =>
    rcases List.mem_cons.mp hc with hc | hc
    · exact .inr (.inl hc)
    · exact .inr (.inr (hn.exists_isDigit hc))

theorem readInteger_eq_some_iff (hbase : base ≤ 16) {n : Int} :
    readInteger base signed cs = some n ↔ IsSigned base signed cs n := by
  constructor
  · intro h
    unfold readInteger at h
    split at h
    · obtain ⟨m, hm, rfl⟩ := Option.map_eq_some_iff.mp h
      exact .plus ((readNatural_eq_some_iff hbase).mp hm)
    · obtain ⟨hsigned, hminus⟩ := Option.ite_none_right_eq_some.mp h
      obtain ⟨m, hm, rfl⟩ := Option.map_eq_some_iff.mp hminus
      exact .minus hsigned ((readNatural_eq_some_iff hbase).mp hm)
    · obtain ⟨m, hm, rfl⟩ := Option.map_eq_some_iff.mp h
      exact .bare ((readNatural_eq_some_iff hbase).mp hm)
  · intro h
    cases h with
    | bare hn =>
      -- Digits do not start with a sign.
      unfold readInteger
      split
      · obtain ⟨d, hd⟩ := hn.exists_isDigit List.mem_cons_self
        exact absurd rfl (hd.ne hbase rfl)
      · obtain ⟨d, hd⟩ := hn.exists_isDigit List.mem_cons_self
        exact absurd rfl (hd.ne hbase rfl)
      · rw [(readNatural_eq_some_iff hbase).mpr hn]
        rfl
    | plus hn =>
      rw [readInteger, (readNatural_eq_some_iff hbase).mpr hn]
      rfl
    | minus hsigned hn =>
      rw [readInteger, if_pos hsigned, (readNatural_eq_some_iff hbase).mpr hn]
      rfl

/-! ## Integer texts -/

/-- A number in base ten, or one in base sixteen behind its prefix. The sign follows the prefix. -/
inductive IsInteger (signed : Bool) : List Char → Int → Prop
  | decimal {cs : List Char} {n : Int} : IsSigned 10 signed cs n → IsInteger signed cs n
  | hexadecimal {x : Char} {cs : List Char} {n : Int} :
      x = 'x' ∨ x = 'X' → IsSigned 16 signed cs n → IsInteger signed ('0' :: x :: cs) n

theorem IsSigned.isBlank_eq_false {n : Int} (h : IsSigned base signed cs n) (hbase : base ≤ 16)
    {c : Char} (hc : c ∈ cs) : Text.isBlank c = false := by
  obtain rfl | rfl | ⟨d, hd⟩ := h.sign_or_isDigit hc
  · decide
  · decide
  · exact hd.isBlank_eq_false hbase

theorem IsInteger.isBlank_eq_false {n : Int} (h : IsInteger signed cs n) :
    ∀ c ∈ cs, Text.isBlank c = false := by
  intro c hc
  cases h with
  | decimal hn => exact hn.isBlank_eq_false (by decide) hc
  | hexadecimal hx hn =>
    obtain rfl | rfl | hc : c = '0' ∨ c = _ ∨ c ∈ _ := by simpa using hc
    · decide
    · rcases hx with rfl | rfl <;> decide
    · exact hn.isBlank_eq_false (by decide) hc

end Numeral

namespace IntType

open Numeral

theorem fit?_eq_some_iff {t : IntType} {m n : Int} :
    t.fit? m = some n ↔ m = n ∧ t.min ≤ n ∧ n ≤ t.max := by
  rw [fit?, Option.ite_none_right_eq_some, Option.some.injEq]
  constructor
  · rintro ⟨hm, rfl⟩
    exact ⟨rfl, hm⟩
  · rintro ⟨rfl, hm⟩
    exact ⟨hm, rfl⟩

theorem bind_fit?_eq_some_iff {t : IntType} {base : Nat} (hbase : base ≤ 16) {cs : List Char}
    {n : Int} :
    (readInteger base t.signed cs).bind t.fit? = some n ↔
      IsSigned base t.signed cs n ∧ t.min ≤ n ∧ n ≤ t.max := by
  rw [Option.bind_eq_some_iff]
  constructor
  · rintro ⟨m, hm, hfit⟩
    obtain ⟨rfl, hn⟩ := fit?_eq_some_iff.mp hfit
    exact ⟨(readInteger_eq_some_iff hbase).mp hm, hn⟩
  · rintro ⟨hm, hn⟩
    exact ⟨n, (readInteger_eq_some_iff hbase).mpr hm, fit?_eq_some_iff.mpr ⟨rfl, hn⟩⟩

/-- The number that a text denotes for a type: between blanks stands an integer text for it, and the
type holds it. -/
def Denotes (t : IntType) (s : String) (n : Int) : Prop :=
  (∃ front body back, s.toList = front ++ body ++ back ∧ (∀ c ∈ front, Text.isBlank c) ∧
    (∀ c ∈ back, Text.isBlank c) ∧ IsInteger t.signed body n) ∧
  t.min ≤ n ∧ n ≤ t.max

theorem read?_eq_some_iff_isInteger {t : IntType} {s : String} {n : Int} :
    t.read? s = some n ↔
      IsInteger t.signed (Text.trimChars s.toList) n ∧ t.min ≤ n ∧ n ≤ t.max := by
  unfold read?
  generalize Text.trimChars s.toList = cs
  constructor
  · intro h
    split at h
    · obtain ⟨hn, hfits⟩ := (bind_fit?_eq_some_iff (by decide)).mp h
      exact ⟨.hexadecimal (.inl rfl) hn, hfits⟩
    · obtain ⟨hn, hfits⟩ := (bind_fit?_eq_some_iff (by decide)).mp h
      exact ⟨.hexadecimal (.inr rfl) hn, hfits⟩
    · obtain ⟨hn, hfits⟩ := (bind_fit?_eq_some_iff (by decide)).mp h
      exact ⟨.decimal hn, hfits⟩
  · rintro ⟨hn, hfits⟩
    cases hn with
    | decimal hn =>
      -- No digit of a decimal text can be taken for a prefix.
      have hmark : ∀ c ∈ cs, c ≠ 'x' ∧ c ≠ 'X' := by
        intro c hc
        obtain rfl | rfl | ⟨d, hd⟩ := hn.sign_or_isDigit hc
        · decide
        · decide
        · exact ⟨hd.ne (by decide) rfl, hd.ne (by decide) rfl⟩
      split
      · exact absurd rfl (hmark 'x' (by simp)).1
      · exact absurd rfl (hmark 'X' (by simp)).2
      · exact (bind_fit?_eq_some_iff (by decide)).mpr ⟨hn, hfits⟩
    | hexadecimal hx hn =>
      rcases hx with rfl | rfl
      · exact (bind_fit?_eq_some_iff (by decide)).mpr ⟨hn, hfits⟩
      · exact (bind_fit?_eq_some_iff (by decide)).mpr ⟨hn, hfits⟩

theorem read?_eq_some_iff {t : IntType} {s : String} {n : Int} :
    t.read? s = some n ↔ t.Denotes s n := by
  rw [read?_eq_some_iff_isInteger, Denotes]
  refine and_congr_left fun _ => ⟨?_, ?_⟩
  · intro hn
    obtain ⟨front, back, hs, hfront, hback⟩ := Text.exists_trimChars s.toList
    exact ⟨front, _, back, hs, hfront, hback, hn⟩
  · rintro ⟨front, body, back, hs, hfront, hback, hn⟩
    rw [hs, Text.trimChars_append hfront hn.isBlank_eq_false hback]
    exact hn

end IntType

/-! ## Decimal texts -/

namespace Numeral

variable {base : Nat}

theorem isNatural_digitChar {d : Nat} (hd : d < base) : IsNatural base [Nat.digitChar d] d :=
  ⟨List.cons_ne_nil _ _, [d], .cons ⟨hd, .inl rfl⟩ .nil, Nat.ofDigits_singleton.symm⟩

theorem IsNatural.append_digitChar {cs : List Char} {n d : Nat} (h : IsNatural base cs n)
    (hd : d < base) : IsNatural base (cs ++ [Nat.digitChar d]) (base * n + d) := by
  obtain ⟨-, ds, hds, rfl⟩ := h
  refine ⟨by simp, ds ++ [d], List.rel_append hds (.cons ⟨hd, .inl rfl⟩ .nil), ?_⟩
  rw [List.reverse_append, List.reverse_singleton, List.singleton_append, Nat.ofDigits_cons,
    Nat.add_comm]

theorem isNatural_toDigits (hbase : 1 < base) (n : Nat) :
    IsNatural base (Nat.toDigits base n) n := by
  induction n using Nat.strong_induction_on with
  | _ n ih =>
    rw [Nat.toDigits_eq_if hbase]
    split
    · exact isNatural_digitChar ‹_›
    · have hlt : n / base < n := Nat.div_lt_self (by omega) hbase
      have happend := (ih (n / base) hlt).append_digitChar (Nat.mod_lt n (by omega))
      rwa [Nat.div_add_mod] at happend

end Numeral

theorem IntType.denotes_toString {t : IntType} {n : Int} (hmin : t.min ≤ n) (hmax : n ≤ t.max) :
    t.Denotes (toString n) n := by
  refine ⟨⟨[], (toString n).toList, [], by simp, nofun, nofun, .decimal ?_⟩, hmin, hmax⟩
  cases n with
  | ofNat n =>
    rw [Int.ofNat_eq_natCast, Json.toList_toString_nat]
    exact .bare (Numeral.isNatural_toDigits (by decide) n)
  | negSucc n =>
    -- Below zero there are only numbers of signed types.
    have hsigned : t.signed = true := by
      by_contra hunsigned
      rw [IntType.min, if_neg hunsigned] at hmin
      omega
    rw [Json.toList_toString_negSucc]
    exact .minus hsigned (Numeral.isNatural_toDigits (by decide) (n + 1))

namespace Converters

theorem table_defaults (k : Kind) : defaults.table k = [k.read?] := by
  have hmem : k ∈ Kind.all := by
    cases k with
    | string | bool | char => decide
    | int t => cases t <;> decide
    | float t => cases t <;> decide
  rw [keeps_defaults k]
  exact congrArg List.reverse (registeredFor_map Kind.read? (by decide) hmem)

theorem convert_defaults (k : Kind) (key raw : String) :
    defaults.convert k key raw
      = (k.read? raw).elim (.error (.conversion key raw k.typeName)) .ok := by
  have hfind : (defaults.table k).findSome? (· raw) = k.read? raw := by
    cases hread : k.read? raw <;> simp [table_defaults, hread]
  have hhas : defaults.has k := by simp [has, table_defaults]
  rw [convert, if_pos hhas, hfind]
  cases k.read? raw <;> rfl

/-- A text converts to an integer of a type if and only if it denotes that integer for the type. A
text that denotes none is a conversion error, and the decimal text of every integer that the type
holds converts back to it. -/
theorem convert_int (t : IntType) (key raw : String) :
    (∀ n, defaults.convert (.int t) key raw = .ok n ↔ t.Denotes raw n) ∧
    (defaults.convert (.int t) key raw = .error (.conversion key raw t.name) ↔
      ∀ n, ¬ t.Denotes raw n) ∧
    ∀ n : Int, t.min ≤ n → n ≤ t.max → defaults.convert (.int t) key (toString n) = .ok n := by
  have hok : ∀ (s : String) (n : Int),
      defaults.convert (.int t) key s = .ok n ↔ t.Denotes s n := by
    intro s n
    rw [convert_defaults, ← IntType.read?_eq_some_iff, Kind.read?]
    cases t.read? s <;> simp
  refine ⟨hok raw, ?_, ?_⟩
  · simp only [convert_defaults, ← IntType.read?_eq_some_iff, Kind.read?, Kind.typeName]
    cases t.read? raw <;> simp
  · intro n hmin hmax
    exact (hok _ n).mpr (IntType.denotes_toString hmin hmax)

/-- The least number of a type of eight bits is read behind a prefix, and from its decimal text. The
number below it is rejected, whatever zeros stand in front. -/
theorem convert_int_at_bound :
    defaults.convert (.int .i8) "k" "\t0X-80 " = .ok (-128) ∧
    IntType.i8.Denotes "\t0X-80 " (-128) ∧
    defaults.convert (.int .i8) "k" "-00129" = .error (.conversion "k" "-00129" "i8") ∧
    (∀ n, ¬ IntType.i8.Denotes "-00129" n) ∧
    defaults.convert (.int .i8) "k" (toString (-128 : Int)) = .ok (-128) := by
  have hread : defaults.convert (.int .i8) "k" "\t0X-80 " = .ok (-128) := by decide +kernel
  have hreject :
      defaults.convert (.int .i8) "k" "-00129" = .error (.conversion "k" "-00129" "i8") := by
    decide +kernel
  refine ⟨hread, ((convert_int .i8 "k" _).1 _).mp hread, hreject,
    (convert_int .i8 "k" "-00129").2.1.mp hreject,
    (convert_int .i8 "k" "").2.2 (-128) (by decide) (by decide)⟩

end Converters
end LayeredConfig
