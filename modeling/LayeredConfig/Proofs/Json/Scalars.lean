import LayeredConfig.Json.Parser
import Mathlib.Data.List.Basic
import Mathlib.Data.Option.Basic

/-!
# Texts and integers in JSON

What is written of a text or of an integer is read back, and what follows is left for
further reading.
-/
namespace LayeredConfig.Json

/-! ## Characters -/

theorem readUnits_shortEscape {e : Char} {unit : Nat} (h : shortEscape? e = some unit)
    (cs : List Char) :
    readUnits ('\\' :: e :: cs) = (readUnits cs).map (Prod.map (unit :: ·) id) := by
  have hu : e ≠ 'u' := by
    rintro rfl
    cases h
  rw [readUnits, h]
  · cases readUnits cs <;> rfl
  · exact fun _ _ _ _ _ he => (hu he).elim

theorem readUnits_hexEscape {a b c d : Char} {unit : Nat} (h : hexUnit? a b c d = some unit)
    (cs : List Char) :
    readUnits ('\\' :: 'u' :: a :: b :: c :: d :: cs)
      = (readUnits cs).map (Prod.map (unit :: ·) id) := by
  rw [readUnits, h]
  cases readUnits cs <;> rfl

theorem readUnits_plain {c : Char} (hquote : c ≠ '"') (hslash : c ≠ '\\') (hc : 32 ≤ c.toNat)
    (cs : List Char) :
    readUnits (c :: cs) = (readUnits cs).map (Prod.map (c.toNat :: ·) id) := by
  rw [readUnits]
  · rw [guard, if_pos hc]
    cases readUnits cs <;> rfl
  · exact hquote
  · exact fun _ _ _ _ _ h _ => (hslash h).elim
  · exact fun _ _ h => (hslash h).elim

theorem hexDigit?_digitChar {n : Nat} (h : n < 16) : hexDigit? (Nat.digitChar n) = some n := by
  decide +revert

/-- A character is read back from what it is written as, one unit for it. -/
theorem readUnits_escapeChar (c : Char) (cs : List Char) :
    readUnits (escapeChar c ++ cs) = (readUnits cs).map (Prod.map (c.toNat :: ·) id) := by
  unfold escapeChar
  split
  case h_8 hquote hslash _ _ _ _ _ =>
    split
    · next hc =>
      apply readUnits_hexEscape
      simp only [hexUnit?, hexDigit?_digitChar (show c.toNat / 16 < 16 by omega),
        hexDigit?_digitChar (show c.toNat % 16 < 16 by omega)]
      exact congrArg some (show _ = c.toNat by omega)
    · next hc => exact readUnits_plain hquote hslash (by omega) cs
  all_goals exact readUnits_shortEscape rfl cs

/-! ## Texts -/

theorem readUnits_flatMap_escapeChar (cs rest : List Char) :
    readUnits (cs.flatMap escapeChar ++ '"' :: rest) = some (cs.map Char.toNat, rest) := by
  induction cs with
  | nil => rfl
  | cons c cs ih =>
    rw [List.flatMap_cons, List.append_assoc, readUnits_escapeChar, ih]
    rfl

/-- No character is one half of a surrogate pair. -/
theorem not_surrogate (c : Char) :
    isHighSurrogate c.toNat = false ∧ isLowSurrogate c.toNat = false := by
  have hvalid : c.toNat < 0xD800 ∨ 0xDFFF < c.toNat ∧ c.toNat < 0x110000 := c.valid
  simp only [isHighSurrogate, isLowSurrogate, Bool.and_eq_false_iff, decide_eq_false_iff_not]
  omega

theorem joinUnits_map_toNat (cs : List Char) : joinUnits (cs.map Char.toNat) = some cs := by
  induction cs with
  | nil => rfl
  | cons c cs ih =>
    obtain ⟨hhigh, hlow⟩ := not_surrogate c
    cases cs with
    | nil => simp [joinUnits, hhigh, hlow]
    | cons d cs =>
      rw [List.map_cons] at ih ⊢
      simp [joinUnits, hhigh, hlow, ih]

/-! ## Integers -/

/-- What may follow a value: the end, or a sign that belongs to no value. -/
def Ends (cs : List Char) : Prop :=
  ∀ c, cs.head? = some c → isBlank c ∨ c = ',' ∨ c = ']' ∨ c = '}'

theorem readRun_append {ds rest : List Char} (hds : ∀ d ∈ ds, d.isDigit) (hne : ds ≠ [])
    (hrest : Ends rest) : readRun (ds ++ rest) = some (ds, rest) := by
  have hstop : rest.takeWhile Char.isDigit = [] ∧ rest.dropWhile Char.isDigit = rest := by
    cases rest with
    | nil => exact ⟨rfl, rfl⟩
    | cons c rest =>
      have hc : c.isDigit = false := by
        rcases hrest c rfl with hblank | rfl | rfl | rfl
        · simp only [isBlank, Bool.or_eq_true, beq_iff_eq] at hblank
          rcases hblank with ((rfl | rfl) | rfl) | rfl <;> rfl
        all_goals rfl
      simp [hc]
  unfold readRun
  rw [List.takeWhile_append_of_pos hds, List.dropWhile_append_of_pos hds, hstop.1, hstop.2,
    List.append_nil]
  simp [hne]

theorem readFractionPart_ends {rest : List Char} (h : Ends rest) :
    readFractionPart rest = some ([], rest) := by
  unfold readFractionPart
  split
  · have := h '.' rfl
    simp [isBlank] at this
  · rfl

theorem readExponentPart_ends {rest : List Char} (h : Ends rest) :
    readExponentPart rest = some ([], rest) := by
  unfold readExponentPart
  split
  · next c cs =>
    have hc := h c rfl
    rw [if_neg]
    rintro (rfl | rfl) <;> simp [isBlank] at hc
  · rfl

/-- Only zero is written with a leading zero. -/
theorem eq_zero_of_head?_toDigits {n : Nat} (h : (Nat.toDigits 10 n).head? = some '0') :
    n = 0 := by
  induction n using Nat.strongRecOn with
  | ind n ih =>
    rw [Nat.toDigits_eq_if (by decide)] at h
    split at h
    · exact Nat.digitChar_eq_zero.mp (Option.some.inj h)
    · next hge =>
      rw [List.head?_append_of_ne_nil _ Nat.toDigits_ne_nil] at h
      have hquotient := ih (n / 10) (by omega) h
      omega

/-- The digits of a number are read back with the sign that they are read under. -/
theorem readNumber_toDigits (negative : Bool) {n : Nat} (h : negative = true → n ≠ 0)
    {rest : List Char} (hrest : Ends rest) :
    readNumber negative (Nat.toDigits 10 n ++ rest)
      = some (.int (if negative then -n else n), rest) := by
  have hdigits : ∀ d ∈ Nat.toDigits 10 n, d.isDigit := fun d hd =>
    Nat.isDigit_of_mem_toDigits (by decide) (by decide) hd
  have hleading : ((Nat.toDigits 10 n).head? != some '0' || (Nat.toDigits 10 n).length == 1)
      = true := by
    by_cases hn : n = 0
    · rw [hn]
      rfl
    · have hhead : (Nat.toDigits 10 n).head? ≠ some '0' := fun h => hn (eq_zero_of_head?_toDigits h)
      simp [hhead]
  have hplain : (negative && Nat.toDigits 10 n == ['0']) = false := by
    cases negative with
    | false => rfl
    | true =>
      have hzero : Nat.toDigits 10 n ≠ ['0'] := fun hds =>
        h rfl (eq_zero_of_head?_toDigits (by rw [hds]; rfl))
      simp [hzero]
  have hvalue : digitsValue (Nat.toDigits 10 n) = n := by
    rw [digitsValue, ← Nat.ofDigitChars_eq_foldl]
    exact Nat.ofDigitChars_ten_toDigits
  have hguard : (guard ((Nat.toDigits 10 n).head? != some '0' ||
      (Nat.toDigits 10 n).length == 1) : Option Unit) = some () := if_pos hleading
  unfold readNumber
  rw [readRun_append hdigits Nat.toDigits_ne_nil hrest, Option.bind_eq_bind, Option.bind_some]
  dsimp only
  rw [hguard, Option.bind_eq_bind, Option.bind_some]
  simp only [readFractionPart_ends hrest, readExponentPart_ends hrest, hplain, hvalue,
    Option.bind_some, List.isEmpty_nil]
  rfl

theorem toList_toString_nat (n : Nat) : (toString (n : Int)).toList = Nat.toDigits 10 n :=
  Nat.toList_repr

theorem toList_toString_negSucc (n : Nat) :
    (toString (Int.negSucc n)).toList = '-' :: Nat.toDigits 10 (n + 1) := by
  change ("-" ++ Nat.repr (n + 1)).toList = _
  rw [String.toList_append, Nat.toList_repr]
  rfl

end LayeredConfig.Json
