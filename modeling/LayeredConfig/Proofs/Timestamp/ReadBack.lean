import LayeredConfig.Request.Json
import LayeredConfig.Timestamp
import Mathlib.Data.List.DropRight
import Mathlib.Tactic.Ring

/-!
# Timestamps read back

Every timestamp is read from what is written of it, to the nanosecond and with its offset.
-/
namespace LayeredConfig.Timestamp

/-! ## Digits -/

theorem digitChar_value {d : Nat} (hd : d < 10) : (Nat.digitChar d).toNat - '0'.toNat = d := by
  rw [Nat.toNat_digitChar_of_lt_ten hd]
  exact Nat.add_sub_cancel_left ..

theorem isDigit_of_mem_paddedDigits {width n : Nat} {c : Char} (h : c ∈ paddedDigits width n) :
    c.isDigit := by
  induction width generalizing n with
  | zero => cases h
  | succ width ih =>
    rcases List.mem_append.mp h with h | h
    · exact ih h
    · rw [List.mem_singleton.mp h, Nat.isDigit_digitChar]
      exact decide_eq_true (Nat.mod_lt n (by decide))

theorem length_paddedDigits (width n : Nat) : (paddedDigits width n).length = width := by
  induction width generalizing n with
  | zero => rfl
  | succ width ih =>
    rw [paddedDigits, List.length_append, ih]
    rfl

theorem readDigits_add (width more n : Nat) (cs : List Char) :
    readDigits (width + more) n cs
      = (readDigits width n cs).bind fun (n, cs) => readDigits more n cs := by
  induction width generalizing n cs with
  | zero =>
    rw [Nat.zero_add]
    rfl
  | succ width ih =>
    rw [Nat.add_right_comm]
    cases cs with
    | nil => rfl
    | cons c cs =>
      rw [readDigits, readDigits]
      split
      · exact ih ..
      · rfl

/-- The digits of a number are read onto the number that was read before. -/
theorem readDigits_paddedDigits (width : Nat) {m : Nat} (hm : m < 10 ^ width) (n : Nat)
    (cs : List Char) :
    readDigits width n (paddedDigits width m ++ cs) = some (10 ^ width * n + m, cs) := by
  induction width generalizing m cs with
  | zero =>
    obtain rfl : m = 0 := by omega
    simp [paddedDigits, readDigits]
  | succ width ih =>
    rw [Nat.pow_succ] at hm
    -- The last digit is read onto what those before it come to.
    have hlast : m % 10 < 10 := Nat.mod_lt m (by decide)
    have hdigit : (Nat.digitChar (m % 10)).isDigit := by
      rw [Nat.isDigit_digitChar]
      exact decide_eq_true hlast
    have hvalue : 10 * (10 ^ width * n + m / 10) + m % 10 = 10 ^ (width + 1) * n + m := by
      calc 10 * (10 ^ width * n + m / 10) + m % 10
          = 10 ^ (width + 1) * n + (10 * (m / 10) + m % 10) := by ring
        _ = 10 ^ (width + 1) * n + m := by rw [Nat.div_add_mod]
    rw [readDigits_add, paddedDigits, List.append_assoc, ih (by omega), Option.bind_some]
    simp only [List.singleton_append, readDigits, hdigit, if_true, digitChar_value hlast, hvalue]

/-! ## Fractions -/

theorem fractionValue_append (ds es : List Char) (place : Nat) :
    fractionValue (ds ++ es) place
      = fractionValue ds place + fractionValue es (place / 10 ^ ds.length) := by
  induction ds generalizing place with
  | nil => simp [fractionValue]
  | cons d ds ih =>
    rw [List.cons_append, fractionValue, ih, fractionValue, Nat.add_assoc, Nat.div_div_eq_div_mul,
      List.length_cons, Nat.pow_succ, Nat.mul_comm 10]

theorem fractionValue_zeros {ds : List Char} (h : ∀ d ∈ ds, d = '0') (place : Nat) :
    fractionValue ds place = 0 := by
  induction ds generalizing place with
  | nil => rfl
  | cons d ds ih =>
    rw [fractionValue, ih fun e he => h e (List.mem_cons_of_mem d he), h d List.mem_cons_self]
    simp

/-- The first digit counts ten to the power of those behind it, of which more may follow. -/
theorem fractionValue_paddedDigits (width : Nat) {m : Nat} (hm : m < 10 ^ width) (more : Nat) :
    fractionValue (paddedDigits width m) (10 ^ (width + more) / 10) = m * 10 ^ more := by
  induction width generalizing m more with
  | zero =>
    obtain rfl : m = 0 := by omega
    simp [paddedDigits, fractionValue]
  | succ width ih =>
    have hplace : 10 ^ (width + 1 + more) / 10 / 10 ^ width = 10 ^ more := by
      rw [show 10 ^ (width + 1 + more) = 10 ^ more * (10 * 10 ^ width) by ring,
        Nat.div_div_eq_div_mul]
      exact Nat.mul_div_cancel _ (Nat.mul_pos (by decide) (Nat.pow_pos (by decide)))
    -- For the digits before the last one, one more follows.
    have hfront := ih (m := m / 10) (by rw [Nat.pow_succ] at hm; omega) (more + 1)
    rw [paddedDigits, fractionValue_append, length_paddedDigits, hplace,
      show width + 1 + more = width + (more + 1) by omega, hfront]
    simp only [fractionValue, digitChar_value (Nat.mod_lt m (by decide : 0 < 10))]
    calc m / 10 * 10 ^ (more + 1) + (m % 10 * 10 ^ more + 0)
        = (10 * (m / 10) + m % 10) * 10 ^ more := by ring
      _ = m * 10 ^ more := by rw [Nat.div_add_mod]

/-- The zeros at the end of a fraction are not written, and count nothing. -/
theorem fractionValue_rdropWhile (ds : List Char) (place : Nat) :
    fractionValue (ds.rdropWhile (· == '0')) place = fractionValue ds place := by
  have hzeros : ∀ d ∈ ds.rtakeWhile (· == '0'), d = '0' := fun d hd =>
    beq_iff_eq.mp (List.mem_rtakeWhile_imp (p := (· == '0')) hd)
  conv_rhs => rw [← List.rdropWhile_append_rtakeWhile (p := (· == '0')) (l := ds)]
  rw [fractionValue_append, fractionValue_zeros hzeros, Nat.add_zero]

/-- A fraction is read up to the first sign that is no digit. -/
theorem readFraction_writeFraction {ns : Nat} (hns : ns < 1000000000) {c : Char} (cs : List Char)
    (hdigit : c.isDigit = false) (hdot : c ≠ '.') :
    readFraction (writeFraction ns ++ c :: cs) = some (ns, c :: cs) := by
  unfold writeFraction
  split
  · next hzero =>
    rw [hzero, List.nil_append, readFraction]
    exact fun _ h => hdot (List.cons.inj h).1
  · next hzero =>
    change readFraction ('.' :: ((paddedDigits 9 ns).rdropWhile (· == '0') ++ c :: cs)) = _
    have hvalue : fractionValue ((paddedDigits 9 ns).rdropWhile (· == '0')) 100000000 = ns := by
      rw [fractionValue_rdropWhile]
      exact (fractionValue_paddedDigits 9 hns 0).trans (Nat.mul_one ns)
    have hdigits : ∀ d ∈ (paddedDigits 9 ns).rdropWhile (· == '0'), d.isDigit := fun d hd =>
      isDigit_of_mem_paddedDigits ((List.rdropWhile_prefix _ _).subset hd)
    generalize (paddedDigits 9 ns).rdropWhile (· == '0') = ds at hvalue hdigits
    have hne : ds ≠ [] := by
      rintro rfl
      exact hzero hvalue.symm
    unfold readFraction
    simp [List.takeWhile_append_of_pos hdigits, List.dropWhile_append_of_pos hdigits, hdigit,
      hvalue, hne]

/-! ## Offsets -/

theorem readChar_self (c : Char) (cs : List Char) : readChar c (c :: cs) = some cs :=
  if_pos rfl

theorem readOffset_writeOffset {offset : Int} (h : offset.natAbs < 24 * 60) :
    readOffset (writeOffset offset) = some offset := by
  unfold writeOffset
  split
  · next hzero =>
    rw [hzero]
    rfl
  · next hzero =>
    have hhours := readDigits_paddedDigits 2 (show offset.natAbs / 60 < 10 ^ 2 by omega) 0
    have hminutes := readDigits_paddedDigits 2 (show offset.natAbs % 60 < 10 ^ 2 by omega) 0 []
    simp only [Nat.mul_zero, Nat.zero_add, List.append_nil] at hhours hminutes
    have hsum : ((offset.natAbs / 60 : Nat) * 60 + (offset.natAbs % 60 : Nat) : Int)
        = offset.natAbs := by omega
    have hrange : ([] : List Char).isEmpty ∧ offset.natAbs / 60 ≤ 23 ∧ offset.natAbs % 60 ≤ 59 :=
      ⟨rfl, by omega, by omega⟩
    rw [readOffset]
    · simp only [hhours, readChar_self, hminutes, Option.bind_eq_bind, Option.bind_some, hsum,
        if_pos hrange]
      split
      · next hnegative =>
        rw [if_pos (.inr rfl), if_pos rfl]
        exact congrArg some (by omega)
      · next hnegative =>
        rw [if_pos (.inl rfl), if_neg (by decide)]
        exact congrArg some (by omega)
    · simp

/-! ## Moments -/

theorem make?_self (t : Timestamp) :
    make? t.year t.month t.day t.hour t.minute t.second t.nanosecond t.offset = some t :=
  dif_pos ⟨t.year_lt, t.month_range, t.day_range, t.time_lt, t.nanosecond_lt, t.offset_lt⟩

theorem exists_cons_writeOffset (offset : Int) :
    ∃ c cs, writeOffset offset = c :: cs ∧ c.isDigit = false ∧ c ≠ '.' := by
  unfold writeOffset
  split
  · exact ⟨_, _, rfl, rfl, by decide⟩
  · refine ⟨_, _, rfl, ?_⟩
    split <;> decide

theorem daysInMonth_le (year month : Nat) : daysInMonth year month ≤ 31 := by
  unfold daysInMonth
  split
  · split <;> decide
  all_goals decide

theorem read?_write (t : Timestamp) : read? t.write = some t := by
  obtain ⟨hhour, hminute, hsecond⟩ := t.time_lt
  have hyear := t.year_lt
  have hmonth := t.month_range
  have hday := Nat.le_trans t.day_range.2 (daysInMonth_le t.year t.month)
  have hoffset := readOffset_writeOffset t.offset_lt
  obtain ⟨c, cs, hcons, hdigit, hdot⟩ := exists_cons_writeOffset t.offset
  have hfraction := readFraction_writeFraction t.nanosecond_lt cs hdigit hdot
  have hseparator (cs : List Char) : readSeparator ('T' :: cs) = some cs := rfl
  rw [← hcons] at hfraction
  unfold write read?
  simp only [List.append_assoc, List.cons_append,
    readDigits_paddedDigits 4 hyear,
    readDigits_paddedDigits 2 (show t.month < 10 ^ 2 by omega),
    readDigits_paddedDigits 2 (show t.day < 10 ^ 2 by omega),
    readDigits_paddedDigits 2 (show t.hour < 10 ^ 2 by omega),
    readDigits_paddedDigits 2 (show t.minute < 10 ^ 2 by omega),
    readDigits_paddedDigits 2 (show t.second < 10 ^ 2 by omega),
    readChar_self, hseparator, hfraction, hoffset, Nat.mul_zero, Nat.zero_add,
    Option.bind_eq_bind, Option.bind_some]
  rw [makeWithLeapSecond?, if_neg (by omega)]
  exact make?_self t

theorem ofString?_toString (t : Timestamp) : ofString? t.toString = some t := by
  rw [ofString?, toString, String.toList_ofList, read?_write]

theorem ofJson?_str (t : Timestamp) : ofJson? (.str t.toString) = some t := by
  simp only [ofJson?, Json.text?, Option.bind_eq_bind, Option.bind_some, ofString?_toString]

end LayeredConfig.Timestamp
