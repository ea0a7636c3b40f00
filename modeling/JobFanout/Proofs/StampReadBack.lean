import Mathlib.Algebra.Group.Nat.Defs
import JobFanout.Time.Stamp
/-!
A stamp that was written reads back as the moment it was written for, in every year and with any
fraction. Each part is read off the front of the text; a number ends where the next mark begins.
-/
namespace JobFanout

theorem isWideBlank_of_isDigit {c : Char} (digit : c.isDigit = true) : isWideBlank c = false := by
  have range : 48 ≤ c.toNat ∧ c.toNat ≤ 57 := Char.isDigit_iff_toNat.mp digit
  simp only [isWideBlank, Bool.or_eq_false_iff, Bool.and_eq_false_iff, decide_eq_false_iff_not]
  omega

theorem ne_of_isDigit {c mark : Char} (digit : c.isDigit = true) (marks : mark.isDigit = false) :
    c ≠ mark := by
  rintro rfl
  rw [digit] at marks
  cases marks

theorem decimalValue_eq_ofDigitChars (digits : List Char) :
    decimalValue digits = Nat.ofDigitChars 10 digits 0 := by
  rw [decimalValue, Nat.ofDigitChars_eq_foldl]
  simp only [digitValue, Nat.mul_comm]

theorem daysIn_le (year : Int) (month : Nat) : daysIn year month ≤ 31 := by
  unfold daysIn
  split <;> (try split) <;> decide

namespace Instant

/-! Numbers as they are written. -/

theorem toList_padded (width value : Nat) :
    (padded width value).toList =
      List.replicate (width - (Nat.toDigits 10 value).length) '0' ++ Nat.toDigits 10 value := by
  simp [padded, ← Nat.toList_repr, String.length_toList]

theorem isDigit_of_mem_padded {width value : Nat} {c : Char}
    (shown : c ∈ (padded width value).toList) : c.isDigit = true := by
  rw [toList_padded, List.mem_append] at shown
  rcases shown with zero | digit
  · rw [List.eq_of_mem_replicate zero]
    rfl
  · exact Nat.isDigit_of_mem_toDigits (by decide) (by decide) digit

theorem decimalValue_padded (width value : Nat) :
    decimalValue (padded width value).toList = value := by
  rw [decimalValue_eq_ofDigitChars, toList_padded, Nat.ofDigitChars_append,
    Nat.ofDigitChars_replicate_zero, Nat.mul_zero, Nat.ofDigitChars_ten_toDigits]

theorem length_padded {width value : Nat} (wide : 0 < width) (fits : value < 10 ^ width) :
    (padded width value).toList.length = width := by
  have short := (Nat.length_toDigits_le_iff (by decide) wide).mpr fits
  rw [toList_padded, List.length_append, List.length_replicate]
  omega

theorem exists_padded_eq_cons (width value : Nat) :
    ∃ digit rest, (padded width value).toList = digit :: rest ∧ digit.isDigit = true := by
  cases shown : (padded width value).toList with
  | nil =>
    rw [toList_padded, List.append_eq_nil_iff] at shown
    exact absurd shown.2 Nat.toDigits_ne_nil
  | cons digit rest => exact ⟨digit, rest, rfl, isDigit_of_mem_padded (shown ▸ List.mem_cons_self)⟩

/-! What each reader takes off the front. -/

namespace StampReader
variable {α β : Type}

theorem run_bind (first : StampReader α) (next : α → StampReader β) (text : List Char) :
    (first >>= next).run text =
      match first.run text with
      | .ok (value, rest) => (next value).run rest
      | .error fault => .error fault := by
  rw [StateT.run_bind]
  cases first.run text <;> rfl

theorem run_pure (value : α) (text : List Char) :
    (pure value : StampReader α).run text = .ok (value, text) := rfl

theorem run_get (text : List Char) : (get : StampReader (List Char)).run text = .ok (text, text) :=
  rfl

theorem run_set (left text : List Char) :
    (set left : StampReader Unit).run text = .ok ((), left) := rfl

theorem run_modify (change : List Char → List Char) (text : List Char) :
    (modify change : StampReader Unit).run text = .ok ((), change text) := rfl

theorem run_blanks {c : Char} (shown : isWideBlank c = false) (rest : List Char) :
    blanks.run (c :: rest) = .ok ((), c :: rest) := by
  rw [blanks, run_modify, skipWideBlanks, List.dropWhile_cons_of_neg (by simp [shown])]

theorem run_literal (c : Char) (rest : List Char) :
    (literal c).run (c :: rest) = .ok ((), rest) := by
  simp only [literal, run_bind, run_get, if_true, run_set]

theorem run_digits {width value : Nat} {most : Option Nat} {mark : Char}
    (within : ∀ bound ∈ most, (padded width value).toList.length ≤ bound)
    (ends : mark.isDigit = false) (rest : List Char) :
    (digits most).run ((padded width value).toList ++ mark :: rest) =
      .ok ((padded width value).toList, mark :: rest) := by
  have run : ((padded width value).toList ++ mark :: rest).takeWhile Char.isDigit =
      (padded width value).toList := by
    rw [List.takeWhile_append_of_pos fun c shown => isDigit_of_mem_padded shown,
      List.takeWhile_cons_of_neg (by simp [ends]), List.append_nil]
  obtain ⟨digit, others, written, _⟩ := exists_padded_eq_cons width value
  rw [written] at run within ⊢
  rw [List.cons_append] at run ⊢
  have dropped : (digit :: (others ++ mark :: rest)).drop (digit :: others).length =
      mark :: rest := by simp
  cases most with
  | none =>
    simp only [digits, run_bind, run_get, run, List.isEmpty_cons, dropped, run_set, run_pure,
      Bool.false_eq_true, if_false]
  | some bound =>
    have all : (digit :: others).take bound = digit :: others :=
      List.take_of_length_le (within bound rfl)
    simp only [digits, run_bind, run_get, run, all, List.isEmpty_cons, dropped, run_set, run_pure,
      Bool.false_eq_true, if_false]

theorem run_blanks_padded (width value : Nat) (rest : List Char) :
    blanks.run ((padded width value).toList ++ rest) =
      .ok ((), (padded width value).toList ++ rest) := by
  obtain ⟨digit, others, written, isDigit⟩ := exists_padded_eq_cons width value
  rw [written, List.cons_append, run_blanks (isWideBlank_of_isDigit isDigit)]

theorem run_field {least greatest value : Nat} {mark : Char} (atLeast : least ≤ value)
    (atMost : value ≤ greatest) (short : greatest < 10 ^ 2) (ends : mark.isDigit = false)
    (rest : List Char) :
    (field least greatest).run ((padded 2 value).toList ++ mark :: rest) =
      .ok (value, mark :: rest) := by
  have width : (padded 2 value).toList.length = 2 :=
    length_padded (by decide) (Nat.lt_of_le_of_lt atMost short)
  have read := @run_digits 2 value (some 2) mark (by simp [width]) ends rest
  simp only [field, run_bind, run_blanks_padded, read, decimalValue_padded]
  rw [if_pos ⟨atLeast, atMost⟩, run_pure]

theorem readable_of_inRange {value : Int} (range : earliestYear ≤ value ∧ value ≤ latestYear) :
    -greatestYearRead - 1 ≤ value ∧ value ≤ greatestYearRead := by
  simp only [earliestYear, latestYear, greatestYearRead] at *
  omega

theorem run_year_unsigned {value : Int} (fourDigits : 0 ≤ value ∧ value ≤ 9999)
    (rest : List Char) :
    year.run ((padded 4 value.toNat).toList ++ '-' :: rest) = .ok (value, '-' :: rest) := by
  have readable : -greatestYearRead - 1 ≤ value ∧ value ≤ greatestYearRead := by
    simp only [greatestYearRead]
    omega
  have width : (padded 4 value.toNat).toList.length = 4 := length_padded (by decide) (by omega)
  have read := @run_digits 4 value.toNat (some 4) '-' (by simp [width]) rfl rest
  have shown := decimalValue_padded 4 value.toNat
  simp only [year, run_bind, run_blanks_padded, run_get]
  -- The first digit is no sign.
  obtain ⟨digit, others, written, isDigit⟩ := exists_padded_eq_cons 4 value.toNat
  rw [written] at read shown ⊢
  split
  next same => exact absurd (List.cons.inj same).1 (ne_of_isDigit isDigit rfl)
  next same => exact absurd (List.cons.inj same).1 (ne_of_isDigit isDigit rfl)
  next =>
    simp only [run_bind, read, run_pure, shown, Int.toNat_of_nonneg fourDigits.1, readable,
      and_self, if_true]

theorem run_year {value : Int} (range : earliestYear ≤ value ∧ value ≤ latestYear)
    (rest : List Char) :
    year.run ((yearText value).toList ++ '-' :: rest) = .ok (value, '-' :: rest) := by
  unfold yearText
  split
  next fourDigits => exact run_year_unsigned fourDigits rest
  next =>
    have readable := readable_of_inRange range
    have read := @run_digits 4 value.natAbs none '-' (by simp) rfl rest
    have shown := decimalValue_padded 4 value.natAbs
    rw [String.toList_append, List.append_assoc]
    by_cases negative : value < 0
    · have same : -(value.natAbs : Int) = value := by omega
      have sign : "-".toList = ['-'] := rfl
      simp only [negative, if_true, sign, List.cons_append, List.nil_append, year, run_bind,
        run_blanks (c := '-') rfl, run_get, run_set, read, run_pure, shown, same, readable,
        and_self]
    · have same : (value.natAbs : Int) = value := by omega
      have sign : "+".toList = ['+'] := rfl
      simp only [negative, if_false, sign, List.cons_append, List.nil_append, year, run_bind,
        run_blanks (c := '+') rfl, run_get, run_set, read, run_pure, shown, same, readable,
        and_self, if_true]

/-- A group of digits stands for itself and as many zeros as are left out. -/
theorem run_fraction_group {width value : Nat} (wide : 0 < width) (most : width ≤ 9)
    (fits : value < 10 ^ width) :
    fraction.run (("." ++ padded width value).toList ++ ['Z']) =
      .ok (value * Nat.pow 10 (9 - width), ['Z']) := by
  have length := length_padded wide fits
  have read := @run_digits width value (some 9) 'Z' (by simpa [length] using most) rfl []
  have point : ".".toList = ['.'] := rfl
  have noDigit : ['Z'].dropWhile Char.isDigit = ['Z'] := rfl
  simp only [String.toList_append, point, List.cons_append, List.nil_append, fraction, run_bind,
    run_get, run_set, read, run_modify, noDigit, run_pure, decimalValue_padded, length]

theorem run_fraction {nanosecond : Nat} (below : nanosecond < 1000000000) :
    fraction.run ((fractionText nanosecond).toList ++ ['Z']) = .ok (nanosecond, ['Z']) := by
  unfold fractionText
  split
  next zero =>
    subst zero
    rfl
  next =>
    split
    next whole =>
      have worth : nanosecond / 1000000 * Nat.pow 10 (9 - 3) = nanosecond :=
        Nat.div_mul_cancel (Nat.dvd_of_mod_eq_zero whole)
      rw [run_fraction_group (by decide) (by decide) (by omega), worth]
    next =>
      split
      next whole =>
        have worth : nanosecond / 1000 * Nat.pow 10 (9 - 6) = nanosecond :=
          Nat.div_mul_cancel (Nat.dvd_of_mod_eq_zero whole)
        rw [run_fraction_group (by decide) (by decide) (by omega), worth]
      next =>
        have worth : nanosecond * Nat.pow 10 (9 - 9) = nanosecond := Nat.mul_one nanosecond
        rw [run_fraction_group (by decide) (by decide) below, worth]

theorem exists_fractionText_eq_cons (nanosecond : Nat) :
    ∃ mark rest, (fractionText nanosecond).toList ++ ['Z'] = mark :: rest ∧
      mark.isDigit = false := by
  unfold fractionText
  split
  next => exact ⟨'Z', [], rfl, rfl⟩
  next => split <;> (try split) <;> exact ⟨'.', _, by rw [String.toList_append]; rfl, rfl⟩

theorem run_separator (rest : List Char) : separator.run ('T' :: rest) = .ok ((), rest) := rfl

theorem run_offset : offset.run ['Z'] = .ok (0, []) := rfl

theorem run_finish : finish.run [] = .ok ((), []) := rfl

theorem moment_parts (date : Date) (time : ClockTime) :
    moment date.year date.month date.day time.hour time.minute time.second time.nanosecond 0 =
      .ok ⟨date, time⟩ := by
  have dated : Date.of? date.year date.month date.day = some date := by
    simp only [Date.of?, date.year_in_range, date.month_in_range, date.day_in_range, and_self,
      dite_true]
  have timed : ClockTime.of? time.hour time.minute time.second time.nanosecond = some time := by
    simp only [ClockTime.of?, time.hour_lt, time.minute_lt, time.second_le, time.nanosecond_lt,
      and_self, dite_true]
  rw [moment, dated, timed]
  rfl

end StampReader

open StampReader in
/-- A stamp reads back as the moment that it was written for. -/
theorem ofText_text (instant : Instant) : ofText instant.text = .ok instant := by
  obtain ⟨date, time⟩ := instant
  have year := run_year date.year_in_range
  have month := @run_field 1 12 date.month '-' date.month_in_range.1 date.month_in_range.2
    (by decide) rfl
  have day := @run_field 1 31 date.day 'T' date.day_in_range.1
    (Nat.le_trans date.day_in_range.2 (daysIn_le date.year date.month)) (by decide) rfl
  have hour := @run_field 0 23 time.hour ':' (Nat.zero_le _) (Nat.le_of_lt_succ time.hour_lt)
    (by decide) rfl
  have minute := @run_field 0 59 time.minute ':' (Nat.zero_le _) (Nat.le_of_lt_succ time.minute_lt)
    (by decide) rfl
  obtain ⟨mark, rest, next, ends⟩ := exists_fractionText_eq_cons time.nanosecond
  have second := @run_field 0 60 time.second mark (Nat.zero_le _) time.second_le (by decide) ends
    rest
  rw [← next] at second
  have dash : "-".toList = ['-'] := rfl
  have colon : ":".toList = [':'] := rfl
  have separator : "T".toList = ['T'] := rfl
  have zone : "Z".toList = ['Z'] := rfl
  have read : stamp.run (text ⟨date, time⟩).toList = .ok (⟨date, time⟩, []) := by
    simp only [text, stamp, String.toList_append, List.append_assoc, dash, colon, separator, zone,
      List.cons_append, List.nil_append, run_bind, year, month, day, hour, minute, second,
      run_blanks (c := '-') rfl, run_blanks (c := ':') rfl, run_blanks (c := 'Z') rfl, run_literal,
      run_separator, run_fraction time.nanosecond_lt, run_offset, run_finish, moment_parts]
    rfl
  rw [ofText, read]
  rfl

end Instant
end JobFanout
