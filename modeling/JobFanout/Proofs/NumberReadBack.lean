import Mathlib.Data.List.TakeWhile
import JobFanout.Proofs.StampReadBack
import JobFanout.Proofs.StringReadBack
/-!
Numbers read back. A whole number that 64 bits hold is read as it was written. A number that is read
from its characters alone is read from them before others, too, as long as a number cannot go on with
those.
-/
namespace JobFanout.Reader
variable {α β : Type}

/-! Whole numbers. -/

theorem le_ofDigitChars (digits : List Char) (start : Nat) :
    start ≤ Nat.ofDigitChars 10 digits start := by
  induction digits generalizing start with
  | nil => simp
  | cons digit rest ih =>
    rw [Nat.ofDigitChars_cons]
    have := ih (10 * start + (digit.toNat - '0'.toNat))
    omega

theorem gather_of_lt {digits : List Char} {start : Nat}
    (fits : Nat.ofDigitChars 10 digits start < significandLimit) :
    gather start digits = (Nat.ofDigitChars 10 digits start, digits.length, 0) := by
  induction digits generalizing start with
  | nil => simp [gather]
  | cons digit rest ih =>
    rw [Nat.ofDigitChars_cons] at fits ⊢
    have same : start * 10 + digitValue digit = 10 * start + (digit.toNat - '0'.toNat) := by
      rw [digitValue, Nat.mul_comm]
    have next := Nat.lt_of_le_of_lt (le_ofDigitChars rest _) fits
    simp only [gather, same, if_pos next, ih fits, List.length_cons]

theorem isDigit_of_mem_toDigits {n : Nat} {c : Char} (shown : c ∈ Nat.toDigits 10 n) :
    c.isDigit = true :=
  Nat.isDigit_of_mem_toDigits (by decide) (by decide) shown

theorem head?_toDigits {n : Nat} (positive : 0 < n) : (Nat.toDigits 10 n).head? ≠ some '0' := by
  have single : ∀ digit < 10, 0 < digit → (Nat.toDigits 10 digit).head? ≠ some '0' := by decide
  induction n using Nat.strongRecOn with
  | _ n ih =>
    by_cases small : n < 10
    · exact single n small positive
    · have leading := ih (n / 10) (by omega) (by omega)
      rw [Nat.toDigits_of_base_le (by decide) (by omega)]
      obtain ⟨c, others, shown⟩ := List.exists_cons_of_ne_nil (@Nat.toDigits_ne_nil (n / 10) 10)
      rw [shown] at leading ⊢
      exact leading

theorem run_wholeDigits (n : Nat) :
    (wholeDigits false).run (Nat.toDigits 10 n) = .ok (Nat.toDigits 10 n, []) := by
  have all : ∀ c ∈ Nat.toDigits 10 n, c.isDigit = true := fun _ => isDigit_of_mem_toDigits
  by_cases positive : 0 < n
  · rw [wholeDigits, run_bind, run_peek]
    dsimp only
    split
    · next zero => exact absurd zero (head?_toDigits positive)
    · rw [run_bind, run_digits, List.takeWhile_eq_self_iff.mpr all,
        List.dropWhile_eq_nil_iff.mpr all]
      simp only [List.isEmpty_eq_false_iff.mpr Nat.toDigits_ne_nil, Bool.false_eq_true, if_false,
        run_pure]
  · obtain rfl : n = 0 := by omega
    rfl

theorem run_numberText (negative : Bool) (n : Nat) :
    (numberText false).run ((if negative then ['-'] else []) ++ Nat.toDigits 10 n) =
      .ok ({ negative, whole := Nat.toDigits 10 n, fraction := none, power := none }, []) := by
  have unsigned (negative : Bool) : (do
      let whole ← wholeDigits false
      let fraction ← fractionDigits false
      let power ← powerDigits false
      return { negative, whole, fraction, power } : Reader NumberText).run (Nat.toDigits 10 n) =
        .ok ({ negative, whole := Nat.toDigits 10 n, fraction := none, power := none }, []) := by
    rw [run_bind, run_wholeDigits]
    rfl
  cases negative with
  | true => exact unsigned true
  | false =>
    have noSign : (Nat.toDigits 10 n).head? ≠ some '-' := by
      intro minus
      cases isDigit_of_mem_toDigits (List.mem_of_head? minus)
    rw [numberText, run_bind, run_peek]
    simp only [Bool.false_eq_true, if_false, List.nil_append, noSign, decide_false]
    exact unsigned false

theorem value?_whole {negative : Bool} {n : Nat} (fits : n < significandLimit)
    (signed : negative = true → 0 < n ∧ n ≤ Nat.pow 2 63) :
    ({ negative, whole := Nat.toDigits 10 n, fraction := none, power := none } :
      NumberText).value? = some (.int (if negative then -n else n)) := by
  have read : Nat.ofDigitChars 10 (Nat.toDigits 10 n) 0 = n := Nat.ofDigitChars_ten_toDigits
  have gathered := @gather_of_lt (Nat.toDigits 10 n) 0 (by rw [read]; exact fits)
  rw [read] at gathered
  cases negative with
  | false => simp [NumberText.value?, gathered]
  | true =>
    obtain ⟨positive, least⟩ := signed rfl
    simp [NumberText.value?, gathered, positive, least]

theorem run_number_int {value : Int} (least : -value ≤ Nat.pow 2 63)
    (greatest : value < Nat.pow 2 64) :
    number.run (toString value).toList = .ok (.int value, []) := by
  have written : (toString value).toList =
      (if decide (value < 0) then ['-'] else []) ++ Nat.toDigits 10 value.natAbs := by
    cases value <;> simp [Int.toString_eq_repr, Int.repr, ← Nat.toList_repr]
  have fits : value.natAbs < significandLimit := by
    rw [Nat.pow_eq] at least greatest
    rw [significandLimit, Nat.pow_eq]
    omega
  have signed : decide (value < 0) = true → 0 < value.natAbs ∧ value.natAbs ≤ Nat.pow 2 63 := by
    rw [decide_eq_true_iff]
    omega
  have back : (if decide (value < 0) = true then -(value.natAbs : Int) else value.natAbs) =
      value := by
    by_cases negative : value < 0
    · rw [if_pos (decide_eq_true negative)]
      omega
    · rw [if_neg (by simpa using negative)]
      omega
  rw [number, run_bind, written, run_numberText]
  simp only [value?_whole fits signed, back, run_pure]

/-! Numbers before other characters. -/

def EndsNumber (rest : List Char) : Prop :=
  ∀ c ∈ rest.head?, c.isDigit = false ∧ c ≠ '.' ∧ c ≠ 'e' ∧ c ≠ 'E'

/-- What is read from the characters alone is read from them before others, too. -/
def Contained (reader : Reader α) (chars : List Char) : Prop :=
  ∀ value left rest, reader.run chars = .ok (value, left) → EndsNumber rest →
    reader.run (chars ++ rest) = .ok (value, left ++ rest)

namespace Contained

theorem pure (value : α) (chars : List Char) : Contained (Pure.pure value) chars := by
  intro _ _ rest read _
  cases read
  rfl

theorem of_fails {reader : Reader α} {chars : List Char}
    (fails : ∀ pair, reader.run chars ≠ .ok pair) : Contained reader chars :=
  fun _ _ _ read _ => absurd read (fails _)

theorem advance (c : Char) (chars : List Char) : Contained advance (c :: chars) := by
  intro _ _ rest read _
  cases read
  rfl

theorem bind {first : Reader α} {next : α → Reader β} {chars : List Char}
    (start : Contained first chars)
    (onward : ∀ value left, first.run chars = .ok (value, left) → Contained (next value) left) :
    Contained (first >>= next) chars := by
  intro final left rest read ends
  rw [run_bind] at read ⊢
  cases began : first.run chars with
  | error misread => simp [began] at read
  | ok pair =>
    obtain ⟨value, middle⟩ := pair
    simp only [began] at read
    rw [start value middle rest began ends]
    exact onward value middle began final left rest read ends

/-- A look ahead is safe if at the end a character of no number is as good as none. -/
theorem peek {next : Option Char → Reader α} {chars : List Char}
    (inside : Contained (next chars.head?) chars)
    (blind : ∀ c others value left, EndsNumber (c :: others) →
      (next none).run [] = .ok (value, left) → next (some c) = next none) :
    Contained (Reader.peek >>= next) chars := by
  intro final left rest read ends
  rw [run_bind, run_peek] at read ⊢
  cases chars with
  | cons c others => exact inside final left rest read ends
  | nil =>
    cases rest with
    | nil => exact inside final left [] read ends
    | cons c others =>
      change (next (some c)).run (c :: others) = _
      rw [blind c others final left ends read]
      exact inside final left (c :: others) read ends

theorem digits (chars : List Char) : Contained digits chars := by
  intro value left rest read ends
  cases read
  have others : rest.takeWhile Char.isDigit = [] ∧ rest.dropWhile Char.isDigit = rest := by
    cases rest with
    | nil => exact ⟨rfl, rfl⟩
    | cons c others => simp [(ends c rfl).1]
  have all (same : (chars.takeWhile Char.isDigit).length = chars.length) :
      chars = chars.takeWhile Char.isDigit :=
    ((List.takeWhile_prefix _).eq_of_length same).symm
  rw [run_digits, List.takeWhile_append, List.dropWhile_append, others.1, others.2]
  congr 2
  · split
    · next same => rw [List.append_nil, ← all same]
    · rfl
  · split
    · next none => rw [List.isEmpty_iff.mp none, List.nil_append]
    · rfl

theorem missingDigit_fails (chars : List Char) (pair : α × List Char) :
    (missingDigit false : Reader α).run chars ≠ .ok pair := by
  cases chars <;> exact nofun

theorem digitRun {next : List Char → Reader α} (onward : ∀ run left, Contained (next run) left)
    (chars : List Char) :
    Contained (do
      let run ← Reader.digits
      if run.isEmpty then missingDigit false
      next run) chars := by
  apply (digits _).bind
  rintro run left ⟨⟩
  split
  · exact (of_fails (missingDigit_fails _)).bind fun _ _ read =>
      absurd read (missingDigit_fails _ _)
  · exact onward _ _

theorem wholeDigits (chars : List Char) : Contained (wholeDigits false) chars := by
  unfold Reader.wholeDigits
  refine peek ?_ ?_
  · split
    · next zero =>
      obtain ⟨others, rfl⟩ := List.head?_eq_some_iff.mp zero
      apply (advance _ _).bind
      rintro _ _ ⟨⟩
      refine peek ?_ ?_
      · split
        · exact of_fails fun _ => nofun
        · exact pure _ _
      · intro c _ _ _ ends _
        simp [(ends c rfl).1]
    · exact digitRun (fun _ _ => pure _ _) _
  · intro c _ _ _ ends _
    split
    · next zero =>
      cases zero
      cases (ends _ rfl).1
    · rfl

theorem fractionDigits (chars : List Char) : Contained (fractionDigits false) chars := by
  unfold Reader.fractionDigits
  refine peek ?_ ?_
  · split
    · exact pure _ _
    · next point =>
      obtain ⟨others, rfl⟩ := List.head?_eq_some_iff.mp (Decidable.not_not.mp point)
      apply (advance _ _).bind
      rintro _ _ ⟨⟩
      exact digitRun (fun _ _ => pure _ _) _
  · intro c _ _ _ ends _
    simp [(ends c rfl).2.1]

theorem powerDigits (chars : List Char) : Contained (powerDigits false) chars := by
  unfold Reader.powerDigits
  refine peek ?_ ?_
  · split
    · exact pure _ _
    · next mark =>
      cases chars with
      | nil => simp at mark
      | cons c others =>
        apply (advance _ _).bind
        rintro _ _ ⟨⟩
        refine peek ?_ ?_
        · split
          · next sign =>
            cases others with
            | nil => simp at sign
            | cons c others =>
              apply (advance _ _).bind
              rintro _ _ ⟨⟩
              exact digitRun (fun _ _ => pure _ _) _
          · exact digitRun (fun _ _ => pure _ _) _
        · -- Without a digit behind the mark nothing is read at all.
          intro c _ value left _ read
          cases read
  · intro c _ _ _ ends _
    simp [(ends c rfl).2.2]

theorem numberText (chars : List Char) : Contained (numberText false) chars := by
  have unsigned (negative : Bool) (chars : List Char) : Contained (do
      let whole ← Reader.wholeDigits false
      let fraction ← Reader.fractionDigits false
      let power ← Reader.powerDigits false
      return ({ negative, whole, fraction, power } : NumberText)) chars :=
    (wholeDigits _).bind fun _ _ _ => (fractionDigits _).bind fun _ _ _ =>
      (powerDigits _).bind fun _ _ _ => pure _ _
  unfold Reader.numberText
  refine peek ?_ ?_
  · dsimp only
    split
    · next minus =>
      obtain ⟨others, rfl⟩ := List.head?_eq_some_iff.mp minus
      apply (advance _ _).bind
      rintro _ _ ⟨⟩
      exact unsigned _ _
    · exact unsigned _ _
  · intro c _ _ _ _ read
    cases read

theorem number (chars : List Char) : Contained number chars := by
  apply (numberText chars).bind
  intro text left _
  split
  · exact pure _ _
  · exact of_fails fun _ => nofun

end Contained

theorem run_number_before {chars rest : List Char} {json : Json}
    (reads : number.run chars = .ok (json, [])) (ends : EndsNumber rest) :
    number.run (chars ++ rest) = .ok (json, rest) := by
  simpa using Contained.number chars json [] rest reads ends

/-! How a number starts. -/

theorem wholeDigits_stuck {c : Char} (notDigit : ¬ c.isDigit = true) (others : List Char) :
    (wholeDigits false).run (c :: others) = .error ⟨.invalidNumber, others⟩ := by
  rw [wholeDigits, run_bind, run_peek]
  dsimp only
  split
  · next zero =>
    cases zero
    exact absurd rfl notDigit
  · rw [run_bind, run_digits, List.takeWhile_cons_of_neg notDigit,
      List.dropWhile_cons_of_neg notDigit]
    rfl

theorem number_starts {chars left : List Char} {json : Json}
    (reads : number.run chars = .ok (json, left)) :
    ∃ c others, chars = c :: others ∧ (c = '-' ∨ c.isDigit = true) := by
  cases chars with
  | nil => cases reads
  | cons c others =>
    refine ⟨c, others, rfl, ?_⟩
    by_contra neither
    obtain ⟨notMinus, notDigit⟩ := not_or.mp neither
    have unsigned : ¬ (c :: others).head? = some '-' := by simp [notMinus]
    simp only [number, numberText, run_bind, run_peek, if_neg unsigned,
      wholeDigits_stuck notDigit, reduceCtorEq] at reads

theorem ne_of_starts {c mark : Char} (starts : c = '-' ∨ c.isDigit = true) (notMinus : mark ≠ '-')
    (notDigit : mark.isDigit = false) : c ≠ mark := by
  rcases starts with rfl | digit
  · exact notMinus.symm
  · exact ne_of_isDigit digit notDigit

end JobFanout.Reader
