import JobFanout.Json.Printer
import JobFanout.Json.Reader
/-!
What a reader does to the characters before it, and strings: a quoted text is read back as it was,
whatever it holds and whatever stands behind it.
-/
namespace JobFanout.Reader
variable {α β : Type}

theorem run_bind (first : Reader α) (next : α → Reader β) (chars : List Char) :
    (first >>= next).run chars =
      match first.run chars with
      | .ok (value, rest) => (next value).run rest
      | .error misread => .error misread := by
  rw [StateT.run_bind]
  cases first.run chars <;> rfl

theorem run_pure (value : α) (chars : List Char) :
    (pure value : Reader α).run chars = .ok (value, chars) := rfl

theorem run_peek (chars : List Char) : peek.run chars = .ok (chars.head?, chars) := rfl

theorem run_advance (chars : List Char) : advance.run chars = .ok ((), chars.tail) := rfl

theorem run_digits (chars : List Char) :
    digits.run chars = .ok (chars.takeWhile Char.isDigit, chars.dropWhile Char.isDigit) := rfl

def Blank (chars : List Char) : Prop := ∀ c ∈ chars, isBlank c = true

theorem run_peekValue {blanks : List Char} (blank : Blank blanks) {c : Char}
    (shown : isBlank c = false) (rest : List Char) :
    peekValue.run (blanks ++ c :: rest) = .ok (some c, c :: rest) := by
  have dropped : (blanks ++ c :: rest).dropWhile isBlank = c :: rest := by
    rw [List.dropWhile_append_of_pos blank, List.dropWhile_cons_of_neg (by simp [shown])]
  change (Except.ok (((blanks ++ c :: rest).dropWhile isBlank).head?,
    (blanks ++ c :: rest).dropWhile isBlank) : Except Misread _) = _
  rw [dropped]
  rfl

theorem run_ident (letters rest : List Char) :
    (ident letters).run (letters ++ rest) = .ok ((), rest) := by
  induction letters with
  | nil => rfl
  | cons letter others ih =>
    simp only [ident, run_bind, run_peek, List.cons_append, List.head?_cons, if_true, run_advance,
      List.tail_cons, ih]

/-! Escapes. A control character without a letter of its own is written by its code. -/

theorem hexStart_of_four (high : Option Nat) (a b c d : Char) (rest : List Char) :
    hexStart high (a :: b :: c :: d :: rest) = .ok (.hex high 4 0) := by
  have enough : 4 ≤ a.utf8Size + b.utf8Size + c.utf8Size + d.utf8Size := by
    have := a.utf8Size_pos
    have := b.utf8Size_pos
    have := c.utf8Size_pos
    have := d.utf8Size_pos
    omega
  rw [hexStart, if_neg]
  simpa [utf8Length] using enough

section Escapes

variable {c : Char} (done rest : List Char)

theorem stringFrom_hex {digit left : Nat} (shown : hexValue? c = some digit) (more : 1 < left)
    (high : Option Nat) (value : Nat) :
    stringFrom false done (.hex high left value) (c :: rest) =
      stringFrom false done (.hex high (left - 1) (value * 16 + digit)) rest := by
  rw [stringFrom, shown]
  simp only [if_pos more]

theorem stringFrom_lastHex {digit value : Nat} (shown : hexValue? c = some digit)
    (control : value * 16 + digit < 32) :
    stringFrom false done (.hex none 1 value) (c :: rest) =
      stringFrom false (Char.ofNat (value * 16 + digit) :: done) .plain rest := by
  have notLow : isLowHalf (value * 16 + digit) = false := by
    simp [isLowHalf]
    omega
  have notHigh : isHighHalf (value * 16 + digit) = false := by
    simp [isHighHalf]
    omega
  rw [stringFrom, shown]
  simp [unitEnd, notLow, notHigh]

theorem hexValue?_digit : ∀ n < 16,
    hexValue? (if n < 10 then Char.ofNat (48 + n) else Char.ofNat (87 + n)) = some n := by
  decide

theorem stringFrom_controlCode (control : c.toNat < 32) :
    stringFrom false done .plain ((Json.controlCode c).toList ++ rest) =
      stringFrom false (c :: done) .plain rest := by
  have zero : hexValue? '0' = some 0 := by decide
  have high := hexValue?_digit (c.toNat / 16) (by omega)
  have low := hexValue?_digit (c.toNat % 16) (by omega)
  have unit : ((0 * 16 + 0) * 16 + c.toNat / 16) * 16 + c.toNat % 16 = c.toNat := by omega
  have begun (first second third fourth : Char) :
      stringFrom false done .plain ('\\' :: 'u' :: first :: second :: third :: fourth :: rest) =
        stringFrom false done (.hex none 4 0) (first :: second :: third :: fourth :: rest) := by
    rw [stringFrom, if_neg (by decide), if_pos rfl, stringFrom, if_pos rfl, hexStart_of_four]
  rw [Json.controlCode]
  simp only [String.toList_append, String.reduceToList, String.toList_ofList, List.cons_append,
    List.nil_append]
  rw [begun, stringFrom_hex _ _ zero (by decide), stringFrom_hex _ _ zero (by decide),
    stringFrom_hex _ _ high (by decide), stringFrom_lastHex _ _ low (by omega), unit,
    Char.ofNat_toNat]

theorem stringFrom_letter {letter : Char} (means : escapeLetter? letter = some c)
    (noCode : letter ≠ 'u') :
    stringFrom false done .plain ('\\' :: letter :: rest) =
      stringFrom false (c :: done) .plain rest := by
  rw [stringFrom, if_neg (by decide), if_pos rfl, stringFrom, if_neg noCode, means]

theorem stringFrom_escapeChar (c : Char) :
    stringFrom false done .plain ((Json.escapeChar c).toList ++ rest) =
      stringFrom false (c :: done) .plain rest := by
  have known {code : Nat} (same : c.toNat = code) : c = Char.ofNat code := by
    rw [← same, Char.ofNat_toNat]
  unfold Json.escapeChar
  split
  · next quote => exact stringFrom_letter done rest (by rw [quote]; rfl) (by decide)
  split
  · next backslash => exact stringFrom_letter done rest (by rw [backslash]; rfl) (by decide)
  split
  · next lineFeed => exact stringFrom_letter done rest (by rw [lineFeed]; rfl) (by decide)
  split
  · next tab => exact stringFrom_letter done rest (by rw [tab]; rfl) (by decide)
  split
  · next carriageReturn =>
    exact stringFrom_letter done rest (by rw [carriageReturn]; rfl) (by decide)
  split
  · next backspace => exact stringFrom_letter done rest (by rw [known backspace]; rfl) (by decide)
  split
  · next formFeed => exact stringFrom_letter done rest (by rw [known formFeed]; rfl) (by decide)
  split
  · next control => exact stringFrom_controlCode done rest control
  · next quote backslash _ _ _ _ _ shown =>
    rw [Char.toString, String.toList_singleton, List.singleton_append, stringFrom, if_neg quote,
      if_neg backslash, if_neg shown]

theorem stringFrom_escaped (text : List Char) :
    stringFrom false done .plain
        (text.flatMap (fun c => (Json.escapeChar c).toList) ++ '"' :: rest) =
      .ok (String.ofList (done.reverse ++ text), rest) := by
  induction text generalizing done with
  | nil => simp [stringFrom]
  | cons c others ih =>
    rw [List.flatMap_cons, List.append_assoc, stringFrom_escapeChar, ih, List.reverse_cons,
      List.append_assoc, List.singleton_append]

end Escapes

theorem exists_stringBody (text : String) :
    ∃ body, (Json.quote text).toList = '"' :: body ∧
      ∀ rest, (stringBody false).run (body ++ rest) = .ok (text, rest) := by
  have written : (Json.quote text).toList =
      '"' :: (text.toList.flatMap (fun c => (Json.escapeChar c).toList) ++ ['"']) := by
    simp [Json.quote, String.toList_join, List.flatMap_map]
  refine ⟨_, written, fun rest => ?_⟩
  rw [List.append_assoc, List.singleton_append]
  change stringFrom false [] .plain _ = _
  rw [stringFrom_escaped]
  simp

end JobFanout.Reader
