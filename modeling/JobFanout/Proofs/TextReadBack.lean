import JobFanout.Proofs.KeyedEntries
import JobFanout.Proofs.NumberReadBack
/-!
Printed JSON read back. The text of a value is read as that value with the fields of every object in
the order of their keys, if its numbers survive their own text and its containers nest no deeper than
a text may. A decimal need not survive: a reader rounds twice.
-/
namespace JobFanout

namespace Json

mutual

/-- The value with the fields of every object put in the order of their keys. -/
def keyed : Json → Json
  | .array items => .array (keyedItems items)
  | .object fields => .object (Entries.putAll (keyedFields fields) [])
  | scalar => scalar

def keyedItems : List Json → List Json
  | [] => []
  | item :: rest => item.keyed :: keyedItems rest

def keyedFields : List (String × Json) → List (String × Json)
  | [] => []
  | (key, value) :: rest => (key, value.keyed) :: keyedFields rest

end

mutual

/-- Whole numbers are held by 64 bits, and decimals are what their text is read as. -/
def NumbersKept : Json → Prop
  | .int value => -value ≤ Nat.pow 2 63 ∧ value < Nat.pow 2 64
  | .float value => Reader.number.run value.text.toList = .ok (.float value, [])
  | .array items => ItemNumbersKept items
  | .object fields => FieldNumbersKept fields
  | _ => True

def ItemNumbersKept : List Json → Prop
  | [] => True
  | item :: rest => item.NumbersKept ∧ ItemNumbersKept rest

def FieldNumbersKept : List (String × Json) → Prop
  | [] => True
  | (_, value) :: rest => value.NumbersKept ∧ FieldNumbersKept rest

end

mutual

theorem keyed_of_wellFormed : (json : Json) → json.WellFormed → json.keyed = json
  | .null, _ | .bool _, _ | .int _, _ | .float _, _ | .string _, _ => rfl
  | .array items, wellFormed => by rw [keyed, keyedItems_of_wellFormed items wellFormed]
  | .object fields, wellFormed => by
    rw [keyed, keyedFields_of_wellFormed fields wellFormed.2, Entries.putAll_nil wellFormed.1]

theorem keyedItems_of_wellFormed : (items : List Json) → ItemsWellFormed items →
    keyedItems items = items
  | [], _ => rfl
  | item :: rest, wellFormed => by
    rw [keyedItems, keyed_of_wellFormed item wellFormed.1,
      keyedItems_of_wellFormed rest wellFormed.2]

theorem keyedFields_of_wellFormed : (fields : List (String × Json)) → FieldsWellFormed fields →
    keyedFields fields = fields
  | [], _ => rfl
  | (_, value) :: rest, wellFormed => by
    rw [keyedFields, keyed_of_wellFormed value wellFormed.1,
      keyedFields_of_wellFormed rest wellFormed.2]

end
end Json

namespace Reader

/-! Values that are no containers. -/

def ScalarText (json : Json) (text : List Char) : Prop :=
  ∃ c others, text = c :: others ∧ isBlank c = false ∧ (c ≠ ']' ∧ c ≠ '[' ∧ c ≠ '{') ∧
    ∀ rest, EndsNumber rest → (scalar c).run (text ++ rest) = .ok (json, rest)

namespace ScalarText

theorem of_ident {first : Char} {letters : List Char} {json : Json}
    (shown : isBlank first = false) (plain : first ≠ ']' ∧ first ≠ '[' ∧ first ≠ '{')
    (reads : scalar first = do advance; ident letters; return json) :
    ScalarText json (first :: letters) := by
  refine ⟨first, letters, rfl, shown, plain, fun rest _ => ?_⟩
  rw [reads]
  simp only [run_bind, run_advance, List.cons_append, List.tail_cons, run_ident, run_pure]

theorem null : ScalarText .null "null".toList :=
  @of_ident 'n' ['u', 'l', 'l'] .null rfl (by decide) rfl

theorem bool : (value : Bool) → ScalarText (.bool value) (Json.bool value).compact.toList
  | true => @of_ident 't' ['r', 'u', 'e'] (.bool true) rfl (by decide) rfl
  | false => @of_ident 'f' ['a', 'l', 's', 'e'] (.bool false) rfl (by decide) rfl

theorem string (text : String) : ScalarText (.string text) (Json.quote text).toList := by
  obtain ⟨body, written, reads⟩ := exists_stringBody text
  refine ⟨'"', body, written, rfl, by decide, fun rest _ => ?_⟩
  have opens : scalar '"' = do advance; return .string (← stringBody false) := rfl
  rw [written, opens]
  simp only [run_bind, run_advance, List.cons_append, List.tail_cons, reads rest, run_pure]

theorem of_number {json : Json} {text : List Char} (reads : number.run text = .ok (json, [])) :
    ScalarText json text := by
  obtain ⟨c, others, rfl, starts⟩ := number_starts reads
  have other := fun mark => @ne_of_starts c mark starts
  have shown : isBlank c = false := by
    simp [isBlank, other ' ' (by decide) rfl, other '\n' (by decide) rfl,
      other '\t' (by decide) rfl, other '\r' (by decide) rfl]
  have plain : c ≠ ']' ∧ c ≠ '[' ∧ c ≠ '{' :=
    ⟨other _ (by decide) rfl, other _ (by decide) rfl, other _ (by decide) rfl⟩
  refine ⟨c, others, rfl, shown, plain, fun rest ends => ?_⟩
  have asNumber : scalar c = number := by
    simp only [scalar, other 'n' (by decide) rfl, other 't' (by decide) rfl,
      other 'f' (by decide) rfl, other '"' (by decide) rfl, starts, if_true, if_false]
  rw [asNumber]
  exact run_number_before reads ends

theorem run_value {json : Json} {text blanks rest : List Char} (scalar : ScalarText json text)
    (blank : Blank blanks) (ends : EndsNumber rest) (fuel levels : Nat) :
    (value (fuel + 1) levels).run (blanks ++ (text ++ rest)) = .ok (json, rest) := by
  obtain ⟨c, others, rfl, shown, ⟨_, noList, noObject⟩, reads⟩ := scalar
  rw [value, run_bind, List.cons_append, run_peekValue blank shown]
  simp only [if_neg (not_or.mpr ⟨noList, noObject⟩)]
  exact reads rest ends

end ScalarText

theorem exists_prettyAt (level : Nat) {json : Json} (kept : json.NumbersKept) :
    ∃ c others, (json.prettyAt level).toList = c :: others ∧ isBlank c = false ∧ c ≠ ']' := by
  have of_scalar {text : List Char} (scalar : ScalarText json text) :
      ∃ c others, text = c :: others ∧ isBlank c = false ∧ c ≠ ']' := by
    obtain ⟨c, others, written, shown, plain, _⟩ := scalar
    exact ⟨c, others, written, shown, plain.1⟩
  have of_block (opening : Char) (shown : isBlank opening = false) (inner : opening ≠ ']')
      (closing : String) (lines : List String) :
      ∃ c others, (Json.block opening.toString closing level lines).toList = c :: others ∧
        isBlank c = false ∧ c ≠ ']' := by
    refine ⟨opening, (Json.block "" closing level lines).toList, ?_, shown, inner⟩
    cases lines <;> simp [Json.block, Char.toString]
  cases json with
  | null => exact of_scalar .null
  | bool value => exact of_scalar (.bool value)
  | int value => exact of_scalar (.of_number (run_number_int kept.1 kept.2))
  | float value => exact of_scalar (.of_number kept)
  | string value => exact of_scalar (.string value)
  | array items => exact of_block '[' rfl (by decide) "]" _
  | object fields => exact of_block '{' rfl (by decide) "\x7d" _

/-! The lines of a container. -/

def lead : Bool → List Char
  | true => ['\n']
  | false => [',', '\n']

def linesFrom (first : Bool) : List String → List Char
  | [] => []
  | line :: rest => lead first ++ line.toList ++ linesFrom false rest

def closingBlanks (level : Nat) (lines : List String) : List Char :=
  if lines.isEmpty then [] else '\n' :: (Json.indent level).toList

theorem toList_intercalate (line : String) (rest : List String) :
    (",\n".intercalate (line :: rest)).toList = line.toList ++ linesFrom false rest := by
  induction rest generalizing line with
  | nil => simp [linesFrom]
  | cons next others ih =>
    have onward := ih next
    rw [String.intercalate_cons_cons, String.toList_append, String.toList_append, onward]
    simp [linesFrom, lead]

theorem toList_block (opening closing : String) (level : Nat) (lines : List String) :
    (Json.block opening closing level lines).toList =
      opening.toList ++ linesFrom true lines ++ closingBlanks level lines ++ closing.toList := by
  cases lines with
  | nil => simp [Json.block, linesFrom, closingBlanks]
  | cons line rest =>
    simp only [Json.block, List.isEmpty_cons, Bool.false_eq_true, if_false, String.toList_append,
      toList_intercalate, linesFrom, lead, closingBlanks, List.append_assoc, String.reduceToList,
      List.cons_append, List.nil_append]

theorem Blank.cons {c : Char} {chars : List Char} (shown : isBlank c = true)
    (blank : Blank chars) : Blank (c :: chars) :=
  List.forall_mem_cons.mpr ⟨shown, blank⟩

theorem blank_indent (level : Nat) : Blank (Json.indent level).toList := by
  intro c shown
  rw [Json.indent, String.toList_ofList] at shown
  rw [List.eq_of_mem_replicate shown]
  rfl

theorem blank_closing (level : Nat) (lines : List String) : Blank (closingBlanks level lines) := by
  unfold closingBlanks
  split
  · exact nofun
  · exact (blank_indent level).cons rfl

theorem endsNumber_cons {c : Char} (plain : c.isDigit = false ∧ c ≠ '.' ∧ c ≠ 'e' ∧ c ≠ 'E')
    (rest : List Char) : EndsNumber (c :: rest) := by
  rintro _ ⟨⟩
  exact plain

theorem endsNumber_of_blank {blanks rest : List Char} (blank : Blank blanks)
    (ends : EndsNumber rest) : EndsNumber (blanks ++ rest) := by
  cases blanks with
  | nil => exact ends
  | cons c others =>
    apply endsNumber_cons
    have shown : isBlank c = true := blank c List.mem_cons_self
    simp only [isBlank, Bool.or_eq_true, decide_eq_true_eq, or_assoc] at shown
    rcases shown with rfl | rfl | rfl | rfl <;> decide

theorem endsNumber_lines (lines : List String) {rest : List Char} (ends : EndsNumber rest) :
    EndsNumber (linesFrom false lines ++ rest) := by
  cases lines with
  | nil => exact ends
  | cons line others => exact endsNumber_cons (by decide) _

section Places

variable (first : Bool) {blanks : List Char} (blank : Blank blanks)

include blank

theorem run_nextItem_end (rest : List Char) :
    (nextItem first).run (blanks ++ ']' :: rest) = .ok (false, ']' :: rest) := by
  rw [nextItem, run_bind, run_peekValue blank rfl]
  rfl

theorem run_nextItem {c : Char} (shown : isBlank c = false) (inner : c ≠ ']') (rest : List Char) :
    (nextItem first).run (lead first ++ (blanks ++ c :: rest)) = .ok (true, c :: rest) := by
  have peeked := run_peekValue (blank.cons (c := '\n') rfl) shown rest
  rw [List.cons_append] at peeked
  cases first with
  | true =>
    simp only [lead, List.cons_append, List.nil_append, nextItem, run_bind, peeked, if_neg inner]
    rfl
  | false =>
    have comma := @run_peekValue [] nofun ',' rfl ('\n' :: (blanks ++ c :: rest))
    have other : ¬ some c = some ']' := by simpa using inner
    rw [List.nil_append] at comma
    simp only [lead, List.cons_append, List.nil_append, nextItem, run_bind, comma,
      Bool.false_eq_true, if_false]
    rw [if_neg (by decide), if_pos trivial]
    simp only [run_bind, run_advance, List.tail_cons, peeked, if_neg other, run_pure]

theorem run_nextKey_end (rest : List Char) :
    (nextKey first).run (blanks ++ '}' :: rest) = .ok (none, '}' :: rest) := by
  rw [nextKey, run_bind, run_peekValue blank rfl]
  rfl

theorem run_nextKey (key : String) (rest : List Char) :
    (nextKey first).run (lead first ++ (blanks ++ ((Json.quote key).toList ++ rest))) =
      .ok (some key, rest) := by
  obtain ⟨body, written, reads⟩ := exists_stringBody key
  have peeked := run_peekValue (blank.cons (c := '\n') rfl) (c := '"') rfl (body ++ rest)
  have named : (some <$> stringBody false).run (body ++ rest) = .ok (some key, rest) := by
    rw [map_eq_pure_bind, run_bind, reads]
    rfl
  rw [List.cons_append] at peeked
  rw [written]
  cases first with
  | true =>
    simp only [lead, List.cons_append, List.nil_append, nextKey, run_bind, peeked, if_true]
    rw [if_neg (by decide)]
    simp only [run_bind, run_advance, List.tail_cons, named]
  | false =>
    have comma := @run_peekValue [] nofun ',' rfl ('\n' :: (blanks ++ '"' :: (body ++ rest)))
    rw [List.nil_append] at comma
    simp only [lead, List.cons_append, List.nil_append, nextKey, run_bind, comma,
      Bool.false_eq_true, if_false]
    rw [if_neg (by decide), if_pos trivial]
    simp only [run_bind, run_advance, List.tail_cons, peeked, named]

end Places

theorem run_colon (rest : List Char) : colon.run (':' :: rest) = .ok ((), rest) := rfl

/-! Values. Each call of the reader that opens another one has taken a character by then, so twice
the characters that are left are fuel enough. -/

mutual

theorem run_value : (json : Json) → ∀ (level levels fuel : Nat) (blanks rest : List Char),
    json.NumbersKept → json.depth ≤ levels → Blank blanks → EndsNumber rest →
    2 * (blanks ++ ((json.prettyAt level).toList ++ rest)).length < fuel →
    (value fuel levels).run (blanks ++ ((json.prettyAt level).toList ++ rest)) =
      .ok (json.keyed, rest)
  | _, _, _, 0, _, _, _, _, _, _, enough => absurd enough (Nat.not_lt_zero _)
  | .null, _, levels, fuel + 1, _, _, _, _, blank, ends, _ =>
    ScalarText.null.run_value blank ends fuel levels
  | .bool value, _, levels, fuel + 1, _, _, _, _, blank, ends, _ =>
    (ScalarText.bool value).run_value blank ends fuel levels
  | .int _, _, levels, fuel + 1, _, _, kept, _, blank, ends, _ =>
    (ScalarText.of_number (run_number_int kept.1 kept.2)).run_value blank ends fuel levels
  | .float _, _, levels, fuel + 1, _, _, kept, _, blank, ends, _ =>
    (ScalarText.of_number kept).run_value blank ends fuel levels
  | .string value, _, levels, fuel + 1, _, _, _, _, blank, ends, _ =>
    (ScalarText.string value).run_value blank ends fuel levels
  | .array _, _, 0, _ + 1, _, _, _, deep, _, _, _ => absurd deep (Nat.not_succ_le_zero _)
  | .object _, _, 0, _ + 1, _, _, _, deep, _, _, _ => absurd deep (Nat.not_succ_le_zero _)
  | .array found, level, levels + 1, fuel + 1, blanks, rest, kept, deep, blank, ends, enough => by
    simp only [Json.prettyAt, toList_block, List.append_assoc, String.reduceToList,
      List.cons_append, List.nil_append, List.length_append, List.length_cons] at enough ⊢
    have inside := run_items found (level + 1) levels fuel true
      (closingBlanks level (Json.prettyItems (level + 1) found)) rest kept
      (Nat.le_of_succ_le_succ deep) (blank_closing _ _)
      (by simp only [List.length_append, List.length_cons]; omega)
    rw [value, run_bind, run_peekValue blank rfl]
    simp only [true_or, if_true, run_bind, run_advance, List.tail_cons, inside]
    rfl
  | .object found, level, levels + 1, fuel + 1, blanks, rest, kept, deep, blank, ends, enough => by
    simp only [Json.prettyAt, toList_block, List.append_assoc, String.reduceToList,
      List.cons_append, List.nil_append, List.length_append, List.length_cons] at enough ⊢
    have inside := run_fields found (level + 1) levels fuel true
      (closingBlanks level (Json.prettyFields (level + 1) found)) rest [] kept
      (Nat.le_of_succ_le_succ deep) (blank_closing _ _)
      (by simp only [List.length_append, List.length_cons]; omega)
    rw [value, run_bind, run_peekValue blank rfl]
    simp only [or_true, if_true, run_bind, run_advance, List.tail_cons]
    rw [if_neg (by decide)]
    simp only [run_bind, inside]
    rfl

theorem run_items : (found : List Json) → ∀ (level levels fuel : Nat) (first : Bool)
    (blanks rest : List Char), Json.ItemNumbersKept found → Json.itemsDepth found ≤ levels →
    Blank blanks →
    2 * (linesFrom first (Json.prettyItems level found) ++ (blanks ++ ']' :: rest)).length + 1
      < fuel →
    (items fuel levels first).run
        (linesFrom first (Json.prettyItems level found) ++ (blanks ++ ']' :: rest)) =
      .ok (Json.keyedItems found, ']' :: rest)
  | _, _, _, 0, _, _, _, _, _, _, enough => absurd enough (Nat.not_lt_zero _)
  | [], _, _, fuel + 1, first, blanks, rest, _, _, blank, _ => by
    simp only [Json.prettyItems, linesFrom, List.nil_append, items, run_bind,
      run_nextItem_end first blank, Bool.false_eq_true, if_false]
    rfl
  | item :: others, level, levels, fuel + 1, first, blanks, rest, kept, deep, blank, enough => by
    obtain ⟨keptItem, keptOthers⟩ := kept
    obtain ⟨c, text, written, shown, inner⟩ := exists_prettyAt level keptItem
    rw [Json.itemsDepth] at deep
    have ends := endsNumber_lines (Json.prettyItems level others)
      (endsNumber_of_blank blank (endsNumber_cons (c := ']') (by decide) rest))
    have more := run_nextItem first (blank_indent level) shown inner
      (text ++ (linesFrom false (Json.prettyItems level others) ++ (blanks ++ ']' :: rest)))
    simp only [Json.prettyItems, linesFrom, String.toList_append, List.append_assoc, written,
      List.cons_append, List.length_append, List.length_cons] at enough ⊢
    have head := run_value item level levels fuel [] _ keptItem (by omega) nofun ends
      (by simp only [written, List.length_append, List.length_cons, List.length_nil]; omega)
    have tail := run_items others level levels fuel false blanks rest keptOthers (by omega) blank
      (by simp only [List.length_append, List.length_cons]; omega)
    simp only [written, List.nil_append, List.cons_append] at head
    simp only [items, run_bind, more, if_true, head, tail]
    rfl

theorem run_fields : (found : List (String × Json)) → ∀ (level levels fuel : Nat) (first : Bool)
    (blanks rest : List Char) (earlier : Record), Json.FieldNumbersKept found →
    Json.fieldsDepth found ≤ levels → Blank blanks →
    2 * (linesFrom first (Json.prettyFields level found) ++ (blanks ++ '}' :: rest)).length + 1
      < fuel →
    (fields fuel levels first earlier).run
        (linesFrom first (Json.prettyFields level found) ++ (blanks ++ '}' :: rest)) =
      .ok (Entries.putAll (Json.keyedFields found) earlier, '}' :: rest)
  | _, _, _, 0, _, _, _, _, _, _, _, enough => absurd enough (Nat.not_lt_zero _)
  | [], _, _, fuel + 1, first, blanks, rest, _, _, _, blank, _ => by
    simp only [Json.prettyFields, linesFrom, List.nil_append, fields, run_bind,
      run_nextKey_end first blank]
    rfl
  | (key, content) :: others, level, levels, fuel + 1, first, blanks, rest, earlier, kept, deep,
      blank, enough => by
    obtain ⟨keptContent, keptOthers⟩ := kept
    rw [Json.fieldsDepth] at deep
    have ends := endsNumber_lines (Json.prettyFields level others)
      (endsNumber_of_blank blank (endsNumber_cons (c := '}') (by decide) rest))
    have named := run_nextKey first (blank_indent level) key
      (':' :: ' ' :: ((content.prettyAt level).toList ++
        (linesFrom false (Json.prettyFields level others) ++ (blanks ++ '}' :: rest))))
    simp only [Json.prettyFields, linesFrom, String.toList_append, List.append_assoc,
      String.reduceToList, List.cons_append, List.nil_append, List.length_append,
      List.length_cons] at enough ⊢
    have head := run_value content level levels fuel [' '] _ keptContent (by omega)
      (Blank.cons rfl nofun) ends
      (by simp only [List.length_append, List.length_cons, List.length_nil]; omega)
    have tail := run_fields others level levels fuel false blanks rest
      (Entries.put key content.keyed earlier) keptOthers (by omega) blank
      (by simp only [List.length_append, List.length_cons]; omega)
    simp only [List.cons_append, List.nil_append] at head
    simp only [fields, run_bind, named, run_colon, head, tail]
    rfl

end
end Reader

theorem Reader.run_anyValue (levels : Nat) (chars : List Char) :
    (anyValue levels).run chars = (value (fuelFor chars) levels).run chars := by
  have got : (get : Reader (List Char)).run chars = .ok (chars, chars) := rfl
  rw [anyValue, run_bind, got]

theorem Json.ofText_pretty {json : Json} (kept : json.NumbersKept)
    (deep : json.depth ≤ depthLimit) : Json.ofText json.pretty = .ok json.keyed := by
  have enough : 2 * ([] ++ ((json.prettyAt 0).toList ++ [])).length <
      Reader.fuelFor (json.prettyAt 0).toList := by
    rw [List.nil_append, List.append_nil, Reader.fuelFor]
    omega
  have whole := Reader.run_value json 0 depthLimit _ [] [] kept deep nofun nofun enough
  rw [List.nil_append, List.append_nil, ← Reader.run_anyValue] at whole
  rw [ofText, pretty, Reader.runOn]
  simp only [Reader.run_bind, whole]
  rfl

-- The decimals that are not kept: this one is read as a neighbour.
example : (Reader.number.run "2e-28".toList).toOption.map (fun read => read.1.compact) =
    some "2.0000000000000002e-28" := by decide +kernel

end JobFanout
