import JobFanout.Json.Shape
import JobFanout.Proofs.KeyedEntries
/-!
What is read from an object of which it is known what stands under a name: fields that are always
written, and fields that are written only if they have a value. And the other way round: what must
stand there for the field to be read.
-/
namespace JobFanout

namespace Entries

theorem valueAt?_optionalField {α : Type} (key name : String) (write : α → Json)
    (given : Option α) :
    valueAt? key (Json.optionalField name write given) =
      if name = key then given.map write else none := by
  cases given <;> simp [Json.optionalField, valueAt?]

end Entries

namespace Json
variable {α β : Type}

theorem ok_bind {ε : Type} (value : α) (next : α → Except ε β) :
    ((.ok value : Except ε α) >>= next) = next value := rfl

theorem required_some (name : String) (value : α) : required name (some value) = .ok value := rfl

theorem readField_written {fields : Record} {name : String} {read : Json → Except Misfit β}
    {write : α → Json} {given : Option α} {back : α → β}
    (written : Entries.valueAt? name fields = given.map write)
    (reads : ∀ value, read (write value) = .ok (back value)) :
    readField fields name read = .ok (given.map back) := by
  cases given with
  | none => simp only [readField, written, Option.map_none]
  | some value =>
    simp only [readField, written, Option.map_some, reads]
    rfl

theorem readEntries_written {read : Json → Except Misfit β} {write : α → Json} {back : α → β}
    {entries : Entries α} (reads : ∀ entry ∈ entries, read (write entry.2) = .ok (back entry.2)) :
    readEntries read (entries.map fun entry => (entry.1, write entry.2)) =
      .ok (entries.map fun entry => (entry.1, back entry.2)) := by
  induction entries with
  | nil => rfl
  | cons entry rest ih =>
    obtain ⟨first, others⟩ := List.forall_mem_cons.mp reads
    rw [List.map_cons, readEntries, first, ih others]
    rfl

theorem readMapOf_texts (texts : Entries String) :
    readMapOf readText (.object (texts.map fun entry => (entry.1, .string entry.2))) =
      .ok texts := by
  have each : ∀ entry ∈ texts, readText (.string entry.2) = .ok (id entry.2) := fun _ _ => rfl
  rw [readMapOf, readMap, ok_bind, readEntries_written each]
  simp

theorem readField_present {fields : Record} {name : String} {read : Json → Except Misfit α}
    {json : Json} {value : α} (written : Entries.valueAt? name fields = some json)
    (reads : read json = .ok value) : readField fields name read = .ok (some value) := by
  rw [readField, written]
  exact congrArg (Except.map some) reads

theorem readOptional_of_ne_null {read : Json → Except Misfit α} {json : Json}
    (present : json ≠ .null) : readOptional read json = (read json).map some := by
  cases json <;> first | rfl | exact absurd rfl present

theorem readField_optional {fields : Record} {name : String} {read : Json → Except Misfit α}
    {write : α → Json} {given : Option α}
    (written : Entries.valueAt? name fields = given.map write)
    (present : ∀ value, write value ≠ .null) (reads : ∀ value, read (write value) = .ok value) :
    readField fields name (readOptional read) = .ok (given.map some) :=
  readField_written written fun value => by
    rw [readOptional_of_ne_null (present value), reads]
    rfl

/-- Where `null` is read for nothing, this is what is left of a value. -/
def unlessNull : Json → Option Json
  | .null => none
  | present => some present

theorem readOptional_readAny (json : Json) :
    readOptional readAny json = .ok json.unlessNull := by
  cases json <;> rfl

theorem join_map_eq_bind (given : Option α) (back : α → Option β) :
    (given.map back).join = given.bind back := by
  cases given <;> rfl

/-! What is read at all. -/

theorem exists_map_eq_ok {ε : Type} {write : α → β} {result : Except ε α} :
    (∃ value, result.map write = .ok value) ↔ ∃ value, result = .ok value := by
  cases result <;> simp [Except.map]

theorem exists_bind_eq_ok {ε : Type} {first : Except ε α} {next : α → Except ε β} :
    (∃ value, (first >>= next) = .ok value) ↔
      ∃ middle, first = .ok middle ∧ ∃ value, next middle = .ok value := by
  cases first <;> simp [bind, Except.bind]

theorem readText_eq_ok {json : Json} {text : String} :
    readText json = .ok text ↔ json = .string text := by
  cases json <;> simp [readText]

theorem readSequence_eq_ok {json : Json} {items : List Json} :
    readSequence json = .ok items ↔ json = .array items := by
  cases json <;> simp [readSequence]

theorem readMap_eq_ok {json : Json} {record : Record} :
    readMap json = .ok record ↔ json = .object record := by
  cases json <;> simp [readMap]

theorem exists_readOptional_readText {json : Json} :
    (∃ given, readOptional readText json = .ok given) ↔
      json = .null ∨ ∃ text, json = .string text := by
  cases json <;> simp [readOptional, readText, Except.map]

theorem exists_readEntries_readText {record : Record} :
    (∃ entries, readEntries readText record = .ok entries) ↔
      ∀ entry ∈ record, ∃ text, entry.2 = .string text := by
  induction record with
  | nil => simp [readEntries]
  | cons entry rest ih =>
    simp only [readEntries, exists_bind_eq_ok, List.forall_mem_cons, ← ih, readText_eq_ok]
    simp [pure, Except.pure]

theorem readField_congr {fields fields' : Record} {name : String}
    (same : Entries.valueAt? name fields = Entries.valueAt? name fields')
    (read : Json → Except Misfit α) : readField fields name read = readField fields' name read := by
  rw [readField, readField, same]

theorem readField_readAny (fields : Record) (name : String) :
    readField fields name readAny = .ok (Entries.valueAt? name fields) := by
  rw [readField]
  cases Entries.valueAt? name fields <;> rfl

theorem readField_eq_some {fields : Record} {name : String} {read : Json → Except Misfit α}
    {value : α} :
    readField fields name read = .ok (some value) ↔
      ∃ given, Entries.valueAt? name fields = some given ∧ read given = .ok value := by
  rw [readField]
  cases Entries.valueAt? name fields with
  | none => simp
  | some given => cases reading : read given <;> simp [Except.map, reading]

theorem exists_readField {fields : Record} {name : String} {read : Json → Except Misfit α} :
    (∃ result, readField fields name read = .ok result) ↔
      ∀ given, Entries.valueAt? name fields = some given → ∃ value, read given = .ok value := by
  rw [readField]
  cases Entries.valueAt? name fields with
  | none => simp
  | some given => simp [exists_map_eq_ok]

/-! Kinds of values. -/

theorem bind_text?_eq_some {given : Option Json} {text : String} :
    given.bind text? = some text ↔ given = some (.string text) := by
  cases given with
  | none => simp
  | some value => cases value <;> simp [text?]

theorem isString_iff {json : Json} : json.isString = true ↔ ∃ text, json = .string text := by
  cases json <;> simp [isString, kind]

theorem isArray_iff {json : Json} : json.isArray = true ↔ ∃ items, json = .array items := by
  cases json <;> simp [isArray, kind]

theorem isObject_iff {json : Json} : json.isObject = true ↔ ∃ fields, json = .object fields := by
  cases json <;> simp [isObject, kind]

end Json
end JobFanout
