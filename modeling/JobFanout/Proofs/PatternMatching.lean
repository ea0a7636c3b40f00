import JobFanout.Fleet.Pattern
import JobFanout.Proofs.MergedRecords
/-!
Live objects by pattern, attribute by attribute. An attribute matches when the two values share an
element, which does not depend on the one that is wanted; so patterns without a common key may be
applied together or one after the other.
-/
namespace JobFanout

/-! Equal values. -/

theorem Decimal.same_comm (a b : Decimal) : a.same b = b.same a := by
  rw [Bool.eq_iff_iff]
  simp only [same, Bool.and_eq_true, Bool.or_eq_true, beq_iff_eq]
  constructor <;> rintro ⟨⟨digits, exponent⟩, sign⟩ <;>
    exact ⟨⟨digits.symm, exponent.symm⟩, sign.imp Eq.symm fun zero => by omega⟩

namespace Json

mutual

theorem same_comm (a b : Json) : a.same b = b.same a := by
  match a with
  | .null => cases b <;> rfl
  | .bool value => cases b <;> simp [same, Bool.beq_comm]
  | .int value => cases b <;> simp [same, BEq.comm]
  | .float value => cases b <;> simp [same, Decimal.same_comm]
  | .string value => cases b <;> simp [same, BEq.comm]
  | .array items =>
    cases b with
    | array items' => simp [same, sameItems_comm items items']
    | _ => rfl
  | .object fields =>
    cases b with
    | object fields' => simp [same, sameFields_comm fields fields']
    | _ => rfl

theorem sameItems_comm (items items' : List Json) :
    sameItems items items' = sameItems items' items := by
  match items, items' with
  | [], [] => rfl
  | [], _ :: _ => rfl
  | _ :: _, [] => rfl
  | item :: rest, item' :: rest' =>
    rw [sameItems, sameItems, same_comm item item', sameItems_comm rest rest']

theorem sameFields_comm (fields fields' : List (String × Json)) :
    sameFields fields fields' = sameFields fields' fields := by
  match fields, fields' with
  | [], [] => rfl
  | [], _ :: _ => rfl
  | _ :: _, [] => rfl
  | (key, value) :: rest, (key', value') :: rest' =>
    rw [sameFields, sameFields, BEq.comm (a := key), same_comm value value',
      sameFields_comm rest rest']

end

/-! Elements in common. -/

/-- The items of an array, or the value alone. -/
def elements : Json → List Json
  | .array items => items
  | value => [value]

def SharesElement (value value' : Json) : Prop :=
  ∃ element ∈ value.elements, ∃ element' ∈ value'.elements, element.same element' = true

theorem sharesElement_comm {value value' : Json} :
    value.SharesElement value' ↔ value'.SharesElement value := by
  have turned : ∀ {value value' : Json}, value.SharesElement value' →
      value'.SharesElement value := by
    rintro value value' ⟨element, here, element', there, same⟩
    exact ⟨element', there, element, here, same_comm element element' ▸ same⟩
  exact ⟨turned, turned⟩

end Json

namespace Fleet
variable {pattern : Record} {object : Json}

/-- What is compared with the value that a pattern has under the key. -/
def attributeOf (key : String) (object : Json) : Json := (object.field? key).getD .null

theorem attributeMatches_iff {wanted present : Json} :
    attributeMatches wanted present = true ↔ wanted.SharesElement present := by
  cases wanted with
  | array items =>
    cases present <;> simp [attributeMatches, Json.SharesElement, Json.elements]
  | _ => cases present <;> simp [attributeMatches, Json.SharesElement, Json.elements]

theorem matchesPattern_iff :
    matchesPattern pattern object = true ↔
      ∀ key wanted, (key, wanted) ∈ pattern → wanted.SharesElement (attributeOf key object) := by
  simp only [matchesPattern, List.all_eq_true, Prod.forall, attributeMatches_iff]
  rfl

theorem matchesPattern_iff_valueAt? (ascending : Entries.Ascending pattern) :
    matchesPattern pattern object = true ↔
      ∀ key wanted, Entries.valueAt? key pattern = some wanted →
        wanted.SharesElement (attributeOf key object) := by
  rw [matchesPattern_iff]
  refine forall₂_congr fun key wanted => imp_congr_left ⟨?_, Entries.mem_of_valueAt?⟩
  exact Entries.valueAt?_of_mem (Entries.nodup_keys ascending)

/-- What a pattern wants under one key and what the object has there may change places. -/
theorem matchesPattern_exchanged {key : String} {wanted : Json}
    (ascending : Entries.Ascending pattern)
    (ascending' : Entries.Ascending (Record.fieldsOf object))
    (named : Entries.valueAt? key pattern = some wanted) :
    matchesPattern (Entries.put key (attributeOf key object) pattern)
        (.object (Entries.put key wanted (Record.fieldsOf object))) =
      matchesPattern pattern object := by
  rw [Bool.eq_iff_iff, matchesPattern_iff_valueAt? (Entries.ascending_put ascending key _),
    matchesPattern_iff_valueAt? ascending]
  refine forall_congr' fun other => ?_
  simp only [attributeOf, Json.field?_eq_valueAt?, Record.fieldsOf_object,
    Entries.valueAt?_put ascending, Entries.valueAt?_put ascending']
  by_cases here : key = other
  · subst here
    simpa [named] using Json.sharesElement_comm
  · simp [here]

/-! Objects by several patterns. -/

theorem matchesPattern_putAll {other : Record} (ascending : Entries.Ascending pattern)
    (ascending' : Entries.Ascending other)
    (apart : (Entries.keys pattern).Disjoint (Entries.keys other)) (object : Json) :
    matchesPattern (Entries.putAll other pattern) object =
      (matchesPattern other object && matchesPattern pattern object) := by
  have nodup : (Entries.keys (other ++ pattern)).Nodup := by
    rw [Entries.keys, List.map_append]
    exact (Entries.nodup_keys ascending').append (Entries.nodup_keys ascending) (List.disjoint_symm apart)
  rw [matchesPattern, (Entries.putAll_perm nodup).all_eq, List.all_append]
  rfl

theorem select_select (pattern other : Record) (objects : List Json) :
    select other (select pattern objects) =
      objects.filter fun object => matchesPattern other object && matchesPattern pattern object :=
  List.filter_filter

theorem select_putAll {other : Record} (ascending : Entries.Ascending pattern)
    (ascending' : Entries.Ascending other)
    (apart : (Entries.keys pattern).Disjoint (Entries.keys other)) (objects : List Json) :
    select (Entries.putAll other pattern) objects = select other (select pattern objects) := by
  rw [select_select, select]
  exact List.filter_congr fun object _ => matchesPattern_putAll ascending ascending' apart object

theorem select_comm (pattern other : Record) (objects : List Json) :
    select other (select pattern objects) = select pattern (select other objects) := by
  rw [select_select, select_select]
  exact List.filter_congr fun object _ => Bool.and_comm ..

/-- An object matches a pattern if under each key they share an element. The objects that match are
kept, in their order and each as often as it is there. A pattern may be split up by its keys and its
parts applied in either order; applying it again changes nothing. -/
theorem matching_is_intersection (pattern : Record) :
    (∀ object, matchesPattern pattern object = true ↔
      ∀ key wanted, (key, wanted) ∈ pattern →
        wanted.SharesElement (attributeOf key object)) ∧
    (∀ object key wanted, Entries.Ascending pattern →
      Entries.Ascending (Record.fieldsOf object) → Entries.valueAt? key pattern = some wanted →
      matchesPattern (Entries.put key (attributeOf key object) pattern)
          (.object (Entries.put key wanted (Record.fieldsOf object))) =
        matchesPattern pattern object) ∧
    (∀ objects, (select pattern objects).Sublist objects ∧
      ∀ counted : Json → Bool, (select pattern objects).countP counted =
        objects.countP fun object => counted object && matchesPattern pattern object) ∧
    (∀ other objects, Entries.Ascending pattern → Entries.Ascending other →
      (Entries.keys pattern).Disjoint (Entries.keys other) →
      select (Entries.putAll other pattern) objects = select other (select pattern objects) ∧
      select (Entries.putAll other pattern) objects = select pattern (select other objects)) ∧
    ∀ objects, select pattern (select pattern objects) = select pattern objects := by
  refine ⟨fun object => matchesPattern_iff, ?_, ?_, ?_, ?_⟩
  · exact fun object key wanted ascending ascending' => matchesPattern_exchanged ascending ascending'
  · exact fun objects => ⟨List.filter_sublist, fun counted => List.countP_filter⟩
  · intro other objects ascending ascending' apart
    have first := select_putAll ascending ascending' apart objects
    exact ⟨first, first.trans (select_comm pattern other objects)⟩
  · intro objects
    rw [select_select, select]
    exact List.filter_congr fun object _ => Bool.and_self _

theorem ownerlessMachine_matches :
    let owners := Json.array [.null, .string "admin"]
    let tags := Json.array [.string "nightly", .array [.string "weekly"]]
    let pattern : Record := [("owner", owners), ("tags", .string "nightly")]
    let running : Record := [("power", .array [.string "Running", .string "Paused"])]
    let machine : Record := [("power", .string "Running"), ("tags", tags)]
    let halted : Record := [("power", .string "Halted"), ("tags", tags)]
    Entries.Ascending pattern ∧ Entries.Ascending running ∧
      (Entries.keys pattern).Disjoint (Entries.keys running) ∧
      matchesPattern [("owner", .null), ("tags", .string "nightly")]
        (.object (("owner", owners) :: machine)) = true ∧
      select (Entries.putAll running pattern) [.object machine, .object halted, .object machine] =
        [.object machine, .object machine] := by
  intro owners tags pattern running machine halted
  have ascending : Entries.Ascending pattern := by decide
  have ascending' : Entries.Ascending running := by decide
  have apart : (Entries.keys pattern).Disjoint (Entries.keys running) := by
    simp [pattern, running]
  obtain ⟨_, exchanged, _, together, _⟩ := matching_is_intersection pattern
  refine ⟨ascending, ascending', apart, ?_, ?_⟩
  · exact exchanged (.object machine) "owner" owners ascending (by decide) rfl
  · exact (together running _ ascending ascending' apart).1

end Fleet
end JobFanout
