import Mathlib.Data.List.Induction
import JobFanout.Proofs.KeyedEntries
import JobFanout.Record.Merge
/-!
Records merged into one. Each field of the merged record is that of the last record which has it. So
records may be merged in parts, and a record with nothing but what later ones have makes no
difference.
-/
namespace JobFanout

theorem Json.field?_eq_valueAt? (key : String) (value : Json) :
    value.field? key = Entries.valueAt? key (Record.fieldsOf value) := by
  cases value <;> rfl

namespace Record

@[simp] theorem fieldsOf_object (fields : Record) : fieldsOf (.object fields) = fields := rfl

/-- The field under `key` of the last record that has one. -/
def lastField? (key : String) (records : List Json) : Option Json :=
  records.reverse.findSome? (Json.field? key)

variable {key : String} {records records' : List Json}

@[simp] theorem lastField?_nil : lastField? key [] = none := rfl

@[simp] theorem lastField?_append (first second : List Json) :
    lastField? key (first ++ second) = (lastField? key second).or (lastField? key first) := by
  rw [lastField?, List.reverse_append, List.findSome?_append]
  rfl

@[simp] theorem lastField?_singleton (record : Json) :
    lastField? key [record] = record.field? key := by
  simp [lastField?]

@[simp] theorem lastField?_cons (record : Json) (rest : List Json) :
    lastField? key (record :: rest) = (lastField? key rest).or (record.field? key) := by
  rw [← List.singleton_append, lastField?_append, lastField?_singleton]

theorem lastField?_eq_some {value : Json} :
    lastField? key records = some value ↔
      ∃ before record after, records = before ++ record :: after ∧
        record.field? key = some value ∧ ∀ later ∈ after, later.field? key = none := by
  rw [lastField?, List.findSome?_eq_some_iff]
  constructor
  · rintro ⟨after, record, before, turned, own, none⟩
    refine ⟨before.reverse, record, after.reverse, ?_, own, by simpa using none⟩
    rw [← List.reverse_reverse records, turned]
    simp
  · rintro ⟨before, record, after, rfl, own, none⟩
    exact ⟨after.reverse, record, before.reverse, by simp, own, by simpa using none⟩

theorem isSome_lastField? :
    (lastField? key records).isSome ↔ ∃ record ∈ records, (record.field? key).isSome := by
  simp [lastField?, List.findSome?_isSome_iff]

/-! What is found in a merged record. -/

theorem merge_append_singleton (earlier : List Json) (record : Json) :
    merge (earlier ++ [record]) = Entries.putAll (fieldsOf record) (merge earlier) := by
  rw [merge, List.foldl_append]
  rfl

theorem ascending_merge (records : List Json) : Entries.Ascending (merge records) := by
  induction records using List.reverseRecOn with
  | nil => exact Entries.ascending_nil
  | append_singleton earlier record ih =>
    rw [merge_append_singleton]
    exact Entries.ascending_putAll ih _

@[simp] theorem valueAt?_merge (key : String) (records : List Json) :
    Entries.valueAt? key (merge records) = lastField? key records := by
  induction records using List.reverseRecOn with
  | nil => rfl
  | append_singleton earlier record ih =>
    rw [merge_append_singleton, Entries.valueAt?_putAll (ascending_merge earlier), ih,
      lastField?_append, lastField?_singleton, Json.field?_eq_valueAt?]

@[simp] theorem field?_merge (key : String) (records : List Json) :
    (Json.object (merge records)).field? key = lastField? key records :=
  valueAt?_merge key records

theorem merge_ext (same : ∀ key, lastField? key records = lastField? key records') :
    merge records = merge records' := by
  apply Entries.ext_of_valueAt? (ascending_merge records) (ascending_merge records')
  intro key
  rw [valueAt?_merge, valueAt?_merge, same]

/-! Records merged in parts. -/

theorem merge_nested (before inner after : List Json) :
    merge (before ++ .object (merge inner) :: after) = merge (before ++ (inner ++ after)) := by
  apply merge_ext
  simp [Option.or_assoc]

theorem merge_append (first second : List Json) :
    merge (first ++ second) = merge [.object (merge first), .object (merge second)] := by
  apply merge_ext
  simp

theorem merge_swap {record record' : Json}
    (apart : ∀ key, record.field? key = none ∨ record'.field? key = none) (rest : List Json) :
    merge (record :: record' :: rest) = merge (record' :: record :: rest) := by
  apply merge_ext
  intro key
  rw [lastField?_cons, lastField?_cons, lastField?_cons, lastField?_cons, Option.or_assoc,
    Option.or_assoc]
  rcases apart key with absent | absent <;> rw [absent, Option.or_none, Option.none_or]

/-! Records that make no difference. -/

theorem merge_hidden {before after : List Json} {record : Json}
    (hidden : ∀ key, (record.field? key).isSome → ∃ later ∈ after, (later.field? key).isSome) :
    merge (before ++ record :: after) = merge (before ++ after) := by
  apply merge_ext
  intro key
  rw [lastField?_append, lastField?_append, lastField?_cons]
  cases own : record.field? key with
  | none => rw [Option.or_none]
  | some value =>
    have later := isSome_lastField?.mpr (hidden key (by simp [own]))
    rw [Option.or_of_isSome later]

theorem merge_objects_only (records : List Json) :
    merge (records.filter Json.isObject) = merge records := by
  apply merge_ext
  intro key
  induction records with
  | nil => rfl
  | cons record rest ih =>
    cases record with
    | object fields => simp [Json.isObject, Json.kind, ih]
    | _ => simp [Json.isObject, Json.kind, Json.field?, ih]

/-- A merged record has the fields of all records, each with the value that the last record with the
field gives it. Records may be merged in two parts. Values that are no objects make no difference, nor
does a record of which every field comes again. -/
theorem last_record_wins (records : List Json) :
    Entries.Ascending (merge records) ∧
    (∀ key, Entries.hasKey key (merge records) = true ↔
      ∃ record ∈ records, (record.field? key).isSome) ∧
    (∀ key value, Entries.valueAt? key (merge records) = some value ↔
      ∃ before record after, records = before ++ record :: after ∧
        record.field? key = some value ∧ ∀ later ∈ after, later.field? key = none) ∧
    (∀ others, merge (records ++ others) =
      merge [.object (merge records), .object (merge others)]) ∧
    merge (records.filter Json.isObject) = merge records ∧
    ∀ before record after, records = before ++ record :: after →
      (∀ key, (record.field? key).isSome → ∃ later ∈ after, (later.field? key).isSome) →
      merge (before ++ after) = merge records := by
  refine ⟨ascending_merge records, ?_, ?_, merge_append records, merge_objects_only records, ?_⟩
  · intro key
    rw [Entries.hasKey, valueAt?_merge, isSome_lastField?]
  · intro key value
    rw [valueAt?_merge, lastField?_eq_some]
  · rintro before record after rfl hidden
    exact (merge_hidden hidden).symm

theorem overwritten_switching_immaterial :
    let switching := fun fields : Record => Json.object fields
    let first := switching [("force", .bool true), ("vm", .string "a")]
    let later := [switching [("force", .null)], .int 7, switching [("on", .bool false), ("vm", .string "b")]]
    (∀ key, (first.field? key).isSome → ∃ record ∈ later, (record.field? key).isSome) ∧
      merge ([switching [("on", .bool true)]] ++ later) =
        merge ([switching [("on", .bool true)]] ++ first :: later) ∧
      merge ([switching [("on", .bool true)]] ++ first :: later) =
        [("force", .null), ("on", .bool false), ("vm", .string "b")] := by
  intro switching first later
  have hidden : ∀ key, (first.field? key).isSome → ∃ record ∈ later, (record.field? key).isSome := by
    intro key present
    have named : key = "force" ∨ key = "vm" := by
      have listed := Entries.hasKey_iff.mp present
      simpa using listed
    rcases named with rfl | rfl
    · exact ⟨_, List.mem_cons_self, rfl⟩
    · exact ⟨_, List.mem_cons_of_mem _ (List.mem_cons_of_mem _ List.mem_cons_self), rfl⟩
  obtain ⟨_, _, _, _, _, immaterial⟩ :=
    last_record_wins ([switching [("on", .bool true)]] ++ first :: later)
  exact ⟨hidden, immaterial _ first later rfl hidden, rfl⟩

end Record
end JobFanout
