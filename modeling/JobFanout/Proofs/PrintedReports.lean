import JobFanout.Proofs.ReportReadBack
import JobFanout.Proofs.TextReadBack
/-!
Events as they are printed. The text of an event reads back as the event without its returned `null`s
if the parameters and values in it survive their own text. Four containers stand around each of them,
so these may nest four levels less deep than a text may.
-/
namespace JobFanout

namespace Json

/-- Text of the value inside `around` containers gives the value again. -/
structure Survives (around : Nat) (json : Json) : Prop where
  wellFormed : json.WellFormed
  kept : json.NumbersKept
  shallow : json.depth + around ≤ depthLimit

theorem fieldNumbersKept_iff {fields : Record} :
    FieldNumbersKept fields ↔ ∀ entry ∈ fields, entry.2.NumbersKept := by
  induction fields with
  | nil => simp [FieldNumbersKept]
  | cons entry rest ih => simp [FieldNumbersKept, ih]

theorem depth_object_le_iff {fields : Record} {levels : Nat} :
    (object fields).depth ≤ levels + 1 ↔ ∀ entry ∈ fields, entry.2.depth ≤ levels := by
  rw [depth, Nat.succ_le_succ_iff]
  induction fields with
  | nil => simp [fieldsDepth]
  | cons entry rest ih => simp [fieldsDepth, ih]

theorem keyedFields_eq_map (fields : Record) :
    keyedFields fields = fields.map fun entry => (entry.1, entry.2.keyed) := by
  induction fields with
  | nil => rfl
  | cons entry rest ih => rw [keyedFields, ih, List.map_cons]

theorem valueAt?_keyed (key : String) (fields : Record) :
    Entries.valueAt? key (Entries.putAll (keyedFields fields) []) =
      (Entries.valueAt? key fields).map keyed := by
  rw [Entries.valueAt?_putAll Entries.ascending_nil, Entries.valueAt?_nil, Option.or_none,
    keyedFields_eq_map, Entries.valueAt?_map]

theorem forall_mem_optionalField {α : Type} {holds : Json → Prop} {name : String}
    {write : α → Json} {given : Option α} (each : ∀ value ∈ given, holds (write value)) :
    ∀ entry ∈ optionalField name write given, holds entry.2 := by
  cases given with
  | none => exact nofun
  | some value => simpa [optionalField] using each value rfl

end Json

/-! Around the parts of a report. -/

structure CallRecord.Survives (call : CallRecord) : Prop where
  params : (Json.object call.params).Survives 4
  returnedValue : ∀ value ∈ call.returnedValue, value.Survives 4

structure Report.Survives (report : Report) : Prop where
  ascending : Entries.Ascending report.calls
  calls : ∀ entry ∈ report.calls, entry.2.Survives

namespace CallRecord

theorem forall_fields {holds : Json → Prop} {call : CallRecord}
    (texts : ∀ text, holds (.string text)) (params : holds (.object call.params))
    (returned : ∀ value ∈ call.returnedValue, holds value) :
    ∃ fields, call.toJson = .object fields ∧ ∀ entry ∈ fields, holds entry.2 := by
  refine ⟨_, rfl, ?_⟩
  simp only [List.forall_mem_append, List.forall_mem_cons]
  exact ⟨⟨⟨⟨texts _, params, texts _, nofun⟩,
    Json.forall_mem_optionalField fun _ _ => texts _⟩, Json.forall_mem_optionalField returned⟩,
    Json.forall_mem_optionalField fun _ _ => texts _⟩

namespace Survives
variable {call : CallRecord}

theorem kept (survives : call.Survives) : call.toJson.NumbersKept := by
  obtain ⟨fields, same, each⟩ := forall_fields (fun _ => trivial) survives.params.kept
    fun value given => (survives.returnedValue value given).kept
  rw [same]
  exact Json.fieldNumbersKept_iff.mpr each

theorem depth_le (survives : call.Survives) : call.toJson.depth ≤ 124 := by
  have within {json : Json} (inside : json.Survives 4) : json.depth ≤ 123 :=
    Nat.le_of_add_le_add_right inside.shallow
  obtain ⟨fields, same, each⟩ := @forall_fields (·.depth ≤ 123) call (fun _ => Nat.zero_le _)
    (within survives.params) fun value given => within (survives.returnedValue value given)
  rw [same]
  exact Json.depth_object_le_iff.mpr each

theorem ofJson_keyed (survives : call.Survives) :
    ofJson call.toJson.keyed = .ok call.withoutNull := by
  have params := Json.keyed_of_wellFormed _ survives.params.wellFormed
  have returned : (call.returnedValue.map id).map Json.keyed = call.returnedValue.map id := by
    cases given : call.returnedValue with
    | none => rfl
    | some value =>
      have own := survives.returnedValue value given
      exact congrArg some (Json.keyed_of_wellFormed _ own.wellFormed)
  obtain ⟨fields, same, written⟩ := call.exists_fields
  rw [same]
  apply WrittenIn.ofJson
  constructor <;> rw [Json.valueAt?_keyed]
  · rw [written.method]
    rfl
  · rw [written.params, Option.map_some, params]
  · rw [written.start]
    rfl
  · rw [written.finish, Option.map_map]
    rfl
  · rw [written.returnedValue, returned]
  · rw [written.error, Option.map_map]
    rfl

end Survives
end CallRecord

namespace Report

theorem forall_fields {holds : Json → Prop} {report : Report}
    (texts : ∀ text, holds (.string text))
    (calls : holds (.object (report.calls.map fun entry => (entry.1, entry.2.toJson)))) :
    ∃ fields, report.toJson = .object fields ∧ ∀ entry ∈ fields, holds entry.2 := by
  refine ⟨_, rfl, ?_⟩
  simp only [List.forall_mem_append, List.forall_mem_cons]
  exact ⟨⟨⟨texts _, texts _, nofun⟩, Json.forall_mem_optionalField fun _ _ => texts _⟩,
    calls, nofun⟩

namespace Survives
variable {report : Report}

theorem kept (survives : report.Survives) : report.toJson.NumbersKept := by
  have calls : ∀ entry ∈ report.calls.map fun entry => (entry.1, entry.2.toJson),
      entry.2.NumbersKept :=
    List.forall_mem_map.mpr fun entry listed => (survives.calls entry listed).kept
  obtain ⟨fields, same, each⟩ := @forall_fields Json.NumbersKept report (fun _ => trivial)
    (Json.fieldNumbersKept_iff.mpr calls)
  rw [same]
  exact Json.fieldNumbersKept_iff.mpr each

theorem depth_le (survives : report.Survives) : report.toJson.depth ≤ 126 := by
  have calls : ∀ entry ∈ report.calls.map fun entry => (entry.1, entry.2.toJson),
      entry.2.depth ≤ 124 :=
    List.forall_mem_map.mpr fun entry listed => (survives.calls entry listed).depth_le
  obtain ⟨fields, same, each⟩ := @forall_fields (·.depth ≤ 125) report (fun _ => Nat.zero_le _)
    (Json.depth_object_le_iff.mpr calls)
  rw [same]
  exact Json.depth_object_le_iff.mpr each

theorem keyed_calls (survives : report.Survives) :
    (Json.object (report.calls.map fun entry => (entry.1, entry.2.toJson))).keyed =
      .object (report.calls.map fun entry => (entry.1, entry.2.toJson.keyed)) := by
  have ascending :
      Entries.Ascending (report.calls.map fun entry => (entry.1, entry.2.toJson.keyed)) := by
    rw [Entries.Ascending, Entries.keys_map fun call : CallRecord => call.toJson.keyed]
    exact survives.ascending
  rw [Json.keyed, Json.keyedFields_eq_map, List.map_map]
  exact congrArg Json.object (Entries.putAll_nil ascending)

theorem ofJson_keyed (survives : report.Survives) :
    ofJson report.toJson.keyed = .ok report.withoutNulls := by
  obtain ⟨fields, same, written⟩ := report.exists_fields
  have keyed : report.WrittenIn (Entries.putAll (Json.keyedFields fields) [])
      fun call => call.toJson.keyed := by
    constructor <;> rw [Json.valueAt?_keyed]
    · rw [written.runJobId]
      rfl
    · rw [written.start]
      rfl
    · rw [written.finish, Option.map_map]
      rfl
    · rw [written.calls, Option.map_some, survives.keyed_calls]
  rw [same]
  exact keyed.ofJson fun entry listed => (survives.calls entry listed).ofJson_keyed

/-- What is printed for a report reads back as the report but for every returned `null`. -/
theorem reads_back (survives : report.Survives) :
    ∃ json, Json.ofText (JobEvent.terminated report).toJson.pretty = .ok json ∧
      JobEvent.ofJson json = .ok (.terminated report.withoutNulls) := by
  have kept : (JobEvent.terminated report).toJson.NumbersKept := ⟨trivial, survives.kept, trivial⟩
  have each : ∀ entry ∈ [("event", Json.string JobEvent.terminatedName),
      ("payload", report.toJson)], entry.2.depth ≤ 126 :=
    List.forall_mem_cons.mpr ⟨Nat.zero_le _, List.forall_mem_singleton.mpr survives.depth_le⟩
  have shallow : (JobEvent.terminated report).toJson.depth ≤ depthLimit :=
    Json.depth_object_le_iff.mpr each
  have keyed : (JobEvent.terminated report).toJson.keyed =
      .object [("event", .string JobEvent.terminatedName), ("payload", report.toJson.keyed)] := by
    have ascending : ["event", "payload"].Pairwise (· < ·) := by decide
    exact congrArg Json.object (Entries.putAll_nil ascending)
  refine ⟨_, Json.ofText_pretty kept shallow, ?_⟩
  rw [keyed]
  exact JobEvent.ofJson_of_payload survives.ofJson_keyed

end Survives
end Report

theorem Execution.printed_event_reads_back {env : Environment} {job : Job}
    {before after : Progress} {report : Report}
    (terminates : (exec env job).run before = (.terminated report, after))
    (calls : ∀ entry ∈ report.calls, entry.2.Survives) :
    ∃ json, Json.ofText (JobEvent.terminated report).toJson.pretty = .ok json ∧
      JobEvent.ofJson json = .ok (.terminated report.withoutNulls) := by
  obtain ⟨records, resolved, _, _, rfl, _⟩ := of_terminated terminates
  have ascending := (finalCalls_settled env job records resolved).ascending
  exact Report.Survives.reads_back ⟨ascending, calls⟩

end JobFanout
