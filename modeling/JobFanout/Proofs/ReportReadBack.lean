import JobFanout.Proofs.FieldReading
import JobFanout.Proofs.RunProtocol
import JobFanout.Proofs.StampReadBack
/-!
Reports written as JSON values and read again. Everything comes back except a returned `null`: it is
written, but `null` is read as no returned value. So a report is read back whole unless one of its
calls returned `null`; such a call is left with neither a value nor an error.
-/
namespace JobFanout

theorem Json.readInstant_toJson (instant : Instant) : readInstant instant.toJson = .ok instant := by
  rw [Instant.toJson, readInstant, Instant.ofText_text]
  rfl

def CallRecord.withoutNull (call : CallRecord) : CallRecord :=
  { call with returnedValue := call.returnedValue.bind Json.unlessNull }

def Report.withoutNulls (report : Report) : Report :=
  { report with calls := report.calls.map fun entry => (entry.1, entry.2.withoutNull) }

/-- There is a returned value or an error, and not both. -/
def CallRecord.hasOneOutcome (call : CallRecord) : Bool := call.isSucceeded != call.isFailed

def CallRecord.returnedNull (call : CallRecord) : Bool :=
  match call.returnedValue with
  | some .null => true
  | _ => false

/-! What is read from what was written. -/

section ReadBack

open Json (readText readMap readMapOf readOptional readInstant readField)

structure CallRecord.WrittenIn (fields : Record) (call : CallRecord) : Prop where
  method : Entries.valueAt? "method" fields = some (.string call.method)
  params : Entries.valueAt? "params" fields = some (.object call.params)
  start : Entries.valueAt? "start" fields = some call.start.toJson
  finish : Entries.valueAt? "end" fields = call.finish.map Instant.toJson
  returnedValue : Entries.valueAt? "returnedValue" fields = call.returnedValue.map id
  error : Entries.valueAt? "error" fields = call.error.map Json.string

theorem CallRecord.exists_fields (call : CallRecord) :
    ∃ fields, call.toJson = .object fields ∧ call.WrittenIn fields := by
  refine ⟨_, rfl, ?_⟩
  constructor <;>
    simp [Entries.valueAt?_append, Entries.valueAt?_optionalField, Entries.valueAt?_cons_or]

theorem CallRecord.WrittenIn.ofJson {fields : Record} {call : CallRecord}
    (written : call.WrittenIn fields) : ofJson (.object fields) = .ok call.withoutNull := by
  have methodRead : readField fields "method" readText = .ok (some call.method) :=
    Json.readField_present written.method rfl
  have paramsRead : readField fields "params" readMap = .ok (some call.params) :=
    Json.readField_present written.params rfl
  have startRead := Json.readField_present written.start (Json.readInstant_toJson call.start)
  have finishRead := Json.readField_optional written.finish (fun _ => nofun)
    Json.readInstant_toJson
  have errorRead : readField fields "error" (readOptional readText) = .ok (call.error.map some) :=
    Json.readField_optional written.error (fun _ => nofun) fun _ => rfl
  have returnedRead := Json.readField_written written.returnedValue Json.readOptional_readAny
  rw [CallRecord.ofJson]
  simp only [readFields, methodRead, paramsRead, startRead, finishRead, errorRead, returnedRead,
    Json.ok_bind, Json.required_some, Json.join_map_eq_bind, Option.bind_fun_some]
  rfl

theorem CallRecord.ofJson_toJson (call : CallRecord) :
    ofJson call.toJson = .ok call.withoutNull := by
  obtain ⟨fields, same, written⟩ := call.exists_fields
  rw [same, written.ofJson]

structure Report.WrittenIn (fields : Record) (write : CallRecord → Json) (report : Report) :
    Prop where
  runJobId : Entries.valueAt? "runJobId" fields = some (.string report.runJobId)
  start : Entries.valueAt? "start" fields = some report.start.toJson
  finish : Entries.valueAt? "end" fields = report.finish.map Instant.toJson
  calls : Entries.valueAt? "calls" fields =
    some (.object (report.calls.map fun entry => (entry.1, write entry.2)))

theorem Report.exists_fields (report : Report) :
    ∃ fields, report.toJson = .object fields ∧ report.WrittenIn fields CallRecord.toJson := by
  refine ⟨_, rfl, ?_⟩
  constructor <;>
    simp [Entries.valueAt?_append, Entries.valueAt?_optionalField, Entries.valueAt?_cons_or]

theorem Report.WrittenIn.ofJson {fields : Record} {write : CallRecord → Json} {report : Report}
    (written : report.WrittenIn fields write)
    (reads : ∀ entry ∈ report.calls, CallRecord.ofJson (write entry.2) = .ok entry.2.withoutNull) :
    ofJson (.object fields) = .ok report.withoutNulls := by
  have runJobIdRead : readField fields "runJobId" readText = .ok (some report.runJobId) :=
    Json.readField_present written.runJobId rfl
  have startRead := Json.readField_present written.start (Json.readInstant_toJson report.start)
  have finishRead := Json.readField_optional written.finish (fun _ => nofun)
    Json.readInstant_toJson
  have callsRead : readField fields "calls" (readMapOf CallRecord.ofJson) = .ok (some _) :=
    Json.readField_present written.calls (Json.readEntries_written reads)
  rw [Report.ofJson]
  simp only [readFields, runJobIdRead, startRead, finishRead, callsRead, Json.ok_bind,
    Json.required_some, Json.join_map_eq_bind, Option.bind_fun_some]
  rfl

theorem Report.ofJson_toJson (report : Report) :
    ofJson report.toJson = .ok report.withoutNulls := by
  obtain ⟨fields, same, written⟩ := report.exists_fields
  rw [same, written.ofJson fun entry _ => entry.2.ofJson_toJson]

theorem JobEvent.ofJson_of_payload {payload : Json} {report : Report}
    (reads : Report.ofJson payload = .ok report) :
    ofJson (.object [("event", .string terminatedName), ("payload", payload)]) =
      .ok (.terminated report) := by
  let fields : Record := [("event", .string terminatedName), ("payload", payload)]
  have payloadRead : readField fields "payload" Report.ofJson = .ok (some report) :=
    Json.readField_present rfl reads
  have eventRead : readField fields "event" readTag = .ok (some ()) := rfl
  rw [ofJson]
  change readFields fields = _
  simp only [readFields, payloadRead, eventRead]
  rfl

theorem JobEvent.ofJson_toJson (report : Report) :
    ofJson (terminated report).toJson = .ok (.terminated report.withoutNulls) :=
  ofJson_of_payload report.ofJson_toJson

end ReadBack

/-! What is lost with a `null`. -/

namespace CallRecord

theorem returnedNull_iff {call : CallRecord} :
    call.returnedNull = true ↔ call.returnedValue = some .null := by
  unfold returnedNull
  split
  next null => simp [null]
  next other => simpa using other

theorem isSucceeded_of_returnedNull {call : CallRecord} (null : call.returnedNull = true) :
    call.isSucceeded = true := by
  rw [isSucceeded, returnedNull_iff.mp null]
  rfl

theorem withoutNull_eq_self_iff {call : CallRecord} :
    call.withoutNull = call ↔ call.returnedValue ≠ some .null := by
  obtain ⟨method, params, start, finish, returnedValue, error⟩ := call
  cases returnedValue with
  | none => simp [withoutNull]
  | some value => cases value <;> simp [withoutNull, Json.unlessNull]

theorem isSucceeded_withoutNull (call : CallRecord) :
    call.withoutNull.isSucceeded = (call.isSucceeded && !call.returnedNull) := by
  by_cases null : call.returnedValue = some .null
  · simp [isSucceeded, withoutNull, null, Json.unlessNull, returnedNull_iff.mpr null]
  · rw [withoutNull_eq_self_iff.mpr null, Bool.eq_false_iff.mpr (mt returnedNull_iff.mp null),
      Bool.not_false, Bool.and_true]

theorem hasOneOutcome_withoutNull {call : CallRecord} (one : call.hasOneOutcome = true) :
    call.withoutNull.hasOneOutcome = true ↔ call.returnedValue ≠ some .null := by
  have failure : call.withoutNull.isFailed = call.isFailed := rfl
  rw [ne_eq, ← returnedNull_iff, hasOneOutcome, isSucceeded_withoutNull, failure]
  cases null : call.returnedNull with
  | false => simpa [hasOneOutcome] using one
  | true =>
    rw [hasOneOutcome, isSucceeded_of_returnedNull null] at one
    simpa using one

theorem returnedValue_eq_none {call : CallRecord} (one : call.hasOneOutcome = true)
    (failed : call.isFailed = true) : call.returnedValue = none := by
  simpa [hasOneOutcome, failed, isSucceeded] using one

theorem hasOneOutcome_settle (method : String) (params : Record) (start finish : Instant)
    (result : Except CallError Json) :
    ((started method params start).settle result finish).hasOneOutcome = true := by
  cases result <;> rfl

end CallRecord

namespace Report

theorem withoutNulls_eq_self_iff {report : Report} :
    report.withoutNulls = report ↔
      ∀ entry ∈ report.calls, entry.2.returnedValue ≠ some .null := by
  have calls : report.withoutNulls = report ↔
      report.calls.map (fun entry => (entry.1, entry.2.withoutNull)) = report.calls.map id := by
    rw [List.map_id]
    exact ⟨congrArg Report.calls, fun same => by rw [withoutNulls, same]⟩
  rw [calls, List.map_inj_left]
  refine forall₂_congr fun entry _ => ?_
  rw [← CallRecord.withoutNull_eq_self_iff]
  exact ⟨congrArg Prod.snd, fun same => by rw [same]; rfl⟩

theorem failedCalls_withoutNulls {report : Report}
    (outcomes : ∀ entry ∈ report.calls, entry.2.hasOneOutcome = true) :
    report.withoutNulls.failedCalls = report.failedCalls := by
  -- A call that failed has returned nothing that could be lost.
  have kept : ∀ entry ∈ report.failedCalls, (entry.1, entry.2.withoutNull) = id entry := by
    intro entry listed
    obtain ⟨present, failed⟩ := List.mem_filter.mp listed
    have nothing := CallRecord.returnedValue_eq_none (outcomes entry present) failed
    rw [CallRecord.withoutNull_eq_self_iff.mpr (by simp [nothing]), id]
  rw [failedCalls, withoutNulls, List.filter_map]
  exact (List.map_congr_left kept).trans (List.map_id _)

theorem succeededCount_withoutNulls (report : Report) :
    report.withoutNulls.succeededCount + report.calls.countP (fun entry => entry.2.returnedNull) =
      report.succeededCount := by
  simp only [succeededCount, withoutNulls, List.countP_map, Function.comp_def,
    CallRecord.isSucceeded_withoutNull]
  induction report.calls with
  | nil => rfl
  | cons entry rest ih =>
    rw [List.countP_cons, List.countP_cons, List.countP_cons, ← ih]
    cases null : entry.2.returnedNull with
    | true =>
      simp only [CallRecord.isSucceeded_of_returnedNull null, Bool.not_true, Bool.and_false,
        Bool.false_eq_true, if_true, if_false]
      omega
    | false =>
      simp only [Bool.not_false, Bool.and_true, Bool.false_eq_true, if_false]
      omega

end Report

namespace Execution
variable {env : Environment} {job : Job}

/-- The event of a run and its report read back as they were but for every returned `null`. A call
that returned `null` is left settled with no outcome and is counted neither as failed nor as
succeeded. -/
theorem report_reads_back_but_nulls {before after : Progress} {report : Report}
    (terminates : (exec env job).run before = (.terminated report, after)) :
    Command.announcedEvents after.journal =
      Command.announcedEvents before.journal ++ [.terminated report] ∧
    JobEvent.ofJson (JobEvent.terminated report).toJson = .ok (.terminated report.withoutNulls) ∧
    Report.ofJson report.toJson = .ok report.withoutNulls ∧
    (report.withoutNulls = report ↔
      ∀ entry ∈ report.calls, entry.2.returnedValue ≠ some .null) ∧
    (∀ entry ∈ report.calls,
      entry.2.isSettled = true ∧ entry.2.hasOneOutcome = true ∧
      entry.2.withoutNull.isSettled = true ∧
      (entry.2.withoutNull.hasOneOutcome = true ↔ entry.2.returnedValue ≠ some .null)) ∧
    report.withoutNulls.failedCalls = report.failedCalls ∧
    report.withoutNulls.succeededCount
        + report.calls.countP (fun entry => entry.2.returnedNull) = report.succeededCount := by
  have announced := announcedEvents_of_terminates terminates
  obtain ⟨records, resolved, _, _, rfl, _⟩ := of_terminated terminates
  have outcomes : ∀ entry ∈ (finalReport env job records resolved before).calls,
      entry.2.hasOneOutcome = true := by
    intro entry listed
    obtain ⟨params, start, result, finish, same⟩ :=
      (finalCalls_settled env job records resolved).exists_settle listed
    rw [same, CallRecord.hasOneOutcome_settle]
  have settled := settled_finalReport env job records resolved before
  refine ⟨announced, JobEvent.ofJson_toJson _, Report.ofJson_toJson _,
    Report.withoutNulls_eq_self_iff, ?_, Report.failedCalls_withoutNulls outcomes,
    Report.succeededCount_withoutNulls _⟩
  intro entry listed
  exact ⟨settled entry listed, outcomes entry listed, settled entry listed,
    CallRecord.hasOneOutcome_withoutNull (outcomes entry listed)⟩

theorem listedMachines_report_loses_null :
    ∃ report after, (exec listedMachines startListed).run {} = (.terminated report, after) ∧
      JobEvent.ofJson (JobEvent.terminated report).toJson =
        .ok (.terminated report.withoutNulls) ∧
      report.withoutNulls ≠ report ∧ report.succeededCount = 1 ∧
      report.withoutNulls.succeededCount = 0 := by
  have resolves : (resolveRecords listedMachines startListed).run
      (resolving listedMachines startListed {}) = (.ok machines, _) := rfl
  have terminates := run_exec_of_records listedMachines startListed machines _ rfl resolves
  obtain ⟨_, read, _⟩ := report_reads_back_but_nulls terminates
  refine ⟨_, _, terminates, read, ?_, by decide, by decide⟩
  intro same
  have counts := congrArg Report.succeededCount same
  revert counts
  decide

end Execution
end JobFanout
