import JobFanout.Proofs.FailedRuns
/-!
What the log of a terminated run tells of its report. Each call has one entry for its start and one
for its end; read in order and with the ids that the log gave, they make up the report but for its
times. Ids that the log gave twice are told apart as the run told them apart.
-/
namespace JobFanout

structure CallStart where
  /-- The id that the log gave to the entry, which is not always the id of the call. -/
  loggedId : String
  method : String
  params : Record

structure CallEnd where
  level : Level
  callId : String
  outcome : Except String Json

def Json.textAt? (data : Json) (name : String) : Option String := (data.field? name).bind text?

def Json.outcome? (data : Json) : Option (Except String Json) :=
  match data.textAt? "error", data.field? "returnedValue" with
  | some text, _ => some (.error text)
  | none, some value => some (.ok value)
  | none, none => none

def Entry.callStart? : Entry → Option CallStart
  | .logged _ id _ data =>
    match data.textAt? "event", data.textAt? "method", data.field? "params" with
    | some "jobCall.start", some method, some (.object params) => some ⟨id, method, params⟩
    | _, _, _ => none
  | _ => none

def Entry.callEnd? : Entry → Option CallEnd
  | .logged level _ _ data =>
    match data.textAt? "event", data.textAt? "runCallId", data.outcome? with
    | some "jobCall.end", some callId, some outcome => some ⟨level, callId, outcome⟩
    | _, _, _ => none
  | _ => none

def Entry.event? : Entry → Option String
  | .logged _ _ _ data => data.textAt? "event"
  | _ => none

/-- An entry that names the start or the end of a call tells all there is to tell of it. -/
structure Entry.IsWhole (entry : Entry) : Prop where
  start : entry.event? = some "jobCall.start" → entry.callStart?.isSome
  finish : entry.event? = some "jobCall.end" → entry.callEnd?.isSome

theorem Entry.isWhole_other {entry : Entry} {name : String} (named : entry.event? = some name)
    (noStart : name ≠ "jobCall.start") (noEnd : name ≠ "jobCall.end") : entry.IsWhole := by
  constructor
  · intro start
    exact absurd (Option.some.inj (named.symm.trans start)) noStart
  · intro finish
    exact absurd (Option.some.inj (named.symm.trans finish)) noEnd

/-- The entry tells of the record what the record shows. -/
inductive CallEnd.Accounts : CallEnd → CallRecord → Prop where
  | failed {callId text : String} {call : CallRecord} (failed : call.error = some text) :
      Accounts ⟨.error, callId, .error text⟩ call
  | returned {callId : String} {value : Json} {call : CallRecord} (fine : call.error = none)
      (returned : call.returnedValue = some value) : Accounts ⟨.notice, callId, .ok value⟩ call

/-! The calls that a log tells of, without times. -/

def CallStart.enter (calls : Entries CallRecord) (start : CallStart) : Entries CallRecord :=
  Entries.put (unusedCallId calls start.loggedId) (.started start.method start.params .epoch) calls

def CallEnd.enter (calls : Entries CallRecord) (ended : CallEnd) : Entries CallRecord :=
  match Entries.valueAt? ended.callId calls, ended.outcome with
  | none, _ => calls
  | some call, .ok value => Entries.put ended.callId (call.succeed value .epoch) calls
  | some call, .error text => Entries.put ended.callId (call.fail text .epoch) calls

def callsToldBy (log : List Entry) : Entries CallRecord :=
  (log.filterMap Entry.callEnd?).foldl CallEnd.enter
    ((log.filterMap Entry.callStart?).foldl CallStart.enter [])

/-! What notes tell. -/

def startsTold (logIds : Nat → String) (method : String) : (position : Nat) → List Record →
    List CallStart
  | _, [] => []
  | position, params :: rest =>
    ⟨logIds position, method, params⟩ :: startsTold logIds method (position + 1) rest

def EndedCall.told (ended : EndedCall) : CallEnd :=
  match ended.result with
  | .ok value => ⟨.notice, ended.callId, .ok value⟩
  | .error error => ⟨.error, ended.callId, .error error.message⟩

section Notes
variable (logIds : Nat → String) (job : Job) (runJobId : String) (position : Nat)

theorem callStart?_callStarted (records : List Record) :
    (noted logIds position (records.map (Note.callStarted job runJobId))).filterMap
      Entry.callStart? = startsTold logIds job.method position records := by
  induction records generalizing position with
  | nil => rfl
  | cons params rest ih => exact congrArg (_ :: ·) (ih (position + 1))

theorem callEnd?_callStarted (records : List Record) :
    (noted logIds position (records.map (Note.callStarted job runJobId))).filterMap
      Entry.callEnd? = [] := by
  apply List.filterMap_eq_nil_iff.mpr
  apply forall_noted
  intro note listed id
  obtain ⟨params, _, rfl⟩ := List.mem_map.mp listed
  rfl

theorem callStart?_callEnded (ended : List EndedCall) :
    (noted logIds position (ended.map (EndedCall.note job runJobId))).filterMap
      Entry.callStart? = [] := by
  apply List.filterMap_eq_nil_iff.mpr
  apply forall_noted
  intro note listed id
  obtain ⟨⟨callId, result⟩, _, rfl⟩ := List.mem_map.mp listed
  cases result <;> rfl

theorem callEnd?_callEnded (ended : List EndedCall) :
    (noted logIds position (ended.map (EndedCall.note job runJobId))).filterMap
      Entry.callEnd? = ended.map EndedCall.told := by
  induction ended generalizing position with
  | nil => rfl
  | cons call rest ih =>
    obtain ⟨callId, result⟩ := call
    cases result with
    | ok value => exact congrArg (_ :: ·) (ih (position + 1))
    | error error => exact congrArg (_ :: ·) (ih (position + 1))

theorem map_startsTold (method : String) (records : List Record) :
    (startsTold logIds method position records).map (fun start => (start.method, start.params)) =
      records.map fun params => (method, params) := by
  induction records generalizing position with
  | nil => rfl
  | cons params rest ih => exact congrArg (_ :: ·) (ih (position + 1))

theorem isWhole_callStarted (records : List Record) :
    ∀ entry ∈ noted logIds position (records.map (Note.callStarted job runJobId)),
      entry.IsWhole := by
  apply forall_noted
  intro note listed id
  obtain ⟨params, _, rfl⟩ := List.mem_map.mp listed
  exact ⟨fun _ => rfl, fun named => absurd (Option.some.inj named) (by decide)⟩

theorem isWhole_callEnded (ended : List EndedCall) :
    ∀ entry ∈ noted logIds position (ended.map (EndedCall.note job runJobId)),
      entry.IsWhole := by
  apply forall_noted
  intro note listed id
  obtain ⟨⟨callId, result⟩, _, rfl⟩ := List.mem_map.mp listed
  have other : "jobCall.end" ≠ "jobCall.start" := by decide
  cases result with
  | ok value => exact ⟨fun named => absurd (Option.some.inj named) other, fun _ => rfl⟩
  | error error => exact ⟨fun named => absurd (Option.some.inj named) other, fun _ => rfl⟩

end Notes

theorem getElem?_startsTold {logIds : Nat → String} {method : String} {records : List Record}
    {position place : Nat} {start : CallStart}
    (told : (startsTold logIds method position records)[place]? = some start) :
    records[place]? = some start.params ∧ start.method = method := by
  have pair := congrArg (·[place]?) (map_startsTold logIds position method records)
  simp only [List.getElem?_map, told, Option.map_some] at pair
  obtain ⟨params, given, same⟩ := Option.map_eq_some_iff.mp pair.symm
  cases same
  exact ⟨given, rfl⟩

theorem EndedCall.callId_told (ended : EndedCall) : ended.told.callId = ended.callId := by
  obtain ⟨callId, result⟩ := ended
  cases result <;> rfl

theorem EndedCall.accounts_told (ended : EndedCall) (method : String) (params : Record)
    (start finish : Instant) :
    ended.told.Accounts ((CallRecord.started method params start).settle ended.result finish) := by
  obtain ⟨callId, result⟩ := ended
  cases result with
  | ok value => exact .returned rfl rfl
  | error error => exact .failed rfl

/-! Entering what is told is entering the calls, times aside. -/

theorem undatedCalls_put (id : String) (call : CallRecord) (calls : Entries CallRecord) :
    undatedCalls (Entries.put id call calls) =
      Entries.put id call.undated (undatedCalls calls) :=
  Entries.map_put CallRecord.undated id call calls

theorem foldl_startsTold (logIds : Nat → String) (clock : Nat → Instant) (method : String)
    (records : List Record) (position reads : Nat) (calls : Entries CallRecord) :
    (startsTold logIds method position records).foldl CallStart.enter (undatedCalls calls) =
      undatedCalls (Entries.putAll
        ((freshCallIds logIds position records.length calls.bare).zip
          (startedCalls clock method reads records)) calls) := by
  induction records generalizing position reads calls with
  | nil => rfl
  | cons params rest ih =>
    let callId := unusedCallId calls.bare (logIds position)
    let call := CallRecord.started method params (clock reads)
    -- Which id is new depends on the ids in use, not on what stands under them.
    have chosen : unusedCallId (undatedCalls calls) (logIds position) = callId :=
      (unusedCallId_map CallRecord.undated calls _).trans
        (unusedCallId_map (fun _ => ()) calls _).symm
    have entered : (Entries.put callId call calls).bare = Entries.put callId () calls.bare :=
      Entries.map_put (fun _ => ()) callId call calls
    have first : CallStart.enter (undatedCalls calls) ⟨logIds position, method, params⟩ =
        undatedCalls (Entries.put callId call calls) := by
      rw [undatedCalls_put, CallStart.enter, chosen]
      rfl
    have later := ih (position + 1) (reads + 1) (Entries.put callId call calls)
    rw [entered] at later
    rw [startsTold, List.foldl_cons, first]
    exact later

theorem CallEnd.enter_told (ended : EndedCall) (calls : Entries CallRecord) (finish : Instant) :
    CallEnd.enter (undatedCalls calls) ended.told =
      match Entries.valueAt? ended.callId calls with
      | none => undatedCalls calls
      | some call =>
        undatedCalls (Entries.put ended.callId (call.settle ended.result finish) calls) := by
  rw [enter, EndedCall.callId_told, valueAt?_undatedCalls]
  obtain ⟨callId, result⟩ := ended
  cases Entries.valueAt? callId calls with
  | none => rfl
  | some call =>
    simp only [undatedCalls_put]
    cases result <;> rfl

theorem foldl_told (clock : Nat → Instant) (ended : List EndedCall) (reads : Nat)
    (calls : Entries CallRecord) :
    (ended.map EndedCall.told).foldl CallEnd.enter (undatedCalls calls) =
      undatedCalls (settleAll clock reads ended calls) := by
  induction ended generalizing reads calls with
  | nil => rfl
  | cons call rest ih =>
    rw [List.map_cons, List.foldl_cons, CallEnd.enter_told call calls (clock reads), settleAll]
    -- Both sides pass over a call that has no record.
    cases Entries.valueAt? call.callId calls with
    | none => exact ih reads calls
    | some before => exact ih (reads + 1) _

namespace Execution
variable (env : Environment) (job : Job) (records : List Record) (resolved before : Progress)

def terminatedLog : List Entry :=
  noted env.logIds before.logged [.runStarted job]
    ++ noted env.logIds resolved.logged
        (records.map (Note.callStarted job (env.logIds before.logged)))
    ++ noted env.logIds (resolved.logged + records.length)
        ((callsSettling env job records resolved).map
          (EndedCall.note job (env.logIds before.logged)))
    ++ noted env.logIds (resolved.logged + 2 * records.length)
        [.runTerminated job (env.logIds before.logged)]

theorem filter_isLogged_terminated (identity : Identity) (finished : Nat)
    (asked : Option (List Invocation)) :
    (noted env.logIds before.logged [.runStarted job]
        ++ resolutionEntries identity finished asked
        ++ terminationEntries env job records resolved before).filter Entry.isLogged =
      terminatedLog env job records resolved before := by
  have unlogged : ((callsMade env job records resolved).map Entry.invoked).filter Entry.isLogged =
      [] := by
    simp [List.filter_map, Function.comp_def, Entry.isLogged]
  simp only [terminationEntries, launchEntries, joinEntries, List.filter_append,
    filter_isLogged_noted, filter_isLogged_resolutionEntries, unlogged]
  simp [terminatedLog, Entry.isLogged]

theorem callStart?_terminatedLog :
    (terminatedLog env job records resolved before).filterMap Entry.callStart? =
      startsTold env.logIds job.method resolved.logged records := by
  simp only [terminatedLog, List.filterMap_append, callStart?_callStarted, callStart?_callEnded,
    List.append_nil]
  exact List.append_nil _

theorem callEnd?_terminatedLog :
    (terminatedLog env job records resolved before).filterMap Entry.callEnd? =
      (callsSettling env job records resolved).map EndedCall.told := by
  simp only [terminatedLog, List.filterMap_append, callEnd?_callStarted, callEnd?_callEnded,
    List.append_nil]
  exact List.append_nil _

theorem isWhole_terminatedLog :
    ∀ entry ∈ terminatedLog env job records resolved before, entry.IsWhole := by
  intro entry listed
  simp only [terminatedLog, List.mem_append] at listed
  rcases listed with ((started | called) | ended) | terminated
  · rw [List.mem_singleton.mp started]
    exact Entry.isWhole_other rfl (by decide) (by decide)
  · exact isWhole_callStarted _ _ _ _ _ entry called
  · exact isWhole_callEnded _ _ _ _ _ entry ended
  · rw [List.mem_singleton.mp terminated]
    exact Entry.isWhole_other rfl (by decide) (by decide)

theorem callId_told_perm :
    (((callsSettling env job records resolved).map EndedCall.told).map CallEnd.callId).Perm
      (callIds env records resolved) := by
  rw [List.map_map, funext (f := CallEnd.callId ∘ EndedCall.told) EndedCall.callId_told]
  exact callId_callsSettling_perm env job records resolved

theorem callsToldBy_terminatedLog :
    callsToldBy (terminatedLog env job records resolved before) =
      undatedCalls (finalCalls env job records resolved) := by
  have issued : (startsTold env.logIds job.method resolved.logged records).foldl CallStart.enter
      [] = undatedCalls (callsIssued env job records resolved) :=
    foldl_startsTold env.logIds env.clock job.method records resolved.logged
      resolved.clockReads []
  rw [callsToldBy, callStart?_terminatedLog, callEnd?_terminatedLog, issued, finalCalls]
  exact foldl_told env.clock (callsSettling env job records resolved) _ _

theorem found_callsEnded : ∀ call ∈ callsEnded env job records resolved,
    ∃ params start finish, Entries.valueAt? call.callId (finalCalls env job records resolved) =
      some ((CallRecord.started job.method params start).settle call.result finish) := by
  intro call listed
  obtain ⟨place, ended⟩ := List.mem_iff_getElem?.mp listed
  obtain ⟨id, result, named, answered, same⟩ := List.getElem?_zipWith_eq_some.mp ended
  subst same
  have below : place < records.length := by
    rw [← length_callIds env records resolved]
    exact (List.getElem?_eq_some_iff.mp named).1
  obtain ⟨start, finish, found⟩ := (finalCalls_settled env job records resolved).found place id _
    result named (List.getElem?_eq_getElem below) answered
  exact ⟨_, start, finish, found⟩

theorem accounts_terminatedLog :
    ∀ ended ∈ (callsSettling env job records resolved).map EndedCall.told,
      ∃ call, Entries.valueAt? ended.callId (finalCalls env job records resolved) = some call ∧
        ended.Accounts call := by
  intro told listed
  obtain ⟨ended, settling, rfl⟩ := List.mem_map.mp listed
  obtain ⟨params, start, finish, found⟩ := found_callsEnded env job records resolved ended
    ((callsSettling_perm env job records resolved).subset settling)
  rw [EndedCall.callId_told]
  exact ⟨_, found, ended.accounts_told job.method params start finish⟩

variable {env job before}

/-- The log of a terminated run accounts for its report: each call's end is told once, with its
outcome, each call's start in the order of dispatch, and the calls follow from it but for their
times. The event carries the same report. -/
theorem log_accounts_for_report {after : Progress} {report : Report}
    (terminates : (exec env job).run before = (.terminated report, after)) :
    ∃ (entries : List Entry) (records : List Record) (resolved : Progress) (calling : Identity)
      (ids : List String),
      let log := entries.filter Entry.isLogged
      let starts := log.filterMap Entry.callStart?
      let ends := log.filterMap Entry.callEnd?
      after.journal = before.journal ++ entries ∧ (∀ entry ∈ log, entry.IsWhole) ∧
      (resolveRecords env job).run (resolving env job before) = (.ok records, resolved) ∧
      (ends.map CallEnd.callId).Perm (Entries.keys report.calls) ∧
      (Entries.keys report.calls).Nodup ∧
      (∀ ended ∈ ends, ∃ call, Entries.valueAt? ended.callId report.calls = some call ∧
        ended.Accounts call) ∧
      starts.length = records.length ∧ ids.Perm (Entries.keys report.calls) ∧
      after.invocations =
        (starts.map fun start => ⟨calling, start.method, start.params⟩).reverse
          ++ resolved.invocations ∧
      (∀ (place : Nat) (start : CallStart), starts[place]? = some start →
        records[place]? = some start.params ∧ start.method = job.method ∧
        ∃ id call, ids[place]? = some id ∧ Entries.valueAt? id report.calls = some call ∧
          call.method = start.method ∧ call.params = start.params) ∧
      callsToldBy log = undatedCalls report.calls ∧
      Command.announcedEvents entries = [.terminated report] := by
  obtain ⟨records, resolved, callable, resolves, rfl, rfl⟩ := of_terminated terminates
  obtain ⟨queries, asked, own, left⟩ := exists_afterResolution env job (resolving env job before)
  rw [resolves] at left
  subst left
  let resolved := afterResolution env job (resolving env job before) queries asked
  have settled := finalCalls_settled env job records resolved
  have told := map_startsTold env.logIds resolved.logged job.method records
  let entries := noted env.logIds before.logged [.runStarted job]
    ++ resolutionEntries (callIdentity env job before) before.finished asked
    ++ terminationEntries env job records resolved before
  refine ⟨entries, records, resolved, callIdentity env job resolved,
    callIds env records resolved, ?_⟩
  intro log starts ends
  have logged : log = terminatedLog env job records resolved before :=
    filter_isLogged_terminated ..
  have started : starts = startsTold env.logIds job.method resolved.logged records :=
    (congrArg _ logged).trans (callStart?_terminatedLog ..)
  have ended : ends = (callsSettling env job records resolved).map EndedCall.told :=
    (congrArg _ logged).trans (callEnd?_terminatedLog ..)
  rw [logged, started, ended]
  refine ⟨journal_terminated env job before records queries asked,
    isWhole_terminatedLog env job records resolved before, resolves,
    (callId_told_perm ..).trans settled.keys.symm, Entries.nodup_keys settled.ascending,
    accounts_terminatedLog env job records resolved, ?_, settled.keys.symm, ?_, ?_,
    callsToldBy_terminatedLog .., ?_⟩
  · simpa using congrArg List.length told
  · have made := congrArg (List.map fun call : String × Record =>
      (⟨callIdentity env job resolved, call.1, call.2⟩ : Invocation)) told
    simp only [List.map_map, Function.comp_def] at made
    exact congrArg (fun calls => calls.reverse ++ resolved.invocations) made.symm
  · intro place start listed
    obtain ⟨given, method⟩ := getElem?_startsTold listed
    obtain ⟨id, call, named, found, sameMethod, sameParams, _⟩ :=
      found_callIds env job resolved given
    exact ⟨given, method, id, call, named, found, sameMethod.trans method.symm, sameParams⟩
  · simp only [entries, announcedEvents_append, announcedEvents_noted,
      announcedEvents_resolutionEntries, announcedEvents_terminationEntries, List.nil_append]
    rfl

theorem repeatingLog_accounts_for_report :
    ∃ (report : Report) (after : Progress) (entries : List Entry),
      (exec repeatingLog threeCalls).run {} = (.terminated report, after) ∧
      after.journal = entries ∧
      ((entries.filter Entry.isLogged).filterMap Entry.callStart?).length = 3 ∧
      callsToldBy (entries.filter Entry.isLogged) = undatedCalls report.calls := by
  have resolves : (resolveRecords repeatingLog threeCalls).run
      (resolving repeatingLog threeCalls {}) =
      (.ok threeRecords, resolving repeatingLog threeCalls {}) := rfl
  have terminates := run_exec_of_records repeatingLog threeCalls threeRecords _ rfl resolves
  obtain ⟨entries, records, _, _, _, journal, _, resolved, _, _, _, count, _, _, _, told, _⟩ :=
    log_accounts_for_report terminates
  have same : records = threeRecords :=
    Except.ok.inj (congrArg Prod.fst (resolved.symm.trans resolves))
  subst same
  exact ⟨_, _, entries, terminates, journal, count, told⟩

end Execution
end JobFanout
