import JobFanout.Proofs.RunPhases
/-!
What becomes of a run. `resolved` is the state in which the records of a run are known; from it and
the records follow the ids, the invocations, the results, the report and all entries of the rest of
the run. Only the report and the entries of ended calls depend on the order of settling.
-/
namespace JobFanout

/-- Each call of a run under its id: its own record, settled with its own result. -/
structure SettledCalls (method : String) (ids : List String) (records : List Record)
    (results : List (Except CallError Json)) (calls : Entries CallRecord) : Prop where
  ascending : Entries.Ascending calls
  keys : (Entries.keys calls).Perm ids
  recorded : records.length = ids.length
  answered : results.length = ids.length
  found : ∀ (place : Nat) (id : String) (params : Record) (result : Except CallError Json),
    ids[place]? = some id → records[place]? = some params → results[place]? = some result →
    ∃ start finish, Entries.valueAt? id calls =
      some ((CallRecord.started method params start).settle result finish)

namespace SettledCalls
variable {method : String} {ids : List String} {records : List Record}
  {results : List (Except CallError Json)} {calls : Entries CallRecord}

theorem exists_place (settled : SettledCalls method ids records results calls)
    {entry : String × CallRecord} (listed : entry ∈ calls) :
    ∃ (place : Nat) (params : Record) (result : Except CallError Json) (start finish : Instant),
      records[place]? = some params ∧ results[place]? = some result ∧
      entry.2 = (CallRecord.started method params start).settle result finish := by
  have named : entry.1 ∈ ids := settled.keys.subset (List.mem_map_of_mem listed)
  obtain ⟨place, below, own⟩ := List.mem_iff_getElem.mp named
  have given := List.getElem?_eq_getElem (settled.recorded.symm ▸ below)
  have answered := List.getElem?_eq_getElem (settled.answered.symm ▸ below)
  obtain ⟨start, finish, found⟩ := settled.found place entry.1 _ _
    (List.getElem?_eq_some_iff.mpr ⟨below, own⟩) given answered
  have present := Entries.valueAt?_of_mem (Entries.nodup_keys settled.ascending) listed
  exact ⟨place, _, _, start, finish, given, answered,
    Option.some.inj (present.symm.trans found)⟩

theorem exists_settle (settled : SettledCalls method ids records results calls)
    {entry : String × CallRecord} (listed : entry ∈ calls) :
    ∃ params start result finish,
      entry.2 = (CallRecord.started method params start).settle result finish := by
  obtain ⟨_, params, result, start, finish, _, _, same⟩ := settled.exists_place listed
  exact ⟨params, start, result, finish, same⟩

end SettledCalls

namespace Execution
variable (env : Environment) (job : Job) (records : List Record) (resolved : Progress)

/-- The state in which a run resolves its vector: its start is logged and timed. -/
def resolving (before : Progress) : Progress := ((beginRun env job).run before).2

def callIdentity : Identity := ⟨env.identityIds resolved.opened, job.userId⟩

def callIds : List String := freshCallIds env.logIds resolved.logged records.length []

def callsMade : List Invocation :=
  records.map fun params => ⟨callIdentity env job resolved, job.method, params⟩

def callResults : List (Except CallError Json) :=
  answersTo env.dispatched resolved.spawned resolved.invocations
    (callsMade env job records resolved)

def callsEnded : List EndedCall :=
  List.zipWith EndedCall.mk (callIds env records resolved) (callResults env job records resolved)

def callsSettling : List EndedCall :=
  inSettlingOrder env resolved.joined (callsEnded env job records resolved)

def callsIssued : Entries CallRecord :=
  Entries.putAll ((callIds env records resolved).zip
    (startedCalls env.clock job.method resolved.clockReads records)) []

def finalCalls : Entries CallRecord :=
  settleAll env.clock (resolved.clockReads + records.length)
    (callsSettling env job records resolved) (callsIssued env job records resolved)

def launchEntries (runJobId : String) : List Entry :=
  [.opened (callIdentity env job resolved)]
    ++ noted env.logIds resolved.logged (records.map (Note.callStarted job runJobId))
    ++ [.closed (callIdentity env job resolved) resolved.finished]
    ++ (callsMade env job records resolved).map Entry.invoked

def joinEntries (runJobId : String) : List Entry :=
  noted env.logIds (resolved.logged + records.length)
    ((callsSettling env job records resolved).map (EndedCall.note job runJobId))

/-- The report of the run that began in `before`. -/
def finalReport (before : Progress) : Report where
  runJobId := env.logIds before.logged
  start := env.clock before.clockReads
  finish := some (env.clock (resolved.clockReads + 2 * records.length))
  calls := finalCalls env job records resolved

def terminationEntries (before : Progress) : List Entry :=
  launchEntries env job records resolved (env.logIds before.logged)
    ++ joinEntries env job records resolved (env.logIds before.logged)
    ++ [.announced (.terminated (finalReport env job records resolved before))]
    ++ noted env.logIds (resolved.logged + 2 * records.length)
        [.runTerminated job (env.logIds before.logged)]

/-! Lengths, and the ids once each. -/

@[simp] theorem length_callIds : (callIds env records resolved).length = records.length :=
  length_freshCallIds ..

@[simp] theorem length_callResults :
    (callResults env job records resolved).length = records.length := by
  simp [callResults, callsMade]

@[simp] theorem length_callsEnded :
    (callsEnded env job records resolved).length = records.length := by
  simp [callsEnded]

theorem callIds_nodup : (callIds env records resolved).Nodup := by
  have distinct := (freshCallIds_nodup env.logIds resolved.logged records.length []).mpr
    List.Pairwise.nil
  simpa [callIds] using distinct

theorem callId_callsEnded :
    (callsEnded env job records resolved).map EndedCall.callId = callIds env records resolved := by
  rw [callsEnded, List.map_zipWith]
  exact List.map_zip_eq_zipWith.symm.trans (List.map_fst_zip (by simp))

theorem callsSettling_perm :
    (callsSettling env job records resolved).Perm (callsEnded env job records resolved) :=
  inSettlingOrder_perm env resolved.joined _

@[simp] theorem length_callsSettling :
    (callsSettling env job records resolved).length = records.length := by
  rw [(callsSettling_perm env job records resolved).length_eq, length_callsEnded]

theorem callId_callsSettling_perm :
    ((callsSettling env job records resolved).map EndedCall.callId).Perm
      (callIds env records resolved) := by
  rw [← callId_callsEnded env job]
  exact (callsSettling_perm env job records resolved).map EndedCall.callId

/-! The report's calls. -/

theorem ascending_callsIssued :
    Entries.Ascending (callsIssued env job records resolved) :=
  Entries.ascending_putAll Entries.ascending_nil _

theorem keys_started :
    Entries.keys ((callIds env records resolved).zip
      (startedCalls env.clock job.method resolved.clockReads records)) =
      callIds env records resolved :=
  List.map_fst_zip (by simp)

theorem keys_callsIssued_perm :
    (Entries.keys (callsIssued env job records resolved)).Perm (callIds env records resolved) := by
  let started := (callIds env records resolved).zip
    (startedCalls env.clock job.method resolved.clockReads records)
  have distinct : (Entries.keys (started ++ [])).Nodup := by
    rw [List.append_nil, keys_started]
    exact callIds_nodup env records resolved
  have entered := Entries.keys_putAll_perm distinct
  rwa [keys_started, Entries.keys_nil, List.append_nil] at entered

theorem mem_keys_callsIssued : ∀ call ∈ callsEnded env job records resolved,
    call.callId ∈ Entries.keys (callsIssued env job records resolved) := by
  intro call member
  apply (keys_callsIssued_perm env job records resolved).symm.subset
  rw [← callId_callsEnded env job]
  exact List.mem_map_of_mem member

theorem valueAt?_callsIssued {place : Nat} {id : String} {params : Record}
    (named : (callIds env records resolved)[place]? = some id)
    (given : records[place]? = some params) :
    ∃ start, Entries.valueAt? id (callsIssued env job records resolved) =
      some (CallRecord.started job.method params start) := by
  obtain ⟨start, started⟩ := getElem?_startedCalls env.clock job.method resolved.clockReads given
  have present : (id, CallRecord.started job.method params start) ∈
      (callIds env records resolved).zip
        (startedCalls env.clock job.method resolved.clockReads records) :=
    List.mem_of_getElem? (List.getElem?_zip_eq_some.mpr ⟨named, started⟩)
  have found := Entries.valueAt?_of_mem
    (by rw [keys_started]; exact callIds_nodup env records resolved) present
  refine ⟨start, ?_⟩
  rw [callsIssued, Entries.valueAt?_putAll Entries.ascending_nil, found]
  rfl

theorem finalCalls_settled :
    SettledCalls job.method (callIds env records resolved) records
      (callResults env job records resolved) (finalCalls env job records resolved) where
  ascending := ascending_settleAll (ascending_callsIssued env job records resolved) ..
  keys := by
    rw [finalCalls, keys_settleAll (ascending_callsIssued env job records resolved)]
    exact keys_callsIssued_perm env job records resolved
  recorded := by simp
  answered := by simp
  found := by
    intro place id params result named given answered
    obtain ⟨start, issued⟩ := valueAt?_callsIssued env job records resolved named given
    have ended : (⟨id, result⟩ : EndedCall) ∈ callsEnded env job records resolved :=
      List.mem_of_getElem? (List.getElem?_zipWith_eq_some.mpr ⟨id, result, named, answered, rfl⟩)
    have once := (callId_callsSettling_perm env job records resolved).nodup_iff.mpr
      (callIds_nodup env records resolved)
    obtain ⟨finish, settled⟩ := valueAt?_settleAll
      (ascending_callsIssued env job records resolved) env.clock
      (resolved.clockReads + records.length) once
      ((callsSettling_perm env job records resolved).symm.subset ended) issued
    exact ⟨start, finish, settled⟩

/-! The run. -/

theorem run_launch (report : Report) (fresh : report.calls = []) :
    (launch env job records report).run resolved =
      ((callsEnded env job records resolved,
          { report with calls := callsIssued env job records resolved }),
        { resolved with
          latest := (launchEntries env job records resolved report.runJobId).reverse
            ++ resolved.latest
          logged := resolved.logged + records.length
          opened := resolved.opened + 1
          clockReads := resolved.clockReads + records.length
          spawned := resolved.spawned + records.length
          invocations := (callsMade env job records resolved).reverse
            ++ resolved.invocations }) := by
  let pending := List.zipWith PendingCall.mk (callIds env records resolved) records
  have ids : pending.map PendingCall.callId = callIds env records resolved := by
    rw [List.map_zipWith]
    exact List.map_zip_eq_zipWith.symm.trans (List.map_fst_zip (by simp))
  have params : pending.map PendingCall.params = records := by
    rw [List.map_zipWith]
    exact List.map_zip_eq_zipWith.symm.trans (List.map_snd_zip (by simp))
  have made : pending.map (fun call =>
      (⟨callIdentity env job resolved, job.method, call.params⟩ : Invocation)) =
      callsMade env job records resolved := by
    rw [callsMade, ← params, List.map_map]
    rfl
  have ended : List.zipWith (fun (call : PendingCall) result =>
      (⟨call.callId, result⟩ : EndedCall)) pending
        (answersTo env.dispatched resolved.spawned resolved.invocations
          (callsMade env job records resolved)) = callsEnded env job records resolved := by
    rw [callsEnded, callResults, ← ids, List.zipWith_map_left]
  have count : pending.length = records.length := by simp [pending]
  have chosen : freshCallIds env.logIds resolved.logged records.length
      (Entries.bare ([] : Entries CallRecord)) = callIds env records resolved := rfl
  have identity : (⟨env.identityIds resolved.opened, job.userId⟩ : Identity) =
      callIdentity env job resolved := rfl
  simp only [launch, run_bind, run_openIdentity, run_issueCalls, run_closeIdentity, run_makeCalls,
    run_pure, fresh, chosen, identity]
  simp only [pending] at made ended count
  simp only [made, ended, count, callsIssued, launchEntries, List.reverse_append, List.reverse_cons,
    List.nil_append, List.cons_append, List.append_assoc]

theorem run_dispatch (report : Report) (fresh : report.calls = []) :
    (dispatch env job records report).run resolved =
      ({ report with
          calls := finalCalls env job records resolved
          finish := some (env.clock (resolved.clockReads + 2 * records.length)) },
        { resolved with
          latest := (launchEntries env job records resolved report.runJobId
            ++ joinEntries env job records resolved report.runJobId).reverse ++ resolved.latest
          logged := resolved.logged + 2 * records.length
          opened := resolved.opened + 1
          clockReads := resolved.clockReads + 2 * records.length + 1
          spawned := resolved.spawned + records.length
          finished := resolved.finished + records.length
          joined := resolved.joined + 1
          invocations := (callsMade env job records resolved).reverse
            ++ resolved.invocations }) := by
  have joined := fun launched => run_joinCalls env job report.runJobId launched
    (callsEnded env job records resolved)
    { report with calls := callsIssued env job records resolved }
    (ascending_callsIssued env job records resolved)
    (mem_keys_callsIssued env job records resolved)
  simp only [dispatch, run_bind, run_launch env job records resolved report fresh, joined, run_now,
    run_pure, length_callsEnded]
  simp only [finalCalls, callsSettling, joinEntries, List.reverse_append, List.append_assoc,
    Nat.add_assoc, Nat.two_mul]

def afterTermination (before : Progress) (records : List Record) (resolved : Progress) :
    Progress :=
  { resolved with
    latest := (terminationEntries env job records resolved before).reverse ++ resolved.latest
    logged := resolved.logged + 2 * records.length + 1
    opened := resolved.opened + 1
    clockReads := resolved.clockReads + 2 * records.length + 1
    spawned := resolved.spawned + records.length
    finished := resolved.finished + records.length
    joined := resolved.joined + 1
    invocations := (callsMade env job records resolved).reverse ++ resolved.invocations }

def afterFailure (before : Progress) (error : JobError) (resolved : Progress) : Progress :=
  { resolved with
    latest := (noted env.logIds resolved.logged
      [.runFailed job (env.logIds before.logged) error]).reverse ++ resolved.latest
    logged := resolved.logged + 1 }

theorem run_beginRun (before : Progress) :
    (beginRun env job).run before =
      (Report.started (env.logIds before.logged) (env.clock before.clockReads),
        resolving env job before) := rfl

theorem run_exec_of_records {before : Progress} (callable : job.isCall = true)
    (resolves : (resolveRecords env job).run (resolving env job before) =
      (.ok records, resolved)) :
    (exec env job).run before =
      (.terminated (finalReport env job records resolved before),
        afterTermination env job before records resolved) := by
  have dispatched := run_dispatch env job records resolved
    (Report.started (env.logIds before.logged) (env.clock before.clockReads)) rfl
  simp only [exec, attempt, run_bind, run_beginRun, callable, Bool.not_true, Bool.false_eq_true,
    if_false, resolves, dispatched, run_pure, run_record, run_discard, run_log]
  simp only [afterTermination, finalReport, terminationEntries, Report.started, noted, List.reverse_append,
    List.reverse_cons, List.reverse_nil, List.nil_append, List.cons_append, List.append_assoc]

theorem run_exec_of_error {before : Progress} {error : JobError} (callable : job.isCall = true)
    (resolves : (resolveRecords env job).run (resolving env job before) =
      (.error error, resolved)) :
    (exec env job).run before =
      (.failed (env.logIds before.logged) error, afterFailure env job before error resolved) := by
  simp only [exec, attempt, run_bind, run_beginRun, callable, Bool.not_true, Bool.false_eq_true,
    if_false, resolves, run_pure, run_discard, run_log, Report.started, afterFailure]

theorem run_exec_of_type {before : Progress} (uncallable : job.isCall = false) :
    (exec env job).run before =
      (.failed (env.logIds before.logged) (.unsupportedType job.type),
        afterFailure env job before (.unsupportedType job.type) (resolving env job before)) := by
  simp only [exec, attempt, run_bind, run_beginRun, uncallable, Bool.not_false, if_true, run_pure,
    run_discard, run_log, Report.started, afterFailure]

end Execution
end JobFanout
