import JobFanout.Proofs.CallIds
import JobFanout.Proofs.SettlingOrders
/-!
What each phase of a run does, as one equation between the state it starts in and the state it ends
in: issuing the calls, making them, and entering how they ended. Callers use the equations and do
not open the phases again.
-/
namespace JobFanout

/-- The entries of notes written one after another, the first at `position`. -/
def noted (logIds : Nat → String) : (position : Nat) → List Note → List Entry
  | _, [] => []
  | position, note :: rest =>
    .logged note.level (logIds position) note.message note.data
      :: noted logIds (position + 1) rest

def EndedCall.note (job : Job) (runJobId : String) (ended : EndedCall) : Note :=
  .callEnded job runJobId ended.callId ended.result

def startedCalls (clock : Nat → Instant) (method : String) : (reads : Nat) → List Record →
    List CallRecord
  | _, [] => []
  | reads, params :: rest =>
    .started method params (clock reads) :: startedCalls clock method (reads + 1) rest

/-- What invocations come to that are made one after another, the first in task number `task`. -/
def answersTo (api : Nat → Api) : (task : Nat) → (earlier made : List Invocation) →
    List (Except CallError Json)
  | _, _, [] => []
  | task, earlier, invocation :: rest =>
    api task earlier invocation :: answersTo api (task + 1) (invocation :: earlier) rest

def settleAll (clock : Nat → Instant) : (reads : Nat) → List EndedCall → Entries CallRecord →
    Entries CallRecord
  | _, [], calls => calls
  | reads, ended :: rest, calls =>
    match Entries.valueAt? ended.callId calls with
    | none => settleAll clock reads rest calls
    | some call =>
      settleAll clock (reads + 1) rest
        (Entries.put ended.callId (call.settle ended.result (clock reads)) calls)

def Entries.bare {α : Type} (entries : Entries α) : Entries Unit :=
  entries.map fun entry => (entry.1, ())

@[simp] theorem length_noted (logIds : Nat → String) (position : Nat) (notes : List Note) :
    (noted logIds position notes).length = notes.length := by
  induction notes generalizing position with
  | nil => rfl
  | cons note rest ih => simp [noted, ih]

@[simp] theorem length_startedCalls (clock : Nat → Instant) (method : String) (reads : Nat)
    (records : List Record) :
    (startedCalls clock method reads records).length = records.length := by
  induction records generalizing reads with
  | nil => rfl
  | cons params rest ih => simp [startedCalls, ih]

theorem getElem?_startedCalls (clock : Nat → Instant) (method : String) (reads : Nat)
    {records : List Record} {place : Nat} {params : Record}
    (given : records[place]? = some params) :
    ∃ start, (startedCalls clock method reads records)[place]? =
      some (CallRecord.started method params start) := by
  induction records generalizing reads place with
  | nil => simp at given
  | cons first rest ih =>
    cases place with
    | zero =>
      obtain rfl : first = params := by simpa using given
      exact ⟨clock reads, rfl⟩
    | succ place => exact ih (reads + 1) (by simpa using given)

@[simp] theorem length_answersTo (api : Nat → Api) (task : Nat) (earlier made : List Invocation) :
    (answersTo api task earlier made).length = made.length := by
  induction made generalizing task earlier with
  | nil => rfl
  | cons invocation rest ih => simp [answersTo, ih]

/-! Settling keeps the ids, and changes only the records of the calls that have ended. -/

theorem keys_settle {calls : Entries CallRecord} (ascending : Entries.Ascending calls)
    {callId : String} {call : CallRecord} (known : Entries.valueAt? callId calls = some call)
    (settled : CallRecord) :
    Entries.keys (Entries.put callId settled calls) = Entries.keys calls := by
  refine Entries.keys_put_of_present ascending (Entries.hasKey_iff.mp ?_) settled
  simp [Entries.hasKey, known]

theorem ascending_settleAll {calls : Entries CallRecord} (ascending : Entries.Ascending calls)
    (clock : Nat → Instant) (reads : Nat) (ended : List EndedCall) :
    Entries.Ascending (settleAll clock reads ended calls) := by
  induction ended generalizing reads calls with
  | nil => exact ascending
  | cons call rest ih =>
    unfold settleAll
    split
    · exact ih ascending reads
    · exact ih (Entries.ascending_put ascending call.callId _) (reads + 1)

theorem keys_settleAll {calls : Entries CallRecord} (ascending : Entries.Ascending calls)
    (clock : Nat → Instant) (reads : Nat) (ended : List EndedCall) :
    Entries.keys (settleAll clock reads ended calls) = Entries.keys calls := by
  induction ended generalizing reads calls with
  | nil => rfl
  | cons call rest ih =>
    unfold settleAll
    split
    · exact ih ascending reads
    · next found =>
      rw [ih (Entries.ascending_put ascending call.callId _) (reads + 1)]
      exact keys_settle ascending found _

theorem valueAt?_settleAll_other {calls : Entries CallRecord}
    (ascending : Entries.Ascending calls) (clock : Nat → Instant) (reads : Nat)
    {ended : List EndedCall} {callId : String} (other : ∀ call ∈ ended, call.callId ≠ callId) :
    Entries.valueAt? callId (settleAll clock reads ended calls) =
      Entries.valueAt? callId calls := by
  induction ended generalizing reads calls with
  | nil => rfl
  | cons call rest ih =>
    have different := other call List.mem_cons_self
    have later := fun call' member => other call' (List.mem_cons_of_mem call member)
    unfold settleAll
    split
    · exact ih ascending reads later
    · rw [ih (Entries.ascending_put ascending call.callId _) (reads + 1) later,
        Entries.valueAt?_put ascending, if_neg different]

-- Each call ends once, so its record is settled from the started one and not touched again.
theorem valueAt?_settleAll {calls : Entries CallRecord} (ascending : Entries.Ascending calls)
    (clock : Nat → Instant) (reads : Nat) {ended : List EndedCall}
    (once : (ended.map EndedCall.callId).Nodup) {call : EndedCall} (present : call ∈ ended)
    {before : CallRecord} (known : Entries.valueAt? call.callId calls = some before) :
    ∃ finish, Entries.valueAt? call.callId (settleAll clock reads ended calls) =
      some (before.settle call.result finish) := by
  induction ended generalizing reads calls with
  | nil => simp at present
  | cons first rest ih =>
    rw [List.map_cons, List.nodup_cons] at once
    rcases List.mem_cons.mp present with rfl | later
    · refine ⟨clock reads, ?_⟩
      have others : ∀ other ∈ rest, other.callId ≠ call.callId := fun other member same =>
        once.1 (same ▸ List.mem_map_of_mem member)
      simp only [settleAll, known]
      rw [valueAt?_settleAll_other (Entries.ascending_put ascending call.callId _) _ _ others,
        Entries.valueAt?_put ascending, if_pos rfl]
    · have different : first.callId ≠ call.callId := fun same =>
        once.1 (same ▸ List.mem_map_of_mem later)
      unfold settleAll
      split
      · exact ih ascending reads once.2 later known
      · apply ih (Entries.ascending_put ascending first.callId _) (reads + 1) once.2 later
        rw [Entries.valueAt?_put ascending, if_neg different, known]

namespace Execution
variable {α β : Type} (env : Environment) (job : Job) (runJobId : String) (state : Progress)

/-! One equation for each thing that can be done. -/

theorem run_bind (first : Execution α) (next : α → Execution β) :
    (first >>= next).run state = (next (first.run state).1).run (first.run state).2 := rfl

theorem run_pure (value : α) : (pure value : Execution α).run state = (value, state) := rfl

theorem run_get : (get : Execution Progress).run state = (state, state) := rfl

theorem run_modify (change : Progress → Progress) :
    (modify change : Execution Unit).run state = ((), change state) := rfl

theorem run_discard (done : Execution α) :
    (discard done).run state = ((), (done.run state).2) := rfl

theorem run_record (entry : Entry) :
    (record entry).run state = ((), { state with latest := entry :: state.latest }) := rfl

theorem run_log (note : Note) :
    (log env note).run state =
      (env.logIds state.logged,
        { state with
          latest := (noted env.logIds state.logged [note]).reverse ++ state.latest
          logged := state.logged + 1 }) := rfl

theorem run_openIdentity (user : String) :
    (openIdentity env user).run state =
      (⟨env.identityIds state.opened, user⟩,
        { state with
          latest := .opened ⟨env.identityIds state.opened, user⟩ :: state.latest
          opened := state.opened + 1 }) := rfl

theorem run_closeIdentity (identity : Identity) :
    (closeIdentity identity).run state =
      ((), { state with latest := .closed identity state.finished :: state.latest }) := rfl

theorem run_now :
    (now env).run state =
      (env.clock state.clockReads, { state with clockReads := state.clockReads + 1 }) := rfl

theorem run_query :
    (query env).run state =
      (env.snapshots state.queried, { state with queried := state.queried + 1 }) := rfl

theorem run_spawn (identity : Identity) (method : String) (params : Record) :
    (spawn env identity method params).run state =
      (env.dispatched state.spawned state.invocations ⟨identity, method, params⟩,
        { state with
          latest := .invoked ⟨identity, method, params⟩ :: state.latest
          spawned := state.spawned + 1
          invocations := ⟨identity, method, params⟩ :: state.invocations }) := rfl

theorem run_finishCall :
    finishCall.run state = ((), { state with finished := state.finished + 1 }) := rfl

theorem run_callSource (identity : Identity) (method : String) (params : Record)
    (state : Progress) :
    callSource env identity method params state =
      ((env.api state.invocations ⟨identity, method, params⟩).mapError CallError.message,
        { state with
          latest := .invoked ⟨identity, method, params⟩ :: state.latest
          finished := state.finished + 1
          invocations := ⟨identity, method, params⟩ :: state.invocations }) := rfl

/-! Issuing. -/

theorem run_issueCalls (records : List Record) (report : Report) :
    (issueCalls env job runJobId records report).run state =
      let ids := freshCallIds env.logIds state.logged records.length report.calls.bare
      ((List.zipWith PendingCall.mk ids records,
          { report with
            calls := Entries.putAll
              (ids.zip (startedCalls env.clock job.method state.clockReads records))
              report.calls }),
        { state with
          latest := (noted env.logIds state.logged
            (records.map (Note.callStarted job runJobId))).reverse ++ state.latest
          logged := state.logged + records.length
          clockReads := state.clockReads + records.length }) := by
  induction records generalizing report state with
  | nil => rfl
  | cons params rest ih =>
    have chosen := fun loggedId => unusedCallId_map (fun _ => ()) report.calls loggedId
    have entered : ∀ (id : String) (call : CallRecord),
        (report.enter id call).calls.bare = Entries.put id () report.calls.bare :=
      fun id call => Entries.map_put (fun _ => ()) id call report.calls
    simp only [issueCalls, run_bind, run_log, run_now, run_pure, ih, entered]
    simp only [← chosen, freshCallIds, noted, startedCalls, List.length_cons, List.map_cons,
      List.zipWith_cons_cons, List.zip_cons_cons, List.reverse_cons, List.reverse_nil,
      List.append_assoc, List.nil_append, Report.enter, Entries.putAll, List.foldl_cons,
      Entries.bare, Nat.add_assoc, Nat.add_comm 1]

/-! Making. -/

theorem run_makeCalls (identity : Identity) (pending : List PendingCall) :
    (makeCalls env job identity pending).run state =
      let made : List Invocation := pending.map fun call => ⟨identity, job.method, call.params⟩
      (List.zipWith (fun call result => ⟨call.callId, result⟩) pending
          (answersTo env.dispatched state.spawned state.invocations made),
        { state with
          latest := (made.map Entry.invoked).reverse ++ state.latest
          spawned := state.spawned + pending.length
          invocations := made.reverse ++ state.invocations }) := by
  induction pending generalizing state with
  | nil => rfl
  | cons call rest ih =>
    simp only [makeCalls, run_bind, run_spawn, run_pure, ih]
    simp only [List.map_cons, answersTo, List.zipWith_cons_cons, List.reverse_cons,
      List.append_assoc, List.cons_append, List.nil_append, List.length_cons, Nat.add_assoc,
      Nat.add_comm 1]

/-! Settling. -/

theorem run_settleCall {report : Report} {call : EndedCall} {before : CallRecord}
    (found : Entries.valueAt? call.callId report.calls = some before) :
    (settleCall env job runJobId report call).run state =
      (report.enter call.callId (before.settle call.result (env.clock state.clockReads)),
        { state with
          latest := (noted env.logIds state.logged [call.note job runJobId]).reverse
            ++ state.latest
          logged := state.logged + 1
          clockReads := state.clockReads + 1
          finished := state.finished + 1 }) := by
  simp only [settleCall, run_bind, run_finishCall, found, run_discard, run_log, run_now, run_pure,
    EndedCall.note]

/-- No call is passed over if the report knows all of them. -/
theorem run_settleCalls (ended : List EndedCall) (report : Report)
    (ascending : Entries.Ascending report.calls)
    (known : ∀ call ∈ ended, call.callId ∈ Entries.keys report.calls) :
    (ended.foldlM (settleCall env job runJobId) report).run state =
      ({ report with calls := settleAll env.clock state.clockReads ended report.calls },
        { state with
          latest := (noted env.logIds state.logged
            (ended.map (EndedCall.note job runJobId))).reverse ++ state.latest
          logged := state.logged + ended.length
          clockReads := state.clockReads + ended.length
          finished := state.finished + ended.length }) := by
  induction ended generalizing report state with
  | nil => rfl
  | cons call rest ih =>
    obtain ⟨before, found⟩ := Entries.exists_valueAt?_of_mem (known call List.mem_cons_self)
    have stillKnown : ∀ settled, ∀ other ∈ rest,
        other.callId ∈ Entries.keys (report.enter call.callId settled).calls := by
      intro settled other member
      rw [Report.enter, keys_settle ascending found settled]
      exact known other (List.mem_cons_of_mem call member)
    have later := fun settled state => ih state (report.enter call.callId settled)
      (Entries.ascending_put ascending call.callId settled) (stillKnown settled)
    simp only [List.foldlM_cons, run_bind, run_settleCall env job runJobId state found, later]
    simp only [settleAll, found, noted, Report.enter, List.length_cons, List.map_cons,
      List.reverse_cons, List.reverse_nil, List.append_assoc, List.nil_append, Nat.add_assoc,
      Nat.add_comm 1]

theorem run_joinCalls (ended : List EndedCall) (report : Report)
    (ascending : Entries.Ascending report.calls)
    (known : ∀ call ∈ ended, call.callId ∈ Entries.keys report.calls) :
    (joinCalls env job runJobId ended report).run state =
      let settling := inSettlingOrder env state.joined ended
      ({ report with calls := settleAll env.clock state.clockReads settling report.calls },
        { state with
          latest := (noted env.logIds state.logged
            (settling.map (EndedCall.note job runJobId))).reverse ++ state.latest
          logged := state.logged + ended.length
          clockReads := state.clockReads + ended.length
          finished := state.finished + ended.length
          joined := state.joined + 1 }) := by
  have reordered := inSettlingOrder_perm env state.joined ended
  have settled := fun begun => run_settleCalls env job runJobId begun
    (inSettlingOrder env state.joined ended) report ascending
    (fun call member => known call (reordered.subset member))
  simp only [joinCalls, run_bind, run_get, run_modify, settled, reordered.length_eq]

end Execution
end JobFanout
