import JobFanout.Proofs.TimesAside
/-!
Exactly-once dispatch. Each record that a run resolves is called once and has one record in the
report, under an id of its own, with the result of its own call. Neither the ids that the log gives
nor the order in which the calls end can lose or confuse a result.
-/
namespace JobFanout

/-- The record shows this result and no other. -/
def CallRecord.Holds (call : CallRecord) : Except CallError Json → Prop
  | .ok value => call.returnedValue = some value ∧ call.error = none
  | .error error => call.returnedValue = none ∧ call.error = some error.message

namespace CallRecord
variable (method : String) (params : Record) (start finish : Instant)
  (result : Except CallError Json)

@[simp] theorem method_settle :
    ((started method params start).settle result finish).method = method := by
  cases result <;> rfl

@[simp] theorem params_settle :
    ((started method params start).settle result finish).params = params := by
  cases result <;> rfl

@[simp] theorem isSettled_settle (call : CallRecord) :
    (call.settle result finish).isSettled = true := by
  cases result <;> rfl

theorem holds_settle : ((started method params start).settle result finish).Holds result := by
  cases result <;> exact ⟨rfl, rfl⟩

end CallRecord

-- An answer depends on the invocations made before it, those of the same run included.
theorem getElem?_answersTo (api : Nat → Api) (task : Nat) (earlier made : List Invocation)
    (place : Nat) :
    (answersTo api task earlier made)[place]? = made[place]?.map fun invocation =>
      api (task + place) ((made.take place).reverse ++ earlier) invocation := by
  induction made generalizing task earlier place with
  | nil => simp [answersTo]
  | cons first rest ih =>
    cases place with
    | zero => simp [answersTo]
    | succ place => simp [answersTo, ih, Nat.add_assoc, Nat.add_comm 1]

namespace Execution
variable (env : Environment) (job : Job)

def reportAfter (runJobId : String) (report : Report) (done : List EndedCall)
    (launched : Progress) : Report :=
  ((done.foldlM (settleCall env job runJobId) report).run
    { launched with joined := launched.joined + 1 }).1

theorem hasKey_reportAfter (runJobId : String) {ended done rest : List EndedCall}
    {call : EndedCall} {report : Report} (launched : Progress)
    (ascending : Entries.Ascending report.calls)
    (known : ∀ call ∈ ended, call.callId ∈ Entries.keys report.calls)
    (next : ended = done ++ call :: rest) :
    Entries.hasKey call.callId (reportAfter env job runJobId report done launched).calls =
      true := by
  subst next
  have settled := run_settleCalls env job runJobId { launched with joined := launched.joined + 1 }
    done report ascending fun other member => known other (List.mem_append_left _ member)
  rw [reportAfter, settled, Entries.hasKey_iff, keys_settleAll ascending]
  exact known call (List.mem_append_right done List.mem_cons_self)

variable {records : List Record} (resolved : Progress)

theorem getElem?_callResults {place : Nat} {params : Record}
    (given : records[place]? = some params) :
    (callResults env job records resolved)[place]? =
      some (env.dispatched (resolved.spawned + place)
        (((callsMade env job records resolved).take place).reverse ++ resolved.invocations)
        ⟨callIdentity env job resolved, job.method, params⟩) := by
  simp [callResults, getElem?_answersTo, callsMade, given]

theorem found_callIds {place : Nat} {params : Record} (given : records[place]? = some params) :
    ∃ id call, (callIds env records resolved)[place]? = some id ∧
      Entries.valueAt? id (finalCalls env job records resolved) = some call ∧
      call.method = job.method ∧ call.params = params ∧ call.isSettled = true ∧
      call.Holds (env.dispatched (resolved.spawned + place)
        (((callsMade env job records resolved).take place).reverse ++ resolved.invocations)
        ⟨callIdentity env job resolved, job.method, params⟩) := by
  have below : place < (callIds env records resolved).length := by
    rw [length_callIds]
    exact (List.getElem?_eq_some_iff.mp given).1
  have named := List.getElem?_eq_getElem below
  obtain ⟨start, finish, found⟩ := (finalCalls_settled env job records resolved).found place _
    params _ named given (getElem?_callResults env job resolved given)
  exact ⟨_, _, named, found, CallRecord.method_settle .., CallRecord.params_settle ..,
    CallRecord.isSettled_settle .., CallRecord.holds_settle ..⟩

/-- Each record of a run is called once, in order and under one identity, and the report holds each
call's result under an id of its own. Whichever call ends next, the report has its record. -/
theorem exec_calls_each_record_once {before : Progress} (callable : job.isCall = true)
    (resolves : (resolveRecords env job).run (resolving env job before) =
      (.ok records, resolved)) :
    let begun := Report.started (env.logIds before.logged) (env.clock before.clockReads)
    let ((ended, issued), launched) := (launch env job records begun).run resolved
    ∃ (report : Report) (after : Progress) (identity : Identity) (ids : List String),
      (exec env job).run before = (.terminated report, after) ∧
      report.calls.length = records.length ∧
      ids.length = records.length ∧ ids.Nodup ∧ ids.Perm (Entries.keys report.calls) ∧
      after.invocations = (records.map fun params => ⟨identity, job.method, params⟩).reverse
        ++ resolved.invocations ∧
      (∀ place params, records[place]? = some params →
        ∃ id call, ids[place]? = some id ∧ Entries.valueAt? id report.calls = some call ∧
          call.method = job.method ∧ call.params = params ∧ call.isSettled = true ∧
          call.Holds (env.dispatched (resolved.spawned + place)
            (((records.take place).map fun params => ⟨identity, job.method, params⟩).reverse
              ++ resolved.invocations) ⟨identity, job.method, params⟩)) ∧
      ∀ done call rest, inSettlingOrder env launched.joined ended = done ++ call :: rest →
        Entries.hasKey call.callId
          (reportAfter env job begun.runJobId issued done launched).calls = true := by
  intro begun
  rw [run_launch env job records resolved begun rfl]
  have settled := finalCalls_settled env job records resolved
  have keys := settled.keys
  refine ⟨_, _, callIdentity env job resolved, callIds env records resolved,
    run_exec_of_records env job records resolved callable resolves, ?_, length_callIds ..,
    callIds_nodup .., keys.symm, rfl, ?_, ?_⟩
  · simpa [Entries.keys, finalReport] using keys.length_eq
  · intro place params given
    have found := found_callIds env job resolved given
    rwa [callsMade, ← List.map_take] at found
  · intro done call rest next
    refine hasKey_reportAfter env job begun.runJobId _ (ascending_callsIssued ..) ?_ next
    intro other member
    exact mem_keys_callsIssued env job records resolved other
      ((inSettlingOrder_perm ..).subset member)

section RepeatingLog

def threeRecords : List Record := [[("id", .string "vm-1")], [("id", .string "vm-2")], []]

def threeCalls : Job where
  id := "job-1"
  name := none
  userId := "admin"
  key := "genericTask"
  method := "vm.start"
  type := Job.callType
  paramsVector := some <| .object
    [("type", .string "set"), ("values", .array (threeRecords.map .object))]

/-- One id for every entry, and each call comes to another end; the last call ends first. -/
def repeatingLog : Environment where
  snapshots := fun _ => .ok []
  api := fun earlier _ =>
    if earlier.isEmpty then .ok (.bool true) else .error (.rejected "host unreachable")
  losses := fun earlier _ =>
    if earlier.length < 2 then none else some (.panicked (some "out of memory"))
  taskIds := toString
  logIds := fun _ => "evt"
  identityIds := fun number => "identity-" ++ toString (number + 1)
  clock := fun _ => .epoch
  settling := fun _ => [2, 0]

theorem exec_under_one_logged_id :
    (resolveRecords repeatingLog threeCalls).run (resolving repeatingLog threeCalls {}) =
      (.ok threeRecords, resolving repeatingLog threeCalls {}) ∧
    ∃ report after, (exec repeatingLog threeCalls).run {} = (.terminated report, after) ∧
      report.calls.length = 3 := by
  have resolves : (resolveRecords repeatingLog threeCalls).run
      (resolving repeatingLog threeCalls {}) =
      (.ok threeRecords, resolving repeatingLog threeCalls {}) := rfl
  obtain ⟨report, after, _, _, ends, count, _⟩ :=
    exec_calls_each_record_once repeatingLog threeCalls _ (by decide) resolves
  exact ⟨resolves, report, after, ends, count⟩

example : callIds repeatingLog threeRecords {} = ["evt", "evt-2", "evt-3"] := by decide

end RepeatingLog

end Execution
end JobFanout
