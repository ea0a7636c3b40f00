import JobFanout.Proofs.ReportReadBack
import JobFanout.Proofs.RunStages
/-!
The life of a call's record. A record enters the report in flight, is settled once, and is then left
as it is; what was called and when does not change. The invariant behind it: at every stage the
records in flight are those of the calls that the run still waits for, each waited for once.
-/
namespace JobFanout

namespace CallRecord

structure InFlight (call : CallRecord) : Prop where
  finish : call.finish = none
  returnedValue : call.returnedValue = none
  error : call.error = none

structure Settled (call : CallRecord) : Prop where
  ended : call.isSettled = true
  outcome : call.hasOneOutcome = true

/-- What may become of a record: nothing, or its outcome if it was in flight. -/
structure Continues (call later : CallRecord) : Prop where
  method : later.method = call.method
  params : later.params = call.params
  start : later.start = call.start
  once : later = call ∨ call.InFlight ∧ later.Settled

theorem inFlight_started (method : String) (params : Record) (start : Instant) :
    (started method params start).InFlight := ⟨rfl, rfl, rfl⟩

theorem InFlight.not_settled {call : CallRecord} (inFlight : call.InFlight) : ¬ call.Settled := by
  intro settled
  have ended := settled.ended
  rw [isSettled, inFlight.finish] at ended
  cases ended

theorem InFlight.settled {call : CallRecord} (inFlight : call.InFlight)
    (result : Except CallError Json) (finish : Instant) : (call.settle result finish).Settled := by
  obtain ⟨method, params, start, _, _, _⟩ := call
  obtain ⟨rfl, rfl, rfl⟩ := inFlight
  exact ⟨isSettled_settle .., hasOneOutcome_settle method params start finish result⟩

theorem Continues.refl (call : CallRecord) : call.Continues call := ⟨rfl, rfl, rfl, .inl rfl⟩

theorem InFlight.continues {call : CallRecord} (inFlight : call.InFlight)
    (result : Except CallError Json) (finish : Instant) :
    call.Continues (call.settle result finish) := by
  have settled := inFlight.settled result finish
  cases result with
  | ok value => exact ⟨rfl, rfl, rfl, .inr ⟨inFlight, settled⟩⟩
  | error error => exact ⟨rfl, rfl, rfl, .inr ⟨inFlight, settled⟩⟩

theorem Continues.trans {call later last : CallRecord} (first : call.Continues later)
    (second : later.Continues last) : call.Continues last where
  method := second.method.trans first.method
  params := second.params.trans first.params
  start := second.start.trans first.start
  once := by
    rcases second.once with same | ⟨inFlight, settled⟩
    · exact same ▸ first.once
    · rcases first.once with same | ⟨_, already⟩
      · exact .inr ⟨same ▸ inFlight, settled⟩
      · exact absurd already inFlight.not_settled

end CallRecord

/-- No record is lost, and each goes on as a record may. -/
def RecordsContinue (calls later : Entries CallRecord) : Prop :=
  ∀ id call, Entries.valueAt? id calls = some call →
    ∃ call', Entries.valueAt? id later = some call' ∧ call.Continues call'

namespace RecordsContinue

theorem refl (calls : Entries CallRecord) : RecordsContinue calls calls :=
  fun _ call found => ⟨call, found, .refl call⟩

theorem trans {calls later last : Entries CallRecord} (first : RecordsContinue calls later)
    (second : RecordsContinue later last) : RecordsContinue calls last := by
  intro id call found
  obtain ⟨between, foundBetween, continues⟩ := first id call found
  obtain ⟨final, foundFinal, further⟩ := second id between foundBetween
  exact ⟨final, foundFinal, continues.trans further⟩

theorem put {calls : Entries CallRecord} (ascending : Entries.Ascending calls) {key : String}
    {written : CallRecord}
    (fits : ∀ call, Entries.valueAt? key calls = some call → call.Continues written) :
    RecordsContinue calls (Entries.put key written calls) := by
  intro id call found
  rw [Entries.valueAt?_put ascending]
  by_cases own : key = id
  · subst own
    exact ⟨written, if_pos rfl, fits call found⟩
  · exact ⟨call, (if_neg own).trans found, .refl call⟩

end RecordsContinue

theorem Report.succeededCount_add_failedCalls {report : Report}
    (outcomes : ∀ entry ∈ report.calls, entry.2.hasOneOutcome = true) :
    report.succeededCount + report.failedCalls.length = report.calls.length := by
  have failed : report.failedCalls.length =
      report.calls.countP fun entry => ¬ entry.2.isSucceeded = true := by
    rw [failedCalls, ← List.countP_eq_length_filter]
    apply List.countP_congr
    intro entry listed
    have one := outcomes entry listed
    rw [CallRecord.hasOneOutcome] at one
    cases succeeded : entry.2.isSucceeded <;> simp_all
  rw [failed, succeededCount]
  exact (List.length_eq_countP_add_countP _).symm

namespace Execution

def Ahead.waiting : Ahead → List String
  | .issuing _ _ issued => issued.map PendingCall.callId
  | .joining ended => ended.map EndedCall.callId
  | _ => []

/-- The records in flight are those that are waited for, each once. -/
structure Stage.Orderly (stage : Stage) : Prop where
  ascending : Entries.Ascending stage.report.calls
  once : stage.ahead.waiting.Nodup
  waited : ∀ id ∈ stage.ahead.waiting,
    ∃ call, Entries.valueAt? id stage.report.calls = some call ∧ call.InFlight
  settled : ∀ id call, Entries.valueAt? id stage.report.calls = some call →
    id ∉ stage.ahead.waiting → call.Settled

variable {env : Environment} {job : Job}

namespace Stage

theorem orderly_start (before : Progress) : (start env job before).Orderly where
  ascending := Entries.ascending_nil
  once := List.nodup_nil
  waited _ listed := nomatch listed
  settled _ _ found := nomatch found

theorem Orderly.inFlight_or_settled {stage : Stage} (orderly : stage.Orderly) :
    ∀ entry ∈ stage.report.calls, entry.2.InFlight ∨ entry.2.Settled := by
  intro entry listed
  have found := Entries.valueAt?_of_mem (Entries.nodup_keys orderly.ascending) listed
  by_cases waiting : entry.1 ∈ stage.ahead.waiting
  · obtain ⟨call, foundHere, inFlight⟩ := orderly.waited entry.1 waiting
    obtain rfl : entry.2 = call := Option.some.inj (found.symm.trans foundHere)
    exact .inl inFlight
  · exact .inr (orderly.settled entry.1 entry.2 found waiting)

theorem Orderly.reordered {stage next : Stage} (orderly : stage.Orderly)
    (sameCalls : next.report.calls = stage.report.calls)
    (reordered : next.ahead.waiting.Perm stage.ahead.waiting) : next.Orderly where
  ascending := sameCalls ▸ orderly.ascending
  once := reordered.nodup_iff.mpr orderly.once
  waited id listed := sameCalls ▸ orderly.waited id (reordered.subset listed)
  settled id call found absent :=
    orderly.settled id call (sameCalls ▸ found) fun listed => absent (reordered.symm.subset listed)

end Stage

/-! What one step keeps. -/

theorem run_issueCalls_one (env : Environment) (job : Job) (runJobId : String) (params : Record)
    (report : Report) (state : Progress) :
    let callId := unusedCallId report.calls (env.logIds state.logged)
    ((issueCalls env job runJobId [params] report).run state).1 =
      ([⟨callId, params⟩],
        report.enter callId (.started job.method params (env.clock state.clockReads))) := rfl

theorem callId_makeCalls (env : Environment) (job : Job) (identity : Identity)
    (issued : List PendingCall) (state : Progress) :
    ((makeCalls env job identity issued).run state).1.map EndedCall.callId =
      issued.map PendingCall.callId := by
  induction issued generalizing state with
  | nil => rfl
  | cons call rest ih =>
    have others := ih ((spawn env identity job.method call.params).run state).2
    exact congrArg (call.callId :: ·) others

theorem orderly_issues {identity : Identity} {params : Record} {rest : List Record}
    {issued : List PendingCall} {report : Report} {state after : Progress} {callId : String}
    {call : CallRecord}
    (orderly : Stage.Orderly ⟨.issuing identity (params :: rest) issued, report, state⟩)
    (fresh : callId ∉ Entries.keys report.calls) (inFlight : call.InFlight) :
    Stage.Orderly
      ⟨.issuing identity rest (issued ++ [⟨callId, params⟩]), report.enter callId call, after⟩ := by
  have waiting : (Ahead.issuing identity rest (issued ++ [⟨callId, params⟩])).waiting =
      issued.map PendingCall.callId ++ [callId] := List.map_append ..
  have lookup := fun id => Entries.valueAt?_put orderly.ascending callId id call
  have absent := Entries.valueAt?_eq_none.mpr fresh
  constructor
  case ascending => exact Entries.ascending_put orderly.ascending callId call
  case once =>
    rw [waiting]
    refine List.nodup_append.mpr ⟨orderly.once, List.nodup_singleton callId, ?_⟩
    intro id listed other own same
    obtain rfl : id = callId := same.trans (List.mem_singleton.mp own)
    obtain ⟨_, found, _⟩ := orderly.waited id listed
    rw [absent] at found
    cases found
  case waited =>
    intro id listed
    rw [waiting, List.mem_append, List.mem_singleton] at listed
    rw [Report.enter, lookup]
    by_cases own : callId = id
    · exact ⟨call, if_pos own, inFlight⟩
    · obtain ⟨earlier, found, still⟩ := orderly.waited id
        (listed.resolve_right fun same => own same.symm)
      exact ⟨earlier, (if_neg own).trans found, still⟩
  case settled =>
    intro id other found unwaited
    rw [waiting, List.mem_append, List.mem_singleton, not_or] at unwaited
    rw [Report.enter, lookup, if_neg (Ne.symm unwaited.2)] at found
    exact orderly.settled id other found unwaited.1

theorem orderly_settles {call : EndedCall} {rest : List EndedCall} {report : Report}
    {state after : Progress} {settled : CallRecord}
    (orderly : Stage.Orderly ⟨.joining (call :: rest), report, state⟩)
    (done : settled.Settled) :
    Stage.Orderly ⟨.joining rest, report.enter call.callId settled, after⟩ := by
  have lookup := fun id => Entries.valueAt?_put orderly.ascending call.callId id settled
  obtain ⟨unwaited, once⟩ := List.nodup_cons.mp orderly.once
  constructor
  case ascending => exact Entries.ascending_put orderly.ascending call.callId settled
  case once => exact once
  case waited =>
    intro id listed
    have different : call.callId ≠ id := fun same => unwaited (same ▸ listed)
    obtain ⟨other, found, inFlight⟩ := orderly.waited id (List.mem_cons_of_mem _ listed)
    exact ⟨other, (lookup id).trans ((if_neg different).trans found), inFlight⟩
  case settled =>
    intro id other found absent
    rw [Report.enter, lookup] at found
    by_cases own : call.callId = id
    · rw [if_pos own] at found
      exact Option.some.inj found ▸ done
    · rw [if_neg own] at found
      refine orderly.settled id other found fun listed => ?_
      exact (List.mem_cons.mp listed).elim (fun same => own same.symm) absent

/-- A step keeps the stage orderly and only continues the records. -/
theorem advances_orderly {stage next : Stage} (orderly : stage.Orderly)
    (step : Advances env job stage next) :
    next.Orderly ∧ RecordsContinue stage.report.calls next.report.calls := by
  cases step with
  | refuses | givesUp | resolves | ends => exact ⟨orderly.reordered rfl (.refl _), .refl _⟩
  | @makes report state closed called identity issued ended closes make =>
    refine ⟨orderly.reordered rfl ?_, .refl _⟩
    have sameIds := callId_makeCalls env job identity issued closed
    rw [make] at sameIds
    have reordered := (inSettlingOrder_perm env called.joined ended).map EndedCall.callId
    exact reordered.trans (.of_eq sameIds)
  | @issues report entered state after identity params rest issued one issue =>
    have run := run_issueCalls_one env job report.runJobId params report state
    rw [issue] at run
    cases run
    have fresh := unusedCallId_absent report.calls (env.logIds state.logged)
    refine ⟨orderly_issues orderly fresh (CallRecord.inFlight_started ..),
      .put orderly.ascending fun call found => ?_⟩
    rw [Entries.valueAt?_eq_none.mpr fresh] at found
    cases found
  | @settles report entered state after call rest settle =>
    obtain ⟨before, found, inFlight⟩ := orderly.waited call.callId List.mem_cons_self
    rw [run_settleCall env job report.runJobId state found] at settle
    cases settle
    refine ⟨orderly_settles orderly (inFlight.settled ..), .put orderly.ascending ?_⟩
    intro call' found'
    obtain rfl : before = call' := Option.some.inj (found.symm.trans found')
    exact inFlight.continues ..

/-! What a run keeps. -/

theorem leads_orderly {stage later : Stage} (orderly : stage.Orderly)
    (steps : Leads env job stage later) :
    later.Orderly ∧ RecordsContinue stage.report.calls later.report.calls := by
  induction steps with
  | refl => exact ⟨orderly, .refl _⟩
  | tail _ step ih =>
    obtain ⟨orderly, continues⟩ := ih
    obtain ⟨orderlyNext, further⟩ := advances_orderly orderly step
    exact ⟨orderlyNext, continues.trans further⟩

theorem settled_of_terminated {stage : Stage} {report : Report} (orderly : stage.Orderly)
    (ended : stage.outcome? = some (.terminated report)) :
    ∀ entry ∈ report.calls, entry.2.Settled := by
  obtain ⟨done, rfl⟩ := Stage.of_outcome_terminated ended
  intro entry listed
  have found := Entries.valueAt?_of_mem (Entries.nodup_keys orderly.ascending) listed
  exact orderly.settled entry.1 entry.2 found (by simp [done, Ahead.waiting])

variable (env job)

/-- Every stage of a run leads to its outcome, and at every stage each record is in flight or
settled. From a stage to a later one no record is lost, and none changes but from in flight to
settled. In a run that terminated all are settled, each counted as succeeded or as failed. -/
theorem records_settle_at_most_once (before : Progress) :
    let outcome := ((exec env job).run before).1
    let start := Stage.start env job before
    (∃ last, last.outcome? = some outcome ∧
      ∀ stage, Leads env job start stage → Leads env job stage last) ∧
    (∀ stage, Leads env job start stage →
      (∀ entry ∈ stage.report.calls, entry.2.InFlight ∨ entry.2.Settled) ∧
      ∀ later, Leads env job stage later →
        RecordsContinue stage.report.calls later.report.calls) ∧
    ∀ report, outcome = .terminated report →
      (∀ entry ∈ report.calls, entry.2.Settled) ∧
      report.succeededCount + report.failedCalls.length = report.calls.length := by
  intro outcome start
  obtain ⟨last, toLast, ended⟩ := exec_leads env job before
  have orderly : start.Orderly := Stage.orderly_start before
  refine ⟨⟨last, ended, fun stage => leads_to_end ended toLast⟩, ?_, ?_⟩
  · intro stage toStage
    obtain ⟨orderlyThere, _⟩ := leads_orderly orderly toStage
    exact ⟨orderlyThere.inFlight_or_settled, fun later further =>
      (leads_orderly orderlyThere further).2⟩
  · intro report terminated
    obtain ⟨orderlyLast, _⟩ := leads_orderly orderly toLast
    have settled := settled_of_terminated orderlyLast (ended.trans (congrArg some terminated))
    exact ⟨settled, Report.succeededCount_add_failedCalls fun entry listed =>
      (settled entry listed).outcome⟩

theorem repeatingLog_records_settle :
    ∃ report, ((exec repeatingLog threeCalls).run {}).1 = .terminated report ∧
      (∀ entry ∈ report.calls, entry.2.Settled) ∧
      report.succeededCount = 1 ∧ report.failedCalls.length = 2 ∧ report.calls.length = 3 := by
  have resolves : (resolveRecords repeatingLog threeCalls).run
      (resolving repeatingLog threeCalls {}) =
      (.ok threeRecords, resolving repeatingLog threeCalls {}) := rfl
  have terminates := run_exec_of_records repeatingLog threeCalls threeRecords _ rfl resolves
  obtain ⟨_, _, whole⟩ := records_settle_at_most_once repeatingLog threeCalls {}
  obtain ⟨settled, counted⟩ := whole _ (congrArg Prod.fst terminates)
  exact ⟨_, congrArg Prod.fst terminates, settled, by decide, by decide, by decide⟩

end Execution
end JobFanout
