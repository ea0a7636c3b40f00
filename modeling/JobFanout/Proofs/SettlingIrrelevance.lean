import JobFanout.Proofs.ReorderedJournals
import JobFanout.Proofs.RunRelations
/-!
The order of settling does not matter. Two executors that differ in the order in which calls end,
and in their clocks, stay in step over any list of steps: the same ids, invocations and counters, and
journals that differ only where the calls of one run end.
-/
namespace JobFanout

/-- The same world, but calls end in other orders and at other times. -/
def Environment.rescheduled (env : Environment) (settling : Nat → List Nat)
    (clock : Nat → Instant) : Environment :=
  { env with settling, clock }

inductive InStep (logIds : Nat → String) (left : Progress) : Progress → Prop where
  | intro {latest : List Entry} (reordered : Reordered logIds left.journal latest.reverse) :
      InStep logIds left { left with latest }

theorem InStep.refl (logIds : Nat → String) (progress : Progress) :
    InStep logIds progress progress :=
  .intro (Reordered.refl progress.journal)

theorem InStep.journal {logIds : Nat → String} {left right : Progress}
    (inStep : InStep logIds left right) : Reordered logIds left.journal right.journal := by
  obtain ⟨reordered⟩ := inStep
  exact reordered

theorem InStep.invocations_eq {logIds : Nat → String} {left right : Progress}
    (inStep : InStep logIds left right) : left.invocations = right.invocations := by
  obtain ⟨_⟩ := inStep
  rfl

namespace Execution
variable {α β γ δ : Type}

/-- From states in step to states in step, with related results. -/
def LockStep (logIds : Nat → String) (rel : α → β → Prop) (left : Execution α)
    (right : Execution β) : Prop :=
  ∀ start start', InStep logIds start start' →
    rel (left.run start).1 (right.run start').1 ∧
      InStep logIds (left.run start).2 (right.run start').2

namespace LockStep
variable {logIds : Nat → String} {rel : α → β → Prop} {rel' : γ → δ → Prop}

theorem pure {value : α} {value' : β} (related : rel value value') :
    LockStep logIds rel (pure value) (pure value') :=
  fun _ _ inStep => ⟨related, inStep⟩

theorem bind {left : Execution α} {right : Execution β} {next : α → Execution γ}
    {next' : β → Execution δ} (first : LockStep logIds rel left right)
    (second : ∀ value value', rel value value' →
      LockStep logIds rel' (next value) (next' value')) :
    LockStep logIds rel' (left >>= next) (right >>= next') := by
  intro start start' inStep
  obtain ⟨related, between⟩ := first start start' inStep
  exact second _ _ related _ _ between

theorem discard {left : Execution α} {right : Execution β} (both : LockStep logIds rel left right) :
    LockStep logIds Eq (discard left) (discard right) :=
  fun start start' inStep => ⟨rfl, (both start start' inStep).2⟩

end LockStep

variable (env : Environment) (settling : Nat → List Nat) (clock : Nat → Instant) (job : Job)

/-! Phases of a run that enter the same on both sides. -/

theorem lockStep_query :
    LockStep env.logIds Eq (query env) (query (env.rescheduled settling clock)) := by
  rintro start _ ⟨reordered⟩
  rw [run_query, run_query]
  exact ⟨rfl, .intro reordered⟩

theorem lockStep_openIdentity (user : String) :
    LockStep env.logIds Eq (openIdentity env user)
      (openIdentity (env.rescheduled settling clock) user) := by
  rintro start _ ⟨reordered⟩
  rw [run_openIdentity, run_openIdentity]
  exact ⟨rfl, .intro (reordered.enter (.refl [.opened _]))⟩

theorem lockStep_closeIdentity (identity : Identity) :
    LockStep env.logIds Eq (closeIdentity identity) (closeIdentity identity) := by
  rintro start _ ⟨reordered⟩
  rw [run_closeIdentity, run_closeIdentity]
  exact ⟨rfl, .intro (reordered.enter (.refl [.closed identity start.finished]))⟩

theorem lockStep_callSource (identity : Identity) (method : String) (params : Record) :
    LockStep env.logIds Eq (callSource env identity method params)
      (callSource (env.rescheduled settling clock) identity method params) := by
  rintro start _ ⟨reordered⟩
  constructor
  · rfl
  · exact .intro (reordered.enter (.refl [.invoked ⟨identity, method, params⟩]))

theorem lockStep_sequential (logIds : Nat → String) :
    @ParamVector.Sequential Progress Progress (LockStep logIds Eq) where
  pure _ := .pure rfl
  bind first second := first.bind fun value _ same => same ▸ second value

theorem lockStep_resolveRecords :
    LockStep env.logIds Eq (resolveRecords env job)
      (resolveRecords (env.rescheduled settling clock) job) := by
  apply resolveRecords_related (lockStep_sequential env.logIds)
  constructor
  case querying => exact lockStep_query env settling clock
  case opening => exact lockStep_openIdentity env settling clock
  case closing => exact lockStep_closeIdentity env
  case calling => exact lockStep_callSource env settling clock

/-! Whole runs. -/

theorem lockStep_log (note : Note) :
    LockStep env.logIds Eq (log env note) (log (env.rescheduled settling clock) note) := by
  rintro start _ ⟨reordered⟩
  rw [run_log, run_log]
  exact ⟨rfl, .intro (reordered.enter (.refl (noted env.logIds start.logged [note])))⟩

theorem lockStep_record {entry entry' : Entry} (alike : entry.undated = entry'.undated) :
    LockStep env.logIds Eq (record entry) (record entry') := by
  rintro start _ ⟨reordered⟩
  rw [run_record, run_record]
  exact ⟨rfl, .intro (reordered.enter (.same alike .nil))⟩

structure BothBegun (left right : Report) : Prop where
  undated : left.undated = right.undated
  fresh : left.calls = []
  fresh' : right.calls = []

theorem BothBegun.runJobId {left right : Report} (begun : BothBegun left right) :
    left.runJobId = right.runJobId := by
  have same := congrArg Report.runJobId begun.undated
  exact same

theorem lockStep_beginRun :
    LockStep env.logIds BothBegun (beginRun env job)
      (beginRun (env.rescheduled settling clock) job) := by
  rintro start _ ⟨reordered⟩
  rw [run_beginRun, run_beginRun]
  constructor
  · exact ⟨rfl, rfl, rfl⟩
  · exact .intro (reordered.enter (.refl (noted env.logIds start.logged [.runStarted job])))

-- Only here do the two sides differ: the calls of the run end in two orders.
theorem lockStep_dispatch (records : List Record) {report report' : Report}
    (begun : BothBegun report report') :
    LockStep env.logIds (fun left right => left.undated = right.undated)
      (dispatch env job records report)
      (dispatch (env.rescheduled settling clock) job records report') := by
  rintro resolved _ ⟨reordered⟩
  rw [run_dispatch env job records resolved report begun.fresh,
    run_dispatch _ job records _ report' begun.fresh', ← begun.runJobId]
  have sameCalls := (finalCalls_settled env job records resolved).undated_eq
    (finalCalls_settled (env.rescheduled settling clock) job records resolved)
  -- Each side ends the same calls in an order of its own.
  have reorderedCalls := (callsSettling_perm env job records resolved).trans
    (callsSettling_perm (env.rescheduled settling clock) job records resolved).symm
  refine ⟨?_, .intro (reordered.enter (.append (.refl _) ?_))⟩
  · exact congrArg (Report.mk report.runJobId .epoch (some .epoch)) sameCalls
  · exact .ofCallsEnded job _ _ reorderedCalls

theorem lockStep_attempt {report report' : Report} (begun : BothBegun report report') :
    LockStep env.logIds
      (fun left right => left.map Report.undated = right.map Report.undated)
      (attempt env job report) (attempt (env.rescheduled settling clock) job report') := by
  unfold attempt
  cases job.isCall with
  | false => exact .pure rfl
  | true =>
    refine .bind (lockStep_resolveRecords env settling clock job) ?_
    rintro resolved _ rfl
    cases resolved with
    | error error => exact .pure rfl
    | ok records =>
      refine .bind (lockStep_dispatch env settling clock job records begun) ?_
      intro final final' same
      exact .pure (congrArg Except.ok same)

theorem lockStep_exec :
    LockStep env.logIds (fun left right => left.undated = right.undated) (exec env job)
      (exec (env.rescheduled settling clock) job) := by
  unfold exec
  refine .bind (lockStep_beginRun env settling clock job) ?_
  intro report report' begun
  rw [← begun.runJobId]
  refine .bind (lockStep_attempt env settling clock job begun) ?_
  intro attempted attempted' same
  -- Either both attempts got through or both failed for the same reason.
  cases attempted with
  | ok final =>
    cases attempted' with
    | error error => cases same
    | ok final' =>
      have sameFinal : final.undated = final'.undated := Except.ok.inj same
      refine .bind (lockStep_record env ?_) fun _ _ _ => ?_
      · exact congrArg (fun report => Entry.announced (.terminated report)) sameFinal
      · refine .bind (lockStep_log env settling clock _).discard fun _ _ _ => ?_
        exact .pure (congrArg Outcome.terminated sameFinal)
  | error error =>
    cases attempted' with
    | ok final' => cases same
    | error error' =>
      obtain rfl : error = error' := Except.error.inj same
      refine .bind (lockStep_log env settling clock _).discard fun _ _ _ => ?_
      exact .pure rfl

theorem lockStep_execAll (jobs : List Job) :
    LockStep env.logIds
      (fun left right => left.map Outcome.undated = right.map Outcome.undated)
      (execAll env jobs) (execAll (env.rescheduled settling clock) jobs) := by
  induction jobs with
  | nil => exact .pure rfl
  | cons job rest ih =>
    refine .bind (lockStep_exec env settling clock job) fun first first' same => ?_
    refine .bind ih fun others others' sameOthers => .pure ?_
    rw [List.map_cons, List.map_cons, same, sameOthers]

theorem lockStep_perform (step : Step) :
    LockStep env.logIds (fun left right => left.undated = right.undated) (perform env step)
      (perform (env.rescheduled settling clock) step) := by
  cases step with
  | exec job =>
    refine .bind (lockStep_exec env settling clock job) fun left right same => ?_
    exact .pure (congrArg StepAnswer.outcome same)
  | sequence jobs =>
    refine .bind (lockStep_execAll env settling clock jobs) fun left right same => ?_
    exact .pure (congrArg StepAnswer.outcomes same)
  | resolve job =>
    refine .bind (lockStep_resolveRecords env settling clock job) ?_
    rintro resolved _ rfl
    exact .pure rfl

theorem lockStep_performAll (steps : List Step) :
    LockStep env.logIds
      (fun left right => left.map StepAnswer.undated = right.map StepAnswer.undated)
      (performAll env steps) (performAll (env.rescheduled settling clock) steps) := by
  induction steps with
  | nil => exact .pure rfl
  | cons step rest ih =>
    refine .bind (lockStep_perform env settling clock step) fun first first' same => ?_
    refine .bind ih fun others others' sameOthers => .pure ?_
    rw [List.map_cons, List.map_cons, same, sameOthers]

/-- Whatever the orders in which calls end, and whatever the clocks: the same outcomes, events,
invocations and identities, and logs that differ in the order of the ended calls of each run. -/
theorem settling_order_irrelevant (steps : List Step) (before : Progress) :
    let (answers, after) := (performAll env steps).run before
    let (answers', after') := (performAll (env.rescheduled settling clock) steps).run before
    answers.map StepAnswer.undated = answers'.map StepAnswer.undated ∧
      (Command.announcedEvents after.journal).map JobEvent.undated =
        (Command.announcedEvents after'.journal).map JobEvent.undated ∧
      after.invocations = after'.invocations ∧
      after.journal.filterMap Entry.ofIdentity? = after'.journal.filterMap Entry.ofIdentity? ∧
      after.journal.countP Entry.isLogged = after'.journal.countP Entry.isLogged ∧
      Reordered env.logIds after.journal after'.journal := by
  obtain ⟨sameAnswers, inStep⟩ := lockStep_performAll env settling clock steps before before
    (.refl env.logIds before)
  have reordered := inStep.journal
  exact ⟨sameAnswers, reordered.announcedEvents_eq, inStep.invocations_eq,
    reordered.ofIdentity_eq, reordered.countP_isLogged_eq, reordered⟩

end Execution
end JobFanout
