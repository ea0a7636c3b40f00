import Mathlib.Logic.Relation
import JobFanout.Proofs.RunPhases
/-!
A run taken one step at a time. Its stages are the points between two steps: each holds the report
as it is there and what is still ahead. One step issues one call or enters how one call ended, and the
steps of a run lead from its start to its outcome and nowhere else.
-/
namespace JobFanout.Execution

inductive Ahead where
  | resolution
  /-- Records to issue calls for, under an open identity, behind the calls issued so far. -/
  | issuing (identity : Identity) (records : List Record) (issued : List PendingCall)
  /-- Calls to wait for, in the order in which they will end. -/
  | joining (ended : List EndedCall)
  | nothing
  | failure (error : JobError)

structure Stage where
  ahead : Ahead
  report : Report
  state : Progress

def Stage.outcome? (stage : Stage) : Option Outcome :=
  match stage.ahead with
  | .nothing => some (.terminated stage.report)
  | .failure error => some (.failed stage.report.runJobId error)
  | _ => none

theorem Stage.of_outcome_terminated {stage : Stage} {report : Report}
    (ended : stage.outcome? = some (.terminated report)) :
    stage.ahead = .nothing ∧ stage.report = report := by
  obtain ⟨ahead, own, state⟩ := stage
  cases ahead with
  | nothing =>
    cases ended
    exact ⟨rfl, rfl⟩
  | _ => cases ended

variable (env : Environment) (job : Job)

inductive Advances : Stage → Stage → Prop where
  | refuses {report : Report} {state : Progress} (uncallable : job.isCall = false) :
      Advances ⟨.resolution, report, state⟩ ⟨.failure (.unsupportedType job.type), report, state⟩
  | givesUp {report : Report} {state resolved : Progress} {error : JobError}
      (callable : job.isCall = true)
      (resolves : (resolveRecords env job).run state = (.error error, resolved)) :
      Advances ⟨.resolution, report, state⟩ ⟨.failure error, report, resolved⟩
  | resolves {report : Report} {state resolved opened : Progress} {records : List Record}
      {identity : Identity} (callable : job.isCall = true)
      (resolves : (resolveRecords env job).run state = (.ok records, resolved))
      (opens : (openIdentity env job.userId).run resolved = (identity, opened)) :
      Advances ⟨.resolution, report, state⟩ ⟨.issuing identity records [], report, opened⟩
  | issues {report entered : Report} {state after : Progress} {identity : Identity}
      {params : Record} {rest : List Record} {issued one : List PendingCall}
      (issue : (issueCalls env job report.runJobId [params] report).run state =
        ((one, entered), after)) :
      Advances ⟨.issuing identity (params :: rest) issued, report, state⟩
        ⟨.issuing identity rest (issued ++ one), entered, after⟩
  | makes {report : Report} {state closed called : Progress} {identity : Identity}
      {issued : List PendingCall} {ended : List EndedCall}
      (closes : (closeIdentity identity).run state = ((), closed))
      (make : (makeCalls env job identity issued).run closed = (ended, called)) :
      Advances ⟨.issuing identity [] issued, report, state⟩
        ⟨.joining (inSettlingOrder env called.joined ended), report,
          { called with joined := called.joined + 1 }⟩
  | settles {report entered : Report} {state after : Progress} {call : EndedCall}
      {rest : List EndedCall}
      (settle : (settleCall env job report.runJobId report call).run state = (entered, after)) :
      Advances ⟨.joining (call :: rest), report, state⟩ ⟨.joining rest, entered, after⟩
  | ends {report : Report} {state after : Progress} {finish : Instant}
      (timed : (now env).run state = (finish, after)) :
      Advances ⟨.joining [], report, state⟩
        ⟨.nothing, { report with finish := some finish }, after⟩

abbrev Leads : Stage → Stage → Prop := Relation.ReflTransGen (Advances env job)

def Stage.start (before : Progress) : Stage :=
  let (report, state) := (beginRun env job).run before
  ⟨.resolution, report, state⟩

def Stage.last (begun : Report) : Except JobError Report × Progress → Stage
  | (.ok report, state) => ⟨.nothing, report, state⟩
  | (.error error, state) => ⟨.failure error, begun, state⟩

variable {env job}

theorem advances_unique {stage next next' : Stage} (one : Advances env job stage next)
    (other : Advances env job stage next') : next = next' := by
  cases one with
  | refuses uncallable =>
    cases other with
    | refuses => rfl
    | givesUp callable => exact absurd callable (by simp [uncallable])
    | resolves callable => exact absurd callable (by simp [uncallable])
  | givesUp callable resolves =>
    cases other with
    | refuses uncallable => exact absurd callable (by simp [uncallable])
    | givesUp _ resolves' => cases resolves.symm.trans resolves'; rfl
    | resolves _ resolves' => cases resolves.symm.trans resolves'
  | resolves callable resolves opens =>
    cases other with
    | refuses uncallable => exact absurd callable (by simp [uncallable])
    | givesUp _ resolves' => cases resolves.symm.trans resolves'
    | resolves _ resolves' opens' =>
      cases resolves.symm.trans resolves'
      cases opens.symm.trans opens'
      rfl
  | issues issue =>
    cases other with
    | issues issue' => cases issue.symm.trans issue'; rfl
  | makes closes make =>
    cases other with
    | makes closes' make' =>
      cases closes.symm.trans closes'
      cases make.symm.trans make'
      rfl
  | settles settle =>
    cases other with
    | settles settle' => cases settle.symm.trans settle'; rfl
  | ends timed =>
    cases other with
    | ends timed' => cases timed.symm.trans timed'; rfl

theorem not_advances_of_outcome {stage next : Stage} {outcome : Outcome}
    (ended : stage.outcome? = some outcome) : ¬ Advances env job stage next := by
  intro step
  cases step <;> cases ended

theorem leads_to_end {first stage last : Stage} {outcome : Outcome}
    (ended : last.outcome? = some outcome) (toLast : Leads env job first last)
    (toStage : Leads env job first stage) : Leads env job stage last := by
  have unique : Relator.RightUnique (Advances env job) := fun _ _ _ => advances_unique
  rcases Relation.ReflTransGen.total_of_right_unique unique toLast toStage with beyond | before
  · cases beyond.cases_head with
    | inl same => exact same ▸ .refl
    | inr further =>
      obtain ⟨next, step, _⟩ := further
      exact absurd step (not_advances_of_outcome ended)
  · exact before

variable (env job)

/-! The loops of a run, step by step. -/

theorem runJobId_settleCall (runJobId : String) (report : Report) (call : EndedCall)
    (state : Progress) :
    ((settleCall env job runJobId report call).run state).1.runJobId = report.runJobId := by
  cases found : Entries.valueAt? call.callId report.calls with
  | none => simp only [settleCall, run_bind, found, run_pure]
  | some before => rw [run_settleCall env job runJobId state found]; rfl

theorem issuing_leads (identity : Identity) (records : List Record) (issued : List PendingCall)
    (report : Report) (state : Progress) :
    let run := (issueCalls env job report.runJobId records report).run state
    Leads env job ⟨.issuing identity records issued, report, state⟩
      ⟨.issuing identity [] (issued ++ run.1.1), run.1.2, run.2⟩ := by
  induction records generalizing issued report state with
  | nil =>
    simp only [issueCalls, run_pure, List.append_nil]
    exact .refl
  | cons params rest ih =>
    let one := (issueCalls env job report.runJobId [params] report).run state
    have step : Advances env job ⟨.issuing identity (params :: rest) issued, report, state⟩
        ⟨.issuing identity rest (issued ++ one.1.1), one.1.2, one.2⟩ := .issues rfl
    have later := ih (issued ++ one.1.1) one.1.2 one.2
    simp only [List.append_assoc] at later
    exact .head step later

theorem joining_leads (ended : List EndedCall) (report : Report) (state : Progress) :
    let run := (ended.foldlM (settleCall env job report.runJobId) report).run state
    Leads env job ⟨.joining ended, report, state⟩ ⟨.joining [], run.1, run.2⟩ := by
  induction ended generalizing report state with
  | nil => exact .refl
  | cons call rest ih =>
    let one := (settleCall env job report.runJobId report call).run state
    have step : Advances env job ⟨.joining (call :: rest), report, state⟩
        ⟨.joining rest, one.1, one.2⟩ := .settles rfl
    have later := ih one.1 one.2
    rw [runJobId_settleCall] at later
    exact .head step later

theorem dispatch_leads (records : List Record) (report : Report) (resolved : Progress) :
    let opening := (openIdentity env job.userId).run resolved
    let run := (dispatch env job records report).run resolved
    Leads env job ⟨.issuing opening.1 records [], report, opening.2⟩
      ⟨.nothing, run.1, run.2⟩ := by
  intro opening run
  let issuing := (issueCalls env job report.runJobId records report).run opening.2
  let closed := ((closeIdentity opening.1).run issuing.2).2
  let called := (makeCalls env job opening.1 issuing.1.1).run closed
  have issue := issuing_leads env job opening.1 records [] report opening.2
  have make : Advances env job ⟨.issuing opening.1 [] issuing.1.1, issuing.1.2, issuing.2⟩ _ :=
    .makes rfl rfl
  have join := joining_leads env job (inSettlingOrder env called.2.joined called.1) issuing.1.2
    { called.2 with joined := called.2.joined + 1 }
  have sameRun : issuing.1.2.runJobId = report.runJobId := by
    simp only [issuing, run_issueCalls]
  rw [sameRun] at join
  exact ((issue.tail make).trans join).tail (.ends rfl)

theorem attempt_leads (report : Report) (state : Progress) :
    Leads env job ⟨.resolution, report, state⟩
      (Stage.last report ((attempt env job report).run state)) := by
  unfold attempt
  cases callable : job.isCall with
  | false => exact .single (.refuses callable)
  | true =>
    simp only [Bool.not_true, Bool.false_eq_true, if_false, run_bind]
    cases resolves : (resolveRecords env job).run state with
    | mk result resolved =>
    cases result with
    | error error => exact .single (.givesUp callable resolves)
    | ok records =>
      exact .head (.resolves callable resolves rfl) (dispatch_leads env job records report resolved)

/-- Step by step a run comes to its outcome. -/
theorem exec_leads (before : Progress) :
    ∃ last, Leads env job (.start env job before) last ∧
      last.outcome? = some ((exec env job).run before).1 := by
  refine ⟨_, attempt_leads env job ((beginRun env job).run before).1
    ((beginRun env job).run before).2, ?_⟩
  rw [exec, run_bind, run_bind]
  cases (attempt env job ((beginRun env job).run before).1).run
    ((beginRun env job).run before).2 with
  | mk result state => cases result <;> rfl

end JobFanout.Execution
