import JobFanout.Proofs.FailureIsolation
import JobFanout.Proofs.RunProtocol
/-!
Failed runs. A run fails for its type, or because its vector does not resolve, and in no other way;
what it leaves behind is what the resolution alone would leave, between two log entries.
-/
namespace JobFanout

theorem filter_isLogged_noted (logIds : Nat → String) (position : Nat) (notes : List Note) :
    (noted logIds position notes).filter Entry.isLogged = noted logIds position notes :=
  List.filter_eq_self.mpr (forall_noted (fun _ _ _ => rfl) logIds position)

theorem filter_isLogged_resolutionEntries (identity : Identity) (finished : Nat)
    (asked : Option (List Invocation)) :
    (resolutionEntries identity finished asked).filter Entry.isLogged = [] := by
  cases asked with
  | none => rfl
  | some asked => simp [resolutionEntries, Entry.isLogged]

namespace Execution
variable (env : Environment) (job : Job)

/-- What a run that failed has done. `alone` is the state that the resolution of the job, on its own
and from the same state, ends in. -/
structure LeftByFailure (error : JobError) (before alone after : Progress) : Prop where
  journal : ∃ (queries : Nat) (asked : Option (List Invocation)),
    (job.isCall = false → asked = none) ∧
    (job.isCall = true → alone = afterResolution env job before queries asked) ∧
    (∀ calls ∈ asked, ∀ call ∈ calls, call.identity = callIdentity env job before) ∧
    after.journal = before.journal ++ (noted env.logIds before.logged [.runStarted job]
      ++ resolutionEntries (callIdentity env job before) before.finished asked
      ++ noted env.logIds (before.logged + 1)
          [.runFailed job (env.logIds before.logged) error]) ∧
    after.opened = before.opened + asked.toList.length ∧
    after.invocations = (asked.getD []).reverse ++ before.invocations
  log : after.journal.filter Entry.isLogged = before.journal.filter Entry.isLogged
    ++ noted env.logIds before.logged
        [.runStarted job, .runFailed job (env.logIds before.logged) error]
  events : Command.announcedEvents after.journal = Command.announcedEvents before.journal

/-! The log and the events of a failed run follow from its journal. -/

variable {env job}

theorem LeftByFailure.of_journal {error : JobError} {before alone after : Progress}
    (queries : Nat) (asked : Option (List Invocation)) (untouched : job.isCall = false → asked = none)
    (resolved : job.isCall = true → alone = afterResolution env job before queries asked)
    (own : ∀ calls ∈ asked, ∀ call ∈ calls, call.identity = callIdentity env job before)
    (ended : after = afterFailure env job before error
      (afterResolution env job (resolving env job before) queries asked)) :
    LeftByFailure env job error before alone after := by
  subst ended
  have whole := journal_failed env job before error queries asked
  constructor
  · exact ⟨queries, asked, untouched, resolved, own, whole, rfl, rfl⟩
  · simp only [whole, List.filter_append, filter_isLogged_noted,
      filter_isLogged_resolutionEntries]
    rfl
  · simp only [whole, announcedEvents_append, announcedEvents_noted,
      announcedEvents_resolutionEntries, List.append_nil]

variable (env job)

theorem failed_iff (before : Progress) (id : String) (error : JobError) :
    ((exec env job).run before).1 = .failed id error ↔
      id = env.logIds before.logged ∧
        (job.isCall = false ∧ error = .unsupportedType job.type ∨
          job.isCall = true ∧ ((resolveRecords env job).run before).1 = .error error) := by
  obtain ⟨_, _, _, _, _, sameResult⟩ :=
    exists_afterResolution_alike env job (sameHistory_resolving env job before)
  cases ran : (exec env job).run before with
  | mk outcome after =>
  cases exec_ends ran with
  | otherType uncallable => simp [uncallable, eq_comm]
  | unresolved callable resolves =>
    rw [resolves] at sameResult
    simp [callable, sameResult, eq_comm]
  | terminated callable resolves =>
    rw [resolves] at sameResult
    simp [callable, sameResult]

theorem left_by_failure {before : Progress} {error : JobError}
    (failed : ((exec env job).run before).1.error? = some error) :
    LeftByFailure env job error before ((resolveRecords env job).run before).2
      ((exec env job).run before).2 := by
  obtain ⟨queries, asked, own, alone, resolved, _⟩ :=
    exists_afterResolution_alike env job (sameHistory_resolving env job before)
  cases ran : (exec env job).run before with
  | mk outcome after =>
  rw [ran] at failed
  cases exec_ends ran with
  | otherType uncallable =>
    cases failed
    exact .of_journal 0 none (fun _ => rfl) (by simp [uncallable]) nofun rfl
  | unresolved callable resolves =>
    cases failed
    rw [resolves] at resolved
    exact .of_journal queries asked (by simp [callable]) (fun _ => alone) own
      (congrArg (afterFailure env job before error) resolved)
  | terminated callable resolves => cases failed

theorem terminates_of_records {before : Progress} {records : List Record}
    (callable : job.isCall = true)
    (resolves : ((resolveRecords env job).run before).1 = .ok records) (api : Api)
    (losses : List Invocation → Invocation → Option Loss) (settling : Nat → List Nat)
    (clock : Nat → Instant)
    (alike : AlikeBetween env api before.invocations
      ((resolveRecords env job).run before).2.invocations) :
    ∃ report,
      ((exec (env.answering api losses settling clock) job).run before).1 = .terminated report ∧
      report.calls.length = records.length := by
  obtain ⟨sameResult, _, _, sameCalls⟩ := resolveRecords_fromHistory env job before
    (resolving env job before) (sameHistory_resolving env job before)
  rw [resolves] at sameResult
  rw [sameCalls] at alike
  have resolved := (resolveRecords_answering env api losses settling clock job alike
    (Prod.ext sameResult.symm rfl)).1
  rw [run_exec_of_records _ job records _ callable resolved]
  have keys := (finalCalls_settled (env.answering api losses settling clock) job records
    ((resolveRecords env job).run (resolving env job before)).2).keys.length_eq
  exact ⟨_, rfl, by simpa [Entries.keys, finalReport] using keys⟩

/-- A run fails if and only if its job is of another type or the resolution of its records fails,
alone and from the same state; it leaves only what that resolution leaves, between two log entries.
Once the records are known no call can keep the run from terminating, not even one whose task is
lost. -/
theorem exec_fails_only_unresolved (before : Progress) :
    let (outcome, after) := (exec env job).run before
    let (result, alone) := (resolveRecords env job).run before
    (∀ id error, outcome = .failed id error ↔
      id = env.logIds before.logged ∧
        (job.isCall = false ∧ error = .unsupportedType job.type ∨
          job.isCall = true ∧ result = .error error)) ∧
    (job.isCall = false → ∀ vector,
      (exec env { job with paramsVector := vector }).run before = (outcome, after)) ∧
    (∀ error, outcome.error? = some error → LeftByFailure env job error before alone after) ∧
    ∀ records, job.isCall = true → result = .ok records → ∀ api losses settling clock,
      AlikeBetween env api before.invocations alone.invocations →
      ∃ report, ((exec (env.answering api losses settling clock) job).run before).1 =
          .terminated report ∧
        report.calls.length = records.length := by
  refine ⟨failed_iff env job before, ?_, fun _ => left_by_failure env job, ?_⟩
  · intro uncallable vector
    have other : { job with paramsVector := vector }.isCall = false := uncallable
    exact (run_exec_of_type env _ other).trans (run_exec_of_type env job uncallable).symm
  · intro records callable resolves api losses settling clock
    exact terminates_of_records env job callable resolves api losses settling clock

def refusedListing : Environment :=
  { listedMachines with api := fun _ _ => .error (.rejected "not allowed") }

theorem refusedListing_fails_unresolved :
    (∃ error, ((exec refusedListing startListed).run {}).1 = .failed "evt-0" error ∧
      LeftByFailure refusedListing startListed error {}
        ((resolveRecords refusedListing startListed).run {}).2
        ((exec refusedListing startListed).run {}).2) ∧
    ∃ report, ((exec (repeatingLog.answering secondReturned (fun _ _ => some .cancelled)
        (fun _ => []) fun _ => .epoch) threeCalls).run {}).1 = .terminated report ∧
      report.calls.length = 3 := by
  constructor
  · obtain ⟨fails, _, left, _⟩ := exec_fails_only_unresolved refusedListing startListed {}
    have refused : ((resolveRecords refusedListing startListed).run {}).1 = .error _ := rfl
    have failed := (fails "evt-0" _).mpr ⟨rfl, .inr ⟨rfl, refused⟩⟩
    exact ⟨_, failed, left _ (by rw [failed]; rfl)⟩
  · obtain ⟨_, _, _, terminates⟩ := exec_fails_only_unresolved repeatingLog threeCalls {}
    exact terminates threeRecords rfl rfl secondReturned (fun _ _ => some .cancelled)
      (fun _ => []) (fun _ => .epoch) secondReturned_alike.nodes

end Execution
end JobFanout
