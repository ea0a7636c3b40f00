import JobFanout.Proofs.ResolutionTraces
/-!
The three ways in which a run can end, and the journal it leaves in each: the job is of another
type, its vector does not resolve, or all of its calls have ended. Facts about any run are read off
here.
-/
namespace JobFanout

theorem announcedEvents_resolutionEntries (identity : Identity) (finished : Nat)
    (asked : Option (List Invocation)) :
    Command.announcedEvents (resolutionEntries identity finished asked) = [] := by
  cases asked with
  | none => rfl
  | some asked => exact (announcedEvents_append _ _).trans (by rw [announcedEvents_invoked]; rfl)

namespace Execution
variable (env : Environment) (job : Job) (before : Progress)

/-- Everything that a run begun in `before` can come to. -/
inductive RunEnd : Outcome → Progress → Prop where
  | otherType (uncallable : job.isCall = false) :
      RunEnd (.failed (env.logIds before.logged) (.unsupportedType job.type))
        (afterFailure env job before (.unsupportedType job.type) (resolving env job before))
  | unresolved {error : JobError} {resolved : Progress} (callable : job.isCall = true)
      (resolves : (resolveRecords env job).run (resolving env job before) =
        (.error error, resolved)) :
      RunEnd (.failed (env.logIds before.logged) error)
        (afterFailure env job before error resolved)
  | terminated {records : List Record} {resolved : Progress} (callable : job.isCall = true)
      (resolves : (resolveRecords env job).run (resolving env job before) =
        (.ok records, resolved)) :
      RunEnd (.terminated (finalReport env job records resolved before))
        (afterTermination env job before records resolved)

variable {env job before}

theorem exec_ends {outcome : Outcome} {after : Progress}
    (ran : (exec env job).run before = (outcome, after)) :
    RunEnd env job before outcome after := by
  cases callable : job.isCall with
  | false =>
    cases (run_exec_of_type env job callable).symm.trans ran
    exact .otherType callable
  | true =>
    cases resolves : (resolveRecords env job).run (resolving env job before) with
    | mk result resolved =>
      cases result with
      | ok records =>
        cases (run_exec_of_records env job records resolved callable resolves).symm.trans ran
        exact .terminated callable resolves
      | error error =>
        cases (run_exec_of_error env job resolved callable resolves).symm.trans ran
        exact .unresolved callable resolves

theorem of_terminated {report : Report} {after : Progress}
    (terminates : (exec env job).run before = (.terminated report, after)) :
    ∃ records resolved, job.isCall = true ∧
      (resolveRecords env job).run (resolving env job before) = (.ok records, resolved) ∧
      report = finalReport env job records resolved before ∧
      after = afterTermination env job before records resolved := by
  cases exec_ends terminates with
  | terminated callable resolves => exact ⟨_, _, callable, resolves, rfl, rfl⟩

variable (env job before)

/-! Journals. A run for a job of another type is one that asks for nothing. -/

theorem journal_afterResolution (state : Progress) (queries : Nat)
    (asked : Option (List Invocation)) :
    (afterResolution env job state queries asked).journal =
      state.journal ++ resolutionEntries (callIdentity env job state) state.finished asked :=
  journal_entered _ rfl

theorem journal_resolved (queries : Nat) (asked : Option (List Invocation)) :
    (afterResolution env job (resolving env job before) queries asked).journal =
      before.journal ++ (noted env.logIds before.logged [.runStarted job]
        ++ resolutionEntries (callIdentity env job before) before.finished asked) := by
  rw [journal_afterResolution, ← List.append_assoc]
  exact congrArg (· ++ _) (journal_entered [.logged ..] rfl)

theorem journal_failed (error : JobError) (queries : Nat) (asked : Option (List Invocation)) :
    (afterFailure env job before error
        (afterResolution env job (resolving env job before) queries asked)).journal =
      before.journal ++ (noted env.logIds before.logged [.runStarted job]
        ++ resolutionEntries (callIdentity env job before) before.finished asked
        ++ noted env.logIds (before.logged + 1)
            [.runFailed job (env.logIds before.logged) error]) := by
  rw [← List.append_assoc, ← journal_resolved env job before queries]
  exact journal_entered _ rfl

theorem journal_terminated (records : List Record) (queries : Nat)
    (asked : Option (List Invocation)) :
    (afterTermination env job before records
        (afterResolution env job (resolving env job before) queries asked)).journal =
      before.journal ++ (noted env.logIds before.logged [.runStarted job]
        ++ resolutionEntries (callIdentity env job before) before.finished asked
        ++ terminationEntries env job records
            (afterResolution env job (resolving env job before) queries asked) before) := by
  rw [← List.append_assoc, ← journal_resolved env job before queries]
  exact journal_entered _ rfl

variable {env job before}

theorem announcedEvents_of_terminates {report : Report} {after : Progress}
    (terminates : (exec env job).run before = (.terminated report, after)) :
    Command.announcedEvents after.journal =
      Command.announcedEvents before.journal ++ [.terminated report] := by
  obtain ⟨records, resolved, callable, resolves, rfl, rfl⟩ := of_terminated terminates
  obtain ⟨queries, asked, own, left⟩ := exists_afterResolution env job (resolving env job before)
  rw [resolves] at left
  subst left
  refine announcedEvents_terminated env job rfl ?_
  simp only [journal_resolved, announcedEvents_append, announcedEvents_noted,
    announcedEvents_resolutionEntries, List.append_nil]

end Execution
end JobFanout
