import JobFanout.Proofs.EvaluationRelations
import JobFanout.Run.Execution
/-!
Comparing how two executors resolve the vector of a job. A relation between computations that
respects sequence and holds of the single steps holds of the whole.
-/
namespace JobFanout.Execution

/-- The two executors take related steps while they resolve a vector. -/
structure RelatedSteps (rel : {α : Type} → Execution α → Execution α → Prop)
    (env env' : Environment) : Prop where
  querying : rel (query env) (query env')
  opening : ∀ user, rel (openIdentity env user) (openIdentity env' user)
  closing : ∀ identity, rel (closeIdentity identity) (closeIdentity identity)
  calling : ∀ identity method params,
    rel (callSource env identity method params) (callSource env' identity method params)

theorem keepsHistory_surroundings (env : Environment) (identity : Option Identity) :
    (surroundings env identity).KeepsHistory Progress.invocations := fun _ => rfl

variable {rel : {α : Type} → Execution α → Execution α → Prop} {env env' : Environment}

theorem records_related (sequential : @ParamVector.Sequential Progress Progress rel)
    (steps : RelatedSteps rel env env') (identity : Option Identity)
    (vector : Option ParamVector) :
    rel (ParamVector.records (surroundings env identity) vector).run
      (ParamVector.records (surroundings env' identity) vector).run := by
  apply sequential.records steps.querying
  cases identity with
  | none => exact .none
  | some identity => exact .some (steps.calling identity)

theorem resolveRecords_related (sequential : @ParamVector.Sequential Progress Progress rel)
    (steps : RelatedSteps rel env env') (job : Job) :
    rel (resolveRecords env job) (resolveRecords env' job) := by
  unfold resolveRecords
  cases job.vector with
  | error error => exact sequential.pure _
  | ok vector =>
    by_cases mayCall : vector.any ParamVector.containsCall = true
    · simp only [if_pos mayCall]
      apply sequential.bind (steps.opening job.userId)
      intro identity
      apply sequential.bind (records_related sequential steps (some identity) vector)
      intro resolved
      exact sequential.bind (steps.closing identity) fun _ => sequential.pure _
    · simp only [if_neg mayCall]
      apply sequential.bind (records_related sequential steps none vector)
      intro resolved
      exact sequential.pure _

end JobFanout.Execution
