import JobFanout.Proofs.CallScan
import JobFanout.Proofs.RunEndings
import JobFanout.Run.Resolution
/-!
The scan for call nodes against evaluation. Where no call hides from it the scan is right:
evaluation makes no call and needs no API, so no run fails for want of one.
-/
namespace JobFanout.ParamVector
variable {σ : Type} {history : σ → List Invocation}

/-- Evaluation calls no API that it is given, and does not miss one. -/
structure NeverCalls (node : ParamVector) : Prop where
  value : ∀ snapshots api identity,
    (Resolution.value (Resolution.surroundings snapshots (some api) identity) node).2 = []
  records : ∀ snapshots api identity,
    (Resolution.records (Resolution.surroundings snapshots (some api) identity) (some node)).2 = []
  valueAlone : ∀ snapshots identity,
    (Resolution.value (Resolution.surroundings snapshots none identity) node).1
      ≠ .error .callsUnavailable
  recordsAlone : ∀ snapshots identity,
    (Resolution.records (Resolution.surroundings snapshots none identity) (some node)).1
      ≠ .error .callsUnavailable

/-! Evaluation that comes to no call. -/

variable {vector : ParamVector} {around : Surroundings σ}

theorem ne_callsUnavailable_of_plain (error : ResolveError) (plain : error.Plain) :
    error ≠ .callsUnavailable := by
  rintro rfl
  exact plain

theorem records_quiet (keeps : around.KeepsHistory history) (unreached : ∀ method params property,
    ¬ Reaches vector (.call method params property)) :
    Quiet history (· ≠ .callsUnavailable) (records around (some vector)) := by
  apply quiet_records ne_callsUnavailable_of_plain keeps
  rintro node same method params property reached
  cases same
  exact (unreached method params property reached).elim

theorem neverCalls_of_unreached (unreached : ∀ method params property,
    ¬ Reaches vector (.call method params property)) : NeverCalls vector := by
  have keeps := Resolution.keepsHistory_surroundings
  have value := fun snapshots api identity =>
    quiet_evaluate ne_callsUnavailable_of_plain (keeps snapshots api identity) vector
      fun method params property reached => (unreached method params property reached).elim
  have records := fun snapshots api identity =>
    records_quiet (keeps snapshots api identity) unreached
  constructor
  case value => exact fun snapshots api identity => (value snapshots (some api) identity).resolved_calls
  case records =>
    exact fun snapshots api identity => (records snapshots (some api) identity).resolved_calls
  case valueAlone =>
    exact fun snapshots identity missed => (value snapshots none identity {}).2 _ missed rfl
  case recordsAlone =>
    exact fun snapshots identity missed => (records snapshots none identity {}).2 _ missed rfl

theorem not_neverCalls_call (method : String) (params : Json) (property : Option String) :
    ¬ NeverCalls (.call method params property) := fun never =>
  never.valueAlone (fun _ => .ok []) ⟨"", ""⟩ rfl

theorem not_hidesCall_iff (unseen : vector.containsCall = false) :
    ¬ HidesCall vector ↔ ∀ node, Reaches vector node → NeverCalls node := by
  constructor
  · intro plain node reached
    apply neverCalls_of_unreached
    intro method params property called
    exact unreached_of_not_hidesCall unseen plain method params property (reached.trans called)
  · rintro never ⟨collection, iteratee, iterateeArgs, reached, item, method, params, property, read⟩
    exact not_neverCalls_call method params property
      (never _ (reached.tail (.iteratee item read)))

end JobFanout.ParamVector

namespace JobFanout.Execution
variable (env : Environment) (job : Job)

theorem resolveRecords_available {vector : ParamVector} (parsed : job.vector = .ok (some vector))
    (unseen : vector.containsCall = false) (plain : ¬ vector.HidesCall) (before : Progress) :
    ((resolveRecords env job).run before).1 ≠ .error (.resolve .callsUnavailable) := by
  have quiet : ParamVector.Quiet Progress.invocations (· ≠ .callsUnavailable)
      (ParamVector.records (surroundings env none) (some vector)) :=
    ParamVector.records_quiet (keepsHistory_surroundings env none)
      (ParamVector.unreached_of_not_hidesCall unseen plain)
  have fine := (quiet before).2
  have resolves : ((resolveRecords env job).run before).1 =
      ((ParamVector.records (surroundings env none) (some vector)).run.run before).1.mapError
        .resolve := by
    simp only [resolveRecords, parsed, Option.any_some, unseen, Bool.false_eq_true, if_false]
    rfl
  rw [resolves]
  cases result : ((ParamVector.records (surroundings env none) (some vector)).run.run before).1 with
  | ok records => nofun
  | error error =>
    intro same
    cases same
    exact fine _ result rfl

theorem run_exec_error {error : JobError} {before : Progress}
    (failed : ((exec env job).run before).1.error? = some error) :
    error = .unsupportedType job.type ∨
      ((resolveRecords env job).run (resolving env job before)).1 = .error error := by
  cases ran : (exec env job).run before with
  | mk outcome after =>
  rw [ran] at failed
  cases exec_ends ran with
  | otherType _ => exact .inl (Option.some.inj failed).symm
  | unresolved _ resolves =>
    rw [resolves]
    exact .inr (congrArg Except.error (Option.some.inj failed))
  | terminated _ _ => cases failed

/-- The scan for calls is right, and withholding the API does no harm, where no call hides; and a
call hides only behind an argument `type` or in a map that evaluation reads. -/
theorem calls_only_if_hidden {vector : ParamVector} (unseen : vector.containsCall = false) :
    (¬ vector.HidesCall ↔ ∀ node, vector.Reaches node → node.NeverCalls) ∧
    (∀ collection iteratee iterateeArgs, vector.Reaches (.map collection iteratee iterateeArgs) →
      ParamVector.CallsItems iteratee iterateeArgs →
      Entries.valueAt? "type" iterateeArgs = some (.string ParamVector.Tag.call.text) ∨
        iteratee = ParamVector.Tag.call.text ∧
          vector.ReadLate (.map collection iteratee iterateeArgs)) ∧
    (¬ vector.HidesCall → ∀ (env : Environment) (job : Job) (before : Progress),
      job.vector = .ok (some vector) →
      ((resolveRecords env job).run before).1 ≠ .error (.resolve .callsUnavailable) ∧
      ((exec env job).run before).1.error? ≠ some (.resolve .callsUnavailable)) := by
  refine ⟨ParamVector.not_hidesCall_iff unseen, fun _ _ _ reached calls =>
    ParamVector.origin_of_hidden_call unseen reached calls, ?_⟩
  intro plain env job before parsed
  have available := resolveRecords_available env job parsed unseen plain
  refine ⟨available before, fun failed => ?_⟩
  rcases run_exec_error env job failed with other | same
  · cases other
  · exact available _ same

section Samples

open ParamVector

/-- The arguments make a call of what is written as a set. -/
def overriddenIteratee : ParamVector :=
  .map (.set [.object [("id", .string "vm-1")]]) "set"
    [("method", .string "vm.list"), ("type", .string "call")]

def nestedIteratee : ParamVector :=
  .map (.set [.null]) "map"
    [("collection", .object [("type", .string "set"), ("values", .array [.null])]),
      ("iteratee", .string "call"), ("iterateeArgs", .object [("method", .string "vm.list")])]

def renamedIds : ParamVector :=
  .map (.fetchObjects []) "extractProperties" [("pattern", .object [("id", .string "uuid")])]

theorem renamedIds_plain : ¬ renamedIds.HidesCall := by
  rintro ⟨collection, iteratee, iterateeArgs, reached, calls⟩
  rcases Relation.ReflTransGen.cases_head reached with same | ⟨middle, generated, onward⟩
  · cases same
    rcases type_of_callsItems calls with typed | named
    · cases typed
    · exact absurd named (by decide)
  · have leaf : middle.tag ≠ .map ∧ middle.tag ≠ .crossProduct := by
      cases generated with
      | collection => decide
      | iteratee item read =>
        have tag : middle.tag = .extractProperties := tag_of_typed read rfl
        rw [tag]
        decide
    rcases Relation.ReflTransGen.cases_head onward with rfl | ⟨next, generated, _⟩
    · exact leaf.1 rfl
    · cases generated with
      | item => exact leaf.2 rfl
      | collection => exact leaf.1 rfl
      | iteratee => exact leaf.1 rfl

theorem scan_of_samples :
    (renamedIds.containsCall = false ∧ ∀ node, renamedIds.Reaches node → node.NeverCalls) ∧
    (overriddenIteratee.containsCall = false ∧
      ¬ ∀ node, overriddenIteratee.Reaches node → node.NeverCalls) := by
  have unseen : overriddenIteratee.containsCall = false := rfl
  have unseen' : renamedIds.containsCall = false := rfl
  have hidden : overriddenIteratee.HidesCall :=
    ⟨_, _, _, .refl, .object [("id", .string "vm-1")], _, _, _, rfl⟩
  refine ⟨⟨rfl, ?_⟩, unseen, fun never => ?_⟩
  · exact (calls_only_if_hidden unseen').1.mp renamedIds_plain
  · exact (calls_only_if_hidden unseen).1.mpr never hidden

example : (Resolution.value (Resolution.surroundings (fun _ => .ok []) none ⟨"", ""⟩)
    overriddenIteratee).1 = .error .callsUnavailable := rfl

example : nestedIteratee.containsCall = false ∧
    (Resolution.value (Resolution.surroundings (fun _ => .ok []) none ⟨"", ""⟩) nestedIteratee).1 =
      .error .callsUnavailable := ⟨rfl, rfl⟩

end Samples

end JobFanout.Execution
