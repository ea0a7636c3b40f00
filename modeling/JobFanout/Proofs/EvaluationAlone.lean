import JobFanout.Proofs.EvaluationNesting
import JobFanout.Run.Resolution
/-!
Evaluation without an API over objects that stay as they are. It uses no state, so all there is to it
is its result, and from every state evaluation comes to that.
-/
namespace JobFanout

namespace ParamVector
variable {σ ε α β : Type}

/-! Computations that have no state to use. -/

def outcome (computation : Evaluation Unit α) : Except ResolveError α := (computation.run.run ()).1

theorem outcome_bind (first : Evaluation Unit α) (next : α → Evaluation Unit β) :
    outcome (first >>= next) = outcome first >>= fun value => outcome (next value) := by
  unfold outcome
  cases ran : first.run.run () with
  | mk result later =>
    cases result with
    | ok value => rw [run_bind_of_ok ran]; rfl
    | error error => rw [run_bind_of_error ran]; rfl

theorem outcome_mapM (each : α → Evaluation Unit β) (items : List α) :
    outcome (items.mapM each) = items.mapM fun item => outcome (each item) := by
  induction items with
  | nil => rfl
  | cons item rest ih => simp only [List.mapM_cons, outcome_bind, ih]; rfl

theorem outcome_ofExcept (wrap : ε → ResolveError) (result : Except ε α) :
    outcome (ofExcept wrap result) = result.mapError wrap := by
  cases result <;> rfl

/-! What vectors come to without an API. -/

variable (snapshot : Except String (List Json))

/-- Surroundings without an API in which the objects stay as they are. -/
abbrev alone : Surroundings Unit := ⟨pure snapshot, none⟩

def valueAlone (vector : ParamVector) : Except ResolveError Json :=
  outcome (evaluate (alone snapshot) vector)

def itemsAlone (node : ParamVector) : Except ResolveError (List Json) :=
  outcome (vectorOf (evaluate (alone snapshot)) node)

/-- What a map makes of one item. -/
def mappedAlone (iteratee : String) (iterateeArgs : Record) (item : Json) :
    Except ResolveError Json :=
  outcome (mapped (evaluate (alone snapshot)) iteratee iterateeArgs item)

def recordsAlone (vector : Option ParamVector) : Except ResolveError (List Record) :=
  outcome (records (alone snapshot) vector)

theorem itemsAlone_eq (node : ParamVector) :
    itemsAlone snapshot node =
      valueAlone snapshot node >>= fun value => outcome (asVector node value) :=
  outcome_bind ..

theorem mappedAlone_eq (iteratee : String) (iterateeArgs : Record) (item : Json) :
    mappedAlone snapshot iteratee iterateeArgs item =
      (ofJson (iterateeNode iteratee iterateeArgs item)).mapError .vector >>=
        valueAlone snapshot := by
  rw [mappedAlone, mapped, outcome_bind, outcome_ofExcept]
  rfl

theorem valueAlone_crossProduct (items : List ParamVector) :
    valueAlone snapshot (.crossProduct items) = do
      let vectors ← items.mapM (itemsAlone snapshot)
      return .array ((product vectors).map fun records => .object (Record.merge records)) := by
  rw [valueAlone, evaluate_eq_evaluateNode, evaluateNode, outcome_bind, outcome_mapM]
  rfl

theorem valueAlone_map (collection : ParamVector) (iteratee : String) (iterateeArgs : Record) :
    valueAlone snapshot (.map collection iteratee iterateeArgs) = do
      let items ← itemsAlone snapshot collection
      let results ← items.mapM (mappedAlone snapshot iteratee iterateeArgs)
      return .array results := by
  rw [valueAlone, evaluate_eq_evaluateNode, evaluateNode, outcome_bind]
  simp only [outcome_bind, outcome_mapM]
  rfl

theorem valueAlone_call (method : String) (params : Json) (property : Option String) :
    valueAlone snapshot (.call method params property) = .error .callsUnavailable := rfl

theorem recordsAlone_some (vector : ParamVector) :
    recordsAlone snapshot (some vector) =
      itemsAlone snapshot vector >>= fun items => items.mapM asRecord := by
  rw [recordsAlone, records_eq_vectorOf, outcome_bind]
  congr 1
  funext items
  rw [outcome_ofExcept]
  cases items.mapM asRecord <;> rfl

/-! With another state. -/

variable {snapshot} {around : Surroundings σ}

/-- The computations come to the same, the one with a state from every state. -/
def SameOutcome (left : Evaluation Unit α) (right : Evaluation σ α) : Prop :=
  ∀ state, (right.run.run state).1 = outcome left

theorem sameOutcome_compatible : @Compatible Unit σ fun left right => SameOutcome left right where
  pure _ _ := rfl
  throw _ _ _ := rfl
  bind := by
    intro α β left right next next' same nextSame state
    have result := same state
    rw [outcome_bind]
    cases ran : right.run.run state with
    | mk found later =>
      rw [ran] at result
      rw [← result]
      cases found with
      | ok value => rw [run_bind_of_ok ran]; exact nextSame value later
      | error error => rw [run_bind_of_error ran]; rfl

theorem sameOutcome_liveObjects (finds : around.Finds snapshot) :
    SameOutcome (liveObjects (alone snapshot)) (liveObjects around) := by
  intro state
  rw [outcome, run_liveObjects, run_liveObjects]
  exact congrArg (fun found => found.mapError ResolveError.repository) (finds state)

theorem sameOutcome_evaluateCall (missing : around.calls = none) (method : String) (params : Json)
    (property : Option String) :
    SameOutcome (evaluateCall (alone snapshot) method params property)
      (evaluateCall around method params property) := by
  intro state
  rw [run_evaluateCall_none missing]
  rfl

theorem sameOutcome_evaluate (finds : around.Finds snapshot) (missing : around.calls = none)
    (vector : ParamVector) : SameOutcome (evaluate (alone snapshot) vector) (evaluate around vector) :=
  evaluate_related sameOutcome_compatible (sameOutcome_liveObjects finds) vector
    fun method params property _ => sameOutcome_evaluateCall missing method params property

theorem sameOutcome_records (finds : around.Finds snapshot) (missing : around.calls = none)
    (vector : Option ParamVector) :
    SameOutcome (records (alone snapshot) vector) (records around vector) :=
  records_related sameOutcome_compatible (sameOutcome_liveObjects finds) vector
    fun _ _ method params property _ => sameOutcome_evaluateCall missing method params property

end ParamVector

theorem Resolution.records_alone (snapshot : Except String (List Json)) (identity : Identity)
    (vector : Option ParamVector) :
    (records (surroundings (fun _ => snapshot) none identity) vector).1 =
      ParamVector.recordsAlone snapshot vector := by
  have finds : (surroundings (fun _ => snapshot) none identity).Finds snapshot := fun _ => rfl
  exact ParamVector.sameOutcome_records finds rfl vector {}

end JobFanout
