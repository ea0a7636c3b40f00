import Mathlib.Logic.Relation
import JobFanout.Run.Resolution
/-!
Comparing two evaluations of one vector. A relation between computations that respects their
building blocks and holds of the call nodes that may come up holds of the two evaluations. With both
sides the same it is an invariant of one evaluation.
-/
namespace JobFanout

def ResolveError.Plain : ResolveError → Prop
  | .callsUnavailable => False
  | .call _ _ => False
  | _ => True

/-- Asking for the objects makes no call; `history` is the calls made so far. -/
def Surroundings.KeepsHistory {σ : Type} (history : σ → List Invocation)
    (around : Surroundings σ) : Prop :=
  ∀ state, history (around.objects.run state).2 = history state

/-- Whenever the objects are asked for, the same are found. -/
def Surroundings.Finds {σ : Type} (around : Surroundings σ)
    (snapshot : Except String (List Json)) : Prop :=
  ∀ state, (around.objects.run state).1 = snapshot

theorem Resolution.keepsHistory_surroundings (snapshots : Nat → Except String (List Json))
    (api : Option Api) (identity : Identity) :
    (surroundings snapshots api identity).KeepsHistory Trace.invocations := fun _ => rfl

namespace ParamVector
variable {σ τ α β : Type}

/-- The nodes whose evaluation is part of a node's evaluation, for some items of a collection. -/
inductive Generates : ParamVector → ParamVector → Prop where
  | item {items : List ParamVector} {node : ParamVector} (listed : node ∈ items) :
      Generates (.crossProduct items) node
  | collection (collection : ParamVector) (iteratee : String) (iterateeArgs : Record) :
      Generates (.map collection iteratee iterateeArgs) collection
  | iteratee {collection node : ParamVector} {iteratee : String} {iterateeArgs : Record}
      (item : Json) (read : ofJson (iterateeNode iteratee iterateeArgs item) = .ok node) :
      Generates (.map collection iteratee iterateeArgs) node

abbrev Reaches : ParamVector → ParamVector → Prop := Relation.ReflTransGen Generates

theorem run_bind_of_ok {first : Evaluation σ α} {next : α → Evaluation σ β} {state later : σ}
    {value : α} (runs : first.run.run state = (.ok value, later)) :
    (first >>= next).run.run state = (next value).run.run later := by
  rw [ExceptT.run_bind, StateT.run_bind, runs]
  rfl

theorem run_bind_of_error {first : Evaluation σ α} {next : α → Evaluation σ β} {state later : σ}
    {error : ResolveError} (runs : first.run.run state = (.error error, later)) :
    (first >>= next).run.run state = (.error error, later) := by
  rw [ExceptT.run_bind, StateT.run_bind, runs]
  rfl

theorem error_of_bind {first : Evaluation σ α} {next : α → Evaluation σ β} {state : σ}
    {error : ResolveError} (failed : ((first >>= next).run.run state).1 = .error error) :
    (first.run.run state).1 = .error error ∨ ∃ value later,
      first.run.run state = (.ok value, later) ∧ ((next value).run.run later).1 = .error error := by
  cases ran : first.run.run state with
  | mk result later =>
    cases result with
    | ok value =>
      rw [run_bind_of_ok ran] at failed
      exact .inr ⟨value, later, rfl, failed⟩
    | error other =>
      rw [run_bind_of_error ran] at failed
      cases failed
      exact .inl rfl

theorem run_liveObjects (around : Surroundings σ) :
    (liveObjects around).run = (fun found => found.mapError .repository) <$> around.objects := by
  apply StateT.ext
  intro state
  have asked : (liftM around.objects : Evaluation σ _).run.run state =
      (.ok (around.objects.run state).1, (around.objects.run state).2) := rfl
  refine (run_bind_of_ok asked).trans ?_
  change _ = ((around.objects.run state).1.mapError ResolveError.repository,
    (around.objects.run state).2)
  cases (around.objects.run state).1 <;> rfl

theorem run_evaluateCall_none {around : Surroundings σ} (missing : around.calls = none)
    (method : String) (params : Json) (property : Option String) :
    (evaluateCall around method params property).run = pure (.error .callsUnavailable) := by
  rw [evaluateCall, missing]
  rfl

theorem run_evaluateCall_some {around : Surroundings σ} {source : CallSource σ}
    (available : around.calls = some source) (method : String) (params : Json)
    (property : Option String) :
    (evaluateCall around method params property).run =
      match callParams params with
      | .error error => pure (.error error)
      | .ok record => do
        let answer ← (source method record : StateM σ (Except String Json))
        return (answer.mapError (.call method)).map (answerVector property) := by
  rw [evaluateCall, available]
  cases callParams params with
  | error error => rfl
  | ok record =>
    apply StateT.ext
    intro state
    have read : (ofExcept id (Except.ok record) : Evaluation σ Record).run.run state =
        (.ok record, state) := rfl
    have answered : ((modifyGet (source method record) : StateM σ _) : Evaluation σ _).run.run
        state = (.ok (source method record state).1, (source method record state).2) := rfl
    refine (run_bind_of_ok read).trans ((run_bind_of_ok answered).trans ?_)
    change _ = (((source method record state).1.mapError (ResolveError.call method)).map
      (answerVector property), (source method record state).2)
    cases (source method record state).1 <;> rfl

theorem error_of_liveObjects {around : Surroundings σ} {state : σ} {error : ResolveError}
    (failed : ((liveObjects around).run.run state).1 = .error error) :
    ∃ message, error = .repository message := by
  rw [run_liveObjects] at failed
  change (around.objects.run state).1.mapError ResolveError.repository = .error error at failed
  cases found : (around.objects.run state).1 with
  | ok objects => rw [found] at failed; cases failed
  | error message =>
    rw [found] at failed
    cases failed
    exact ⟨message, rfl⟩

/-- A relation between computations that respects how evaluation builds them. -/
structure Compatible (rel : {α : Type} → Evaluation σ α → Evaluation τ α → Prop) : Prop where
  pure : ∀ {α : Type} (value : α), rel (pure value) (pure value)
  throw : ∀ {α : Type} (error : ResolveError), error.Plain →
    rel (throw error : Evaluation σ α) (throw error)
  bind : ∀ {α β : Type} {left : Evaluation σ α} {right : Evaluation τ α}
    {next : α → Evaluation σ β} {next' : α → Evaluation τ β}, rel left right →
    (∀ value, rel (next value) (next' value)) → rel (left >>= next) (right >>= next')

namespace Compatible
variable {rel : {α : Type} → Evaluation σ α → Evaluation τ α → Prop}

theorem mapM (compatible : Compatible rel) {each : α → Evaluation σ β}
    {each' : α → Evaluation τ β} (items : List α)
    (related : ∀ item ∈ items, rel (each item) (each' item)) :
    rel (items.mapM each) (items.mapM each') := by
  induction items with
  | nil => exact compatible.pure []
  | cons item rest ih =>
    rw [List.mapM_cons, List.mapM_cons]
    apply compatible.bind (related item List.mem_cons_self)
    intro first
    refine compatible.bind ?_ fun others => compatible.pure (first :: others)
    exact ih fun other member => related other (List.mem_cons_of_mem item member)

theorem asVector (compatible : Compatible rel) (node : ParamVector) (value : Json) :
    rel (node.asVector value) (node.asVector value) := by
  cases value with
  | array items => exact compatible.pure items
  | _ => exact compatible.throw _ trivial

theorem ofExcept (compatible : Compatible rel) {ε : Type} {wrap : ε → ResolveError}
    {result : Except ε α} (plain : ∀ error, result = .error error → (wrap error).Plain) :
    rel (ParamVector.ofExcept wrap result) (ParamVector.ofExcept wrap result) := by
  cases result with
  | ok value => exact compatible.pure value
  | error error => exact compatible.throw _ (plain error rfl)

end Compatible

variable {rel : {α : Type} → Evaluation σ α → Evaluation τ α → Prop} {around : Surroundings σ}
  {around' : Surroundings τ}

-- The induction is on the nodes allowed inside one another; a generated node uses up one of them.
theorem evaluateWithin_related (compatible : Compatible rel)
    (objects : rel (liveObjects around) (liveObjects around')) (levels : Nat) (vector : ParamVector)
    (calls : ∀ method params property, Reaches vector (.call method params property) →
      rel (evaluateCall around method params property)
        (evaluateCall around' method params property)) :
    rel (evaluateWithin around levels vector) (evaluateWithin around' levels vector) := by
  induction levels generalizing vector with
  | zero => exact compatible.throw .tooDeep trivial
  | succ levels ih =>
    have inner : ∀ node, Generates vector node →
        rel (evaluateWithin around levels node) (evaluateWithin around' levels node) :=
      fun node generated => ih node fun method params property reached =>
        calls method params property (.head generated reached)
    cases vector with
    | set values => exact compatible.pure _
    | crossProduct items =>
      refine compatible.bind ?_ fun vectors => compatible.pure _
      apply compatible.mapM items
      intro item listed
      exact compatible.bind (inner item (.item listed)) fun value => compatible.asVector item value
    | fetchObjects pattern =>
      rw [evaluateWithin, evaluateWithin]
      exact compatible.bind objects fun found => compatible.pure _
    | map collection iteratee iterateeArgs =>
      apply compatible.bind (inner collection (.collection ..))
      intro value
      apply compatible.bind (compatible.asVector collection value)
      intro items
      refine compatible.bind ?_ fun results => compatible.pure _
      apply compatible.mapM items
      intro item _
      cases read : ofJson (iterateeNode iteratee iterateeArgs item) with
      | error error => exact compatible.throw (.vector error) trivial
      | ok node => exact inner node (.iteratee item read)
    | extractProperties pattern value => exact compatible.pure _
    | call method params property => exact calls method params property .refl

theorem evaluate_related (compatible : Compatible rel)
    (objects : rel (liveObjects around) (liveObjects around')) (vector : ParamVector)
    (calls : ∀ method params property, Reaches vector (.call method params property) →
      rel (evaluateCall around method params property)
        (evaluateCall around' method params property)) :
    rel (evaluate around vector) (evaluate around' vector) :=
  evaluateWithin_related compatible objects vector.nesting vector calls

theorem plain_of_mapM_asRecord {items : List Json} {error : ResolveError}
    (failed : items.mapM asRecord = .error error) : error.Plain := by
  induction items with
  | nil => cases failed
  | cons item rest ih =>
    rw [List.mapM_cons] at failed
    cases item with
    | object fields =>
      cases others : rest.mapM asRecord with
      | ok records =>
        rw [others] at failed
        cases failed
      | error later =>
        rw [others] at failed
        cases failed
        exact ih others
    | _ =>
      cases failed
      trivial

theorem records_related (compatible : Compatible rel)
    (objects : rel (liveObjects around) (liveObjects around')) (vector : Option ParamVector)
    (calls : ∀ node ∈ vector, ∀ method params property,
      Reaches node (.call method params property) →
      rel (evaluateCall around method params property)
        (evaluateCall around' method params property)) :
    rel (records around vector) (records around' vector) := by
  cases vector with
  | none => exact compatible.pure _
  | some vector =>
    apply compatible.bind (evaluate_related compatible objects vector (calls vector rfl))
    intro value
    apply compatible.bind (compatible.asVector vector value)
    intro items
    exact compatible.ofExcept fun error => plain_of_mapM_asRecord

/-! Both sides the same: what the building blocks keep, the evaluation keeps. -/

theorem evaluate_invariant {kept : {α : Type} → Evaluation σ α → Prop}
    (compatible : @Compatible σ σ fun left _ => kept left) (objects : kept (liveObjects around))
    (vector : ParamVector)
    (calls : ∀ method params property, Reaches vector (.call method params property) →
      kept (evaluateCall around method params property)) : kept (evaluate around vector) :=
  @evaluate_related _ _ _ around around compatible objects vector calls

theorem records_invariant {kept : {α : Type} → Evaluation σ α → Prop}
    (compatible : @Compatible σ σ fun left _ => kept left) (objects : kept (liveObjects around))
    (vector : Option ParamVector)
    (calls : ∀ node ∈ vector, ∀ method params property,
      Reaches node (.call method params property) →
      kept (evaluateCall around method params property)) : kept (records around vector) :=
  @records_related _ _ _ around around compatible objects vector calls

/-! Evaluation that makes no call. -/

variable {history : σ → List Invocation} {allowed : ResolveError → Prop}

/-- The computation makes no call, and fails in one of the ways allowed or not at all. -/
def Quiet (history : σ → List Invocation) (allowed : ResolveError → Prop)
    (computation : Evaluation σ α) : Prop :=
  ∀ state, history (computation.run.run state).2 = history state ∧
    ∀ error, (computation.run.run state).1 = .error error → allowed error

theorem quiet_compatible (plain : ∀ error : ResolveError, error.Plain → allowed error) :
    @Compatible σ σ fun left _ => Quiet history allowed left where
  pure value state := by
    refine ⟨rfl, ?_⟩
    intro error failed
    cases failed
  throw error fine state := by
    refine ⟨rfl, ?_⟩
    intro other failed
    cases failed
    exact plain error fine
  bind := by
    intro α β left right next next' quiet nextQuiet state
    obtain ⟨kept, fine⟩ := quiet state
    cases ran : left.run.run state with
    | mk result later =>
      rw [ran] at kept fine
      cases result with
      | ok value =>
        obtain ⟨laterKept, laterFine⟩ := nextQuiet value later
        rw [run_bind_of_ok ran]
        exact ⟨laterKept.trans kept, laterFine⟩
      | error error =>
        rw [run_bind_of_error ran]
        refine ⟨kept, ?_⟩
        rintro other same
        cases same
        exact fine error rfl

theorem quiet_liveObjects (plain : ∀ error : ResolveError, error.Plain → allowed error)
    (keeps : around.KeepsHistory history) : Quiet history allowed (liveObjects around) := by
  intro state
  constructor
  · rw [run_liveObjects]
    exact keeps state
  · intro error failed
    obtain ⟨message, rfl⟩ := error_of_liveObjects failed
    exact plain _ trivial

theorem quiet_evaluate (plain : ∀ error : ResolveError, error.Plain → allowed error)
    (keeps : around.KeepsHistory history) (vector : ParamVector)
    (calls : ∀ method params property, Reaches vector (.call method params property) →
      Quiet history allowed (evaluateCall around method params property)) :
    Quiet history allowed (evaluate around vector) :=
  evaluate_invariant (quiet_compatible plain) (quiet_liveObjects plain keeps) vector calls

theorem quiet_records (plain : ∀ error : ResolveError, error.Plain → allowed error)
    (keeps : around.KeepsHistory history) (vector : Option ParamVector)
    (calls : ∀ node ∈ vector, ∀ method params property,
      Reaches node (.call method params property) →
      Quiet history allowed (evaluateCall around method params property)) :
    Quiet history allowed (records around vector) :=
  records_invariant (quiet_compatible plain) (quiet_liveObjects plain keeps) vector calls

theorem quiet_evaluateCall_none (missing : around.calls = none) (method : String) (params : Json)
    (property : Option String) :
    Quiet history (fun _ => True) (evaluateCall around method params property) := by
  intro state
  rw [run_evaluateCall_none missing]
  exact ⟨rfl, fun _ _ => trivial⟩

theorem Quiet.resolved_calls {computation : Evaluation Trace α}
    (quiet : Quiet Trace.invocations allowed computation) :
    (Resolution.resolved computation).2 = [] := by
  change (computation.run.run {}).2.invocations.reverse = []
  rw [(quiet {}).1]
  rfl

structure Sequential (rel : {α : Type} → StateM σ α → StateM τ α → Prop) : Prop where
  pure : ∀ {α : Type} (value : α), rel (pure value) (pure value)
  bind : ∀ {α β : Type} {left : StateM σ α} {right : StateM τ α} {next : α → StateM σ β}
    {next' : α → StateM τ β}, rel left right → (∀ value, rel (next value) (next' value)) →
    rel (left >>= next) (right >>= next')

namespace Sequential
variable {rel : {α : Type} → StateM σ α → StateM τ α → Prop} {around : Surroundings σ}
  {around' : Surroundings τ}

theorem compatible (sequential : Sequential rel) :
    Compatible fun left right => rel left.run right.run where
  pure value := sequential.pure (Except.ok value)
  throw error _ := sequential.pure (Except.error error)
  bind := by
    intro α β left right next next' first second
    rw [ExceptT.run_bind, ExceptT.run_bind]
    apply sequential.bind first
    intro result
    cases result with
    | ok value => exact second value
    | error error => exact sequential.pure (Except.error error)

theorem liveObjects (sequential : Sequential rel) (objects : rel around.objects around'.objects) :
    rel (liveObjects around).run (liveObjects around').run := by
  rw [run_liveObjects, run_liveObjects, map_eq_pure_bind, map_eq_pure_bind]
  exact sequential.bind objects fun found => sequential.pure _

theorem evaluateCall (sequential : Sequential rel)
    (sources : Option.Rel (fun source source' => ∀ method record,
      rel (source method record) (source' method record)) around.calls around'.calls)
    (method : String) (params : Json) (property : Option String) :
    rel (evaluateCall around method params property).run
      (evaluateCall around' method params property).run := by
  cases calls : around.calls with
  | none =>
    rw [calls] at sources
    cases calls' : around'.calls with
    | some source' => rw [calls'] at sources; cases sources
    | none =>
      rw [run_evaluateCall_none calls, run_evaluateCall_none calls']
      exact sequential.pure _
  | some source =>
    rw [calls] at sources
    cases calls' : around'.calls with
    | none => rw [calls'] at sources; cases sources
    | some source' =>
      rw [calls'] at sources
      obtain ⟨related⟩ := sources
      rw [run_evaluateCall_some calls, run_evaluateCall_some calls']
      cases callParams params with
      | error error => exact sequential.pure _
      | ok record => exact sequential.bind (related method record) fun answer => sequential.pure _

theorem records (sequential : Sequential rel) (objects : rel around.objects around'.objects)
    (sources : Option.Rel (fun source source' => ∀ method record,
      rel (source method record) (source' method record)) around.calls around'.calls)
    (vector : Option ParamVector) :
    rel (records around vector).run (records around' vector).run :=
  records_related sequential.compatible (sequential.liveObjects objects) vector
    fun _ _ method params property _ => sequential.evaluateCall sources method params property

end Sequential

end ParamVector
end JobFanout
