import JobFanout.Proofs.EvaluationAlone
import JobFanout.Proofs.ResolutionTraces
/-!
What comes of a call node whose call fails: nothing is asked for after it, and the result of the
resolution is its failure. A resolution that succeeds has had all its calls answered.
-/
namespace JobFanout

/-! What was asked for, and what came of it. -/

/-- The results of calls made one after another. -/
def resultsOf (api : Api) (earlier made : List Invocation) : List (Except CallError Json) :=
  answersTo (fun _ => api) 0 earlier made

theorem length_resultsOf (api : Api) (earlier made : List Invocation) :
    (resultsOf api earlier made).length = made.length := by simp [resultsOf]

-- The number of the task shows only in how a task is lost.
theorem answersTo_eq_resultsOf (api : Api) (task : Nat) (earlier made : List Invocation) :
    answersTo (fun _ => api) task earlier made = resultsOf api earlier made := by
  unfold resultsOf
  generalize 0 = first
  induction made generalizing task first earlier with
  | nil => rfl
  | cons call rest ih =>
    rw [answersTo, answersTo]
    exact congrArg (api earlier call :: ·) (ih (task + 1) (call :: earlier) (first + 1))

theorem resultsOf_cons (api : Api) (earlier : List Invocation) (call : Invocation)
    (rest : List Invocation) :
    resultsOf api earlier (call :: rest) =
      api earlier call :: resultsOf api (call :: earlier) rest :=
  congrArg (api earlier call :: ·) (answersTo_eq_resultsOf api 1 (call :: earlier) rest)

theorem resultsOf_append (api : Api) (earlier first second : List Invocation) :
    resultsOf api earlier (first ++ second) =
      resultsOf api earlier first ++ resultsOf api (first.reverse ++ earlier) second := by
  induction first generalizing earlier with
  | nil => rfl
  | cons call rest ih =>
    rw [List.cons_append, resultsOf_cons, resultsOf_cons, ih, List.reverse_cons, List.append_assoc]
    rfl

/-- At most the last call failed, and if it did the outcome is its failure. -/
structure StopsAtFailure {α : Type} (made : List Invocation)
    (results : List (Except CallError Json)) (outcome : Except ResolveError α) : Prop where
  atMostOne : results.countP (fun result => !result.isOk) ≤ 1
  last : ∀ place call error, made[place]? = some call → results[place]? = some (.error error) →
    place + 1 = made.length ∧ outcome = .error (.call call.method error.message)
  answered : ∀ value, outcome = .ok value → ∀ result ∈ results, result.isOk = true
  reported : ∀ method message, outcome = .error (.call method message) →
    ∃ call error, made.getLast? = some call ∧ results.getLast? = some (.error error) ∧
      method = call.method ∧ message = error.message

inductive EndsAtFailure {α : Type} : List Invocation → List (Except CallError Json) →
    Except ResolveError α → Prop where
  | answered {made : List Invocation} {results : List (Except CallError Json)}
      {outcome : Except ResolveError α} (fine : ∀ result ∈ results, result.isOk = true)
      (other : ∀ method message, outcome ≠ .error (.call method message)) :
      EndsAtFailure made results outcome
  | failed {made : List Invocation} {results : List (Except CallError Json)} {call : Invocation}
      {error : CallError} (sameLength : results.length = made.length)
      (fine : ∀ result ∈ results, result.isOk = true) :
      EndsAtFailure (made ++ [call]) (results ++ [.error error])
        (.error (.call call.method error.message))

namespace EndsAtFailure
variable {α β : Type} {made later : List Invocation} {results others : List (Except CallError Json)}
  {outcome : Except ResolveError α}

theorem countP_failed_eq_zero (fine : ∀ result ∈ results, result.isOk = true) :
    results.countP (fun result => !result.isOk) = 0 := by
  rw [List.countP_eq_zero]
  intro result listed
  simp [fine result listed]

theorem ne_error_of_fine (fine : ∀ result ∈ results, result.isOk = true) {place : Nat}
    {error : CallError} : results[place]? ≠ some (.error error) := by
  intro failed
  cases fine _ (List.mem_of_getElem? failed)

theorem stops (ends : EndsAtFailure made results outcome) :
    StopsAtFailure made results outcome := by
  cases ends with
  | answered fine other =>
    constructor
    case atMostOne =>
      rw [countP_failed_eq_zero fine]
      exact Nat.zero_le 1
    case last =>
      intro place call error _ failed
      exact (ne_error_of_fine fine failed).elim
    case answered => exact fun _ _ => fine
    case reported =>
      intro method message same
      exact (other method message same).elim
  | @failed made results call error sameLength fine =>
    constructor
    case atMostOne =>
      rw [List.countP_append, countP_failed_eq_zero fine, Nat.zero_add]
      exact List.countP_le_length
    case last =>
      intro place call' error' asked failed
      -- The calls before the last one were answered.
      have atEnd : place = results.length := by
        rcases lt_trichotomy place results.length with before | atEnd | beyond
        · rw [List.getElem?_append_left before] at failed
          exact (ne_error_of_fine fine failed).elim
        · exact atEnd
        · rw [List.getElem?_eq_none (by simp; omega)] at failed
          cases failed
      subst atEnd
      rw [List.getElem?_concat_length] at failed
      rw [sameLength, List.getElem?_concat_length] at asked
      cases failed
      cases asked
      simp [sameLength]
    case answered =>
      intro value same
      cases same
    case reported =>
      intro method message same
      cases same
      exact ⟨call, error, by simp, by simp, rfl, rfl⟩

theorem of_no_calls (other : ∀ method message, outcome ≠ .error (.call method message)) :
    EndsAtFailure [] [] outcome := .answered (by simp) other

theorem of_failed_call {call : Invocation} {error : CallError} :
    EndsAtFailure [call] [.error error]
      (.error (.call call.method error.message) : Except ResolveError α) :=
  @failed α [] [] call error rfl (by simp)

theorem prepend (fine : ∀ result ∈ results, result.isOk = true)
    (sameLength : results.length = made.length) (ends : EndsAtFailure later others outcome) :
    EndsAtFailure (made ++ later) (results ++ others) outcome := by
  cases ends with
  | answered laterFine other =>
    refine .answered ?_ other
    intro result listed
    exact (List.mem_append.mp listed).elim (fine result) (laterFine result)
  | failed laterLength laterFine =>
    rw [← List.append_assoc, ← List.append_assoc]
    apply EndsAtFailure.failed
    · rw [List.length_append, List.length_append, sameLength, laterLength]
    · intro result listed
      exact (List.mem_append.mp listed).elim (fine result) (laterFine result)

theorem of_error {error : ResolveError}
    (ends : EndsAtFailure made results (.error error : Except ResolveError α)) :
    EndsAtFailure made results (.error error : Except ResolveError β) := by
  cases ends with
  | answered fine other =>
    apply EndsAtFailure.answered fine
    intro method message same
    cases same
    exact other method message rfl
  | failed sameLength fine => exact .failed sameLength fine

theorem answered_of_ok {value : α} (ends : EndsAtFailure made results (.ok value)) :
    ∀ result ∈ results, result.isOk = true := by
  cases ends with
  | answered fine _ => exact fine

end EndsAtFailure

structure AsksApi {σ : Type} (api : Api) (identity : Identity) (history : σ → List Invocation)
    (source : CallSource σ) : Prop where
  answer : ∀ method params state, (source method params state).1 =
    (api (history state) ⟨identity, method, params⟩).mapError CallError.message
  history : ∀ method params state, history (source method params state).2 =
    ⟨identity, method, params⟩ :: history state

namespace ParamVector
variable {σ α β : Type} {api : Api} {identity : Identity} {history : σ → List Invocation}

/-- What the computation asks for ends with the first call that fails. -/
def EndsCalls (api : Api) (history : σ → List Invocation) (computation : Evaluation σ α) : Prop :=
  ∀ state, ∃ made, history (computation.run.run state).2 = made.reverse ++ history state ∧
    EndsAtFailure made (resultsOf api (history state) made) (computation.run.run state).1

namespace EndsCalls

theorem of_result {computation : Evaluation σ α} {result : Except ResolveError α}
    (runs : ∀ state, computation.run.run state = (result, state))
    (other : ∀ method message, result ≠ .error (.call method message)) :
    EndsCalls api history computation := by
  intro state
  rw [runs]
  exact ⟨[], rfl, .of_no_calls other⟩

theorem pure (value : α) : EndsCalls api history (pure value : Evaluation σ α) :=
  of_result (fun _ => rfl) nofun

theorem bind {first : Evaluation σ α} {next : α → Evaluation σ β}
    (ends : EndsCalls api history first)
    (nextEnds : ∀ value, EndsCalls api history (next value)) :
    EndsCalls api history (first >>= next) := by
  intro state
  obtain ⟨made, asked, ended⟩ := ends state
  cases ran : first.run.run state with
  | mk result later =>
    rw [ran] at asked ended
    cases result with
    | error error =>
      rw [run_bind_of_error ran]
      exact ⟨made, asked, ended.of_error⟩
    | ok value =>
      rw [run_bind_of_ok ran]
      obtain ⟨onward, askedOnward, endedOnward⟩ := nextEnds value later
      rw [asked] at askedOnward endedOnward
      refine ⟨made ++ onward, ?_, ?_⟩
      · rw [askedOnward, List.reverse_append, List.append_assoc]
      · rw [resultsOf_append]
        exact endedOnward.prepend ended.answered_of_ok (length_resultsOf ..)

theorem compatible : @Compatible σ σ fun left _ => EndsCalls api history left where
  pure := pure
  throw error plain := by
    apply of_result fun _ => rfl
    rintro method message same
    cases same
    exact plain
  bind := bind

theorem mapM {each : α → Evaluation σ β} (items : List α)
    (ends : ∀ item ∈ items, EndsCalls api history (each item)) :
    EndsCalls api history (items.mapM each) :=
  @Compatible.mapM _ _ _ _ _ compatible each each items ends

theorem asVector (node : ParamVector) (value : Json) :
    EndsCalls api history (asVector node value : Evaluation σ (List Json)) :=
  @Compatible.asVector σ σ _ compatible node value

theorem ofExcept {ε : Type} {wrap : ε → ResolveError} {result : Except ε α}
    (plain : ∀ error, result = .error error → (wrap error).Plain) :
    EndsCalls api history (ofExcept wrap result : Evaluation σ α) :=
  @Compatible.ofExcept σ σ α _ compatible ε wrap result plain

end EndsCalls

variable {around : Surroundings σ}

theorem endsCalls_evaluateCall
    (asks : ∀ source ∈ around.calls, AsksApi api identity history source) (method : String)
    (params : Json) (property : Option String) :
    EndsCalls api history (evaluateCall around method params property) := by
  intro state
  cases available : around.calls with
  | none =>
    rw [run_evaluateCall_none available]
    exact ⟨[], rfl, .of_no_calls nofun⟩
  | some source =>
    have asks := asks source available
    rw [run_evaluateCall_some available]
    cases given : callParams params with
    | error error =>
      refine ⟨[], rfl, .of_no_calls ?_⟩
      rw [callParams_eq_error given]
      nofun
    | ok record =>
      refine ⟨[⟨identity, method, record⟩], asks.history method record state, ?_⟩
      change EndsAtFailure _ _ (((source method record state).1.mapError _).map _)
      rw [asks.answer]
      change EndsAtFailure _ [api (history state) ⟨identity, method, record⟩] _
      cases api (history state) ⟨identity, method, record⟩ with
      | ok value => exact .answered (by simp [Except.isOk, Except.toBool]) nofun
      | error error => exact .of_failed_call

theorem endsCalls_liveObjects (keeps : around.KeepsHistory history) :
    EndsCalls api history (liveObjects around) := by
  intro state
  refine ⟨[], ?_, .of_no_calls ?_⟩
  · rw [run_liveObjects]
    exact keeps state
  · intro method message failed
    obtain ⟨_, other⟩ := error_of_liveObjects failed
    cases other

theorem endsCalls_evaluate (keeps : around.KeepsHistory history)
    (asks : ∀ source ∈ around.calls, AsksApi api identity history source) (vector : ParamVector) :
    EndsCalls api history (evaluate around vector) :=
  evaluate_invariant EndsCalls.compatible (endsCalls_liveObjects keeps) vector
    fun method params property _ => endsCalls_evaluateCall asks method params property

theorem endsCalls_records (keeps : around.KeepsHistory history)
    (asks : ∀ source ∈ around.calls, AsksApi api identity history source)
    (vector : Option ParamVector) : EndsCalls api history (records around vector) :=
  records_invariant EndsCalls.compatible (endsCalls_liveObjects keeps) vector
    fun _ _ method params property _ => endsCalls_evaluateCall asks method params property

end ParamVector

namespace Resolution
variable (snapshots : Nat → Except String (List Json)) (api : Api) (identity : Identity)

theorem asksApi_callSource : AsksApi api identity Trace.invocations (callSource api identity) :=
  ⟨fun _ _ _ => rfl, fun _ _ _ => rfl⟩

theorem asksApi_surroundings {given : Option Api} (same : ∀ other ∈ given, other = api) :
    ∀ source ∈ (surroundings snapshots given identity).calls,
      AsksApi api identity Trace.invocations source := by
  rintro source available
  cases given with
  | none => cases available
  | some other =>
    cases available
    rw [same other rfl]
    exact asksApi_callSource api identity

variable {api}

def Stops {α : Type} (api : Api) (resolution : Except ResolveError α × List Invocation) : Prop :=
  StopsAtFailure resolution.2 (resultsOf api [] resolution.2) resolution.1

theorem stops_of_endsCalls {α : Type} {computation : Evaluation Trace α}
    (ends : ParamVector.EndsCalls api Trace.invocations computation) :
    Stops api (resolved computation) := by
  obtain ⟨made, asked, ended⟩ := ends {}
  have inOrder : (resolved computation).2 = made := by
    change (computation.run.run {}).2.invocations.reverse = made
    rw [asked]
    simp
  rw [Stops, inOrder]
  exact ended.stops

end Resolution

namespace Execution
variable (env : Environment) (job : Job)

theorem asksApi_callSource (identity : Identity) :
    AsksApi env.api identity Progress.invocations (callSource env identity) :=
  ⟨fun _ _ _ => rfl, fun _ _ _ => rfl⟩

theorem endsCalls_resolution (identity : Option Identity) (vector : Option ParamVector) :
    ParamVector.EndsCalls env.api Progress.invocations
      (ParamVector.records (surroundings env identity) vector) := by
  cases identity with
  | none =>
    have unasked : ∀ source ∈ (surroundings env none).calls,
        AsksApi env.api ⟨"", ""⟩ Progress.invocations source := nofun
    exact ParamVector.endsCalls_records (keepsHistory_surroundings env none) unasked vector
  | some identity =>
    apply ParamVector.endsCalls_records (keepsHistory_surroundings env (some identity))
    rintro source same
    cases same
    exact asksApi_callSource env identity

theorem resolveRecords_stops (before : Progress) :
    ∃ made outcome, ((resolveRecords env job).run before).1 = outcome.mapError JobError.resolve ∧
      ((resolveRecords env job).run before).2.invocations = made.reverse ++ before.invocations ∧
      StopsAtFailure made (resultsOf env.api before.invocations made) outcome := by
  unfold resolveRecords
  cases job.vector with
  | error error =>
    have other : ∀ method message, (.error (.vector error) : Except ResolveError (List Record)) ≠
        .error (.call method message) := nofun
    exact ⟨[], .error (.vector error), rfl, rfl, (EndsAtFailure.of_no_calls other).stops⟩
  | ok vector =>
    by_cases mayCall : vector.any ParamVector.containsCall = true
    · simp only [if_pos mayCall, run_bind, run_openIdentity, run_closeIdentity, run_pure]
      obtain ⟨made, asked, ended⟩ := endsCalls_resolution env (some (callIdentity env job before))
        vector ((openIdentity env job.userId).run before).2
      exact ⟨made, _, rfl, asked, ended.stops⟩
    · simp only [if_neg mayCall, run_bind, run_pure]
      obtain ⟨made, asked, ended⟩ := endsCalls_resolution env none vector before
      exact ⟨made, _, rfl, asked, ended.stops⟩

end Execution

/-- A resolution makes no call after one that failed, and reports that failure; it reports no other,
and none if it succeeds. So it is for values, for records and for the records of a job. -/
theorem resolution_stops_at_failed_call (snapshots : Nat → Except String (List Json)) (api : Api)
    (identity : Identity) (vector : ParamVector) :
    (∀ given ∈ [none, some api],
      Resolution.Stops api
        (Resolution.value (Resolution.surroundings snapshots given identity) vector) ∧
      Resolution.Stops api
        (Resolution.records (Resolution.surroundings snapshots given identity) (some vector))) ∧
    (Resolution.value (Resolution.surroundings snapshots none identity) vector).2 = [] ∧
    ∀ (env : Environment) (job : Job) (before : Progress), ∃ made outcome,
      ((Execution.resolveRecords env job).run before).1 = outcome.mapError JobError.resolve ∧
      ((Execution.resolveRecords env job).run before).2.invocations =
        made.reverse ++ before.invocations ∧
      StopsAtFailure made (resultsOf env.api before.invocations made) outcome := by
  refine ⟨?_, ?_, Execution.resolveRecords_stops⟩
  · intro given listed
    have same : ∀ other ∈ given, other = api := by
      rintro other rfl
      simpa using listed
    have asks := Resolution.asksApi_surroundings snapshots api identity same
    have keeps := Resolution.keepsHistory_surroundings snapshots given identity
    constructor
    · exact Resolution.stops_of_endsCalls (ParamVector.endsCalls_evaluate keeps asks vector)
    · exact Resolution.stops_of_endsCalls (ParamVector.endsCalls_records keeps asks (some vector))
  · have keeps := Resolution.keepsHistory_surroundings snapshots none identity
    have quiet := ParamVector.quiet_evaluate (fun _ _ => trivial) keeps vector
      fun method params property _ => ParamVector.quiet_evaluateCall_none rfl method params property
    exact quiet.resolved_calls

def machinesOnly : Api := fun _ call =>
  if call.method = "vm.list" then .ok (.array []) else .error (.rejected "not allowed")

def threeListings : ParamVector :=
  .crossProduct [.call "vm.list" .null none, .call "host.list" .null none,
    .call "vm.list" .null none]

theorem threeListings_stop :
    let listed := Resolution.value
      (Resolution.surroundings (fun _ => .ok []) (some machinesOnly) ⟨"identity-1", "u"⟩) threeListings
    listed.2.length = 2 ∧ listed.1 = .error (.call "host.list" "not allowed") := by
  intro listed
  have stops := ((resolution_stops_at_failed_call (fun _ => .ok []) machinesOnly ⟨"identity-1", "u"⟩
    threeListings).1 (some machinesOnly) (by simp)).1
  obtain ⟨length, outcome⟩ := stops.last 1 ⟨⟨"identity-1", "u"⟩, "host.list", []⟩
    (.rejected "not allowed") rfl rfl
  exact ⟨length.symm, outcome⟩

end JobFanout
