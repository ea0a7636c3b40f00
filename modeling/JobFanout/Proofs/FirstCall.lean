import JobFanout.Proofs.CallFailures
/-!
The first call node that evaluation comes to. All before it comes to the same with an API and without
one, by the same queries; without one, evaluation ends there.
-/
namespace JobFanout

def Surroundings.withoutCalls {σ : Type} (around : Surroundings σ) : Surroundings σ :=
  { around with calls := none }

namespace ParamVector
variable {σ α β : Type} {around : Surroundings σ} {method : String} {params : Json}
  {property : Option String} {vector : ParamVector} {state : σ}

/-- From the state, evaluation of the vector comes to the call node before any other: what is
evaluated before it needs no API. -/
inductive FirstCall (around : Surroundings σ) (method : String) (params : Json)
    (property : Option String) : σ → ParamVector → Prop where
  | here {state : σ} : FirstCall around method params property state (.call method params property)
  | item {state reached : σ} {earlier later : List ParamVector} {node : ParamVector}
      {vectors : List (List Json)}
      (settled : (earlier.mapM (vectorOf (evaluate around))).run.run state = (.ok vectors, reached))
      (first : FirstCall around method params property reached node) :
      FirstCall around method params property state (.crossProduct (earlier ++ node :: later))
  | collection {state : σ} {collection : ParamVector} {iteratee : String} {iterateeArgs : Record}
      (first : FirstCall around method params property state collection) :
      FirstCall around method params property state (.map collection iteratee iterateeArgs)
  | iteratee {state middle reached : σ} {collection node : ParamVector} {iteratee : String}
      {iterateeArgs : Record} {earlier later results : List Json} {item : Json}
      (collected : (vectorOf (evaluate around) collection).run.run state =
        (.ok (earlier ++ item :: later), middle))
      (settled : (earlier.mapM (mapped (evaluate around) iteratee iterateeArgs)).run.run middle =
        (.ok results, reached))
      (read : ofJson (iterateeNode iteratee iterateeArgs item) = .ok node)
      (first : FirstCall around method params property reached node) :
      FirstCall around method params property state (.map collection iteratee iterateeArgs)

/-! Where an API is missed, a call is the first. -/

theorem error_of_mapM {each : α → Evaluation σ β} {items : List α} {error : ResolveError}
    (failed : ((items.mapM each).run.run state).1 = .error error) :
    ∃ earlier item later results reached, items = earlier ++ item :: later ∧
      (earlier.mapM each).run.run state = (.ok results, reached) ∧
      ((each item).run.run reached).1 = .error error := by
  induction items generalizing state with
  | nil => cases failed
  | cons first rest ih =>
    rw [List.mapM_cons] at failed
    rcases error_of_bind failed with here | ⟨value, middle, ran, failed⟩
    · exact ⟨[], first, rest, [], state, rfl, rfl, here⟩
    · rcases error_of_bind failed with failed | ⟨others, last, _, failed⟩
      · obtain ⟨earlier, item, later, results, reached, rfl, settled, itemFailed⟩ := ih failed
        refine ⟨first :: earlier, item, later, value :: results, reached, rfl, ?_, itemFailed⟩
        rw [List.mapM_cons, run_bind_of_ok ran, run_bind_of_ok settled]
        rfl
      · cases failed

theorem missed_of_vectorOf {node : ParamVector}
    (missed : ((vectorOf (evaluate around) node).run.run state).1 = .error .callsUnavailable) :
    ((evaluate around node).run.run state).1 = .error .callsUnavailable := by
  apply (error_of_bind missed).resolve_right
  rintro ⟨value, later, _, noVector⟩
  cases value <;> cases noVector

theorem missed_of_records (missed : ((records around (some vector)).run.run state).1 =
    .error .callsUnavailable) : ((evaluate around vector).run.run state).1 =
      .error .callsUnavailable := by
  rw [records_eq_vectorOf] at missed
  apply missed_of_vectorOf
  apply (error_of_bind missed).resolve_right
  rintro ⟨items, later, _, noRecord⟩
  cases read : items.mapM asRecord with
  | ok found =>
    rw [read] at noRecord
    cases noRecord
  | error error =>
    rw [read] at noRecord
    cases noRecord
    exact plain_of_mapM_asRecord read

theorem exists_of_mapped {iteratee : String} {iterateeArgs : Record} {item : Json}
    (missed : ((mapped (evaluate around) iteratee iterateeArgs item).run.run state).1 =
      .error .callsUnavailable) :
    ∃ node, ofJson (iterateeNode iteratee iterateeArgs item) = .ok node ∧
      ((evaluate around node).run.run state).1 = .error .callsUnavailable := by
  unfold mapped at missed
  cases read : ofJson (iterateeNode iteratee iterateeArgs item) with
  | ok node =>
    rw [read] at missed
    exact ⟨node, rfl, missed⟩
  | error error =>
    rw [read] at missed
    cases missed

theorem liveObjects_not_missed :
    ((liveObjects around).run.run state).1 ≠ .error .callsUnavailable := by
  intro missed
  obtain ⟨_, other⟩ := error_of_liveObjects missed
  cases other

theorem exists_firstCall
    (missed : ((evaluate around vector).run.run state).1 = .error .callsUnavailable) :
    ∃ method params property, FirstCall around method params property state vector := by
  induction vector using generates_induction generalizing state with
  | step vector ih =>
    rw [evaluate_eq_evaluateNode] at missed
    cases vector with
    | set values => cases missed
    | crossProduct items =>
      rcases error_of_bind missed with itemMissed | ⟨vectors, later, _, missed⟩
      · obtain ⟨earlier, node, later, vectors, reached, rfl, settled, nodeMissed⟩ :=
          error_of_mapM itemMissed
        obtain ⟨method, params, property, first⟩ :=
          ih node (.item (by simp)) (missed_of_vectorOf nodeMissed)
        exact ⟨method, params, property, .item settled first⟩
      · cases missed
    | fetchObjects pattern =>
      rcases error_of_bind missed with objectsMissed | ⟨objects, later, _, missed⟩
      · exact absurd objectsMissed liveObjects_not_missed
      · cases missed
    | map collection iteratee iterateeArgs =>
      rcases error_of_bind missed with collectionMissed | ⟨items, middle, collected, missed⟩
      · obtain ⟨method, params, property, first⟩ :=
          ih collection (.collection ..) (missed_of_vectorOf collectionMissed)
        exact ⟨method, params, property, .collection first⟩
      · rcases error_of_bind missed with itemMissed | ⟨results, later, _, missed⟩
        · obtain ⟨earlier, item, later, results, reached, rfl, settled, itemMissed⟩ :=
            error_of_mapM itemMissed
          obtain ⟨node, read, nodeMissed⟩ := exists_of_mapped itemMissed
          obtain ⟨method, params, property, first⟩ := ih node (.iteratee item read) nodeMissed
          exact ⟨method, params, property, .iteratee collected settled read first⟩
        · cases missed
    | extractProperties pattern value => cases missed
    | call method params property => exact ⟨method, params, property, .here⟩

/-! What needs no API is the same with one. -/

variable {history : σ → List Invocation}

/-- Unless the left computation misses an API, the right one does the same and makes no call. -/
def SameUnlessMissed (history : σ → List Invocation) (left right : Evaluation σ α) : Prop :=
  ∀ state, (left.run.run state).1 ≠ .error .callsUnavailable →
    right.run.run state = left.run.run state ∧
      history (left.run.run state).2 = history state

namespace SameUnlessMissed

theorem compatible : @Compatible σ σ fun left right => SameUnlessMissed history left right where
  pure _ _ _ := ⟨rfl, rfl⟩
  throw _ _ _ _ := ⟨rfl, rfl⟩
  bind := by
    intro α β left right next next' same nextSame state settled
    cases ran : left.run.run state with
    | mk result later =>
      cases result with
      | ok value =>
        obtain ⟨right, kept⟩ := same state (by rw [ran]; nofun)
        rw [ran] at right kept
        rw [run_bind_of_ok ran] at settled ⊢
        rw [run_bind_of_ok right]
        obtain ⟨rightNext, keptNext⟩ := nextSame value later settled
        exact ⟨rightNext, keptNext.trans kept⟩
      | error error =>
        rw [run_bind_of_error ran] at settled ⊢
        have other : (left.run.run state).1 ≠ .error .callsUnavailable := by
          rw [ran]
          rintro missed
          cases missed
          exact settled rfl
        obtain ⟨right, kept⟩ := same state other
        rw [ran] at right kept
        exact ⟨run_bind_of_error right, kept⟩

theorem of_ok {left right : Evaluation σ α} (same : SameUnlessMissed history left right)
    {value : α} {later : σ} (ran : left.run.run state = (.ok value, later)) :
    right.run.run state = (.ok value, later) ∧ history later = history state := by
  have agree := same state (by rw [ran]; nofun)
  rwa [ran] at agree

theorem liveObjects (keeps : around.KeepsHistory history) :
    SameUnlessMissed history (liveObjects around.withoutCalls) (liveObjects around) := by
  intro state _
  rw [run_liveObjects, run_liveObjects]
  exact ⟨rfl, keeps state⟩

theorem evaluateCall (method : String) (params : Json) (property : Option String) :
    SameUnlessMissed history (evaluateCall around.withoutCalls method params property)
      (evaluateCall around method params property) :=
  fun _ settled => absurd rfl settled

theorem evaluate (keeps : around.KeepsHistory history) (vector : ParamVector) :
    SameUnlessMissed history (evaluate around.withoutCalls vector) (evaluate around vector) :=
  evaluate_related compatible (liveObjects keeps) vector
    fun method params property _ => evaluateCall method params property

theorem records (keeps : around.KeepsHistory history) (vector : Option ParamVector) :
    SameUnlessMissed history (records around.withoutCalls vector) (records around vector) :=
  records_related compatible (liveObjects keeps) vector
    fun _ _ method params property _ => evaluateCall method params property

theorem vectorOf (keeps : around.KeepsHistory history) (node : ParamVector) :
    SameUnlessMissed history (vectorOf (ParamVector.evaluate around.withoutCalls) node)
      (vectorOf (ParamVector.evaluate around) node) :=
  compatible.bind (evaluate keeps node) fun value => compatible.asVector node value

theorem mapped (keeps : around.KeepsHistory history) (iteratee : String) (iterateeArgs : Record)
    (item : Json) :
    SameUnlessMissed history
      (mapped (ParamVector.evaluate around.withoutCalls) iteratee iterateeArgs item)
      (mapped (ParamVector.evaluate around) iteratee iterateeArgs item) :=
  compatible.bind (compatible.ofExcept fun _ _ => trivial) fun node => evaluate keeps node

end SameUnlessMissed

/-! Evaluation begins with its first call. -/

variable {api : Api} {identity : Identity}

/-- From the state, the computation is another one and what follows it, before which and by which no
call is made but those of the API. -/
def BeginsWith (api : Api) (history : σ → List Invocation) (first : Evaluation σ β) (state : σ)
    (computation : Evaluation σ α) : Prop :=
  ∃ (rest : β → Evaluation σ α) (reached : σ), history reached = history state ∧
    computation.run.run state = (first >>= rest).run.run reached ∧
    ∀ value, EndsCalls api history (rest value)

namespace BeginsWith
variable {γ : Type} {first : Evaluation σ γ}

theorem refl : BeginsWith api history first state first :=
  ⟨pure, state, rfl, by rw [bind_pure], EndsCalls.pure⟩

theorem bind {computation : Evaluation σ α} {next : α → Evaluation σ β}
    (begins : BeginsWith api history first state computation)
    (ends : ∀ value, EndsCalls api history (next value)) :
    BeginsWith api history first state (computation >>= next) := by
  obtain ⟨rest, reached, kept, same, restEnds⟩ := begins
  refine ⟨fun value => rest value >>= next, reached, kept, ?_, ?_⟩
  · rw [← bind_assoc]
    cases ran : (first >>= rest).run.run reached with
    | mk result later =>
      cases result with
      | ok value => rw [run_bind_of_ok ran, run_bind_of_ok (same.trans ran)]
      | error error => rw [run_bind_of_error ran, run_bind_of_error (same.trans ran)]
  · intro value
    exact EndsCalls.bind (restEnds value) ends

theorem after {earlier : Evaluation σ α} {next : α → Evaluation σ β} {value : α} {reached : σ}
    (ran : earlier.run.run state = (.ok value, reached)) (kept : history reached = history state)
    (begins : BeginsWith api history first reached (next value)) :
    BeginsWith api history first state (earlier >>= next) := by
  obtain ⟨rest, start, keptOn, same, restEnds⟩ := begins
  exact ⟨rest, start, keptOn.trans kept, (run_bind_of_ok ran).trans same, restEnds⟩

theorem mapM {each : α → Evaluation σ β} {earlier later : List α} {item : α} {results : List β}
    {reached : σ} (ran : (earlier.mapM each).run.run state = (.ok results, reached))
    (kept : history reached = history state)
    (begins : BeginsWith api history first reached (each item))
    (ends : ∀ other ∈ later, EndsCalls api history (each other)) :
    BeginsWith api history first state ((earlier ++ item :: later).mapM each) := by
  rw [List.mapM_append]
  apply BeginsWith.after ran kept
  apply BeginsWith.bind
  · rw [List.mapM_cons]
    apply begins.bind
    intro result
    apply EndsCalls.bind (EndsCalls.mapM later ends)
    intro others
    exact EndsCalls.pure _
  · intro others
    exact EndsCalls.pure _

end BeginsWith

theorem endsCalls_vectorOf (keeps : around.KeepsHistory history)
    (asks : ∀ source ∈ around.calls, AsksApi api identity history source)
    (node : ParamVector) : EndsCalls api history (vectorOf (evaluate around) node) :=
  (endsCalls_evaluate keeps asks node).bind fun value => .asVector node value

theorem endsCalls_mapped (keeps : around.KeepsHistory history)
    (asks : ∀ source ∈ around.calls, AsksApi api identity history source)
    (iteratee : String) (iterateeArgs : Record) (item : Json) :
    EndsCalls api history (mapped (evaluate around) iteratee iterateeArgs item) := by
  have plain : ∀ error, ofJson (iterateeNode iteratee iterateeArgs item) = .error error →
      (ResolveError.vector error).Plain := fun _ _ => trivial
  exact (EndsCalls.ofExcept plain).bind fun node => endsCalls_evaluate keeps asks node

theorem evaluate_beginsWith (keeps : around.KeepsHistory history)
    (asks : ∀ source ∈ around.calls, AsksApi api identity history source)
    (first : FirstCall around.withoutCalls method params property state vector) :
    BeginsWith api history (evaluateCall around method params property) state
      (evaluate around vector) := by
  induction first with
  | here => exact .refl
  | @item state reached earlier later node vectors settled _ ih =>
    obtain ⟨ran, kept⟩ := (SameUnlessMissed.compatible.mapM earlier
      fun item _ => .vectorOf keeps item).of_ok settled
    rw [evaluate_eq_evaluateNode]
    apply BeginsWith.bind
    · apply BeginsWith.mapM ran kept
      · exact ih.bind fun value => .asVector node value
      · intro other _
        exact endsCalls_vectorOf keeps asks other
    · intro vectors
      exact .pure _
  | @collection state collection iteratee iterateeArgs _ ih =>
    rw [evaluate_eq_evaluateNode]
    apply BeginsWith.bind
    · exact ih.bind fun value => .asVector collection value
    · intro items
      apply EndsCalls.bind (EndsCalls.mapM items fun item _ => endsCalls_mapped keeps asks _ _ item)
      intro results
      exact .pure _
  | @iteratee state middle reached collection node iteratee iterateeArgs earlier later results item
      collected settled read _ ih =>
    obtain ⟨items, itemsKept⟩ := (SameUnlessMissed.vectorOf keeps collection).of_ok collected
    obtain ⟨ran, kept⟩ := (SameUnlessMissed.compatible.mapM earlier
      fun item _ => .mapped keeps iteratee iterateeArgs item).of_ok settled
    have begins : BeginsWith api history (evaluateCall around method params property) reached
        (mapped (evaluate around) iteratee iterateeArgs item) := by
      rw [mapped, read]
      exact ih
    rw [evaluate_eq_evaluateNode]
    apply BeginsWith.after items itemsKept
    apply BeginsWith.bind
    · apply BeginsWith.mapM ran kept begins
      intro other _
      exact endsCalls_mapped keeps asks _ _ other
    · intro results
      exact .pure _

theorem records_beginsWith (keeps : around.KeepsHistory history)
    (asks : ∀ source ∈ around.calls, AsksApi api identity history source)
    (first : FirstCall around.withoutCalls method params property state vector) :
    BeginsWith api history (evaluateCall around method params property) state
      (records around (some vector)) := by
  apply (evaluate_beginsWith keeps asks first).bind
  intro value
  apply EndsCalls.bind (.asVector vector value)
  intro items
  exact .ofExcept fun error => plain_of_mapM_asRecord

/-! What a computation that begins with a call comes to. -/

namespace BeginsWith
variable {computation : Evaluation σ α}

theorem missed (begins : BeginsWith api history (evaluateCall around method params property) state
    computation) (missing : around.calls = none) :
    (computation.run.run state).1 = .error .callsUnavailable := by
  obtain ⟨rest, reached, _, same, _⟩ := begins
  rw [same, evaluateCall, missing]
  rfl

theorem refused (begins : BeginsWith api history (evaluateCall around method params property) state
    computation) {source : CallSource σ} (available : around.calls = some source)
    {error : ResolveError} (unfit : callParams params = .error error) :
    (computation.run.run state).1 = .error error ∧
      history (computation.run.run state).2 = history state := by
  obtain ⟨rest, reached, kept, same, _⟩ := begins
  have ran : (evaluateCall around method params property).run.run reached =
      (.error error, reached) := by
    rw [run_evaluateCall_some available, unfit]
    rfl
  rw [same, run_bind_of_error ran]
  exact ⟨rfl, kept⟩

theorem asked (begins : BeginsWith api history (evaluateCall around method params property) state
    computation) {source : CallSource σ} (available : around.calls = some source)
    (asks : AsksApi api identity history source) {record : Record}
    (fit : callParams params = .ok record) :
    ∃ later, history (computation.run.run state).2 =
      later ++ ⟨identity, method, record⟩ :: history state := by
  obtain ⟨rest, reached, kept, same, ends⟩ := begins
  have called : history ((evaluateCall around method params property).run.run reached).2 =
      ⟨identity, method, record⟩ :: history state := by
    rw [run_evaluateCall_some available, fit, ← kept]
    exact asks.history method record reached
  rw [same]
  cases ran : (evaluateCall around method params property).run.run reached with
  | mk result between =>
    rw [ran] at called
    cases result with
    | error error =>
      rw [run_bind_of_error ran]
      exact ⟨[], called⟩
    | ok value =>
      rw [run_bind_of_ok ran]
      obtain ⟨made, askedOnward, _⟩ := ends value between
      exact ⟨made.reverse, by rw [askedOnward, called]⟩

end BeginsWith

structure DecidedByFirstCall (snapshots : Nat → Except String (List Json)) (identity : Identity)
    (vector : ParamVector) (alone backed : Except ResolveError α × List Invocation) : Prop where
  agree : alone.1 ≠ .error .callsUnavailable → backed = (alone.1, [])
  quiet : alone.2 = []
  /-- It is missed if and only if evaluation comes to a call. -/
  missed : alone.1 = .error .callsUnavailable ↔ ∃ method params property,
    FirstCall (Resolution.surroundings snapshots none identity) method params property {} vector
  asked : ∀ method params property,
    FirstCall (Resolution.surroundings snapshots none identity) method params property {} vector →
    params = .null ∨ params.isObject = true →
    ∃ record, callParams params = .ok record ∧
      backed.2.head? = some ⟨identity, method, record⟩
  refused : ∀ method params property,
    FirstCall (Resolution.surroundings snapshots none identity) method params property {} vector →
    params ≠ .null → params.isObject = false →
    backed = (.error (.notARecord params.kind), [])

theorem exists_callParams (fit : params = .null ∨ params.isObject = true) :
    ∃ record, callParams params = .ok record := by
  cases params with
  | null => exact ⟨[], rfl⟩
  | object fields => exact ⟨fields, rfl⟩
  | _ =>
    rcases fit with missing | object
    · cases missing
    · cases object

theorem callParams_of_unfit (given : params ≠ .null) (plain : params.isObject = false) :
    callParams params = .error (.notARecord params.kind) := by
  cases params with
  | null => exact (given rfl).elim
  | object fields => cases plain
  | _ => rfl

section Resolutions
variable {snapshots : Nat → Except String (List Json)} (api : Api)
  (computation : Surroundings Trace → Evaluation Trace α)

theorem decided_of_beginsWith
    (same : ∀ around : Surroundings Trace, around.KeepsHistory Trace.invocations →
      SameUnlessMissed Trace.invocations (computation around.withoutCalls) (computation around))
    (quiet : Quiet Trace.invocations (fun _ => True)
      (computation (Resolution.surroundings snapshots none identity)))
    (exists_first : ((computation (Resolution.surroundings snapshots none identity)).run.run {}).1 =
        .error .callsUnavailable → ∃ method params property,
      FirstCall (Resolution.surroundings snapshots none identity) method params property {} vector)
    (begins : ∀ around : Surroundings Trace, around.KeepsHistory Trace.invocations →
      (∀ source ∈ around.calls, AsksApi api identity Trace.invocations source) →
      ∀ method params property, FirstCall around.withoutCalls method params property {} vector →
      BeginsWith api Trace.invocations (evaluateCall around method params property) {}
        (computation around)) :
    DecidedByFirstCall snapshots identity vector
      (Resolution.resolved (computation (Resolution.surroundings snapshots none identity)))
      (Resolution.resolved (computation (Resolution.surroundings snapshots (some api) identity))) := by
  have keeps := Resolution.keepsHistory_surroundings snapshots
  have asks := Resolution.asksApi_callSource api identity
  have beginsAlone := begins (Resolution.surroundings snapshots none identity)
    (keeps none identity) nofun
  have beginsBacked := begins (Resolution.surroundings snapshots (some api) identity)
    (keeps (some api) identity) (by
      rintro source same
      cases same
      exact asks)
  constructor
  case agree =>
    intro other
    obtain ⟨backed, kept⟩ := same (Resolution.surroundings snapshots (some api) identity)
      (keeps (some api) identity) {} other
    rw [Resolution.resolved, backed]
    exact Prod.ext rfl (congrArg List.reverse kept)
  case quiet => exact quiet.resolved_calls
  case missed =>
    constructor
    · exact exists_first
    · rintro ⟨method, params, property, first⟩
      exact (beginsAlone method params property first).missed rfl
  case asked =>
    intro method params property first fit
    obtain ⟨record, fit⟩ := exists_callParams fit
    obtain ⟨later, made⟩ := (beginsBacked method params property first).asked rfl asks fit
    refine ⟨record, fit, ?_⟩
    change ((computation _).run.run {}).2.invocations.reverse.head? = _
    rw [made, List.head?_reverse]
    exact List.getLast?_concat
  case refused =>
    intro method params property first given plain
    obtain ⟨failed, kept⟩ :=
      (beginsBacked method params property first).refused rfl (callParams_of_unfit given plain)
    refine Prod.ext failed ?_
    change ((computation _).run.run {}).2.invocations.reverse = []
    rw [kept]
    rfl

end Resolutions

/-- A resolution with an API comes to what it comes to without one, and makes no call, unless the one
without it misses the API. That is the case if and only if evaluation comes to a call node; then the
first one is asked for, or it has no record to ask with, and that is the result. -/
theorem api_matters_from_first_call (snapshots : Nat → Except String (List Json)) (api : Api)
    (identity : Identity) (vector : ParamVector) :
    DecidedByFirstCall snapshots identity vector
      (Resolution.value (Resolution.surroundings snapshots none identity) vector)
      (Resolution.value (Resolution.surroundings snapshots (some api) identity) vector) ∧
    DecidedByFirstCall snapshots identity vector
      (Resolution.records (Resolution.surroundings snapshots none identity) (some vector))
      (Resolution.records (Resolution.surroundings snapshots (some api) identity) (some vector)) := by
  have keeps := Resolution.keepsHistory_surroundings snapshots none identity
  constructor
  · apply decided_of_beginsWith api (evaluate · vector)
    · exact fun around keeps => SameUnlessMissed.evaluate keeps vector
    · exact quiet_evaluate (fun _ _ => trivial) keeps vector
        fun method params property _ => quiet_evaluateCall_none rfl method params property
    · exact exists_firstCall
    · exact fun around keeps asks method params property => evaluate_beginsWith keeps asks
  · apply decided_of_beginsWith api (records · (some vector))
    · exact fun around keeps => SameUnlessMissed.records keeps (some vector)
    · exact quiet_records (fun _ _ => trivial) keeps (some vector)
        fun _ _ method params property _ => quiet_evaluateCall_none rfl method params property
    · intro missed
      exact exists_firstCall (missed_of_records missed)
    · exact fun around keeps asks method params property => records_beginsWith keeps asks

def mappedListing : ParamVector :=
  .crossProduct [.fetchObjects [],
    .map (.set [.null, .int 3]) "call" [("method", .string "vm.list")]]

theorem mappedListing_asks :
    let snapshots : Nat → Except String (List Json) := fun _ => .ok [.object []]
    (Resolution.value (Resolution.surroundings snapshots none ⟨"identity-1", "u"⟩)
      mappedListing).1 = .error .callsUnavailable ∧
    (Resolution.value (Resolution.surroundings snapshots (some machinesOnly) ⟨"identity-1", "u"⟩)
      mappedListing).2.head? = some ⟨⟨"identity-1", "u"⟩, "vm.list", []⟩ := by
  intro snapshots
  let around := Resolution.surroundings snapshots none ⟨"identity-1", "u"⟩
  have listing : FirstCall around "vm.list" .null none ⟨1, []⟩
      (.map (.set [.null, .int 3]) "call" [("method", .string "vm.list")]) :=
    @FirstCall.iteratee _ _ _ _ _ _ _ _ _ _ _ _ [] [.int 3] [] .null rfl rfl rfl .here
  have first : FirstCall around "vm.list" .null none {} mappedListing :=
    @FirstCall.item _ _ _ _ _ _ _ [.fetchObjects []] [] _ [[.object []]] rfl listing
  obtain ⟨decided, _⟩ := api_matters_from_first_call snapshots machinesOnly ⟨"identity-1", "u"⟩
    mappedListing
  obtain ⟨record, fit, head⟩ := decided.asked _ _ _ first (.inl rfl)
  cases fit
  exact ⟨decided.missed.mpr ⟨_, _, _, first⟩, head⟩

end ParamVector
end JobFanout
