import JobFanout.Proofs.CallFailures
import JobFanout.Proofs.IterateeNodes
/-!
A call for each item of a collection. The item is the parameters of its call, under the name `value`.
The calls are made one after another, up to the first item that is no parameters and the first call
that fails; if there is neither, each answer becomes an entry of the result.
-/
namespace JobFanout.ParamVector
variable {σ : Type}

/-- The parameters that an item is: itself, and none for null. -/
inductive CalledWith : Json → Record → Prop where
  | null : CalledWith .null []
  | record (fields : Record) : CalledWith (.object fields) fields

/-- What is taken of an answer: all of it, or what it has under a property, or else null. -/
inductive Picked (answer : Json) : Option String → Json → Prop where
  | whole : Picked answer none answer
  | found {key : String} {value : Json} (present : answer.field? key = some value) :
      Picked answer (some key) value
  | missing {key : String} (absent : answer.field? key = none) : Picked answer (some key) .null

/-- An array is a list already, any other value becomes the one element of a list. -/
inductive InList : Json → Json → Prop where
  | array (items : List Json) : InList (.array items) (.array items)
  | single {value : Json} (other : value.isArray = false) : InList value (.array [value])

/-- The entry that an answer becomes. -/
def Becomes (property : Option String) (answer entry : Json) : Prop :=
  ∃ picked, Picked answer property picked ∧ InList picked entry

/-- How calls of a method for the items in turn can go: the parameters they were made with, what they
came to, and what comes of it. -/
inductive CallsInTurn (method : String) (property : Option String) : List Json → List Record →
    List (Except CallError Json) → Except ResolveError (List Json) → Prop where
  | answered {items answers entries : List Json} {records : List Record}
      (called : List.Forall₂ CalledWith items records)
      (became : List.Forall₂ (Becomes property) answers entries)
      (each : answers.length = items.length) :
      CallsInTurn method property items records (answers.map .ok) (.ok entries)
  | noRecord {before after answers : List Json} {item : Json} {records : List Record}
      (called : List.Forall₂ CalledWith before records) (each : answers.length = before.length)
      (present : item ≠ .null) (other : item.isObject = false) :
      CallsInTurn method property (before ++ item :: after) records (answers.map .ok)
        (.error (.notARecord item.kind))
  | failed {before after answers : List Json} {item : Json} {records : List Record}
      {record : Record} {error : CallError} (called : List.Forall₂ CalledWith before records)
      (each : answers.length = before.length) (calledLast : CalledWith item record) :
      CallsInTurn method property (before ++ item :: after) (records ++ [record])
        (answers.map .ok ++ [.error error]) (.error (.call method error.message))

namespace CallsInTurn
variable {method : String} {property : Option String} {items : List Json}

theorem cons {item answer entry : Json} {record : Record} {records : List Record}
    {results : List (Except CallError Json)} {outcome : Except ResolveError (List Json)}
    (called : CalledWith item record) (became : Becomes property answer entry)
    (rest : CallsInTurn method property items records results outcome) :
    CallsInTurn method property (item :: items) (record :: records) (.ok answer :: results)
      (outcome.map (entry :: ·)) := by
  cases rest with
  | @answered _ answers entries _ others laterBecame each =>
    exact @answered _ _ _ (answer :: answers) _ _ (.cons called others)
      (.cons became laterBecame) (congrArg Nat.succ each)
  | @noRecord before after answers unfit _ others each present other =>
    exact @noRecord _ _ (item :: before) after (answer :: answers) unfit _
      (.cons called others) (congrArg Nat.succ each) present other
  | @failed before after answers last _ _ error others each calledLast =>
    exact @failed _ _ (item :: before) after (answer :: answers) last _ _ error
      (.cons called others) (congrArg Nat.succ each) calledLast

theorem nil : CallsInTurn method property [] [] [] (.ok []) :=
  @answered _ _ _ [] _ _ .nil .nil rfl

theorem noRecord_first {item : Json} (present : item ≠ .null) (other : item.isObject = false) :
    CallsInTurn method property (item :: items) [] [] (.error (.notARecord item.kind)) :=
  @noRecord _ _ [] items [] item _ .nil rfl present other

theorem failed_first {item : Json} {record : Record} {error : CallError}
    (called : CalledWith item record) :
    CallsInTurn method property (item :: items) [record] [.error error]
      (.error (.call method error.message)) :=
  @failed _ _ [] items [] item _ _ error .nil rfl called

end CallsInTurn

/-! One call. -/

theorem calledWith_of_callParams {params : Json} {record : Record}
    (fit : callParams params = .ok record) : CalledWith params record := by
  cases params <;> cases fit
  · exact .null
  · exact .record _

theorem unfit_of_callParams {params : Json} {error : ResolveError}
    (unfit : callParams params = .error error) :
    params ≠ .null ∧ params.isObject = false ∧ error = .notARecord params.kind := by
  have kind := callParams_eq_error unfit
  cases params <;> cases unfit <;> exact ⟨nofun, rfl, kind⟩

theorem becomes_answerVector (property : Option String) (answer : Json) :
    Becomes property answer (answerVector property answer) := by
  have list : ∀ picked : Json, InList picked (if picked.isArray then picked else .array [picked]) := by
    intro picked
    by_cases array : picked.isArray = true
    · obtain ⟨items, rfl⟩ := Json.isArray_iff.mp array
      exact .array items
    · rw [if_neg array]
      exact .single (Bool.eq_false_iff.mpr array)
  cases property with
  | none => exact ⟨answer, .whole, list answer⟩
  | some key =>
    cases found : answer.field? key with
    | none =>
      refine ⟨.null, .missing found, ?_⟩
      simpa [answerVector, found] using list .null
    | some value =>
      refine ⟨value, .found found, ?_⟩
      simpa [answerVector, found] using list value

/-! The node of one item. -/

inductive AsksFor (iterateeArgs : Record) : Option String → Prop where
  | absent (missing : Entries.valueAt? "property" iterateeArgs = none) : AsksFor iterateeArgs none
  | null (given : Entries.valueAt? "property" iterateeArgs = some .null) :
      AsksFor iterateeArgs none
  | named {key : String} (given : Entries.valueAt? "property" iterateeArgs = some (.string key)) :
      AsksFor iterateeArgs (some key)

theorem AsksFor.readField {fields iterateeArgs : Record} {property : Option String}
    (same : Entries.valueAt? "property" fields = Entries.valueAt? "property" iterateeArgs)
    (asksFor : AsksFor iterateeArgs property) :
    ∃ given, Json.readField fields "property" (Json.readOptional Json.readText) = .ok given ∧
      given.join = property := by
  cases asksFor with
  | absent missing => exact ⟨none, by rw [Json.readField, same, missing], rfl⟩
  | null given => exact ⟨some none, Json.readField_present (same.trans given) rfl, rfl⟩
  | named given => exact ⟨some (some _), Json.readField_present (same.trans given) rfl, rfl⟩

section Node

variable {iterateeArgs : Record}

def callFields (iterateeArgs : Record) (item : Json) : Record :=
  Entries.put "value" item (sharedFields Tag.call.text iterateeArgs)

theorem valueAt?_callFields (iterateeArgs : Record) (item : Json) {key : String}
    (plain : key ≠ "value") (untyped : key ≠ "type") :
    Entries.valueAt? key (callFields iterateeArgs item) = Entries.valueAt? key iterateeArgs := by
  rw [callFields, valueAt?_put_sharedFields, if_neg plain.symm, valueAt?_sharedFields,
    if_neg untyped.symm, Option.or_none]

theorem value_callFields (iterateeArgs : Record) (item : Json) :
    Entries.valueAt? "value" (callFields iterateeArgs item) = some item := by
  rw [callFields, valueAt?_put_sharedFields, if_pos rfl]

theorem ofJson_callFields (untyped : Entries.valueAt? "type" iterateeArgs = none) (item : Json) :
    ofJson (iterateeNode Tag.call.text iterateeArgs item) =
      (readCall (callFields iterateeArgs item)).mapError (.invalid .call) := by
  have typed : Entries.valueAt? "type" (callFields iterateeArgs item) =
      some (.string Tag.call.text) := by
    simp [callFields, valueAt?_put_sharedFields, valueAt?_sharedFields, untyped]
  rw [iterateeNode, ← sharedFields, ← callFields, ofJson_of_typed typed,
    innerNodes_of_typed typed, builder]
  cases readCall (callFields iterateeArgs item) <;> rfl

theorem ofJson_callNode {method : String} {property : Option String}
    (untyped : Entries.valueAt? "type" iterateeArgs = none)
    (named : Entries.valueAt? "method" iterateeArgs = some (.string method))
    (asksFor : AsksFor iterateeArgs property)
    (free : Entries.valueAt? "params" iterateeArgs = none) (item : Json) :
    ofJson (iterateeNode Tag.call.text iterateeArgs item) =
      .ok (.call method item property) := by
  have look := @valueAt?_callFields iterateeArgs item
  have methodRead : Json.readField (callFields iterateeArgs item) "method" Json.readText =
      .ok (some method) :=
    Json.readField_present ((look (by decide) (by decide)).trans named) rfl
  obtain ⟨given, propertyRead, rfl⟩ := asksFor.readField (look (by decide) (by decide))
  rw [ofJson_callFields untyped, readCall, methodRead, propertyRead, Json.readField_readAny,
    Json.readField_readAny, look (by decide) (by decide), free, value_callFields]
  rfl

theorem ofJson_callNode_fails (untyped : Entries.valueAt? "type" iterateeArgs = none)
    {params : Json} (given : Entries.valueAt? "params" iterateeArgs = some params) (item : Json) :
    ∃ misfit, ofJson (iterateeNode Tag.call.text iterateeArgs item) =
      .error (.invalid .call misfit) := by
  rw [ofJson_callFields untyped]
  cases read : readCall (callFields iterateeArgs item) with
  | error misfit => exact ⟨misfit, rfl⟩
  | ok node =>
    obtain ⟨_, apart, _⟩ := exists_readCall.mp ⟨node, read⟩
    rw [valueAt?_callFields _ _ (by decide) (by decide), given, value_callFields] at apart
    rcases apart with absent | absent <;> cases absent

end Node

/-! The calls of all items. -/

section Calls

variable {around : Surroundings σ} {source : CallSource σ} {api : Api} {identity : Identity}
  {history : σ → List Invocation} {method : String} {property : Option String}
  {iterateeArgs : Record}

theorem run_call_of_fit (available : around.calls = some source)
    (asks : AsksApi api identity history source) {params : Json} {record : Record}
    (fit : callParams params = .ok record) (property : Option String) (state : σ) :
    ∃ later, history later = ⟨identity, method, record⟩ :: history state ∧
      (evaluateCall around method params property).run.run state =
        (((api (history state) ⟨identity, method, record⟩).mapError fun error =>
          ResolveError.call method error.message).map (answerVector property), later) := by
  refine ⟨_, asks.history method record state, ?_⟩
  rw [run_evaluateCall_some available, fit]
  change (((source method record state).1.mapError _).map _, _) = _
  rw [asks.answer]
  cases api (history state) ⟨identity, method, record⟩ <;> rfl

-- The induction is on the items; a call that was answered is put before those that come after it.
theorem run_calls (available : around.calls = some source)
    (asks : AsksApi api identity history source)
    (nodes : ∀ item, ofJson (iterateeNode Tag.call.text iterateeArgs item) =
      .ok (.call method item property)) (items : List Json) (state : σ) :
    ∃ (records : List Record) (outcome : Except ResolveError (List Json)) (later : σ),
      (items.mapM (mapped (evaluate around) Tag.call.text iterateeArgs)).run.run state =
        (outcome, later) ∧
      history later = (records.map (Invocation.mk identity method)).reverse ++ history state ∧
      CallsInTurn method property items records
        (resultsOf api (history state) (records.map (Invocation.mk identity method))) outcome := by
  have called : ∀ item, mapped (evaluate around) Tag.call.text iterateeArgs item =
      evaluateCall around method item property := by
    intro item
    rw [mapped, nodes]
    rfl
  induction items generalizing state with
  | nil => exact ⟨[], .ok [], state, rfl, rfl, .nil⟩
  | cons item rest ih =>
    rw [List.mapM_cons, called]
    cases fit : callParams item with
    | error error =>
      obtain ⟨present, other, rfl⟩ := unfit_of_callParams fit
      refine ⟨[], _, state, run_bind_of_error ?_, rfl, .noRecord_first present other⟩
      rw [run_evaluateCall_some available, fit]
      rfl
    | ok record =>
      have calledWith := calledWith_of_callParams fit
      obtain ⟨middle, made, ran⟩ := run_call_of_fit available asks fit property state
      cases result : api (history state) ⟨identity, method, record⟩ with
      | error error =>
        rw [result] at ran
        refine ⟨[record], _, middle, run_bind_of_error ran, made, ?_⟩
        rw [List.map_singleton, resultsOf_cons, result]
        exact .failed_first calledWith
      | ok answer =>
        rw [result] at ran
        obtain ⟨records, outcome, later, ranOn, madeOn, inTurn⟩ := ih middle
        refine ⟨record :: records, outcome.map (answerVector property answer :: ·), later, ?_, ?_, ?_⟩
        · rw [run_bind_of_ok ran]
          cases outcome with
          | ok entries => exact run_bind_of_ok ranOn
          | error error => exact run_bind_of_error ranOn
        · rw [madeOn, made]
          simp
        · rw [made] at inTurn
          rw [List.map_cons, resultsOf_cons, result]
          exact inTurn.cons calledWith (becomes_answerVector property answer)

end Calls

/-! The whole map. -/

theorem run_map {around : Surroundings σ} {collection : ParamVector} {items : List Json}
    {state middle : σ}
    (collected : (evaluate around collection).run.run state = (.ok (.array items), middle))
    (iteratee : String) (iterateeArgs : Record) :
    (evaluate around (.map collection iteratee iterateeArgs)).run.run state =
      let results := (items.mapM (mapped (evaluate around) iteratee iterateeArgs)).run.run middle
      (results.1.map .array, results.2) := by
  have vector : (vectorOf (evaluate around) collection).run.run state = (.ok items, middle) :=
    run_bind_of_ok collected
  rw [evaluate_eq_evaluateNode, evaluateNode, run_bind_of_ok vector]
  cases ran : (items.mapM (mapped (evaluate around) iteratee iterateeArgs)).run.run middle with
  | mk outcome later =>
    cases outcome with
    | ok entries => exact run_bind_of_ok ran
    | error error => exact run_bind_of_error ran

end JobFanout.ParamVector

namespace JobFanout.Resolution

theorem value_eq_iff {around : Surroundings Trace} {vector : ParamVector}
    {result : Except ResolveError Json} {made : List Invocation} :
    value around vector = (result, made) ↔ ∃ queried,
      (ParamVector.evaluate around vector).run.run {} = (result, ⟨queried, made.reverse⟩) := by
  rw [value, resolved]
  cases (ParamVector.evaluate around vector).run.run {} with
  | mk found trace =>
    obtain ⟨queried, invocations⟩ := trace
    constructor
    · rintro same
      cases same
      exact ⟨queried, by rw [List.reverse_reverse]⟩
    · rintro ⟨_, same⟩
      cases same
      exact congrArg (Prod.mk result) (List.reverse_reverse made)

end JobFanout.Resolution

namespace JobFanout.ParamVector

/-- A map that calls a method makes the call for one item after another with the item as parameters,
once each, after the calls of the collection. The first item that is no parameters ends it, and so
does the first call that fails; otherwise each answer, or the property asked for of it, becomes an
entry, in a list of its own unless it is one. If the arguments have parameters already, there are two,
and no call is made for any item. -/
theorem calls_made_in_turn {snapshots : Nat → Except String (List Json)} {api : Api}
    {identity : Identity} {collection : ParamVector} {items : List Json} {earlier : List Invocation}
    (collected : Resolution.value (Resolution.surroundings snapshots (some api) identity) collection =
      (.ok (.array items), earlier))
    {iterateeArgs : Record} (untyped : Entries.valueAt? "type" iterateeArgs = none) :
    let called := Resolution.value (Resolution.surroundings snapshots (some api) identity)
      (.map collection Tag.call.text iterateeArgs)
    (∀ method property, Entries.valueAt? "method" iterateeArgs = some (.string method) →
      AsksFor iterateeArgs property → Entries.valueAt? "params" iterateeArgs = none →
      ∃ (records : List Record) (outcome : Except ResolveError (List Json)),
        let made := records.map (Invocation.mk identity method)
        called = (outcome.map .array, earlier ++ made) ∧
        CallsInTurn method property items records (resultsOf api earlier.reverse made) outcome) ∧
    ∀ params, Entries.valueAt? "params" iterateeArgs = some params → items ≠ [] →
      ∃ misfit, called = (.error (.vector (.invalid .call misfit)), earlier) := by
  intro called
  obtain ⟨queried, ran⟩ := Resolution.value_eq_iff.mp collected
  have available : (Resolution.surroundings snapshots (some api) identity).calls =
      some (Resolution.callSource api identity) := rfl
  constructor
  · intro method property named asksFor free
    obtain ⟨records, outcome, later, calls, made, inTurn⟩ :=
      run_calls available (Resolution.asksApi_callSource api identity)
        (ofJson_callNode untyped named asksFor free) items ⟨queried, earlier.reverse⟩
    refine ⟨records, outcome, Resolution.value_eq_iff.mpr ⟨later.queried, ?_⟩, inTurn⟩
    rw [run_map ran, calls, List.reverse_append]
    exact congrArg (fun made => (outcome.map Json.array, Trace.mk later.queried made)) made
  · intro params given nonempty
    obtain ⟨item, rest, rfl⟩ := List.exists_cons_of_ne_nil nonempty
    obtain ⟨misfit, unread⟩ := ofJson_callNode_fails untyped given item
    use misfit
    refine Resolution.value_eq_iff.mpr ⟨queried, ?_⟩
    rw [run_map ran, List.mapM_cons, mapped, unread]
    rfl

def snapshotItems : List Json := [.object [("id", .string "vm-1")], .null, .int 3, .null]

theorem snapshots_called_in_turn :
    let api : Api := fun earlier _ =>
      .ok (if earlier.isEmpty then .object [("snapshots", .array [.int 1])] else .array [])
    let around := Resolution.surroundings (fun _ => .ok []) (some api) ⟨"identity-1", "u"⟩
    let call := Invocation.mk ⟨"identity-1", "u"⟩ "vm.snapshots"
    let args := [("method", Json.string "vm.snapshots"), ("property", .string "snapshots"),
      ("value", .string "unused")]
    let called := Resolution.value around (.map (.set snapshotItems) Tag.call.text args)
    (Resolution.value around (.set snapshotItems) = (.ok (.array snapshotItems), []) ∧
      Entries.valueAt? "type" args = none ∧
      Entries.valueAt? "method" args = some (.string "vm.snapshots") ∧
      AsksFor args (some "snapshots") ∧ Entries.valueAt? "params" args = none) ∧
    called = (.error (.notARecord .number), [call [("id", .string "vm-1")], call []]) ∧
    ∃ (records : List Record) (outcome : Except ResolveError (List Json)),
      called = (outcome.map .array, [] ++ records.map call) ∧
      CallsInTurn "vm.snapshots" (some "snapshots") snapshotItems records
        (resultsOf api [] (records.map call)) outcome := by
  intro api around call args called
  have collected : Resolution.value around (.set snapshotItems) =
      (.ok (.array snapshotItems), []) := rfl
  have untyped : Entries.valueAt? "type" args = none := rfl
  have asksFor : AsksFor args (some "snapshots") := .named rfl
  obtain ⟨inTurn, _⟩ := calls_made_in_turn collected untyped
  exact ⟨⟨collected, untyped, rfl, asksFor, rfl⟩, rfl, inTurn _ _ rfl asksFor rfl⟩

end JobFanout.ParamVector
