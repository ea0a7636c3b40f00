import Mathlib.Data.Option.Defs
import JobFanout.Proofs.ReportReadBack
import JobFanout.Proofs.StoredJobs
/-!
Jobs, records of calls, reports and events that have been loaded, from an object or from a list of
their fields. What is loaded depends on the parts that the value gives, a part that is `null` being
none, so no loaded value holds a `null` of its own and what is written for it is loaded as the same
value again.
-/
namespace JobFanout

namespace Json
variable {α : Type}

/-- What a value gives under a name: a field of an object, or of a list the element at the place
that the name has among all names of the type. A `null` gives nothing. -/
def part? (names : List String) (name : String) : Json → Option Json
  | .object fields => (Entries.valueAt? name fields).bind unlessNull
  | .array items => (items[names.idxOf name]?).bind unlessNull
  | _ => none

/-- The part is there and read as the value, or there is neither. -/
def Gives (names : List String) (value : Json) (name : String) (read : Json → Except Misfit α)
    (given : Option α) : Prop :=
  Option.Rel (fun json value => read json = .ok value) (value.part? names name) given

/-- Whatever is loaded from the value, loading it from what is written for it changes nothing. -/
structure Normalises (read : Json → Except Misfit α) (write : α → Json) (value : Json) : Prop where
  loaded : ∀ loaded, read value = .ok loaded → read (write loaded) = .ok loaded
  stored : ∀ stored, (read value).map write = .ok stored →
    read stored = read value ∧ (read stored).map write = .ok stored

theorem unlessNull_ne_null {json part : Json} (given : json.unlessNull = some part) :
    part ≠ .null := by
  rintro rfl
  cases json <;> cases given

theorem unlessNull_of_ne_null {json : Json} (present : json ≠ .null) :
    json.unlessNull = some json := by
  cases json <;> first | rfl | exact absurd rfl present

variable {names : List String} {name : String} {read : Json → Except Misfit α}

theorem part?_ne_null {value part : Json} (given : value.part? names name = some part) :
    part ≠ .null := by
  cases value with
  | object fields =>
    obtain ⟨json, _, kept⟩ := Option.bind_eq_some_iff.mp given
    exact unlessNull_ne_null kept
  | array items =>
    obtain ⟨json, _, kept⟩ := Option.bind_eq_some_iff.mp given
    exact unlessNull_ne_null kept
  | _ => cases given

theorem Gives.exists_part {value : Json} {loaded : α}
    (gives : Gives names value name read (some loaded)) :
    ∃ part, value.part? names name = some part ∧ read part = .ok loaded := by
  unfold Gives at gives
  cases found : value.part? names name with
  | none =>
    rw [found] at gives
    cases gives
  | some part =>
    rw [found] at gives
    cases gives with
    | some reads => exact ⟨part, rfl, reads⟩

theorem Gives.ne_null {value loaded : Json} (gives : Gives names value name readAny (some loaded)) :
    loaded ≠ .null := by
  obtain ⟨part, found, reads⟩ := gives.exists_part
  cases reads
  exact part?_ne_null found

/-! One part of an object and one of a list. -/

theorem rel_of_readOptional {json : Json} {given : Option α}
    (reads : readOptional read json = .ok given) :
    Option.Rel (fun json value => read json = .ok value) json.unlessNull given := by
  by_cases null : json = .null
  · subst null
    cases reads
    exact .none
  · rw [readOptional_of_ne_null null] at reads
    rw [unlessNull_of_ne_null null]
    cases own : read json with
    | error misfit =>
      rw [own] at reads
      cases reads
    | ok value =>
      rw [own] at reads
      cases reads
      exact .some own

theorem rel_of_read {json : Json} {value : α} (refused : ∀ value, read .null ≠ .ok value)
    (reads : read json = .ok value) :
    Option.Rel (fun json value => read json = .ok value) json.unlessNull (some value) := by
  have present : json ≠ .null := by
    rintro rfl
    exact refused value reads
  rw [unlessNull_of_ne_null present]
  exact .some reads

theorem gives_of_readField {fields : Record} {result : Option α} {value : α}
    (refused : ∀ value, read .null ≠ .ok value) (field : readField fields name read = .ok result)
    (present : required name result = .ok value) :
    Gives names (.object fields) name read (some value) := by
  cases ParamVector.required_eq_ok.mp present
  obtain ⟨json, found, reads⟩ := readField_eq_some.mp field
  rw [Gives, part?, found]
  exact rel_of_read refused reads

theorem gives_of_optionalField {fields : Record} {result : Option (Option α)}
    (field : readField fields name (readOptional read) = .ok result) :
    Gives names (.object fields) name read result.join := by
  rw [Gives, part?]
  rcases ParamVector.readField_eq_ok field with ⟨absent, rfl⟩ | ⟨json, given, found, reads, rfl⟩
  · rw [absent]
    exact .none
  · rw [found]
    exact rel_of_readOptional reads

theorem exists_of_readElement {items : List Json} {place : Nat} {wanted : Wanted} {value : α}
    (element : readElement items place wanted read = .ok value) :
    ∃ json, items[place]? = some json ∧ read json = .ok value := by
  unfold readElement at element
  cases found : items[place]? with
  | none =>
    rw [found] at element
    cases element
  | some json =>
    rw [found] at element
    exact ⟨json, rfl, element⟩

theorem gives_of_readElement {items : List Json} {place : Nat} {wanted : Wanted} {value : α}
    (refused : ∀ value, read .null ≠ .ok value)
    (element : readElement items place wanted read = .ok value)
    (listed : names.idxOf name = place) : Gives names (.array items) name read (some value) := by
  obtain ⟨json, found, reads⟩ := exists_of_readElement element
  rw [Gives, part?, listed, found]
  exact rel_of_read refused reads

theorem gives_of_optionalElement {items : List Json} {place : Nat} {wanted : Wanted}
    {given : Option α} (element : readElement items place wanted (readOptional read) = .ok given)
    (listed : names.idxOf name = place) : Gives names (.array items) name read given := by
  obtain ⟨json, found, reads⟩ := exists_of_readElement element
  rw [Gives, part?, listed, found]
  exact rel_of_readOptional reads

theorem exists_of_mem_readEntries {entries : Record} {loaded : Entries α}
    (reads : readEntries read entries = .ok loaded) :
    ∀ entry ∈ loaded, ∃ json, read json = .ok entry.2 := by
  induction entries generalizing loaded with
  | nil =>
    cases reads
    simp
  | cons entry rest ih =>
    obtain ⟨key, json⟩ := entry
    rw [readEntries] at reads
    obtain ⟨first, own, reads⟩ := ParamVector.bind_eq_ok.mp reads
    obtain ⟨others, later, reads⟩ := ParamVector.bind_eq_ok.mp reads
    cases reads
    intro entry listed
    rcases List.mem_cons.mp listed with rfl | other
    · exact ⟨json, own⟩
    · exact ih later entry other

theorem normalises_of {write : α → Json} {value : Json}
    (again : ∀ loaded, read value = .ok loaded → read (write loaded) = .ok loaded) :
    Normalises read write value := by
  refine ⟨again, fun stored written => ?_⟩
  cases own : read value with
  | error misfit =>
    rw [own] at written
    cases written
  | ok loaded =>
    rw [own] at written
    cases written
    rw [again loaded own]
    exact ⟨rfl, rfl⟩

end Json

open Json (Gives Normalises readAny readText readMap readMapOf readInstant)

/-! Jobs. -/

namespace Job

def listedNames : List String :=
  ["id", "name", "userId", "key", "method", "type", "paramsVector"]

structure GivenBy (value : Json) (job : Job) : Prop where
  id : Gives listedNames value "id" readText (some job.id)
  name : Gives listedNames value "name" readText job.name
  userId : Gives listedNames value "userId" readText (some job.userId)
  key : Gives listedNames value "key" readText (some job.key)
  method : Gives listedNames value "method" readText (some job.method)
  type : Gives listedNames value "type" readText (some job.type)
  paramsVector : Gives listedNames value "paramsVector" readAny job.paramsVector

theorem givenBy_of_readFields {fields : Record} {job : Job} (loaded : readFields fields = .ok job) :
    GivenBy (.object fields) job := by
  unfold readFields at loaded
  obtain ⟨id, idRead, loaded⟩ := ParamVector.bind_eq_ok.mp loaded
  obtain ⟨key, keyRead, loaded⟩ := ParamVector.bind_eq_ok.mp loaded
  obtain ⟨method, methodRead, loaded⟩ := ParamVector.bind_eq_ok.mp loaded
  obtain ⟨name, nameRead, loaded⟩ := ParamVector.bind_eq_ok.mp loaded
  obtain ⟨vector, vectorRead, loaded⟩ := ParamVector.bind_eq_ok.mp loaded
  obtain ⟨type, typeRead, loaded⟩ := ParamVector.bind_eq_ok.mp loaded
  obtain ⟨user, userRead, loaded⟩ := ParamVector.bind_eq_ok.mp loaded
  unfold Draft.finish at loaded
  obtain ⟨ownId, idGiven, loaded⟩ := ParamVector.bind_eq_ok.mp loaded
  obtain ⟨ownUser, userGiven, loaded⟩ := ParamVector.bind_eq_ok.mp loaded
  obtain ⟨ownKey, keyGiven, loaded⟩ := ParamVector.bind_eq_ok.mp loaded
  obtain ⟨ownMethod, methodGiven, loaded⟩ := ParamVector.bind_eq_ok.mp loaded
  obtain ⟨ownType, typeGiven, loaded⟩ := ParamVector.bind_eq_ok.mp loaded
  cases loaded
  exact {
    id := Json.gives_of_readField (fun _ => nofun) idRead idGiven
    name := Json.gives_of_optionalField nameRead
    userId := Json.gives_of_readField (fun _ => nofun) userRead userGiven
    key := Json.gives_of_readField (fun _ => nofun) keyRead keyGiven
    method := Json.gives_of_readField (fun _ => nofun) methodRead methodGiven
    type := Json.gives_of_readField (fun _ => nofun) typeRead typeGiven
    paramsVector := Json.gives_of_optionalField vectorRead }

theorem gives_of_optionalElement {α : Type} {read : Json → Except Misfit α} {items : List Json}
    {names : List String} {name : String} {place : Nat} {given : Option α}
    (element : optionalElement items place read = .ok given) (listed : names.idxOf name = place) :
    Gives names (.array items) name read given := by
  unfold optionalElement at element
  rw [Gives, Json.part?, listed]
  cases found : items[place]? with
  | none =>
    rw [found] at element
    cases element
    exact .none
  | some json =>
    rw [found] at element
    exact Json.rel_of_readOptional element

theorem givenBy_of_readItems {items : List Json} {job : Job} (loaded : readItems items = .ok job) :
    GivenBy (.array items) job := by
  unfold readItems at loaded
  obtain ⟨id, idRead, loaded⟩ := ParamVector.bind_eq_ok.mp loaded
  obtain ⟨name, nameRead, loaded⟩ := ParamVector.bind_eq_ok.mp loaded
  obtain ⟨user, userRead, loaded⟩ := ParamVector.bind_eq_ok.mp loaded
  obtain ⟨key, keyRead, loaded⟩ := ParamVector.bind_eq_ok.mp loaded
  obtain ⟨method, methodRead, loaded⟩ := ParamVector.bind_eq_ok.mp loaded
  obtain ⟨type, typeRead, loaded⟩ := ParamVector.bind_eq_ok.mp loaded
  obtain ⟨vector, vectorRead, loaded⟩ := ParamVector.bind_eq_ok.mp loaded
  obtain ⟨_, _, loaded⟩ := ParamVector.bind_eq_ok.mp loaded
  cases loaded
  exact {
    id := Json.gives_of_readElement (fun _ => nofun) idRead rfl
    name := gives_of_optionalElement nameRead rfl
    userId := Json.gives_of_readElement (fun _ => nofun) userRead rfl
    key := Json.gives_of_readElement (fun _ => nofun) keyRead rfl
    method := Json.gives_of_readElement (fun _ => nofun) methodRead rfl
    type := Json.gives_of_readElement (fun _ => nofun) typeRead rfl
    paramsVector := gives_of_optionalElement vectorRead rfl }

theorem givenBy_of_ofJson {value : Json} {job : Job} (loaded : ofJson value = .ok job) :
    job.GivenBy value := by
  cases value with
  | object fields => exact givenBy_of_readFields loaded
  | array items => exact givenBy_of_readItems loaded
  | _ => cases loaded

theorem ofJson_toJson_of_loaded {value : Json} {job : Job} (loaded : ofJson value = .ok job) :
    ofJson job.toJson = .ok job := by
  obtain ⟨own, written, _, fields, _⟩ := job.exists_own
  rw [written]
  refine fields.ofJson_eq fun null => ?_
  have given := (givenBy_of_ofJson loaded).paramsVector
  rw [null] at given
  exact given.ne_null rfl

end Job

/-! Records of calls. -/

namespace CallRecord

def listedNames : List String := ["method", "params", "start", "end", "returnedValue", "error"]

structure GivenBy (value : Json) (call : CallRecord) : Prop where
  method : Gives listedNames value "method" readText (some call.method)
  params : Gives listedNames value "params" readMap (some call.params)
  start : Gives listedNames value "start" readInstant (some call.start)
  finish : Gives listedNames value "end" readInstant call.finish
  returnedValue : Gives listedNames value "returnedValue" readAny call.returnedValue
  error : Gives listedNames value "error" readText call.error

variable {call : CallRecord}

theorem givenBy_of_readFields {fields : Record} (loaded : readFields fields = .ok call) :
    GivenBy (.object fields) call := by
  unfold readFields at loaded
  obtain ⟨finish, finishRead, loaded⟩ := ParamVector.bind_eq_ok.mp loaded
  obtain ⟨error, errorRead, loaded⟩ := ParamVector.bind_eq_ok.mp loaded
  obtain ⟨method, methodRead, loaded⟩ := ParamVector.bind_eq_ok.mp loaded
  obtain ⟨params, paramsRead, loaded⟩ := ParamVector.bind_eq_ok.mp loaded
  obtain ⟨returned, returnedRead, loaded⟩ := ParamVector.bind_eq_ok.mp loaded
  obtain ⟨start, startRead, loaded⟩ := ParamVector.bind_eq_ok.mp loaded
  obtain ⟨ownMethod, methodGiven, loaded⟩ := ParamVector.bind_eq_ok.mp loaded
  obtain ⟨ownParams, paramsGiven, loaded⟩ := ParamVector.bind_eq_ok.mp loaded
  obtain ⟨ownStart, startGiven, loaded⟩ := ParamVector.bind_eq_ok.mp loaded
  cases loaded
  exact {
    method := Json.gives_of_readField (fun _ => nofun) methodRead methodGiven
    params := Json.gives_of_readField (fun _ => nofun) paramsRead paramsGiven
    start := Json.gives_of_readField (fun _ => nofun) startRead startGiven
    finish := Json.gives_of_optionalField finishRead
    returnedValue := Json.gives_of_optionalField returnedRead
    error := Json.gives_of_optionalField errorRead }

theorem givenBy_of_readItems {items : List Json} (loaded : readItems items = .ok call) :
    GivenBy (.array items) call := by
  unfold readItems at loaded
  obtain ⟨method, methodRead, loaded⟩ := ParamVector.bind_eq_ok.mp loaded
  obtain ⟨params, paramsRead, loaded⟩ := ParamVector.bind_eq_ok.mp loaded
  obtain ⟨start, startRead, loaded⟩ := ParamVector.bind_eq_ok.mp loaded
  obtain ⟨finish, finishRead, loaded⟩ := ParamVector.bind_eq_ok.mp loaded
  obtain ⟨returned, returnedRead, loaded⟩ := ParamVector.bind_eq_ok.mp loaded
  obtain ⟨error, errorRead, loaded⟩ := ParamVector.bind_eq_ok.mp loaded
  obtain ⟨_, _, loaded⟩ := ParamVector.bind_eq_ok.mp loaded
  cases loaded
  exact {
    method := Json.gives_of_readElement (fun _ => nofun) methodRead rfl
    params := Json.gives_of_readElement (fun _ => nofun) paramsRead rfl
    start := Json.gives_of_readElement (fun _ => nofun) startRead rfl
    finish := Json.gives_of_optionalElement finishRead rfl
    returnedValue := Json.gives_of_optionalElement returnedRead rfl
    error := Json.gives_of_optionalElement errorRead rfl }

theorem givenBy_of_ofJson {value : Json} (loaded : ofJson value = .ok call) :
    call.GivenBy value := by
  cases value with
  | object fields => exact givenBy_of_readFields loaded
  | array items => exact givenBy_of_readItems loaded
  | _ => cases loaded

theorem returnedValue_of_loaded {value : Json} (loaded : ofJson value = .ok call) :
    call.returnedValue ≠ some .null := by
  intro null
  have given := (givenBy_of_ofJson loaded).returnedValue
  rw [null] at given
  exact given.ne_null rfl

theorem ofJson_toJson_of_loaded {value : Json} (loaded : ofJson value = .ok call) :
    ofJson call.toJson = .ok call := by
  rw [ofJson_toJson, withoutNull_eq_self_iff.mpr (returnedValue_of_loaded loaded)]

end CallRecord

/-! Reports. -/

namespace Report

def listedNames : List String := ["runJobId", "start", "end", "calls"]

structure GivenBy (value : Json) (report : Report) : Prop where
  runJobId : Gives listedNames value "runJobId" readText (some report.runJobId)
  start : Gives listedNames value "start" readInstant (some report.start)
  finish : Gives listedNames value "end" readInstant report.finish
  calls : Gives listedNames value "calls" (readMapOf CallRecord.ofJson) (some report.calls)

variable {report : Report}

theorem givenBy_of_readFields {fields : Record} (loaded : readFields fields = .ok report) :
    GivenBy (.object fields) report := by
  unfold readFields at loaded
  obtain ⟨calls, callsRead, loaded⟩ := ParamVector.bind_eq_ok.mp loaded
  obtain ⟨finish, finishRead, loaded⟩ := ParamVector.bind_eq_ok.mp loaded
  obtain ⟨runJobId, idRead, loaded⟩ := ParamVector.bind_eq_ok.mp loaded
  obtain ⟨start, startRead, loaded⟩ := ParamVector.bind_eq_ok.mp loaded
  obtain ⟨ownId, idGiven, loaded⟩ := ParamVector.bind_eq_ok.mp loaded
  obtain ⟨ownStart, startGiven, loaded⟩ := ParamVector.bind_eq_ok.mp loaded
  obtain ⟨ownCalls, callsGiven, loaded⟩ := ParamVector.bind_eq_ok.mp loaded
  cases loaded
  exact {
    runJobId := Json.gives_of_readField (fun _ => nofun) idRead idGiven
    start := Json.gives_of_readField (fun _ => nofun) startRead startGiven
    finish := Json.gives_of_optionalField finishRead
    calls := Json.gives_of_readField (fun _ => nofun) callsRead callsGiven }

theorem givenBy_of_readItems {items : List Json} (loaded : readItems items = .ok report) :
    GivenBy (.array items) report := by
  unfold readItems at loaded
  obtain ⟨runJobId, idRead, loaded⟩ := ParamVector.bind_eq_ok.mp loaded
  obtain ⟨start, startRead, loaded⟩ := ParamVector.bind_eq_ok.mp loaded
  obtain ⟨finish, finishRead, loaded⟩ := ParamVector.bind_eq_ok.mp loaded
  obtain ⟨calls, callsRead, loaded⟩ := ParamVector.bind_eq_ok.mp loaded
  obtain ⟨_, _, loaded⟩ := ParamVector.bind_eq_ok.mp loaded
  cases loaded
  exact {
    runJobId := Json.gives_of_readElement (fun _ => nofun) idRead rfl
    start := Json.gives_of_readElement (fun _ => nofun) startRead rfl
    finish := Json.gives_of_optionalElement finishRead rfl
    calls := Json.gives_of_readElement (fun _ => nofun) callsRead rfl }

theorem givenBy_of_ofJson {value : Json} (loaded : ofJson value = .ok report) :
    report.GivenBy value := by
  cases value with
  | object fields => exact givenBy_of_readFields loaded
  | array items => exact givenBy_of_readItems loaded
  | _ => cases loaded

theorem withoutNulls_of_loaded {value : Json} (loaded : ofJson value = .ok report) :
    report.withoutNulls = report := by
  obtain ⟨calls, _, reads⟩ := (givenBy_of_ofJson loaded).calls.exists_part
  rw [readMapOf] at reads
  obtain ⟨entries, _, reads⟩ := ParamVector.bind_eq_ok.mp reads
  refine withoutNulls_eq_self_iff.mpr fun entry listed => ?_
  obtain ⟨json, own⟩ := Json.exists_of_mem_readEntries reads entry listed
  exact CallRecord.returnedValue_of_loaded own

theorem ofJson_toJson_of_loaded {value : Json} (loaded : ofJson value = .ok report) :
    ofJson report.toJson = .ok report := by
  rw [ofJson_toJson, withoutNulls_of_loaded loaded]

end Report

/-! Events. -/

namespace JobEvent

def listedNames : List String := ["event", "payload"]

/-- The name may also be given as the one key of an object. -/
structure GivenBy (value : Json) (event : JobEvent) : Prop where
  name : Gives listedNames value "event" readTag (some ())
  report : Gives listedNames value "payload" Report.ofJson (some event.report)

variable {event : JobEvent}

theorem givenBy_of_readFields {fields : Record} (loaded : readFields fields = .ok event) :
    GivenBy (.object fields) event := by
  unfold readFields at loaded
  obtain ⟨tag, tagRead, loaded⟩ := ParamVector.bind_eq_ok.mp loaded
  obtain ⟨ownTag, tagGiven, loaded⟩ := ParamVector.bind_eq_ok.mp loaded
  obtain ⟨payload, payloadRead, loaded⟩ := ParamVector.bind_eq_ok.mp loaded
  obtain ⟨report, payloadGiven, loaded⟩ := ParamVector.bind_eq_ok.mp loaded
  cases loaded
  exact {
    name := Json.gives_of_readField (fun _ => nofun) tagRead tagGiven
    report := Json.gives_of_readField (fun _ => nofun) payloadRead payloadGiven }

theorem readTag_of_readListedName {json : Json} {done : Unit}
    (reads : readListedName json = .ok done) : readTag json = .ok () := by
  cases json with
  | string name => exact reads
  | _ => cases reads

theorem givenBy_of_readItems {items : List Json} (loaded : readItems items = .ok event) :
    GivenBy (.array items) event := by
  unfold readItems at loaded
  obtain ⟨tag, tagRead, loaded⟩ := ParamVector.bind_eq_ok.mp loaded
  obtain ⟨report, reportRead, loaded⟩ := ParamVector.bind_eq_ok.mp loaded
  obtain ⟨_, _, loaded⟩ := ParamVector.bind_eq_ok.mp loaded
  cases loaded
  obtain ⟨json, found, reads⟩ := Json.exists_of_readElement tagRead
  have tagged : Json.readElement items 0 .event readTag = .ok () := by
    rw [Json.readElement, found]
    exact readTag_of_readListedName reads
  exact {
    name := Json.gives_of_readElement (fun _ => nofun) tagged rfl
    report := Json.gives_of_readElement (fun _ => nofun) reportRead rfl }

theorem givenBy_of_ofJson {value : Json} (loaded : ofJson value = .ok event) :
    event.GivenBy value := by
  cases value with
  | object fields => exact givenBy_of_readFields loaded
  | array items => exact givenBy_of_readItems loaded
  | _ => cases loaded

theorem ofJson_toJson_of_loaded {value : Json} (loaded : ofJson value = .ok event) :
    ofJson event.toJson = .ok event := by
  obtain ⟨payload, _, reads⟩ := (givenBy_of_ofJson loaded).report.exists_part
  cases event with
  | terminated report =>
    have whole : report.withoutNulls = report := Report.withoutNulls_of_loaded reads
    rw [ofJson_toJson, whole]

end JobEvent

/-- What is loaded holds the parts that the value gives, and whatever has been loaded once is kept
by loading it from what is written for it: the value, what is written for it, and for a job its type
and its vector, read or not. -/
theorem loading_normalises (value : Json) :
    (Normalises Job.ofJson Job.toJson value ∧
      ∀ job, Job.ofJson value = .ok job → job.GivenBy value ∧
        ∀ again, Job.ofJson job.toJson = .ok again →
          again.isCall = job.isCall ∧ again.vector = job.vector) ∧
    (Normalises CallRecord.ofJson CallRecord.toJson value ∧
      ∀ call, CallRecord.ofJson value = .ok call → call.GivenBy value) ∧
    (Normalises Report.ofJson Report.toJson value ∧
      ∀ report, Report.ofJson value = .ok report → report.GivenBy value) ∧
    (Normalises JobEvent.ofJson JobEvent.toJson value ∧
      ∀ event, JobEvent.ofJson value = .ok event → event.GivenBy value) := by
  refine ⟨⟨Json.normalises_of fun _ => Job.ofJson_toJson_of_loaded, fun job loaded => ?_⟩,
    ⟨Json.normalises_of fun _ => CallRecord.ofJson_toJson_of_loaded,
      fun _ => CallRecord.givenBy_of_ofJson⟩,
    ⟨Json.normalises_of fun _ => Report.ofJson_toJson_of_loaded,
      fun _ => Report.givenBy_of_ofJson⟩,
    ⟨Json.normalises_of fun _ => JobEvent.ofJson_toJson_of_loaded,
      fun _ => JobEvent.givenBy_of_ofJson⟩⟩
  refine ⟨Job.givenBy_of_ofJson loaded, fun again reloaded => ?_⟩
  rw [Job.ofJson_toJson_of_loaded loaded] at reloaded
  cases reloaded
  exact ⟨rfl, rfl⟩

def listedEvent : Json :=
  let call : Json := .array [.string "vm.start", .object [],
    .string "2024-05-01T12:00:00+02:00", .null, .null, .null]
  .array [.string "job:terminated", .object [("calls", .object [("call-1", call)]),
    ("end", .null), ("runJobId", .string "run-1"), ("start", .string "2024-05-01T10:00:00Z")]]

theorem listedEvent_normalised :
    let call : Json := .object [("method", .string "vm.start"), ("params", .object []),
      ("start", .string "2024-05-01T10:00:00Z")]
    let stored : Json := .object [("event", .string "job:terminated"),
      ("payload", .object [("runJobId", .string "run-1"),
        ("start", .string "2024-05-01T10:00:00Z"), ("calls", .object [("call-1", call)])])]
    (JobEvent.ofJson listedEvent).map JobEvent.toJson = .ok stored ∧
      JobEvent.ofJson stored = JobEvent.ofJson listedEvent ∧
      (JobEvent.ofJson stored).map JobEvent.toJson = .ok stored := by
  intro call stored
  have written : (JobEvent.ofJson listedEvent).map JobEvent.toJson = .ok stored := by rfl
  obtain ⟨_, _, _, normalises, _⟩ := loading_normalises listedEvent
  exact ⟨written, normalises.stored stored written⟩

end JobFanout
