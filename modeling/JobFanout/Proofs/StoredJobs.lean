import JobFanout.Job.Basic
import JobFanout.Job.Schema
import JobFanout.Proofs.FieldReading
import JobFanout.Proofs.ListsInTurn
import JobFanout.Proofs.VectorReading
/-!
Stored jobs. What the schema accepts can be loaded if it names a user, and is written again as it
stood but for fields that no job has. Of the vector the schema leaves open only what is inside a map
item: its arguments and its collection.
-/
namespace JobFanout

namespace Job

def fieldNames : List String :=
  ["id", "key", "method", "name", "paramsVector", "type", "userId"]

/-- Under the names of its fields stand the job's values and nothing else. -/
structure WrittenIn (job : Job) (fields : Record) : Prop where
  id : Entries.valueAt? "id" fields = some (.string job.id)
  key : Entries.valueAt? "key" fields = some (.string job.key)
  method : Entries.valueAt? "method" fields = some (.string job.method)
  name : Entries.valueAt? "name" fields = job.name.map Json.string
  paramsVector : Entries.valueAt? "paramsVector" fields = job.paramsVector
  type : Entries.valueAt? "type" fields = some (.string job.type)
  userId : Entries.valueAt? "userId" fields = some (.string job.userId)

namespace WrittenIn
variable {job : Job} {fields fields' : Record}

theorem valueAt?_eq (written : job.WrittenIn fields) (written' : job.WrittenIn fields') :
    ∀ name ∈ fieldNames, Entries.valueAt? name fields = Entries.valueAt? name fields' := by
  intro name listed
  simp only [fieldNames, List.mem_cons, List.not_mem_nil, or_false] at listed
  rcases listed with rfl | rfl | rfl | rfl | rfl | rfl | rfl
  · exact written.id.trans written'.id.symm
  · exact written.key.trans written'.key.symm
  · exact written.method.trans written'.method.symm
  · exact written.name.trans written'.name.symm
  · exact written.paramsVector.trans written'.paramsVector.symm
  · exact written.type.trans written'.type.symm
  · exact written.userId.trans written'.userId.symm

section Loading

open Json (readAny readText readOptional readField)

/-- A vector that is `null` would be read as none. -/
theorem ofJson_eq (written : job.WrittenIn fields) (present : job.paramsVector ≠ some .null) :
    ofJson (.object fields) = .ok job := by
  have idRead : readField fields "id" readText = .ok (some job.id) :=
    Json.readField_present written.id rfl
  have keyRead : readField fields "key" readText = .ok (some job.key) :=
    Json.readField_present written.key rfl
  have methodRead : readField fields "method" readText = .ok (some job.method) :=
    Json.readField_present written.method rfl
  have nameRead : readField fields "name" (readOptional readText) = .ok (job.name.map some) :=
    Json.readField_optional written.name (fun _ => nofun) fun _ => rfl
  have typeRead : readField fields "type" readText = .ok (some job.type) :=
    Json.readField_present written.type rfl
  have userRead : readField fields "userId" readText = .ok (some job.userId) :=
    Json.readField_present written.userId rfl
  have vectorRead : readField fields "paramsVector" (readOptional readAny) =
      .ok (job.paramsVector.map Json.unlessNull) :=
    Json.readField_written (written.paramsVector.trans (Option.map_id_apply).symm)
      Json.readOptional_readAny
  have whole : job.paramsVector.bind Json.unlessNull = job.paramsVector := by
    cases given : job.paramsVector with
    | none => rfl
    | some vector =>
      rw [given] at present
      cases vector <;> first | rfl | exact absurd rfl present
  rw [ofJson]
  simp only [readFields, Draft.finish, idRead, keyRead, methodRead, nameRead, typeRead, userRead,
    vectorRead, Json.ok_bind, Json.required_some, Json.join_map_eq_bind, Option.bind_fun_some,
    whole]
  rfl

end Loading
end WrittenIn

/-! A job's own fields. -/

theorem exists_own (job : Job) :
    ∃ own, job.toJson = .object own ∧ Entries.Ascending own ∧ job.WrittenIn own ∧
      ∀ name, name ∉ fieldNames → Entries.valueAt? name own = none := by
  have ascending : fieldNames.Pairwise (· < ·) := by decide
  obtain ⟨own, written⟩ : ∃ own, job.toJson = .object own := ⟨_, rfl⟩
  -- Whether a name and a vector are written decides which of the names stand there.
  have named : (Entries.keys own).Sublist fieldNames := by
    cases written
    cases job.name <;> cases job.paramsVector <;>
      simp [Json.optionalField, fieldNames, Entries.keys]
  refine ⟨own, written, ascending.sublist named, ?_, ?_⟩
  · cases written
    constructor <;>
      simp [Entries.valueAt?_append, Entries.valueAt?_optionalField, Entries.valueAt?_cons_or]
  · intro name unknown
    exact Entries.valueAt?_eq_none.mpr fun listed => unknown (named.subset listed)

namespace WrittenIn
variable {job : Job} {fields : Record}

theorem field?_toJson (written : job.WrittenIn fields) (name : String) :
    job.toJson.field? name =
      if name ∈ fieldNames then Entries.valueAt? name fields else none := by
  obtain ⟨own, same, _, ownWritten, others⟩ := job.exists_own
  rw [same, Json.field?]
  by_cases known : name ∈ fieldNames
  · rw [if_pos known, ownWritten.valueAt?_eq written name known]
  · rw [if_neg known, others name known]

theorem toJson_eq (written : job.WrittenIn fields) (ascending : Entries.Ascending fields) :
    job.toJson = .object (fields.filter fun entry => decide (entry.1 ∈ fieldNames)) := by
  obtain ⟨own, same, ownAscending, ownWritten, others⟩ := job.exists_own
  rw [same]
  refine congrArg Json.object
    (Entries.ext_of_valueAt? ownAscending (Entries.ascending_filter ascending _) fun name => ?_)
  rw [Entries.valueAt?_filter fun name => decide (name ∈ fieldNames)]
  by_cases known : name ∈ fieldNames
  · rw [if_pos (decide_eq_true known), ownWritten.valueAt?_eq written name known]
  · rw [if_neg (by simpa using known), others name known]

end WrittenIn

/-! The schema. -/

namespace Schema
variable {fields : Record} {name : String}

theorem requiredText_eq_nil :
    requiredText fields name = [] ↔ ∃ text, Entries.valueAt? name fields = some (.string text) := by
  unfold requiredText
  cases Entries.valueAt? name fields with
  | none => simp
  | some value => cases value <;> simp

theorem optionalText_eq_nil :
    optionalText fields name = [] ↔
      ∃ given : Option String, Entries.valueAt? name fields = given.map Json.string := by
  unfold optionalText
  cases Entries.valueAt? name fields with
  | none => simp
  | some value => cases value <;> simp [eq_comm]

theorem problems_of_written {job : Job} (written : job.WrittenIn fields) :
    problems (.object fields) = (job.paramsVector.map vectorProblems).getD [] := by
  have texts : ["id", "type", "key", "method"].flatMap (requiredText fields) = [] := by
    simp [requiredText, written.id, written.type, written.key, written.method]
  rw [problems, texts, optionalText_eq_nil.mpr ⟨job.name, written.name⟩, written.paramsVector]
  rfl

theorem exists_written {json : Json} {userId : String} (accepted : problems json = [])
    (user : json.field? "userId" = some (.string userId)) :
    ∃ fields, json = .object fields ∧ ∃ job : Job, job.WrittenIn fields := by
  cases json with
  | object fields =>
    rw [problems] at accepted
    simp only [List.append_eq_nil_iff, List.flatMap_eq_nil_iff, List.forall_mem_cons,
      requiredText_eq_nil, optionalText_eq_nil] at accepted
    obtain ⟨⟨⟨⟨id, idGiven⟩, ⟨type, typeGiven⟩, ⟨key, keyGiven⟩, ⟨method, methodGiven⟩, _⟩,
      name, nameGiven⟩, _⟩ := accepted
    let job : Job :=
      ⟨id, name, userId, key, method, type, Entries.valueAt? "paramsVector" fields⟩
    exact ⟨fields, rfl, job, idGiven, keyGiven, methodGiven, nameGiven, rfl, typeGiven, user⟩
  | _ => cases accepted

end Schema

theorem validate_eq_ok {json : Json} : validate json = .ok () ↔ Schema.problems json = [] := by
  unfold validate
  cases Schema.problems json <;> simp

/-! Stored vectors. -/

namespace Schema

/-- An item of a stored cross product, as far as the schema looks into it. -/
inductive StoredItem : Json → Prop where
  | set {fields : Record} {values : List Json}
      (typed : Entries.valueAt? "type" fields = some (.string "set"))
      (given : Entries.valueAt? "values" fields = some (.array values)) :
      StoredItem (.object fields)
  | map {fields collection : Record} {iteratee : String}
      (typed : Entries.valueAt? "type" fields = some (.string "map"))
      (named : Entries.valueAt? "iteratee" fields = some (.string iteratee))
      (collected : Entries.valueAt? "collection" fields = some (.object collection)) :
      StoredItem (.object fields)

variable {fields : Record} {name : String}

theorem hasArray_iff :
    hasArray fields name = true ↔
      ∃ items, Entries.valueAt? name fields = some (.array items) := by
  simp [hasArray, Option.any_eq_true, Json.isArray_iff]

theorem hasString_iff :
    hasString fields name = true ↔
      ∃ text, Entries.valueAt? name fields = some (.string text) := by
  simp [hasString, Option.any_eq_true, Json.isString_iff]

theorem hasObject_iff :
    hasObject fields name = true ↔
      ∃ inner, Entries.valueAt? name fields = some (.object inner) := by
  simp [hasObject, Option.any_eq_true, Json.isObject_iff]

theorem storedItem_of_itemFault {item : Json} (fine : itemFault item = none) : StoredItem item := by
  cases item with
  | object fields =>
    rw [itemFault] at fine
    split at fine
    · next typed =>
      by_cases listed : hasArray fields "values" = true
      · obtain ⟨values, given⟩ := hasArray_iff.mp listed
        exact .set (Json.bind_text?_eq_some.mp typed) given
      · rw [if_neg listed] at fine
        cases fine
    · next typed =>
      by_cases named : hasString fields "iteratee" = true
      · by_cases collected : hasObject fields "collection" = true
        · obtain ⟨iteratee, given⟩ := hasString_iff.mp named
          obtain ⟨collection, found⟩ := hasObject_iff.mp collected
          exact .map (Json.bind_text?_eq_some.mp typed) given found
        · simp [named, collected] at fine
      · simp [named] at fine
    · cases fine
  | _ => cases fine

theorem storedItems_of_itemsProblems {listed : Json} (fine : itemsProblems listed = []) :
    ∃ items, listed = .array items ∧ ∀ item ∈ items, StoredItem item := by
  cases listed with
  | array items =>
    refine ⟨items, rfl, fun item member => ?_⟩
    obtain ⟨place, below, same⟩ := List.mem_iff_getElem.mp member
    have silent := List.flatten_eq_nil_iff.mp fine (itemProblems place items[place])
      (List.mem_mapIdx.mpr ⟨place, below, rfl⟩)
    subst same
    apply storedItem_of_itemFault
    simpa [itemProblems] using silent
  | _ => cases fine

theorem storedItems_of_vectorProblems {vector listed : Json} (fine : vectorProblems vector = [])
    (found : vector.field? "items" = some listed) :
    ∃ items, listed = .array items ∧ ∀ item ∈ items, StoredItem item := by
  cases vector with
  | object fields =>
    rw [Json.field?] at found
    rw [vectorProblems, found] at fine
    exact storedItems_of_itemsProblems (List.append_eq_nil_iff.mp fine).2
  | _ => cases fine

end Schema
end Job

namespace ParamVector

/-- What the schema leaves open of a stored map item. -/
structure ReadableMap (item : Json) : Prop where
  iterateeArgs : ∀ given, item.field? "iterateeArgs" = some given → given.isObject = true
  collection : ∃ source node, item.field? "collection" = some source ∧ ofJson source = .ok node

variable {fields : Record}

theorem ofJson_set {values : List Json}
    (typed : Entries.valueAt? "type" fields = some (.string "set"))
    (given : Entries.valueAt? "values" fields = some (.array values)) :
    ofJson (.object fields) = .ok (.set values) := by
  have tagged : tagText fields = .ok "set" := tagText_eq_ok.mpr typed
  have valuesRead : Json.readField fields "values" Json.readSequence = .ok (some values) :=
    Json.readField_present given rfl
  have read : readValues fields = .ok values := by
    rw [readValues, valuesRead]
    rfl
  rw [ofJson, ofFields, tagged, read]
  rfl

theorem ofJson_crossProduct {sources : List Json}
    (typed : Entries.valueAt? "type" fields = some (.string "crossProduct"))
    (listed : Entries.valueAt? "items" fields = some (.array sources)) :
    ofJson (.object fields) = (sources.mapM ofJson).map .crossProduct := by
  have tagged : tagText fields = .ok "crossProduct" := tagText_eq_ok.mpr typed
  have itemsRead : Json.readField fields "items" Json.readSequence = .ok (some sources) :=
    Json.readField_present listed rfl
  have read : readItems fields = .ok sources := by
    rw [readItems, itemsRead]
    rfl
  rw [ofJson, ofFields, tagged, read, itemsOf_eq, listed, ← ofJsonList_eq_mapM]
  change (ofJsonList sources >>= fun items => .ok (crossProduct items)) = _
  cases ofJsonList sources <;> rfl

theorem ofJson_map {iteratee : String} {source : Json} {iterateeArgs : Option Record}
    (typed : Entries.valueAt? "type" fields = some (.string "map"))
    (named : Entries.valueAt? "iteratee" fields = some (.string iteratee))
    (collected : Entries.valueAt? "collection" fields = some source)
    (given : Entries.valueAt? "iterateeArgs" fields = iterateeArgs.map Json.object) :
    ofJson (.object fields) =
      (ofJson source).map fun node => .map node iteratee (iterateeArgs.getD []) := by
  have tagged : tagText fields = .ok "map" := tagText_eq_ok.mpr typed
  have argsRead : Json.readField fields "iterateeArgs" Json.readMap = .ok (iterateeArgs.map id) :=
    Json.readField_written given fun _ => rfl
  have nameRead : Json.readField fields "iteratee" Json.readText = .ok (some iteratee) :=
    Json.readField_present named rfl
  have sourceRead : Json.readField fields "collection" Json.readAny = .ok (some source) :=
    Json.readField_present collected rfl
  have read : readMapFields fields = .ok ⟨source, iteratee, iterateeArgs.getD []⟩ := by
    simp only [readMapFields, argsRead, nameRead, sourceRead, Json.ok_bind, Json.required_some,
      Option.map_id_apply]
    rfl
  rw [ofJson, ofFields, tagged, read, collectionOf_eq, collected]
  change (ofJson source >>= fun node => .ok (map node iteratee (iterateeArgs.getD []))) = _
  cases ofJson source <;> rfl

theorem ofJson_map_iff {iteratee : String} {source : Json}
    (typed : Entries.valueAt? "type" fields = some (.string "map"))
    (named : Entries.valueAt? "iteratee" fields = some (.string iteratee))
    (collected : Entries.valueAt? "collection" fields = some source) :
    (∃ node, ofJson (.object fields) = .ok node) ↔ ReadableMap (.object fields) := by
  constructor
  · rintro ⟨node, read⟩
    have tagged : node.tag = .map := tag_of_typed read typed
    cases node with
    | map collection iteratee' iterateeArgs =>
      obtain ⟨source', found, inner, _, given⟩ := map_of_ofJson read
      refine ⟨?_, source', collection, found, inner⟩
      intro value present
      rw [Json.field?] at present
      rcases given with ⟨absent, _⟩ | object
      · rw [absent] at present
        cases present
      · rw [object] at present
        cases present
        rfl
    | _ => cases tagged
  · rintro ⟨objects, source', node, found, read⟩
    obtain rfl : source = source' := Option.some.inj (collected.symm.trans found)
    obtain ⟨iterateeArgs, given⟩ : ∃ iterateeArgs : Option Record,
        Entries.valueAt? "iterateeArgs" fields = iterateeArgs.map Json.object := by
      cases given : Entries.valueAt? "iterateeArgs" fields with
      | none => exact ⟨none, rfl⟩
      | some value =>
        obtain ⟨arguments, rfl⟩ := Json.isObject_iff.mp (objects value given)
        exact ⟨some arguments, rfl⟩
    rw [ofJson_map typed named collected given, read]
    exact ⟨_, rfl⟩

end ParamVector

namespace Job
variable {json item : Json}

/-! What the schema accepts, read. -/

namespace Schema.StoredItem

theorem exists_set (stored : StoredItem item)
    (typed : item.field? "type" = some (.string "set")) :
    ∃ values, ParamVector.ofJson item = .ok (.set values) := by
  cases stored with
  | set _ given => exact ⟨_, ParamVector.ofJson_set typed given⟩
  | map other => simp [Json.field?, other] at typed

theorem reads_iff (stored : StoredItem item) :
    (∃ node, ParamVector.ofJson item = .ok node) ↔
      (item.field? "type" = some (.string "map") → ParamVector.ReadableMap item) := by
  cases stored with
  | set typed given =>
    have other : Json.string "set" ≠ .string "map" := by simp
    constructor
    · intro _ mapped
      exact absurd (Option.some.inj (typed.symm.trans mapped)) other
    · intro _
      exact ⟨_, ParamVector.ofJson_set typed given⟩
  | map typed named collected =>
    rw [ParamVector.ofJson_map_iff typed named collected]
    exact ⟨fun readable _ => readable, fun readable => readable typed⟩

theorem map_of_error (stored : StoredItem item) {error : VectorError}
    (failed : ParamVector.ofJson item = .error error) :
    item.field? "type" = some (.string "map") := by
  cases stored with
  | set typed given =>
    rw [ParamVector.ofJson_set typed given] at failed
    cases failed
  | map typed => exact typed

end Schema.StoredItem

structure CrossProductReads (job : Job) (items : List Json) : Prop where
  sets : ∀ item ∈ items, item.field? "type" = some (.string "set") →
    ∃ values, ParamVector.ofJson item = .ok (.set values)
  faults : ∀ error, job.vector = .error error →
    ∃ item ∈ items, item.field? "type" = some (.string "map") ∧
      ParamVector.ofJson item = .error error
  reads : (∃ node, job.vector = .ok node) ↔
    ∀ item ∈ items, item.field? "type" = some (.string "map") → ParamVector.ReadableMap item

theorem crossProductReads {job : Job} {vector : Json} {items : List Json}
    (given : job.paramsVector = some vector)
    (typed : vector.field? "type" = some (.string "crossProduct"))
    (listed : vector.field? "items" = some (.array items))
    (stored : ∀ item ∈ items, Schema.StoredItem item) : job.CrossProductReads items := by
  have read : job.vector =
      ((items.mapM ParamVector.ofJson).map ParamVector.crossProduct).map some := by
    cases vector with
    | object fields => rw [Job.vector, given, ← ParamVector.ofJson_crossProduct typed listed]
    | _ => cases typed
  constructor
  · exact fun item member => (stored item member).exists_set
  · intro error failed
    rw [read] at failed
    cases passed : items.mapM ParamVector.ofJson with
    | ok nodes =>
      rw [passed] at failed
      cases failed
    | error other =>
      rw [passed] at failed
      cases failed
      obtain ⟨earlier, item, later, rfl, _, own⟩ := exists_of_mapM_eq_error passed
      have member : item ∈ earlier ++ item :: later := by simp
      exact ⟨item, member, (stored item member).map_of_error own, own⟩
  · have each : (∃ nodes, items.mapM ParamVector.ofJson = .ok nodes) ↔
        ∀ item ∈ items, item.field? "type" = some (.string "map") →
          ParamVector.ReadableMap item := by
      rw [mapM_succeeds_iff]
      exact forall₂_congr fun item member => (stored item member).reads_iff
    rw [← each, read]
    cases items.mapM ParamVector.ofJson <;> simp [Except.map]

/-- What the schema accepts with a user is loaded as a job. The job is written as the value was,
less the fields that no job has, and this is accepted again and loaded as the same job. A stored
cross product is read unless one of its map items has arguments that are no object or a collection
that cannot be read. -/
theorem accepted_job_loads {userId : String} (accepted : validate json = .ok ())
    (user : json.field? "userId" = some (.string userId)) :
    ∃ job, ofJson json = .ok job ∧
      (∀ name, job.toJson.field? name =
        if name ∈ fieldNames then json.field? name else none) ∧
      (∀ fields, json = .object fields → Entries.Ascending fields →
        job.toJson = .object (fields.filter fun entry => decide (entry.1 ∈ fieldNames))) ∧
      validate job.toJson = .ok () ∧ ofJson job.toJson = .ok job ∧
      ∀ vector listed, json.field? "paramsVector" = some vector →
        vector.field? "type" = some (.string "crossProduct") →
        vector.field? "items" = some listed →
        ∃ items, listed = .array items ∧ job.CrossProductReads items := by
  rw [validate_eq_ok] at accepted
  obtain ⟨fields, rfl, job, written⟩ := Schema.exists_written accepted user
  obtain ⟨own, same, _, ownWritten, _⟩ := job.exists_own
  have fine : (job.paramsVector.map Schema.vectorProblems).getD [] = [] :=
    (Schema.problems_of_written written).symm.trans accepted
  have present : job.paramsVector ≠ some .null := by
    intro null
    rw [null] at fine
    cases fine
  refine ⟨job, written.ofJson_eq present, written.field?_toJson, ?_, ?_, ?_, ?_⟩
  · rintro _ ⟨⟩ ascending
    exact written.toJson_eq ascending
  · rw [validate_eq_ok, same, Schema.problems_of_written ownWritten, fine]
  · rw [same]
    exact ownWritten.ofJson_eq present
  · intro vector listed found typed foundItems
    have given : job.paramsVector = some vector := written.paramsVector.symm.trans found
    rw [given] at fine
    obtain ⟨items, rfl, stored⟩ := Schema.storedItems_of_vectorProblems fine foundItems
    exact ⟨items, rfl, crossProductReads given typed foundItems stored⟩

section StoredSwitching

def storedItems : List Json :=
  [.object [("type", .string "set"), ("values", .array [.object [("on", .bool true)]])],
    .object [("collection", .object [("type", .string "queue")]),
      ("iteratee", .string "extractProperties"), ("type", .string "map")]]

def storedSwitching : Json := .object
  [("id", .string "job-1"), ("key", .string "genericTask"), ("method", .string "vm.switch"),
    ("paramsVector",
      .object [("items", .array storedItems), ("type", .string "crossProduct")]),
    ("revision", .int 3), ("type", .string callType), ("userId", .string "admin")]

theorem storedSwitching_loads :
    validate storedSwitching = .ok () ∧
      storedSwitching.field? "userId" = some (.string "admin") ∧
      ∃ job, ofJson storedSwitching = .ok job ∧ ofJson job.toJson = .ok job ∧
        job.toJson.field? "revision" = none ∧ job.CrossProductReads storedItems ∧
        ¬ ∃ node, job.vector = .ok node := by
  have accepted : validate storedSwitching = .ok () := by rfl
  have user : storedSwitching.field? "userId" = some (.string "admin") := by rfl
  obtain ⟨job, loaded, written, _, _, again, vector⟩ := accepted_job_loads accepted user
  obtain ⟨items, same, reads⟩ := vector _ _ rfl rfl rfl
  cases same
  refine ⟨accepted, user, job, loaded, again, written "revision", reads, ?_⟩
  rw [reads.reads]
  intro readable
  -- No vector has the type of this collection.
  obtain ⟨source, node, found, read⟩ :=
    (readable _ (List.mem_cons_of_mem _ List.mem_cons_self) rfl).collection
  cases found
  cases read

end StoredSwitching

end Job
end JobFanout
