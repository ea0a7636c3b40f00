import JobFanout.Proofs.SchemaViolations
import JobFanout.Proofs.StoredJobs
/-!
What the schema of stored jobs accepts, and what its reports tell. A value is accepted if and only if
it has the stored form, that is, if it violates no demand. On any other value the reports come in the
order of the document, each names a demand that is violated, and what is reported of an item depends
on that item alone.
-/
namespace JobFanout.Job.Schema

/-- A vector in the stored form. Nothing but an object has fields. -/
structure StoredVector (vector : Json) : Prop where
  type : ∃ text, vector.field? "type" = some (.string text)
  items : ∀ value, vector.field? "items" = some value →
    ∃ items, value = .array items ∧ ∀ item ∈ items, StoredItem item

/-- A job in the stored form. -/
structure StoredJob (job : Json) : Prop where
  texts : ∀ name ∈ requiredTexts, ∃ text, job.field? name = some (.string text)
  name : ∀ value, job.field? "name" = some value → ∃ text, value = .string text
  vector : ∀ value, job.field? "paramsVector" = some value → StoredVector value

def documentPaths (job : Json) : List String :=
  ["job", "job.id", "job.type", "job.key", "job.method", "job.name", "job.paramsVector",
    "job.paramsVector.type", "job.paramsVector.items"]
  ++ (List.range (itemsOf job).length).map itemPath

/-- Two jobs that are the same but for one item of their vectors. -/
structure DifferInItem (index : Nat) (job job' : Json) : Prop where
  fields : ∀ name, name ≠ "paramsVector" → job.field? name = job'.field? name
  vector : job.has "paramsVector" .object = true
  vector' : job'.has "paramsVector" .object = true
  vectorFields : ∀ name, name ≠ "items" → (vectorOf job).field? name = (vectorOf job').field? name
  items : (vectorOf job).has "items" .array = true
  items' : (vectorOf job').has "items" .array = true
  others : ∃ item, itemsOf job' = (itemsOf job).set index item

variable {job : Json} {fields : Record}

/-! What is accepted. -/

theorem itemFault_eq_none {item : Json} : itemFault item = none ↔ StoredItem item := by
  constructor
  · exact storedItem_of_itemFault
  · intro stored
    cases stored with
    | set typed given =>
      have values := hasArray_iff.mpr ⟨_, given⟩
      simp [itemFault, typed, Json.text?, values]
    | map typed named collected =>
      have iteratee := hasString_iff.mpr ⟨_, named⟩
      have collection := hasObject_iff.mpr ⟨_, collected⟩
      simp [itemFault, typed, Json.text?, iteratee, collection]

theorem itemsProblems_eq_nil {value : Json} :
    itemsProblems value = [] ↔ ∃ items, value = .array items ∧ ∀ item ∈ items, StoredItem item := by
  constructor
  · exact storedItems_of_itemsProblems
  · rintro ⟨items, rfl, stored⟩
    rw [itemsProblems, List.flatten_eq_nil_iff]
    intro reports listed
    obtain ⟨index, below, rfl⟩ := List.mem_mapIdx.mp listed
    rw [itemProblems, itemFault_eq_none.mpr (stored _ (List.getElem_mem below))]
    rfl

theorem getD_map_eq_nil {given : Option Json} {check : Json → List Problem} :
    (given.map check).getD [] = [] ↔ ∀ value, given = some value → check value = [] := by
  cases given <;> simp

theorem vectorProblems_eq_nil {vector : Json} : vectorProblems vector = [] ↔ StoredVector vector := by
  cases vector with
  | object fields =>
    have typed : (if hasString fields "type" then []
        else [(⟨"job.paramsVector.type", "not a string"⟩ : Problem)]) = [] ↔
        ∃ text, Entries.valueAt? "type" fields = some (.string text) := by
      rw [← hasString_iff]
      cases hasString fields "type" <;> simp
    rw [vectorProblems, List.append_eq_nil_iff, typed, getD_map_eq_nil]
    simp only [itemsProblems_eq_nil]
    constructor
    · rintro ⟨type, items⟩
      exact ⟨type, items⟩
    · intro stored
      exact ⟨stored.type, stored.items⟩
  | _ =>
    refine ⟨fun silent => absurd silent (List.cons_ne_nil _ _), fun stored => ?_⟩
    obtain ⟨text, found⟩ := stored.type
    cases found

theorem problems_eq_nil : problems job = [] ↔ StoredJob job := by
  cases job with
  | object fields =>
    have named : (∃ given : Option String,
        Entries.valueAt? "name" fields = given.map Json.string) ↔
        ∀ value, Entries.valueAt? "name" fields = some value → ∃ text, value = .string text := by
      cases Entries.valueAt? "name" fields with
      | none => simp
      | some value => cases value <;> simp [eq_comm]
    rw [problems, List.append_eq_nil_iff, List.append_eq_nil_iff, List.flatMap_eq_nil_iff,
      optionalText_eq_nil, named, getD_map_eq_nil]
    simp only [requiredText_eq_nil, vectorProblems_eq_nil]
    constructor
    · rintro ⟨⟨texts, name⟩, vector⟩
      exact ⟨texts, name, vector⟩
    · intro stored
      exact ⟨⟨stored.texts, stored.name⟩, stored.vector⟩
  | _ =>
    refine ⟨fun silent => absurd silent (List.cons_ne_nil _ _), fun stored => ?_⟩
    obtain ⟨text, found⟩ := stored.texts "id" (by decide)
    cases found

/-- What is shadowed has what shadows it reported. -/
theorem violations_eq_nil : violations job = [] ↔ problems job = [] := by
  rw [problems_eq, List.map_eq_nil_iff]
  constructor
  · intro none
    rw [none]
    rfl
  · intro silent
    have shadowed : ∀ demand ∈ violations job, demand.isShadowed job = true := by
      simpa using List.filter_eq_nil_iff.mp silent
    refine List.eq_nil_iff_forall_not_mem.mpr fun demand violated => ?_
    obtain ⟨index, _, twice⟩ := isShadowed_iff.mp (shadowed demand violated)
    obtain ⟨_, other, _⟩ := isShadowed_iff.mp (shadowed _ (mem_violations.mpr twice.1))
    cases other

theorem storedJob_iff : StoredJob job ↔ ∀ demand : Demand, demand.isViolated job = false := by
  rw [← problems_eq_nil, ← violations_eq_nil, List.eq_nil_iff_forall_not_mem]
  simp only [mem_violations, Bool.not_eq_true]

/-! The order of reports. -/

theorem flatMap_sublist_map {α β : Type} {items : List α} {f : α → List β} {g : α → β}
    (each : ∀ item ∈ items, (f item).Sublist [g item]) : (items.flatMap f).Sublist (items.map g) := by
  induction items with
  | nil => exact List.Sublist.refl []
  | cons item rest ih =>
    have later := ih fun other listed => each other (List.mem_cons_of_mem item listed)
    exact (each item List.mem_cons_self).append later

theorem problems_eq_flatMap (job : Json) :
    problems job = (demands job).flatMap (Demand.reports job) := by
  rw [problems_eq, map_problem_violations]

theorem reports_item {index : Nat} {item : Json} (placed : (itemsOf job)[index]? = some item) :
    (ItemDemand.all.map (Demand.item index)).flatMap (Demand.reports job) =
      itemProblems index item :=
  (itemProblems_eq placed).symm

theorem paths_reports (demand : Demand) :
    ((demand.reports job).map Problem.path).Sublist [demand.path] := by
  unfold Demand.reports
  split
  · exact List.Sublist.refl _
  · exact List.nil_sublist _

theorem paths_itemProblems (index : Nat) (item : Json) :
    ((itemProblems index item).map Problem.path).Sublist [itemPath index] := by
  unfold itemProblems
  cases itemFault item with
  | none => exact List.nil_sublist _
  | some text => exact List.Sublist.refl _

theorem paths_problems (job : Json) :
    ((problems job).map Problem.path).Sublist (documentPaths job) := by
  have parts : documentPaths job = fixedDemands.map Demand.path ++
      (List.range (itemsOf job).length).map itemPath := rfl
  rw [problems_eq_flatMap, demands, List.flatMap_append, List.map_append, List.map_flatMap,
    List.flatMap_assoc, List.map_flatMap, parts]
  refine (flatMap_sublist_map fun demand _ => paths_reports demand).append
    (flatMap_sublist_map fun index below => ?_)
  rw [reports_item (List.getElem?_eq_getElem (List.mem_range.mp below))]
  exact paths_itemProblems index _

theorem nodup_documentPaths (job : Json) : (documentPaths job).Nodup := by
  have fixed : (fixedDemands.map Demand.path).Nodup := by decide
  refine fixed.append (List.nodup_range.map itemPath_injective) fun path here there => ?_
  obtain ⟨demand, listed, rfl⟩ := List.mem_map.mp here
  obtain ⟨index, _, same⟩ := List.mem_map.mp there
  exact fixed_path_ne listed index same.symm

/-! What a report names. -/

theorem exists_unique_violation {problem : Problem} (reported : problem ∈ problems job) :
    ∃! demand : Demand, demand.isViolated job = true ∧ problem = demand.problem job := by
  rw [problems_eq] at reported
  obtain ⟨demand, listed, rfl⟩ := List.mem_map.mp reported
  have violated := mem_violations.mp (List.mem_of_mem_filter listed)
  refine ⟨demand, ⟨violated, rfl⟩, fun other same => ?_⟩
  exact problem_inj (mem_demands_of_isViolated same.1) (mem_demands_of_isViolated violated)
    same.2.symm

/-! The reports on one item and those on the rest. -/

theorem filter_flatMap_of_alike {α β : Type} {items : List α} {f : α → List β} {keep : β → Bool}
    (chosen : α → Bool) (alike : ∀ item ∈ items, ∀ part ∈ f item, keep part = chosen item) :
    (items.flatMap f).filter keep = (items.filter chosen).flatMap f := by
  induction items with
  | nil => rfl
  | cons item rest ih =>
    have later := ih fun other listed => alike other (List.mem_cons_of_mem item listed)
    have own := alike item List.mem_cons_self
    rw [List.flatMap_cons, List.filter_append, later, List.filter_cons]
    cases choice : chosen item with
    | true =>
      rw [List.filter_eq_self.mpr fun part listed => (own part listed).trans choice]
      simp
    | false =>
      have dropped : (f item).filter keep = [] := by
        rw [List.filter_eq_nil_iff]
        intro part listed
        rw [own part listed, choice]
        exact Bool.false_ne_true
      rw [dropped]
      simp

theorem filter_problems (job : Json) (keep : String → Bool) :
    (problems job).filter (fun problem => keep problem.path) =
      ((demands job).filter fun demand => keep demand.path).flatMap (Demand.reports job) := by
  rw [problems_eq_flatMap]
  refine filter_flatMap_of_alike (fun demand : Demand => keep demand.path)
    fun demand _ problem reported => ?_
  unfold Demand.reports at reported
  split at reported
  · rw [List.mem_singleton.mp reported]
    rfl
  · cases reported

theorem filter_demands {index : Nat} (below : index < (itemsOf job).length) :
    (demands job).filter (fun demand => demand.path = itemPath index) =
      ItemDemand.all.map (Demand.item index) := by
  have fixed : fixedDemands.filter (fun demand => demand.path = itemPath index) = [] := by
    rw [List.filter_eq_nil_iff]
    intro demand listed same
    exact fixed_path_ne listed index (of_decide_eq_true same)
  have own : (List.range (itemsOf job).length).filter (· = index) = [index] := by
    rw [List.filter_eq, List.count_eq_one_of_mem List.nodup_range (List.mem_range.mpr below)]
    rfl
  rw [demands, List.filter_append, fixed, List.nil_append,
    filter_flatMap_of_alike (· = index), own, List.flatMap_singleton]
  intro other _ demand listed
  obtain ⟨part, _, rfl⟩ := List.mem_map.mp listed
  exact decide_eq_decide.mpr ⟨fun same => itemPath_injective same, congrArg itemPath⟩

theorem problems_of_item {index : Nat} {item : Json} (placed : (itemsOf job)[index]? = some item) :
    (problems job).filter (fun problem => problem.path = itemPath index) =
      itemProblems index item := by
  rw [filter_problems job fun path => path = itemPath index,
    filter_demands (List.getElem?_eq_some_iff.mp placed).1, reports_item placed]

namespace DifferInItem
variable {index : Nat} {job' : Json}

theorem isObject_of_has {name : String} {kind : Json.Kind} {value : Json}
    (present : value.has name kind = true) : value.isObject = true := by
  cases value with
  | object fields => rfl
  | _ => cases present

theorem mayHave_of_has {name : String} {kind : Json.Kind} {value : Json}
    (present : value.has name kind = true) : value.mayHave name kind = true := by
  rw [Json.has, Option.any_eq_true] at present
  obtain ⟨found, stands, same⟩ := present
  rw [Json.mayHave, stands]
  exact same

theorem demands_eq (differ : DifferInItem index job job') : demands job = demands job' := by
  obtain ⟨item, same⟩ := differ.others
  rw [demands, demands, same, List.length_set]

theorem reports_eq (differ : DifferInItem index job job') {demand : Demand}
    (other : demand.path ≠ itemPath index) : demand.reports job = demand.reports job' := by
  have object := isObject_of_has differ.vector
  have object' := isObject_of_has differ.vector'
  cases demand with
  | job => simp [Demand.reports, Demand.isViolated, object, object']
  | text name =>
    by_cases known : name ∈ requiredTexts
    · have same : job.field? name = job'.field? name := by
        refine differ.fields name ?_
        rintro rfl
        revert known
        decide
      simp [Demand.reports, Demand.isViolated, Demand.isShadowed, Demand.problem, Demand.fault,
        Json.has, object, object', same]
    · simp [Demand.reports, Demand.isViolated, known]
  | optionalName =>
    have same := differ.fields "name" (by decide)
    simp [Demand.reports, Demand.isViolated, Demand.isShadowed, Demand.problem, Demand.fault,
      Json.mayHave, same]
  | vector =>
    simp [Demand.reports, Demand.isViolated, mayHave_of_has differ.vector,
      mayHave_of_has differ.vector']
  | vectorType =>
    have same := differ.vectorFields "type" (by decide)
    have typed : (vectorOf job).has "type" .string = (vectorOf job').has "type" .string := by
      rw [Json.has, Json.has, same]
    simp [Demand.reports, Demand.isViolated, Demand.isShadowed, Demand.problem, Demand.fault,
      differ.vector, differ.vector', typed]
  | items =>
    simp [Demand.reports, Demand.isViolated, mayHave_of_has differ.items,
      mayHave_of_has differ.items']
  | item place part =>
    have elsewhere : index ≠ place := by
      rintro rfl
      exact other rfl
    obtain ⟨item, set⟩ := differ.others
    have same : (itemsOf job')[place]? = (itemsOf job)[place]? := by
      rw [set, List.getElem?_set_ne elsewhere]
    simp [Demand.reports, Demand.isViolated, Demand.isShadowed, Demand.problem, Demand.fault, same]

theorem problems_elsewhere (differ : DifferInItem index job job') :
    (problems job).filter (fun problem => problem.path ≠ itemPath index) =
      (problems job').filter (fun problem => problem.path ≠ itemPath index) := by
  rw [filter_problems job fun path => path ≠ itemPath index,
    filter_problems job' fun path => path ≠ itemPath index, differ.demands_eq]
  refine List.flatMap_congr fun demand listed => differ.reports_eq ?_
  exact of_decide_eq_true (List.mem_filter.mp listed).2

end DifferInItem

theorem validate_eq_error {error : SchemaError} :
    validate job = .error error ↔ problems job ≠ [] ∧ error.problems = problems job := by
  obtain ⟨reported⟩ := error
  unfold validate
  cases problems job <;> simp [eq_comm]

/-- Accepted is what has the stored form. What is rejected has reports, at most one on each part and in
the order of the document, and each names one demand that is violated. The reports on an item depend
on it alone, and with another item in its place all other reports are as they were. -/
theorem schema_decided (job : Json) :
    (validate job = .ok () ↔ StoredJob job) ∧
    (StoredJob job ↔ ∀ demand : Demand, demand.isViolated job = false) ∧
    (∀ error, validate job = .error error →
      error.problems ≠ [] ∧
      (error.problems.map Problem.path).Sublist (documentPaths job) ∧
      (documentPaths job).Nodup ∧
      ∀ problem ∈ error.problems, ∃! demand : Demand,
        demand.isViolated job = true ∧ problem = ⟨demand.path, demand.fault job⟩) ∧
    (∀ index item, (itemsOf job)[index]? = some item →
      (reportedProblems job).filter (fun problem => problem.path = itemPath index) =
        itemProblems index item) ∧
    ∀ index job', DifferInItem index job job' →
      (reportedProblems job).filter (fun problem => problem.path ≠ itemPath index) =
        (reportedProblems job').filter (fun problem => problem.path ≠ itemPath index) := by
  refine ⟨validate_eq_ok.trans problems_eq_nil, storedJob_iff, ?_, ?_, ?_⟩
  · intro error rejected
    obtain ⟨present, same⟩ := validate_eq_error.mp rejected
    rw [same]
    exact ⟨present, paths_problems job, nodup_documentPaths job,
      fun problem reported => exists_unique_violation reported⟩
  · intro index item placed
    rw [reportedProblems_eq, problems_of_item placed]
  · intro index job' differ
    rw [reportedProblems_eq, reportedProblems_eq, differ.problems_elsewhere]

def faultyJob (item : Json) : Json := .object
  [("id", .int 7), ("key", .string "k"), ("method", .string "vm.start"),
    ("paramsVector", .object
      [("items", .array [.object [("type", .string "set")], item]), ("type", .string "crossProduct")]),
    ("type", .string "call")]

theorem faultyJob_decided :
    let item : Json := .object [("type", .string "set"), ("values", .array [])]
    let problems : List Problem :=
      [⟨"job.id", "not a string"⟩, ⟨"job.paramsVector.items[0]", "values is not an array"⟩]
    validate (faultyJob .null) =
        .error ⟨problems ++ [⟨"job.paramsVector.items[1]", "not an object"⟩]⟩ ∧
      ¬StoredJob (faultyJob .null) ∧ DifferInItem 1 (faultyJob .null) (faultyJob item) ∧
      (reportedProblems (faultyJob item)).filter (fun problem => problem.path ≠ itemPath 1) =
        problems := by
  intro item problems
  have rejected : validate (faultyJob .null) =
      .error ⟨problems ++ [⟨"job.paramsVector.items[1]", "not an object"⟩]⟩ := by rfl
  have differ : DifferInItem 1 (faultyJob .null) (faultyJob item) := by
    refine ⟨fun name other => ?_, rfl, rfl, fun name other => ?_, rfl, rfl, item, rfl⟩
    · simp [faultyJob, Json.field?, Entries.valueAt?_cons_or, Ne.symm other]
    · simp [faultyJob, vectorOf, Json.field?, Entries.valueAt?_cons_or, Ne.symm other]
  obtain ⟨accepted, _, _, _, elsewhere⟩ := schema_decided (faultyJob .null)
  refine ⟨rejected, fun stored => ?_, differ, ?_⟩
  · rw [accepted.mpr stored] at rejected
    cases rejected
  · rw [← elsewhere 1 _ differ]
    decide +kernel

end JobFanout.Job.Schema
