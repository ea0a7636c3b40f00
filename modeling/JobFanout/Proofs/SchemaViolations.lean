import Mathlib.Data.List.Nodup
import Mathlib.Data.List.Range
import JobFanout.Job.Schema
import JobFanout.Proofs.KeyedEntries
/-!
What the schema of stored jobs demands, part by part, and which of the violations are reported. Every
part answers for itself alone: a demand counts where the parts around it are what they have to be,
whatever else is wrong. Each violation has a report of its own, but for the collection of a map item
of which the iteratee is at fault as well.
-/
namespace JobFanout

namespace Json

def has (key : String) (kind : Kind) (value : Json) : Bool := (value.field? key).any (·.kind == kind)

def mayHave (key : String) (kind : Kind) (value : Json) : Bool :=
  (value.field? key).all (·.kind == kind)

def isTyped (tag : String) (value : Json) : Bool :=
  (value.field? "type").bind Json.text? == some tag

end Json

namespace Job.Schema

/-- What is demanded of an item of a stored vector. -/
inductive ItemDemand where
  | object | type | values | iteratee | collection
deriving DecidableEq

namespace ItemDemand

def all : List ItemDemand := [.object, .type, .values, .iteratee, .collection]

def isViolated (item : Json) : ItemDemand → Bool
  | .object => !item.isObject
  | .type => item.isObject && !item.isTyped "set" && !item.isTyped "map"
  | .values => item.isTyped "set" && !item.has "values" .array
  | .iteratee => item.isTyped "map" && !item.has "iteratee" .string
  | .collection => item.isTyped "map" && !item.has "collection" .object

/-- The iteratee of a map item is looked at before its collection. -/
def isShadowed (item : Json) : ItemDemand → Bool
  | .collection => isViolated item .iteratee && isViolated item .collection
  | _ => false

def fault : ItemDemand → String
  | .object => "not an object"
  | .type => "no type defined"
  | .values => "values is not an array"
  | .iteratee => "iteratee is not a string"
  | .collection => "collection is not an object"

end ItemDemand

/-- What is demanded of a stored job. -/
inductive Demand where
  | job
  | text (name : String)
  | optionalName
  | vector
  | vectorType
  | items
  | item (index : Nat) (demand : ItemDemand)
deriving DecidableEq

def requiredTexts : List String := ["id", "type", "key", "method"]

def vectorOf (job : Json) : Json := (job.field? "paramsVector").getD .null

def itemsOf (job : Json) : List Json :=
  match (vectorOf job).field? "items" with
  | some (.array items) => items
  | _ => []

namespace Demand

def isViolated (job : Json) : Demand → Bool
  | .job => !job.isObject
  | .text name => job.isObject && requiredTexts.contains name && !job.has name .string
  | .optionalName => !job.mayHave "name" .string
  | .vector => !job.mayHave "paramsVector" .object
  | .vectorType => job.has "paramsVector" .object && !(vectorOf job).has "type" .string
  | .items => !(vectorOf job).mayHave "items" .array
  | .item index demand => (itemsOf job)[index]?.any demand.isViolated

def isShadowed (job : Json) : Demand → Bool
  | .item index demand => (itemsOf job)[index]?.any demand.isShadowed
  | _ => false

def path : Demand → String
  | .job => "job"
  | .text name => "job." ++ name
  | .optionalName => "job.name"
  | .vector => "job.paramsVector"
  | .vectorType => "job.paramsVector.type"
  | .items => "job.paramsVector.items"
  | .item index _ => itemPath index

def fault (job : Json) : Demand → String
  | .job => "not an object"
  | .text name => if (job.field? name).isSome then "not a string" else "missing"
  | .optionalName => "not a string"
  | .vector => "not an object"
  | .vectorType => "not a string"
  | .items => "not an array"
  | .item _ demand => demand.fault

def problem (job : Json) (demand : Demand) : Problem := ⟨demand.path, demand.fault job⟩

end Demand

def fixedDemands : List Demand :=
  .job :: requiredTexts.map .text ++ [.optionalName, .vector, .vectorType, .items]

/-- All demands that a job can violate, in the order of the document. -/
def demands (job : Json) : List Demand :=
  fixedDemands ++
    (List.range (itemsOf job).length).flatMap fun index => ItemDemand.all.map (.item index)

def violations (job : Json) : List Demand := (demands job).filter (·.isViolated job)

def reportedProblems (job : Json) : List Problem :=
  match validate job with
  | .ok () => []
  | .error error => error.problems

theorem reportedProblems_eq (job : Json) : reportedProblems job = problems job := by
  rw [reportedProblems, validate]
  cases problems job <;> rfl

/-! The demands are all listed, each once. -/

variable {job : Json} {demand : Demand}

theorem mem_demands_of_isViolated (violated : demand.isViolated job = true) :
    demand ∈ demands job := by
  cases demand with
  | text name =>
    have listed : name ∈ requiredTexts := by
      simp only [Demand.isViolated, Bool.and_eq_true, List.contains_iff_mem] at violated
      exact violated.1.2
    simp [demands, fixedDemands, listed]
  | item index demand =>
    have below : index < (itemsOf job).length := by
      simp only [Demand.isViolated, Option.any_eq_true] at violated
      obtain ⟨item, placed, _⟩ := violated
      exact (List.getElem?_eq_some_iff.mp placed).1
    have listed : demand ∈ ItemDemand.all := by cases demand <;> decide
    simp [demands, below, listed]
  | _ => simp [demands, fixedDemands]

theorem mem_violations : demand ∈ violations job ↔ demand.isViolated job = true := by
  rw [violations, List.mem_filter]
  exact ⟨And.right, fun violated => ⟨mem_demands_of_isViolated violated, violated⟩⟩

theorem fixed_or_item (listed : demand ∈ demands job) :
    demand ∈ fixedDemands ∨ ∃ index part, demand = .item index part := by
  rcases List.mem_append.mp listed with fixed | listed
  · exact .inl fixed
  · obtain ⟨index, _, listed⟩ := List.mem_flatMap.mp listed
    obtain ⟨part, _, rfl⟩ := List.mem_map.mp listed
    exact .inr ⟨index, part, rfl⟩

theorem nodup_demands (job : Json) : (demands job).Nodup := by
  have fixed : fixedDemands.Nodup := by decide
  have each : ∀ index, (ItemDemand.all.map (Demand.item index)).Nodup := by
    intro index
    have distinct : ItemDemand.all.Nodup := by decide
    exact distinct.map fun _ _ same => by cases same; rfl
  refine fixed.append (List.nodup_flatMap.mpr ⟨fun index _ => each index, ?_⟩) ?_
  · refine List.nodup_range.imp fun differ => ?_
    intro demand here there
    obtain ⟨_, _, rfl⟩ := List.mem_map.mp here
    obtain ⟨_, _, same⟩ := List.mem_map.mp there
    cases same
    exact differ rfl
  · intro demand here there
    obtain ⟨index, _, there⟩ := List.mem_flatMap.mp there
    obtain ⟨part, _, rfl⟩ := List.mem_map.mp there
    simp [fixedDemands] at here

/-! What is reported. -/

/-- The report of one demand. -/
def Demand.reports (job : Json) (demand : Demand) : List Problem :=
  if !demand.isShadowed job && demand.isViolated job then [demand.problem job] else []

theorem map_filter_eq_flatMap {α β : Type} (keep : α → Bool) (f : α → β) (items : List α) :
    (items.filter keep).map f = items.flatMap fun item => if keep item then [f item] else [] := by
  induction items with
  | nil => rfl
  | cons item rest ih => cases kept : keep item <;> simp [kept, ih]

theorem map_problem_violations (job : Json) :
    ((violations job).filter (!·.isShadowed job)).map (Demand.problem job) =
      (demands job).flatMap (Demand.reports job) := by
  rw [violations, List.filter_filter, map_filter_eq_flatMap]
  rfl

variable {fields : Record}

theorem requiredText_eq {name : String} (listed : name ∈ requiredTexts) :
    requiredText fields name = Demand.reports (.object fields) (.text name) := by
  unfold requiredText Demand.reports
  cases found : Entries.valueAt? name fields with
  | none => simp [Demand.isViolated, Demand.isShadowed, Demand.problem, Demand.path, Demand.fault,
      Json.has, Json.field?, Json.isObject, Json.kind, listed, found]
  | some value =>
    cases value <;> simp [Demand.isViolated, Demand.isShadowed, Demand.problem, Demand.path,
      Demand.fault, Json.has, Json.field?, Json.isObject, Json.kind, listed, found]

theorem optionalText_eq :
    optionalText fields "name" = Demand.reports (.object fields) .optionalName := by
  unfold optionalText Demand.reports
  cases found : Entries.valueAt? "name" fields with
  | none => simp [Demand.isViolated, Json.mayHave, Json.field?, found]
  | some value =>
    cases value <;> simp [Demand.isViolated, Demand.isShadowed, Demand.problem, Demand.path,
      Demand.fault, Json.mayHave, Json.field?, Json.kind, found]

theorem itemFault_object (fields : Record) :
    itemFault (.object fields) =
      if Json.isTyped "set" (.object fields) then
        if Json.has "values" .array (.object fields) then none
        else some (ItemDemand.fault .values)
      else if Json.isTyped "map" (.object fields) then
        if !Json.has "iteratee" .string (.object fields) then some (ItemDemand.fault .iteratee)
        else if !Json.has "collection" .object (.object fields) then
          some (ItemDemand.fault .collection)
        else none
      else some (ItemDemand.fault .type) := by
  rw [itemFault]
  simp only [Json.isTyped, Json.field?, beq_iff_eq]
  split
  · next typed =>
    rw [typed]
    rfl
  · next typed =>
    rw [typed]
    rfl
  · next other other' =>
    rw [if_neg other, if_neg other']
    rfl

theorem isTyped_unique {tag tag' : String} {item : Json} (typed : item.isTyped tag = true)
    (differ : tag ≠ tag') : item.isTyped tag' = false := by
  rw [Json.isTyped, beq_iff_eq] at typed
  simp [Json.isTyped, typed, differ]

/-- An item is reported for what it violates, unless that is shadowed. -/
theorem itemFault_eq (item : Json) :
    (itemFault item).toList =
      (ItemDemand.all.filter fun demand => !demand.isShadowed item && demand.isViolated item).map
        ItemDemand.fault := by
  cases item with
  | object fields =>
    have isObject : (Json.object fields).isObject = true := rfl
    rw [itemFault_object]
    -- Of an object, what else is demanded depends on its type, and it has one type at most.
    cases set : (Json.object fields).isTyped "set" with
    | true =>
      have map : (Json.object fields).isTyped "map" = false := isTyped_unique set (by decide)
      cases values : (Json.object fields).has "values" .array <;>
        simp [ItemDemand.all, ItemDemand.isViolated, ItemDemand.isShadowed, isObject, set, map,
          values]
    | false =>
      cases map : (Json.object fields).isTyped "map" with
      | true =>
        cases iteratee : (Json.object fields).has "iteratee" .string <;>
          cases collection : (Json.object fields).has "collection" .object <;>
            simp [ItemDemand.all, ItemDemand.isViolated, ItemDemand.isShadowed, isObject, set, map,
              iteratee, collection]
      | false =>
        simp [ItemDemand.all, ItemDemand.isViolated, ItemDemand.isShadowed, isObject, set, map]
  | _ => rfl

theorem itemProblems_eq {index : Nat} {item : Json} (placed : (itemsOf job)[index]? = some item) :
    itemProblems index item =
      (ItemDemand.all.map (Demand.item index)).flatMap (Demand.reports job) := by
  rw [itemProblems, itemFault_eq, List.map_map, map_filter_eq_flatMap, List.flatMap_map]
  simp only [Demand.reports, Demand.isViolated, Demand.isShadowed, placed, Option.any_some]
  rfl

theorem itemsProblems_eq {items : List Json} (same : itemsOf job = items) :
    itemsProblems (.array items) =
      (List.range (itemsOf job).length).flatMap fun index =>
        (ItemDemand.all.map (Demand.item index)).flatMap (Demand.reports job) := by
  subst same
  rw [itemsProblems, List.flatMap_def]
  refine congrArg List.flatten (List.ext_getElem (by simp) fun index below _ => ?_)
  rw [List.length_mapIdx] at below
  simp [itemProblems_eq (List.getElem?_eq_getElem below)]

theorem vectorOf_object {vector : Json}
    (given : Entries.valueAt? "paramsVector" fields = some vector) :
    vectorOf (.object fields) = vector := by
  rw [vectorOf, Json.field?, given]
  rfl

theorem reports_vectorType {inner : Record}
    (given : Entries.valueAt? "paramsVector" fields = some (.object inner)) :
    Demand.reports (.object fields) .vectorType =
      if hasString inner "type" then [] else [⟨"job.paramsVector.type", "not a string"⟩] := by
  have isVector : (Json.object fields).has "paramsVector" .object = true := by
    rw [Json.has, Json.field?, given]
    rfl
  have text : (Json.object inner).has "type" .string = hasString inner "type" := rfl
  rw [Demand.reports, Demand.isViolated, isVector, vectorOf_object given, text]
  cases hasString inner "type" <;> rfl

theorem vectorProblems_eq {vector : Json}
    (given : Entries.valueAt? "paramsVector" fields = some vector) :
    vectorProblems vector =
      [Demand.vector, .vectorType, .items].flatMap (Demand.reports (.object fields)) ++
        (List.range (itemsOf (.object fields)).length).flatMap fun index =>
          (ItemDemand.all.map (Demand.item index)).flatMap (Demand.reports (.object fields)) := by
  have own := vectorOf_object given
  cases vector with
  | object inner =>
    have isVector : Demand.reports (.object fields) .vector = [] := by
      simp [Demand.reports, Demand.isViolated, Json.mayHave, Json.field?, given, Json.kind]
    rw [vectorProblems, List.flatMap_cons, List.flatMap_cons, List.flatMap_singleton, isVector,
      reports_vectorType given, List.nil_append, List.append_assoc, List.append_right_inj]
    cases listed : Entries.valueAt? "items" inner with
    | none =>
      simp [Demand.reports, Demand.isViolated, Json.mayHave, Json.field?, itemsOf, own, listed]
    | some value =>
      cases value with
      | array items =>
        have same : itemsOf (.object fields) = items := by
          rw [itemsOf, own, Json.field?, listed]
        rw [← itemsProblems_eq same]
        simp [Demand.reports, Demand.isViolated, Json.mayHave, Json.field?, own, listed, Json.kind]
      | _ =>
        simp [itemsProblems, Demand.reports, Demand.isShadowed, Demand.isViolated, Demand.problem,
          Demand.path, Demand.fault, Json.mayHave, Json.field?, Json.kind, itemsOf, own, listed]
  | _ =>
    simp [vectorProblems, Demand.reports, Demand.isShadowed, Demand.isViolated, Demand.problem,
      Demand.path, Demand.fault, Json.has, Json.mayHave, Json.field?, Json.kind, itemsOf, own, given]

theorem problems_eq (job : Json) :
    problems job =
      ((violations job).filter (!·.isShadowed job)).map (Demand.problem job) := by
  rw [map_problem_violations, demands, List.flatMap_append, List.flatMap_assoc]
  cases job with
  | object fields =>
    have texts : ["id", "type", "key", "method"].flatMap (requiredText fields) =
        (requiredTexts.map Demand.text).flatMap (Demand.reports (.object fields)) := by
      rw [List.flatMap_map]
      exact List.flatMap_congr fun name listed => requiredText_eq listed
    -- One part for each of the functions that report on a job.
    have fixed : fixedDemands = [Demand.job] ++ requiredTexts.map Demand.text ++ [.optionalName] ++
        [.vector, .vectorType, .items] := rfl
    have isJob : Demand.reports (.object fields) .job = [] := rfl
    rw [problems, texts, optionalText_eq, fixed, List.flatMap_append, List.flatMap_append,
      List.flatMap_append, List.flatMap_singleton, List.flatMap_singleton, isJob, List.nil_append,
      List.append_assoc (List.flatMap _ _ ++ _), List.append_right_inj]
    cases given : Entries.valueAt? "paramsVector" fields with
    | none =>
      simp [Demand.reports, Demand.isViolated, Json.has, Json.mayHave, Json.field?, itemsOf,
        vectorOf, given]
    | some vector => exact vectorProblems_eq given
  | _ => rfl

/-! Reports are told apart by their paths and, on one item, by their texts. -/

theorem itemPath_injective : Function.Injective itemPath := by
  intro index index' same
  have numbers := (String.append_right_inj _).mp ((String.append_left_inj _).mp same)
  exact Entries.repr_injective numbers

theorem fault_injective : Function.Injective ItemDemand.fault := by
  intro demand demand' same
  have distinct : (ItemDemand.all.map ItemDemand.fault).Nodup := by decide
  have listed : ∀ demand : ItemDemand, demand ∈ ItemDemand.all := by
    intro demand
    cases demand <;> decide
  exact List.inj_on_of_nodup_map distinct (listed demand) (listed demand') same

theorem fixed_path_ne (fixed : demand ∈ fixedDemands) (index : Nat) :
    demand.path ≠ itemPath index := by
  intro same
  -- The index is any number, so the paths are told apart by what stands before it.
  have bracket : "job.paramsVector.items[".toList <+: (itemPath index).toList := by
    unfold itemPath
    rw [String.toList_append, String.toList_append, List.append_assoc]
    apply List.prefix_append
  have none : ∀ path ∈ fixedDemands.map Demand.path,
      ¬"job.paramsVector.items[".toList <+: path.toList := by decide +kernel
  exact none demand.path (List.mem_map_of_mem fixed) (same ▸ bracket)

theorem problem_inj {demand' : Demand} (listed : demand ∈ demands job)
    (listed' : demand' ∈ demands job) (same : demand.problem job = demand'.problem job) :
    demand = demand' := by
  have path : demand.path = demand'.path := congrArg Problem.path same
  rcases fixed_or_item listed with fixed | ⟨index, part, rfl⟩ <;>
    rcases fixed_or_item listed' with fixed' | ⟨index', part', rfl⟩
  · have distinct : (fixedDemands.map Demand.path).Nodup := by decide
    exact List.inj_on_of_nodup_map distinct fixed fixed' path
  · exact absurd path (fixed_path_ne fixed index')
  · exact absurd path.symm (fixed_path_ne fixed' index)
  · rw [itemPath_injective path, fault_injective (congrArg Problem.text same)]

theorem nodup_problems (job : Json) : (problems job).Nodup := by
  rw [problems_eq]
  refine ((nodup_demands job).filter _).filter _ |>.map_on fun demand here demand' there => ?_
  exact problem_inj (List.mem_of_mem_filter (List.mem_of_mem_filter here))
    (List.mem_of_mem_filter (List.mem_of_mem_filter there))

/-! How many violations are reported. -/

def IsTwiceFaulty (job : Json) (index : Nat) : Prop :=
  Demand.isViolated job (.item index .iteratee) = true ∧
    Demand.isViolated job (.item index .collection) = true

theorem isShadowed_iff :
    demand.isShadowed job = true ↔
      ∃ index, demand = .item index .collection ∧ IsTwiceFaulty job index := by
  cases demand with
  | item index part =>
    simp only [Demand.isShadowed, IsTwiceFaulty, Demand.isViolated, Demand.item.injEq]
    cases placed : (itemsOf job)[index]? with
    | none => simp [placed]
    | some item => cases part <;> simp [ItemDemand.isShadowed, placed]
  | _ => simp [Demand.isShadowed]

theorem length_problems (job : Json) :
    (problems job).length + (violations job).countP (·.isShadowed job) =
      (violations job).length := by
  rw [problems_eq, List.length_map, ← List.countP_eq_length_filter, Nat.add_comm,
    List.length_eq_countP_add_countP (·.isShadowed job) (l := violations job)]
  simp

theorem countP_isShadowed_eq_zero :
    (violations job).countP (·.isShadowed job) = 0 ↔ ∀ index, ¬IsTwiceFaulty job index := by
  rw [List.countP_eq_zero]
  constructor
  · intro none index twice
    exact none _ (mem_violations.mpr twice.2) (isShadowed_iff.mpr ⟨index, rfl, twice⟩)
  · intro none demand _ shadowed
    obtain ⟨index, _, twice⟩ := isShadowed_iff.mp shadowed
    exact none index twice

/-- Each violated demand has a report of its own, in the order of the document, but for the collection
of a map item of which the iteratee is at fault as well. So there are as many problems as violations,
less one for each such item, whatever else is violated. -/
theorem violations_reported_but_shadowed (job : Json) :
    (violations job).Nodup ∧
    (∀ demand : Demand, demand ∈ violations job ↔ demand.isViolated job = true) ∧
    reportedProblems job =
      ((violations job).filter (!·.isShadowed job)).map (Demand.problem job) ∧
    (reportedProblems job).Nodup ∧
    (∀ demand : Demand, demand.isShadowed job = true ↔
      ∃ index, demand = .item index .collection ∧ IsTwiceFaulty job index) ∧
    (reportedProblems job).length + (violations job).countP (·.isShadowed job) =
      (violations job).length ∧
    ((reportedProblems job).length = (violations job).length ↔
      ∀ index, ¬IsTwiceFaulty job index) := by
  have counted := length_problems job
  rw [reportedProblems_eq]
  refine ⟨(nodup_demands job).filter _, fun _ => mem_violations, problems_eq job,
    nodup_problems job, fun _ => isShadowed_iff, counted, ?_⟩
  rw [← countP_isShadowed_eq_zero]
  omega

def twiceFaulty : Json := .object
  [("id", .string "job-1"), ("key", .string "k"), ("method", .string "vm.start"),
    ("paramsVector", .object
      [("items", .array
        [.object [("collection", .array []), ("iteratee", .int 1), ("type", .string "map")]]),
        ("type", .string "crossProduct")]),
    ("type", .string "call")]

theorem twiceFaulty_reported_once :
    violations twiceFaulty = [.item 0 .iteratee, .item 0 .collection] ∧
      reportedProblems twiceFaulty = [⟨"job.paramsVector.items[0]", "iteratee is not a string"⟩] ∧
      (reportedProblems twiceFaulty).length ≠ (violations twiceFaulty).length := by
  have violated : violations twiceFaulty = [.item 0 .iteratee, .item 0 .collection] := by rfl
  obtain ⟨_, _, reported, _, _, _, whole⟩ := violations_reported_but_shadowed twiceFaulty
  refine ⟨violated, by rw [reported, violated]; rfl, fun same => ?_⟩
  exact whole.mp same 0 ⟨rfl, rfl⟩

end Job.Schema
end JobFanout
