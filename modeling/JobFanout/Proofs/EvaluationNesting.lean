import Mathlib.Data.List.Chain
import Mathlib.Logic.Function.Iterate
import JobFanout.Proofs.CallScan
import JobFanout.Proofs.ListsInTurn
/-!
How deeply evaluation nests. A node that a map makes for an item is no part of the vector, but what
is nested in it stands in the arguments of the map: the item is put under `value`, where no node is
looked for. So each node evaluated inside another one has less `nesting`, and the levels that
`evaluate` allows for are never used up.
-/
namespace JobFanout

/-- Errors that a node has of its own: not that a value is no vector, nor that it lies too deep. -/
def ResolveError.OfNode : ResolveError → Prop
  | .notAVector _ _ => False
  | .tooDeep => False
  | _ => True

namespace ParamVector
variable {σ α β : Type} {around : Surroundings σ} {vector : ParamVector}

/-! Nesting of what was read. -/

theorem nesting_pos (vector : ParamVector) : 0 < vector.nesting := by
  cases vector <;> simp [nesting]

theorem nesting_le_greatestNesting {items : List ParamVector} {node : ParamVector}
    (listed : node ∈ items) : node.nesting ≤ greatestNesting items := by
  induction items with
  | nil => simp at listed
  | cons item rest ih =>
    rcases List.mem_cons.mp listed with rfl | later
    · exact le_max_left ..
    · exact le_max_of_le_right (ih later)

theorem greatestNesting_le {items : List ParamVector} {most : Nat}
    (each : ∀ node ∈ items, node.nesting ≤ most) : greatestNesting items ≤ most := by
  induction items with
  | nil => exact Nat.zero_le most
  | cons item rest ih =>
    have others := ih fun node listed => each node (List.mem_cons_of_mem item listed)
    exact max_le (each item List.mem_cons_self) others

theorem nesting_le_of_fields {fields : Record} {node : ParamVector} {most : Nat}
    (read : ofJson (.object fields) = .ok node)
    (shallow : ∀ key value, key ≠ "value" → key ≠ "type" →
      Entries.valueAt? key fields = some value → value.depth ≤ most)
    (inner : ∀ source node, source.depth ≤ most → ofJson source = .ok node →
      node.nesting ≤ source.depth) : node.nesting ≤ most + 1 := by
  cases node with
  | crossProduct items =>
    obtain ⟨sources, found, nodesRead⟩ := crossProduct_of_ofJson read
    have listDepth := shallow "items" _ (by decide) (by decide) found
    rw [Json.depth] at listDepth
    apply Nat.succ_le_succ
    apply greatestNesting_le
    intro node listed
    obtain ⟨source, present, nodeRead⟩ := ofJsonList_eq_ok nodesRead node listed
    have below := depth_of_mem present
    have sourceDepth : source.depth ≤ most := by omega
    exact (inner source node sourceDepth nodeRead).trans sourceDepth
  | map collection iteratee iterateeArgs =>
    obtain ⟨source, found, collectionRead, _, given⟩ := map_of_ofJson read
    have sourceDepth := shallow "collection" _ (by decide) (by decide) found
    have collectionNesting := (inner source collection sourceDepth collectionRead).trans sourceDepth
    apply Nat.succ_le_succ
    apply max_le collectionNesting
    rcases given with ⟨_, rfl⟩ | present
    · exact (nesting_pos collection).trans_le collectionNesting
    · exact shallow "iterateeArgs" _ (by decide) (by decide) present
  | _ => exact Nat.succ_le_succ (Nat.zero_le most)

theorem nesting_le_depth {json : Json} {node : ParamVector} (read : ofJson json = .ok node) :
    node.nesting ≤ json.depth := by
  induction depth : json.depth using Nat.strong_induction_on generalizing json node with
  | _ depth ih =>
    cases json with
    | object fields =>
      subst depth
      apply nesting_le_of_fields read
      · intro key value _ _ found
        exact depth_of_valueAt? found
      · intro source node shallow nodeRead
        exact ih source.depth (Nat.lt_succ_of_le shallow) nodeRead rfl
    | _ => simp [ofJson] at read

theorem nesting_of_iterateeNode {iteratee : String} {iterateeArgs : Record} {item : Json}
    {node : ParamVector} (read : ofJson (iterateeNode iteratee iterateeArgs item) = .ok node) :
    node.nesting ≤ Json.fieldsDepth iterateeArgs + 1 := by
  apply nesting_le_of_fields read
  · intro key value plain untyped found
    rw [valueAt?_iterateeNode iteratee iterateeArgs item plain] at found
    exact depth_of_valueAt? (by simpa [Entries.valueAt?, untyped.symm] using found)
  · intro source node _ nodeRead
    exact nesting_le_depth nodeRead

theorem nesting_lt_of_generates {node : ParamVector} (generated : Generates vector node) :
    node.nesting < vector.nesting := by
  cases generated with
  | item listed => exact Nat.lt_succ_of_le (nesting_le_greatestNesting listed)
  | collection => exact Nat.lt_succ_of_le (le_max_left ..)
  | iteratee item read => exact Nat.lt_succ_of_le (le_max_of_le_right (nesting_of_iterateeNode read))

/-- Facts about vectors by induction over what their evaluation can come to. -/
theorem generates_induction {motive : ParamVector → Prop}
    (step : ∀ vector, (∀ node, Generates vector node → motive node) → motive vector)
    (vector : ParamVector) : motive vector := by
  induction bound : vector.nesting using Nat.strong_induction_on generalizing vector with
  | _ bound ih =>
    subst bound
    apply step
    intro node generated
    exact ih node.nesting (nesting_lt_of_generates generated) node rfl

theorem length_lt_nesting {inner : List ParamVector}
    (nested : List.IsChain Generates (vector :: inner)) : inner.length < vector.nesting := by
  induction inner generalizing vector with
  | nil => exact nesting_pos vector
  | cons node rest ih =>
    obtain ⟨generated, deeper⟩ := List.isChain_cons_cons.mp nested
    have fewer := ih deeper
    have less := nesting_lt_of_generates generated
    rw [List.length_cons]
    omega

/-! One node, with the evaluation of the nodes inside it left open. -/

def vectorOf (inner : ParamVector → Evaluation σ Json) (node : ParamVector) :
    Evaluation σ (List Json) := do
  asVector node (← inner node)

/-- What a map makes of one item. -/
def mapped (inner : ParamVector → Evaluation σ Json) (iteratee : String) (iterateeArgs : Record)
    (item : Json) : Evaluation σ Json := do
  inner (← ofExcept .vector (ofJson (iterateeNode iteratee iterateeArgs item)))

/-- The evaluation of one node; `inner` evaluates the nodes inside it. -/
def evaluateNode (around : Surroundings σ) (inner : ParamVector → Evaluation σ Json) :
    ParamVector → Evaluation σ Json
  | .set values => pure (.array values)
  | .crossProduct items => do
    let vectors ← items.mapM (vectorOf inner)
    return .array ((product vectors).map fun records => .object (Record.merge records))
  | .fetchObjects pattern => do
    let objects ← liveObjects around
    return .array (Fleet.select pattern objects)
  | .map collection iteratee iterateeArgs => do
    let items ← vectorOf inner collection
    let results ← items.mapM (mapped inner iteratee iterateeArgs)
    return .array results
  | .extractProperties pattern value => pure (.object (Record.project pattern value))
  | .call method params property => evaluateCall around method params property

theorem evaluateWithin_succ (around : Surroundings σ) (levels : Nat) (vector : ParamVector) :
    evaluateWithin around (levels + 1) vector =
      evaluateNode around (evaluateWithin around levels) vector := by
  cases vector with
  | map collection iteratee iterateeArgs =>
    rw [evaluateNode, vectorOf, bind_assoc]
    rfl
  | _ => rfl

theorem evaluateWithin_eq_iterate (around : Surroundings σ) (levels : Nat) :
    evaluateWithin around levels = (evaluateNode around)^[levels] fun _ => throw .tooDeep := by
  induction levels with
  | zero => rfl
  | succ levels ih =>
    funext vector
    rw [evaluateWithin_succ, ih, Function.iterate_succ_apply']

theorem evaluateNode_congr {inner inner' : ParamVector → Evaluation σ Json}
    (same : ∀ node, Generates vector node → inner node = inner' node) :
    evaluateNode around inner vector = evaluateNode around inner' vector := by
  cases vector with
  | crossProduct items =>
    have vectors : items.mapM (vectorOf inner) = items.mapM (vectorOf inner') := by
      apply mapM_congr
      intro item listed
      rw [vectorOf, vectorOf, same item (.item listed)]
    rw [evaluateNode, evaluateNode, vectors]
  | map collection iteratee iterateeArgs =>
    have results : mapped inner iteratee iterateeArgs = mapped inner' iteratee iterateeArgs := by
      funext item
      unfold mapped
      cases read : ofJson (iterateeNode iteratee iterateeArgs item) with
      | error error => rfl
      | ok node => exact same node (.iteratee item read)
    rw [evaluateNode, evaluateNode, results, vectorOf, vectorOf, same collection (.collection ..)]
  | _ => rfl

-- Both sides use up one level for a node, and the nodes inside it have less nesting.
theorem iterate_eq (beyond beyond' : ParamVector → Evaluation σ Json) {levels levels' : Nat}
    (enough : vector.nesting ≤ levels) (enough' : vector.nesting ≤ levels') :
    (evaluateNode around)^[levels] beyond vector =
      (evaluateNode around)^[levels'] beyond' vector := by
  induction levels generalizing vector levels' with
  | zero => exact absurd enough (Nat.not_le_of_gt (nesting_pos vector))
  | succ levels ih =>
    cases levels' with
    | zero => exact absurd enough' (Nat.not_le_of_gt (nesting_pos vector))
    | succ levels' =>
      rw [Function.iterate_succ_apply', Function.iterate_succ_apply']
      apply evaluateNode_congr
      intro node generated
      have less := nesting_lt_of_generates generated
      exact ih (by omega) (by omega)

/-- Calls nested more deeply than the vector nests have no part in its evaluation. -/
theorem iterate_eq_evaluate (beyond : ParamVector → Evaluation σ Json) {levels : Nat}
    (enough : vector.nesting ≤ levels) :
    (evaluateNode around)^[levels] beyond vector = evaluate around vector := by
  rw [evaluate, evaluateWithin_eq_iterate]
  exact iterate_eq beyond _ enough le_rfl

theorem evaluate_eq_evaluateNode (around : Surroundings σ) (vector : ParamVector) :
    evaluate around vector = evaluateNode around (evaluate around) vector := by
  have deeper : (evaluateNode around)^[vector.nesting + 1] (fun _ => throw .tooDeep) vector =
      evaluate around vector := iterate_eq_evaluate _ (Nat.le_succ vector.nesting)
  rw [← deeper, Function.iterate_succ_apply']
  apply evaluateNode_congr
  intro node generated
  exact iterate_eq_evaluate _ (nesting_lt_of_generates generated).le

theorem eq_evaluate_of_recursive {recursive : ParamVector → Evaluation σ Json}
    (recurs : ∀ node, recursive node = evaluateNode around recursive node) :
    recursive = evaluate around := by
  have fixed : evaluateNode around recursive = recursive := funext fun node => (recurs node).symm
  funext vector
  rw [← iterate_eq_evaluate recursive (le_refl vector.nesting), Function.iterate_fixed fixed]

theorem records_eq_vectorOf (around : Surroundings σ) (vector : ParamVector) :
    records around (some vector) =
      vectorOf (evaluate around) vector >>= fun items => ofExcept id (items.mapM asRecord) := by
  rw [vectorOf, bind_assoc]
  rfl

/-! Errors. -/

def FailsOnly (allowed : ResolveError → Prop) (computation : Evaluation σ α) : Prop :=
  ∀ state error, (computation.run.run state).1 = .error error → allowed error

namespace FailsOnly
variable {allowed : ResolveError → Prop}

theorem pure (value : α) : FailsOnly allowed (pure value : Evaluation σ α) := by
  intro state error failed
  cases failed

theorem throw {error : ResolveError} (fine : allowed error) :
    FailsOnly allowed (throw error : Evaluation σ α) := by
  intro state other failed
  cases failed
  exact fine

theorem bind_of_ran {first : Evaluation σ α} {next : α → Evaluation σ β}
    (fine : FailsOnly allowed first)
    (nextFine : ∀ state value later, first.run.run state = (.ok value, later) →
      FailsOnly allowed (next value)) : FailsOnly allowed (first >>= next) := by
  intro state error failed
  rcases error_of_bind failed with here | ⟨value, later, ran, failed⟩
  · exact fine state error here
  · exact nextFine state value later ran later error failed

theorem bind {first : Evaluation σ α} {next : α → Evaluation σ β}
    (fine : FailsOnly allowed first) (nextFine : ∀ value, FailsOnly allowed (next value)) :
    FailsOnly allowed (first >>= next) :=
  fine.bind_of_ran fun _ value _ _ => nextFine value

theorem mapM {each : α → Evaluation σ β} {items : List α}
    (fine : ∀ item ∈ items, FailsOnly allowed (each item)) :
    FailsOnly allowed (items.mapM each) := by
  induction items with
  | nil => exact pure []
  | cons item rest ih =>
    rw [List.mapM_cons]
    apply bind (fine item List.mem_cons_self)
    intro first
    apply bind (ih fun other listed => fine other (List.mem_cons_of_mem item listed))
    intro others
    exact pure (first :: others)

theorem ofExcept {ε : Type} {wrap : ε → ResolveError} {result : Except ε α}
    (fine : ∀ error, result = .error error → allowed (wrap error)) :
    FailsOnly allowed (ofExcept wrap result : Evaluation σ α) := by
  cases result with
  | ok value => exact pure value
  | error error => exact throw (fine error rfl)

end FailsOnly

theorem asRecord_eq_error {value : Json} {error : ResolveError}
    (failed : asRecord value = .error error) : error = .notARecord value.kind := by
  cases value <;> cases failed <;> rfl

theorem callParams_eq_error {params : Json} {error : ResolveError}
    (failed : callParams params = .error error) : error = .notARecord params.kind := by
  cases params with
  | null => cases failed
  | _ => exact asRecord_eq_error failed

/-- A node whose value evaluation wants as a vector: an item of a product or the collection of a map
that it comes to. -/
inductive WantedInside (around : Surroundings σ) : ParamVector → ParamVector → Prop where
  | item {items : List ParamVector} {node : ParamVector} (listed : node ∈ items) :
      WantedInside around (.crossProduct items) node
  | collection (collection : ParamVector) (iteratee : String) (iterateeArgs : Record) :
      WantedInside around (.map collection iteratee iterateeArgs) collection
  | insideItem {items : List ParamVector} {inner node : ParamVector} (listed : inner ∈ items)
      (wanted : WantedInside around inner node) : WantedInside around (.crossProduct items) node
  | insideCollection {collection node : ParamVector} {iteratee : String} {iterateeArgs : Record}
      (wanted : WantedInside around collection node) :
      WantedInside around (.map collection iteratee iterateeArgs) node
  | insideMapped {collection made node : ParamVector} {iteratee : String} {iterateeArgs : Record}
      {state later : σ} {items : List Json} {item : Json}
      (collected : (vectorOf (evaluate around) collection).run.run state = (.ok items, later))
      (listed : item ∈ items) (read : ofJson (iterateeNode iteratee iterateeArgs item) = .ok made)
      (wanted : WantedInside around made node) :
      WantedInside around (.map collection iteratee iterateeArgs) node

section Errors

variable {allowed : ResolveError → Prop}

theorem failsOnly_liveObjects (own : ∀ error : ResolveError, error.OfNode → allowed error)
    (around : Surroundings σ) : FailsOnly allowed (liveObjects around) := by
  apply FailsOnly.bind
  · intro state error failed
    cases failed
  · intro found
    exact .ofExcept fun _ _ => own _ trivial

theorem failsOnly_evaluateCall (own : ∀ error : ResolveError, error.OfNode → allowed error)
    (around : Surroundings σ) (method : String) (params : Json) (property : Option String) :
    FailsOnly allowed (evaluateCall around method params property) := by
  unfold evaluateCall
  cases around.calls with
  | none => exact .throw (own _ trivial)
  | some source =>
    apply FailsOnly.bind
    · apply FailsOnly.ofExcept
      intro error failed
      rw [callParams_eq_error failed]
      exact own _ trivial
    · intro record
      apply FailsOnly.bind
      · intro state error failed
        cases failed
      · intro answer
        rw [map_eq_pure_bind]
        exact .bind (.ofExcept fun _ _ => own _ trivial) fun value => .pure _

theorem failsOnly_evaluate (own : ∀ error : ResolveError, error.OfNode → allowed error)
    (vectors : ∀ node, WantedInside around vector node → FailsOnly allowed (evaluate around node) →
      FailsOnly allowed (vectorOf (evaluate around) node)) :
    FailsOnly allowed (evaluate around vector) := by
  induction vector using generates_induction with
  | step vector ih =>
    rw [evaluate_eq_evaluateNode]
    cases vector with
    | crossProduct items =>
      refine .bind (.mapM ?_) fun vectors => .pure _
      intro item listed
      apply vectors item (.item listed)
      exact ih item (.item listed) fun node wanted => vectors node (.insideItem listed wanted)
    | fetchObjects pattern =>
      exact .bind (failsOnly_liveObjects own around) fun objects => .pure _
    | map collection iteratee iterateeArgs =>
      have collected := vectors collection (.collection ..) (ih collection (.collection ..)
        fun node wanted => vectors node (.insideCollection wanted))
      apply collected.bind_of_ran
      intro state items later ran
      refine .bind (.mapM ?_) fun results => .pure _
      intro item listed
      unfold mapped
      cases read : ofJson (iterateeNode iteratee iterateeArgs item) with
      | error error => exact .throw (own _ trivial)
      | ok node =>
        exact ih node (.iteratee item read) fun inner wanted =>
          vectors inner (.insideMapped ran listed read wanted)
    | call method params property => exact failsOnly_evaluateCall own around method params property
    | _ => exact .pure _

theorem failsOnly_records (own : ∀ error : ResolveError, error.OfNode → allowed error)
    (fine : FailsOnly allowed (vectorOf (evaluate around) vector)) :
    FailsOnly allowed (records around (some vector)) := by
  rw [records_eq_vectorOf]
  apply fine.bind
  intro items
  apply FailsOnly.ofExcept
  intro error failed
  obtain ⟨_, item, _, _, _, itemFailed⟩ := exists_of_mapM_eq_error failed
  rw [id, asRecord_eq_error itemFailed]
  exact own _ trivial

end Errors

abbrev Ends (computation : Evaluation σ α) : Prop := FailsOnly (· ≠ .tooDeep) computation

theorem ends_of_own {error : ResolveError} (own : error.OfNode) : error ≠ .tooDeep := by
  rintro rfl
  exact own

theorem ends_asVector (node : ParamVector) (value : Json) :
    Ends (asVector node value : Evaluation σ (List Json)) := by
  cases value with
  | array items => exact .pure items
  | _ => exact .throw nofun

theorem ends_evaluate (around : Surroundings σ) (vector : ParamVector) :
    Ends (evaluate around vector) :=
  failsOnly_evaluate (fun _ => ends_of_own) fun node _ ends => ends.bind (ends_asVector node)

theorem ends_records (around : Surroundings σ) (vector : Option ParamVector) :
    Ends (records around vector) := by
  cases vector with
  | none => exact .pure _
  | some vector =>
    exact failsOnly_records (fun _ => ends_of_own)
      ((ends_evaluate around vector).bind (ends_asVector vector))

/-- Evaluation ends: the nodes evaluated inside one another are never more than `nesting` counts from
the vector alone, whatever the objects are, the items and the answers. What evaluation would do any
deeper does not matter, so `evaluate` is the one solution of its recursion. -/
theorem evaluation_ends (around : Surroundings σ) (vector : ParamVector) :
    (∀ inner, List.IsChain Generates (vector :: inner) →
      (vector :: inner).length ≤ vector.nesting) ∧
    (∀ levels beyond, vector.nesting ≤ levels →
      (evaluateNode around)^[levels] beyond vector = evaluate around vector) ∧
    evaluate around vector = evaluateNode around (evaluate around) vector ∧
    (∀ recursive, (∀ node, recursive node = evaluateNode around recursive node) →
      recursive vector = evaluate around vector) ∧
    (∀ state, ((evaluate around vector).run.run state).1 ≠ .error .tooDeep ∧
      ((records around (some vector)).run.run state).1 ≠ .error .tooDeep) ∧
    ∀ json, ofJson json = .ok vector → vector.nesting ≤ json.depth := by
  refine ⟨?_, ?_, evaluate_eq_evaluateNode around vector, ?_, ?_, ?_⟩
  · intro inner nested
    exact Nat.succ_le_of_lt (length_lt_nesting nested)
  · intro levels beyond enough
    exact iterate_eq_evaluate beyond enough
  · intro recursive recurs
    rw [eq_evaluate_of_recursive recurs]
  · intro state
    constructor
    · intro failed
      exact ends_evaluate around vector state _ failed rfl
    · intro failed
      exact ends_records around (some vector) state _ failed rfl
  · intro json read
    exact nesting_le_depth read

/-- For each live object, all live objects for each of them. -/
def listings : ParamVector :=
  .map (.fetchObjects []) "map"
    [("collection", .object [("type", .string "fetchObjects")]),
      ("iteratee", .string "fetchObjects")]

theorem listings_end :
    let inner := [.map (.fetchObjects []) "fetchObjects" [], .fetchObjects []]
    let around : Surroundings Unit := ⟨pure (.ok [.int 1, .object []]), none⟩
    (List.IsChain Generates (listings :: inner) ∧ (listings :: inner).length ≤ listings.nesting) ∧
      listings.nesting = 3 ∧
      (evaluateNode around)^[3] (fun _ => pure .null) listings = evaluate around listings := by
  intro inner around
  have nested : List.IsChain Generates (listings :: inner) := by
    apply List.IsChain.cons_cons (.iteratee (.int 1) rfl)
    apply List.IsChain.cons_cons (.iteratee .null rfl)
    exact .singleton _
  obtain ⟨bounded, enough, _⟩ := evaluation_ends around listings
  exact ⟨⟨nested, bounded inner nested⟩, by decide, enough 3 _ (by decide)⟩

end ParamVector
end JobFanout
