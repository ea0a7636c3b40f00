import JobFanout.Proofs.NestedProducts
/-!
What a vector's type says of its value. A projection comes to one record, every other vector to a
list, and a product to a list of records. So only a projection can stand where a list is wanted and
fail to be one, and a product that comes to anything is a list of records to call a job with.
-/
namespace JobFanout.ParamVector
variable {σ α β : Type} {around : Surroundings σ}

/-- The values that a vector of each type can come to. -/
def Tag.Yields : Tag → Json → Prop
  | .extractProperties, value => ∃ fields, value = .object fields
  | .crossProduct, value => ∃ records : List Record, value = .array (records.map .object)
  | _, value => ∃ items, value = .array items

theorem Tag.Yields.isArray {tag : Tag} {value : Json} (yields : tag.Yields value)
    (list : tag ≠ .extractProperties) : ∃ items, value = .array items := by
  cases tag with
  | extractProperties => exact (list rfl).elim
  | crossProduct =>
    obtain ⟨records, rfl⟩ := yields
    exact ⟨_, rfl⟩
  | _ => exact yields

def YieldsOnly (allowed : α → Prop) (computation : Evaluation σ α) : Prop :=
  ∀ state value, (computation.run.run state).1 = .ok value → allowed value

namespace YieldsOnly

theorem pure {allowed : α → Prop} {value : α} (fine : allowed value) :
    YieldsOnly allowed (pure value : Evaluation σ α) := by
  intro state other same
  cases same
  exact fine

theorem throw {allowed : α → Prop} (error : ResolveError) :
    YieldsOnly allowed (throw error : Evaluation σ α) := by
  intro state value same
  cases same

theorem bind {allowed : β → Prop} {first : Evaluation σ α} {next : α → Evaluation σ β}
    (nextFine : ∀ value, YieldsOnly allowed (next value)) :
    YieldsOnly allowed (first >>= next) := by
  intro state value same
  cases ran : first.run.run state with
  | mk result later =>
    cases result with
    | ok middle =>
      rw [run_bind_of_ok ran] at same
      exact nextFine middle later value same
    | error error =>
      rw [run_bind_of_error ran] at same
      cases same

end YieldsOnly

/-! The value of a node. -/

theorem answerVector_isArray (property : Option String) (answer : Json) :
    ∃ items, answerVector property answer = .array items := by
  unfold answerVector
  extract_lets chosen
  by_cases list : chosen.isArray = true
  · rw [if_pos list]
    exact Json.isArray_iff.mp list
  · rw [if_neg list]
    exact ⟨[chosen], rfl⟩

theorem evaluateCall_yields (around : Surroundings σ) (method : String) (params : Json)
    (property : Option String) :
    YieldsOnly Tag.call.Yields (evaluateCall around method params property) := by
  unfold evaluateCall
  cases around.calls with
  | none => exact .throw _
  | some source =>
    refine .bind fun record => .bind fun answer => ?_
    rw [map_eq_pure_bind]
    exact .bind fun value => .pure (answerVector_isArray property value)

-- No induction is needed: what a node comes to is put together last, of whatever is inside it.
theorem evaluate_yields (around : Surroundings σ) (vector : ParamVector) :
    YieldsOnly vector.tag.Yields (evaluate around vector) := by
  rw [evaluate_eq_evaluateNode]
  cases vector with
  | set values => exact .pure ⟨values, rfl⟩
  | crossProduct items =>
    refine .bind fun vectors => .pure ⟨(product vectors).map Record.merge, ?_⟩
    rw [List.map_map]
    rfl
  | fetchObjects pattern => exact .bind fun objects => .pure ⟨_, rfl⟩
  | map collection iteratee iterateeArgs =>
    exact .bind fun items => .bind fun results => .pure ⟨results, rfl⟩
  | extractProperties pattern value => exact .pure ⟨_, rfl⟩
  | call method params property => exact evaluateCall_yields around method params property

/-! Values that are no vectors. -/

/-- An error that finds fault with a value used as a vector is about a projection, and one of those
that the vector has where a list is wanted. -/
def BlamesProjection (wanted : ParamVector → Prop) (error : ResolveError) : Prop :=
  ∀ tag found, error = .notAVector tag found →
    tag = .extractProperties ∧ found = .object ∧
      ∃ node, wanted node ∧ node.tag = .extractProperties

variable {wanted : ParamVector → Prop}

theorem blamesProjection_of_node {error : ResolveError} (own : error.OfNode) :
    BlamesProjection wanted error := by
  rintro tag found rfl
  exact own.elim

theorem vectorOf_blames {node : ParamVector} (here : wanted node)
    (blames : FailsOnly (BlamesProjection wanted) (evaluate around node)) :
    FailsOnly (BlamesProjection wanted) (vectorOf (evaluate around) node) := by
  apply blames.bind_of_ran
  intro state value later ran
  have yields := evaluate_yields around node state value (by rw [ran])
  by_cases projection : node.tag = .extractProperties
  · rw [projection] at yields
    obtain ⟨fields, rfl⟩ := yields
    apply FailsOnly.throw
    intro tag found same
    cases same
    exact ⟨projection, rfl, node, here, projection⟩
  · obtain ⟨items, rfl⟩ := yields.isArray projection
    exact .pure items

theorem evaluate_blames (vector : ParamVector)
    (inside : ∀ node, WantedInside around vector node → wanted node) :
    FailsOnly (BlamesProjection wanted) (evaluate around vector) :=
  failsOnly_evaluate (fun _ => blamesProjection_of_node) fun node listed =>
    vectorOf_blames (inside node listed)

theorem records_blames (vector : ParamVector)
    (inside : ∀ node, node = vector ∨ WantedInside around vector node → wanted node) :
    FailsOnly (BlamesProjection wanted) (records around (some vector)) := by
  apply failsOnly_records fun _ => blamesProjection_of_node
  apply vectorOf_blames (inside vector (.inl rfl))
  exact evaluate_blames vector fun node listed => inside node (.inr listed)

/-! The records of a product. -/

theorem mapM_asRecord_objects (found : List Record) :
    (found.map Json.object).mapM asRecord = .ok found := by
  induction found with
  | nil => rfl
  | cons record rest ih =>
    rw [List.map_cons, mapM_cons_of_ok _ (show asRecord (.object record) = .ok record from rfl), ih]
    rfl

theorem records_of_product {items : List ParamVector} {state later : σ} {value : Json}
    (ran : (evaluate around (.crossProduct items)).run.run state = (.ok value, later)) :
    ∃ found : List Record, value = .array (found.map .object) ∧
      (records around (some (.crossProduct items))).run.run state = (.ok found, later) := by
  have yields := evaluate_yields around (.crossProduct items) state value (by rw [ran])
  obtain ⟨found, rfl⟩ := yields
  refine ⟨found, rfl, (run_bind_of_ok ran).trans ?_⟩
  rw [asVector, pure_bind, mapM_asRecord_objects]
  rfl

/-- A projection comes to an object and any other vector to an array, of objects if it is a product.
A value is found to be no vector only where a projection stands as an item, as a collection or as the
vector itself, in the vector or in a node that it makes. And the elements of a product are the records
it resolves to. -/
theorem shape_follows_type (around : Surroundings σ) (vector : ParamVector) :
    (∀ state value, ((evaluate around vector).run.run state).1 = .ok value →
      vector.tag.Yields value) ∧
    (∀ state tag found, ((evaluate around vector).run.run state).1 = .error (.notAVector tag found) →
      tag = .extractProperties ∧ found = .object ∧
        ∃ node, WantedInside around vector node ∧ node.tag = .extractProperties) ∧
    (∀ state tag found,
      ((records around (some vector)).run.run state).1 = .error (.notAVector tag found) →
      tag = .extractProperties ∧ found = .object ∧
        ∃ node, (node = vector ∨ WantedInside around vector node) ∧
          node.tag = .extractProperties) ∧
    ∀ state value later, vector.tag = .crossProduct →
      (evaluate around vector).run.run state = (.ok value, later) →
      ∃ found : List Record, value = .array (found.map .object) ∧
        (records around (some vector)).run.run state = (.ok found, later) := by
  refine ⟨evaluate_yields around vector, ?_, ?_, ?_⟩
  · intro state tag found failed
    exact evaluate_blames vector (fun _ => id) state _ failed tag found rfl
  · intro state tag found failed
    exact records_blames vector (fun _ => id) state _ failed tag found rfl
  · intro state value later product ran
    cases vector with
    | crossProduct items => exact records_of_product ran
    | _ => cases product

def strayProjection : ParamVector :=
  .map (.set [.null]) "crossProduct" [("items", .array [.object [("pattern", .object []),
    ("type", .string "extractProperties"), ("value", .object [])]])]

theorem strayProjection_blamed :
    let around : Surroundings Unit := ⟨pure (.ok []), none⟩
    let product := ParamVector.crossProduct [.set [.object [("on", .bool true)], .int 1], .set [.null]]
    let value := Json.array [.object [("on", .bool true)], .object []]
    (((evaluate around strayProjection).run.run ()).1 =
        .error (.notAVector .extractProperties .object) ∧
      ∃ node, WantedInside around strayProjection node ∧ node.tag = .extractProperties) ∧
    ((evaluate around product).run.run () = (.ok value, ()) ∧
      ∃ found : List Record, value = .array (found.map .object) ∧
        (records around (some product)).run.run () = (.ok found, ())) := by
  intro around product value
  obtain ⟨_, blames, _⟩ := shape_follows_type around strayProjection
  obtain ⟨_, _, _, listed⟩ := shape_follows_type around product
  obtain ⟨_, _, stray⟩ := blames () .extractProperties .object rfl
  exact ⟨⟨rfl, stray⟩, rfl, listed () value () rfl rfl⟩

end JobFanout.ParamVector
