import JobFanout.Proofs.IterateeNodes
/-!
Maps whose nodes have no use for the item. Under `value`, where a map puts the item, a set, a product,
a fetch and a map have nothing to read. All nodes that such a map makes are therefore the same, and
without an API they come to the same: of the collection only the number of its items shows.
-/
namespace JobFanout.ParamVector
variable {σ : Type}

/-- The types of nodes that are read from other fields than `value`. -/
def Tag.Structural (tag : Tag) : Prop :=
  tag = .set ∨ tag = .crossProduct ∨ tag = .fetchObjects ∨ tag = .map

def nodeType (iteratee : String) (iterateeArgs : Record) : Json :=
  (Entries.valueAt? "type" iterateeArgs).getD (.string iteratee)

/-- The node that a map makes, but without an item and without a `value` of the arguments. -/
def itemlessNode (iteratee : String) (iterateeArgs : Record) : Json :=
  .object ((sharedFields iteratee iterateeArgs).filter fun entry => entry.1 ≠ "value")

def evaluateJson (around : Surroundings σ) (json : Json) : Evaluation σ Json := do
  evaluate around (← ofExcept .vector (ofJson json))

/-! One node for all items. -/

section Nodes

variable {tag : Tag} {iteratee : String} {iterateeArgs : Record}

theorem type_sharedFields (iteratee : String) (iterateeArgs : Record) :
    Entries.valueAt? "type" (sharedFields iteratee iterateeArgs) =
      some (nodeType iteratee iterateeArgs) := by
  rw [valueAt?_sharedFields, nodeType]
  cases Entries.valueAt? "type" iterateeArgs <;> simp

theorem Tag.Structural.blind (structural : tag.Structural)
    (typed : nodeType iteratee iterateeArgs = .string tag.text) :
    ¬ LooksAtValue (sharedFields iteratee iterateeArgs) := by
  rintro ⟨other, looking, typed'⟩
  rw [type_sharedFields, typed, Option.some.injEq, Json.string.injEq] at typed'
  have same : tag = other :=
    Option.some.inj ((Tag.ofText?_eq_some.mpr rfl).symm.trans (Tag.ofText?_eq_some.mpr typed'))
  subst same
  rcases structural with rfl | rfl | rfl | rfl <;> rcases looking with looking | looking <;>
    cases looking

theorem ofJson_itemlessNode (blind : ¬ LooksAtValue (sharedFields iteratee iterateeArgs))
    (item : Json) :
    ofJson (iterateeNode iteratee iterateeArgs item) =
      ofJson (itemlessNode iteratee iterateeArgs) := by
  apply ofJson_congr
  · intro key plain
    have kept := Entries.valueAt?_filter (fun name => decide (name ≠ "value")) key
      (sharedFields iteratee iterateeArgs)
    rw [← sharedFields, valueAt?_put_sharedFields, if_neg plain.symm, kept]
    simp [plain]
  · exact (looksAtValue_put item).not.mpr blind

end Nodes

/-! The same result for all items. -/

section Alone

variable {around : Surroundings σ} {snapshot : Except String (List Json)} {iteratee : String}
  {iterateeArgs : Record}

theorem mappedAlone_itemless (finds : around.Finds snapshot) (missing : around.calls = none)
    (blind : ¬ LooksAtValue (sharedFields iteratee iterateeArgs)) (state : σ) (item : Json) :
    mappedAlone snapshot iteratee iterateeArgs item =
      ((evaluateJson around (itemlessNode iteratee iterateeArgs)).run.run state).1 := by
  rw [mappedAlone_eq, ofJson_itemlessNode blind, evaluateJson]
  cases ofJson (itemlessNode iteratee iterateeArgs) with
  | error error => rfl
  | ok node => exact (sameOutcome_evaluate finds missing node state).symm

theorem valueAlone_map_of_items {collection : ParamVector} {items : List Json} (collected : valueAlone snapshot collection = .ok (.array items)) :
    valueAlone snapshot (.map collection iteratee iterateeArgs) =
      (items.mapM (mappedAlone snapshot iteratee iterateeArgs)).map .array := by
  have vector : itemsAlone snapshot collection = .ok items := by
    rw [itemsAlone_eq, collected]
    rfl
  rw [valueAlone_map, vector]
  change (items.mapM (mappedAlone snapshot iteratee iterateeArgs) >>= _) = _
  cases items.mapM (mappedAlone snapshot iteratee iterateeArgs) <;> rfl

end Alone

/-- Without an API, and if the objects stay as they are, a map whose nodes are structural comes to as
many copies of what its node comes to without an item as the collection has items, or to the error of
that node; if there are no items the node does not matter. So collections of the same size are mapped
to the same. -/
theorem items_do_not_leak {around : Surroundings σ} {snapshot : Except String (List Json)}
    (finds : around.Finds snapshot) (missing : around.calls = none) {tag : Tag}
    (structural : tag.Structural) {iteratee : String} {iterateeArgs : Record}
    (typed : nodeType iteratee iterateeArgs = .string tag.text) {collection : ParamVector}
    {items : List Json} {state : σ}
    (collected : ((evaluate around collection).run.run state).1 = .ok (.array items)) :
    let once := ((evaluateJson around (itemlessNode iteratee iterateeArgs)).run.run state).1
    let mapped := fun collection => evaluate around (.map collection iteratee iterateeArgs)
    (items = [] → ((mapped collection).run.run state).1 = .ok (.array [])) ∧
    (∀ value, once = .ok value →
      ((mapped collection).run.run state).1 = .ok (.array (List.replicate items.length value))) ∧
    (items ≠ [] → ∀ error, once = .error error →
      ((mapped collection).run.run state).1 = .error error) ∧
    ∀ collection' items', ((evaluate around collection').run.run state).1 = .ok (.array items') →
      items'.length = items.length →
      ((mapped collection').run.run state).1 = ((mapped collection).run.run state).1 := by
  intro once mapped
  have each : ∀ item, mappedAlone snapshot iteratee iterateeArgs item = once :=
    mappedAlone_itemless finds missing (structural.blind typed) state
  have value : ∀ vector, ((evaluate around vector).run.run state).1 = valueAlone snapshot vector :=
    fun vector => sameOutcome_evaluate finds missing vector state
  simp only [mapped, value] at collected ⊢
  rw [valueAlone_map_of_items collected, mapM_same each]
  refine ⟨?_, ?_, ?_, ?_⟩
  · rintro rfl
    rfl
  · intro value fine
    rw [fine]
    cases items <;> rfl
  · intro nonempty error failed
    rw [failed, if_neg (List.length_eq_zero_iff.not.mpr nonempty)]
    rfl
  · intro collection' items' collected' sameLength
    rw [valueAlone_map_of_items collected', mapM_same each, sameLength]

theorem overriddenCall_copies :
    let args := [("type", Json.string "set"), ("value", .string "unused"),
      ("values", .array [.object [("on", .bool true)]])]
    let around : Surroundings Unit := ⟨pure (.error "no fleet"), none⟩
    let items := [Json.int 1, .object [("values", .null)]]
    let copy := Json.array [.object [("on", .bool true)]]
    (around.Finds (.error "no fleet") ∧ around.calls = none ∧ Tag.set.Structural ∧ nodeType "call" args = .string Tag.set.text ∧
      ((evaluate around (.set items)).run.run ()).1 = .ok (.array items)) ∧
    ((evaluate around (.map (.set items) "call" args)).run.run ()).1 = .ok (.array [copy, copy]) := by
  intro args around items copy
  have structural : Tag.set.Structural := .inl rfl
  have typed : nodeType "call" args = .string Tag.set.text := rfl
  have collected : ((evaluate around (.set items)).run.run ()).1 = .ok (.array items) := rfl
  have finds : around.Finds (.error "no fleet") := fun _ => rfl
  have missing : around.calls = none := rfl
  obtain ⟨_, copies, _⟩ := items_do_not_leak finds missing structural typed collected
  exact ⟨⟨finds, missing, structural, typed, collected⟩, copies copy rfl⟩

end JobFanout.ParamVector
