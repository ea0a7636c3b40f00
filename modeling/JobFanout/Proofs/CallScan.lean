import JobFanout.Proofs.EvaluationRelations
import JobFanout.Proofs.KeyedEntries
import JobFanout.Proofs.VectorReading
/-!
What the scan for call nodes covers and what it leaves out. A vector without a call in sight can
still come to one through a map whose arguments, completed by an item, make a call node: by a `type`
of their own, which overrides the iteratee, or as the arguments of a map that only evaluation reads
and that maps over `call`.
-/
namespace JobFanout.ParamVector

mutual

/-- Whether a call node stands in a vector or in its unread arguments, iteratees aside. -/
def callInSight : ParamVector → Bool
  | .call _ _ _ => true
  | .crossProduct items => someCallInSight items
  | .map collection _ iterateeArgs => collection.callInSight || fieldsNameCall iterateeArgs
  | _ => false

def someCallInSight : List ParamVector → Bool
  | [] => false
  | item :: rest => item.callInSight || someCallInSight rest

end

/-- For some item the node of the iteratee is a call. -/
def CallsItems (iteratee : String) (iterateeArgs : Record) : Prop :=
  ∃ item method params property,
    ofJson (iterateeNode iteratee iterateeArgs item) = .ok (.call method params property)

/-- Evaluation may come to a map that makes a call of an item. -/
def HidesCall (vector : ParamVector) : Prop :=
  ∃ collection iteratee iterateeArgs,
    Reaches vector (.map collection iteratee iterateeArgs) ∧ CallsItems iteratee iterateeArgs

/-- The node is part of one that only evaluation reads, for an item of a map. -/
def ReadLate (vector node : ParamVector) : Prop :=
  ∃ collection iteratee iterateeArgs item inner,
    Reaches vector (.map collection iteratee iterateeArgs) ∧
    ofJson (iterateeNode iteratee iterateeArgs item) = .ok inner ∧ Reaches inner node

/-! What the scan of unread arguments covers. -/

theorem someCallInSight_eq_false {items : List ParamVector} :
    someCallInSight items = false ↔ ∀ node ∈ items, node.callInSight = false := by
  induction items with
  | nil => simp [someCallInSight]
  | cons item rest ih => simp [someCallInSight, ih]

theorem itemsNameCall_eq_false {items : List Json} :
    itemsNameCall items = false ↔ ∀ item ∈ items, namesCall item = false := by
  induction items with
  | nil => simp [itemsNameCall]
  | cons item rest ih => simp [itemsNameCall, ih]

theorem fieldsNameCall_eq_false {fields : Record} :
    fieldsNameCall fields = false ↔ ∀ entry ∈ fields, namesCall entry.2 = false := by
  induction fields with
  | nil => simp [fieldsNameCall]
  | cons entry rest ih => simp [fieldsNameCall, ih]

theorem namesCall_of_valueAt? {fields : Record} {key : String} {value : Json}
    (unnamed : fieldsNameCall fields = false) (found : Entries.valueAt? key fields = some value) :
    namesCall value = false :=
  fieldsNameCall_eq_false.mp unnamed (key, value) (Entries.mem_of_valueAt? found)

theorem depth_of_field {fields : Record} {entry : String × Json} (listed : entry ∈ fields) :
    entry.2.depth ≤ Json.fieldsDepth fields := by
  induction fields with
  | nil => simp at listed
  | cons first rest ih =>
    rcases List.mem_cons.mp listed with rfl | later
    · exact le_max_left ..
    · exact le_max_of_le_right (ih later)

theorem depth_of_valueAt? {fields : Record} {key : String} {value : Json}
    (found : Entries.valueAt? key fields = some value) : value.depth ≤ Json.fieldsDepth fields :=
  depth_of_field (Entries.mem_of_valueAt? found)

theorem depth_of_mem {items : List Json} {item : Json} (listed : item ∈ items) :
    item.depth ≤ Json.itemsDepth items := by
  induction items with
  | nil => simp at listed
  | cons first rest ih =>
    rcases List.mem_cons.mp listed with rfl | later
    · exact le_max_left ..
    · exact le_max_of_le_right (ih later)

theorem ofJsonList_eq_ok {sources : List Json} {nodes : List ParamVector}
    (read : ofJsonList sources = .ok nodes) :
    ∀ node ∈ nodes, ∃ source ∈ sources, ofJson source = .ok node := by
  induction sources generalizing nodes with
  | nil =>
    cases read
    simp
  | cons source rest ih =>
    obtain ⟨first, firstRead, read⟩ := bind_eq_ok.mp read
    obtain ⟨others, othersRead, read⟩ := bind_eq_ok.mp read
    cases read
    intro node listed
    rcases List.mem_cons.mp listed with rfl | later
    · exact ⟨source, List.mem_cons_self, firstRead⟩
    · obtain ⟨other, present, otherRead⟩ := ih othersRead node later
      exact ⟨other, List.mem_cons_of_mem source present, otherRead⟩

theorem callInSight_of_fields {fields : Record} {node : ParamVector}
    (read : ofJson (.object fields) = .ok node)
    (items : ∀ sources, Entries.valueAt? "items" fields = some (.array sources) →
      ∀ source ∈ sources, ∀ inner, ofJson source = .ok inner → inner.callInSight = false)
    (collection : ∀ source, Entries.valueAt? "collection" fields = some source →
      ∀ inner, ofJson source = .ok inner → inner.callInSight = false)
    (arguments : ∀ iterateeArgs,
      Entries.valueAt? "iterateeArgs" fields = some (.object iterateeArgs) →
      fieldsNameCall iterateeArgs = false) :
    node.callInSight = false ∨ node.tag = .call := by
  cases node with
  | set values => exact .inl rfl
  | fetchObjects pattern => exact .inl rfl
  | extractProperties pattern value => exact .inl rfl
  | call method params property => exact .inr rfl
  | crossProduct nodes =>
    obtain ⟨sources, found, nodesRead⟩ := crossProduct_of_ofJson read
    refine .inl (someCallInSight_eq_false.mpr fun inner listed => ?_)
    obtain ⟨source, present, innerRead⟩ := ofJsonList_eq_ok nodesRead inner listed
    exact items sources found source present inner innerRead
  | map inner iteratee iterateeArgs =>
    obtain ⟨source, found, innerRead, _, given⟩ := map_of_ofJson read
    have unnamed : fieldsNameCall iterateeArgs = false := by
      rcases given with ⟨_, rfl⟩ | present
      · rfl
      · exact arguments iterateeArgs present
    refine .inl ?_
    rw [callInSight, collection source found inner innerRead, unnamed]
    rfl

-- The nodes inside a node stand deeper in the JSON than the node, so the induction is on its depth.
theorem callInSight_of_ofJson {json : Json} {node : ParamVector}
    (unnamed : namesCall json = false) (read : ofJson json = .ok node) :
    node.callInSight = false := by
  induction depth : json.depth using Nat.strong_induction_on generalizing json node with
  | _ depth ih =>
    cases json with
    | object fields =>
      subst depth
      rw [namesCall, Bool.or_eq_false_iff] at unnamed
      obtain ⟨untyped, unnamed⟩ := unnamed
      rw [Json.depth] at ih
      have inSight := callInSight_of_fields read ?_ ?_ ?_
      -- A node of type `call` would have been named.
      · apply inSight.resolve_right
        intro called
        rw [← isCallNode_of_ofJson read, untyped] at called
        cases called
      · intro sources found source listed inner innerRead
        have listUnnamed := namesCall_of_valueAt? unnamed found
        have deeper := depth_of_valueAt? found
        rw [Json.depth] at deeper
        have below := depth_of_mem listed
        exact ih source.depth (by omega) (itemsNameCall_eq_false.mp listUnnamed source listed)
          innerRead rfl
      · intro source found inner innerRead
        exact ih source.depth (Nat.lt_succ_of_le (depth_of_valueAt? found))
          (namesCall_of_valueAt? unnamed found) innerRead rfl
      · intro iterateeArgs found
        have argumentsUnnamed := namesCall_of_valueAt? unnamed found
        rw [namesCall, Bool.or_eq_false_iff] at argumentsUnnamed
        exact argumentsUnnamed.2
    | _ => simp [ofJson] at read

/-! What evaluation makes of a vector with no call in sight. -/

theorem valueAt?_iterateeNode {key : String} (iteratee : String) (iterateeArgs : Record)
    (item : Json) (plain : key ≠ "value") :
    Entries.valueAt? key
      (Entries.put "value" item (Entries.putAll iterateeArgs [("type", .string iteratee)])) =
      (Entries.valueAt? key iterateeArgs).or
        (Entries.valueAt? key [("type", .string iteratee)]) := by
  have single : Entries.Ascending [("type", Json.string iteratee)] := by
    simp [Entries.Ascending, Entries.keys]
  rw [Entries.valueAt?_put (Entries.ascending_putAll single _), if_neg plain.symm,
    Entries.valueAt?_putAll single]

theorem callInSight_of_generates {vector node : ParamVector} (generated : Generates vector node)
    (unseen : vector.callInSight = false) : node.callInSight = false ∨
      ∃ collection iteratee iterateeArgs item,
        vector = .map collection iteratee iterateeArgs ∧
        ofJson (iterateeNode iteratee iterateeArgs item) = .ok node ∧ node.tag = .call := by
  cases generated with
  | item listed =>
    rw [callInSight, someCallInSight_eq_false] at unseen
    exact .inl (unseen node listed)
  | collection collection iteratee iterateeArgs =>
    rw [callInSight, Bool.or_eq_false_iff] at unseen
    exact .inl unseen.1
  | @iteratee collection node iteratee iterateeArgs item read =>
    rw [callInSight, Bool.or_eq_false_iff] at unseen
    -- Apart from its type and its item, all that the node holds was in the scanned arguments.
    have unnamed : ∀ {key value}, key ≠ "value" → key ≠ "type" →
        Entries.valueAt? key (Entries.put "value" item
          (Entries.putAll iterateeArgs [("type", .string iteratee)])) = some value →
        namesCall value = false := by
      intro key value plain untyped found
      rw [valueAt?_iterateeNode iteratee iterateeArgs item plain] at found
      exact namesCall_of_valueAt? unseen.2 (by simpa [Entries.valueAt?, untyped.symm] using found)
    have inSight := callInSight_of_fields read ?_ ?_ ?_
    · exact inSight.imp_right fun called =>
        ⟨collection, iteratee, iterateeArgs, item, rfl, read, called⟩
    · intro sources found source listed inner innerRead
      have listUnnamed := unnamed (by decide) (by decide) found
      exact callInSight_of_ofJson (itemsNameCall_eq_false.mp listUnnamed source listed) innerRead
    · intro source found inner innerRead
      exact callInSight_of_ofJson (unnamed (by decide) (by decide) found) innerRead
    · intro nested found
      have argumentsUnnamed := unnamed (by decide) (by decide) found
      rw [namesCall, Bool.or_eq_false_iff] at argumentsUnnamed
      exact argumentsUnnamed.2

-- The first call on the way was not in sight before, so a map has just made it of an item.
theorem hidesCall_of_reaches {vector : ParamVector} {method : String} {params : Json}
    {property : Option String} (unseen : vector.callInSight = false)
    (reached : Reaches vector (.call method params property)) : HidesCall vector := by
  induction reached using Relation.ReflTransGen.head_induction_on with
  | refl => simp [callInSight] at unseen
  | @head vector node generated reached ih =>
    rcases callInSight_of_generates generated unseen with
      unseen | ⟨collection, iteratee, iterateeArgs, item, rfl, read, called⟩
    · obtain ⟨collection, iteratee, iterateeArgs, below, calls⟩ := ih unseen
      exact ⟨collection, iteratee, iterateeArgs, .head generated below, calls⟩
    · cases node <;> cases called
      exact ⟨collection, iteratee, iterateeArgs, .refl, item, _, _, _, read⟩

mutual

theorem callInSight_of_containsCall : {vector : ParamVector} → vector.containsCall = false →
    vector.callInSight = false
  | .set _, _ | .fetchObjects _, _ | .extractProperties _ _, _ => rfl
  | .call _ _ _, unseen => unseen
  | .crossProduct _, unseen => someCallInSight_of_someContainsCall unseen
  | .map collection iteratee iterateeArgs, unseen => by
    rw [containsCall, Bool.or_eq_false_iff, Bool.or_eq_false_iff] at unseen
    rw [callInSight, callInSight_of_containsCall unseen.1.2, unseen.2]
    rfl

theorem someCallInSight_of_someContainsCall : {items : List ParamVector} →
    someContainsCall items = false → someCallInSight items = false
  | [], _ => rfl
  | item :: rest, unseen => by
    rw [someContainsCall, Bool.or_eq_false_iff] at unseen
    rw [someCallInSight, callInSight_of_containsCall unseen.1,
      someCallInSight_of_someContainsCall unseen.2]
    rfl

end

theorem unreached_of_not_hidesCall {vector : ParamVector} (unseen : vector.containsCall = false)
    (plain : ¬ HidesCall vector) (method : String) (params : Json) (property : Option String) :
    ¬ Reaches vector (.call method params property) := fun reached =>
  plain (hidesCall_of_reaches (callInSight_of_containsCall unseen) reached)

/-! Where calls hide. -/

variable {vector : ParamVector}

theorem someContainsCall_eq_false {items : List ParamVector} :
    someContainsCall items = false ↔ ∀ node ∈ items, node.containsCall = false := by
  induction items with
  | nil => simp [someContainsCall]
  | cons item rest ih => simp [someContainsCall, ih]

theorem ReadLate.head {middle node : ParamVector} (generated : Generates vector middle)
    (late : ReadLate middle node) : ReadLate vector node := by
  obtain ⟨collection, iteratee, iterateeArgs, item, inner, below, read, onward⟩ := late
  exact ⟨collection, iteratee, iterateeArgs, item, inner, .head generated below, read, onward⟩

theorem unseen_or_readLate {node : ParamVector} (unseen : vector.containsCall = false)
    (reached : Reaches vector node) : node.containsCall = false ∨ ReadLate vector node := by
  induction reached using Relation.ReflTransGen.head_induction_on with
  | refl => exact .inl unseen
  | @head vector middle generated reached ih =>
    cases generated with
    | item listed =>
      rw [containsCall, someContainsCall_eq_false] at unseen
      exact (ih (unseen middle listed)).imp_right (.head (.item listed))
    | collection collection iteratee iterateeArgs =>
      rw [containsCall, Bool.or_eq_false_iff, Bool.or_eq_false_iff] at unseen
      exact (ih unseen.1.2).imp_right (.head (.collection ..))
    | @iteratee collection _ iteratee iterateeArgs item read =>
      exact .inr ⟨collection, iteratee, iterateeArgs, item, middle, .refl, read, reached⟩

theorem type_of_callsItems {iteratee : String} {iterateeArgs : Record}
    (calls : CallsItems iteratee iterateeArgs) :
    Entries.valueAt? "type" iterateeArgs = some (.string Tag.call.text) ∨
      iteratee = Tag.call.text := by
  obtain ⟨item, method, params, property, read⟩ := calls
  have typed := type_of_ofJson read
  rw [valueAt?_iterateeNode iteratee iterateeArgs item (by decide)] at typed
  cases given : Entries.valueAt? "type" iterateeArgs with
  | some value =>
    rw [given] at typed
    exact .inl typed
  | none =>
    rw [given] at typed
    simp only [Entries.valueAt?, if_true, Option.none_or, Option.some.injEq,
      Json.string.injEq] at typed
    exact .inr typed

/-- A call hides behind a `type` among the arguments, or in a map that only evaluation reads. -/
theorem origin_of_hidden_call {collection : ParamVector} {iteratee : String}
    {iterateeArgs : Record} (unseen : vector.containsCall = false)
    (reached : Reaches vector (.map collection iteratee iterateeArgs))
    (calls : CallsItems iteratee iterateeArgs) :
    Entries.valueAt? "type" iterateeArgs = some (.string Tag.call.text) ∨
      iteratee = Tag.call.text ∧ ReadLate vector (.map collection iteratee iterateeArgs) := by
  refine (type_of_callsItems calls).imp_right fun named => ⟨named, ?_⟩
  apply (unseen_or_readLate unseen reached).resolve_left
  intro seen
  simp [containsCall, named] at seen

end JobFanout.ParamVector
