import JobFanout.Proofs.VectorGrammar
/-!
Vectors as JSON: what is written for a vector, and what may stand in a value beside that. A node is
read from the fields that its type names and from no others, so without the others a value is read
as before, and every vector is read back from what is written for it.
-/
namespace JobFanout.ParamVector

/-! Fields that no node is read from. -/

/-- Where the fields stand that a value is read as a node from, as far as its type is known. -/
def namesRead (tag : Option Tag) : List String := "type" :: (tag.map Tag.fieldNames).getD []

mutual

/-- A value without the fields that the nodes in it are not read from. -/
def stripped : Json → Json
  | .object fields => .object (strippedFields (namesRead (tag? (.object fields))) fields)
  | other => other

def strippedItems : List Json → List Json
  | [] => []
  | item :: rest => stripped item :: strippedItems rest

def strippedFields (names : List String) : List (String × Json) → List (String × Json)
  | [] => []
  | (key, value) :: rest =>
    if key ∈ names then
      (key,
        if key = "items" then
          match value with
          | .array items => .array (strippedItems items)
          | other => other
        else if key = "collection" then stripped value
        else value) :: strippedFields names rest
    else strippedFields names rest

end

def strippedUnder (key : String) (value : Json) : Json :=
  if key = "items" then
    match value with
    | .array items => .array (strippedItems items)
    | other => other
  else if key = "collection" then stripped value
  else value

theorem strippedItems_eq_map (items : List Json) : strippedItems items = items.map stripped := by
  induction items with
  | nil => rfl
  | cons item rest ih => rw [strippedItems, ih, List.map_cons]

theorem strippedFields_cons (names : List String) (key : String) (value : Json)
    (rest : List (String × Json)) :
    strippedFields names ((key, value) :: rest) =
      if key ∈ names then (key, strippedUnder key value) :: strippedFields names rest
      else strippedFields names rest := by
  rw [strippedFields.eq_def]
  rfl

theorem valueAt?_strippedFields (names : List String) (key : String) (fields : Record) :
    Entries.valueAt? key (strippedFields names fields) =
      if key ∈ names then (Entries.valueAt? key fields).map (strippedUnder key) else none := by
  induction fields with
  | nil => simp [strippedFields]
  | cons entry rest ih =>
    obtain ⟨other, value⟩ := entry
    rw [strippedFields_cons, Entries.valueAt?_cons_or]
    by_cases same : other = key
    · subst same
      by_cases kept : other ∈ names
      · rw [if_pos kept, Entries.valueAt?_cons_or, ih, if_pos kept, if_pos kept]
        cases Entries.valueAt? other rest <;> simp
      · rw [if_neg kept, ih, if_neg kept, if_neg kept]
    · by_cases kept : other ∈ names
      · rw [if_pos kept, Entries.valueAt?_cons_or, ih]
        simp [same]
      · rw [if_neg kept, ih]
        simp [same]

section Stripped

variable {fields : Record} {tag : Tag}

theorem mem_namesRead (typed : Entries.valueAt? "type" fields = some (.string tag.text))
    {name : String} (listed : name ∈ tag.fieldNames) :
    name ∈ namesRead (tag? (.object fields)) := by
  rw [tag?_eq_some.mpr typed]
  exact List.mem_cons_of_mem _ listed

theorem valueAt?_stripped {name : String} (listed : name ∈ namesRead (tag? (.object fields))) :
    Entries.valueAt? name (strippedFields (namesRead (tag? (.object fields))) fields) =
      (Entries.valueAt? name fields).map (strippedUnder name) := by
  rw [valueAt?_strippedFields, if_pos listed]

theorem valueAt?_type_stripped :
    Entries.valueAt? "type" (strippedFields (namesRead (tag? (.object fields))) fields) =
      Entries.valueAt? "type" fields :=
  (valueAt?_stripped List.mem_cons_self).trans Option.map_id_apply

theorem builder_stripped (typed : Entries.valueAt? "type" fields = some (.string tag.text)) :
    builder (strippedFields (namesRead (tag? (.object fields))) fields) tag =
      builder fields tag := by
  have plain : ∀ name ∈ tag.fieldNames, name ≠ "items" → name ≠ "collection" →
      Entries.valueAt? name (strippedFields (namesRead (tag? (.object fields))) fields) =
        Entries.valueAt? name fields := by
    intro name listed noItems noCollection
    have same : strippedUnder name = id := by
      funext value
      unfold strippedUnder
      rw [if_neg noItems, if_neg noCollection]
      rfl
    rw [valueAt?_stripped (mem_namesRead typed listed), same, Option.map_id_apply]
  cases tag with
  | crossProduct =>
    rw [builder, builder, readItems, readItems, Json.readField, Json.readField,
      valueAt?_stripped (mem_namesRead typed (by decide))]
    cases Entries.valueAt? "items" fields with
    | none => rfl
    | some value => cases value <;> rfl
  | map =>
    have iteratee := plain "iteratee" (by decide) (by decide) (by decide)
    have iterateeArgs := plain "iterateeArgs" (by decide) (by decide) (by decide)
    rw [builder, builder, readMapFields, readMapFields, Json.readField_readAny,
      Json.readField_readAny, Json.readField_congr iteratee, Json.readField_congr iterateeArgs,
      valueAt?_stripped (mem_namesRead typed (by decide))]
    cases Json.readField fields "iteratee" Json.readText with
    | error misfit => rfl
    | ok iteratee =>
      cases Json.readField fields "iterateeArgs" Json.readMap with
      | error misfit => rfl
      | ok iterateeArgs =>
        cases iteratee <;> cases Entries.valueAt? "collection" fields <;> rfl
  | _ =>
    apply builder_congr
    intro name listed
    apply plain name listed <;> rintro rfl <;> simp [Tag.fieldNames] at listed

theorem innerNodes_stripped (typed : Entries.valueAt? "type" fields = some (.string tag.text)) :
    innerNodes (stripped (.object fields)) = (innerNodes (.object fields)).map stripped := by
  rw [stripped, innerNodes_of_typed typed, innerNodes_of_typed (valueAt?_type_stripped.trans typed)]
  cases tag with
  | crossProduct =>
    rw [Tag.innerNodes, Tag.innerNodes, valueAt?_stripped (mem_namesRead typed (by decide))]
    cases Entries.valueAt? "items" fields with
    | none => rfl
    | some value =>
      cases value with
      | array items => exact strippedItems_eq_map items
      | _ => rfl
  | map =>
    rw [Tag.innerNodes, Tag.innerNodes, valueAt?_stripped (mem_namesRead typed (by decide))]
    cases Entries.valueAt? "collection" fields <;> rfl
  | _ => rfl

end Stripped

theorem ofJson_stripped (json : Json) : ofJson (stripped json) = ofJson json := by
  induction json using nodes.induct with
  | _ json ih =>
    cases json with
    | object fields =>
      cases known : tag? (.object fields) with
      | some tag =>
        have typed := tag?_eq_some.mp known
        have inner : (innerNodes (.object fields)).mapM (ofJson ∘ stripped) =
            (innerNodes (.object fields)).mapM ofJson :=
          mapM_congr fun node listed => ih ⟨node, listed⟩
        rw [ofJson_of_typed typed, ← inner, ← List.mapM_map, ← innerNodes_stripped typed]
        rw [stripped, ofJson_of_typed (valueAt?_type_stripped.trans typed), builder_stripped typed]
      | none =>
        have unknown : tag? (stripped (.object fields)) = none := by
          rw [← known, stripped, tag?, Json.field?, valueAt?_type_stripped]
          rfl
        rw [ofJson_of_untagged known, stripped, ofJson_of_untagged unknown, tagText, tagText,
          valueAt?_type_stripped]
    | _ => rfl

/-! Vectors written as JSON. -/

mutual

/-- The keys are ascending. A call writes no property if it has none. -/
def toJson : ParamVector → Json
  | .set values => .object [("type", .string Tag.set.text), ("values", .array values)]
  | .crossProduct items =>
    .object [("items", .array (listToJson items)), ("type", .string Tag.crossProduct.text)]
  | .fetchObjects pattern =>
    .object [("pattern", .object pattern), ("type", .string Tag.fetchObjects.text)]
  | .map collection iteratee iterateeArgs =>
    .object [("collection", collection.toJson), ("iteratee", .string iteratee),
      ("iterateeArgs", .object iterateeArgs), ("type", .string Tag.map.text)]
  | .extractProperties pattern value =>
    .object [("pattern", .object (pattern.map fun entry => (entry.1, .string entry.2))),
      ("type", .string Tag.extractProperties.text), ("value", .object value)]
  | .call method params property =>
    .object ([("method", .string method), ("params", params)] ++
      Json.optionalField "property" Json.string property ++
      [("type", .string Tag.call.text)])

def listToJson : List ParamVector → List Json
  | [] => []
  | item :: rest => item.toJson :: listToJson rest

end

mutual

/-- Every record in the vector has its keys ascending. -/
def WellFormed : ParamVector → Prop
  | .set values => (Json.array values).WellFormed
  | .crossProduct items => ListWellFormed items
  | .fetchObjects pattern => (Json.object pattern).WellFormed
  | .map collection _ iterateeArgs =>
    collection.WellFormed ∧ (Json.object iterateeArgs).WellFormed
  | .extractProperties pattern value =>
    Entries.Ascending pattern ∧ (Json.object value).WellFormed
  | .call _ params _ => params.WellFormed

def ListWellFormed : List ParamVector → Prop
  | [] => True
  | item :: rest => item.WellFormed ∧ ListWellFormed rest

end

theorem readProjection_written (pattern : Entries String) (value : Record) :
    readProjection
      [("pattern", .object (pattern.map fun entry => (entry.1, .string entry.2))),
        ("type", .string Tag.extractProperties.text), ("value", .object value)] =
      .ok (.extractProperties pattern value) := by
  rw [readProjection, Json.readField_present rfl (Json.readMapOf_texts pattern)]
  rfl

mutual

theorem ofJson_toJson : (tree : ParamVector) → ofJson tree.toJson = .ok tree
  | .set values => rfl
  | .crossProduct items => by
    rw [toJson, @ofJson_of_typed _ .crossProduct rfl]
    change ((listToJson items).mapM ofJson >>= _) = _
    rw [mapM_listToJson items]
    rfl
  | .fetchObjects pattern => rfl
  | .map collection iteratee iterateeArgs => by
    rw [toJson, @ofJson_of_typed _ .map rfl]
    change ([collection.toJson].mapM ofJson >>= _) = _
    rw [mapM_cons_of_ok [] (ofJson_toJson collection)]
    rfl
  | .extractProperties pattern value => by
    rw [toJson, @ofJson_of_typed _ .extractProperties rfl, builder, readProjection_written]
    rfl
  | .call method params property => by cases property <;> rfl

theorem mapM_listToJson : (items : List ParamVector) → (listToJson items).mapM ofJson = .ok items
  | [] => rfl
  | item :: rest => by
    rw [listToJson, mapM_cons_of_ok _ (ofJson_toJson item), mapM_listToJson rest]
    rfl

end

theorem fieldsWellFormed_iff {fields : Record} :
    Json.FieldsWellFormed fields ↔ ∀ entry ∈ fields, entry.2.WellFormed := by
  induction fields with
  | nil => simp [Json.FieldsWellFormed]
  | cons entry rest ih => simp [Json.FieldsWellFormed, ih]

theorem wellFormed_object {fields : Record} (names : List String)
    (named : Entries.keys fields = names) (ascending : names.Pairwise (· < ·)) :
    (Json.object fields).WellFormed ↔ ∀ entry ∈ fields, entry.2.WellFormed := by
  subst named
  rw [Json.WellFormed, fieldsWellFormed_iff]
  exact and_iff_right ascending

theorem wellFormed_texts {pattern : Entries String} :
    (Json.object (pattern.map fun entry => (entry.1, .string entry.2))).WellFormed ↔
      Entries.Ascending pattern := by
  have texts : ∀ entry ∈ pattern.map fun entry => (entry.1, Json.string entry.2),
      entry.2.WellFormed := by
    intro entry listed
    obtain ⟨source, _, rfl⟩ := List.mem_map.mp listed
    trivial
  rw [Json.WellFormed, fieldsWellFormed_iff, Entries.Ascending, Entries.keys_map]
  exact and_iff_left texts

mutual

theorem wellFormed_toJson : (tree : ParamVector) → (tree.toJson.WellFormed ↔ tree.WellFormed)
  | .set values => by
    rw [toJson, wellFormed_object ["type", "values"] rfl (by decide)]
    simp [WellFormed, Json.WellFormed]
  | .crossProduct items => by
    rw [toJson, wellFormed_object ["items", "type"] rfl (by decide)]
    simp [WellFormed, Json.WellFormed, listWellFormed_toJson items]
  | .fetchObjects pattern => by
    rw [toJson, wellFormed_object ["pattern", "type"] rfl (by decide)]
    simp [WellFormed, Json.WellFormed]
  | .map collection iteratee iterateeArgs => by
    rw [toJson,
      wellFormed_object ["collection", "iteratee", "iterateeArgs", "type"] rfl (by decide)]
    simp [WellFormed, Json.WellFormed, wellFormed_toJson collection]
  | .extractProperties pattern value => by
    rw [toJson, wellFormed_object ["pattern", "type", "value"] rfl (by decide)]
    simp only [List.forall_mem_cons, wellFormed_texts]
    simp [WellFormed, Json.WellFormed]
  | .call method params none => by
    rw [toJson, wellFormed_object ["method", "params", "type"] rfl (by decide)]
    simp [WellFormed, Json.optionalField, Json.WellFormed]
  | .call method params (some property) => by
    rw [toJson, wellFormed_object ["method", "params", "property", "type"] rfl (by decide)]
    simp [WellFormed, Json.optionalField, Json.WellFormed]

theorem listWellFormed_toJson : (items : List ParamVector) →
    (Json.ItemsWellFormed (listToJson items) ↔ ListWellFormed items)
  | [] => Iff.rfl
  | item :: rest => and_congr (wellFormed_toJson item) (listWellFormed_toJson rest)

end

/-- A value is read as a vector if and only if every node in it is well formed, and otherwise the
error is that of the first node that is not, where a node comes before those inside it. Fields that
the types of the nodes do not name make no difference. Each vector is read from what is written for
it, which has its keys ascending if the records in the vector have. -/
theorem vectors_follow_grammar :
    (∀ json,
      ((∃ tree, ofJson json = .ok tree) ↔ ∀ node ∈ nodes json, WellFormedNode node) ∧
      (∀ error, ofJson json = .error error →
        ∃ earlier node later, nodes json = earlier ++ node :: later ∧
          (∀ other ∈ earlier, WellFormedNode other) ∧ ¬ WellFormedNode node ∧
          NodeFault node error ∧ ofJson node = .error error) ∧
      ofJson (stripped json) = ofJson json) ∧
    ∀ tree : ParamVector,
      ofJson tree.toJson = .ok tree ∧ (tree.toJson.WellFormed ↔ tree.WellFormed) := by
  refine ⟨fun json => ⟨ofJson_succeeds_iff json, ?_, ofJson_stripped json⟩,
    fun tree => ⟨ofJson_toJson tree, wellFormed_toJson tree⟩⟩
  intro error failed
  obtain ⟨earlier, node, later, order, fine, nodeFailed, fault⟩ := first_nodeFault failed
  exact ⟨earlier, node, later, order, fine, fault.not_wellFormed, fault, nodeFailed⟩

def faultyItems : List Json :=
  [.object [("collection", .object [("type", .string "queue")]), ("iteratee", .string "call"),
      ("type", .string "map")],
    .object [("type", .string "set")]]

theorem faultyItems_first_fault :
    let json := Json.object [("items", .array faultyItems), ("note", .string "draft"),
      ("type", .string "crossProduct")]
    ofJson json = .error (.unsupportedType "queue") ∧
      (¬ ∀ node ∈ nodes json, WellFormedNode node) ∧
      (∃ earlier node later, nodes json = earlier ++ node :: later ∧
        (∀ other ∈ earlier, WellFormedNode other) ∧ ¬ WellFormedNode node ∧
        NodeFault node (.unsupportedType "queue") ∧
        ofJson node = .error (.unsupportedType "queue")) ∧
      ofJson (stripped json) = .error (.unsupportedType "queue") := by
  intro json
  have failed : ofJson json = .error (.unsupportedType "queue") := rfl
  obtain ⟨accepted, fault, kept⟩ := vectors_follow_grammar.1 json
  refine ⟨failed, ?_, fault _ failed, kept.trans failed⟩
  rw [← accepted, failed]
  rintro ⟨tree, ⟨⟩⟩

end JobFanout.ParamVector
