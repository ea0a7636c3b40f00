import JobFanout.Proofs.CallScan
import JobFanout.Proofs.ListsInTurn
/-!
The grammar of parameter vectors. A value is read as a vector if it and every node inside it has the
fields that its type asks for; if not, what is reported is the fault of the first node that lacks
them, where each node comes before those inside it.
-/
namespace JobFanout.ParamVector

/-! Nodes, apart from those inside them. -/

/-- The fields that a node of each type must have, may have and may not have together. -/
def Tag.Fits (fields : Record) : Tag → Prop
  | .set => ∃ values, Entries.valueAt? "values" fields = some (.array values)
  | .crossProduct => ∃ items, Entries.valueAt? "items" fields = some (.array items)
  | .fetchObjects =>
    ∀ given, Entries.valueAt? "pattern" fields = some given → ∃ pattern, given = .object pattern
  | .map =>
    (∃ collection, Entries.valueAt? "collection" fields = some collection) ∧
    (∃ iteratee, Entries.valueAt? "iteratee" fields = some (.string iteratee)) ∧
    ∀ given, Entries.valueAt? "iterateeArgs" fields = some given →
      ∃ arguments, given = .object arguments
  | .extractProperties =>
    (∃ pattern, Entries.valueAt? "pattern" fields = some (.object pattern) ∧
      ∀ entry ∈ pattern, ∃ source, entry.2 = .string source) ∧
    ∃ value, Entries.valueAt? "value" fields = some (.object value)
  | .call =>
    (∃ method, Entries.valueAt? "method" fields = some (.string method)) ∧
    (Entries.valueAt? "params" fields = none ∨ Entries.valueAt? "value" fields = none) ∧
    ∀ given, Entries.valueAt? "property" fields = some given →
      given = .null ∨ ∃ property, given = .string property

/-- The value is an object of a known type with the fields that the type asks for. -/
def WellFormedNode (json : Json) : Prop :=
  ∃ (fields : Record) (tag : Tag), json = .object fields ∧
    Entries.valueAt? "type" fields = some (.string tag.text) ∧ tag.Fits fields

/-- What is wrong with a value that is no well-formed node. -/
inductive NodeFault : Json → VectorError → Prop where
  | untyped {json : Json} (absent : ∀ text, json.field? "type" ≠ some (.string text)) :
      NodeFault json .missingType
  | unknown {json : Json} {name : String} (typed : json.field? "type" = some (.string name))
      (other : ∀ tag : Tag, name ≠ tag.text) : NodeFault json (.unsupportedType name)
  | unfit {json : Json} {fields : Record} {tag : Tag} (misfit : Misfit)
      (object : json = .object fields)
      (typed : Entries.valueAt? "type" fields = some (.string tag.text))
      (unfit : ¬ tag.Fits fields) : NodeFault json (.invalid tag misfit)

theorem NodeFault.not_wellFormed {json : Json} {error : VectorError}
    (fault : NodeFault json error) : ¬ WellFormedNode json := by
  rintro ⟨fields, tag, rfl, typed, fits⟩
  cases fault with
  | untyped absent => exact absent _ typed
  | unknown typed' other =>
    cases typed.symm.trans typed'
    exact other tag rfl
  | unfit _ object typed' unfit =>
    cases object
    have same := Option.some.inj (typed.symm.trans typed')
    rw [Json.string.injEq, ← Tag.ofText?_eq_some] at same
    cases (Tag.ofText?_eq_some.mpr rfl).symm.trans same
    exact unfit fits

/-! Nodes inside one another. -/

def tag? (json : Json) : Option Tag := ((json.field? "type").bind Json.text?).bind Tag.ofText?

def Tag.innerNodes (fields : Record) : Tag → List Json
  | .crossProduct =>
    match Entries.valueAt? "items" fields with
    | some (.array items) => items
    | _ => []
  | .map => (Entries.valueAt? "collection" fields).toList
  | _ => []

def innerNodes : Json → List Json
  | .object fields => ((tag? (.object fields)).map (Tag.innerNodes fields)).getD []
  | _ => []

theorem Tag.depth_of_innerNode {tag : Tag} {fields : Record} {inner : Json}
    (listed : inner ∈ tag.innerNodes fields) : inner.depth ≤ Json.fieldsDepth fields := by
  cases tag with
  | crossProduct =>
    rw [innerNodes] at listed
    split at listed
    · next items found =>
      have within := depth_of_mem listed
      have deeper := depth_of_valueAt? found
      rw [Json.depth] at deeper
      omega
    · cases listed
  | map => exact depth_of_valueAt? (Option.mem_toList.mp listed)
  | _ => cases listed

theorem depth_of_innerNode {json inner : Json} (listed : inner ∈ innerNodes json) :
    inner.depth < json.depth := by
  cases json with
  | object fields =>
    rw [innerNodes] at listed
    cases known : tag? (.object fields) with
    | none =>
      rw [known] at listed
      cases listed
    | some tag =>
      rw [known] at listed
      exact Nat.lt_succ_of_le (Tag.depth_of_innerNode listed)
  | _ => cases listed

/-- The nodes of a vector, each before those inside it, from left to right. -/
def nodes (json : Json) : List Json :=
  json :: (innerNodes json).attach.flatMap fun inner => nodes inner.1
termination_by json.depth
decreasing_by exact depth_of_innerNode inner.2

theorem nodes_eq (json : Json) : nodes json = json :: (innerNodes json).flatMap nodes := by
  rw [nodes]
  simp

/-! One node, with the reading of the nodes inside it left open. -/

section OneNode

open Json (readAny readText readMap readOptional readMapOf readField)

variable {fields fields' : Record} {tag : Tag}

theorem exists_readValues :
    (∃ values, readValues fields = .ok values) ↔ Tag.set.Fits fields := by
  simp only [readValues, Json.exists_bind_eq_ok, required_eq_ok]
  simp [Json.readField_eq_some, Json.readSequence_eq_ok, Tag.Fits]

theorem exists_readItems :
    (∃ items, readItems fields = .ok items) ↔ Tag.crossProduct.Fits fields := by
  simp only [readItems, Json.exists_bind_eq_ok, required_eq_ok]
  simp [Json.readField_eq_some, Json.readSequence_eq_ok, Tag.Fits]

theorem exists_readPattern :
    (∃ pattern, readPattern fields = .ok pattern) ↔ Tag.fetchObjects.Fits fields := by
  have completed : ∀ given : Option Record,
      ∃ pattern, (pure (given.getD []) : Except Misfit Record) = .ok pattern := fun _ => ⟨_, rfl⟩
  simp only [readPattern, Json.exists_bind_eq_ok, completed, and_true, Json.exists_readField,
    Json.readMap_eq_ok, Tag.Fits]

theorem exists_readMapFields :
    (∃ read, readMapFields fields = .ok read) ↔ Tag.map.Fits fields := by
  constructor
  · rintro ⟨read, fine⟩
    obtain ⟨collected, named, given⟩ := readMapFields_eq_ok fine
    refine ⟨⟨_, collected⟩, ⟨_, named⟩, ?_⟩
    intro other present
    rcases given with ⟨absent, _⟩ | object
    · cases absent.symm.trans present
    · exact ⟨_, Option.some.inj (present.symm.trans object)⟩
  · rintro ⟨⟨collection, collected⟩, ⟨iteratee, named⟩, arguments⟩
    have collectionRead : readField fields "collection" readAny = .ok (some collection) :=
      Json.readField_present collected rfl
    have iterateeRead : readField fields "iteratee" readText = .ok (some iteratee) :=
      Json.readField_present named rfl
    simp only [← Json.readMap_eq_ok] at arguments
    obtain ⟨given, argumentsRead⟩ := Json.exists_readField.mpr arguments
    rw [readMapFields, collectionRead, iterateeRead, argumentsRead]
    exact ⟨_, rfl⟩

theorem exists_readProjection :
    (∃ node, readProjection fields = .ok node) ↔ Tag.extractProperties.Fits fields := by
  constructor
  · rintro ⟨node, fine⟩
    obtain ⟨_, patternRead, fine⟩ := bind_eq_ok.mp fine
    obtain ⟨_, valueRead, fine⟩ := bind_eq_ok.mp fine
    obtain ⟨sources, given, fine⟩ := bind_eq_ok.mp fine
    obtain ⟨value, given', _⟩ := bind_eq_ok.mp fine
    rw [required_eq_ok] at given given'
    subst given given'
    obtain ⟨json, found, fits⟩ := Json.readField_eq_some.mp patternRead
    obtain ⟨json', found', fits'⟩ := Json.readField_eq_some.mp valueRead
    obtain ⟨pattern, object, entries⟩ := bind_eq_ok.mp fits
    rw [Json.readMap_eq_ok] at object fits'
    subst object fits'
    exact ⟨⟨pattern, found, Json.exists_readEntries_readText.mp ⟨sources, entries⟩⟩, value, found'⟩
  · rintro ⟨⟨pattern, found, texts⟩, value, found'⟩
    obtain ⟨sources, entries⟩ := Json.exists_readEntries_readText.mpr texts
    have patternRead : readField fields "pattern" (readMapOf readText) = .ok (some sources) :=
      Json.readField_present found entries
    have valueRead : readField fields "value" readMap = .ok (some value) :=
      Json.readField_present found' rfl
    rw [readProjection, patternRead, valueRead]
    exact ⟨_, rfl⟩

theorem exists_readCall :
    (∃ node, readCall fields = .ok node) ↔ Tag.call.Fits fields := by
  have apart_iff : ∀ params value : Option Json,
      ¬ (params.isSome ∧ value.isSome) ↔ params = none ∨ value = none := by
    intro params value
    cases params <;> cases value <;> simp
  constructor
  · rintro ⟨node, fine⟩
    obtain ⟨_, methodRead, fine⟩ := bind_eq_ok.mp fine
    rw [Json.readField_readAny, Json.ok_bind] at fine
    obtain ⟨given, propertyRead, fine⟩ := bind_eq_ok.mp fine
    rw [Json.readField_readAny, Json.ok_bind] at fine
    -- A call with both names of its parameters has been turned away by now.
    split at fine
    · cases fine
    · next apart =>
      obtain ⟨method, named, _⟩ := bind_eq_ok.mp fine
      rw [required_eq_ok] at named
      subst named
      obtain ⟨json, found, fits⟩ := Json.readField_eq_some.mp methodRead
      rw [Json.readText_eq_ok] at fits
      subst fits
      refine ⟨⟨method, found⟩, (apart_iff _ _).mp apart, ?_⟩
      simpa only [Json.exists_readOptional_readText] using
        Json.exists_readField.mp ⟨given, propertyRead⟩
  · rintro ⟨⟨method, named⟩, apart, optional⟩
    have methodRead : readField fields "method" readText = .ok (some method) :=
      Json.readField_present named rfl
    simp only [← Json.exists_readOptional_readText] at optional
    obtain ⟨property, propertyRead⟩ := Json.exists_readField.mpr optional
    simp only [readCall, Json.readField_readAny, methodRead, propertyRead, Json.ok_bind,
      if_neg ((apart_iff _ _).mpr apart)]
    exact ⟨_, rfl⟩

/-- What a node's own fields make of the nodes inside it. -/
def builder (fields : Record) : Tag → Except Misfit (List ParamVector → ParamVector)
  | .set => (readValues fields).map fun values _ => .set values
  | .crossProduct => (readItems fields).map fun _ => .crossProduct
  | .fetchObjects => (readPattern fields).map fun pattern _ => .fetchObjects pattern
  | .map =>
    (readMapFields fields).map fun read inner =>
      .map (inner.headD (.set [])) read.iteratee read.iterateeArgs
  | .extractProperties => (readProjection fields).map fun node _ => node
  | .call => (readCall fields).map fun node _ => node

theorem exists_builder : (∃ build, builder fields tag = .ok build) ↔ tag.Fits fields := by
  cases tag with
  | set => exact Json.exists_map_eq_ok.trans exists_readValues
  | crossProduct => exact Json.exists_map_eq_ok.trans exists_readItems
  | fetchObjects => exact Json.exists_map_eq_ok.trans exists_readPattern
  | map => exact Json.exists_map_eq_ok.trans exists_readMapFields
  | extractProperties => exact Json.exists_map_eq_ok.trans exists_readProjection
  | call => exact Json.exists_map_eq_ok.trans exists_readCall

theorem tag?_eq_some :
    tag? (.object fields) = some tag ↔
      Entries.valueAt? "type" fields = some (.string tag.text) := by
  simp only [tag?, Json.field?, Option.bind_eq_some_iff, Tag.ofText?_eq_some, exists_eq_right]
  rw [← Option.bind_eq_some_iff, Json.bind_text?_eq_some]

theorem innerNodes_of_typed (typed : Entries.valueAt? "type" fields = some (.string tag.text)) :
    innerNodes (.object fields) = tag.innerNodes fields := by
  rw [innerNodes, tag?_eq_some.mpr typed]
  rfl

theorem ofJson_of_typed (typed : Entries.valueAt? "type" fields = some (.string tag.text)) :
    ofJson (.object fields) = do
      let build ← (builder fields tag).mapError (.invalid tag)
      let inner ← (innerNodes (.object fields)).mapM ofJson
      return build inner := by
  have tagged : tagText fields = .ok tag.text := tagText_eq_ok.mpr typed
  rw [ofJson, ofFields, tagged, innerNodes_of_typed typed]
  cases tag with
  | set =>
    rw [builder]
    cases readValues fields <;> rfl
  | crossProduct =>
    rw [builder, itemsOf_eq]
    cases read : readItems fields with
    | error misfit => rfl
    | ok sources =>
      rw [Tag.innerNodes, readItems_eq_ok read, ← ofJsonList_eq_mapM]
      rfl
  | fetchObjects =>
    rw [builder]
    cases readPattern fields <;> rfl
  | map =>
    rw [builder, collectionOf_eq]
    cases read : readMapFields fields with
    | error misfit => rfl
    | ok given =>
      rw [Tag.innerNodes, (readMapFields_eq_ok read).1, Option.toList_some, List.mapM_cons,
        Option.map_some, Option.getD_some]
      cases ofJson given.collection <;> rfl
  | extractProperties =>
    rw [builder]
    cases readProjection fields <;> rfl
  | call =>
    rw [builder]
    cases readCall fields <;> rfl

theorem ofJson_of_untagged (unknown : tag? (.object fields) = none) :
    ofJson (.object fields) = tagText fields >>= fun text => .error (.unsupportedType text) := by
  rw [ofJson, ofFields]
  cases named : tagText fields with
  | error error => rfl
  | ok text =>
    cases known : Tag.ofText? text with
    | none =>
      rw [Json.ok_bind, known]
      rfl
    | some tag =>
      rw [tagText_eq_ok, Tag.ofText?_eq_some.mp known] at named
      cases unknown.symm.trans (tag?_eq_some.mpr named)

theorem WellFormedNode.ofJson_eq {json : Json} (wellFormed : WellFormedNode json) :
    ∃ build, ofJson json = ((innerNodes json).mapM ofJson).map build := by
  obtain ⟨fields, tag, rfl, typed, fits⟩ := wellFormed
  obtain ⟨build, built⟩ := exists_builder.mpr fits
  use build
  rw [ofJson_of_typed typed, built]
  cases (innerNodes (.object fields)).mapM ofJson <;> rfl

theorem error_of_tagText {error : VectorError} (untyped : tagText fields = .error error) :
    error = .missingType := by
  rw [tagText] at untyped
  split at untyped <;> cases untyped
  rfl

/-- Any other value has a fault of its own, whatever is inside it. -/
theorem nodeFault_of_not_wellFormed {json : Json} (illFormed : ¬ WellFormedNode json) :
    ∃ error, ofJson json = .error error ∧ NodeFault json error := by
  cases json with
  | object fields =>
    cases known : tag? (.object fields) with
    | some tag =>
      have typed := tag?_eq_some.mp known
      have unfit : ¬ tag.Fits fields := fun fits => illFormed ⟨fields, tag, rfl, typed, fits⟩
      cases built : builder fields tag with
      | ok build => exact absurd (exists_builder.mp ⟨build, built⟩) unfit
      | error misfit =>
        refine ⟨.invalid tag misfit, ?_, .unfit misfit rfl typed unfit⟩
        rw [ofJson_of_typed typed, built]
        rfl
    | none =>
      rw [ofJson_of_untagged known]
      cases named : tagText fields with
      | error error =>
        have untyped : ∀ text, Entries.valueAt? "type" fields ≠ some (.string text) := by
          intro text typed
          cases named.symm.trans (tagText_eq_ok.mpr typed)
        cases error_of_tagText named
        exact ⟨.missingType, rfl, .untyped untyped⟩
      | ok text =>
        rw [tagText_eq_ok] at named
        refine ⟨.unsupportedType text, rfl, .unknown named ?_⟩
        rintro tag rfl
        cases known.symm.trans (tag?_eq_some.mpr named)
  | _ => exact ⟨.missingType, rfl, .untyped fun _ => nofun⟩

def Tag.fieldNames : Tag → List String
  | .set => ["values"]
  | .crossProduct => ["items"]
  | .fetchObjects => ["pattern"]
  | .map => ["collection", "iteratee", "iterateeArgs"]
  | .extractProperties => ["pattern", "value"]
  | .call => ["method", "params", "property", "value"]

theorem builder_congr (agree : ∀ name ∈ tag.fieldNames,
    Entries.valueAt? name fields = Entries.valueAt? name fields') :
    builder fields tag = builder fields' tag := by
  have field : ∀ {α : Type} (name : String) (read : Json → Except Misfit α),
      name ∈ tag.fieldNames → readField fields name read = readField fields' name read :=
    fun name read listed => Json.readField_congr (agree name listed) read
  cases tag with
  | set =>
    have same : readValues fields = readValues fields' := by
      rw [readValues, readValues, field "values" _ (by decide)]
    rw [builder, builder, same]
  | crossProduct =>
    have same : readItems fields = readItems fields' := by
      rw [readItems, readItems, field "items" _ (by decide)]
    rw [builder, builder, same]
  | fetchObjects =>
    have same : readPattern fields = readPattern fields' := by
      rw [readPattern, readPattern, field "pattern" _ (by decide)]
    rw [builder, builder, same]
  | map =>
    have same : readMapFields fields = readMapFields fields' := by
      rw [readMapFields, readMapFields, field "collection" _ (by decide),
        field "iteratee" _ (by decide), field "iterateeArgs" _ (by decide)]
    rw [builder, builder, same]
  | extractProperties =>
    have same : readProjection fields = readProjection fields' := by
      rw [readProjection, readProjection, field "pattern" _ (by decide),
        field "value" _ (by decide)]
    rw [builder, builder, same]
  | call =>
    have same : readCall fields = readCall fields' := by
      rw [readCall, readCall, field "method" _ (by decide), field "params" _ (by decide),
        field "property" _ (by decide), field "value" _ (by decide)]
    rw [builder, builder, same]

theorem innerNodes_congr (agree : ∀ name ∈ tag.fieldNames,
    Entries.valueAt? name fields = Entries.valueAt? name fields') :
    tag.innerNodes fields = tag.innerNodes fields' := by
  cases tag with
  | crossProduct => rw [Tag.innerNodes, Tag.innerNodes, agree "items" (by decide)]
  | map => rw [Tag.innerNodes, Tag.innerNodes, agree "collection" (by decide)]
  | _ => rfl

theorem ofJson_congr_of_typed
    (typed : Entries.valueAt? "type" fields = some (.string tag.text))
    (typed' : Entries.valueAt? "type" fields' = some (.string tag.text))
    (agree : ∀ name ∈ tag.fieldNames,
      Entries.valueAt? name fields = Entries.valueAt? name fields') :
    ofJson (.object fields) = ofJson (.object fields') := by
  rw [ofJson_of_typed typed, ofJson_of_typed typed', innerNodes_of_typed typed,
    innerNodes_of_typed typed', builder_congr agree, innerNodes_congr agree]

end OneNode

/-! Whole vectors. -/

theorem ofJson_succeeds_iff (json : Json) :
    (∃ tree, ofJson json = .ok tree) ↔ ∀ node ∈ nodes json, WellFormedNode node := by
  induction json using nodes.induct with
  | _ json ih =>
    rw [nodes_eq, List.forall_mem_cons]
    by_cases wellFormed : WellFormedNode json
    · obtain ⟨build, read⟩ := wellFormed.ofJson_eq
      rw [read, Json.exists_map_eq_ok, mapM_succeeds_iff]
      simp only [wellFormed, true_and, List.forall_mem_flatMap]
      exact forall₂_congr fun inner listed => ih ⟨inner, listed⟩
    · obtain ⟨error, failed, _⟩ := nodeFault_of_not_wellFormed wellFormed
      simp [failed, wellFormed]

/-- The error is that of the first node with a fault. -/
theorem first_nodeFault {json : Json} {error : VectorError} (failed : ofJson json = .error error) :
    ∃ earlier node later, nodes json = earlier ++ node :: later ∧
      (∀ other ∈ earlier, WellFormedNode other) ∧ ofJson node = .error error ∧
      NodeFault node error := by
  induction json using nodes.induct with
  | _ json ih =>
    rw [nodes_eq]
    -- A well-formed node fails only by a node inside it, and then by the first one that fails.
    by_cases wellFormed : WellFormedNode json
    · obtain ⟨build, read⟩ := wellFormed.ofJson_eq
      have inner : (innerNodes json).mapM ofJson = .error error := by
        rw [read] at failed
        cases passed : (innerNodes json).mapM ofJson <;> rw [passed] at failed <;> cases failed
        rfl
      obtain ⟨before, node, after, split, fine, nodeFailed⟩ := exists_of_mapM_eq_error inner
      have listed : node ∈ innerNodes json := by simp [split]
      obtain ⟨earlier, first, later, order, sound, firstFailed, fault⟩ :=
        ih ⟨node, listed⟩ nodeFailed
      refine ⟨json :: before.flatMap nodes ++ earlier, first, later ++ after.flatMap nodes, ?_, ?_,
        firstFailed, fault⟩
      · simp [split, order]
      · intro other member
        rcases List.mem_append.mp member with member | member
        · rcases List.mem_cons.mp member with rfl | member
          · exact wellFormed
          · obtain ⟨inner, present, member⟩ := List.mem_flatMap.mp member
            exact (ofJson_succeeds_iff inner).mp (fine inner present) other member
        · exact sound other member
    · obtain ⟨own, ownFailed, fault⟩ := nodeFault_of_not_wellFormed wellFormed
      cases ownFailed.symm.trans failed
      exact ⟨[], json, _, rfl, by simp, failed, fault⟩

end JobFanout.ParamVector
