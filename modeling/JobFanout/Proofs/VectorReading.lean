import JobFanout.ParamVector.Reading
import JobFanout.Proofs.FieldReading
/-!
What a vector that was read says about the JSON it was read from: its type, and for nodes with nodes
inside where those stand.
-/
namespace JobFanout.ParamVector
variable {ε ε' α β : Type}

theorem bind_eq_ok {first : Except ε α} {next : α → Except ε β} {value : β} :
    (first >>= next) = .ok value ↔ ∃ middle, first = .ok middle ∧ next middle = .ok value := by
  cases first <;> simp [bind, Except.bind]

theorem mapError_eq_ok {wrap : ε → ε'} {result : Except ε α} {value : α} :
    result.mapError wrap = .ok value ↔ result = .ok value := by
  cases result with
  | ok _ => constructor <;> (intro same; cases same; rfl)
  | error _ => exact ⟨nofun, nofun⟩

theorem Tag.ofText?_eq_some {text : String} {tag : Tag} :
    Tag.ofText? text = some tag ↔ text = tag.text := by
  constructor
  · intro found
    have named := List.find?_some found
    exact (of_decide_eq_true named).symm
  · rintro rfl
    cases tag <;> rfl

theorem tagText_eq_ok {fields : Record} {text : String} :
    tagText fields = .ok text ↔ Entries.valueAt? "type" fields = some (.string text) := by
  rw [← Json.bind_text?_eq_some, tagText]
  cases (Entries.valueAt? "type" fields).bind Json.text? <;> simp

theorem isCallNode_iff {fields : Record} :
    isCallNode fields = true ↔
      Entries.valueAt? "type" fields = some (.string Tag.call.text) := by
  rw [isCallNode, decide_eq_true_iff, Json.bind_text?_eq_some]

theorem ofJsonList_eq_mapM (sources : List Json) : ofJsonList sources = sources.mapM ofJson := by
  induction sources with
  | nil => rfl
  | cons source rest ih =>
    rw [ofJsonList, List.mapM_cons, ih]

theorem itemsOf_eq (fields : Record) :
    itemsOf fields = (Entries.valueAt? "items" fields).map fun value =>
      match value with
      | .array nodes => ofJsonList nodes
      | _ => .ok [] := by
  induction fields with
  | nil => simp [itemsOf, Entries.valueAt?]
  | cons entry rest ih =>
    obtain ⟨key, value⟩ := entry
    rw [itemsOf.eq_def, Entries.valueAt?]
    simp only [ih]
    cases Entries.valueAt? "items" rest with
    | some later => rfl
    | none =>
      by_cases named : key = "items"
      · cases value <;> simp [named]
      · simp [named]

theorem collectionOf_eq (fields : Record) :
    collectionOf fields = (Entries.valueAt? "collection" fields).map ofJson := by
  induction fields with
  | nil => simp [collectionOf, Entries.valueAt?]
  | cons entry rest ih =>
    obtain ⟨key, value⟩ := entry
    rw [collectionOf, ih, Entries.valueAt?]
    cases Entries.valueAt? "collection" rest with
    | some later => rfl
    | none => by_cases named : key = "collection" <;> simp [named]

theorem readField_eq_ok {fields : Record} {name : String} {read : Json → Except Misfit α}
    {result : Option α} (field : Json.readField fields name read = .ok result) :
    (Entries.valueAt? name fields = none ∧ result = none) ∨
      ∃ json value, Entries.valueAt? name fields = some json ∧ read json = .ok value ∧
        result = some value := by
  unfold Json.readField at field
  cases found : Entries.valueAt? name fields with
  | none =>
    rw [found] at field
    exact .inl ⟨rfl, (Except.ok.inj field).symm⟩
  | some json =>
    rw [found] at field
    cases reading : read json with
    | error misfit => simp [reading, Except.map] at field
    | ok value =>
      simp only [reading, Except.map, Except.ok.injEq] at field
      exact .inr ⟨json, value, rfl, reading, field.symm⟩

theorem required_eq_ok {name : String} {given : Option α} {value : α} :
    Json.required name given = .ok value ↔ given = some value := by
  cases given <;> simp [Json.required]

theorem readMapFields_eq_ok {fields : Record} {read : MapFields}
    (fine : readMapFields fields = .ok read) :
    Entries.valueAt? "collection" fields = some read.collection ∧
      Entries.valueAt? "iteratee" fields = some (.string read.iteratee) ∧
      (Entries.valueAt? "iterateeArgs" fields = none ∧ read.iterateeArgs = [] ∨
        Entries.valueAt? "iterateeArgs" fields = some (.object read.iterateeArgs)) := by
  unfold readMapFields at fine
  obtain ⟨collection, collectionRead, fine⟩ := bind_eq_ok.mp fine
  obtain ⟨iteratee, iterateeRead, fine⟩ := bind_eq_ok.mp fine
  obtain ⟨arguments, argumentsRead, fine⟩ := bind_eq_ok.mp fine
  obtain ⟨source, given, fine⟩ := bind_eq_ok.mp fine
  obtain ⟨name, named, fine⟩ := bind_eq_ok.mp fine
  rw [required_eq_ok] at given named
  cases fine
  subst given named
  refine ⟨?_, ?_, ?_⟩
  · rcases readField_eq_ok collectionRead with ⟨_, missing⟩ | ⟨json, value, found, fits, same⟩
    · cases missing
    · cases same
      cases fits
      exact found
  · rcases readField_eq_ok iterateeRead with ⟨_, missing⟩ | ⟨json, value, found, fits, same⟩
    · cases missing
    · cases same
      cases json <;> cases fits
      exact found
  · rcases readField_eq_ok argumentsRead with ⟨absent, rfl⟩ | ⟨json, value, found, fits, rfl⟩
    · exact .inl ⟨absent, rfl⟩
    · cases json <;> cases fits
      exact .inr found

theorem readItems_eq_ok {fields : Record} {nodes : List Json}
    (fine : readItems fields = .ok nodes) :
    Entries.valueAt? "items" fields = some (.array nodes) := by
  unfold readItems at fine
  obtain ⟨items, itemsRead, fine⟩ := bind_eq_ok.mp fine
  rw [required_eq_ok] at fine
  rcases readField_eq_ok itemsRead with ⟨_, rfl⟩ | ⟨json, value, found, fits, rfl⟩
  · cases fine
  · cases fine
    cases json <;> cases fits
    exact found

/-- Everything that reading an object as a node can come to, type by type. -/
theorem ofJson_object_eq_ok {fields : Record} {node : ParamVector}
    (read : ofJson (.object fields) = .ok node) :
    ∃ tag : Tag, Entries.valueAt? "type" fields = some (.string tag.text) ∧
      match tag with
      | .set => ∃ values, readValues fields = .ok values ∧ node = .set values
      | .crossProduct => ∃ sources items, Entries.valueAt? "items" fields = some (.array sources) ∧
          ofJsonList sources = .ok items ∧ node = .crossProduct items
      | .fetchObjects => ∃ pattern, readPattern fields = .ok pattern ∧ node = .fetchObjects pattern
      | .map => ∃ given collection, readMapFields fields = .ok given ∧
          ofJson given.collection = .ok collection ∧
          node = .map collection given.iteratee given.iterateeArgs
      | .extractProperties => readProjection fields = .ok node
      | .call => readCall fields = .ok node := by
  rw [ofJson, ofFields] at read
  obtain ⟨text, typed, read⟩ := bind_eq_ok.mp read
  rw [tagText_eq_ok] at typed
  cases known : Tag.ofText? text with
  | none =>
    rw [known] at read
    cases read
  | some tag =>
    rw [Tag.ofText?_eq_some] at known
    subst known
    refine ⟨tag, typed, ?_⟩
    rw [Tag.ofText?_eq_some.mpr rfl] at read
    cases tag with
    | set =>
      obtain ⟨values, fine, same⟩ := bind_eq_ok.mp read
      exact ⟨values, mapError_eq_ok.mp fine, (Except.ok.inj same).symm⟩
    | crossProduct =>
      obtain ⟨_, fine, read⟩ := bind_eq_ok.mp read
      obtain ⟨items, inner, same⟩ := bind_eq_ok.mp read
      cases listed : readItems fields with
      | error misfit =>
        rw [listed] at fine
        cases fine
      | ok sources =>
        have found := readItems_eq_ok listed
        rw [itemsOf_eq, found] at inner
        exact ⟨sources, items, found, inner, (Except.ok.inj same).symm⟩
    | fetchObjects =>
      obtain ⟨pattern, fine, same⟩ := bind_eq_ok.mp read
      exact ⟨pattern, mapError_eq_ok.mp fine, (Except.ok.inj same).symm⟩
    | map =>
      obtain ⟨given, fine, read⟩ := bind_eq_ok.mp read
      obtain ⟨collection, inner, same⟩ := bind_eq_ok.mp read
      rw [mapError_eq_ok] at fine
      rw [collectionOf_eq, (readMapFields_eq_ok fine).1] at inner
      exact ⟨given, collection, fine, inner, (Except.ok.inj same).symm⟩
    | extractProperties => exact mapError_eq_ok.mp read
    | call => exact mapError_eq_ok.mp read

/-! Single types. -/

theorem tag_of_readProjection {fields : Record} {node : ParamVector}
    (fine : readProjection fields = .ok node) : node.tag = .extractProperties := by
  obtain ⟨_, _, fine⟩ := bind_eq_ok.mp fine
  obtain ⟨_, _, fine⟩ := bind_eq_ok.mp fine
  obtain ⟨_, _, fine⟩ := bind_eq_ok.mp fine
  obtain ⟨_, _, fine⟩ := bind_eq_ok.mp fine
  cases fine
  rfl

theorem tag_of_readCall {fields : Record} {node : ParamVector}
    (fine : readCall fields = .ok node) : node.tag = .call := by
  obtain ⟨_, _, fine⟩ := bind_eq_ok.mp fine
  obtain ⟨params, _, fine⟩ := bind_eq_ok.mp fine
  obtain ⟨_, _, fine⟩ := bind_eq_ok.mp fine
  obtain ⟨value, _, fine⟩ := bind_eq_ok.mp fine
  by_cases both : params.isSome ∧ value.isSome
  · rw [if_pos both] at fine
    cases fine
  · rw [if_neg both] at fine
    obtain ⟨_, _, fine⟩ := bind_eq_ok.mp fine
    cases fine
    rfl

theorem type_of_ofJson {fields : Record} {node : ParamVector}
    (read : ofJson (.object fields) = .ok node) :
    Entries.valueAt? "type" fields = some (.string node.tag.text) := by
  obtain ⟨tag, typed, shape⟩ := ofJson_object_eq_ok read
  suffices same : node.tag = tag by rw [same, typed]
  cases tag with
  | set => obtain ⟨_, _, rfl⟩ := shape; rfl
  | crossProduct => obtain ⟨_, _, _, _, rfl⟩ := shape; rfl
  | fetchObjects => obtain ⟨_, _, rfl⟩ := shape; rfl
  | map => obtain ⟨_, _, _, _, rfl⟩ := shape; rfl
  | extractProperties => exact tag_of_readProjection shape
  | call => exact tag_of_readCall shape

theorem tag_of_typed {fields : Record} {node : ParamVector} {tag : Tag}
    (read : ofJson (.object fields) = .ok node)
    (typed : Entries.valueAt? "type" fields = some (.string tag.text)) : node.tag = tag := by
  have same := (type_of_ofJson read).symm.trans typed
  simp only [Option.some.injEq, Json.string.injEq] at same
  exact Option.some.inj ((Tag.ofText?_eq_some.mpr rfl).symm.trans (Tag.ofText?_eq_some.mpr same))

theorem crossProduct_of_ofJson {fields : Record} {items : List ParamVector}
    (read : ofJson (.object fields) = .ok (.crossProduct items)) :
    ∃ sources, Entries.valueAt? "items" fields = some (.array sources) ∧
      ofJsonList sources = .ok items := by
  obtain ⟨tag, typed, shape⟩ := ofJson_object_eq_ok read
  obtain rfl : Tag.crossProduct = tag := tag_of_typed read typed
  obtain ⟨sources, items, found, inner, same⟩ := shape
  cases same
  exact ⟨sources, found, inner⟩

theorem map_of_ofJson {fields iterateeArgs : Record} {collection : ParamVector} {iteratee : String}
    (read : ofJson (.object fields) = .ok (.map collection iteratee iterateeArgs)) :
    ∃ source, Entries.valueAt? "collection" fields = some source ∧
      ofJson source = .ok collection ∧
      Entries.valueAt? "iteratee" fields = some (.string iteratee) ∧
      (Entries.valueAt? "iterateeArgs" fields = none ∧ iterateeArgs = [] ∨
        Entries.valueAt? "iterateeArgs" fields = some (.object iterateeArgs)) := by
  obtain ⟨tag, typed, shape⟩ := ofJson_object_eq_ok read
  obtain rfl : Tag.map = tag := tag_of_typed read typed
  obtain ⟨given, collection, fine, inner, same⟩ := shape
  cases same
  obtain ⟨source, named, arguments⟩ := readMapFields_eq_ok fine
  exact ⟨given.collection, source, inner, named, arguments⟩

theorem isCallNode_of_ofJson {fields : Record} {node : ParamVector}
    (read : ofJson (.object fields) = .ok node) :
    isCallNode fields = true ↔ node.tag = .call := by
  rw [isCallNode_iff]
  exact ⟨tag_of_typed read, fun called => called ▸ type_of_ofJson read⟩

end JobFanout.ParamVector
