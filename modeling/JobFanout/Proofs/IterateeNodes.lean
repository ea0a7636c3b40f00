import JobFanout.Proofs.EvaluationAlone
import JobFanout.Proofs.VectorGrammar
/-!
What the nodes of a map make of the item. It stands under `value`, where only two types of node look:
a projection, which wants an object, and a call. To the others the item does not matter.
-/
namespace JobFanout.ParamVector

/-- The type of the node is one that looks at its `value`. -/
def LooksAtValue (fields : Record) : Prop :=
  ∃ tag : Tag, (tag = .extractProperties ∨ tag = .call) ∧
    Entries.valueAt? "type" fields = some (.string tag.text)

theorem ofJson_congr {fields fields' : Record}
    (agree : ∀ key, key ≠ "value" → Entries.valueAt? key fields = Entries.valueAt? key fields')
    (blind : ¬ LooksAtValue fields) : ofJson (.object fields) = ofJson (.object fields') := by
  have sameType := agree "type" (by decide)
  cases known : tag? (.object fields) with
  | none =>
    have unknown : tag? (.object fields') = none := by
      rw [← known, tag?, tag?, Json.field?, Json.field?, sameType]
    rw [ofJson_of_untagged known, ofJson_of_untagged unknown, tagText, tagText, sameType]
  | some tag =>
    have typed := tag?_eq_some.mp known
    apply ofJson_congr_of_typed typed (sameType.symm.trans typed)
    intro name listed
    apply agree
    rintro rfl
    apply blind
    refine ⟨tag, ?_, typed⟩
    cases tag <;> simp [Tag.fieldNames] at listed ⊢

theorem tag_of_looksAtValue {fields : Record} {node : ParamVector} (looks : LooksAtValue fields)
    (noObject : ∀ record, Entries.valueAt? "value" fields ≠ some (.object record))
    (read : ofJson (.object fields) = .ok node) : node.tag = .call := by
  obtain ⟨tag, looking, typed⟩ := looks
  rw [tag_of_typed read typed]
  apply looking.resolve_left
  rintro rfl
  obtain ⟨tag, typed', shape⟩ := ofJson_object_eq_ok read
  obtain rfl : Tag.extractProperties = tag :=
    (tag_of_typed read typed).symm.trans (tag_of_typed read typed')
  obtain ⟨_, record, found⟩ := exists_readProjection.mp ⟨node, shape⟩
  exact noObject record found

/-! The node of one item. -/

/-- The fields that the nodes of a map have apart from the item. -/
def sharedFields (iteratee : String) (iterateeArgs : Record) : Record :=
  Entries.putAll iterateeArgs [("type", .string iteratee)]

theorem ascending_sharedFields (iteratee : String) (iterateeArgs : Record) :
    Entries.Ascending (sharedFields iteratee iterateeArgs) := by
  apply Entries.ascending_putAll
  simp [Entries.Ascending, Entries.keys]

theorem valueAt?_sharedFields (iteratee : String) (iterateeArgs : Record) (key : String) :
    Entries.valueAt? key (sharedFields iteratee iterateeArgs) =
      (Entries.valueAt? key iterateeArgs).or
        (if "type" = key then some (.string iteratee) else none) := by
  rw [sharedFields, Entries.valueAt?_putAll (by simp [Entries.Ascending, Entries.keys])]
  rfl

theorem valueAt?_put_sharedFields (iteratee : String) (iterateeArgs : Record) (item : Json)
    (key : String) :
    Entries.valueAt? key (Entries.put "value" item (sharedFields iteratee iterateeArgs)) =
      if "value" = key then some item
      else Entries.valueAt? key (sharedFields iteratee iterateeArgs) :=
  Entries.valueAt?_put (ascending_sharedFields iteratee iterateeArgs) ..

variable {iteratee : String} {iterateeArgs : Record}

theorem looksAtValue_put (item : Json) :
    LooksAtValue (Entries.put "value" item (sharedFields iteratee iterateeArgs)) ↔
      LooksAtValue (sharedFields iteratee iterateeArgs) := by
  rw [LooksAtValue, LooksAtValue, valueAt?_put_sharedFields, if_neg (by decide)]

theorem ofJson_iterateeNode (blind : ¬ LooksAtValue (sharedFields iteratee iterateeArgs))
    (item item' : Json) :
    ofJson (iterateeNode iteratee iterateeArgs item) =
      ofJson (iterateeNode iteratee iterateeArgs item') := by
  apply ofJson_congr
  · intro key plain
    rw [← sharedFields, valueAt?_put_sharedFields, valueAt?_put_sharedFields, if_neg plain.symm,
      if_neg plain.symm]
  · exact (looksAtValue_put item).not.mpr blind

theorem mappedAlone_fails (snapshot : Except String (List Json))
    (looks : LooksAtValue (sharedFields iteratee iterateeArgs)) {item : Json}
    (noObject : ∀ record, item ≠ .object record) :
    ∃ error, mappedAlone snapshot iteratee iterateeArgs item = .error error := by
  rw [mappedAlone_eq]
  cases read : ofJson (iterateeNode iteratee iterateeArgs item) with
  | error error => exact ⟨.vector error, rfl⟩
  | ok node =>
    have called : node.tag = .call := by
      apply tag_of_looksAtValue ((looksAtValue_put item).mpr looks) _ read
      intro record found
      rw [valueAt?_put_sharedFields, if_pos rfl, Option.some.injEq] at found
      exact noObject record found
    cases node with
    | call method params property =>
      exact ⟨.callsUnavailable, valueAlone_call snapshot method params property⟩
    | _ => cases called

end JobFanout.ParamVector
