import JobFanout.Proofs.Combinations
import JobFanout.Proofs.IterateeNodes
/-!
The order of the fleet does not matter. A reordered fleet reorders what vectors come to at any depth:
a map of lists comes to lists that are reordered inside. What becomes part of a record is only ever an
object, though, and objects come out the same. So two lists count as the same when they show the same
objects, and as many other values, in some order.
-/
namespace JobFanout

def Json.record? : Json → Option Record
  | .object fields => some fields
  | _ => none

theorem Json.record?_eq_some {value : Json} {fields : Record} :
    value.record? = some fields ↔ value = .object fields := by
  cases value <;> simp [Json.record?]

/-- The same objects and as many other values, in some order. -/
def SameRecords (items items' : List Json) : Prop :=
  (items.map Json.record?).Perm (items'.map Json.record?)

/-- The same, or two arrays with the same records. -/
inductive Alike : Json → Json → Prop where
  | same (value : Json) : Alike value value
  | reordered {items items' : List Json} (perm : SameRecords items items') :
    Alike (.array items) (.array items')

theorem Alike.record? {value value' : Json} (alike : Alike value value') :
    value.record? = value'.record? := by
  cases alike <;> rfl

/-! Values that are used. -/

def mergeFields (fields : List (Option Record)) : Record :=
  fields.foldl (fun merged fields => Entries.putAll (fields.getD []) merged) []

theorem merge_eq_mergeFields (records : List Json) :
    Record.merge records = mergeFields (records.map Json.record?) := by
  have fieldsOf : Record.fieldsOf = fun value => value.record?.getD [] := by
    funext value
    cases value <;> rfl
  rw [Record.merge, mergeFields, List.foldl_map, fieldsOf]

theorem sameRecords_product {vectors vectors' : List (List Json)}
    (same : List.Forall₂ SameRecords vectors vectors') :
    SameRecords ((product vectors).map fun records => .object (Record.merge records))
      ((product vectors').map fun records => .object (Record.merge records)) := by
  have shown : ∀ vectors : List (List Json),
      ((product vectors).map fun records => Json.object (Record.merge records)).map Json.record? =
        (product (vectors.map (List.map Json.record?))).map fun fields =>
          some (mergeFields fields) := by
    intro vectors
    simp [product_map, List.map_map, Function.comp_def, Json.record?, merge_eq_mergeFields]
  rw [SameRecords, shown, shown]
  apply List.Perm.map
  apply product_perm
  rw [List.forall₂_map_left_iff, List.forall₂_map_right_iff]
  exact same

theorem sameRecords_select {objects objects' : List Json} (permuted : objects.Perm objects')
    (pattern : Record) :
    SameRecords (Fleet.select pattern objects) (Fleet.select pattern objects') :=
  (permuted.filter _).map _

theorem asRecord_eq (item : Json) :
    ParamVector.asRecord item = match item.record? with
      | some fields => .ok fields
      | none => .error (.notARecord item.kind) := by
  cases item <;> rfl

theorem asRecord_congr {item item' : Json} (same : item.record? = item'.record?) :
    BothEnd Eq (ParamVector.asRecord item) (ParamVector.asRecord item') := by
  rw [asRecord_eq, asRecord_eq, same]
  cases item'.record? with
  | some fields => exact .fine rfl
  | none => exact .failed ..

namespace ParamVector
variable {objects objects' : List Json} {iteratee : String} {iterateeArgs : Record}

theorem alike_asVector (node : ParamVector) {value value' : Json} (alike : Alike value value') :
    BothEnd SameRecords (outcome (asVector node value)) (outcome (asVector node value')) := by
  cases alike with
  | reordered perm => exact .fine perm
  | same =>
    cases value with
    | array items => exact .fine (.refl _)
    | _ => exact .failed ..

theorem alike_itemsAlone {node : ParamVector}
    (alike : BothEnd Alike (valueAlone (.ok objects) node) (valueAlone (.ok objects') node)) :
    BothEnd SameRecords (itemsAlone (.ok objects) node) (itemsAlone (.ok objects') node) := by
  rw [itemsAlone_eq, itemsAlone_eq]
  exact alike.bind fun _ _ => alike_asVector node

theorem alike_mappedAlone_of_node {item item' : Json}
    (sameNode : ofJson (iterateeNode iteratee iterateeArgs item) =
      ofJson (iterateeNode iteratee iterateeArgs item'))
    (alike : ∀ node, ofJson (iterateeNode iteratee iterateeArgs item) = .ok node →
      BothEnd Alike (valueAlone (.ok objects) node) (valueAlone (.ok objects') node)) :
    BothEnd Alike (mappedAlone (.ok objects) iteratee iterateeArgs item)
      (mappedAlone (.ok objects') iteratee iterateeArgs item') := by
  rw [mappedAlone_eq, mappedAlone_eq, ← sameNode]
  cases read : ofJson (iterateeNode iteratee iterateeArgs item) with
  | error error => exact .failed ..
  | ok node => exact alike node read

-- Items that are no objects may differ, but only a node that cannot use them looks at them.
theorem alike_mappedAlone {item item' : Json} (sameItem : item.record? = item'.record?)
    (alike : ∀ node, ofJson (iterateeNode iteratee iterateeArgs item) = .ok node →
      BothEnd Alike (valueAlone (.ok objects) node) (valueAlone (.ok objects') node)) :
    BothEnd Alike (mappedAlone (.ok objects) iteratee iterateeArgs item)
      (mappedAlone (.ok objects') iteratee iterateeArgs item') := by
  cases seen : item.record? with
  | some fields =>
    have same : item = item' := by
      rw [seen, eq_comm, Json.record?_eq_some] at sameItem
      rw [Json.record?_eq_some.mp seen, sameItem]
    exact alike_mappedAlone_of_node (by rw [same]) alike
  | none =>
    by_cases looks : LooksAtValue (sharedFields iteratee iterateeArgs)
    · have noObject : ∀ value : Json, value.record? = none → ∀ record, value ≠ .object record := by
        rintro value unseen record rfl
        cases unseen
      obtain ⟨error, failed⟩ := mappedAlone_fails (.ok objects) looks (noObject item seen)
      obtain ⟨error', failed'⟩ :=
        mappedAlone_fails (.ok objects') looks (noObject item' (sameItem ▸ seen))
      rw [failed, failed']
      exact .failed error error'
    · exact alike_mappedAlone_of_node (ofJson_iterateeNode looks item item') alike

-- A product of related vectors and a map over related items are arrays again, so by induction over the
-- nodes that evaluation may come to, only the order inside arrays is ever lost.
theorem alike_valueAlone (permuted : objects.Perm objects') (vector : ParamVector) :
    BothEnd Alike (valueAlone (.ok objects) vector) (valueAlone (.ok objects') vector) := by
  induction vector using generates_induction with
  | step vector ih =>
    cases vector with
    | set values => exact .fine (.same _)
    | extractProperties pattern value => exact .fine (.same _)
    | call method params property => exact .failed ..
    | fetchObjects pattern => exact .fine (.reordered (sameRecords_select permuted pattern))
    | crossProduct items =>
      have listed : List.Forall₂ (fun item item' => item = item' ∧ item ∈ items) items items :=
        List.forall₂_same.mpr fun item present => ⟨rfl, present⟩
      rw [valueAlone_crossProduct, valueAlone_crossProduct]
      apply BothEnd.bind (BothEnd.mapM listed _)
      · intro vectors vectors' same
        exact .fine (.reordered (sameRecords_product same))
      · rintro item _ ⟨rfl, present⟩
        exact alike_itemsAlone (ih item (.item present))
    | map collection iteratee iterateeArgs =>
      rw [valueAlone_map, valueAlone_map]
      apply (alike_itemsAlone (ih collection (.collection ..))).bind
      intro items items' same
      apply BothEnd.bind (BothEnd.mapM_of_views same _)
      · intro results results' same
        exact .fine (.reordered same)
      · intro item item' sameItem
        apply (alike_mappedAlone sameItem _).mono
        · exact fun _ _ => Alike.record?
        · exact fun node read => ih node (.iteratee item read)

theorem reordered_recordsAlone (permuted : objects.Perm objects') (vector : Option ParamVector) :
    BothEnd List.Perm (recordsAlone (.ok objects) vector) (recordsAlone (.ok objects') vector) := by
  cases vector with
  | none => exact .fine (.refl _)
  | some vector =>
    rw [recordsAlone_some, recordsAlone_some]
    apply (alike_itemsAlone (alike_valueAlone permuted vector)).bind
    intro items items' same
    have reordered : BothEnd (fun records records' => (records.map id).Perm (records'.map id))
        (items.mapM asRecord) (items'.mapM asRecord) :=
      BothEnd.mapM_of_views same fun _ _ => asRecord_congr
    simpa using reordered

end ParamVector

/-- If the live objects stay as they are, then however they are ordered, the records without an API
are the same ones in some order, or there are none. -/
theorem fleet_order_immaterial {objects objects' : List Json} (permuted : objects.Perm objects')
    (identity : Identity) (vector : Option ParamVector) :
    let here := Resolution.records
      (Resolution.surroundings (fun _ => .ok objects) none identity) vector
    let there := Resolution.records
      (Resolution.surroundings (fun _ => .ok objects') none identity) vector
    ((∃ records, here.1 = .ok records) ↔ ∃ records, there.1 = .ok records) ∧
      ∀ records records', here.1 = .ok records → there.1 = .ok records' →
        records'.Perm records := by
  intro here there
  have reordered : BothEnd (fun records records' => records'.Perm records) here.1 there.1 := by
    simp only [here, there, Resolution.records_alone]
    exact (ParamVector.reordered_recordsAlone permuted vector).mono fun _ _ => .symm
  exact reordered.results

def switchings : ParamVector :=
  .crossProduct [
    .map (.fetchObjects [("kind", .string "vm")]) "extractProperties"
      [("pattern", .object [("machine", .string "name")])],
    .set [.object [("on", .bool true)], .object [("on", .bool false)]]]

theorem switchings_of_swapped_machines :
    let vm := fun name => Json.object [("kind", .string "vm"), ("name", .string name)]
    let host := Json.object [("kind", .string "host")]
    let resolve := fun objects => (Resolution.records
      (Resolution.surroundings (fun _ => .ok objects) none ⟨"identity-1", "u"⟩)
      (some switchings)).1
    let switching := fun name on => [("machine", Json.string name), ("on", Json.bool on)]
    resolve [vm "a", host, vm "b"] = .ok [switching "a" true, switching "b" true,
        switching "a" false, switching "b" false] ∧
      ∃ records, resolve [vm "b", vm "a", host] = .ok records ∧
        records.Perm [switching "a" true, switching "b" true,
          switching "a" false, switching "b" false] := by
  intro vm host resolve switching
  have swapped : ([vm "a", host] ++ [vm "b"]).Perm ([vm "b"] ++ [vm "a", host]) :=
    List.perm_append_comm
  obtain ⟨both, perm⟩ := fleet_order_immaterial swapped ⟨"identity-1", "u"⟩ (some switchings)
  obtain ⟨records, fine⟩ := both.mp ⟨_, rfl⟩
  exact ⟨rfl, records, fine, perm _ records rfl fine⟩

end JobFanout
