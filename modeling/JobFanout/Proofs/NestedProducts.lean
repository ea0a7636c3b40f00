import JobFanout.Proofs.EvaluationNesting
import JobFanout.Proofs.MergedProducts
import JobFanout.Run.Resolution
/-!
Nested products. A product among the items of another one may be written out: its items take its
place. Its records are merged before the others instead of with them, which comes to the same, and its
items are evaluated at the same time as before.
-/
namespace JobFanout

variable {vectors : List (List Json)}

theorem isBarren_nested (before after : List (List Json)) {inner : List (List Json)}
    (nonempty : inner ≠ []) :
    isBarren (before ++ mergedProduct inner :: after) = isBarren (before ++ (inner ++ after)) := by
  have own : isBarren inner = inner.any List.isEmpty := by simp [isBarren, nonempty]
  have whole : (before ++ (inner ++ after)).isEmpty = false := by simp [nonempty]
  rw [isBarren, isBarren, whole, List.any_append, List.any_append, List.any_append, List.any_cons,
    isEmpty_mergedProduct, own]
  simp

theorem mergedProduct_nested (before after : List (List Json)) {inner : List (List Json)}
    (nonempty : inner ≠ []) :
    mergedProduct (before ++ mergedProduct inner :: after) =
      mergedProduct (before ++ (inner ++ after)) := by
  have sameBarren := isBarren_nested before after nonempty
  cases barren : isBarren (before ++ (inner ++ after)) with
  | true =>
    rw [mergedProduct_of_barren barren, mergedProduct_of_barren (sameBarren.trans barren)]
  | false =>
    have fruitful : isBarren inner = false := by
      rw [isBarren, List.any_append, List.any_append] at barren
      simp_all [isBarren]
    rw [mergedProduct_of_fruitful barren, mergedProduct_of_fruitful (sameBarren.trans barren),
      mergedProduct_of_fruitful fruitful]
    simp [combinations_append, combinations, List.flatMap_assoc, List.flatMap_map,
      List.map_flatMap, Function.comp_def, Record.merge_nested]

namespace ParamVector
variable {σ : Type}

theorem evaluate_crossProduct (around : Surroundings σ) (items : List ParamVector) :
    evaluate around (.crossProduct items) = do
      let vectors ← items.mapM (vectorOf (evaluate around))
      return .array (mergedProduct vectors) :=
  evaluate_eq_evaluateNode around (.crossProduct items)

theorem vectorOf_crossProduct (around : Surroundings σ) (items : List ParamVector) :
    vectorOf (evaluate around) (.crossProduct items) = do
      let vectors ← items.mapM (vectorOf (evaluate around))
      return mergedProduct vectors := by
  rw [vectorOf, evaluate_crossProduct, bind_assoc]
  simp only [pure_bind]
  rfl

theorem evaluate_nested (around : Surroundings σ) (before inner after : List ParamVector)
    (nonempty : inner ≠ []) :
    evaluate around (.crossProduct (before ++ [.crossProduct inner] ++ after)) =
      evaluate around (.crossProduct (before ++ inner ++ after)) := by
  -- The first inner item is set apart: that there is one is needed where only its vector is known.
  obtain ⟨first, others, rfl⟩ := List.exists_cons_of_ne_nil nonempty
  rw [evaluate_crossProduct, evaluate_crossProduct]
  simp only [List.append_assoc, List.mapM_append, List.mapM_cons, vectorOf_crossProduct,
    bind_assoc, pure_bind, List.cons_append, List.nil_append,
    mergedProduct_nested _ _ (List.cons_ne_nil _ _)]

theorem records_nested (around : Surroundings σ) (before inner after : List ParamVector)
    (nonempty : inner ≠ []) :
    records around (some (.crossProduct (before ++ [.crossProduct inner] ++ after))) =
      records around (some (.crossProduct (before ++ inner ++ after))) := by
  rw [records, records, evaluate_nested around before inner after nonempty]
  rfl

end ParamVector

/-- A product comes to the same, error or records, by the same calls, if a product among its items
gives place to its own items. That one must have some: without items it comes to no records, and so
does the product around it. -/
theorem nested_product_flattens (before inner after : List ParamVector) (nonempty : inner ≠ []) :
    let nested := ParamVector.crossProduct (before ++ [.crossProduct inner] ++ after)
    let flat := ParamVector.crossProduct (before ++ inner ++ after)
    (∀ {σ : Type} (around : Surroundings σ),
      ParamVector.evaluate around nested = ParamVector.evaluate around flat) ∧
    ∀ snapshots api identity,
      let around := Resolution.surroundings snapshots api identity
      Resolution.value around nested = Resolution.value around flat ∧
        Resolution.records around (some nested) =
          Resolution.records around (some flat) := by
  intro nested flat
  refine ⟨fun around => ParamVector.evaluate_nested around before inner after nonempty, ?_⟩
  intro snapshots api identity around
  constructor
  · rw [Resolution.value, ParamVector.evaluate_nested around before inner after nonempty]
    rfl
  · rw [Resolution.records, ParamVector.records_nested around before inner after nonempty]
    rfl

theorem listedWithNumber_flattens :
    let listed := [Json.object [("vm", .string "a")], .null]
    let around := Resolution.surroundings (fun _ => .ok []) (some fun _ _ => .ok (.array listed))
      ⟨"identity-1", "u"⟩
    let before := ParamVector.set [.object [("force", .bool true)]]
    let inner := [.call "vm.list" .null none, .set [.int 5]]
    let after := ParamVector.set [.object [("force", .bool false)], .object []]
    Resolution.records around
        (some (.crossProduct ([before] ++ [.crossProduct inner] ++ [after]))) =
      (.ok [[("force", .bool false), ("vm", .string "a")], [("force", .bool false)],
        [("force", .bool true), ("vm", .string "a")], [("force", .bool true)]],
        [⟨⟨"identity-1", "u"⟩, "vm.list", []⟩]) := by
  intro listed around before inner after
  obtain ⟨_, same⟩ := nested_product_flattens [before] inner [after] (by simp [inner])
  rw [(same _ _ _).2]
  rfl

end JobFanout
