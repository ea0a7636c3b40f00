import Mathlib.Data.List.Perm.Basic
import JobFanout.Record.Product
/-!
Combinations of vectors that are mapped, reordered or taken together.
-/
namespace JobFanout
variable {α β γ : Type}

theorem combinations_map (look : α → β) (vectors : List (List α)) :
    combinations (vectors.map (List.map look)) = (combinations vectors).map (List.map look) := by
  induction vectors with
  | nil => rfl
  | cons vector rest ih =>
    simp only [List.map_cons, combinations, ih, List.flatMap_map, List.map_flatMap, List.map_map]
    rfl

/-- Those of the first vectors turn faster than those of the second. -/
theorem combinations_append (first second : List (List α)) :
    combinations (first ++ second) =
      (combinations second).flatMap fun late => (combinations first).map (· ++ late) := by
  induction first with
  | nil => simp [combinations]
  | cons vector rest ih =>
    simp [combinations, ih, List.flatMap_assoc, List.flatMap_map, List.map_flatMap,
      Function.comp_def]

theorem isBarren_map (look : α → β) (vectors : List (List α)) :
    isBarren (vectors.map (List.map look)) = isBarren vectors := by
  simp [isBarren, List.any_map, Function.comp_def]

theorem product_map (look : α → β) (vectors : List (List α)) :
    product (vectors.map (List.map look)) = (product vectors).map (List.map look) := by
  rw [product, product, isBarren_map, combinations_map]
  by_cases barren : isBarren vectors = true <;> simp [barren]

variable {vectors vectors' : List (List α)}

theorem combinations_perm (reordered : List.Forall₂ List.Perm vectors vectors') :
    (combinations vectors).Perm (combinations vectors') := by
  induction reordered with
  | nil => rfl
  | cons perm _ ih => exact ih.flatMap fun others _ => perm.map (· :: others)

theorem isBarren_of_perm (reordered : List.Forall₂ List.Perm vectors vectors') :
    isBarren vectors = isBarren vectors' := by
  have someEmpty : vectors.any List.isEmpty = vectors'.any List.isEmpty := by
    induction reordered with
    | nil => rfl
    | cons perm _ ih => rw [List.any_cons, List.any_cons, ih, perm.isEmpty_eq]
  rw [isBarren, isBarren, someEmpty]
  cases reordered <;> rfl

theorem product_perm (reordered : List.Forall₂ List.Perm vectors vectors') :
    (product vectors).Perm (product vectors') := by
  rw [product, product, isBarren_of_perm reordered]
  by_cases barren : isBarren vectors' = true
  · simp [barren]
  · simpa [barren] using combinations_perm reordered

theorem isBarren_of_reordered (permuted : vectors.Perm vectors') :
    isBarren vectors = isBarren vectors' := by
  rw [isBarren, isBarren, permuted.isEmpty_eq, permuted.any_eq]

theorem flatMap_map_swap (f : α → β → γ) (items : List α) (others : List β) :
    (items.flatMap fun item => others.map (f item)).Perm
      (others.flatMap fun other => items.map fun item => f item other) := by
  induction items with
  | nil => simp
  | cons item rest ih =>
    exact (ih.append_left (others.map (f item))).trans (List.map_append_flatMap_perm others _ _)

end JobFanout
