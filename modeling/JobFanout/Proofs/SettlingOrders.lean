import Mathlib.Data.List.Perm.Basic
import Mathlib.Data.List.Perm.Subperm
import JobFanout.Run.Execution
/-!
The orders in which the calls of a run end: always a permutation of them, and by the right choice of
the environment any permutation.
-/
namespace JobFanout

theorem nodup_eraseDups {α : Type} [BEq α] [LawfulBEq α] (items : List α) :
    items.eraseDups.Nodup := by
  match items with
  | [] => simp
  | item :: rest =>
    rw [List.eraseDups_cons, List.nodup_cons]
    exact ⟨by simp [List.mem_eraseDups], nodup_eraseDups _⟩
termination_by items.length
decreasing_by exact Nat.lt_succ_of_le (List.length_filter_le _ rest)

theorem eraseDups_of_nodup {α : Type} [BEq α] [LawfulBEq α] {items : List α}
    (nodup : items.Nodup) : items.eraseDups = items := by
  induction items with
  | nil => rfl
  | cons item rest ih =>
    obtain ⟨absent, nodup⟩ := List.nodup_cons.mp nodup
    have kept : rest.filter (fun other => !other == item) = rest := by
      apply List.filter_eq_self.mpr
      intro other present
      have different : other ≠ item := fun same => absent (same ▸ present)
      simpa using different
    rw [List.eraseDups_cons, kept, ih nodup]

theorem settlingOrder_perm (first : List Nat) (count : Nat) :
    (settlingOrder first count).Perm (List.range count) := by
  have nodup : (settlingOrder first count).Nodup := by
    refine List.nodup_append.mpr ⟨nodup_eraseDups _, List.nodup_range.filter _, ?_⟩
    intro place named other left same
    subst same
    simp_all
  apply (List.perm_ext_iff_of_nodup nodup List.nodup_range).mpr
  intro place
  simp only [settlingOrder, List.mem_append, List.mem_eraseDups, List.mem_filter,
    List.mem_range, List.contains_eq_mem, decide_eq_true_eq, Bool.not_eq_true',
    decide_eq_false_iff_not]
  by_cases named : place ∈ first
  · by_cases below : place < count <;> simp [named, below]
  · simp [named]

/-- No order is left out. -/
theorem settlingOrder_of_perm {order : List Nat} {count : Nat}
    (perm : order.Perm (List.range count)) : settlingOrder order count = order := by
  have below : order.filter (fun place => decide (place < count)) = order := by
    apply List.filter_eq_self.mpr
    intro place present
    simpa using List.mem_range.mp (perm.subset present)
  have named : (order.filter fun place => decide (place < count)).eraseDups = order := by
    rw [below, eraseDups_of_nodup (perm.nodup_iff.mpr List.nodup_range)]
  have others : (List.range count).filter (fun place => !order.contains place) = [] := by
    apply List.filter_eq_nil_iff.mpr
    intro place present
    simpa using perm.symm.subset present
  simp only [settlingOrder, named, others, List.append_nil]

theorem filterMap_range_getElem? {α : Type} (items : List α) :
    (List.range items.length).filterMap (items[·]?) = items := by
  induction items with
  | nil => rfl
  | cons item rest ih =>
    rw [List.length_cons, List.range_succ_eq_map, List.filterMap_cons, List.filterMap_map]
    simpa [Function.comp_def] using ih

namespace Execution

theorem inSettlingOrder_perm (env : Environment) (run : Nat) (ended : List EndedCall) :
    (inSettlingOrder env run ended).Perm ended := by
  have reordered := (settlingOrder_perm (env.settling run) ended.length).filterMap (ended[·]?)
  rwa [filterMap_range_getElem?] at reordered

end Execution
end JobFanout
