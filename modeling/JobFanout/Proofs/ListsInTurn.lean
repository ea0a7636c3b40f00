import Mathlib.Data.List.Perm.Basic
/-!
Doing something for each member of a list in turn, where the first error ends it: which member the
error is from, and what two such passes over related lists have in common.
-/
namespace JobFanout
variable {ε α β γ δ : Type}

theorem mapM_congr {m : Type → Type} [Monad m] [LawfulMonad m] {each each' : α → m β}
    {items : List α} (same : ∀ item ∈ items, each item = each' item) :
    items.mapM each = items.mapM each' := by
  induction items with
  | nil => rfl
  | cons item rest ih =>
    rw [List.mapM_cons, List.mapM_cons, same item List.mem_cons_self,
      ih fun other listed => same other (List.mem_cons_of_mem item listed)]

theorem mapM_cons_of_ok {each : α → Except ε β} {item : α} {result : β} (rest : List α)
    (fine : each item = .ok result) :
    (item :: rest).mapM each = (rest.mapM each).map (result :: ·) := by
  rw [List.mapM_cons, fine]
  cases rest.mapM each <;> rfl

theorem mapM_cons_of_error {each : α → Except ε β} {item : α} {error : ε} (rest : List α)
    (failed : each item = .error error) : (item :: rest).mapM each = .error error := by
  rw [List.mapM_cons, failed]
  rfl

theorem mapM_same {each : α → Except ε β} {once : Except ε β} (same : ∀ item, each item = once)
    (items : List α) :
    items.mapM each =
      if items.length = 0 then .ok [] else once.map (List.replicate items.length) := by
  induction items with
  | nil => rfl
  | cons item rest ih =>
    cases outcome : once with
    | error error => exact mapM_cons_of_error rest ((same item).trans outcome)
    | ok result =>
      rw [mapM_cons_of_ok rest ((same item).trans outcome), ih, outcome]
      cases rest <;> rfl

theorem mapM_mapM {each : α → Except ε β} {next : β → Except ε γ}
    (accepts : ∀ item middle, each item = .ok middle → ∃ result, next middle = .ok result)
    (items : List α) :
    (items.mapM each >>= fun middle => middle.mapM next) =
      items.mapM fun item => each item >>= next := by
  induction items with
  | nil => rfl
  | cons item rest ih =>
    cases made : each item with
    | error error =>
      have both : (each item >>= next) = .error error := by
        rw [made]
        rfl
      rw [mapM_cons_of_error rest made, mapM_cons_of_error rest both]
      rfl
    | ok middle =>
      obtain ⟨result, fine⟩ := accepts item middle made
      have both : (each item >>= next) = .ok result := by
        rw [made]
        exact fine
      rw [mapM_cons_of_ok rest made, mapM_cons_of_ok rest both, ← ih]
      cases rest.mapM each with
      | error error => rfl
      | ok others => exact mapM_cons_of_ok others fine

theorem mapM_eq_ok {each : α → Except ε β} {items : List α} {results : List β} :
    items.mapM each = .ok results ↔
      List.Forall₂ (fun item result => each item = .ok result) items results := by
  induction items generalizing results with
  | nil => cases results <;> simp [pure, Except.pure]
  | cons item rest ih =>
    rw [List.forall₂_cons_left_iff]
    cases outcome : each item with
    | error error => simp [mapM_cons_of_error rest outcome]
    | ok result =>
      rw [mapM_cons_of_ok rest outcome]
      simp only [← ih, Except.ok.injEq]
      cases rest.mapM each <;> simp [Except.map, eq_comm]

theorem mapM_succeeds_iff {each : α → Except ε β} {items : List α} :
    (∃ results, items.mapM each = .ok results) ↔
      ∀ item ∈ items, ∃ result, each item = .ok result := by
  induction items with
  | nil => simp [pure, Except.pure]
  | cons item rest ih =>
    rw [List.forall_mem_cons, ← ih]
    cases outcome : each item with
    | error error => simp [mapM_cons_of_error rest outcome]
    | ok result =>
      rw [mapM_cons_of_ok rest outcome]
      cases rest.mapM each <;> simp [Except.map]

theorem exists_of_mapM_eq_error {each : α → Except ε β} {items : List α} {error : ε}
    (failed : items.mapM each = .error error) :
    ∃ earlier item later, items = earlier ++ item :: later ∧
      (∀ other ∈ earlier, ∃ result, each other = .ok result) ∧ each item = .error error := by
  induction items with
  | nil => cases failed
  | cons first rest ih =>
    cases outcome : each first with
    | error other =>
      rw [mapM_cons_of_error rest outcome] at failed
      cases failed
      exact ⟨[], first, rest, rfl, by simp, outcome⟩
    | ok result =>
      rw [mapM_cons_of_ok rest outcome] at failed
      cases others : rest.mapM each with
      | ok results =>
        rw [others] at failed
        cases failed
      | error other =>
        rw [others] at failed
        cases failed
        obtain ⟨earlier, item, later, split, fine, itemFailed⟩ := ih others
        refine ⟨first :: earlier, item, later, congrArg (first :: ·) split, ?_, itemFailed⟩
        intro other listed
        rcases List.mem_cons.mp listed with rfl | before
        · exact ⟨result, outcome⟩
        · exact fine other before

/-- Both fail, with whatever errors, or both succeed with related results. -/
inductive BothEnd (rel : α → β → Prop) : Except ε α → Except ε β → Prop where
  | fine {left : α} {right : β} (related : rel left right) : BothEnd rel (.ok left) (.ok right)
  | failed (error error' : ε) : BothEnd rel (.error error) (.error error')

namespace BothEnd
variable {rel : α → β → Prop}

theorem bind {rel' : γ → δ → Prop} {left : Except ε α} {right : Except ε β}
    {next : α → Except ε γ} {next' : β → Except ε δ} (ends : BothEnd rel left right)
    (nextEnds : ∀ value value', rel value value' → BothEnd rel' (next value) (next' value')) :
    BothEnd rel' (left >>= next) (right >>= next') := by
  cases ends with
  | fine related => exact nextEnds _ _ related
  | failed error error' => exact .failed error error'

theorem mapM {rel' : γ → δ → Prop} {each : α → Except ε γ} {each' : β → Except ε δ}
    {items : List α} {items' : List β} (paired : List.Forall₂ rel items items')
    (ends : ∀ item item', rel item item' → BothEnd rel' (each item) (each' item')) :
    BothEnd (List.Forall₂ rel') (items.mapM each) (items'.mapM each') := by
  induction paired with
  | nil => exact .fine .nil
  | cons related _ ih =>
    rw [List.mapM_cons, List.mapM_cons]
    apply (ends _ _ related).bind
    intro first first' firstRelated
    apply ih.bind
    intro others others' othersRelated
    exact .fine (.cons firstRelated othersRelated)

theorem mono {rel' : α → β → Prop} {left : Except ε α} {right : Except ε β}
    (ends : BothEnd rel left right) (wider : ∀ value value', rel value value' → rel' value value') :
    BothEnd rel' left right := by
  cases ends with
  | fine related => exact .fine (wider _ _ related)
  | failed error error' => exact .failed error error'

theorem trans {rel' : β → γ → Prop} {first : Except ε α} {second : Except ε β}
    {third : Except ε γ} (ends : BothEnd rel first second) (ends' : BothEnd rel' second third) :
    BothEnd (Relation.Comp rel rel') first third := by
  cases ends with
  | fine related =>
    cases ends' with
    | fine related' => exact .fine ⟨_, related, related'⟩
  | failed error error' =>
    cases ends' with
    | failed _ error'' => exact .failed error error''

theorem results {left : Except ε α} {right : Except ε β} (ends : BothEnd rel left right) :
    ((∃ value, left = .ok value) ↔ ∃ value, right = .ok value) ∧
      ∀ value value', left = .ok value → right = .ok value' → rel value value' := by
  cases ends with
  | fine related =>
    refine ⟨by simp, ?_⟩
    rintro value value' ⟨⟩ ⟨⟩
    exact related
  | failed error error' => simp

theorem mapM_perm {each : α → Except ε β} {items items' : List α} (perm : items.Perm items') :
    BothEnd List.Perm (items.mapM each) (items'.mapM each) := by
  have reordered : ∀ {first second : List α} {results : List β}, first.Perm second →
      second.mapM each = .ok results →
      ∃ results', first.mapM each = .ok results' ∧ results'.Perm results := by
    intro first second results perm fine
    obtain ⟨results', fine', perm'⟩ := List.perm_comp_forall₂ perm (mapM_eq_ok.mp fine)
    exact ⟨results', mapM_eq_ok.mpr fine', perm'⟩
  cases outcome : items'.mapM each with
  | ok results =>
    obtain ⟨results', fine, perm'⟩ := reordered perm outcome
    rw [fine]
    exact .fine perm'
  | error error =>
    cases outcome' : items.mapM each with
    | error error' => exact .failed error' error
    | ok results =>
      obtain ⟨results', fine, _⟩ := reordered perm.symm outcome'
      rw [outcome] at fine
      cases fine

/-- Lists that look the same in another order come to lists that look the same in another order. -/
theorem mapM_of_views {κ κ' : Type} {view : α → κ} {view' : γ → κ'} {each each' : α → Except ε γ}
    {items items' : List α} (perm : (items.map view).Perm (items'.map view))
    (ends : ∀ item item', view item = view item' →
      BothEnd (fun result result' => view' result = view' result') (each item) (each' item')) :
    BothEnd (fun results results' => (results.map view').Perm (results'.map view'))
      (items.mapM each) (items'.mapM each') := by
  have own : List.Forall₂ (fun seen item => seen = view item) (items'.map view) items' := by
    simp [List.forall₂_map_left_iff, List.forall₂_same]
  obtain ⟨middle, paired, perm⟩ := List.perm_comp_forall₂ perm own
  rw [List.forall₂_map_left_iff] at paired
  apply ((mapM paired ends).trans (mapM_perm perm)).mono
  rintro results results' ⟨between, alike, reordered⟩
  have sameViews : results.map view' = between.map view' := by
    rwa [← List.forall₂_eq_eq_eq, List.forall₂_map_left_iff, List.forall₂_map_right_iff]
  rw [sameViews]
  exact reordered.map view'

end BothEnd
end JobFanout
