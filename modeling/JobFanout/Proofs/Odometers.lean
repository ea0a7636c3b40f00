import Mathlib.Algebra.BigOperators.Ring.List
import Mathlib.Algebra.GroupWithZero.Nat
import Mathlib.Data.List.Forall2
import Mathlib.Logic.Function.Iterate
import JobFanout.Record.Product
/-!
Odometers count. The indices that an odometer shows are the digits of the number of pulls before, the
length of each vector being the base of its digit and the first digit the lowest. So the combinations
of `product` come in their order, each once, and then nothing more.
-/
namespace JobFanout
variable {σ α β : Type} {vectors : List (List α)}

/-! Combinations by their place in the product. -/

def turns (vectors : List (List α)) : Nat := (vectors.map List.length).prod

@[simp] theorem turns_nil : turns ([] : List (List α)) = 1 := rfl

@[simp] theorem turns_cons (vector : List α) (rest : List (List α)) :
    turns (vector :: rest) = vector.length * turns rest := List.prod_cons

/-- The index of the element that the combination at `count` takes from each vector. -/
def indicesAt (vectors : List (List α)) (count : Nat) : List Nat :=
  vectors.mapIdx fun place vector => count / turns (vectors.take place) % vector.length

@[simp] theorem indicesAt_nil (count : Nat) : indicesAt ([] : List (List α)) count = [] := rfl

@[simp] theorem indicesAt_cons (vector : List α) (rest : List (List α)) (count : Nat) :
    indicesAt (vector :: rest) count =
      count % vector.length :: indicesAt rest (count / vector.length) := by
  simp [indicesAt, List.mapIdx_cons, Nat.div_div_eq_div_mul]

theorem indicesAt_zero (vectors : List (List α)) :
    indicesAt vectors 0 = vectors.map fun _ => 0 := by
  induction vectors with
  | nil => rfl
  | cons vector rest ih => simp [ih]

theorem isBarren_iff : isBarren vectors = true ↔ vectors = [] ∨ turns vectors = 0 := by
  simp [isBarren, turns, List.prod_eq_zero_iff]

theorem productSize_eq :
    productSize vectors = if vectors.isEmpty then 0 else turns vectors := by
  have counted : ∀ size, vectors.foldl (fun size vector => size * vector.length) size =
      size * turns vectors := by
    induction vectors with
    | nil => simp
    | cons vector rest ih => simp [ih, Nat.mul_assoc]
  rw [productSize, counted, Nat.one_mul]

theorem length_combinations (vectors : List (List α)) :
    (combinations vectors).length = turns vectors := by
  induction vectors with
  | nil => rfl
  | cons vector rest ih => simp [combinations, List.length_flatMap, ih, Nat.mul_comm]

theorem length_product (vectors : List (List α)) :
    (product vectors).length = productSize vectors := by
  rw [product, productSize_eq]
  by_cases barren : isBarren vectors = true
  · rcases isBarren_iff.mp barren with rfl | none <;> simp_all
  · have fruitful := mt isBarren_iff.mpr barren
    rw [not_or] at fruitful
    simp [barren, fruitful.1, length_combinations]

theorem isBarren_eq (vectors : List (List α)) :
    isBarren vectors = decide (productSize vectors ≤ 0) := by
  rw [productSize_eq, Bool.eq_iff_iff, isBarren_iff]
  cases vectors <;> simp

theorem productSize_of_lt {count : Nat} (below : count < productSize vectors) :
    count < turns vectors ∧ productSize vectors = turns vectors := by
  rw [productSize_eq] at below ⊢
  cases vectors <;> simp_all

theorem product_of_lt {count : Nat} (below : count < productSize vectors) :
    product vectors = combinations vectors := by
  have fruitful : isBarren vectors = false := by
    rw [isBarren_eq, decide_eq_false_iff_not]
    omega
  rw [product, fruitful]
  rfl

theorem getElem?_flatMap {f : α → List β} {width : Nat} (positive : 0 < width)
    (even : ∀ item, (f item).length = width) (items : List α) (count : Nat) :
    (items.flatMap f)[count]? = items[count / width]?.bind fun item => (f item)[count % width]? := by
  induction items generalizing count with
  | nil => simp
  | cons item rest ih =>
    rw [List.flatMap_cons, List.getElem?_append, even]
    by_cases first : count < width
    · simp [first, Nat.div_eq_of_lt first, Nat.mod_eq_of_lt first]
    · have later : count = count - width + width := by omega
      rw [if_neg first, ih, later, Nat.add_div_right _ positive, Nat.add_mod_right]
      simp

abbrev Inside (indices : List Nat) (vectors : List (List α)) : Prop :=
  List.Forall₂ (fun index vector => index < vector.length) indices vectors

theorem inside_indicesAt {count : Nat} (below : count < turns vectors) :
    Inside (indicesAt vectors count) vectors := by
  induction vectors generalizing count with
  | nil => exact .nil
  | cons vector rest ih =>
    rw [turns_cons] at below
    have positive : 0 < vector.length := Nat.pos_of_mul_pos_right (Nat.zero_lt_of_lt below)
    rw [indicesAt_cons]
    exact .cons (Nat.mod_lt count positive) (ih (Nat.div_lt_of_lt_mul below))

theorem exists_indicesAt {indices : List Nat} (inside : Inside indices vectors) :
    ∃ count < turns vectors, indicesAt vectors count = indices := by
  induction inside with
  | nil => exact ⟨0, by simp, rfl⟩
  | @cons index vector _ rest small _ ih =>
    obtain ⟨count, below, rfl⟩ := ih
    have positive : 0 < vector.length := Nat.zero_lt_of_lt small
    refine ⟨vector.length * count + index, ?_, ?_⟩
    · have whole := Nat.mul_le_mul_left vector.length (Nat.succ_le_of_lt below)
      rw [Nat.mul_succ] at whole
      rw [turns_cons]
      omega
    · rw [indicesAt_cons, Nat.mul_add_mod, Nat.mod_eq_of_lt small, Nat.mul_add_div positive,
        Nat.div_eq_of_lt small, Nat.add_zero]

theorem indicesAt_injective {count count' : Nat} (below : count < turns vectors)
    (below' : count' < turns vectors) (same : indicesAt vectors count = indicesAt vectors count') :
    count = count' := by
  induction vectors generalizing count count' with
  | nil =>
    rw [turns_nil] at below below'
    omega
  | cons vector rest ih =>
    rw [turns_cons] at below below'
    rw [indicesAt_cons, indicesAt_cons, List.cons.injEq] at same
    have sameRest := ih (Nat.div_lt_of_lt_mul below) (Nat.div_lt_of_lt_mul below') same.2
    rw [← Nat.div_add_mod count vector.length, ← Nat.div_add_mod count' vector.length, sameRest,
      same.1]

namespace Odometer

theorem map_some_of_pick {indices : List Nat} {combination : List α}
    (picked : pick vectors indices = some combination) :
    combination.map some = List.zipWith (fun vector index => vector[index]?) vectors indices := by
  induction vectors generalizing indices combination with
  | nil =>
    cases picked
    rfl
  | cons vector rest ih =>
    cases indices with
    | nil =>
      cases picked
      rfl
    | cons index indices =>
      simp only [pick, Option.bind_eq_bind, Option.bind_eq_some_iff] at picked
      obtain ⟨element, taken, others, picked, same⟩ := picked
      cases same
      simp [taken, ih picked]

theorem pick_indicesAt {count : Nat} (below : count < turns vectors) :
    pick vectors (indicesAt vectors count) = (combinations vectors)[count]? := by
  induction vectors generalizing count with
  | nil =>
    obtain rfl : count = 0 := by simpa using below
    rfl
  | cons vector rest ih =>
    rw [turns_cons] at below
    have positive : 0 < vector.length := Nat.pos_of_mul_pos_right (Nat.zero_lt_of_lt below)
    rw [indicesAt_cons, pick, ih (Nat.div_lt_of_lt_mul below), combinations,
      getElem?_flatMap positive (by simp)]
    have inside : count % vector.length < vector.length := Nat.mod_lt count positive
    cases (combinations rest)[count / vector.length]? <;> simp [inside]

theorem map_some_of_product {count : Nat} {combination : List α}
    (listed : (product vectors)[count]? = some combination) :
    combination.map some = vectors.mapIdx fun place vector =>
      vector[count / turns (vectors.take place) % vector.length]? := by
  have below : count < productSize vectors := by
    rw [← length_product]
    exact (List.getElem?_eq_some_iff.mp listed).1
  rw [product_of_lt below, ← pick_indicesAt (productSize_of_lt below).1] at listed
  rw [map_some_of_pick listed]
  apply List.ext_getElem?
  intro place
  cases vector : vectors[place]? <;> simp [indicesAt, List.getElem?_zipWith, vector]

/-! Turning. -/

theorem turn_indicesAt {count : Nat} (below : count < turns vectors) :
    turn vectors (indicesAt vectors count) =
      if count + 1 < turns vectors then some (indicesAt vectors (count + 1)) else none := by
  induction vectors generalizing count with
  | nil =>
    obtain rfl : count = 0 := by simpa using below
    rfl
  | cons vector rest ih =>
    rw [turns_cons] at below ⊢
    have positive : 0 < vector.length := Nat.pos_of_mul_pos_right (Nat.zero_lt_of_lt below)
    have deeper := Nat.div_lt_of_lt_mul below
    rw [indicesAt_cons, indicesAt_cons, turn]
    have parts := Nat.div_add_mod count vector.length
    -- The first digit has room for one more, or it starts again and the others are turned.
    by_cases room : count % vector.length + 1 < vector.length
    · have next : vector.length * (count / vector.length) + (count % vector.length + 1) =
          count + 1 := by omega
      have fits : count + 1 < vector.length * turns rest := by
        have whole := Nat.mul_le_mul_left vector.length (Nat.succ_le_of_lt deeper)
        rw [Nat.mul_succ] at whole
        omega
      rw [if_pos room, if_pos fits, ← next, Nat.mul_add_div positive, Nat.mul_add_mod,
        Nat.div_eq_of_lt room, Nat.mod_eq_of_lt room]
      rfl
    · have small := Nat.mod_lt count positive
      have full : count + 1 = vector.length * (count / vector.length + 1) := by
        rw [Nat.mul_succ]
        omega
      rw [if_neg room, ih deeper, full, Nat.mul_div_cancel_left _ positive, Nat.mul_mod_right]
      by_cases last : count / vector.length + 1 < turns rest <;> simp [last, positive]

/-- The odometer shows the combination at `count`, or is done if there is none. -/
structure Shows (odometer : Odometer α) (vectors : List (List α)) (count : Nat) : Prop where
  turning : odometer.vectors = vectors
  done : odometer.done = decide (productSize vectors ≤ count)
  indices : count < productSize vectors → odometer.indices = indicesAt vectors count

theorem shows_ofVectors (vectors : List (List α)) : (ofVectors vectors).Shows vectors 0 where
  turning := rfl
  done := isBarren_eq vectors
  indices _ := (indicesAt_zero vectors).symm

variable {odometer : Odometer α} {count : Nat}

theorem Shows.advance (shows : odometer.Shows vectors count)
    (below : count < productSize vectors) : odometer.advance.Shows vectors (count + 1) := by
  obtain ⟨fits, size⟩ := productSize_of_lt below
  have turned := turn_indicesAt fits
  rw [← size, ← shows.indices below, ← shows.turning] at turned
  by_cases more : count + 1 < productSize vectors
  · rw [shows.turning, if_pos more] at turned
    rw [Odometer.advance, shows.turning, turned]
    exact ⟨rfl, by simp [shows.done, Nat.not_le.mpr below, more], fun _ => rfl⟩
  · rw [shows.turning, if_neg more] at turned
    rw [Odometer.advance, shows.turning, turned]
    exact ⟨rfl, by simpa using more, fun less => absurd less more⟩

theorem Shows.beyond (shows : odometer.Shows vectors count) (past : productSize vectors ≤ count)
    {later : Nat} (notBefore : count ≤ later) : odometer.Shows vectors later where
  turning := shows.turning
  done := by
    rw [shows.done]
    simp [past, past.trans notBefore]
  indices less := by omega

theorem Shows.pull (merge : List α → σ → β × σ) (state : σ) (shows : odometer.Shows vectors count) :
    odometer.pull merge state =
      match (product vectors)[count]? with
      | none => (none, odometer, state)
      | some combination =>
        (some (merge combination state).1, odometer.advance, (merge combination state).2) := by
  rw [Odometer.pull, shows.done]
  by_cases below : count < productSize vectors
  · obtain ⟨fits, size⟩ := productSize_of_lt below
    have picked : pick odometer.vectors odometer.indices = (product vectors)[count]? := by
      rw [shows.turning, shows.indices below, pick_indicesAt fits, product_of_lt below]
    obtain ⟨combination, found⟩ : ∃ combination, (product vectors)[count]? = some combination :=
      ⟨_, List.getElem?_eq_getElem (length_product vectors ▸ below)⟩
    simp [Nat.not_le.mpr below, picked, found]
  · have past := Nat.not_lt.mp below
    have none : (product vectors)[count]? = none := by
      rw [List.getElem?_eq_none_iff, length_product]
      exact past
    simp [past, none]

theorem Shows.pulled (merge : List α → σ → β × σ) (state : σ)
    (shows : odometer.Shows vectors count) :
    (odometer.pull merge state).2.1.Shows vectors (count + 1) := by
  rw [shows.pull merge state]
  cases found : (product vectors)[count]? with
  | none =>
    rw [List.getElem?_eq_none_iff, length_product] at found
    exact shows.beyond found (Nat.le_succ count)
  | some combination =>
    apply shows.advance
    rw [← length_product]
    exact (List.getElem?_eq_some_iff.mp found).1

/-! Many pulls. -/

def afterPulls (merge : List α → σ → β × σ) (count : Nat) (odometer : Odometer α) (state : σ) :
    Odometer α × σ :=
  (fun shown : Odometer α × σ => (shown.1.pull merge shown.2).2)^[count] (odometer, state)

/-- Merges combinations in turn, each in the state that the one before left. -/
def mergeInTurn (merge : List α → σ → β × σ) (combinations : List (List α)) (state : σ) :
    List β × σ :=
  (combinations.mapM (m := StateM σ) merge).run state

variable (merge : List α → σ → β × σ)

theorem mergeInTurn_cons (combination : List α) (rest : List (List α)) (state : σ) :
    mergeInTurn merge (combination :: rest) state =
      let (merged, after) := merge combination state
      let (others, last) := mergeInTurn merge rest after
      (merged :: others, last) := by
  rw [mergeInTurn, List.mapM_cons]
  rfl

theorem mergeInTurn_append (first second : List (List α)) (state : σ) :
    mergeInTurn merge (first ++ second) state =
      let (items, between) := mergeInTurn merge first state
      let (others, after) := mergeInTurn merge second between
      (items ++ others, after) := by
  rw [mergeInTurn, List.mapM_append]
  rfl

theorem length_mergeInTurn (combinations : List (List α)) (state : σ) :
    (mergeInTurn merge combinations state).1.length = combinations.length := by
  induction combinations generalizing state with
  | nil => rfl
  | cons combination rest ih => simp [mergeInTurn_cons, ih]

theorem afterPulls_succ (count : Nat) (odometer : Odometer α) (state : σ) :
    afterPulls merge (count + 1) odometer state =
      ((afterPulls merge count odometer state).1.pull merge
        (afterPulls merge count odometer state).2).2 :=
  Function.iterate_succ_apply' ..

theorem shows_afterPulls (vectors : List (List α)) (count : Nat) (state : σ) :
    (afterPulls merge count (ofVectors vectors) state).1.Shows vectors count := by
  induction count with
  | zero => exact shows_ofVectors vectors
  | succ count ih =>
    rw [afterPulls_succ]
    exact ih.pulled merge _

theorem state_afterPulls (vectors : List (List α)) (count : Nat) (state : σ) :
    (afterPulls merge count (ofVectors vectors) state).2 =
      (mergeInTurn merge ((product vectors).take count) state).2 := by
  induction count with
  | zero => rfl
  | succ count ih =>
    have pulled := (shows_afterPulls merge vectors count state).pull merge
      (afterPulls merge count (ofVectors vectors) state).2
    rw [afterPulls_succ, pulled, List.take_add_one, mergeInTurn_append]
    cases (product vectors)[count]? with
    | none => exact ih
    | some combination =>
      simp only [ih]
      rfl

theorem pulls_of_shows (taken : Nat) {odometer : Odometer α} {count : Nat}
    (shows : odometer.Shows vectors count) (state : σ) :
    let (items, reached, after) := pulls merge taken odometer state
    (items, after) = mergeInTurn merge (((product vectors).drop count).take taken) state ∧
      reached.Shows vectors (count + taken) := by
  induction taken generalizing odometer count state with
  | zero => exact ⟨rfl, shows⟩
  | succ taken ih =>
    rw [pulls, shows.pull merge state]
    cases found : (product vectors)[count]? with
    | none =>
      have past : (product vectors).length ≤ count := List.getElem?_eq_none_iff.mp found
      rw [List.drop_eq_nil_of_le past]
      exact ⟨rfl, shows.beyond (length_product vectors ▸ past) (by omega)⟩
    | some combination =>
      obtain ⟨below, same⟩ := List.getElem?_eq_some_iff.mp found
      have later := ih (shows.advance (length_product vectors ▸ below))
        (merge combination state).2
      rw [List.drop_eq_getElem_cons below, same, List.take_succ_cons, mergeInTurn_cons]
      constructor
      · simp only [← later.1]
      · have next : count + (taken + 1) = count + 1 + taken := by omega
        rw [next]
        exact later.2

/-- Pull by pull an odometer merges the combinations of its vectors, and then nothing any more. The
combination at `count` takes from each vector the element at one digit of `count`: the vectors before
it have the lower digits. -/
theorem odometer_enumerates_product (vectors : List (List α)) (merge : List α → σ → β × σ)
    (state : σ) :
    let size := if vectors.isEmpty then 0 else turns vectors
    let shown := fun count => afterPulls merge count (ofVectors vectors) state
    (product vectors).length = size ∧
    (∀ count combination, (product vectors)[count]? = some combination →
      combination.map some = vectors.mapIdx fun place vector =>
        vector[count / turns (vectors.take place) % vector.length]?) ∧
    (∀ count,
      let (odometer, reached) := shown count
      odometer.done = decide (size ≤ count) ∧
      reached = (mergeInTurn merge ((product vectors).take count) state).2 ∧
      odometer.pull merge reached =
        match (product vectors)[count]? with
        | none => (none, odometer, reached)
        | some combination =>
          (some (merge combination reached).1, odometer.advance, (merge combination reached).2)) ∧
    (∀ count < size, Inside (shown count).1.indices vectors) ∧
    (∀ indices, vectors ≠ [] → Inside indices vectors →
      ∃! count, count < size ∧ (shown count).1.indices = indices) ∧
    ∀ skipped taken,
      let first := pulls merge skipped (ofVectors vectors) state
      let next := pulls merge taken first.2.1 first.2.2
      first.1.length = min skipped size ∧ (first.1 ++ next.1).length = min (skipped + taken) size ∧
      (first.1 ++ next.1, next.2.2) =
        mergeInTurn merge ((product vectors).take (skipped + taken)) state := by
  intro size shown
  have position : ∀ count, (shown count).1.Shows vectors count :=
    fun count => shows_afterPulls merge vectors count state
  have counted : size = productSize vectors := productSize_eq.symm
  rw [counted]
  refine ⟨length_product vectors, fun _ _ => map_some_of_product, ?_, ?_, ?_, ?_⟩
  · exact fun count => ⟨(position count).done, state_afterPulls merge vectors count state,
      (position count).pull merge _⟩
  · intro count below
    rw [(position count).indices below]
    exact inside_indicesAt (productSize_of_lt below).1
  · intro indices some inside
    obtain ⟨count, fits, same⟩ := exists_indicesAt inside
    have below : count < productSize vectors := by
      rwa [productSize_eq, List.isEmpty_eq_false_iff.mpr some]
    refine ⟨count, ⟨below, ((position count).indices below).trans same⟩, ?_⟩
    rintro other ⟨otherBelow, otherSame⟩
    rw [(position other).indices otherBelow, ← same] at otherSame
    exact indicesAt_injective (productSize_of_lt otherBelow).1 fits otherSame
  · intro skipped taken
    obtain ⟨merged, between⟩ := pulls_of_shows merge skipped (shows_ofVectors vectors) state
    obtain ⟨mergedLater, _⟩ := pulls_of_shows merge taken between
      (pulls merge skipped (ofVectors vectors) state).2.2
    rw [List.drop_zero] at merged
    rw [Nat.zero_add] at mergedLater
    have whole := mergeInTurn_append merge ((product vectors).take skipped)
      (((product vectors).drop skipped).take taken) state
    rw [← List.take_add, ← merged] at whole
    simp only [← mergedLater] at whole
    refine ⟨?_, ?_, whole.symm⟩
    · rw [← length_product, ← List.length_take, ← length_mergeInTurn merge _ state, ← merged]
    · rw [← length_product, ← List.length_take, ← length_mergeInTurn merge _ state, whole]

theorem threeByTwo_enumerated :
    let vectors := [[1, 2, 3], [4, 5]]
    let numbered := fun (combination : List Nat) (made : Nat) => ((made, combination), made + 1)
    let shown := fun count => afterPulls numbered count (ofVectors vectors) 0
    ((shown 4).1.pull numbered (shown 4).2).1 = some (4, [2, 5]) ∧
    (∃! count, count < 6 ∧ (shown count).1.indices = [2, 1]) ∧
    let skipped := pulls numbered 4 (ofVectors vectors) 0
    (pulls numbered 10 skipped.2.1 skipped.2.2).2.2 = 6 := by
  intro vectors numbered shown
  obtain ⟨_, _, pulled, _, once, skip⟩ := odometer_enumerates_product vectors numbered 0
  have merged : (mergeInTurn numbered ((product vectors).take (4 + 10)) 0).2 = 6 := by decide
  refine ⟨congrArg Prod.fst (pulled 4).2.2, once [2, 1] (by decide) (by decide), ?_⟩
  rw [← merged, ← (skip 4 10).2.2]

end Odometer
end JobFanout
