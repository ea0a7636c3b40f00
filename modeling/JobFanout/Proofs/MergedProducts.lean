import JobFanout.Proofs.Combinations
import JobFanout.Proofs.MergedRecords
import JobFanout.Proofs.Odometers
/-!
Products of records, each combination merged into one. Where the records of different vectors share
no key, the order of the vectors only decides the order of the product.
-/
namespace JobFanout

/-- A product of records, each combination merged into one. -/
def mergedProduct (vectors : List (List Json)) : List Json :=
  (product vectors).map fun records => .object (Record.merge records)

variable {vectors vectors' : List (List Json)}

theorem mergedProduct_of_barren (barren : isBarren vectors = true) : mergedProduct vectors = [] := by
  rw [mergedProduct, product, if_pos barren, List.map_nil]

theorem mergedProduct_of_fruitful (fruitful : isBarren vectors = false) :
    mergedProduct vectors =
      (combinations vectors).map fun records => .object (Record.merge records) := by
  rw [mergedProduct, product, fruitful]
  rfl

theorem length_mergedProduct (vectors : List (List Json)) :
    (mergedProduct vectors).length = productSize vectors := by
  rw [mergedProduct, List.length_map, length_product]

theorem isEmpty_mergedProduct (vectors : List (List Json)) :
    (mergedProduct vectors).isEmpty = isBarren vectors := by
  rw [isBarren_eq, ← length_product, mergedProduct]
  cases product vectors <;> simp

/-! A merged product, pull by pull. -/

def pulledRecords (count : Nat) (vectors : List (List Json)) : List Json :=
  (Odometer.pulls (fun records (state : Unit) => (Json.object (Record.merge records), state)) count
    (Odometer.ofVectors vectors) ()).1

theorem Odometer.mergeInTurn_stateless {σ α β : Type} (merge : List α → β)
    (combinations : List (List α)) (state : σ) :
    (mergeInTurn (fun combination state => (merge combination, state)) combinations state).1 =
      combinations.map merge := by
  induction combinations with
  | nil => rfl
  | cons combination rest ih => simp [mergeInTurn_cons, ih]

theorem pulledRecords_eq_take (count : Nat) (vectors : List (List Json)) :
    pulledRecords count vectors = (mergedProduct vectors).take count := by
  have pulled := (Odometer.pulls_of_shows
    (fun records (state : Unit) => (Json.object (Record.merge records), state)) count
    (Odometer.shows_ofVectors vectors) ()).1
  rw [List.drop_zero] at pulled
  rw [pulledRecords, congrArg Prod.fst pulled, Odometer.mergeInTurn_stateless, List.map_take,
    mergedProduct]

theorem pulledRecords_eq {count : Nat} (enough : productSize vectors ≤ count) :
    pulledRecords count vectors = mergedProduct vectors := by
  rw [pulledRecords_eq_take, List.take_of_length_le (length_mergedProduct vectors ▸ enough)]

/-! Reordered vectors. -/

/-- No record of the one vector shares a key with a record of the other. -/
def Independent (vector vector' : List Json) : Prop :=
  ∀ record ∈ vector, ∀ record' ∈ vector', ∀ key,
    record.field? key = none ∨ record'.field? key = none

theorem Independent.symm {vector vector' : List Json} (apart : Independent vector vector') :
    Independent vector' vector :=
  fun record here record' there key => (apart record' there record here key).symm

theorem merge_combinations_cons (vector : List Json) (rest : List (List Json)) :
    (combinations (vector :: rest)).map Record.merge =
      ((combinations rest).map Record.merge).flatMap fun merged =>
        vector.map fun record => Record.merge [record, .object merged] := by
  have nested : ∀ record others, Record.merge [record, .object (Record.merge others)] =
      Record.merge (record :: others) := by
    intro record others
    simpa using Record.merge_nested [record] others []
  simp [combinations, List.map_flatMap, List.flatMap_map, Function.comp_def, nested]

theorem merge_combinations_swap {vector vector' : List Json} (apart : Independent vector vector')
    (rest : List (List Json)) :
    ((combinations (vector :: vector' :: rest)).map Record.merge).Perm
      ((combinations (vector' :: vector :: rest)).map Record.merge) := by
  simp only [combinations, List.flatMap_assoc, List.flatMap_map, List.map_flatMap, List.map_map]
  refine List.Perm.flatMap_left (combinations rest) fun others _ => ?_
  have exchanged : (vector'.flatMap fun record' => vector.map fun record =>
        Record.merge (record :: record' :: others)) =
      vector'.flatMap fun record' => vector.map fun record =>
        Record.merge (record' :: record :: others) := by
    refine List.flatMap_congr fun record' there => List.map_congr_left fun record here => ?_
    exact Record.merge_swap (apart record here record' there) others
  exact (List.Perm.of_eq exchanged).trans (flatMap_map_swap _ vector' vector)

theorem merge_combinations_perm (independent : vectors.Pairwise Independent)
    (permuted : vectors.Perm vectors') :
    ((combinations vectors).map Record.merge).Perm ((combinations vectors').map Record.merge) := by
  induction permuted with
  | nil => rfl
  | cons vector _ ih =>
    rw [merge_combinations_cons, merge_combinations_cons]
    exact (ih (List.pairwise_cons.mp independent).2).flatMap_right _
  | swap vector vector' rest =>
    exact merge_combinations_swap
      ((List.pairwise_cons.mp independent).1 vector List.mem_cons_self) rest
  | trans first _ ih ih' =>
    exact (ih independent).trans (ih' (independent.perm first Independent.symm))

theorem mergedProduct_perm (independent : vectors.Pairwise Independent)
    (permuted : vectors.Perm vectors') :
    (mergedProduct vectors).Perm (mergedProduct vectors') := by
  have sameBarren := isBarren_of_reordered permuted
  cases barren : isBarren vectors' with
  | true =>
    rw [mergedProduct_of_barren barren, mergedProduct_of_barren (sameBarren.trans barren)]
  | false =>
    rw [mergedProduct_of_fruitful barren, mergedProduct_of_fruitful (sameBarren.trans barren)]
    simpa [Function.comp_def] using
      (merge_combinations_perm independent permuted).map Json.object

/-- Where records of different vectors share no key, reordered vectors come to the same records in
another order, each as often as before, whether all are made at once or pulled from an odometer. -/
theorem independent_vectors_reordered (independent : vectors.Pairwise Independent)
    (permuted : vectors.Perm vectors') :
    (mergedProduct vectors').Perm (mergedProduct vectors) ∧
      ∀ count, productSize vectors ≤ count →
        (pulledRecords count vectors').Perm (pulledRecords count vectors) := by
  have reordered := (mergedProduct_perm independent permuted).symm
  refine ⟨reordered, fun count enough => ?_⟩
  have enough' : productSize vectors' ≤ count := by
    rw [← length_mergedProduct, reordered.length_eq, length_mergedProduct]
    exact enough
  rw [pulledRecords_eq enough, pulledRecords_eq enough']
  exact reordered

theorem repeatedMachine_reordered :
    let machines := [Json.object [("vm", .string "a")], .object [("vm", .string "a")]]
    let states := [Json.object [("on", .bool true)], .int 5]
    let shared := [Json.object [("force", .bool true)]]
    let switching := fun on =>
      Json.object [("force", .bool true), ("on", .bool on), ("vm", .string "a")]
    let forcing := Json.object [("force", .bool true), ("vm", .string "a")]
    [machines, states, shared].Pairwise Independent ∧
      [machines, states, shared].Perm [states, shared, machines] ∧
      mergedProduct [machines, states, shared] =
        [switching true, switching true, forcing, forcing] ∧
      (pulledRecords 9 [states, shared, machines]).Perm
        [switching true, switching true, forcing, forcing] := by
  intro machines states shared switching forcing
  have differ : ∀ {name name' : String}, name ≠ name' → ∀ key, ¬name = key ∨ ¬name' = key :=
    fun differ key => differ.ne_or_ne key
  have independent : [machines, states, shared].Pairwise Independent := by
    suffices (∀ key, ¬"vm" = key ∨ ¬"on" = key) ∧ (∀ key, ¬"vm" = key ∨ ¬"force" = key) ∧
        ∀ key, ¬"on" = key ∨ ¬"force" = key by
      simpa [machines, states, shared, Independent, Json.field?, Entries.valueAt?, and_assoc]
    exact ⟨differ (by decide), differ (by decide), differ (by decide)⟩
  have permuted : ([machines] ++ [states, shared]).Perm ([states, shared] ++ [machines]) :=
    List.perm_append_comm
  obtain ⟨_, pulled⟩ := independent_vectors_reordered independent permuted
  exact ⟨independent, permuted, rfl, pulled 9 (by decide)⟩

end JobFanout
