import Mathlib.Order.Bounds.Basic
import JobFanout.Proofs.KeyedEntries
import JobFanout.Run.Execution
/-!
The ids that the calls of a run are entered under: the logged id if it is unused, and else the logged
id with the least number that makes it new. Whatever ids the log gives, repeated or made up to look
like numbered ones, each call gets an id that no earlier call of its run has.
-/
namespace JobFanout
variable {α β : Type}

theorem numberedId_injective (loggedId : String) : Function.Injective (numberedId loggedId) := by
  intro m n same
  exact Entries.repr_injective ((String.append_right_inj _).mp same)

theorem length_lt_length_numberedId (loggedId : String) (number : Nat) :
    loggedId.length < (numberedId loggedId number).length := by
  have hyphen : "-".length = 1 := rfl
  rw [numberedId, String.length_append, String.length_append, hyphen]
  omega

theorem numberedId_ne (loggedId : String) (number : Nat) :
    numberedId loggedId number ≠ loggedId := by
  intro same
  have longer := length_lt_length_numberedId loggedId number
  rw [same] at longer
  exact Nat.lt_irrefl _ longer

theorem numberedId_ne_empty (loggedId : String) (number : Nat) : numberedId loggedId number ≠ "" := by
  intro empty
  have longer := length_lt_length_numberedId loggedId number
  rw [empty] at longer
  exact Nat.not_lt_zero _ longer

-- With the logged id, the numbered ones up to the count of entries are one key too many.
theorem exists_unused_number {calls : Entries α} {loggedId : String}
    (used : loggedId ∈ Entries.keys calls) :
    ∃ k < calls.length, numberedId loggedId (k + 2) ∉ Entries.keys calls := by
  by_contra none
  push Not at none
  let candidates := (List.range calls.length).map fun k => numberedId loggedId (k + 2)
  have distinct : (loggedId :: candidates).Nodup := by
    refine List.nodup_cons.mpr ⟨?_, List.nodup_range.map ?_⟩
    · intro present
      obtain ⟨k, _, same⟩ := List.mem_map.mp present
      exact numberedId_ne loggedId (k + 2) same
    · intro m n same
      exact Nat.add_right_cancel (numberedId_injective loggedId same)
  have inKeys : loggedId :: candidates ⊆ Entries.keys calls := by
    intro id present
    rcases List.mem_cons.mp present with rfl | numbered
    · exact used
    · obtain ⟨k, below, rfl⟩ := List.mem_map.mp numbered
      exact none k (List.mem_range.mp below)
  have tooMany := distinct.length_le_of_subset inKeys
  simp [candidates, Entries.keys] at tooMany

theorem unusedCallId_of_unused {calls : Entries α} {loggedId : String}
    (unused : loggedId ∉ Entries.keys calls) :
    unusedCallId calls loggedId = loggedId := by
  have free : Entries.hasKey loggedId calls = false := by simpa [← Entries.hasKey_iff] using unused
  rw [unusedCallId, free]
  rfl

theorem unusedCallId_of_used {calls : Entries α} {loggedId : String}
    (used : loggedId ∈ Entries.keys calls) :
    ∃ number, IsLeast {number | 2 ≤ number ∧ numberedId loggedId number ∉ Entries.keys calls}
        number ∧
      number ≤ calls.length + 1 ∧ unusedCallId calls loggedId = numberedId loggedId number := by
  classical
  have some_unused := exists_unused_number used
  have unused : ∃ k, numberedId loggedId (k + 2) ∉ Entries.keys calls :=
    some_unused.imp fun _ found => found.2
  -- The search stops at the first of the candidates, and one is within its reach.
  have least : ∀ k, numberedId loggedId (k + 2) ∉ Entries.keys calls → Nat.find unused ≤ k :=
    fun k found => Nat.find_min' unused found
  obtain ⟨k, below, found⟩ := some_unused
  have reached : Nat.find unused < calls.length := lt_of_le_of_lt (least k found) below
  have first : (List.range calls.length).find?
      (fun k => !Entries.hasKey (numberedId loggedId (k + 2)) calls) = some (Nat.find unused) := by
    rw [List.find?_range_eq_some]
    refine ⟨?_, List.mem_range.mpr reached, fun earlier before => ?_⟩
    · simpa [← Entries.hasKey_iff] using Nat.find_spec unused
    · simpa [← Entries.hasKey_iff] using Nat.find_min unused before
  refine ⟨Nat.find unused + 2, ⟨⟨Nat.le_add_left 2 _, Nat.find_spec unused⟩, ?_⟩, ?_, ?_⟩
  · rintro number ⟨atLeast, candidate⟩
    obtain ⟨k, rfl⟩ := Nat.exists_eq_add_of_le' atLeast
    exact Nat.add_le_add_right (least k candidate) 2
  · omega
  · simp only [unusedCallId, Entries.hasKey_iff.mpr used, Bool.not_true, Bool.false_eq_true, if_false,
      List.find?_map, Function.comp_def, first]
    rfl

theorem unusedCallId_absent (calls : Entries α) (loggedId : String) :
    unusedCallId calls loggedId ∉ Entries.keys calls := by
  by_cases used : loggedId ∈ Entries.keys calls
  · obtain ⟨number, least, _, chosen⟩ := unusedCallId_of_used used
    exact chosen ▸ least.1.2
  · exact (unusedCallId_of_unused used).symm ▸ used

/-- Only the keys in use matter for the choice. -/
theorem unusedCallId_map (write : α → β) (calls : Entries α) (loggedId : String) :
    unusedCallId (calls.map fun entry => (entry.1, write entry.2)) loggedId =
      unusedCallId calls loggedId := by
  have sameKeys : ∀ id, Entries.hasKey id (calls.map fun entry => (entry.1, write entry.2)) =
      Entries.hasKey id calls := by
    intro id
    simp [Entries.hasKey, Entries.valueAt?_map]
  simp [unusedCallId, sameKeys]

/-! Calls entered one after another. -/

/-- Enters calls one after another, each under an id that is unused by then, and gives these ids. -/
def enterEach : List (String × α) → Entries α → List String × Entries α
  | [], entries => ([], entries)
  | (loggedId, call) :: rest, entries =>
    let callId := unusedCallId entries loggedId
    let (callIds, entered) := enterEach rest (Entries.put callId call entries)
    (callId :: callIds, entered)

theorem length_enterEach (issued : List (String × α)) (entries : Entries α) :
    (enterEach issued entries).1.length = issued.length := by
  induction issued generalizing entries with
  | nil => rfl
  | cons call rest ih => exact congrArg Nat.succ (ih _)

theorem nodup_enterEach (issued : List (String × α)) (entries : Entries α) :
    ((enterEach issued entries).1 ++ Entries.keys entries).Nodup ↔
      (Entries.keys entries).Nodup := by
  induction issued generalizing entries with
  | nil => rfl
  | cons call rest ih =>
    obtain ⟨loggedId, call⟩ := call
    have absent := unusedCallId_absent entries loggedId
    have entered := Entries.keys_put_perm absent call
    have moved := (entered.append_left (enterEach rest
      (Entries.put (unusedCallId entries loggedId) call entries)).1).trans List.perm_middle
    rw [enterEach, List.cons_append, ← moved.nodup_iff, ih, entered.nodup_iff, List.nodup_cons]
    exact and_iff_right absent

def freshCallIds (logIds : Nat → String) : (position count : Nat) → (used : Entries Unit) →
    List String
  | _, 0, _ => []
  | position, count + 1, used =>
    let callId := unusedCallId used (logIds position)
    callId :: freshCallIds logIds (position + 1) count (Entries.put callId () used)

theorem freshCallIds_eq_enterEach (logIds : Nat → String) (position count : Nat)
    (used : Entries Unit) :
    freshCallIds logIds position count used =
      (enterEach ((List.range' position count).map fun place => (logIds place, ())) used).1 := by
  induction count generalizing position used with
  | zero => rfl
  | succ count ih => exact congrArg (_ :: ·) (ih (position + 1) _)

@[simp] theorem length_freshCallIds (logIds : Nat → String) (position count : Nat)
    (used : Entries Unit) : (freshCallIds logIds position count used).length = count := by
  rw [freshCallIds_eq_enterEach, length_enterEach, List.length_map, List.length_range']

theorem freshCallIds_nodup (logIds : Nat → String) (position count : Nat) (used : Entries Unit) :
    (freshCallIds logIds position count used ++ Entries.keys used).Nodup ↔
      (Entries.keys used).Nodup := by
  rw [freshCallIds_eq_enterEach]
  exact nodup_enterEach _ used

end JobFanout
