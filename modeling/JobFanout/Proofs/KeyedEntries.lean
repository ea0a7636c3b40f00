import Mathlib.Data.String.Basic
import Mathlib.Data.List.Sort
import JobFanout.Json.Entries
/-!
Keyed entries as finite maps. Writing keeps the keys ascending and changes what is found under one
key only; entries with ascending keys are determined by what is found under each key.
-/
namespace JobFanout.Entries
variable {α β : Type}

@[simp] theorem keys_nil : keys ([] : Entries α) = [] := rfl

@[simp] theorem keys_cons (key : String) (value : α) (rest : Entries α) :
    keys ((key, value) :: rest) = key :: keys rest := rfl

theorem ascending_nil : Ascending ([] : Entries α) := List.Pairwise.nil

theorem ascending_cons {key : String} {value : α} {rest : Entries α} :
    Ascending ((key, value) :: rest) ↔ (∀ other ∈ keys rest, key < other) ∧ Ascending rest :=
  List.pairwise_cons

theorem nodup_keys {entries : Entries α} (ascending : Ascending entries) :
    (keys entries).Nodup :=
  ascending.imp fun before => ne_of_lt before

/-- Keys that end in different numbers are different. -/
theorem repr_injective : Function.Injective Nat.repr := by
  intro m n same
  have read := congrArg (fun text => Nat.ofDigitChars 10 text.toList 0) same
  simpa only [Nat.toList_repr, Nat.ofDigitChars_ten_toDigits] using read

/-! What is found under a key. -/

theorem valueAt?_eq_none {key : String} {entries : Entries α} :
    valueAt? key entries = none ↔ key ∉ keys entries := by
  induction entries with
  | nil => simp [valueAt?]
  | cons entry rest ih =>
    obtain ⟨k, value⟩ := entry
    rw [keys_cons, List.mem_cons, not_or, ← ih]
    cases found : valueAt? key rest with
    | some later => simp [valueAt?, found]
    | none => simp [valueAt?, found, eq_comm (a := key)]

theorem hasKey_iff {key : String} {entries : Entries α} :
    hasKey key entries = true ↔ key ∈ keys entries := by
  rw [hasKey, Option.isSome_iff_ne_none, ne_eq, valueAt?_eq_none, not_not]

theorem exists_valueAt?_of_mem {key : String} {entries : Entries α} (present : key ∈ keys entries) :
    ∃ value, valueAt? key entries = some value :=
  Option.isSome_iff_exists.mp (hasKey_iff.mpr present)

theorem mem_of_valueAt? {key : String} {value : α} {entries : Entries α}
    (found : valueAt? key entries = some value) : (key, value) ∈ entries := by
  induction entries with
  | nil => cases found
  | cons entry rest ih =>
    obtain ⟨k, first⟩ := entry
    rw [valueAt?] at found
    cases later : valueAt? key rest with
    | some other =>
      rw [later] at found
      exact List.mem_cons_of_mem _ (ih (later.trans found))
    | none =>
      rw [later] at found
      by_cases same : k = key
      · simp_all
      · simp [same] at found

theorem valueAt?_cons {key other : String} {value : α} {rest : Entries α}
    (ascending : Ascending ((key, value) :: rest)) :
    valueAt? other ((key, value) :: rest) =
      if key = other then some value else valueAt? other rest := by
  by_cases same : key = other
  · subst same
    have absent : key ∉ keys rest := fun present =>
      lt_irrefl key ((ascending_cons.mp ascending).1 key present)
    simp [valueAt?, valueAt?_eq_none.mpr absent]
  · cases found : valueAt? other rest <;> simp [valueAt?, found, same]

@[simp] theorem valueAt?_nil (key : String) : valueAt? key ([] : Entries α) = none := rfl

/-- Later entries come first. -/
theorem valueAt?_cons_or (key k : String) (value : α) (rest : Entries α) :
    valueAt? key ((k, value) :: rest) =
      (valueAt? key rest).or (if k = key then some value else none) := by
  rw [valueAt?]
  cases valueAt? key rest <;> rfl

theorem valueAt?_append (key : String) (first second : Entries α) :
    valueAt? key (first ++ second) = (valueAt? key second).or (valueAt? key first) := by
  induction first with
  | nil => exact Option.or_none.symm
  | cons entry rest ih =>
    obtain ⟨k, value⟩ := entry
    rw [List.cons_append, valueAt?_cons_or, ih, valueAt?_cons_or, Option.or_assoc]

theorem valueAt?_mapWithKey (write : String → α → β) (key : String) (entries : Entries α) :
    valueAt? key (entries.map fun entry => (entry.1, write entry.1 entry.2)) =
      (valueAt? key entries).map (write key) := by
  induction entries with
  | nil => rfl
  | cons entry rest ih =>
    obtain ⟨k, value⟩ := entry
    simp only [List.map_cons, valueAt?, ih]
    cases valueAt? key rest with
    | some later => rfl
    | none => by_cases same : k = key <;> simp [same]

theorem keys_mapWithKey (write : String → α → β) (entries : Entries α) :
    keys (entries.map fun entry => (entry.1, write entry.1 entry.2)) = keys entries := by
  simp [keys, Function.comp_def]

theorem valueAt?_map (write : α → β) (key : String) (entries : Entries α) :
    valueAt? key (entries.map fun entry => (entry.1, write entry.2)) =
      (valueAt? key entries).map write :=
  valueAt?_mapWithKey (fun _ => write) key entries

theorem keys_map (write : α → β) (entries : Entries α) :
    keys (entries.map fun entry => (entry.1, write entry.2)) = keys entries :=
  keys_mapWithKey (fun _ => write) entries

/-! Writing under a key. -/

theorem mem_keys_put {key other : String} {value : α} {entries : Entries α} :
    other ∈ keys (put key value entries) ↔ other = key ∨ other ∈ keys entries := by
  induction entries with
  | nil => simp [put]
  | cons entry rest ih =>
    obtain ⟨k, v⟩ := entry
    unfold put
    split
    · simp
    · split
      · next same => simp [same]
      · simp only [keys_cons, List.mem_cons, ih]
        exact or_left_comm

theorem ascending_put {entries : Entries α} (ascending : Ascending entries) (key : String)
    (value : α) : Ascending (put key value entries) := by
  induction entries with
  | nil => simp [put, Ascending, keys]
  | cons entry rest ih =>
    obtain ⟨k, v⟩ := entry
    obtain ⟨least, tail⟩ := ascending_cons.mp ascending
    unfold put
    split
    · next before =>
      refine ascending_cons.mpr ⟨?_, ascending⟩
      intro other present
      rcases List.mem_cons.mp present with rfl | later
      · exact before
      · exact lt_trans before (least other later)
    · next notBefore =>
      split
      · next same =>
        subst same
        exact ascending_cons.mpr ⟨least, tail⟩
      · next different =>
        refine ascending_cons.mpr ⟨?_, ih tail⟩
        intro other present
        rcases mem_keys_put.mp present with rfl | later
        · exact lt_of_le_of_ne (not_lt.mp notBefore) (Ne.symm different)
        · exact least other later

theorem valueAt?_put {entries : Entries α} (ascending : Ascending entries) (key other : String)
    (value : α) :
    valueAt? other (put key value entries) =
      if key = other then some value else valueAt? other entries := by
  induction entries with
  | nil => simp [put, valueAt?]
  | cons entry rest ih =>
    obtain ⟨k, v⟩ := entry
    have written := ascending_put ascending key value
    unfold put at written ⊢
    split
    · next before =>
      rw [if_pos before] at written
      exact valueAt?_cons written
    · next notBefore =>
      rw [if_neg notBefore] at written
      split
      · next same =>
        rw [if_pos same] at written
        rw [valueAt?_cons written, valueAt?_cons ascending, ← same]
        by_cases hit : key = other <;> simp [hit]
      · next different =>
        rw [if_neg different] at written
        rw [valueAt?_cons written, valueAt?_cons ascending, ih (ascending_cons.mp ascending).2]
        by_cases first : k = other
        · subst first
          simp [different]
        · simp [first]

theorem put_perm {key : String} {entries : Entries α} (absent : key ∉ keys entries)
    (value : α) : (put key value entries).Perm ((key, value) :: entries) := by
  induction entries with
  | nil => rfl
  | cons entry rest ih =>
    obtain ⟨k, v⟩ := entry
    simp only [keys_cons, List.mem_cons, not_or] at absent
    unfold put
    split
    · rfl
    · rw [if_neg absent.1]
      exact ((ih absent.2).cons (k, v)).trans (List.Perm.swap (key, value) (k, v) rest)

theorem keys_put_perm {key : String} {entries : Entries α} (absent : key ∉ keys entries)
    (value : α) : (keys (put key value entries)).Perm (key :: keys entries) :=
  (put_perm absent value).map Prod.fst

theorem keys_put_of_present {key : String} {entries : Entries α} (ascending : Ascending entries)
    (present : key ∈ keys entries) (value : α) : keys (put key value entries) = keys entries := by
  induction entries with
  | nil => simp at present
  | cons entry rest ih =>
    obtain ⟨k, v⟩ := entry
    obtain ⟨least, tail⟩ := ascending_cons.mp ascending
    unfold put
    rcases List.mem_cons.mp present with rfl | later
    · simp
    · have after : k < key := least key later
      simp [not_lt_of_gt after, ne_of_gt after, ih tail later]

theorem map_put (write : α → β) (key : String) (value : α) (entries : Entries α) :
    (put key value entries).map (fun entry => (entry.1, write entry.2)) =
      put key (write value) (entries.map fun entry => (entry.1, write entry.2)) := by
  induction entries with
  | nil => rfl
  | cons entry rest ih =>
    obtain ⟨k, v⟩ := entry
    simp only [put, List.map_cons]
    split
    · rfl
    · split
      · rfl
      · simp [ih]

/-! Writing several entries, in order. -/

theorem ascending_putAll {entries : Entries α} (ascending : Ascending entries)
    (additions : Entries α) : Ascending (putAll additions entries) := by
  induction additions generalizing entries with
  | nil => exact ascending
  | cons entry rest ih => exact ih (ascending_put ascending entry.1 entry.2)

theorem valueAt?_putAll {entries : Entries α} (ascending : Ascending entries)
    (additions : Entries α) (key : String) :
    valueAt? key (putAll additions entries) =
      (valueAt? key additions).or (valueAt? key entries) := by
  induction additions generalizing entries with
  | nil => rfl
  | cons entry rest ih =>
    obtain ⟨k, value⟩ := entry
    have rewritten := ih (ascending_put ascending k value)
    simp only [putAll, List.foldl_cons] at rewritten ⊢
    rw [rewritten, valueAt?_put ascending]
    cases found : valueAt? key rest with
    | some later => simp [valueAt?, found]
    | none => by_cases same : k = key <;> simp [valueAt?, found, same]

theorem putAll_perm {additions entries : Entries α}
    (nodup : (keys (additions ++ entries)).Nodup) :
    (putAll additions entries).Perm (additions ++ entries) := by
  induction additions generalizing entries with
  | nil => rfl
  | cons entry rest ih =>
    obtain ⟨k, value⟩ := entry
    have absent : k ∉ keys entries := by
      simp only [keys, List.cons_append, List.map_cons, List.map_append] at nodup
      exact fun present => (List.nodup_cons.mp nodup).1 (List.mem_append_right _ present)
    have moved : (rest ++ put k value entries).Perm ((k, value) :: (rest ++ entries)) :=
      ((put_perm absent value).append_left rest).trans List.perm_middle
    exact (ih ((moved.map Prod.fst).nodup_iff.mpr nodup)).trans moved

theorem keys_putAll_perm {additions entries : Entries α}
    (nodup : (keys (additions ++ entries)).Nodup) :
    (keys (putAll additions entries)).Perm (keys additions ++ keys entries) := by
  simpa [keys] using (putAll_perm nodup).map Prod.fst

theorem valueAt?_of_mem {entries : Entries α} (nodup : (keys entries).Nodup) {key : String}
    {value : α} (present : (key, value) ∈ entries) : valueAt? key entries = some value := by
  induction entries with
  | nil => simp at present
  | cons entry rest ih =>
    obtain ⟨k, v⟩ := entry
    obtain ⟨absent, nodup⟩ := List.nodup_cons.mp nodup
    rcases List.mem_cons.mp present with same | later
    · cases same
      simp [valueAt?, valueAt?_eq_none.mpr absent]
    · simp [valueAt?, ih nodup later]

/-! Entries with ascending keys are what is found in them. -/

theorem keys_eq_of_perm {left : Entries α} {right : Entries β} (leftAscending : Ascending left)
    (rightAscending : Ascending right) (perm : (keys left).Perm (keys right)) :
    keys left = keys right :=
  perm.eq_of_pairwise' leftAscending rightAscending

theorem ext_of_valueAt? {left right : Entries α} (leftAscending : Ascending left)
    (rightAscending : Ascending right)
    (same : ∀ key, valueAt? key left = valueAt? key right) : left = right := by
  have present : ∀ key, key ∈ keys left ↔ key ∈ keys right := by
    intro key
    rw [← hasKey_iff, ← hasKey_iff, hasKey, hasKey, same key]
  have keysEqual : keys left = keys right :=
    keys_eq_of_perm leftAscending rightAscending ((List.perm_ext_iff_of_nodup
      (nodup_keys leftAscending) (nodup_keys rightAscending)).mpr present)
  clear present
  induction left generalizing right with
  | nil =>
    cases right with
    | nil => rfl
    | cons entry rest =>
      obtain ⟨key, value⟩ := entry
      simp at keysEqual
  | cons entry rest ih =>
    obtain ⟨key, value⟩ := entry
    cases right with
    | nil => simp at keysEqual
    | cons other tail =>
      obtain ⟨key', value'⟩ := other
      simp only [keys_cons, List.cons.injEq] at keysEqual
      obtain ⟨rfl, keysEqual⟩ := keysEqual
      have head := same key
      rw [valueAt?_cons leftAscending, valueAt?_cons rightAscending] at head
      simp only [if_true, Option.some.injEq] at head
      subst head
      congr 1
      refine ih (ascending_cons.mp leftAscending).2 (ascending_cons.mp rightAscending).2 ?_
        keysEqual
      intro sought
      by_cases first : key = sought
      · subst first
        have absent : key ∉ keys rest := fun later =>
          lt_irrefl key ((ascending_cons.mp leftAscending).1 key later)
        rw [valueAt?_eq_none.mpr absent, valueAt?_eq_none.mpr (keysEqual ▸ absent)]
      · have found := same sought
        rwa [valueAt?_cons leftAscending, valueAt?_cons rightAscending, if_neg first,
          if_neg first] at found

theorem putAll_nil {entries : Entries α} (ascending : Ascending entries) :
    putAll entries [] = entries := by
  apply ext_of_valueAt? (ascending_putAll ascending_nil entries) ascending
  intro key
  rw [valueAt?_putAll ascending_nil, valueAt?_nil, Option.or_none]

/-! Some of the entries, by key. -/

theorem valueAt?_filter (keep : String → Bool) (key : String) (entries : Entries α) :
    valueAt? key (entries.filter fun entry => keep entry.1) =
      if keep key then valueAt? key entries else none := by
  induction entries with
  | nil => simp
  | cons entry rest ih =>
    obtain ⟨k, value⟩ := entry
    rw [List.filter_cons]
    by_cases kept : keep k = true
    · rw [if_pos kept, valueAt?_cons_or, valueAt?_cons_or, ih]
      by_cases same : k = key
      · subst same
        simp [kept]
      · simp [same]
    · rw [if_neg kept, valueAt?_cons_or, ih]
      by_cases same : k = key
      · subst same
        simp [kept]
      · simp [same]

theorem ascending_filter {entries : Entries α} (ascending : Ascending entries)
    (keep : String × α → Bool) : Ascending (entries.filter keep) :=
  List.Pairwise.sublist (List.filter_sublist.map Prod.fst) ascending

end JobFanout.Entries
