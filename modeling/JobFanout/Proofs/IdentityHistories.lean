import Mathlib.Data.List.Nodup
import JobFanout.Proofs.IdentityUses
/-!
The identities that are open after any history of openings, closings and questions. What has been
opened and not closed since is open, whatever users the closings name, and as many are counted as
have been opened and not closed since, if no generated id comes twice.
-/
namespace JobFanout

/-- The identity is opened, and none of its id is closed after that. -/
def StaysOpen (uses : List IdentityUse) (identity : Identity) : Prop :=
  ∃ earlier later, uses = earlier ++ .opened identity :: later ∧
    ∀ closed, .closed closed ∈ later → closed.id ≠ identity.id

def IdentityUse.closes (id : String) : IdentityUse → Bool
  | .closed identity => identity.id == id
  | _ => false

def IdentityUse.opening? : IdentityUse → Option Identity
  | .opened identity => some identity
  | _ => none

def openings (uses : List IdentityUse) : List Identity := uses.filterMap IdentityUse.opening?

/-- The identities opened and not closed since, in order. -/
def unclosed : List IdentityUse → List Identity
  | [] => []
  | .opened identity :: later =>
    if later.any (·.closes identity.id) then unclosed later else identity :: unclosed later
  | _ :: later => unclosed later

/-! What has not been closed since. -/

@[simp] theorem closes_opened (id : String) (identity : Identity) :
    (IdentityUse.opened identity).closes id = false := rfl

@[simp] theorem closes_closed (id : String) (identity : Identity) :
    (IdentityUse.closed identity).closes id = (identity.id == id) := rfl

@[simp] theorem closes_carried (id : String) (invocation : Invocation) :
    (IdentityUse.carried invocation).closes id = false := rfl

theorem any_closes_eq_false {uses : List IdentityUse} {id : String} :
    uses.any (·.closes id) = false ↔ ∀ closed, .closed closed ∈ uses → closed.id ≠ id := by
  rw [List.any_eq_false]
  constructor
  · intro none closed listed same
    exact none _ listed (beq_iff_eq.mpr same)
  · intro others use listed
    cases use with
    | closed identity => simpa using others identity listed
    | _ => exact Bool.false_ne_true

theorem staysOpen_cons {use : IdentityUse} {later : List IdentityUse} {identity : Identity} :
    StaysOpen (use :: later) identity ↔
      use = .opened identity ∧ later.any (·.closes identity.id) = false ∨
        StaysOpen later identity := by
  rw [any_closes_eq_false]
  constructor
  · rintro ⟨earlier, rest, same, others⟩
    cases earlier with
    | nil =>
      cases same
      exact .inl ⟨rfl, others⟩
    | cons first earlier =>
      cases same
      exact .inr ⟨earlier, rest, rfl, others⟩
  · rintro (⟨rfl, others⟩ | ⟨earlier, rest, rfl, others⟩)
    · exact ⟨[], later, rfl, others⟩
    · exact ⟨use :: earlier, rest, rfl, others⟩

theorem mem_unclosed {uses : List IdentityUse} {identity : Identity} :
    identity ∈ unclosed uses ↔ StaysOpen uses identity := by
  induction uses with
  | nil => simp [unclosed, StaysOpen]
  | cons use later ih =>
    rw [staysOpen_cons, ← ih]
    cases use with
    | opened first =>
      rw [unclosed]
      by_cases same : first = identity
      · subst same
        cases later.any (·.closes first.id) <;> simp
      · have other : identity ≠ first := Ne.symm same
        cases later.any (·.closes first.id) <;> simp [same, other]
    | _ => simp [unclosed]

theorem unclosed_sublist (uses : List IdentityUse) : (unclosed uses).Sublist (openings uses) := by
  induction uses with
  | nil => exact List.Sublist.refl []
  | cons use later ih =>
    cases use with
    | opened identity =>
      rw [unclosed]
      split
      · exact ih.cons identity
      · exact ih.cons_cons identity
    | _ => exact ih

/-! What is held open after each use, and after all of them. -/

namespace OpenIdentities
variable (identities : OpenIdentities)

theorem isOpen_iff {identity : Identity} :
    identities.isOpen identity = true ↔ identity.id ∈ identities.ids := by
  rw [isOpen, List.contains_iff_mem]

theorem mem_ids_opened {identity : Identity} {id : String} :
    id ∈ (identities.opened identity).ids ↔ id = identity.id ∨ id ∈ identities.ids := by
  unfold opened
  split
  · next held =>
    have known := identities.isOpen_iff.mp held
    exact ⟨.inr, fun either => either.elim (fun same => same ▸ known) fun other => other⟩
  · exact List.mem_cons

theorem mem_ids_closed {identity : Identity} {id : String} :
    id ∈ (identities.closed identity).ids ↔ id ∈ identities.ids ∧ id ≠ identity.id := by
  simp [closed]

theorem nodup_opened {identity : Identity} (nodup : identities.ids.Nodup) :
    (identities.opened identity).ids.Nodup := by
  unfold opened
  split
  · exact nodup
  · next unheld =>
    exact List.nodup_cons.mpr ⟨mt identities.isOpen_iff.mpr unheld, nodup⟩

theorem mem_ids_after {uses : List IdentityUse} {id : String} :
    id ∈ (identities.after uses).ids ↔
      id ∈ identities.ids ∧ uses.any (·.closes id) = false ∨
        id ∈ (unclosed uses).map Identity.id := by
  induction uses generalizing identities with
  | nil => simp [after, unclosed]
  | cons use later ih =>
    have step : identities.after (use :: later) = (identities.use use).after later := rfl
    rw [step, ih, List.any_cons]
    cases use with
    | opened identity =>
      simp only [OpenIdentities.use, mem_ids_opened, closes_opened, unclosed, Bool.false_or]
      by_cases same : id = identity.id
      · subst same
        cases closing : later.any (·.closes identity.id) <;> simp
      · cases later.any (·.closes identity.id) <;> simp [same]
    | closed identity =>
      simp only [OpenIdentities.use, mem_ids_closed, closes_closed, unclosed]
      by_cases same : id = identity.id
      · simp [same]
      · simp [same, Ne.symm same]
    | carried invocation => simp [OpenIdentities.use, unclosed]

theorem nodup_after {uses : List IdentityUse} (nodup : identities.ids.Nodup) :
    (identities.after uses).ids.Nodup := by
  induction uses generalizing identities with
  | nil => exact nodup
  | cons use later ih =>
    cases use with
    | opened identity => exact ih _ (identities.nodup_opened nodup)
    | closed identity => exact ih _ (nodup.filter _)
    | carried invocation => exact ih _ nodup

theorem isOpen_after_iff {uses : List IdentityUse} {identity : Identity} :
    (({} : OpenIdentities).after uses).isOpen identity = true ↔
      ∃ opened, StaysOpen uses opened ∧ opened.id = identity.id := by
  rw [isOpen_iff, mem_ids_after, List.mem_map]
  simp only [mem_unclosed, List.not_mem_nil, false_and, false_or]

theorem count_after_eq {uses : List IdentityUse}
    (fresh : ((openings uses).map Identity.id).Nodup) :
    (({} : OpenIdentities).after uses).count = (unclosed uses).length := by
  have held : (({} : OpenIdentities).after uses).ids.Perm ((unclosed uses).map Identity.id) := by
    refine (List.perm_ext_iff_of_nodup (nodup_after _ List.nodup_nil)
      (((unclosed_sublist uses).map Identity.id).nodup fresh)).mpr fun id => ?_
    simp [mem_ids_after]
  rw [count, held.length_eq, List.length_map]

/-! Closing. -/

theorem closed_of_unheld {identity : Identity} (unheld : identities.isOpen identity = false) :
    identities.closed identity = identities := by
  refine congrArg OpenIdentities.mk (List.filter_eq_self.mpr fun id held => ?_)
  refine decide_eq_true fun same => ?_
  rw [identities.isOpen_iff.mpr (same ▸ held)] at unheld
  cases unheld

theorem isOpen_closed (identity : Identity) (user : String) :
    (identities.closed identity).isOpen ⟨identity.id, user⟩ = false := by
  rw [Bool.eq_false_iff, ne_eq, isOpen_iff, mem_ids_closed]
  exact fun held => held.2 rfl

theorem isOpen_closed_other {identity other : Identity} (differ : other.id ≠ identity.id) :
    (identities.closed identity).isOpen other = identities.isOpen other := by
  rw [Bool.eq_iff_iff, isOpen_iff, isOpen_iff, mem_ids_closed]
  exact and_iff_left differ

theorem count_closed {identity : Identity} (nodup : identities.ids.Nodup)
    (held : identities.isOpen identity = true) :
    (identities.closed identity).count + 1 = identities.count := by
  have erased : (identities.closed identity).ids = identities.ids.erase identity.id := by
    rw [nodup.erase_eq_filter, closed]
    refine List.filter_congr fun id _ => ?_
    rw [bne, decide_not, Bool.beq_eq_decide_eq]
  have listed := identities.isOpen_iff.mp held
  rw [count, erased, List.length_erase_of_mem listed]
  exact Nat.sub_add_cancel (List.length_pos_of_mem listed)

end OpenIdentities

/-! The provider. -/

namespace Provider
variable (ids : Nat → String)

def after (provider : Provider) (history : List Request) : Provider :=
  history.foldl (fun provider request => (provider.perform ids request).2) provider

def useOf? : Request → Reply → Option IdentityUse
  | .closing identity, _ => some (.closed identity)
  | _, .opened identity => some (.opened identity)
  | _, _ => none

def uses (provider : Provider) : List Request → List IdentityUse
  | [] => []
  | request :: rest =>
    let (reply, next) := provider.perform ids request
    (useOf? request reply).toList ++ next.uses rest

theorem held_after (provider : Provider) (history : List Request) :
    (provider.after ids history).held = provider.held.after (provider.uses ids history) := by
  induction history generalizing provider with
  | nil => rfl
  | cons request rest ih =>
    have step : provider.after ids (request :: rest) =
        (provider.perform ids request).2.after ids rest := rfl
    rw [step, ih]
    cases request <;> rfl

theorem exists_generated {provider : Provider} {history : List Request} {identity : Identity}
    (listed : identity ∈ openings (provider.uses ids history)) :
    ∃ number, provider.generated ≤ number ∧ identity.id = ids number := by
  induction history generalizing provider with
  | nil => cases listed
  | cons request rest ih =>
    cases request with
    | opening user =>
      rcases List.mem_cons.mp listed with rfl | later
      · exact ⟨provider.generated, Nat.le_refl _, rfl⟩
      · obtain ⟨number, after, same⟩ := ih later
        exact ⟨number, Nat.le_of_succ_le after, same⟩
    | closing identity => exact @ih (provider.perform ids (.closing identity)).2 listed
    | asking identity => exact ih listed

variable {ids}

theorem nodup_openings (fresh : Function.Injective ids) (provider : Provider)
    (history : List Request) :
    ((openings (provider.uses ids history)).map Identity.id).Nodup := by
  induction history generalizing provider with
  | nil => exact List.nodup_nil
  | cons request rest ih =>
    have later := ih (provider.perform ids request).2
    cases request with
    | opening user =>
      refine List.nodup_cons.mpr ⟨fun again => ?_, later⟩
      obtain ⟨identity, listed, same⟩ := List.mem_map.mp again
      obtain ⟨number, after, given⟩ := exists_generated ids listed
      have generated : number = provider.generated := fresh (given.symm.trans same)
      rw [generated] at after
      exact Nat.not_succ_le_self _ after
    | closing identity => exact later
    | asking identity => exact later

/-- After any history the provider answers that an identity is open if and only if one of its id was
opened and none of that id closed since, and counts the identities opened and not closed since.
Closing an identity again, under whatever user, or one that is not open changes nothing, and closing
one leaves every other as it was. -/
theorem open_identities_counted (fresh : Function.Injective ids) (history : List Request) :
    let provider := ({} : Provider).after ids history
    let uses := ({} : Provider).uses ids history
    (∀ identity, (provider.perform ids (.asking identity)).2 = provider ∧
      ((provider.perform ids (.asking identity)).1 = .answered true ↔
        ∃ opened, StaysOpen uses opened ∧ opened.id = identity.id)) ∧
    (provider.held.count = (unclosed uses).length ∧ ((unclosed uses).map Identity.id).Nodup ∧
      ∀ identity, identity ∈ unclosed uses ↔ StaysOpen uses identity) ∧
    ∀ identity,
      let closed := (provider.perform ids (.closing identity)).2
      (∀ user, (closed.perform ids (.closing ⟨identity.id, user⟩)).2 = closed) ∧
      (provider.held.isOpen identity = false → closed = provider) ∧
      (provider.held.isOpen identity = true → closed.held.count + 1 = provider.held.count) ∧
      ∀ other, other.id ≠ identity.id →
        closed.held.isOpen other = provider.held.isOpen other := by
  intro provider uses
  have held : provider.held = ({} : OpenIdentities).after uses := held_after ids {} history
  have distinct := nodup_openings fresh {} history
  refine ⟨fun identity => ⟨rfl, ?_⟩, ⟨?_, ?_, fun _ => mem_unclosed⟩, fun identity => ?_⟩
  · rw [← OpenIdentities.isOpen_after_iff, ← held]
    exact ⟨Reply.answered.inj, congrArg Reply.answered⟩
  · rw [held, OpenIdentities.count_after_eq distinct]
  · exact ((unclosed_sublist uses).map Identity.id).nodup distinct
  · intro closed
    have nodup : provider.held.ids.Nodup := by
      rw [held]
      exact OpenIdentities.nodup_after _ List.nodup_nil
    refine ⟨fun user => ?_, fun unheld => ?_, provider.held.count_closed nodup,
      fun other differ => provider.held.isOpen_closed_other differ⟩
    · have released := provider.held.isOpen_closed identity user
      exact congrArg (Provider.mk provider.generated)
        ((provider.held.closed identity).closed_of_unheld released)
    · exact congrArg (Provider.mk provider.generated) (provider.held.closed_of_unheld unheld)

section TwoOpened

def numberedIdentity (number : Nat) : String := "identity-" ++ toString number

def twoOpened : List Request :=
  [.opening "admin", .opening "admin", .closing ⟨"identity-0", "stranger"⟩,
    .closing ⟨"identity-0", "admin"⟩, .closing ⟨"identity-2", "admin"⟩]

theorem twoOpened_counted :
    let provider := ({} : Provider).after numberedIdentity twoOpened
    Function.Injective numberedIdentity ∧ provider.held.count = 1 ∧
      (provider.perform numberedIdentity (.asking ⟨"identity-1", "stranger"⟩)).1 = .answered true ∧
      (provider.perform numberedIdentity (.asking ⟨"identity-0", "admin"⟩)).1 ≠ .answered true := by
  intro provider
  have fresh : Function.Injective numberedIdentity := fun _ _ same =>
    Entries.repr_injective ((String.append_right_inj _).mp same)
  obtain ⟨answers, ⟨count, _, stays⟩, _⟩ := open_identities_counted fresh twoOpened
  have remaining : unclosed (({} : Provider).uses numberedIdentity twoOpened) =
      [⟨"identity-1", "admin"⟩] := by rfl
  rw [remaining] at count
  simp only [remaining, List.mem_singleton] at stays
  refine ⟨fresh, count, ?_, ?_⟩
  · exact (answers _).2.mpr ⟨_, (stays _).mp rfl, rfl⟩
  · intro answered
    obtain ⟨opened, stayed, same⟩ := (answers _).2.mp answered
    rw [(stays opened).mpr stayed] at same
    revert same
    decide

end TwoOpened

end Provider
end JobFanout
