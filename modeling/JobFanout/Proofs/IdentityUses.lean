import JobFanout.Proofs.RunEndings
/-!
What a journal says of identities, and when they are used in turn: one at a time, each closed once
and before the next one opens. Uses in turn leave the identities that others hold open as they were.
-/
namespace JobFanout

inductive IdentityUse where
  | opened (identity : Identity)
  | closed (identity : Identity)
  | carried (invocation : Invocation)

def Entry.identityUse? : Entry → Option IdentityUse
  | .opened identity => some (.opened identity)
  | .closed identity _ => some (.closed identity)
  | .invoked invocation => some (.carried invocation)
  | _ => none

def identityUses (entries : List Entry) : List IdentityUse :=
  entries.filterMap Entry.identityUse?

/-- The identity open after one more use, if any is; no answer if the use is out of turn. -/
def nextOpen : Option Identity → IdentityUse → Option (Option Identity)
  | none, .opened identity => some (some identity)
  | some _, .opened _ => none
  | some identity, .closed other => if other = identity then some none else none
  | none, .closed _ => none
  | current, .carried _ => some current

def InTurn (uses : List IdentityUse) : Prop := uses.foldlM nextOpen none = some none

theorem InTurn.nil : InTurn [] := rfl

theorem InTurn.append {first second : List IdentityUse} (one : InTurn first)
    (other : InTurn second) : InTurn (first ++ second) := by
  rw [InTurn, List.foldlM_append, one]
  exact other

theorem foldlM_nextOpen_carried (current : Option Identity) (calls : List Invocation) :
    (calls.map IdentityUse.carried).foldlM nextOpen current = some current := by
  induction calls with
  | nil => rfl
  | cons call rest ih =>
    rw [List.map_cons, List.foldlM_cons]
    cases current <;> exact ih

/-! An identity and its calls. -/

structure Access where
  identity : Identity
  calls : List Invocation

structure Access.Owned (env : Environment) (user : String) (access : Access) : Prop where
  opened : ∃ number, access.identity = ⟨env.identityIds number, user⟩
  carried : ∀ call ∈ access.calls, call.identity = access.identity

namespace Access

/-- The calls are made while the identity is open. -/
def around (access : Access) : List IdentityUse :=
  .opened access.identity :: (access.calls.map .carried ++ [.closed access.identity])

/-- The calls are made once the identity is closed. -/
def ahead (access : Access) : List IdentityUse :=
  .opened access.identity :: .closed access.identity :: access.calls.map .carried

theorem inTurn_around (access : Access) : InTurn access.around := by
  have calling := foldlM_nextOpen_carried (some access.identity) access.calls
  simp only [InTurn, around, List.foldlM_cons, List.foldlM_append, nextOpen, Option.bind_eq_bind,
    Option.bind_some, calling, if_true, List.foldlM_nil, Option.pure_def]

theorem inTurn_ahead (access : Access) : InTurn access.ahead := by
  have calling := foldlM_nextOpen_carried none access.calls
  simp only [InTurn, ahead, List.foldlM_cons, nextOpen, Option.bind_eq_bind, Option.bind_some,
    if_true, calling]

end Access

/-! What journals say. -/

theorem identityUses_append (first second : List Entry) :
    identityUses (first ++ second) = identityUses first ++ identityUses second :=
  List.filterMap_append ..

theorem identityUses_noted (logIds : Nat → String) (position : Nat) (notes : List Note) :
    identityUses (noted logIds position notes) = [] :=
  filterMap_noted (fun _ _ _ _ => rfl) logIds position notes

theorem identityUses_invoked (calls : List Invocation) :
    identityUses (calls.map Entry.invoked) = calls.map .carried := by
  rw [identityUses, List.filterMap_map]
  exact congrFun (List.filterMap_eq_map (f := IdentityUse.carried)) calls

theorem identityUses_resolutionEntries (identity : Identity) (finished : Nat)
    (asked : Option (List Invocation)) :
    identityUses (resolutionEntries identity finished asked) =
      (asked.map (Access.mk identity)).elim [] Access.around := by
  cases asked with
  | none => rfl
  | some asked =>
    refine congrArg (IdentityUse.opened identity :: ·) ((identityUses_append _ _).trans ?_)
    rw [identityUses_invoked]
    rfl

theorem identityUses_terminationEntries (env : Environment) (job : Job) (records : List Record)
    (resolved before : Progress) :
    identityUses (Execution.terminationEntries env job records resolved before) =
      Access.ahead ⟨Execution.callIdentity env job resolved,
        Execution.callsMade env job records resolved⟩ := by
  simp only [Execution.terminationEntries, Execution.launchEntries, Execution.joinEntries,
    identityUses_append, identityUses_noted, identityUses_invoked]
  simp [identityUses, Entry.identityUse?, Access.ahead]

/-! Identities that are held open. -/

namespace OpenIdentities

def use (identities : OpenIdentities) : IdentityUse → OpenIdentities
  | .opened identity => identities.opened identity
  | .closed identity => identities.closed identity
  | .carried _ => identities

def after (identities : OpenIdentities) (uses : List IdentityUse) : OpenIdentities :=
  uses.foldl use identities

theorem closed_opened {identities : OpenIdentities} {identity : Identity}
    (fresh : identity.id ∉ identities.ids) :
    (identities.opened identity).closed identity = identities := by
  have other : ∀ id ∈ identities.ids, decide (id ≠ identity.id) = true := by
    intro id held
    exact decide_eq_true fun same => fresh (same ▸ held)
  have unheld : identities.isOpen identity = false := by simpa [isOpen] using fresh
  rw [opened, unheld, if_neg Bool.false_ne_true, closed]
  simp only [List.filter_cons, ne_eq, not_true_eq_false, decide_false]
  exact congrArg OpenIdentities.mk (List.filter_eq_self.mpr other)

theorem after_eq {identities : OpenIdentities} {uses : List IdentityUse}
    {current final : Option Identity} (turns : uses.foldlM nextOpen current = some final)
    (freshCurrent : ∀ identity ∈ current, identity.id ∉ identities.ids)
    (fresh : ∀ identity, .opened identity ∈ uses → identity.id ∉ identities.ids) :
    (current.elim identities identities.opened).after uses =
      final.elim identities identities.opened := by
  induction uses generalizing current with
  | nil =>
    cases turns
    rfl
  | cons first rest ih =>
    rw [List.foldlM_cons] at turns
    obtain ⟨next, turn, turns⟩ := Option.bind_eq_some_iff.mp turns
    have freshRest := fun identity listed => fresh identity (List.mem_cons_of_mem first listed)
    cases first with
    | carried call =>
      cases current <;> cases turn <;> exact ih turns freshCurrent freshRest
    | opened identity =>
      cases current with
      | some other => cases turn
      | none =>
        cases turn
        refine ih turns ?_ freshRest
        intro opened same
        cases same
        exact fresh identity List.mem_cons_self
    | closed identity =>
      cases current with
      | none => cases turn
      | some other =>
        by_cases same : identity = other
        · subst same
          rw [nextOpen, if_pos rfl] at turn
          cases turn
          have released := closed_opened (freshCurrent identity rfl)
          refine (congrArg (OpenIdentities.after · rest) released).trans ?_
          exact ih turns nofun freshRest
        · rw [nextOpen, if_neg same] at turn
          cases turn

theorem after_of_inTurn {identities : OpenIdentities} {uses : List IdentityUse}
    (turns : InTurn uses)
    (fresh : ∀ identity, .opened identity ∈ uses → identity.id ∉ identities.ids) :
    identities.after uses = identities :=
  after_eq turns nofun fresh

end OpenIdentities
end JobFanout
