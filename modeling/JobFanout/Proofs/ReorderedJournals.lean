import JobFanout.Proofs.JournalViews
import JobFanout.Proofs.TimesAside
/-!
Journals that tell of the same runs, times aside, except for the order in which the calls of each
run ended. Every entry has a partner at its own position, so what the entries beside the log say is the
same, and so is what every other log entry says.
-/
namespace JobFanout

/-- Entry by entry the same; where the calls of one run end, in another order. The log gives its ids
by position, so they do not move with the notes. -/
inductive Reordered (logIds : Nat → String) : List Entry → List Entry → Prop where
  | nil : Reordered logIds [] []
  | same {left right : Entry} {lefts rights : List Entry} (alike : left.undated = right.undated)
      (rest : Reordered logIds lefts rights) :
      Reordered logIds (left :: lefts) (right :: rights)
  | callsEnded (job : Job) (runJobId : String) (position : Nat) {ended ended' : List EndedCall}
      {lefts rights : List Entry} (reordered : ended.Perm ended')
      (rest : Reordered logIds lefts rights) :
      Reordered logIds
        (noted logIds position (ended.map (EndedCall.note job runJobId)) ++ lefts)
        (noted logIds position (ended'.map (EndedCall.note job runJobId)) ++ rights)

namespace Reordered
variable {logIds : Nat → String} {left right left' right' : List Entry}

theorem refl (entries : List Entry) : Reordered logIds entries entries := by
  induction entries with
  | nil => exact .nil
  | cons entry rest ih => exact .same rfl ih

theorem append (first : Reordered logIds left right) (second : Reordered logIds left' right') :
    Reordered logIds (left ++ left') (right ++ right') := by
  induction first with
  | nil => exact second
  | same alike rest ih => exact .same alike ih
  | callsEnded job runJobId position reordered rest ih =>
    rw [List.append_assoc, List.append_assoc]
    exact .callsEnded job runJobId position reordered ih

theorem ofCallsEnded (job : Job) (runJobId : String) (position : Nat)
    {ended ended' : List EndedCall} (reordered : ended.Perm ended') :
    Reordered logIds (noted logIds position (ended.map (EndedCall.note job runJobId)))
      (noted logIds position (ended'.map (EndedCall.note job runJobId))) := by
  simpa only [List.append_nil] using callsEnded job runJobId position reordered .nil

theorem enter (old : Reordered logIds left.reverse right.reverse)
    (new : Reordered logIds left' right') :
    Reordered logIds (left'.reverse ++ left).reverse (right'.reverse ++ right).reverse := by
  simpa only [List.reverse_append, List.reverse_reverse] using old.append new

theorem length_eq (reordered : Reordered logIds left right) : left.length = right.length := by
  induction reordered with
  | nil => rfl
  | same alike rest ih => simp [ih]
  | callsEnded job runJobId position reordered rest ih => simp [ih, reordered.length_eq]

theorem filterMap_eq {β : Type} {view : Entry → Option β}
    (unlogged : ∀ level id message data, view (.logged level id message data) = none)
    (timeless : ∀ left right : Entry, left.undated = right.undated → view left = view right)
    (reordered : Reordered logIds left right) : left.filterMap view = right.filterMap view := by
  induction reordered with
  | nil => rfl
  | same alike rest ih => rw [List.filterMap_cons, List.filterMap_cons, timeless _ _ alike, ih]
  | callsEnded job runJobId position reordered rest ih =>
    rw [List.filterMap_append, List.filterMap_append, filterMap_noted unlogged,
      filterMap_noted unlogged, ih]

theorem countP_isLogged_eq (reordered : Reordered logIds left right) :
    left.countP Entry.isLogged = right.countP Entry.isLogged := by
  induction reordered with
  | nil => rfl
  | @same left right _ _ alike rest ih =>
    have both : left.isLogged = right.isLogged := by
      cases left <;> cases right <;> first | rfl | cases alike
    rw [List.countP_cons, List.countP_cons, both, ih]
  | callsEnded job runJobId position reordered rest ih =>
    rw [List.countP_append, List.countP_append, countP_noted, countP_noted, List.length_map,
      List.length_map, reordered.length_eq, ih]

theorem announcedEvents_eq (reordered : Reordered logIds left right) :
    (Command.announcedEvents left).map JobEvent.undated =
      (Command.announcedEvents right).map JobEvent.undated := by
  rw [Command.announcedEvents, Command.announcedEvents, List.map_filterMap, List.map_filterMap]
  apply reordered.filterMap_eq (fun _ _ _ _ => rfl)
  intro left right alike
  cases left <;> cases right <;> first | rfl | cases alike | skip
  case announced.announced => exact congrArg some (Entry.announced.inj alike)

theorem ofIdentity_eq (reordered : Reordered logIds left right) :
    left.filterMap Entry.ofIdentity? = right.filterMap Entry.ofIdentity? := by
  apply reordered.filterMap_eq (fun _ _ _ _ => rfl)
  intro left right alike
  cases left <;> cases right <;> first | rfl | (cases alike <;> rfl)

end Reordered
end JobFanout
