import JobFanout.Command.Session
import JobFanout.Proofs.RunOutcomes
/-!
Journals seen from one side: the log, the identities, the events. A terminated run enters one event,
its own, and two log entries for each call besides its start and end.
-/
namespace JobFanout

/-- The entry if it says that an identity was opened or closed. -/
def Entry.ofIdentity? : Entry → Option Entry
  | .opened identity => some (.opened identity)
  | .closed identity finished => some (.closed identity finished)
  | _ => none

def Entry.isLogged : Entry → Bool
  | .logged .. => true
  | _ => false

theorem forall_noted {kind : Entry → Prop} {notes : List Note}
    (each : ∀ note ∈ notes, ∀ id, kind (.logged note.level id note.message note.data))
    (logIds : Nat → String) (position : Nat) :
    ∀ entry ∈ noted logIds position notes, kind entry := by
  induction notes generalizing position with
  | nil => simp [noted]
  | cons note rest ih =>
    intro entry listed
    rcases List.mem_cons.mp listed with rfl | later
    · exact each note List.mem_cons_self _
    · exact ih (fun other member => each other (List.mem_cons_of_mem note member)) _ entry later

theorem filterMap_noted {β : Type} {view : Entry → Option β}
    (unlogged : ∀ level id message data, view (.logged level id message data) = none)
    (logIds : Nat → String) (position : Nat) (notes : List Note) :
    (noted logIds position notes).filterMap view = [] :=
  List.filterMap_eq_nil_iff.mpr (forall_noted (fun _ _ _ => unlogged ..) logIds position)

theorem announcedEvents_append (first second : List Entry) :
    Command.announcedEvents (first ++ second) =
      Command.announcedEvents first ++ Command.announcedEvents second :=
  List.filterMap_append ..

theorem announcedEvents_noted (logIds : Nat → String) (position : Nat) (notes : List Note) :
    Command.announcedEvents (noted logIds position notes) = [] :=
  filterMap_noted (fun _ _ _ _ => rfl) logIds position notes

theorem announcedEvents_invoked (invocations : List Invocation) :
    Command.announcedEvents (invocations.map Entry.invoked) = [] := by
  simp [Command.announcedEvents, List.filterMap_map]

theorem countP_noted (logIds : Nat → String) (position : Nat) (notes : List Note) :
    (noted logIds position notes).countP Entry.isLogged = notes.length := by
  rw [List.countP_eq_length.mpr (forall_noted (fun _ _ _ => rfl) logIds position), length_noted]

theorem journal_entered {before after : Progress} (entries : List Entry)
    (entered : after.latest = entries.reverse ++ before.latest) :
    after.journal = before.journal ++ entries := by
  rw [Progress.journal, entered, List.reverse_append, List.reverse_reverse, Progress.journal]

namespace Execution
variable (env : Environment) (job : Job) (records : List Record) (resolved before : Progress)

/-! What a terminated run enters. -/

theorem announcedEvents_terminationEntries :
    Command.announcedEvents (terminationEntries env job records resolved before) =
      [.terminated (finalReport env job records resolved before)] := by
  simp only [terminationEntries, launchEntries, joinEntries, announcedEvents_append,
    announcedEvents_noted, announcedEvents_invoked]
  rfl

theorem countP_terminationEntries :
    (terminationEntries env job records resolved before).countP Entry.isLogged =
      2 * records.length + 1 := by
  have made : ∀ invocations : List Invocation,
      (invocations.map Entry.invoked).countP Entry.isLogged = 0 := by
    intro invocations
    simp [List.countP_map, Function.comp_def, Entry.isLogged]
  simp [terminationEntries, launchEntries, joinEntries, countP_noted, made, Entry.isLogged]
  omega

variable {records resolved before} {after : Progress}

theorem announcedEvents_terminated
    (entered : after.latest = (terminationEntries env job records resolved before).reverse
      ++ resolved.latest)
    (quiet : Command.announcedEvents resolved.journal = Command.announcedEvents before.journal) :
    Command.announcedEvents after.journal = Command.announcedEvents before.journal
      ++ [.terminated (finalReport env job records resolved before)] := by
  rw [journal_entered _ entered, ← quiet,
    ← announcedEvents_terminationEntries env job records resolved before]
  exact List.filterMap_append ..

theorem countP_terminated
    (entered : after.latest = (terminationEntries env job records resolved before).reverse
      ++ resolved.latest) :
    after.journal.countP Entry.isLogged =
      resolved.journal.countP Entry.isLogged + (2 * records.length + 1) := by
  rw [journal_entered _ entered, List.countP_append, countP_terminationEntries]

end Execution
end JobFanout
