import JobFanout.Proofs.RunPhases
import JobFanout.Proofs.TimesAside
/-!
Calls entered one after another, each under an unused id. None takes the place of another, and logged
ids that are distinct and unused are kept. A run enters its calls so.
-/
namespace JobFanout
variable {α : Type} {entries : Entries α}

theorem ascending_enterEach (issued : List (String × α)) (ascending : Entries.Ascending entries) :
    Entries.Ascending (enterEach issued entries).2 := by
  induction issued generalizing entries with
  | nil => exact ascending
  | cons call rest ih => exact ih (Entries.ascending_put ascending _ call.2)

theorem enterEach_perm (issued : List (String × α)) (entries : Entries α) :
    (enterEach issued entries).2.Perm
      ((enterEach issued entries).1.zip (issued.map Prod.snd) ++ entries) := by
  induction issued generalizing entries with
  | nil => rfl
  | cons call rest ih =>
    obtain ⟨loggedId, call⟩ := call
    have entered := Entries.put_perm (unusedCallId_absent entries loggedId) call
    exact (ih _).trans ((entered.append_left _).trans List.perm_middle)

theorem enterEach_eq_logged {issued : List (String × α)}
    (distinct : (issued.map Prod.fst).Nodup)
    (unused : ∀ loggedId ∈ issued.map Prod.fst, loggedId ∉ Entries.keys entries) :
    (enterEach issued entries).1 = issued.map Prod.fst := by
  induction issued generalizing entries with
  | nil => rfl
  | cons call rest ih =>
    obtain ⟨loggedId, call⟩ := call
    obtain ⟨first, distinct⟩ := List.nodup_cons.mp distinct
    have own : unusedCallId entries loggedId = loggedId :=
      unusedCallId_of_unused (unused loggedId List.mem_cons_self)
    have later : ∀ other ∈ rest.map Prod.fst,
        other ∉ Entries.keys (Entries.put loggedId call entries) := by
      intro other listed present
      rcases Entries.mem_keys_put.mp present with rfl | before
      · exact first listed
      · exact unused other (List.mem_cons_of_mem loggedId listed) before
    simp only [enterEach, own, ih distinct later, List.map_cons]

/-! The calls of a run. -/

namespace Execution
variable (env : Environment) (job : Job)

/-- The calls of a run as they are issued, with the ids that the log gives for them. -/
def issuedCalls : (logged reads : Nat) → List Record → List (String × CallRecord)
  | _, _, [] => []
  | logged, reads, params :: rest =>
    (env.logIds logged, .started job.method params (env.clock reads))
      :: issuedCalls (logged + 1) (reads + 1) rest

theorem issueCalls_enterEach (runJobId : String) (records : List Record) (report : Report)
    (state : Progress) :
    ((issueCalls env job runJobId records report).run state).1 =
      let entered := enterEach (issuedCalls env job state.logged state.clockReads records) report.calls
      (List.zipWith PendingCall.mk entered.1 records, { report with calls := entered.2 }) := by
  induction records generalizing report state with
  | nil => rfl
  | cons params rest ih =>
    simp only [issueCalls, run_bind, run_log, run_now, run_pure, ih]
    rfl

end Execution

/-- The id chosen is never in use: it is the logged id itself if that is unused, else the logged id
with the least number from two on that makes it new, and no more than one above the count of entries
has to be tried. So each of any calls entered one after another has an entry of its own, under the
logged ids themselves if these are distinct and unused, and this is how a run enters its calls. -/
theorem unused_id_always_found {calls : Entries CallRecord} (ascending : Entries.Ascending calls) :
    (∀ loggedId, unusedCallId calls loggedId ∉ Entries.keys calls ∧
      (loggedId ∉ Entries.keys calls → unusedCallId calls loggedId = loggedId) ∧
      (loggedId ∈ Entries.keys calls → unusedCallId calls loggedId ≠ "" ∧ ∃ number,
        IsLeast {number | 2 ≤ number ∧ numberedId loggedId number ∉ Entries.keys calls} number ∧
        number ≤ calls.length + 1 ∧
        unusedCallId calls loggedId = numberedId loggedId number)) ∧
    (∀ issued : List (String × CallRecord),
      let (callIds, entered) := enterEach issued calls
      callIds.length = issued.length ∧ (callIds ++ Entries.keys calls).Nodup ∧
      Entries.Ascending entered ∧ entered.Perm (callIds.zip (issued.map Prod.snd) ++ calls) ∧
      ((issued.map Prod.fst).Nodup →
        (∀ loggedId ∈ issued.map Prod.fst, loggedId ∉ Entries.keys calls) →
        callIds = issued.map Prod.fst)) ∧
    ∀ (env : Environment) (job : Job) (runJobId : String) (records : List Record)
      (report : Report) (state : Progress), report.calls = calls →
      let issued := Execution.issuedCalls env job state.logged state.clockReads records
      let (callIds, entered) := enterEach issued calls
      ((Execution.issueCalls env job runJobId records report).run state).1 =
        (List.zipWith PendingCall.mk callIds records, { report with calls := entered }) := by
  refine ⟨fun loggedId => ⟨unusedCallId_absent calls loggedId, unusedCallId_of_unused, ?_⟩, ?_, ?_⟩
  · intro used
    obtain ⟨number, least, bounded, chosen⟩ := unusedCallId_of_used used
    exact ⟨chosen ▸ numberedId_ne_empty loggedId number, number, least, bounded, chosen⟩
  · intro issued
    have nodup := (nodup_enterEach issued calls).mpr (Entries.nodup_keys ascending)
    exact ⟨length_enterEach issued calls, nodup, ascending_enterEach issued ascending,
      enterEach_perm issued calls, fun distinct unused => enterEach_eq_logged distinct unused⟩
  · rintro env job runJobId records report state rfl
    exact Execution.issueCalls_enterEach env job runJobId records report state

section RepeatedIds

def knownCalls : Entries CallRecord :=
  [("evt", .started "vm.start" [] .epoch), ("evt-3", .started "vm.start" [] .epoch)]

def repeatedIds : List (String × CallRecord) :=
  ["evt", "evt", "evt-2"].map fun loggedId => (loggedId, .started "vm.stop" [] .epoch)

theorem repeatedIds_entered :
    Entries.Ascending knownCalls ∧
      (enterEach repeatedIds knownCalls).1 = ["evt-2", "evt-4", "evt-2-2"] ∧
      (Entries.keys (enterEach repeatedIds knownCalls).2).Perm
        ["evt-2", "evt-4", "evt-2-2", "evt", "evt-3"] ∧
      ∃ number ≤ 3, IsLeast {number | 2 ≤ number ∧
        numberedId "evt" number ∉ Entries.keys knownCalls} number := by
  have ascending : Entries.Ascending knownCalls := by decide
  obtain ⟨each, every, _⟩ := unused_id_always_found ascending
  have callIds : (enterEach repeatedIds knownCalls).1 = ["evt-2", "evt-4", "evt-2-2"] := by rfl
  have entered : (enterEach repeatedIds knownCalls).2.Perm
      ((enterEach repeatedIds knownCalls).1.zip (repeatedIds.map Prod.snd) ++ knownCalls) :=
    (every repeatedIds).2.2.2.1
  obtain ⟨_, number, least, bounded, _⟩ := (each "evt").2.2 (by decide)
  rw [callIds] at entered
  exact ⟨ascending, callIds, entered.map Prod.fst, number, bounded, least⟩

end RepeatedIds
end JobFanout
