import JobFanout.Proofs.RunOutcomes
/-!
Outcomes compared times aside. What is left of a report does not depend on when or in which order
its calls ended, and under one id only on the result of one call.
-/
namespace JobFanout

/-- Stands for every time. -/
def Instant.epoch : Instant where
  date := ⟨1970, 1, 1, by decide, by decide, by decide⟩
  time := ⟨0, 0, 0, 0, by decide, by decide, by decide, by decide⟩

def CallRecord.undated (call : CallRecord) : CallRecord :=
  { call with start := .epoch, finish := call.finish.map fun _ => .epoch }

def undatedCalls (calls : Entries CallRecord) : Entries CallRecord :=
  calls.map fun entry => (entry.1, entry.2.undated)

def Report.undated (report : Report) : Report :=
  { report with
    start := .epoch
    finish := report.finish.map fun _ => .epoch
    calls := undatedCalls report.calls }

def JobEvent.undated : JobEvent → JobEvent
  | .terminated report => .terminated report.undated

def Entry.undated : Entry → Entry
  | .announced event => .announced event.undated
  | other => other

def Outcome.undated : Outcome → Outcome
  | .terminated report => .terminated report.undated
  | .failed runJobId error => .failed runJobId error

def Execution.StepAnswer.undated : StepAnswer → StepAnswer
  | .outcome one => .outcome one.undated
  | .outcomes several => .outcomes (several.map Outcome.undated)
  | .resolved records => .resolved records

theorem CallRecord.undated_settle (method : String) (params : Record) (start finish : Instant)
    (result : Except CallError Json) :
    ((started method params start).settle result finish).undated =
      (started method params .epoch).settle result .epoch := by
  cases result <;> rfl

theorem keys_undatedCalls (calls : Entries CallRecord) :
    Entries.keys (undatedCalls calls) = Entries.keys calls :=
  Entries.keys_map CallRecord.undated calls

theorem valueAt?_undatedCalls (id : String) (calls : Entries CallRecord) :
    Entries.valueAt? id (undatedCalls calls) =
      (Entries.valueAt? id calls).map CallRecord.undated :=
  Entries.valueAt?_map CallRecord.undated id calls

theorem ascending_undatedCalls {calls : Entries CallRecord}
    (ascending : Entries.Ascending calls) : Entries.Ascending (undatedCalls calls) := by
  rwa [Entries.Ascending, keys_undatedCalls]

namespace SettledCalls
variable {method : String} {ids : List String} {records : List Record}
  {results results' : List (Except CallError Json)} {calls calls' : Entries CallRecord}

theorem keys_eq (left : SettledCalls method ids records results calls)
    (right : SettledCalls method ids records results' calls') :
    Entries.keys calls = Entries.keys calls' :=
  Entries.keys_eq_of_perm left.ascending right.ascending (left.keys.trans right.keys.symm)

theorem valueAt?_undated (settled : SettledCalls method ids records results calls)
    {place : Nat} {id : String} {params : Record} {result : Except CallError Json}
    (named : ids[place]? = some id) (given : records[place]? = some params)
    (answered : results[place]? = some result) :
    Entries.valueAt? id (undatedCalls calls) =
      some ((CallRecord.started method params .epoch).settle result .epoch) := by
  obtain ⟨start, finish, found⟩ := settled.found place id params result named given answered
  rw [valueAt?_undatedCalls, found, Option.map_some, CallRecord.undated_settle]

/-- Only the result of its own call matters for what stands under an id. -/
theorem undated_at (left : SettledCalls method ids records results calls)
    (right : SettledCalls method ids records results' calls') {id : String}
    (same : ∀ place : Nat, ids[place]? = some id → results[place]? = results'[place]?) :
    Entries.valueAt? id (undatedCalls calls) = Entries.valueAt? id (undatedCalls calls') := by
  by_cases listed : id ∈ ids
  · obtain ⟨place, named⟩ := List.mem_iff_getElem?.mp listed
    have below := (List.getElem?_eq_some_iff.mp named).1
    have given := List.getElem?_eq_getElem (left.recorded.symm ▸ below)
    have answered := List.getElem?_eq_getElem (left.answered.symm ▸ below)
    rw [left.valueAt?_undated named given answered,
      right.valueAt?_undated named given ((same place named).symm.trans answered)]
  · have absent : ∀ {calls results}, SettledCalls method ids records results calls →
        Entries.valueAt? id (undatedCalls calls) = none := by
      intro calls results settled
      rw [Entries.valueAt?_eq_none, keys_undatedCalls]
      exact fun present => listed (settled.keys.subset present)
    rw [absent left, absent right]

theorem undated_eq (left : SettledCalls method ids records results calls)
    (right : SettledCalls method ids records results calls') :
    undatedCalls calls = undatedCalls calls' :=
  Entries.ext_of_valueAt? (ascending_undatedCalls left.ascending)
    (ascending_undatedCalls right.ascending) fun _ => left.undated_at right fun _ _ => rfl

end SettledCalls
end JobFanout
