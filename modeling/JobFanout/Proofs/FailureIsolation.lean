import JobFanout.Proofs.ExactlyOnce
import JobFanout.Proofs.ReorderedJournals
import JobFanout.Proofs.RunRelations
/-!
How one call ends concerns that call alone. Two runs from one state whose APIs answer alike, one
dispatched call aside, resolve the same records, use the same ids and both terminate, and their
reports differ in the outcome of that call at most.
-/
namespace JobFanout

/-- The same world with another API that loses other calls, other orders of settling and other
times. -/
def Environment.answering (env : Environment) (api : Api)
    (losses : List Invocation → Invocation → Option Loss) (settling : Nat → List Nat)
    (clock : Nat → Instant) : Environment :=
  { env with api, losses, settling, clock }

/-- How the call ended, left out. -/
def CallRecord.outcomeless (call : CallRecord) : CallRecord :=
  { call with returnedValue := none, error := none }

def outcomelessAt (id : String) (calls : Entries CallRecord) : Entries CallRecord :=
  calls.map fun entry => (entry.1, if entry.1 = id then entry.2.outcomeless else entry.2)

theorem valueAt?_outcomelessAt (id key : String) (calls : Entries CallRecord) :
    Entries.valueAt? key (outcomelessAt id calls) =
      (Entries.valueAt? key calls).map fun call => if key = id then call.outcomeless else call :=
  Entries.valueAt?_mapWithKey
    (fun key (call : CallRecord) => if key = id then call.outcomeless else call) key calls

theorem ascending_outcomelessAt (id : String) {calls : Entries CallRecord}
    (ascending : Entries.Ascending calls) : Entries.Ascending (outcomelessAt id calls) := by
  rwa [Entries.Ascending, outcomelessAt, Entries.keys_mapWithKey
    fun key (call : CallRecord) => if key = id then call.outcomeless else call]

theorem CallRecord.outcomeless_settle (call : CallRecord) (fresh : call.outcomeless = call)
    (result : Except CallError Json) (finish : Instant) :
    (call.settle result finish).outcomeless = { call with finish := some finish } := by
  rw [← fresh]
  cases result <;> rfl

namespace SettledCalls
variable {method : String} {ids : List String} {records : List Record}
  {results results' : List (Except CallError Json)} {calls calls' : Entries CallRecord}
  {place : Nat} {id : String}

theorem siblings_eq (left : SettledCalls method ids records results calls)
    (right : SettledCalls method ids records results' calls') (named : ids[place]? = some id)
    (same : ∀ other, other ≠ place → results[other]? = results'[other]?) {sibling : String}
    (different : sibling ≠ id) :
    Entries.valueAt? sibling (undatedCalls calls) =
      Entries.valueAt? sibling (undatedCalls calls') := by
  refine left.undated_at right fun other called => same other ?_
  rintro rfl
  exact different (Option.some.inj (called.symm.trans named))

theorem outcomeless_of_own (settled : SettledCalls method ids records results calls)
    (named : ids[place]? = some id) {params : Record} (given : records[place]? = some params) :
    Entries.valueAt? id (outcomelessAt id (undatedCalls calls)) =
      some { CallRecord.started method params .epoch with finish := some .epoch } := by
  have below : place < results.length :=
    settled.answered.symm ▸ (List.getElem?_eq_some_iff.mp named).1
  rw [valueAt?_outcomelessAt, settled.valueAt?_undated named given
    (List.getElem?_eq_getElem below), Option.map_some, if_pos rfl,
    CallRecord.outcomeless_settle _ rfl]

theorem outcomeless_eq (left : SettledCalls method ids records results calls)
    (right : SettledCalls method ids records results' calls') (named : ids[place]? = some id)
    (same : ∀ other, other ≠ place → results[other]? = results'[other]?) :
    outcomelessAt id (undatedCalls calls) = outcomelessAt id (undatedCalls calls') := by
  refine Entries.ext_of_valueAt?
    (ascending_outcomelessAt id (ascending_undatedCalls left.ascending))
    (ascending_outcomelessAt id (ascending_undatedCalls right.ascending)) fun key => ?_
  by_cases own : key = id
  · subst own
    have below : place < records.length :=
      left.recorded.symm ▸ (List.getElem?_eq_some_iff.mp named).1
    have given := List.getElem?_eq_getElem below
    rw [left.outcomeless_of_own named given, right.outcomeless_of_own named given]
  · rw [valueAt?_outcomelessAt, valueAt?_outcomelessAt, left.siblings_eq right named same own]

end SettledCalls

def Report.outcomelessAt (id : String) (report : Report) : Report :=
  { report with calls := JobFanout.outcomelessAt id report.calls }

structure Progress.Extends (before after : Progress) : Prop where
  invocations : before.invocations <:+ after.invocations
  events : Command.announcedEvents after.journal = Command.announcedEvents before.journal

namespace Progress.Extends

theorem refl (progress : Progress) : Extends progress progress :=
  ⟨List.suffix_refl _, rfl⟩

theorem trans {first middle last : Progress} (earlier : Extends first middle)
    (later : Extends middle last) : Extends first last :=
  ⟨earlier.invocations.trans later.invocations, later.events.trans earlier.events⟩

theorem enter {before after : Progress} {entry : Entry}
    (entered : after.latest = entry :: before.latest)
    (invocations : before.invocations <:+ after.invocations)
    (silent : Command.announcedEvents [entry] = []) : Extends before after := by
  refine ⟨invocations, ?_⟩
  rw [journal_entered [entry] entered, Command.announcedEvents,
    List.filterMap_append]
  rw [Command.announcedEvents] at silent
  rw [silent, List.append_nil, Command.announcedEvents]

end Progress.Extends

namespace Execution
variable {α β : Type}

/-- Where the left computation comes to no invocation beyond `final`, the right does the same. -/
def Follows (first final : List Invocation) (left right : Execution α) : Prop :=
  ∀ state : Progress, first <:+ state.invocations →
    state.Extends (left.run state).2 ∧
      ((left.run state).2.invocations <:+ final → right.run state = left.run state)

namespace Follows
variable {first final : List Invocation}

theorem of_extends {done : Execution α}
    (extended : ∀ state : Progress, state.Extends (done.run state).2) :
    Follows first final done done :=
  fun state _ => ⟨extended state, fun _ => rfl⟩

theorem pure (value : α) : Follows first final (pure value : Execution α) (pure value) :=
  of_extends .refl

theorem bind {left right : Execution α} {next next' : α → Execution β}
    (one : Follows first final left right)
    (other : ∀ value, Follows first final (next value) (next' value)) :
    Follows first final (left >>= next) (right >>= next') := by
  intro state begun
  obtain ⟨extended, same⟩ := one state begun
  obtain ⟨extendedNext, sameNext⟩ := other (left.run state).1 (left.run state).2
    (begun.trans extended.invocations)
  refine ⟨extended.trans extendedNext, fun within => ?_⟩
  -- What follows only adds invocations, so the first part stayed within `final` as well.
  have within' := extendedNext.invocations.trans within
  rw [run_bind, run_bind, same within']
  exact sameNext within

theorem sequential :
    @ParamVector.Sequential Progress Progress (Follows first final) where
  pure := pure
  bind := bind

end Follows

variable (env : Environment) (api : Api) (losses : List Invocation → Invocation → Option Loss)
  (settling : Nat → List Nat) (clock : Nat → Instant) (job : Job) {first final : List Invocation}

theorem follows_query :
    Follows first final (query env) (query (env.answering api losses settling clock)) :=
  fun _ _ => ⟨⟨List.suffix_refl _, rfl⟩, fun _ => rfl⟩

theorem follows_openIdentity (user : String) :
    Follows first final (openIdentity env user)
      (openIdentity (env.answering api losses settling clock) user) :=
  fun _ _ => ⟨.enter rfl (List.suffix_refl _) rfl, fun _ => rfl⟩

theorem follows_closeIdentity (identity : Identity) :
    Follows first final (closeIdentity identity) (closeIdentity identity) :=
  .of_extends fun _ => .enter rfl (List.suffix_refl _) rfl

def AlikeBetween (env : Environment) (api : Api) (first final : List Invocation) : Prop :=
  ∀ later invocation earlier, final = later ++ invocation :: earlier → first <:+ earlier →
    api earlier invocation = env.api earlier invocation

theorem follows_callSource (alike : AlikeBetween env api first final) (identity : Identity)
    (method : String) (params : Record) :
    Follows first final (callSource env identity method params)
      (callSource (env.answering api losses settling clock) identity method params) := by
  intro state begun
  refine ⟨.enter rfl (List.suffix_cons _ _) rfl, fun within => ?_⟩
  -- The invocation is one of `final`, and what is asked there is answered alike.
  obtain ⟨later, whole⟩ := within
  have same := alike later ⟨identity, method, params⟩ state.invocations whole.symm begun
  change callSource _ identity method params state = callSource env identity method params state
  rw [run_callSource, run_callSource]
  exact congrArg (fun result : Except CallError Json => (result.mapError CallError.message, _)) same

theorem follows_resolveRecords (alike : AlikeBetween env api first final) :
    Follows first final (resolveRecords env job)
      (resolveRecords (env.answering api losses settling clock) job) := by
  apply resolveRecords_related Follows.sequential
  constructor
  case querying => exact follows_query env api losses settling clock
  case opening => exact follows_openIdentity env api losses settling clock
  case closing => exact follows_closeIdentity
  case calling => exact follows_callSource env api losses settling clock alike

/-- The APIs answer alike on what is asked for the records, and on the calls of the run but one. -/
structure AnswersAlike (records : List Record) (resolved before : Progress) (place : Nat) :
    Prop where
  nodes : AlikeBetween env api before.invocations resolved.invocations
  calls : ∀ other, other ≠ place →
    (answersTo { env with api, losses }.dispatched resolved.spawned resolved.invocations
        (callsMade env job records resolved))[other]? =
      (answersTo env.dispatched resolved.spawned resolved.invocations
        (callsMade env job records resolved))[other]?

variable {records : List Record} {resolved before : Progress} {place : Nat}

theorem resolveRecords_answering
    (alike : AlikeBetween env api before.invocations resolved.invocations)
    (resolves : (resolveRecords env job).run (resolving env job before) =
      (.ok records, resolved)) :
    (resolveRecords (env.answering api losses settling clock) job).run
        (resolving (env.answering api losses settling clock) job before) = (.ok records, resolved) ∧
      Command.announcedEvents resolved.journal = Command.announcedEvents before.journal := by
  have begun : before.Extends (resolving env job before) :=
    .enter rfl (List.suffix_refl _) rfl
  obtain ⟨extended, same⟩ := follows_resolveRecords env api losses settling clock job alike
    (resolving env job before) begun.invocations
  rw [resolves] at extended same
  exact ⟨same (List.suffix_refl _), (begun.trans extended).events⟩

/-- Both runs terminate, with one event each and logs of one length. They use the same ids, and the
call under one id takes nothing with it but its own outcome. -/
theorem exec_isolates_call (callable : job.isCall = true)
    (resolves : (resolveRecords env job).run (resolving env job before) =
      (.ok records, resolved))
    (below : place < records.length)
    (alike : AnswersAlike env api losses job records resolved before place) :
    ∃ (report report' : Report) (after after' : Progress) (id : String),
      (exec env job).run before = (.terminated report, after) ∧
      (exec (env.answering api losses settling clock) job).run before = (.terminated report', after') ∧
      Command.announcedEvents after.journal =
        Command.announcedEvents before.journal ++ [.terminated report] ∧
      Command.announcedEvents after'.journal =
        Command.announcedEvents before.journal ++ [.terminated report'] ∧
      after.journal.countP Entry.isLogged = after'.journal.countP Entry.isLogged ∧
      Entries.keys report.calls = Entries.keys report'.calls ∧
      (callIds env records resolved)[place]? = some id ∧
      (∀ sibling, sibling ≠ id →
        Entries.valueAt? sibling (undatedCalls report.calls) =
          Entries.valueAt? sibling (undatedCalls report'.calls)) ∧
      report.undated.outcomelessAt id = report'.undated.outcomelessAt id := by
  let other := env.answering api losses settling clock
  obtain ⟨resolves', quiet⟩ :=
    resolveRecords_answering env api losses settling clock job alike.nodes resolves
  have left := finalCalls_settled env job records resolved
  have right := finalCalls_settled other job records resolved
  have same : ∀ place', place' ≠ place → (callResults env job records resolved)[place']? =
      (callResults other job records resolved)[place']? :=
    fun place' different => (alike.calls place' different).symm
  have named : (callIds env records resolved)[place]? = some _ :=
    List.getElem?_eq_getElem ((length_callIds env records resolved).symm ▸ below)
  refine ⟨_, _, _, _, _, run_exec_of_records env job records resolved callable resolves,
    run_exec_of_records other job records resolved callable resolves', ?_, ?_, ?_,
    left.keys_eq right, named, fun sibling => left.siblings_eq right named same, ?_⟩
  · exact announcedEvents_terminated env job rfl quiet
  · exact announcedEvents_terminated other job rfl quiet
  · exact (countP_terminated env job rfl).trans (countP_terminated other job rfl).symm
  · exact congrArg (Report.mk (env.logIds before.logged) .epoch (some .epoch))
      (left.outcomeless_eq right named same)

section SecondCall

def secondReturned : Api := fun earlier invocation =>
  if earlier.length = 1 then .ok .null else repeatingLog.api earlier invocation

theorem secondReturned_alike :
    AnswersAlike repeatingLog secondReturned repeatingLog.losses threeCalls threeRecords
      (resolving repeatingLog threeCalls {}) {} 1 where
  nodes := by
    intro later invocation earlier whole _
    have empty : [] = later ++ invocation :: earlier := whole
    simp at empty
  calls := by
    intro other different
    match other with
    | 0 => rfl
    | 1 => exact absurd rfl different
    | 2 => rfl
    | _ + 3 => rfl

theorem exec_isolates_second_call :
    (callIds repeatingLog threeRecords (resolving repeatingLog threeCalls {}))[1]? =
        some "evt-2" ∧
      ∃ report report' after after',
        (exec repeatingLog threeCalls).run {} = (.terminated report, after) ∧
        (exec (repeatingLog.answering secondReturned repeatingLog.losses (fun _ => [])
          fun _ => .epoch) threeCalls).run {} = (.terminated report', after') ∧
        Entries.keys report.calls = Entries.keys report'.calls := by
  have named : (callIds repeatingLog threeRecords (resolving repeatingLog threeCalls {}))[1]? =
      some "evt-2" := by decide
  have resolves : (resolveRecords repeatingLog threeCalls).run
      (resolving repeatingLog threeCalls {}) =
      (.ok threeRecords, resolving repeatingLog threeCalls {}) := rfl
  obtain ⟨report, report', after, after', _, ends, ends', _, _, _, keys, _⟩ :=
    exec_isolates_call repeatingLog secondReturned repeatingLog.losses (fun _ => [])
      (fun _ => .epoch) threeCalls (by decide) resolves (by decide) secondReturned_alike
  exact ⟨named, report, report', after, after', ends, ends', keys⟩

end SecondCall

end Execution
end JobFanout
