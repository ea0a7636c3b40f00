import JobFanout.Proofs.IdentityDiscipline
/-!
Jobs run one after another on one executor do not disturb each other. As long as the objects stay as
they are and the API keeps no state, what becomes of a job is what would become of it alone, whatever
ran before it: only ids, times and the order of the records differ, as ids are counted on from job to
job. A call that is lost is told of by the id of its task, which is counted on as well.
-/
namespace JobFanout

/-- Answers depend on the user, the method and the parameters and on nothing else. -/
def Stateless {α : Type} (answer : List Invocation → Invocation → α) : Prop :=
  ∀ (earlier earlier' : List Invocation) (invocation invocation' : Invocation),
    invocation.identity.user = invocation'.identity.user →
    invocation.method = invocation'.method → invocation.params = invocation'.params →
    answer earlier invocation = answer earlier' invocation'

/-- The same objects at every query, the same API, and the same calls lost. Ids, times and orders of
settling may differ. -/
structure Environment.SameWorld (env other : Environment) : Prop where
  snapshots : ∀ query query', env.snapshots query = other.snapshots query'
  api : env.api = other.api
  losses : env.losses = other.losses

-- How a task was lost is told with its id, so that has to be the same if any task is lost.
/-- The tasks of the other world bear the ids that they bear here from task `first` on, or no task is
lost. -/
def Environment.SameTasks (env other : Environment) (first : Nat) : Prop :=
  (∀ earlier invocation, env.losses earlier invocation = none) ∨
    ∀ task, env.taskIds (first + task) = other.taskIds task

def Report.accounts (report : Report) : List CallRecord :=
  report.calls.map fun entry => entry.2.undated

/-- Both failed with one error, or both terminated with the same records in any order. -/
inductive Outcome.Agrees : Outcome → Outcome → Prop where
  | failed (runJobId runJobId' : String) (error : JobError) :
      Agrees (.failed runJobId error) (.failed runJobId' error)
  | terminated {report report' : Report} (same : report.accounts.Perm report'.accounts) :
      Agrees (.terminated report) (.terminated report')

def Outcome.event? : Outcome → Option JobEvent
  | .terminated report => some (.terminated report)
  | .failed _ _ => none

/-- What the run with this outcome notes last. -/
def Outcome.endNote (job : Job) : Outcome → Note
  | .terminated report => .runTerminated job report.runJobId
  | .failed runJobId error => .runFailed job runJobId error

def CallRecord.timeless (method : String) (params : Record) (result : Except CallError Json) :
    CallRecord :=
  (started method params .epoch).settle result .epoch

/-! What settled calls amount to is decided by the records and the results. -/

namespace SettledCalls
variable {method : String} {ids : List String} {records : List Record}
  {results : List (Except CallError Json)} {calls : Entries CallRecord}

theorem map_valueAt?_ids (settled : SettledCalls method ids records results calls) :
    ids.map (fun id => Entries.valueAt? id (undatedCalls calls)) =
      (List.zipWith (CallRecord.timeless method) records results).map some := by
  apply List.ext_getElem
  · simp [settled.recorded, settled.answered]
  · intro place below _
    have named : place < ids.length := by simpa using below
    simp only [List.getElem_map, List.getElem_zipWith]
    exact settled.valueAt?_undated (List.getElem?_eq_getElem named)
      (List.getElem?_eq_getElem (settled.recorded.symm ▸ named))
      (List.getElem?_eq_getElem (settled.answered.symm ▸ named))

theorem undated_perm (settled : SettledCalls method ids records results calls) :
    (calls.map fun entry => entry.2.undated).Perm
      (List.zipWith (CallRecord.timeless method) records results) := by
  have found : (Entries.keys calls).map (fun id => Entries.valueAt? id (undatedCalls calls)) =
      (calls.map fun entry => entry.2.undated).map some := by
    simp only [Entries.keys, List.map_map]
    apply List.map_congr_left
    intro entry listed
    have own := Entries.valueAt?_of_mem (Entries.nodup_keys settled.ascending) listed
    simp only [Function.comp_apply, valueAt?_undatedCalls, own, Option.map_some]
  have named := settled.keys.map fun id => Entries.valueAt? id (undatedCalls calls)
  rw [found, settled.map_valueAt?_ids] at named
  exact (List.map_perm_map_iff (Option.some_injective _)).mp named

end SettledCalls

namespace Execution
variable {env other : Environment} {α : Type}

/-! Without a state behind the API the records of a job depend on the job and the objects only. -/

def SameResult (left right : Execution α) : Prop :=
  ∀ start start', (left.run start).1 = (right.run start').1

theorem SameResult.sequential : @ParamVector.Sequential Progress Progress SameResult where
  pure _ _ _ := rfl
  bind := by
    intro α β left right next next' first second start start'
    rw [run_bind, run_bind, first start start']
    exact second _ _ _

theorem sameResult_query (world : env.SameWorld other) : SameResult (query env) (query other) :=
  fun start start' => world.snapshots start.queried start'.queried

theorem sameResult_callSource (stateless : Stateless env.api) (world : env.SameWorld other)
    (identity identity' : Identity) (sameUser : identity.user = identity'.user) (method : String)
    (params : Record) :
    SameResult (callSource env identity method params)
      (callSource other identity' method params) := by
  intro start start'
  change (callSource env identity method params start).1 =
    (callSource other identity' method params start').1
  rw [run_callSource, run_callSource, ← world.api,
    stateless start.invocations start'.invocations ⟨identity, method, params⟩
      ⟨identity', method, params⟩ sameUser rfl rfl]

theorem sameResult_resolveRecords (stateless : Stateless env.api) (world : env.SameWorld other)
    (job : Job) : SameResult (resolveRecords env job) (resolveRecords other job) := by
  intro start start'
  -- The identities differ in their ids, so the two sides do not take the same steps.
  unfold resolveRecords
  cases job.vector with
  | error error => rfl
  | ok vector =>
    by_cases mayCall : vector.any ParamVector.containsCall = true
    · simp only [if_pos mayCall, run_bind, run_openIdentity, run_closeIdentity, run_pure]
      refine congrArg (Except.mapError JobError.resolve) ?_
      exact SameResult.sequential.records (sameResult_query world)
        (.some (sameResult_callSource stateless world (callIdentity env job start)
          (callIdentity other job start') rfl)) vector _ _
    · simp only [if_neg mayCall, run_bind, run_pure]
      refine congrArg (Except.mapError JobError.resolve) ?_
      exact SameResult.sequential.records (sameResult_query world) .none vector _ _

theorem answersTo_congr {api api' : Nat → Api} {identity identity' : Identity} {method : String}
    {task task' : Nat} (same : ∀ number earlier earlier' params,
      api (task + number) earlier ⟨identity, method, params⟩ =
        api' (task' + number) earlier' ⟨identity', method, params⟩)
    (records : List Record) (earlier earlier' : List Invocation) :
    answersTo api task earlier (records.map fun params => ⟨identity, method, params⟩) =
      answersTo api' task' earlier' (records.map fun params => ⟨identity', method, params⟩) := by
  induction records generalizing task task' earlier earlier' with
  | nil => rfl
  | cons params rest ih =>
    simp only [List.map_cons, answersTo]
    refine congrArg₂ (· :: ·) (same 0 earlier earlier' params) (ih ?_ _ _)
    intro number later later' params
    simpa [Nat.add_assoc, Nat.add_comm 1] using same (number + 1) later later' params

theorem dispatched_stateless (stateless : Stateless env.api) (losing : Stateless env.losses)
    (world : env.SameWorld other) {first : Nat} (tasks : env.SameTasks other first) (task : Nat)
    (earlier earlier' : List Invocation) {invocation invocation' : Invocation}
    (sameUser : invocation.identity.user = invocation'.identity.user)
    (sameMethod : invocation.method = invocation'.method)
    (sameParams : invocation.params = invocation'.params) :
    env.dispatched (first + task) earlier invocation =
      other.dispatched task earlier' invocation' := by
  have sameLoss := losing earlier earlier' _ _ sameUser sameMethod sameParams
  have sameAnswer := stateless earlier earlier' _ _ sameUser sameMethod sameParams
  rw [Environment.dispatched, Environment.dispatched, ← world.losses, ← world.api, ← sameLoss,
    sameAnswer]
  rcases tasks with kept | sameIds
  · rw [kept]
  · rw [sameIds]

theorem spawned_of_resolves {job : Job} {start resolved : Progress}
    {result : Except JobError (List Record)}
    (resolves : (resolveRecords env job).run (resolving env job start) = (result, resolved)) :
    resolved.spawned = start.spawned := by
  obtain ⟨queries, asked, _, left⟩ := exists_afterResolution env job (resolving env job start)
  rw [resolves] at left
  change resolved = _ at left
  rw [left]
  rfl

theorem exec_agrees (stateless : Stateless env.api) (losing : Stateless env.losses)
    (world : env.SameWorld other) (job : Job) (start : Progress)
    (tasks : env.SameTasks other start.spawned) :
    ((exec env job).run start).1.Agrees ((exec other job).run {}).1 := by
  cases callable : job.isCall with
  | false =>
    rw [run_exec_of_type env job callable, run_exec_of_type other job callable]
    exact .failed ..
  | true =>
    have sameResult := sameResult_resolveRecords stateless world job (resolving env job start)
      (resolving other job {})
    cases resolves : (resolveRecords env job).run (resolving env job start) with
    | mk result resolved =>
    cases resolves' : (resolveRecords other job).run (resolving other job {}) with
    | mk result' resolved' =>
    -- The two sides fail alike or call for the same records, from whatever states.
    rw [resolves, resolves'] at sameResult
    obtain rfl : result = result' := sameResult
    cases result with
    | error error =>
      rw [run_exec_of_error env job resolved callable resolves,
        run_exec_of_error other job resolved' callable resolves']
      exact .failed ..
    | ok records =>
      rw [run_exec_of_records env job records resolved callable resolves,
        run_exec_of_records other job records resolved' callable resolves']
      have left := (finalCalls_settled env job records resolved).undated_perm
      have right := (finalCalls_settled other job records resolved').undated_perm
      have sameResults : callResults env job records resolved =
          callResults other job records resolved' := by
        rw [callResults, callResults, spawned_of_resolves resolves, spawned_of_resolves resolves']
        apply answersTo_congr
        intro task earlier earlier' params
        rw [Nat.zero_add]
        exact dispatched_stateless stateless losing world tasks task earlier earlier' rfl rfl rfl
      rw [← sameResults] at right
      exact .terminated (left.trans right.symm)

/-! Runs in turn. -/

variable (env)

/-- What a run enters, from its start to its end. Every other log entry and the event name the run,
every identity is one of the job's user, and each call carries the one it is made under. -/
structure RunSection (job : Job) (before : Progress) (outcome : Outcome) (entries : List Entry) :
    Prop where
  named : outcome.runJobId = env.logIds before.logged
  bracketed : ∃ inner position,
    entries = noted env.logIds before.logged [.runStarted job] ++ inner
      ++ noted env.logIds position [outcome.endNote job] ∧
    ∀ entry ∈ inner ++ noted env.logIds position [outcome.endNote job],
      entry.OfRun outcome.runJobId
  identities : JobSection env job before (some outcome) entries
  events : Command.announcedEvents entries = outcome.event?.toList

inductive RunsInTurn :
    Progress → List Job → List Outcome → List (List Entry) → Progress → Prop where
  | nil (progress : Progress) : RunsInTurn progress [] [] [] progress
  | cons {before between after : Progress} {job : Job} {outcome : Outcome} {entries : List Entry}
      {jobs : List Job} {outcomes : List Outcome} {others : List (List Entry)}
      (ran : (exec env job).run before = (outcome, between))
      (entered : between.journal = before.journal ++ entries)
      (own : RunSection env job before outcome entries)
      (rest : RunsInTurn between jobs outcomes others after) :
      RunsInTurn before (job :: jobs) (outcome :: outcomes) (entries :: others) after

variable {env}

theorem RunSection.of_failure {job : Job} {before : Progress} {error : JobError}
    {identity : Identity} {finished position : Nat} {asked : Option (List Invocation)}
    {entries : List Entry}
    (same : entries = noted env.logIds before.logged [.runStarted job]
      ++ resolutionEntries identity finished asked
      ++ noted env.logIds position [.runFailed job (env.logIds before.logged) error])
    (identities : JobSection env job before (some (.failed (env.logIds before.logged) error))
      entries) :
    RunSection env job before (.failed (env.logIds before.logged) error) entries where
  named := rfl
  bracketed := by
    refine ⟨resolutionEntries identity finished asked, position, same, ?_⟩
    intro entry listed
    rcases List.mem_append.mp listed with earlier | last
    · exact ofRun_resolutionEntries _ identity finished asked entry earlier
    · rw [List.mem_singleton.mp last]
      rfl
  identities := identities
  events := by
    rw [same]
    simp only [announcedEvents_append, announcedEvents_noted, announcedEvents_resolutionEntries]
    rfl

theorem RunSection.of_termination {job : Job} {before resolved : Progress} {records : List Record}
    {identity : Identity} {finished : Nat} {asked : Option (List Invocation)}
    {entries : List Entry}
    (same : entries = noted env.logIds before.logged [.runStarted job]
      ++ resolutionEntries identity finished asked
      ++ terminationEntries env job records resolved before)
    (identities : JobSection env job before
      (some (.terminated (finalReport env job records resolved before))) entries) :
    RunSection env job before (.terminated (finalReport env job records resolved before))
      entries where
  named := rfl
  bracketed := by
    refine ⟨resolutionEntries identity finished asked
      ++ (launchEntries env job records resolved (env.logIds before.logged)
        ++ joinEntries env job records resolved (env.logIds before.logged)
        ++ [.announced (.terminated (finalReport env job records resolved before))]),
      resolved.logged + 2 * records.length, ?_, ?_⟩
    · simp only [same, terminationEntries, List.append_assoc]
      rfl
    · intro entry listed
      rw [List.append_assoc] at listed
      rcases List.mem_append.mp listed with earlier | later
      · exact ofRun_resolutionEntries _ identity finished asked entry earlier
      · exact ofRun_terminationEntries env job records resolved before entry later
  identities := identities
  events := by
    rw [same]
    simp only [announcedEvents_append, announcedEvents_noted, announcedEvents_resolutionEntries,
      announcedEvents_terminationEntries]
    rfl

theorem exec_runSection {job : Job} {before after : Progress} {outcome : Outcome}
    (ran : (exec env job).run before = (outcome, after)) :
    ∃ entries, after.journal = before.journal ++ entries ∧
      RunSection env job before outcome entries := by
  obtain ⟨entries, entered, identities⟩ := exec_section env job before
  rw [ran] at entered identities
  refine ⟨entries, entered, ?_⟩
  obtain ⟨queries, asked, own, left⟩ := exists_afterResolution env job (resolving env job before)
  have same : ∀ {whole}, after.journal = before.journal ++ whole → entries = whole :=
    fun journal => List.append_cancel_left (entered.symm.trans journal)
  cases exec_ends ran with
  | otherType uncallable =>
    exact .of_failure (same (journal_failed env job before _ 0 none)) identities
  | unresolved callable resolves =>
    rw [resolves] at left
    subst left
    exact .of_failure (same (journal_failed env job before _ queries asked)) identities
  | terminated callable resolves =>
    rw [resolves] at left
    subst left
    exact .of_termination (same (journal_terminated env job before _ queries asked)) identities

theorem execAll_inTurn (env : Environment) (jobs : List Job) (before : Progress) :
    ∃ sections, RunsInTurn env before jobs ((execAll env jobs).run before).1 sections
      ((execAll env jobs).run before).2 := by
  induction jobs generalizing before with
  | nil => exact ⟨[], .nil before⟩
  | cons job rest ih =>
    have ran : (exec env job).run before = _ := rfl
    obtain ⟨entries, entered, own⟩ := exec_runSection ran
    obtain ⟨others, later⟩ := ih ((exec env job).run before).2
    exact ⟨entries :: others, .cons ran entered own later⟩

namespace RunsInTurn
variable {before after : Progress} {jobs : List Job} {outcomes : List Outcome}
  {sections : List (List Entry)}

theorem length_outcomes (inTurn : RunsInTurn env before jobs outcomes sections after) :
    outcomes.length = jobs.length := by
  induction inTurn with
  | nil progress => rfl
  | cons ran entered own rest ih => rw [List.length_cons, List.length_cons, ih]

theorem journal (inTurn : RunsInTurn env before jobs outcomes sections after) :
    after.journal = before.journal ++ sections.flatten := by
  induction inTurn with
  | nil progress => exact (List.append_nil _).symm
  | cons ran entered own rest ih => rw [ih, entered, List.flatten_cons, List.append_assoc]

theorem events (inTurn : RunsInTurn env before jobs outcomes sections after) :
    Command.announcedEvents after.journal =
      Command.announcedEvents before.journal ++ outcomes.filterMap Outcome.event? := by
  induction inTurn with
  | nil progress => exact (List.append_nil _).symm
  | @cons before between after job outcome entries jobs outcomes others ran entered own rest ih =>
    rw [ih, entered, announcedEvents_append, own.events, List.append_assoc]
    cases outcome <;> rfl

theorem agrees (inTurn : RunsInTurn env before jobs outcomes sections after)
    (stateless : Stateless env.api) (losing : Stateless env.losses) {place : Nat} {job : Job}
    {outcome : Outcome} (listed : jobs[place]? = some job) (came : outcomes[place]? = some outcome)
    (world : env.SameWorld other)
    (tasks : env.SameTasks other ((execAll env (jobs.take place)).run before).2.spawned) :
    outcome.Agrees ((exec other job).run {}).1 := by
  induction inTurn generalizing place with
  | nil progress => cases listed
  | @cons before between after first outcome' entries jobs outcomes others ran entered own rest ih =>
    cases place with
    | zero =>
      cases listed
      cases came
      have agrees := exec_agrees stateless losing world job before tasks
      rwa [ran] at agrees
    | succ place =>
      apply ih listed came
      have onward : ((execAll env ((first :: jobs).take (place + 1))).run before).2 =
          ((execAll env (jobs.take place)).run ((exec env first).run before).2).2 := rfl
      rwa [onward, ran] at tasks

end RunsInTurn

/-- Jobs in sequence behind a stateless API: one outcome and one section of the journal for each
job, in order, and each outcome what the job alone would have come to on a fresh executor, with ids,
times and settling of its own. The events are those of the runs that terminate. -/
theorem jobs_undisturbed (stateless : Stateless env.api) (losing : Stateless env.losses)
    (jobs : List Job) (before : Progress) :
    ∃ (outcomes : List Outcome) (sections : List (List Entry)) (after : Progress),
      (execAll env jobs).run before = (outcomes, after) ∧
      RunsInTurn env before jobs outcomes sections after ∧
      outcomes.length = jobs.length ∧ after.journal = before.journal ++ sections.flatten ∧
      Command.announcedEvents after.journal =
        Command.announcedEvents before.journal ++ outcomes.filterMap Outcome.event? ∧
      ∀ place job outcome, jobs[place]? = some job → outcomes[place]? = some outcome →
        ∀ other, env.SameWorld other →
          env.SameTasks other ((execAll env (jobs.take place)).run before).2.spawned →
          outcome.Agrees ((exec other job).run {}).1 := by
  obtain ⟨sections, inTurn⟩ := execAll_inTurn env jobs before
  refine ⟨_, sections, _, rfl, inTurn, inTurn.length_outcomes, inTurn.journal, inTurn.events, ?_⟩
  intro place job outcome listed came other world tasks
  exact inTurn.agrees stateless losing listed came world tasks

section ThreeJobs

def adminListing : Environment where
  snapshots := fun _ => .ok []
  api := fun _ invocation =>
    if invocation.identity.user = "admin" then .ok (.array (machines.map .object))
    else .error (.rejected "not allowed")
  losses := fun _ invocation =>
    if invocation.method = "vm.list" then none else some (.panicked none)
  taskIds := toString
  logIds := fun _ => "evt"
  identityIds := fun number => "identity-" ++ toString number
  clock := fun _ => .epoch
  settling := fun _ => [1]

def adminListingLater : Environment :=
  { adminListing with taskIds := fun task => toString (2 + task), settling := fun _ => [] }

/-- The first job fails; the others terminate, and the last one as it does alone. -/
theorem adminListing_jobs_undisturbed :
    let jobs := [{ startListed with userId := "guest" }, startListed, startListed]
    (Stateless adminListing.api ∧ Stateless adminListing.losses ∧
      adminListing.SameWorld adminListingLater ∧ adminListing.SameTasks adminListingLater 2) ∧
    ∃ outcomes sections after outcome, (execAll adminListing jobs).run {} = (outcomes, after) ∧
      RunsInTurn adminListing {} jobs outcomes sections after ∧ outcomes[2]? = some outcome ∧
      outcome.Agrees ((exec adminListingLater startListed).run {}).1 := by
  intro jobs
  have stateless : Stateless adminListing.api := by
    intro earlier earlier' invocation invocation' sameUser _ _
    simp only [adminListing, sameUser]
  have losing : Stateless adminListing.losses := by
    intro earlier earlier' invocation invocation' _ sameMethod _
    simp only [adminListing, sameMethod]
  have world : adminListing.SameWorld adminListingLater := ⟨fun _ _ => rfl, rfl, rfl⟩
  have tasks : adminListing.SameTasks adminListingLater 2 := .inr fun _ => rfl
  obtain ⟨outcomes, sections, after, ran, inTurn, count, _, _, agrees⟩ :=
    jobs_undisturbed stateless losing jobs {}
  have started : ((execAll adminListing (jobs.take 2)).run {}).2.spawned = 2 := by decide +kernel
  have last : outcomes[2]? = some _ := List.getElem?_eq_getElem (by rw [count]; decide)
  refine ⟨⟨stateless, losing, world, tasks⟩, outcomes, sections, after, _, ran, inTurn, last, ?_⟩
  apply agrees 2 startListed _ rfl last adminListingLater world
  rwa [started]

end ThreeJobs

end Execution
end JobFanout
