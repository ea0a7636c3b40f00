import JobFanout.Command.Session
import JobFanout.Proofs.IndependentJobs
import JobFanout.Proofs.ListsInTurn
/-!
The command that runs jobs. Either something that it is to load cannot be loaded, and then nothing is
run and nothing is printed but what went wrong, or all jobs are run in turn, and then the events of
those that terminated are printed in that order, with every call answered by what it was given.
-/
namespace JobFanout.Command

open Execution (RunsInTurn execAll exec)

/-! Tasks that print. -/

section Tasks

variable {α β : Type}

/-- The task comes to the value, whatever the course before it: it prints the text to standard output
and something to standard error, and has nothing run. -/
def Writes (task : Task α) (value : α) (text : String) : Prop :=
  ∀ course : Course, ∃ err,
    task.run course = (.ok value, { course with out := course.out ++ text, err })

theorem run_load (loaded : Except Failure α) (course : Course) :
    (liftM loaded : Task α).run course = (loaded, course) := by
  cases loaded <;> rfl

theorem run_bind (first : Task α) (next : α → Task β) (course : Course) :
    (first >>= next).run course =
      match first.run course with
      | (.ok value, later) => (next value).run later
      | (.error failure, later) => (.error failure, later) := by
  have unfolded : (first >>= next).run course =
      ExceptT.bindCont next (first.run course).1 (first.run course).2 := rfl
  rw [unfolded]
  obtain ⟨_ | value, later⟩ := first.run course <;> rfl

namespace Writes

theorem pure (value : α) : Writes (Pure.pure value) value "" := by
  intro course
  exact ⟨course.err, by rw [String.append_empty]; rfl⟩

theorem printErr (line : String) : Writes (Task.printErr line) () "" := by
  intro course
  exact ⟨course.err ++ line ++ "\n", by rw [String.append_empty]; rfl⟩

theorem printOut (line : String) : Writes (Task.printOut line) () (line ++ "\n") := by
  intro course
  exact ⟨course.err, by rw [← String.append_assoc]; rfl⟩

theorem bind {task : Task α} {next : α → Task β} {value : α} {value' : β} {text text' : String}
    (first : Writes task value text) (second : Writes (next value) value' text') :
    Writes (task >>= next) value' (text ++ text') := by
  intro course
  obtain ⟨err, ran⟩ := first course
  obtain ⟨err', ran'⟩ := second { course with out := course.out ++ text, err }
  refine ⟨err', ?_⟩
  rw [run_bind, ran]
  simp only [ran', String.append_assoc]

theorem silent {task : Task α} {value : α} (writes : Writes task value "") (course : Course) :
    ∃ err, task.run course = (.ok value, { course with err }) := by
  obtain ⟨err, ran⟩ := writes course
  exact ⟨err, by rw [ran, String.append_empty]⟩

theorem quietly {task : Task α} {next : α → Task β} {value : α} {value' : β} {text : String}
    (first : Writes task value "") (second : Writes (next value) value' text) :
    Writes (task >>= next) value' text := by
  have both := first.bind second
  rwa [String.empty_append] at both

theorem forIn {body : α → Task (ForInStep PUnit)} {shown : α → String}
    (each : ∀ item, Writes (body item) (.yield ⟨⟩) (shown item)) (items : List α) :
    Writes (ForIn.forIn items PUnit.unit fun item _ => body item) ⟨⟩
      (String.join (items.map shown)) := by
  induction items with
  | nil => exact pure _
  | cons item rest ih =>
    rw [List.forIn_cons, List.map_cons, String.join_cons]
    exact (each item).bind ih

end Writes
end Tasks

/-! Loading. -/

/-- Something is there that cannot be loaded, or a job is not there. -/
inductive Unloadable (files : Files) (objectsPath : String) (jobFiles : List String) : Prop where
  | missingJob {path : String} {fault : FileFault} (listed : path ∈ jobFiles)
      (unread : files.read path = .error fault) : Unloadable files objectsPath jobFiles
  | otherJob {path text : String} {error : TextError} (listed : path ∈ jobFiles)
      (found : files.read path = .ok text) (unread : Job.ofText text = .error error) :
      Unloadable files objectsPath jobFiles
  | lockedObjects {fault : FileFault} (present : files.exists? objectsPath = .ok true)
      (unread : files.read objectsPath = .error fault) : Unloadable files objectsPath jobFiles
  | otherObjects {text : String} {error : TextError}
      (present : files.exists? objectsPath = .ok true) (found : files.read objectsPath = .ok text)
      (unread : Json.listOfText text = .error error) : Unloadable files objectsPath jobFiles

/-- The jobs in the files, in order, and the objects. There are none unless a file of them is seen
to be there. -/
structure Loads (files : Files) (objectsPath : String) (jobFiles : List String) (jobs : List Job)
    (objects : List Json) : Prop where
  jobs : List.Forall₂
    (fun path job => ∃ text, files.read path = .ok text ∧ Job.ofText text = .ok job) jobFiles jobs
  objects : files.exists? objectsPath ≠ .ok true ∧ objects = [] ∨
    files.exists? objectsPath = .ok true ∧
      ∃ text, files.read objectsPath = .ok text ∧ Json.listOfText text = .ok objects

section Loading

variable {files : Files} {objectsPath path : String} {jobFiles : List String}

theorem loadJob_eq_ok {job : Job} :
    loadJob files path = .ok job ↔
      ∃ text, files.read path = .ok text ∧ Job.ofText text = .ok job := by
  rw [loadJob, readJobFile]
  cases files.read path with
  | error fault => simp [Except.mapError, bind, Except.bind]
  | ok text =>
    cases read : Job.ofText text <;> simp [Except.mapError, bind, Except.bind, read]

theorem has_iff : files.has path = true ↔ files.exists? path = .ok true := by
  rw [Files.has]
  rcases files.exists? path with fault | _ | _ <;> simp [Except.toOption]

theorem loadObjects_of_absent (absent : files.exists? objectsPath ≠ .ok true) :
    loadObjects files objectsPath = .ok [] := by
  have unseen : (!files.has objectsPath) = true := by simpa [← has_iff] using absent
  rw [loadObjects, if_pos unseen]
  rfl

theorem loadObjects_of_present (present : files.exists? objectsPath = .ok true) {objects : List Json} :
    loadObjects files objectsPath = .ok objects ↔
      ∃ text, files.read objectsPath = .ok text ∧ Json.listOfText text = .ok objects := by
  rw [loadObjects, if_neg (by simp [has_iff.mpr present])]
  cases files.read objectsPath with
  | error fault => simp [Except.mapError, bind, Except.bind]
  | ok text =>
    cases read : Json.listOfText text <;> simp [Except.mapError, bind, Except.bind, read]

theorem loadObjects_eq_ok {objects : List Json} :
    loadObjects files objectsPath = .ok objects ↔
      files.exists? objectsPath ≠ .ok true ∧ objects = [] ∨
        files.exists? objectsPath = .ok true ∧
          ∃ text, files.read objectsPath = .ok text ∧ Json.listOfText text = .ok objects := by
  by_cases present : files.exists? objectsPath = .ok true
  · simp [loadObjects_of_present, present]
  · simp [loadObjects_of_absent, present, eq_comm]

theorem loads_iff {jobs : List Job} {objects : List Json} :
    Loads files objectsPath jobFiles jobs objects ↔
      jobFiles.mapM (loadJob files) = .ok jobs ∧ loadObjects files objectsPath = .ok objects := by
  rw [mapM_eq_ok, loadObjects_eq_ok]
  simp only [loadJob_eq_ok]
  exact ⟨fun loads => ⟨loads.jobs, loads.objects⟩, fun ⟨jobs, objects⟩ => ⟨jobs, objects⟩⟩

theorem unloadable_of_loadJob {failure : Failure} (listed : path ∈ jobFiles)
    (failed : loadJob files path = .error failure) : Unloadable files objectsPath jobFiles := by
  cases found : files.read path with
  | error fault => exact .missingJob listed found
  | ok text =>
    cases read : Job.ofText text with
    | error error => exact .otherJob listed found read
    | ok job => cases failed.symm.trans (loadJob_eq_ok.mpr ⟨text, found, read⟩)

theorem unloadable_of_loadObjects {failure : Failure}
    (failed : loadObjects files objectsPath = .error failure) :
    Unloadable files objectsPath jobFiles := by
  by_cases present : files.exists? objectsPath = .ok true
  · cases found : files.read objectsPath with
    | error fault => exact .lockedObjects present found
    | ok text =>
      cases read : Json.listOfText text with
      | error error => exact .otherObjects present found read
      | ok objects =>
        cases failed.symm.trans ((loadObjects_of_present present).mpr ⟨text, found, read⟩)
  · cases failed.symm.trans (loadObjects_of_absent present)

theorem loads_or_unloadable (files : Files) (objectsPath : String) (jobFiles : List String) :
    (∃ jobs objects, Loads files objectsPath jobFiles jobs objects) ∨
      Unloadable files objectsPath jobFiles := by
  cases read : jobFiles.mapM (loadJob files) with
  | error failure =>
    obtain ⟨_, path, _, rfl, _, failed⟩ := exists_of_mapM_eq_error read
    exact .inr (unloadable_of_loadJob (by simp) failed)
  | ok jobs =>
    cases found : loadObjects files objectsPath with
    | error failure => exact .inr (unloadable_of_loadObjects found)
    | ok objects => exact .inl ⟨jobs, objects, loads_iff.mpr ⟨read, found⟩⟩

theorem Loads.not_unloadable {jobs : List Job} {objects : List Json}
    (loads : Loads files objectsPath jobFiles jobs objects) :
    ¬ Unloadable files objectsPath jobFiles := by
  have each : ∀ path ∈ jobFiles, ∃ job, loadJob files path = .ok job :=
    mapM_succeeds_iff.mp ⟨jobs, (loads_iff.mp loads).1⟩
  intro unloadable
  cases unloadable with
  | missingJob listed unread =>
    obtain ⟨job, loaded⟩ := each _ listed
    obtain ⟨text, found, _⟩ := loadJob_eq_ok.mp loaded
    cases found.symm.trans unread
  | otherJob listed found unread =>
    obtain ⟨job, loaded⟩ := each _ listed
    obtain ⟨text, found', read⟩ := loadJob_eq_ok.mp loaded
    cases found.symm.trans found'
    cases read.symm.trans unread
  | lockedObjects present unread =>
    rcases loads.objects with ⟨absent, _⟩ | ⟨_, text, found, _⟩
    · exact absent present
    · cases unread.symm.trans found
  | otherObjects present found unread =>
    rcases loads.objects with ⟨absent, _⟩ | ⟨_, text, found', read⟩
    · exact absent present
    · cases found.symm.trans found'
      cases read.symm.trans unread

end Loading

/-! Answers. -/

def repeated (method : String) (params : Record) (userId : String) : Json :=
  .object [("method", .string method), ("params", .object params), ("userId", .string userId)]

structure Echoed (userId : String) (call : CallRecord) : Prop where
  settled : call.isSettled = true
  returnedValue : call.returnedValue = some (repeated call.method call.params userId)
  error : call.error = none

section Answers

variable {session : Session} {objects : List Json}

theorem echo_stateless : Stateless echo := by
  intro earlier earlier' invocation invocation' sameUser sameMethod sameParams
  rw [echo, echo, sameUser, sameMethod, sameParams]

theorem answersTo_echo (task : Nat) (earlier made : List Invocation) :
    answersTo (environment session objects).dispatched task earlier made =
      made.map fun invocation =>
        .ok (repeated invocation.method invocation.params invocation.identity.user) := by
  induction made generalizing task earlier with
  | nil => rfl
  | cons invocation rest ih =>
    rw [answersTo, ih]
    rfl

theorem callResults_echo (job : Job) (records : List Record) (resolved : Progress) :
    Execution.callResults (environment session objects) job records resolved =
      records.map fun params => .ok (repeated job.method params job.userId) := by
  rw [Execution.callResults, answersTo_echo, Execution.callsMade, List.map_map]
  rfl

theorem echoed_of_terminated {job : Job} {before after : Progress} {report : Report}
    (ran : (exec (environment session objects) job).run before = (.terminated report, after)) :
    ∀ entry ∈ report.calls, Echoed job.userId entry.2 := by
  obtain ⟨records, resolved, _, _, rfl, _⟩ := Execution.of_terminated ran
  intro entry listed
  have settled := Execution.finalCalls_settled (environment session objects) job records resolved
  rw [callResults_echo] at settled
  obtain ⟨place, params, result, start, finish, given, answered, same⟩ :=
    settled.exists_place listed
  rw [List.getElem?_map, given] at answered
  cases answered
  rw [same]
  exact ⟨rfl, rfl, rfl⟩

end Answers

/-! The command. -/

def printedEvents (events : List JobEvent) : String :=
  String.join (events.map fun event => event.toJson.pretty ++ "\n")

theorem writes_loadFleet {session : Session} {objectsPath : String} {objects : List Json}
    (found : loadObjects session.files objectsPath = .ok objects) :
    Writes (loadFleet session objectsPath) (environment session objects) "" := by
  have loaded : Writes (liftM (loadObjects session.files objectsPath) : Task _) objects "" := by
    intro course
    exact ⟨course.err, by rw [run_load, found, String.append_empty]⟩
  rw [loadFleet]
  apply loaded.quietly
  apply (Writes.printErr _).quietly
  exact .pure _

theorem writes_lines (lines : List String) :
    Writes (forIn lines PUnit.unit fun line _ => do
      Task.printErr line
      return ForInStep.yield PUnit.unit) ⟨⟩ "" := by
  have silent : String.join (lines.map fun _ => "") = "" := by
    induction lines with
    | nil => rfl
    | cons line rest ih => rw [List.map_cons, String.join_cons, ih, String.empty_append]
  rw [← silent]
  apply Writes.forIn
  intro line
  apply (Writes.printErr line).quietly
  exact .pure _

theorem writes_events (events : List JobEvent) :
    Writes (forIn events PUnit.unit fun event _ => do
      Task.printErr (terminatedLine event.report)
      Task.printOut event.toJson.pretty
      return ForInStep.yield PUnit.unit) ⟨⟩ (printedEvents events) := by
  apply Writes.forIn
  intro event
  apply (Writes.printErr _).quietly
  rw [← String.append_empty (s := event.toJson.pretty ++ "\n")]
  apply (Writes.printOut _).bind
  exact .pure _

theorem run_execute {α : Type} (execution : Execution α) (course : Course) :
    (Task.execute execution).run course =
      (.ok (execution.run course.runs).1,
        { course with runs := (execution.run course.runs).2 }) := rfl

theorem run_get (course : Course) : (get : Task Course).run course = (.ok course, course) := rfl

theorem allTerminated_iff (outcomes : List Outcome) :
    (outcomes.countP fun outcome => outcome.error?.isSome) = 0 ↔
      ∀ outcome ∈ outcomes, ∃ report, outcome = .terminated report := by
  rw [List.countP_eq_zero]
  apply forall₂_congr
  intro outcome _
  cases outcome <;> simp [Outcome.error?]

section Running

variable {session : Session} {objectsPath : String} {jobFiles : List String} {jobs : List Job}
  {objects : List Json} (course : Course)

theorem run_runJobs (loads : Loads session.files objectsPath jobFiles jobs objects)
    {outcomes : List Outcome} {runs : Progress}
    (ran : (execAll (environment session objects) jobs).run course.runs = (outcomes, runs)) :
    ∃ result err, (runJobs session objectsPath jobFiles).run course =
        (result, { out := course.out ++ printedEvents (announcedEvents runs.journal), err, runs }) ∧
      (result = .ok () ↔ ∀ outcome ∈ outcomes, ∃ report, outcome = .terminated report) := by
  obtain ⟨read, found⟩ := loads_iff.mp loads
  obtain ⟨err, fleet⟩ := (writes_loadFleet found).silent course
  rw [runJobs, run_bind, run_load, read]
  simp only [run_bind, fleet, run_execute, ran]
  obtain ⟨err, failures⟩ := (writes_lines (outcomes.filterMap failureLine?)).silent
    { course with err, runs }
  simp only [failures, run_get]
  obtain ⟨err, printed⟩ := writes_events (announcedEvents runs.journal) { course with err, runs }
  simp only [printed]
  -- Printing does not fail, so from here on only the outcomes count.
  have none_failed := allTerminated_iff outcomes
  by_cases failed : 0 < outcomes.countP fun outcome => outcome.error?.isSome
  · rw [if_pos failed]
    refine ⟨.error _, err, rfl, nofun, fun terminated => ?_⟩
    have none := none_failed.mpr terminated
    omega
  · rw [if_neg failed]
    refine ⟨.ok (), err, rfl, fun _ => none_failed.mp ?_, fun _ => rfl⟩
    omega

theorem runJobs_of_unloadable (unloadable : Unloadable session.files objectsPath jobFiles) :
    ∃ failure err, (runJobs session objectsPath jobFiles).run course =
      (.error failure, { course with err }) := by
  rw [runJobs, run_bind, run_load]
  cases read : jobFiles.mapM (loadJob session.files) with
  | error failure => exact ⟨failure, course.err, rfl⟩
  | ok jobs =>
    cases found : loadObjects session.files objectsPath with
    | ok objects => exact absurd unloadable (loads_iff.mpr ⟨read, found⟩).not_unloadable
    | error failure =>
      have stopped : (loadFleet session objectsPath).run course = (.error failure, course) := by
        rw [loadFleet, run_bind, run_load, found]
      simp only [run_bind, stopped]
      exact ⟨failure, course.err, rfl⟩

end Running

theorem agrees_inTurn {session : Session} {objects : List Json} {before after : Progress}
    {jobs : List Job} {outcomes : List Outcome} {sections : List (List Entry)}
    (inTurn : RunsInTurn (environment session objects) before jobs outcomes sections after) :
    List.Forall₂ (fun job outcome =>
      outcome.Agrees ((exec (environment session objects) job).run {}).1) jobs outcomes := by
  induction inTurn with
  | nil progress => exact .nil
  | @cons before between after job outcome entries jobs outcomes others ran entered own rest ih =>
    refine .cons ?_ ih
    -- No task is lost, so it does not matter how many have been started before.
    have agrees : ((exec (environment session objects) job).run before).1.Agrees _ :=
      Execution.exec_agrees echo_stateless (fun _ _ _ _ _ _ _ => rfl)
        ⟨fun _ _ => rfl, rfl, rfl⟩ job before (.inl fun _ _ => rfl)
    rwa [ran] at agrees

theorem echoed_inTurn {session : Session} {objects : List Json} {before after : Progress}
    {jobs : List Job} {outcomes : List Outcome} {sections : List (List Entry)}
    (inTurn : RunsInTurn (environment session objects) before jobs outcomes sections after) :
    List.Forall₂ (fun job outcome => ∀ report, outcome = .terminated report →
      ∀ entry ∈ report.calls, Echoed job.userId entry.2) jobs outcomes := by
  induction inTurn with
  | nil progress => exact .nil
  | cons ran entered own rest ih =>
    refine .cons ?_ ih
    rintro report rfl
    exact echoed_of_terminated ran

theorem ending_of_run {session : Session} {arguments jobFiles : List String} {options : Options}
    {objectsPath : String} {result : Except Failure Unit} {course : Course}
    (parsed : parse arguments = .ok (.perform options (some (.run jobFiles))))
    (located : objectsFile session.home options = .ok objectsPath)
    (ran : (runJobs session objectsPath jobFiles).run {} = (result, course)) :
    (ending session arguments).out = course.out ∧
      ((ending session arguments).exit = 0 ↔ result = .ok ()) := by
  have performed : (perform session options (some (.run jobFiles))).run {} = (result, course) := by
    rw [perform, run_bind, run_load, located, ← ran]
  rw [ending, parsed]
  simp only [performed]
  cases result <;> simp

/-- A command to run jobs runs none and prints no event if a job file is missing or holds no job, or
if there is a file of objects that does not hold a list. Otherwise the jobs are run in the order of
their files, each to what it would come to alone, and the events of the runs that terminate are
printed in that order, with each call answered by what it was given. The command succeeds if and only
if all runs terminate. -/
theorem run_command_all_or_nothing (session : Session) (objectsPath : String)
    (jobFiles : List String) :
    ∃ result course, (runJobs session objectsPath jobFiles).run {} = (result, course) ∧
      (Unloadable session.files objectsPath jobFiles →
        (∃ failure, result = .error failure) ∧ course.out = "" ∧ course.runs = {}) ∧
      (¬ Unloadable session.files objectsPath jobFiles →
        ∃ jobs objects outcomes sections,
          Loads session.files objectsPath jobFiles jobs objects ∧
          RunsInTurn (environment session objects) {} jobs outcomes sections course.runs ∧
          List.Forall₂ (fun job outcome =>
            outcome.Agrees ((exec (environment session objects) job).run {}).1) jobs outcomes ∧
          course.out = printedEvents (outcomes.filterMap Outcome.event?) ∧
          List.Forall₂ (fun job outcome => ∀ report, outcome = .terminated report →
            ∀ entry ∈ report.calls, Echoed job.userId entry.2) jobs outcomes ∧
          (result = .ok () ↔ ∀ outcome ∈ outcomes, ∃ report, outcome = .terminated report)) ∧
      ∀ arguments options, parse arguments = .ok (.perform options (some (.run jobFiles))) →
        objectsFile session.home options = .ok objectsPath →
        (ending session arguments).out = course.out ∧
          ((ending session arguments).exit = 0 ↔ result = .ok ()) := by
  rcases loads_or_unloadable session.files objectsPath jobFiles with
    ⟨jobs, objects, loads⟩ | unloadable
  · cases all : (execAll (environment session objects) jobs).run {} with
    | mk outcomes runs =>
      obtain ⟨sections, inTurn⟩ := Execution.execAll_inTurn (environment session objects) jobs {}
      rw [all] at inTurn
      obtain ⟨result, err, ran, verdict⟩ := run_runJobs {} loads all
      refine ⟨result, _, ran, fun unloadable => absurd unloadable loads.not_unloadable, fun _ => ?_,
        fun arguments options parsed located => ending_of_run parsed located ran⟩
      have events : announcedEvents runs.journal = outcomes.filterMap Outcome.event? :=
        inTurn.events
      exact ⟨jobs, objects, outcomes, sections, loads, inTurn,
        agrees_inTurn inTurn, by rw [events, String.empty_append],
        echoed_inTurn inTurn, verdict⟩
  · obtain ⟨failure, err, ran⟩ := runJobs_of_unloadable {} unloadable
    refine ⟨.error failure, _, ran, fun _ => ⟨⟨failure, rfl⟩, rfl, rfl⟩, absurd unloadable,
      fun arguments options parsed located => ending_of_run parsed located ran⟩

section TwoFiles

/-- The first job is of no type that is run. Nothing is known of a file of objects. -/
def twoFiles : Session where
  home := some "/home"
  files := {
    exists? := fun _ => .error .denied
    read := fun path =>
      if path = "plan.json" then
        .ok "[\"job-1\",null,\"admin\",\"genericTask\",\"vm.start\",\"schedule\",null]"
      else if path = "start.json" then
        .ok "[\"job-2\",null,\"admin\",\"genericTask\",\"vm.start\",\"call\",null]"
      else .error .missing }
  logIds := fun number => "evt-" ++ toString number
  identityIds := fun number => "identity-" ++ toString number
  clock := fun _ => .epoch

def planned : Job := ⟨"job-1", none, "admin", "genericTask", "vm.start", "schedule", none⟩
def started : Job := ⟨"job-2", none, "admin", "genericTask", "vm.start", "call", none⟩

theorem twoFiles_load :
    Loads twoFiles.files "fleet.json" ["plan.json", "start.json"] [planned, started] [] where
  jobs := by
    refine .cons ⟨_, rfl, ?_⟩ (.cons ⟨_, rfl, ?_⟩ .nil) <;>
      simp only [Job.ofText, Reader.runOn, String.reduceToList] <;> rfl
  objects := .inl ⟨nofun, rfl⟩

theorem twoFiles_missing : Unloadable twoFiles.files "fleet.json" ["start.json", "gone.json"] := by
  have missing : twoFiles.files.read "gone.json" = .error .missing := rfl
  exact .missingJob (by simp) missing

theorem twoFiles_outcomes {objects : List Json} {outcomes : List Outcome}
    {sections : List (List Entry)} {runs : Progress}
    (inTurn : RunsInTurn (environment twoFiles objects) {} [planned, started] outcomes sections
      runs) :
    ∃ runJobId error report, outcomes = [.failed runJobId error, .terminated report] := by
  let env := environment twoFiles objects
  cases inTurn with
  | cons ran _ _ rest =>
    cases rest with
    | cons ran' _ _ rest =>
      cases rest with
      | nil =>
        have first := (Execution.run_exec_of_type env planned rfl).symm.trans ran
        have second := (Execution.run_exec_of_records env started [[]] _ rfl rfl).symm.trans ran'
        rw [← (Prod.mk.inj first).1, ← (Prod.mk.inj second).1]
        exact ⟨_, _, _, rfl⟩

theorem twoFiles_run :
    let both := ending twoFiles ["--objects", "fleet.json", "run", "plan.json", "start.json"]
    let more := ending twoFiles ["--objects", "fleet.json", "run", "start.json", "gone.json"]
    (∃ report, both.out = printedEvents [.terminated report] ∧
        ∀ entry ∈ report.calls, Echoed "admin" entry.2) ∧
      both.exit ≠ 0 ∧ more.out = "" ∧ more.exit ≠ 0 := by
  intro both more
  have located : objectsFile twoFiles.home { objects := some "fleet.json" } =
      .ok "fleet.json" := rfl
  have parsed : parse ["--objects", "fleet.json", "run", "plan.json", "start.json"] =
      .ok (.perform { objects := some "fleet.json" }
        (some (.run ["plan.json", "start.json"]))) := by decide +kernel
  have parsed' : parse ["--objects", "fleet.json", "run", "start.json", "gone.json"] =
      .ok (.perform { objects := some "fleet.json" }
        (some (.run ["start.json", "gone.json"]))) := by decide +kernel
  obtain ⟨result, course, _, _, runs, shown⟩ :=
    run_command_all_or_nothing twoFiles "fleet.json" ["plan.json", "start.json"]
  obtain ⟨result', course', _, stops, _, shown'⟩ :=
    run_command_all_or_nothing twoFiles "fleet.json" ["start.json", "gone.json"]
  obtain ⟨out, exit⟩ := shown _ _ parsed located
  obtain ⟨out', exit'⟩ := shown' _ _ parsed' located
  obtain ⟨jobs, objects, outcomes, sections, loads, inTurn, _, printed, echoed, verdict⟩ :=
    runs twoFiles_load.not_unloadable
  obtain rfl : [planned, started] = jobs :=
    Except.ok.inj ((loads_iff.mp twoFiles_load).1.symm.trans (loads_iff.mp loads).1)
  obtain ⟨runJobId, error, report, rfl⟩ := twoFiles_outcomes inTurn
  obtain ⟨⟨failure, rfl⟩, silent, _⟩ := stops twoFiles_missing
  refine ⟨⟨report, out.trans printed, ?_⟩, ?_, out'.trans silent, ?_⟩
  · cases echoed with
    | cons _ rest =>
      cases rest with
      | cons own _ => exact own report rfl
  · intro succeeded
    obtain ⟨other, same⟩ := verdict.mp (exit.mp succeeded) (.failed runJobId error) (by simp)
    cases same
  · intro succeeded
    cases exit'.mp succeeded

end TwoFiles

end JobFanout.Command
