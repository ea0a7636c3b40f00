import JobFanout.Proofs.ExactlyOnce
import JobFanout.Proofs.RunEndings
/-!
The protocol of a run. The journal of a run that terminates is a fixed sequence of phases, whatever
its records and the order in which its calls end: start, resolution, calls launched under one
identity, calls ended, event, end. All of it names the run by the id of its start.
-/
namespace JobFanout

/-- If the entry names a run, it names this one. Every log entry but a start has to. -/
def Entry.OfRun (runJobId : String) : Entry → Prop
  | .logged _ _ _ data => data.field? "runJobId" = some (.string runJobId)
  | .announced event => event.report.runJobId = runJobId
  | _ => True

theorem ofRun_noted {runJobId : String} {notes : List Note}
    (named : ∀ note ∈ notes, note.data.field? "runJobId" = some (.string runJobId))
    (logIds : Nat → String) (position : Nat) :
    ∀ entry ∈ noted logIds position notes, entry.OfRun runJobId :=
  forall_noted (fun note listed _ => named note listed) logIds position

theorem ofRun_resolutionEntries (runJobId : String) (identity : Identity) (finished : Nat)
    (asked : Option (List Invocation)) :
    ∀ entry ∈ resolutionEntries identity finished asked, entry.OfRun runJobId := by
  cases asked with
  | none => simp [resolutionEntries]
  | some asked =>
    intro entry listed
    simp only [resolutionEntries, List.mem_cons, List.mem_append, List.mem_map,
      List.not_mem_nil, or_false] at listed
    rcases listed with rfl | ⟨call, _, rfl⟩ | rfl <;> trivial

namespace Execution
variable (env : Environment) (job : Job)

theorem ofRun_terminationEntries (records : List Record) (resolved before : Progress) :
    ∀ entry ∈ terminationEntries env job records resolved before,
      entry.OfRun (env.logIds before.logged) := by
  have started : ∀ note ∈ records.map (Note.callStarted job (env.logIds before.logged)),
      note.data.field? "runJobId" = some (.string (env.logIds before.logged)) := by
    intro note listed
    obtain ⟨params, _, rfl⟩ := List.mem_map.mp listed
    rfl
  have settled : ∀ note ∈ (callsSettling env job records resolved).map
      (EndedCall.note job (env.logIds before.logged)),
      note.data.field? "runJobId" = some (.string (env.logIds before.logged)) := by
    intro note listed
    obtain ⟨⟨callId, result⟩, _, rfl⟩ := List.mem_map.mp listed
    cases result <;> rfl
  have finished : ∀ note ∈ [Note.runTerminated job (env.logIds before.logged)],
      note.data.field? "runJobId" = some (.string (env.logIds before.logged)) := by
    intro note listed
    rw [List.mem_singleton.mp listed]
    rfl
  intro entry listed
  simp only [terminationEntries, launchEntries, joinEntries, List.mem_append,
    List.mem_singleton] at listed
  rcases listed with (((((rfl | noted) | rfl) | invoked) | noted) | rfl) | noted
  · trivial
  · exact ofRun_noted started _ _ entry noted
  · trivial
  · obtain ⟨call, _, rfl⟩ := List.mem_map.mp invoked
    trivial
  · exact ofRun_noted settled _ _ entry noted
  · rfl
  · exact ofRun_noted finished _ _ entry noted

theorem settled_finalReport (records : List Record) (resolved before : Progress) :
    ∀ entry ∈ (finalReport env job records resolved before).calls,
      entry.2.isSettled = true := by
  intro entry listed
  obtain ⟨params, start, result, finish, same⟩ :=
    (finalCalls_settled env job records resolved).exists_settle listed
  rw [same, CallRecord.isSettled_settle]

variable {env job}

/-- A run that terminates enters its start, at most one identity with the calls made for its vector,
the start of each call under a second identity, which is closed when only calls of the vector or of
earlier runs have ended, the end of each call, its event and its end. -/
theorem exec_follows_protocol {before after : Progress} {report : Report}
    (terminates : (exec env job).run before = (.terminated report, after)) :
    ∃ (records : List Record) (asked : Option (List Invocation)) (asking calling : Identity)
      (ended : List EndedCall),
      let runJobId := env.logIds before.logged
      let finished := before.finished + (asked.getD []).length
      let run :=
        resolutionEntries asking before.finished asked
        ++ [.opened calling]
        ++ noted env.logIds (before.logged + 1)
            (records.map (Note.callStarted job runJobId))
        ++ [.closed calling finished]
        ++ (records.map fun params => .invoked ⟨calling, job.method, params⟩)
        ++ noted env.logIds (before.logged + 1 + records.length)
            (ended.map (EndedCall.note job runJobId))
        ++ [.announced (.terminated report)]
        ++ noted env.logIds (before.logged + 1 + 2 * records.length)
            [.runTerminated job runJobId]
      ((resolveRecords env job).run (resolving env job before)).1 = .ok records ∧
      records.length = report.calls.length ∧
      (ended.map EndedCall.callId).Perm (Entries.keys report.calls) ∧
      after.journal =
        before.journal ++ noted env.logIds before.logged [.runStarted job] ++ run ∧
      after.finished = finished + records.length ∧
      report.runJobId = runJobId ∧ (Outcome.terminated report).runJobId = runJobId ∧
      (∀ entry ∈ run, entry.OfRun runJobId) ∧
      ∀ entry ∈ report.calls, entry.2.isSettled = true := by
  obtain ⟨records, resolved, callable, resolves, rfl, rfl⟩ := of_terminated terminates
  let started := resolving env job before
  obtain ⟨queries, asked, own, left⟩ := exists_afterResolution env job started
  rw [resolves] at left
  subst left
  let resolved := afterResolution env job started queries asked
  have settled := finalCalls_settled env job records resolved
  have count : (finalReport env job records resolved before).calls.length = records.length := by
    simpa [Entries.keys, finalReport] using settled.keys.length_eq
  refine ⟨records, asked, callIdentity env job started, callIdentity env job resolved,
    callsSettling env job records resolved, ?_⟩
  intro runJobId finished run
  have whole : run = resolutionEntries (callIdentity env job started) before.finished asked
      ++ terminationEntries env job records resolved before := by
    simp only [run, terminationEntries, launchEntries, joinEntries, callsMade, List.map_map,
      List.append_assoc]
    rfl
  refine ⟨congrArg Prod.fst resolves, count.symm,
    (callId_callsSettling_perm env job records resolved).trans settled.keys.symm, ?_, rfl, rfl, rfl,
    ?_, settled_finalReport env job records resolved before⟩
  · rw [whole, journal_terminated, List.append_assoc, List.append_assoc]
    rfl
  · rw [whole]
    intro entry listed
    rcases List.mem_append.mp listed with earlier | later
    · exact ofRun_resolutionEntries runJobId _ _ asked entry earlier
    · exact ofRun_terminationEntries env job records resolved before entry later

section ListedMachines

def startListed : Job where
  id := "job-1"
  name := none
  userId := "admin"
  key := "genericTask"
  method := "vm.start"
  type := Job.callType
  paramsVector := some (.object [("method", .string "vm.list"), ("type", .string "call")])

def machines : List Record := [[("id", .string "vm-1")], [("id", .string "vm-2")]]

def listedMachines : Environment where
  snapshots := fun _ => .ok []
  api := fun earlier _ =>
    match earlier.length with
    | 0 => .ok (.array (machines.map .object))
    | 1 => .ok .null
    | _ => .error (.rejected "host unreachable")
  losses := fun _ _ => none
  taskIds := toString
  logIds := fun position => "evt-" ++ toString position
  identityIds := fun number => "identity-" ++ toString number
  clock := fun _ => .epoch
  settling := fun _ => [1]

theorem listedMachines_follow_protocol :
    ∃ (report : Report) (after : Progress) (records : List Record)
      (asked : Option (List Invocation)),
      (exec listedMachines startListed).run {} = (.terminated report, after) ∧
      ((resolveRecords listedMachines startListed).run
        (resolving listedMachines startListed {})).1 = .ok records ∧
      records = machines ∧ report.calls.length = 2 ∧
      after.finished = (asked.getD []).length + 2 := by
  have resolves : (resolveRecords listedMachines startListed).run
      (resolving listedMachines startListed {}) = (.ok machines, _) := rfl
  have terminates := run_exec_of_records listedMachines startListed machines _ rfl resolves
  obtain ⟨records, asked, _, _, _, resolved, count, _, _, finished, _⟩ :=
    exec_follows_protocol terminates
  have same : records = machines := Except.ok.inj (resolved.symm.trans (congrArg Prod.fst resolves))
  subst same
  refine ⟨_, _, machines, asked, terminates, resolved, rfl, count.symm, ?_⟩
  rw [finished, Nat.zero_add]
  rfl

end ListedMachines

end Execution
end JobFanout
