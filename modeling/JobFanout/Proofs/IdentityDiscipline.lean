import JobFanout.Proofs.IdentityUses
import JobFanout.Proofs.RunProtocol
/-!
The discipline of identities over any list of steps. The journal falls into one section for each
job, and in each section at most one identity is opened for the vector and one for the calls of the
run, in this order and one at a time; both are the user's of the job, and each call carries the
identity that it is made under. A section that fails is no exception.
-/
namespace JobFanout.Execution
variable (env : Environment)

/-- The identities that a job begun in `before` uses: `asking` while its vector is resolved,
`calling` for the calls of its run. There is no outcome where the job is only resolved. -/
structure UsesIdentities (job : Job) (before : Progress) (outcome : Option Outcome)
    (asking calling : Option Access) : Prop where
  ownAsking : ∀ access ∈ asking, access.Owned env job.userId
  ownCalling : ∀ access ∈ calling, access.Owned env job.userId
  asked : ∀ access ∈ asking, ∃ queries,
    ((resolveRecords env job).run before).2 =
      afterResolution env job before queries (some access.calls)
  called : ∀ access ∈ calling, ∃ records,
    ((resolveRecords env job).run before).1 = .ok records ∧
      access.calls = records.map fun params => ⟨access.identity, job.method, params⟩
  dispatches : calling.isSome ↔ ∃ report, outcome = some (.terminated report)

def JobSection (job : Job) (before : Progress) (outcome : Option Outcome)
    (entries : List Entry) : Prop :=
  ∃ asking calling, UsesIdentities env job before outcome asking calling ∧
    identityUses entries = asking.elim [] Access.around ++ calling.elim [] Access.ahead

inductive JobSections : Progress → List Job → List Outcome → List Entry → Prop where
  | nil (before : Progress) : JobSections before [] [] []
  | cons {before : Progress} {job : Job} {outcome : Outcome} {entries : List Entry}
      {jobs : List Job} {outcomes : List Outcome} {others : List Entry}
      (first : JobSection env job before (some outcome) entries)
      (rest : JobSections ((exec env job).run before).2 jobs outcomes others) :
      JobSections before (job :: jobs) (outcome :: outcomes) (entries ++ others)

inductive StepSection (before : Progress) : Step → StepAnswer → List Entry → Prop where
  | exec {job : Job} {outcome : Outcome} {entries : List Entry}
      (own : JobSection env job before (some outcome) entries) :
      StepSection before (.exec job) (.outcome outcome) entries
  | sequence {jobs : List Job} {outcomes : List Outcome} {entries : List Entry}
      (each : JobSections env before jobs outcomes entries) :
      StepSection before (.sequence jobs) (.outcomes outcomes) entries
  | resolve {job : Job} {records : Except JobError (List Record)} {entries : List Entry}
      (own : JobSection env job before none entries) :
      StepSection before (.resolve job) (.resolved records) entries

inductive StepSections : Progress → List Step → List StepAnswer → List (List Entry) → Prop where
  | nil (before : Progress) : StepSections before [] [] []
  | cons {before : Progress} {step : Step} {answer : StepAnswer} {entries : List Entry}
      {steps : List Step} {answers : List StepAnswer} {others : List (List Entry)}
      (first : StepSection env before step answer entries)
      (rest : StepSections ((perform env step).run before).2 steps answers others) :
      StepSections before (step :: steps) (answer :: answers) (entries :: others)

/-! One job. -/

variable (job : Job) (before : Progress)

theorem owned_asking {asked : Option (List Invocation)}
    (own : ∀ calls ∈ asked, ∀ call ∈ calls, call.identity = callIdentity env job before) :
    ∀ access ∈ asked.map (Access.mk (callIdentity env job before)),
      access.Owned env job.userId := by
  intro access listed
  obtain ⟨calls, same, rfl⟩ := Option.mem_map.mp listed
  exact ⟨⟨before.opened, rfl⟩, own calls same⟩

theorem asked_alone {queries : Nat} {asked : Option (List Invocation)}
    (alone : ((resolveRecords env job).run before).2 =
      afterResolution env job before queries asked) :
    ∀ access ∈ asked.map (Access.mk (callIdentity env job before)), ∃ queries,
      ((resolveRecords env job).run before).2 =
        afterResolution env job before queries (some access.calls) := by
  intro access listed
  obtain ⟨calls, same, rfl⟩ := Option.mem_map.mp listed
  exact ⟨queries, by rw [alone, same]⟩

theorem resolve_section :
    ∃ entries, ((resolveRecords env job).run before).2.journal = before.journal ++ entries ∧
      JobSection env job before none entries := by
  obtain ⟨queries, asked, own, alone⟩ := exists_afterResolution env job before
  refine ⟨_, alone ▸ journal_afterResolution env job before queries asked, _, none,
    ⟨owned_asking env job before own, nofun, asked_alone env job before alone, nofun, by simp⟩, ?_⟩
  rw [identityUses_resolutionEntries]
  exact (List.append_nil _).symm

-- Whether and how the run fails decides only which of the two identities there are.
theorem exec_section :
    ∃ entries, ((exec env job).run before).2.journal = before.journal ++ entries ∧
      JobSection env job before (some ((exec env job).run before).1) entries := by
  obtain ⟨queries, asked, own, alone, resolved, sameResult⟩ :=
    exists_afterResolution_alike env job (sameHistory_resolving env job before)
  have asking := owned_asking env job before own
  cases ran : (exec env job).run before with
  | mk outcome after =>
  cases exec_ends ran with
  | otherType uncallable =>
    refine ⟨_, journal_failed env job before _ 0 none, none, none,
      ⟨nofun, nofun, nofun, nofun, by simp⟩, ?_⟩
    rw [identityUses_append, identityUses_append, identityUses_noted, identityUses_noted]
    rfl
  | unresolved callable resolves =>
    rw [resolves] at resolved
    subst resolved
    refine ⟨_, journal_failed env job before _ queries asked, _, none,
      ⟨asking, nofun, asked_alone env job before alone, nofun, by simp⟩, ?_⟩
    simp only [identityUses_append, identityUses_noted, identityUses_resolutionEntries,
      List.nil_append]
    rfl
  | @terminated records _ callable resolves =>
    rw [resolves] at resolved sameResult
    subst resolved
    let dispatching := afterResolution env job (resolving env job before) queries asked
    let calling : Access :=
      ⟨callIdentity env job dispatching, callsMade env job records dispatching⟩
    have owned : calling.Owned env job.userId := by
      refine ⟨⟨dispatching.opened, rfl⟩, fun call listed => ?_⟩
      obtain ⟨params, _, rfl⟩ := List.mem_map.mp listed
      rfl
    refine ⟨_, journal_terminated env job before records queries asked, _, some calling,
      ⟨asking, ?_, asked_alone env job before alone, ?_, by simp⟩, ?_⟩
    · rintro access same
      cases same
      exact owned
    · rintro access same
      cases same
      exact ⟨records, sameResult, rfl⟩
    · simp only [identityUses_append, identityUses_noted, identityUses_resolutionEntries,
        identityUses_terminationEntries, List.nil_append]
      rfl

/-! Sequences of jobs and of steps. -/

theorem execAll_sections (jobs : List Job) (before : Progress) :
    ∃ entries, ((execAll env jobs).run before).2.journal = before.journal ++ entries ∧
      JobSections env before jobs ((execAll env jobs).run before).1 entries := by
  induction jobs generalizing before with
  | nil => exact ⟨[], (List.append_nil _).symm, .nil before⟩
  | cons job rest ih =>
    obtain ⟨entries, entered, first⟩ := exec_section env job before
    obtain ⟨others, enteredLater, sections⟩ := ih ((exec env job).run before).2
    refine ⟨entries ++ others, ?_, .cons first sections⟩
    rw [← List.append_assoc, ← entered]
    exact enteredLater

theorem perform_section (step : Step) (before : Progress) :
    ∃ entries, ((perform env step).run before).2.journal = before.journal ++ entries ∧
      StepSection env before step ((perform env step).run before).1 entries := by
  cases step with
  | exec job =>
    obtain ⟨entries, entered, own⟩ := exec_section env job before
    exact ⟨entries, entered, .exec own⟩
  | sequence jobs =>
    obtain ⟨entries, entered, each⟩ := execAll_sections env jobs before
    exact ⟨entries, entered, .sequence each⟩
  | resolve job =>
    obtain ⟨entries, entered, own⟩ := resolve_section env job before
    exact ⟨entries, entered, .resolve own⟩

theorem performAll_sections (steps : List Step) (before : Progress) :
    ∃ sections, ((performAll env steps).run before).2.journal =
        before.journal ++ sections.flatten ∧
      StepSections env before steps ((performAll env steps).run before).1 sections := by
  induction steps generalizing before with
  | nil => exact ⟨[], (List.append_nil _).symm, .nil before⟩
  | cons step rest ih =>
    obtain ⟨entries, entered, first⟩ := perform_section env step before
    obtain ⟨others, enteredLater, sections⟩ := ih ((perform env step).run before).2
    refine ⟨entries :: others, ?_, .cons first sections⟩
    rw [List.flatten_cons, ← List.append_assoc, ← entered]
    exact enteredLater

/-! In turn, section by section. -/

variable {env}

/-- Nothing out of turn, and every identity opened is one that the environment gives out. -/
structure Disciplined (env : Environment) (uses : List IdentityUse) : Prop where
  turns : InTurn uses
  given : ∀ identity, .opened identity ∈ uses → ∃ number, identity.id = env.identityIds number

theorem Disciplined.append {first second : List IdentityUse} (one : Disciplined env first)
    (other : Disciplined env second) : Disciplined env (first ++ second) where
  turns := one.turns.append other.turns
  given identity opened := (List.mem_append.mp opened).elim (one.given identity)
    (other.given identity)

theorem disciplined_around {access : Access} {user : String} (owned : access.Owned env user) :
    Disciplined env access.around where
  turns := access.inTurn_around
  given := by
    intro identity opened
    simp only [Access.around, List.mem_cons, IdentityUse.opened.injEq, List.mem_append,
      List.mem_map, reduceCtorEq, and_false, exists_false, List.not_mem_nil, or_false] at opened
    obtain ⟨number, given⟩ := owned.opened
    exact ⟨number, by rw [opened, given]⟩

theorem disciplined_ahead {access : Access} {user : String} (owned : access.Owned env user) :
    Disciplined env access.ahead where
  turns := access.inTurn_ahead
  given := by
    intro identity opened
    simp only [Access.ahead, List.mem_cons, IdentityUse.opened.injEq, List.mem_map, reduceCtorEq,
      and_false, exists_false, or_false] at opened
    obtain ⟨number, given⟩ := owned.opened
    exact ⟨number, by rw [opened, given]⟩

theorem disciplined_nil : Disciplined env [] := ⟨.nil, by simp⟩

theorem JobSection.disciplined {job : Job} {before : Progress} {outcome : Option Outcome}
    {entries : List Entry} (own : JobSection env job before outcome entries) :
    Disciplined env (identityUses entries) := by
  obtain ⟨asking, calling, uses, same⟩ := own
  rw [same]
  apply Disciplined.append
  · cases asking with
    | none => exact disciplined_nil
    | some access => exact disciplined_around (uses.ownAsking access rfl)
  · cases calling with
    | none => exact disciplined_nil
    | some access => exact disciplined_ahead (uses.ownCalling access rfl)

theorem JobSections.disciplined {before : Progress} {jobs : List Job} {outcomes : List Outcome}
    {entries : List Entry} (sections : JobSections env before jobs outcomes entries) :
    Disciplined env (identityUses entries) := by
  induction sections with
  | nil => exact disciplined_nil
  | cons first rest ih =>
    rw [identityUses_append]
    exact first.disciplined.append ih

theorem StepSection.disciplined {before : Progress} {step : Step} {answer : StepAnswer}
    {entries : List Entry} (own : StepSection env before step answer entries) :
    Disciplined env (identityUses entries) := by
  cases own with
  | exec own => exact own.disciplined
  | sequence each => exact each.disciplined
  | resolve own => exact own.disciplined

theorem StepSections.disciplined {before : Progress} {steps : List Step}
    {answers : List StepAnswer} {sections : List (List Entry)}
    (each : StepSections env before steps answers sections) :
    ∀ entries ∈ sections, Disciplined env (identityUses entries) := by
  induction each with
  | nil => simp
  | cons first rest ih =>
    intro entries listed
    rcases List.mem_cons.mp listed with rfl | later
    · exact first.disciplined
    · exact ih entries later

theorem disciplined_flatten {sections : List (List Entry)}
    (each : ∀ entries ∈ sections, Disciplined env (identityUses entries)) :
    Disciplined env (identityUses sections.flatten) := by
  induction sections with
  | nil => exact disciplined_nil
  | cons first rest ih =>
    rw [List.flatten_cons, identityUses_append]
    exact (each first List.mem_cons_self).append
      (ih fun entries listed => each entries (List.mem_cons_of_mem first listed))

theorem Disciplined.count_after {uses : List IdentityUse} (disciplined : Disciplined env uses)
    {identities : OpenIdentities} (fresh : ∀ number, env.identityIds number ∉ identities.ids) :
    (identities.after uses).count = identities.count := by
  rw [OpenIdentities.after_of_inTurn disciplined.turns]
  intro identity opened
  obtain ⟨number, given⟩ := disciplined.given identity opened
  exact given ▸ fresh number

variable (env)

/-- Whatever the steps and however they end, the journal grows by one section for each step, made of
one section for each of its jobs; identities are used in turn, and after each step as many are open
as before it. -/
theorem identities_released (steps : List Step) (before : Progress) :
    let (answers, after) := (performAll env steps).run before
    ∃ sections : List (List Entry),
      after.journal = before.journal ++ sections.flatten ∧
      StepSections env before steps answers sections ∧
      InTurn (identityUses sections.flatten) ∧
      ∀ identities : OpenIdentities, (∀ number, env.identityIds number ∉ identities.ids) →
        ∀ done, (identities.after (identityUses (sections.take done).flatten)).count =
          identities.count := by
  obtain ⟨sections, entered, each⟩ := performAll_sections env steps before
  have disciplined := each.disciplined
  refine ⟨sections, entered, each, (disciplined_flatten disciplined).turns, ?_⟩
  intro identities fresh done
  apply Disciplined.count_after (disciplined_flatten ?_) fresh
  exact fun entries listed => disciplined entries (List.mem_of_mem_take listed)

/-- One of the jobs of the second step fails, and another identity is held open throughout. -/
theorem listedMachines_identities_released :
    let steps : List Step :=
      [.resolve startListed, .sequence [{ startListed with type := "schedule" }, startListed]]
    let held : OpenIdentities := ⟨["reserved"]⟩
    let (answers, after) := (performAll listedMachines steps).run {}
    ∃ sections, after.journal = sections.flatten ∧
      StepSections listedMachines {} steps answers sections ∧
      ∀ done, (held.after (identityUses (sections.take done).flatten)).count = 1 := by
  intro steps held
  have fresh : ∀ number, listedMachines.identityIds number ∉ held.ids := by
    intro number listed
    have same := congrArg String.toList (List.mem_singleton.mp listed)
    simp [listedMachines, String.toList_append] at same
  obtain ⟨sections, entered, each, _, counts⟩ := identities_released listedMachines steps {}
  exact ⟨sections, entered, each, counts held fresh⟩

end JobFanout.Execution
