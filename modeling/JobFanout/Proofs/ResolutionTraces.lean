import JobFanout.Proofs.JournalViews
import JobFanout.Proofs.RunRelations
/-!
What a resolution leaves behind, however it ends: nothing, or the opening and the closing of one
identity around the calls made under it. What comes of it depends on the identities opened and the
queries and calls made before, not on the log.
-/
namespace JobFanout

def Progress.asked (progress : Progress) (queries : Nat) (asked : List Invocation) : Progress :=
  { progress with
    queried := progress.queried + queries
    latest := (asked.map Entry.invoked).reverse ++ progress.latest
    finished := progress.finished + asked.length
    invocations := asked.reverse ++ progress.invocations }

theorem Progress.asked_asked (progress : Progress) (queries later : Nat)
    (first second : List Invocation) :
    (progress.asked queries first).asked later second =
      progress.asked (queries + later) (first ++ second) := by
  simp [asked, Nat.add_assoc]

/-- What a resolution enters: nothing if it needs no identity, else its calls between the opening
and the closing of theirs. By then they have all ended. -/
def resolutionEntries (identity : Identity) (finished : Nat) :
    (asked : Option (List Invocation)) → List Entry
  | none => []
  | some asked =>
    .opened identity :: (asked.map .invoked ++ [.closed identity (finished + asked.length)])

namespace Execution
variable {α β : Type}

/-! Evaluation makes queries and calls, and leaves nothing else behind. -/

def Asks (kind : Invocation → Prop) (computation : Execution α) : Prop :=
  ∀ state : Progress, ∃ queries asked, (∀ invocation ∈ asked, kind invocation) ∧
    (computation.run state).2 = state.asked queries asked

theorem Asks.sequential (kind : Invocation → Prop) :
    @ParamVector.Sequential Progress Progress fun left _ => Asks kind left where
  pure _ state := ⟨0, [], by simp, rfl⟩
  bind := by
    intro α β left right next next' first second state
    obtain ⟨queries, asked, own, between⟩ := first state
    obtain ⟨onward, later, ownLater, final⟩ := second (left.run state).1 (left.run state).2
    refine ⟨queries + onward, asked ++ later, ?_, ?_⟩
    · intro invocation listed
      exact (List.mem_append.mp listed).elim (own invocation) (ownLater invocation)
    · rw [run_bind, final, between, Progress.asked_asked]

variable (env : Environment) (job : Job)

theorem asks_query (kind : Invocation → Prop) : Asks kind (query env) := by
  intro state
  exact ⟨1, [], by simp, rfl⟩

theorem asks_callSource (identity : Identity) (method : String) (params : Record) :
    Asks (fun invocation => some invocation.identity = some identity)
      (callSource env identity method params) := by
  intro state
  exact ⟨0, [⟨identity, method, params⟩], by simp, rfl⟩

theorem asks_records (identity : Option Identity) (vector : Option ParamVector) :
    Asks (fun invocation => some invocation.identity = identity)
      (ParamVector.records (surroundings env identity) vector).run := by
  have sources : Option.Rel (fun source _ => ∀ method params,
      Asks (fun invocation => some invocation.identity = identity) (source method params))
      (surroundings env identity).calls (surroundings env identity).calls := by
    cases identity with
    | none => exact .none
    | some identity => exact .some (asks_callSource env identity)
  exact (Asks.sequential _).records (asks_query env _) sources vector

def afterResolution (state : Progress) (queries : Nat) (asked : Option (List Invocation)) :
    Progress :=
  { state with
    queried := state.queried + queries
    latest := (resolutionEntries (callIdentity env job state) state.finished asked).reverse
      ++ state.latest
    opened := state.opened + asked.toList.length
    finished := state.finished + (asked.getD []).length
    invocations := (asked.getD []).reverse ++ state.invocations }

/-- Failed resolutions included, the identity is closed and carried by every call. -/
theorem exists_afterResolution (state : Progress) :
    ∃ (queries : Nat) (asked : Option (List Invocation)),
      (∀ calls ∈ asked, ∀ call ∈ calls, call.identity = callIdentity env job state) ∧
      ((resolveRecords env job).run state).2 = afterResolution env job state queries asked := by
  unfold resolveRecords
  cases job.vector with
  | error error => exact ⟨0, none, nofun, rfl⟩
  | ok vector =>
    by_cases mayCall : vector.any ParamVector.containsCall = true
    · simp only [if_pos mayCall, run_bind, run_openIdentity, run_closeIdentity, run_pure]
      obtain ⟨queries, asked, own, evaluated⟩ := asks_records env
        (some (callIdentity env job state)) vector ((openIdentity env job.userId).run state).2
      refine ⟨queries, some asked, ?_, ?_⟩
      · rintro calls same call listed
        cases same
        exact Option.some.inj (own call listed)
      · simp only [run_openIdentity, callIdentity] at evaluated ⊢
        rw [evaluated]
        simp [afterResolution, resolutionEntries, Progress.asked, callIdentity]
    · simp only [if_neg mayCall, run_bind, run_pure]
      obtain ⟨queries, asked, own, evaluated⟩ := asks_records env none vector state
      have none : asked = [] := List.eq_nil_iff_forall_not_mem.mpr fun call listed =>
        nomatch own call listed
      exact ⟨queries, Option.none, nofun, by rw [evaluated, none]; rfl⟩

/-! The log does not matter. -/

/-- As many identities were opened and as many queries made before, and the same calls. -/
structure SameHistory (left right : Progress) : Prop where
  opened : left.opened = right.opened
  queried : left.queried = right.queried
  invocations : left.invocations = right.invocations

def FromHistory (left right : Execution α) : Prop :=
  ∀ start start', SameHistory start start' →
    (left.run start).1 = (right.run start').1 ∧
      SameHistory (left.run start).2 (right.run start').2

theorem FromHistory.sequential :
    @ParamVector.Sequential Progress Progress FromHistory where
  pure _ _ _ same := ⟨rfl, same⟩
  bind := by
    intro α β left right next next' first second start start' same
    obtain ⟨sameResult, between⟩ := first start start' same
    rw [run_bind, run_bind, sameResult]
    exact second _ _ _ between

theorem resolveRecords_fromHistory :
    FromHistory (resolveRecords env job) (resolveRecords env job) := by
  apply resolveRecords_related FromHistory.sequential
  constructor
  case querying =>
    intro start start' same
    rw [run_query, run_query, same.queried]
    exact ⟨rfl, same.opened, rfl, same.invocations⟩
  case opening =>
    intro user start start' same
    rw [run_openIdentity, run_openIdentity, same.opened]
    exact ⟨rfl, rfl, same.queried, same.invocations⟩
  case closing =>
    exact fun identity start start' same => ⟨rfl, same.opened, same.queried, same.invocations⟩
  case calling =>
    intro identity method params start start' same
    change (callSource env identity method params start).1 = _ ∧
      SameHistory (callSource env identity method params start).2
        (callSource env identity method params start').2
    rw [run_callSource, run_callSource, same.invocations]
    exact ⟨rfl, same.opened, same.queried, rfl⟩

theorem sameHistory_resolving (before : Progress) :
    SameHistory before (resolving env job before) := ⟨rfl, rfl, rfl⟩

theorem exists_afterResolution_alike {state state' : Progress} (same : SameHistory state state') :
    ∃ (queries : Nat) (asked : Option (List Invocation)),
      (∀ calls ∈ asked, ∀ call ∈ calls, call.identity = callIdentity env job state) ∧
      ((resolveRecords env job).run state).2 = afterResolution env job state queries asked ∧
      ((resolveRecords env job).run state').2 = afterResolution env job state' queries asked ∧
      ((resolveRecords env job).run state).1 = ((resolveRecords env job).run state').1 := by
  obtain ⟨queries, asked, own, left⟩ := exists_afterResolution env job state
  obtain ⟨queries', asked', _, right⟩ := exists_afterResolution env job state'
  obtain ⟨sameResult, opened, queried, invocations⟩ :=
    resolveRecords_fromHistory env job state state' same
  rw [left, right] at opened queried invocations
  simp only [afterResolution, same.opened, same.queried, same.invocations, Nat.add_left_cancel_iff,
    List.append_cancel_right_eq, List.reverse_inj] at opened queried invocations
  have alike : asked = asked' := by
    cases asked <;> cases asked' <;> simp_all
  subst alike
  subst queried
  exact ⟨queries, asked, own, left, right, sameResult⟩

end Execution
end JobFanout
