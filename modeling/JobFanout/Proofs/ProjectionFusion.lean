import JobFanout.Proofs.IterateeNodes
/-!
One projection after another. A map that projects the records of a map that projects them comes to
what a single map with the patterns composed comes to, and fails as that one does: the first item
that is no record ends both before anything is projected twice.
-/
namespace JobFanout

namespace Record

/-- The outputs of the later pattern, each from where the earlier one takes the field that the later
one wants. What the earlier one does not make is left out. -/
def composed (later earlier : Entries String) : Entries String :=
  later.filterMap fun (output, source) =>
    (Entries.valueAt? source earlier).map fun origin => (output, origin)

theorem project_cons (output source : String) (rest : Entries String) (value : Record) :
    project ((output, source) :: rest) value =
      ((Entries.valueAt? source value).map fun found => (output, found)).toList ++
        project rest value := by
  cases found : Entries.valueAt? source value <;> simp [project, found]

theorem valueAt?_project {pattern : Entries String} (once : (Entries.keys pattern).Nodup)
    (value : Record) (key : String) :
    Entries.valueAt? key (project pattern value) =
      (Entries.valueAt? key pattern).bind fun source => Entries.valueAt? source value := by
  induction pattern with
  | nil => rfl
  | cons entry rest ih =>
    obtain ⟨output, source⟩ := entry
    obtain ⟨fresh, once⟩ := List.nodup_cons.mp once
    rw [project_cons, Entries.valueAt?_append, ih once, Entries.valueAt?_cons_or]
    by_cases here : output = key
    · subst here
      -- No later entry makes this output, so what is found is what this one makes.
      rw [Entries.valueAt?_eq_none.mpr fresh]
      cases found : Entries.valueAt? source value <;> simp [Entries.valueAt?, found]
    · cases found : Entries.valueAt? source value <;> simp [Entries.valueAt?, here]

theorem project_project {earlier : Entries String} (once : (Entries.keys earlier).Nodup)
    (later : Entries String) (value : Record) :
    project later (project earlier value) = project (composed later earlier) value := by
  induction later with
  | nil => rfl
  | cons entry rest ih =>
    obtain ⟨output, source⟩ := entry
    rw [project_cons, ih, valueAt?_project once]
    cases made : Entries.valueAt? source earlier with
    | none => simp [composed, made]
    | some origin => simp [composed, made, project_cons]

theorem keys_composed_sublist (later earlier : Entries String) :
    (Entries.keys (composed later earlier)).Sublist (Entries.keys later) := by
  induction later with
  | nil => exact .slnil
  | cons entry rest ih =>
    obtain ⟨output, source⟩ := entry
    cases made : Entries.valueAt? source earlier with
    | none => simpa [composed, made] using ih.cons output
    | some origin => simpa [composed, made] using ih.cons_cons output

end Record

namespace ParamVector
variable {σ α β : Type}

/-! Passes over a list in turn. -/

theorem ofExcept_bind (first : Except ResolveError α) (next : α → Except ResolveError β) :
    (ofExcept id first >>= fun value => ofExcept id (next value) : Evaluation σ β) =
      ofExcept id (first >>= next) := by
  cases first <;> rfl

theorem mapM_ofExcept (each : α → Except ResolveError β) (items : List α) :
    (items.mapM fun item => ofExcept id (each item) : Evaluation σ (List β)) =
      ofExcept id (items.mapM each) := by
  induction items with
  | nil => rfl
  | cons item rest ih =>
    rw [List.mapM_cons, ih, List.mapM_cons, ← ofExcept_bind]
    congr 1
    funext first
    rw [← ofExcept_bind]
    rfl

/-! Maps that project. -/

def patternArgs (pattern : Entries String) : Record :=
  [("pattern", .object (pattern.map fun entry => (entry.1, .string entry.2)))]

def projecting (pattern : Entries String) (collection : ParamVector) : ParamVector :=
  .map collection Tag.extractProperties.text (patternArgs pattern)

def projectItem (pattern : Entries String) : Json → Except ResolveError Json
  | .object record => .ok (.object (Record.project pattern record))
  | other => .error (.vector (.invalid .extractProperties (other.misfit .map)))

theorem ofJson_projecting (pattern : Entries String) (item : Json) :
    ofJson (iterateeNode Tag.extractProperties.text (patternArgs pattern) item) =
      (Json.readMap item).mapError (.invalid .extractProperties) >>= fun record =>
        .ok (.extractProperties pattern record) := by
  rw [iterateeNode, ← sharedFields]
  have look := valueAt?_put_sharedFields Tag.extractProperties.text (patternArgs pattern) item
  generalize Entries.put "value" item _ = fields at look ⊢
  have typed : Entries.valueAt? "type" fields = some (.string Tag.extractProperties.text) := by
    simp [look, valueAt?_sharedFields, patternArgs, Entries.valueAt?]
  have patternFound : Entries.valueAt? "pattern" fields =
      some (.object (pattern.map fun entry => (entry.1, .string entry.2))) := by
    simp [look, valueAt?_sharedFields, patternArgs, Entries.valueAt?]
  rw [ofJson_of_typed typed, innerNodes_of_typed typed, builder, readProjection,
    Json.readField_present patternFound (Json.readMapOf_texts pattern), Json.readField, look,
    if_pos rfl]
  cases item <;> rfl

theorem mapped_projecting (around : Surroundings σ) (pattern : Entries String) (item : Json) :
    mapped (evaluate around) Tag.extractProperties.text (patternArgs pattern) item =
      ofExcept id (projectItem pattern item) := by
  rw [mapped, ofJson_projecting]
  cases item <;> rfl

theorem projectItem_projectItem {earlier : Entries String} (once : (Entries.keys earlier).Nodup)
    (later : Entries String) (item : Json) :
    (projectItem earlier item >>= projectItem later) =
      projectItem (Record.composed later earlier) item := by
  cases item with
  | object record =>
    change Except.ok _ = Except.ok _
    rw [Record.project_project once]
  | _ => rfl

variable {around : Surroundings σ}

theorem evaluate_projecting (around : Surroundings σ) (pattern : Entries String)
    (collection : ParamVector) :
    evaluate around (projecting pattern collection) = do
      let items ← vectorOf (evaluate around) collection
      let results ← ofExcept id (items.mapM (projectItem pattern))
      return .array results := by
  rw [projecting, evaluate_eq_evaluateNode, evaluateNode, funext (mapped_projecting around pattern)]
  simp only [mapM_ofExcept]

theorem vectorOf_projecting (around : Surroundings σ) (pattern : Entries String)
    (collection : ParamVector) :
    vectorOf (evaluate around) (projecting pattern collection) =
      vectorOf (evaluate around) collection >>= fun items =>
        ofExcept id (items.mapM (projectItem pattern)) := by
  rw [vectorOf, evaluate_projecting, bind_assoc]
  congr 1
  funext items
  rw [bind_assoc]
  exact bind_pure _

theorem evaluate_fused {earlier : Entries String} (once : (Entries.keys earlier).Nodup)
    (around : Surroundings σ) (later : Entries String) (collection : ParamVector) :
    evaluate around (projecting later (projecting earlier collection)) =
      evaluate around (projecting (Record.composed later earlier) collection) := by
  have accepts : ∀ item middle, projectItem earlier item = .ok middle →
      ∃ result, projectItem later middle = .ok result := by
    intro item middle made
    cases item <;> cases made
    exact ⟨_, rfl⟩
  have passes := mapM_mapM accepts
  simp only [projectItem_projectItem once] at passes
  rw [evaluate_projecting, vectorOf_projecting, evaluate_projecting, bind_assoc]
  congr 1
  funext items
  rw [← bind_assoc, ofExcept_bind, passes]

end ParamVector

/-- Projecting what has been projected comes to the same, error or records, by the same calls, as
projecting once by the composed pattern. A pattern makes each output once. -/
theorem projections_fuse {earlier : Entries String} (ascending : Entries.Ascending earlier)
    (later : Entries String) :
    (∀ value, Record.project later (Record.project earlier value) =
      Record.project (Record.composed later earlier) value) ∧
    (Entries.Ascending later → Entries.Ascending (Record.composed later earlier)) ∧
    ∀ collection : ParamVector,
      let twice := ParamVector.projecting later (.projecting earlier collection)
      let fused := ParamVector.projecting (Record.composed later earlier) collection
      (∀ {σ : Type} (around : Surroundings σ),
        ParamVector.evaluate around twice = ParamVector.evaluate around fused) ∧
      ∀ snapshots api identity,
        let around := Resolution.surroundings snapshots api identity
        Resolution.value around twice = Resolution.value around fused ∧
          Resolution.records around (some twice) = Resolution.records around (some fused) := by
  have once := Entries.nodup_keys ascending
  constructor
  · exact Record.project_project once later
  constructor
  · exact List.Pairwise.sublist (Record.keys_composed_sublist later earlier)
  · intro collection twice fused
    have same : ∀ {σ : Type} (around : Surroundings σ),
        ParamVector.evaluate around twice = ParamVector.evaluate around fused :=
      fun around => ParamVector.evaluate_fused once around later collection
    refine ⟨same, fun snapshots api identity => ?_⟩
    intro around
    constructor
    · rw [Resolution.value, same]
      rfl
    · rw [Resolution.records, ParamVector.records, same]
      rfl

theorem labels_fused :
    let earlier := [("name", "label"), ("uuid", "id")]
    let later := [("host", "place"), ("machine", "name")]
    let fleet := [Json.object [("id", .int 1), ("label", .string "a")], .object [("id", .int 2)]]
    let around := Resolution.surroundings (fun _ => .ok fleet) none ⟨"identity-1", "u"⟩
    Entries.Ascending earlier ∧
      Resolution.value around
        (ParamVector.projecting later (.projecting earlier (.fetchObjects []))) =
        (.ok (.array [.object [("machine", .string "a")], .object []]), []) := by
  intro earlier later fleet around
  have ascending : Entries.Ascending earlier := by decide
  obtain ⟨_, _, fuses⟩ := projections_fuse ascending later
  obtain ⟨_, resolved⟩ := fuses (.fetchObjects [])
  refine ⟨ascending, (resolved _ _ _).1.trans ?_⟩
  have fused : ParamVector.projecting (Record.composed later earlier) (.fetchObjects []) =
      .map (.fetchObjects []) "extractProperties"
        [("pattern", .object [("machine", .string "label")])] := rfl
  rw [fused]
  rfl

end JobFanout
