/- Module: SthBoring/Plan/PlanFinalizer
   source: sdk_test_agent/plan/plan_finalizer.py
   digest: A plan made of a draft, and what the metadata of the plan can be trusted for. -/

import SthBoring.Plan.PassedPlans

set_option autoImplicit false
set_option relaxedAutoImplicit false

namespace SthBoring.Plan.PlanFinalizer

open SthBoring.Lib.OrderedDict
open SthBoring.Lib.PyValue (Value Fields PyExc bind_eq_ok mem_collect)
open SthBoring.Capability.CapabilityModels
open SthBoring.Capability.Panel (optionalText)
open SthBoring.Plan.Models
open SthBoring.Plan.PlanValidation
open SthBoring.Plan.PassedPlans

/-- The arguments of `finalize` besides the draft and the snapshot. Of a resolution record only
the id is read. -/
structure FinalizeOptions where
  plannerKind : PlannerKind := .llm
  globalConstraints : Option Fields := none
  parentPlanId : Option String := none
  revisionNo : ℤ := 0
  capabilityResolutionRecordId : Option String := none
  artifactRefs : Option (PyDict String String) := none
  metadata : Option (PyDict String Value) := none

/-- `d[key] = v` on the dict of a record. -/
def setField (fields : Fields) (key : String) (v : Value) : Fields := assocSet key v fields

/-- `d.update(other)`. -/
def update (fields : Fields) (other : PyDict String Value) : Fields :=
  other.entries.foldl (fun fs e => setField fs e.1 e.2) fields

def draftMetadata (draft : ExecutionPlanDraft) : Fields :=
  [("plan_summary", .str draft.planSummary), ("draft_metadata", .dict draft.metadata),
    ("raw_llm_output", optionalText draft.rawLlmOutput)]

def bindSnapshot (fields : Fields) : Option CapabilitySnapshot → Fields
  | none => fields
  | some snapshot =>
    setField (setField fields "capability_snapshot_id" (.str snapshot.snapshotId))
      "capability_digest" (.str snapshot.capabilityDigest)

def bindRecord (fields : Fields) : Option String → Fields
  | none => fields
  | some recordId => setField fields "capability_resolution_record_id" (.str recordId)

/-- An empty dict of references is not written. -/
def bindArtifacts (fields : Fields) : Option (PyDict String String) → Fields
  | none => fields
  | some refs =>
    if refs.entries.isEmpty then fields
    else setField fields "artifact_refs" (.dict (refs.entries.map fun e => (e.1, .str e.2)))

def bindMetadata (fields : Fields) : Option (PyDict String Value) → Fields
  | none => fields
  | some metadata => update fields metadata

def planMetadata (draft : ExecutionPlanDraft) (snapshot : Option CapabilitySnapshot)
    (options : FinalizeOptions) : Fields :=
  bindMetadata (bindArtifacts (bindRecord (bindSnapshot (draftMetadata draft) snapshot)
    options.capabilityResolutionRecordId) options.artifactRefs) options.metadata

/-- `PlanFinalizer.finalize`, given the id and the time it draws. -/
def finalize (draft : ExecutionPlanDraft) (snapshot : Option CapabilitySnapshot)
    (options : FinalizeOptions) (planId : String) (createdAt : ℤ) : ExecutionPlan where
  planId := planId
  taskId := draft.taskId
  taskType := draft.taskType
  goal := draft.goal
  plannerKind := options.plannerKind
  plannerName := draft.plannerName
  plannerVersion := draft.plannerVersion
  status := .draft
  steps := draft.steps
  assumptions := draft.assumptions
  missingInformation := draft.missingInformation
  riskNotes := draft.riskNotes
  globalConstraints := options.globalConstraints.getD []
  planMetadata := planMetadata draft snapshot options
  parentPlanId := options.parentPlanId
  revisionNo := options.revisionNo
  createdAt := some createdAt

section Metadata

variable {fields : Fields} {key : String}

theorem get_setField (k : String) (v : Value) :
    (setField fields k v).get key = if k = key then some v else fields.get key :=
  assocGet_assocSet k key v fields

/-- What another dict has goes before what was there. -/
theorem get_update (other : PyDict String Value) :
    (update fields other).get key = (other.get key).or (fields.get key) :=
  get_foldl_set (fun fs : Fields => fs.get key) setField (fun _ k v => get_setField k v) other.nodup
    fields

theorem get_bindMetadata (metadata : Option (PyDict String Value)) :
    (bindMetadata fields metadata).get key =
      (metadata.bind fun m => m.get key).or (fields.get key) := by
  cases metadata with
  | none => rfl
  | some m => exact get_update m

theorem get_bindArtifacts (refs : Option (PyDict String String)) (other : key ≠ "artifact_refs") :
    (bindArtifacts fields refs).get key = fields.get key := by
  cases refs with
  | none => rfl
  | some refs =>
    rw [bindArtifacts]
    split
    · rfl
    · rw [get_setField, if_neg (Ne.symm other)]

theorem get_bindRecord (recordId : Option String)
    (other : key ≠ "capability_resolution_record_id") :
    (bindRecord fields recordId).get key = fields.get key := by
  cases recordId with
  | none => rfl
  | some recordId => rw [bindRecord, get_setField, if_neg (Ne.symm other)]

variable (draft : ExecutionPlanDraft) (snapshot : CapabilitySnapshot) (options : FinalizeOptions)

theorem get_capabilityDigest :
    (planMetadata draft (some snapshot) options).get "capability_digest" =
      (options.metadata.bind fun m => m.get "capability_digest").or
        (some (.str snapshot.capabilityDigest)) := by
  rw [planMetadata, get_bindMetadata, get_bindArtifacts _ (by decide),
    get_bindRecord _ (by decide), bindSnapshot, get_setField, if_pos rfl]

theorem get_capabilitySnapshotId :
    (planMetadata draft (some snapshot) options).get "capability_snapshot_id" =
      (options.metadata.bind fun m => m.get "capability_snapshot_id").or
        (some (.str snapshot.snapshotId)) := by
  rw [planMetadata, get_bindMetadata, get_bindArtifacts _ (by decide),
    get_bindRecord _ (by decide), bindSnapshot, get_setField, if_neg (by decide), get_setField,
    if_pos rfl]

end Metadata

/-- The plan says which snapshot it was made for. -/
structure Trusted (plan : ExecutionPlan) (snapshot : CapabilitySnapshot) : Prop where
  digest : plan.planMetadata.get "capability_digest" = some (.str snapshot.capabilityDigest)
  snapshotId : plan.planMetadata.get "capability_snapshot_id" = some (.str snapshot.snapshotId)

/-- The caller's metadata says nothing else about the snapshot. -/
structure Undisplaced (metadata : Option (PyDict String Value)) (snapshot : CapabilitySnapshot) :
    Prop where
  digest : ∀ m ∈ metadata, ∀ v, m.get "capability_digest" = some v →
    v = .str snapshot.capabilityDigest
  snapshotId : ∀ m ∈ metadata, ∀ v, m.get "capability_snapshot_id" = some v →
    v = .str snapshot.snapshotId

private theorem or_eq_iff {metadata : Option (PyDict String Value)} {key : String} {v : Value} :
    (metadata.bind fun m => m.get key).or (some v) = some v ↔
      ∀ m ∈ metadata, ∀ w, m.get key = some w → w = v := by
  cases metadata with
  | none => simp
  | some m =>
    cases found : m.get key with
    | none => simp [found]
    | some w => simp [found]

theorem trusted_iff (draft : ExecutionPlanDraft) (snapshot : CapabilitySnapshot)
    (options : FinalizeOptions) (planId : String) (createdAt : ℤ) :
    Trusted (finalize draft (some snapshot) options planId createdAt) snapshot ↔
      Undisplaced options.metadata snapshot := by
  have digest := get_capabilityDigest draft snapshot options
  have snapshotId := get_capabilitySnapshotId draft snapshot options
  constructor
  · intro trusted
    exact ⟨or_eq_iff.mp (digest.symm.trans trusted.digest),
      or_eq_iff.mp (snapshotId.symm.trans trusted.snapshotId)⟩
  · intro plain
    exact ⟨digest.trans (or_eq_iff.mpr plain.digest),
      snapshotId.trans (or_eq_iff.mpr plain.snapshotId)⟩

section Reports

/-- The issue is about the digest in the metadata of the plan. -/
def isDigestIssue (i : ValidationIssue) : Bool :=
  i.code = "CAPABILITY_DIGEST_MISSING" || i.code = "CAPABILITY_DIGEST_MISMATCH"

/-- No issue is about the digest. -/
def Elsewhere (issues : List ValidationIssue) : Prop := ∀ i ∈ issues, isDigestIssue i = false

theorem elsewhere_append {is js : List ValidationIssue} (hi : Elsewhere is) (hj : Elsewhere js) :
    Elsewhere (is ++ js) := by
  intro i mem
  rcases List.mem_append.mp mem with left | right
  · exact hi i left
  · exact hj i right

theorem elsewhere_flatMap {α : Type} {xs : List α} {f : α → List ValidationIssue}
    (h : ∀ x ∈ xs, Elsewhere (f x)) : Elsewhere (xs.flatMap f) := by
  intro i mem
  obtain ⟨x, hx, hi⟩ := List.mem_flatMap.mp mem
  exact h x hx i hi

theorem elsewhere_issuesIf {condition : Bool} {is : List ValidationIssue} (h : Elsewhere is) :
    Elsewhere (issuesIf condition is) := by
  cases condition with
  | false => exact nofun
  | true => exact h

theorem elsewhere_one {code : String} (severity : ValidationSeverity) (message loc : String)
    (step : PlanStep) (path : Option String) (metadata : Fields)
    (other : code ≠ "CAPABILITY_DIGEST_MISSING" ∧ code ≠ "CAPABILITY_DIGEST_MISMATCH") :
    Elsewhere [stepIssue code severity message loc step path metadata] := by
  intro i mem
  rw [List.mem_singleton.mp mem]
  simp [isDigestIssue, stepIssue, issue, other.1, other.2]

theorem elsewhere_cons {code : String} (severity : ValidationSeverity) (message loc : String)
    (step : PlanStep) (path : Option String) (metadata : Fields) {rest : List ValidationIssue}
    (other : code ≠ "CAPABILITY_DIGEST_MISSING" ∧ code ≠ "CAPABILITY_DIGEST_MISMATCH")
    (h : Elsewhere rest) :
    Elsewhere (stepIssue code severity message loc step path metadata :: rest) :=
  elsewhere_append (elsewhere_one severity message loc step path metadata other) h

variable {v : PlanValidator} {step : PlanStep} {loc : String}

theorem elsewhere_stepIdIssues (seen : List String) (steps : List (PlanStep × ℕ)) :
    Elsewhere (stepIdIssues seen steps) := by
  induction steps generalizing seen with
  | nil => exact nofun
  | cons step steps ih =>
    obtain ⟨step, idx⟩ := step
    refine elsewhere_append (elsewhere_append ?_ ?_) (ih _)
    · exact elsewhere_issuesIf (elsewhere_cons _ _ _ _ _ _ (by decide)
        (elsewhere_one _ _ _ _ _ _ (by decide)))
    · exact elsewhere_issuesIf (elsewhere_cons _ _ _ _ _ _ (by decide)
        (elsewhere_one _ _ _ _ _ _ (by decide)))

theorem elsewhere_validateStepBase (idx : ℕ) (known : List String) :
    Elsewhere (validateStepBase v step idx known) := by
  refine elsewhere_append (elsewhere_append (elsewhere_append (elsewhere_append
    (elsewhere_append ?_ ?_) ?_) ?_) ?_) ?_
  · exact elsewhere_flatMap fun dep _ => elsewhere_issuesIf
      (elsewhere_cons _ _ _ _ _ _ (by decide) (elsewhere_one _ _ _ _ _ _ (by decide)))
  · unfold kindIssues
    split
    · exact elsewhere_one _ _ _ _ _ _ (by decide)
    · exact elsewhere_issuesIf (elsewhere_cons _ _ _ _ _ _ (by decide)
        (elsewhere_one _ _ _ _ _ _ (by decide)))
  · unfold availableCapabilityIssues
    split
    · exact nofun
    · exact elsewhere_flatMap fun cap _ =>
        elsewhere_issuesIf (elsewhere_one _ _ _ _ _ _ (by decide))
  · exact elsewhere_append (elsewhere_issuesIf (elsewhere_cons _ _ _ _ _ _ (by decide)
      (elsewhere_one _ _ _ _ _ _ (by decide))))
      (elsewhere_issuesIf (elsewhere_one _ _ _ _ _ _ (by decide)))
  · exact elsewhere_issuesIf (elsewhere_cons _ _ _ _ _ _ (by decide)
      (elsewhere_one _ _ _ _ _ _ (by decide)))
  · unfold timeoutIssues
    split
    · exact nofun
    · exact elsewhere_issuesIf (elsewhere_one _ _ _ _ _ _ (by decide))

theorem elsewhere_validateRequiredCapabilities (descriptor : CapabilityDescriptor)
    (index : SnapshotIndex) :
    Elsewhere (validateRequiredCapabilities v step loc descriptor index) := by
  unfold validateRequiredCapabilities
  dsimp only
  split
  · exact elsewhere_one _ _ _ _ _ _ (by decide)
  · refine elsewhere_append (elsewhere_flatMap fun capabilityId _ => ?_) ?_
    · unfold declaredCapabilityIssues
      dsimp only
      split
      · exact elsewhere_issuesIf (elsewhere_one _ _ _ _ _ _ (by decide))
      · exact elsewhere_one _ _ _ _ _ _ (by decide)
    · exact elsewhere_issuesIf (elsewhere_one _ _ _ _ _ _ (by decide))

theorem elsewhere_capabilityIssues {snapshot : CapabilitySnapshot} {idx : ℕ}
    {issues : List ValidationIssue}
    (found : capabilityIssues v (some snapshot) step idx = .ok issues) : Elsewhere issues := by
  change validateStepAgainstCapabilitySnapshot v step idx (buildSnapshotIndex snapshot) = .ok issues
    at found
  unfold validateStepAgainstCapabilitySnapshot at found
  dsimp only at found
  split at found
  · rename_i descriptor availability _ _
    split at found
    · cases found
      refine elsewhere_one _ _ _ _ _ _ ?_
      cases availability.status <;> decide
    · unfold validateEnabledStep at found
      cases checked : SthBoring.Capability.SchemaValidation.validatePayloadAgainstSchema
          v.recursionLimit (.dict step.inputs) descriptor.inputSchema with
      | error exc =>
        rw [checked] at found
        cases found
      | ok errors =>
        rw [checked] at found
        cases found
        refine elsewhere_append (elsewhere_flatMap fun error _ => ?_)
          (elsewhere_validateRequiredCapabilities _ _)
        exact elsewhere_cons _ _ _ _ _ _ (by decide) (elsewhere_one _ _ _ _ _ _ (by decide))
  · split at found <;> cases found <;> exact elsewhere_one _ _ _ _ _ _ (by decide)
  · cases found
    exact elsewhere_one _ _ _ _ _ _ (by decide)

/-- What the validator has to say about the digest of a plan. -/
def digestReports (v : PlanValidator) (plan : ExecutionPlan) (snapshot : CapabilitySnapshot) :
    List ValidationIssue :=
  if plan.steps.isEmpty then [] else validateCapabilityDigest v plan.planMetadata snapshot

theorem filter_elsewhere {issues : List ValidationIssue} (h : Elsewhere issues) :
    issues.filter isDigestIssue = [] :=
  List.filter_eq_nil_iff.mpr fun i hi => by simp [h i hi]

theorem filter_validateCapabilityDigest (fields : Fields) (snapshot : CapabilitySnapshot) :
    (validateCapabilityDigest v fields snapshot).filter isDigestIssue =
      validateCapabilityDigest v fields snapshot := by
  refine List.filter_eq_self.mpr fun i hi => ?_
  unfold validateCapabilityDigest at hi
  dsimp only at hi
  split at hi
  · rw [List.mem_singleton.mp hi]
    rfl
  · unfold issuesIf at hi
    split at hi
    · rw [List.mem_singleton.mp hi]
      rfl
    · cases hi

/-- These, and no others, are the issues about the digest in a result. -/
theorem filter_isDigestIssue {plan : ExecutionPlan} {snapshot : CapabilitySnapshot} {checkedAt : ℤ}
    {result : PlanValidationResult}
    (validated : validate v plan (some snapshot) checkedAt = .ok result) :
    result.issues.filter isDigestIssue = digestReports v plan snapshot := by
  unfold validate validateSteps at validated
  unfold digestReports
  split at validated
  · rename_i empty
    cases validated
    rw [if_pos empty]
    rfl
  · rename_i steps
    rw [if_neg steps]
    obtain ⟨issues, computed, returned⟩ := bind_eq_ok.mp validated
    cases returned
    obtain ⟨perStep, swept, rfl⟩ := planIssues_eq_ok_iff.mp computed
    have tooMany : Elsewhere (tooManyIssues v plan.steps) := by
      unfold tooManyIssues
      split
      · exact nofun
      · refine elsewhere_issuesIf fun i hi => ?_
        rw [List.mem_singleton.mp hi]
        rfl
    have perStepElsewhere : Elsewhere perStep := by
      intro i hi
      obtain ⟨step, -, own, hown, mem⟩ := mem_collect swept hi
      obtain ⟨found, checked, rfl⟩ := stepIssues_eq_ok_iff.mp hown
      exact elsewhere_append (elsewhere_validateStepBase _ _) (elsewhere_capabilityIssues checked)
        i mem
    show (List.filter isDigestIssue (_ ++ _ ++ _ ++ _)) = _
    rw [List.filter_append, List.filter_append, List.filter_append, filter_elsewhere tooMany,
      filter_elsewhere (elsewhere_stepIdIssues _ _), filter_elsewhere perStepElsewhere,
      List.append_nil]
    exact filter_validateCapabilityDigest plan.planMetadata snapshot

end Reports

section Digest

variable {v : PlanValidator} {fields : Fields} {snapshot : CapabilitySnapshot}

/-- A plan with the digest of the snapshot gives nothing to report, unless that digest is empty. -/
theorem validateCapabilityDigest_eq_nil_iff
    (own : fields.get "capability_digest" = some (.str snapshot.capabilityDigest)) :
    validateCapabilityDigest v fields snapshot = [] ↔ snapshot.capabilityDigest ≠ "" := by
  have digest : fields.getD "capability_digest" = .str snapshot.capabilityDigest := by
    rw [Fields.getD, own, Option.getD_some]
  unfold validateCapabilityDigest
  rw [digest]
  by_cases empty : snapshot.capabilityDigest = ""
  · simp [Value.truthy, empty]
  · simp [Value.truthy, Value.pyEq, issuesIf, empty]

end Digest

/-- **The finalizer's metadata.** A finalized plan says which snapshot it was made for and gives
the validator nothing to report about it, exactly when the caller's metadata says nothing else and
the digest is not empty (or there is no step, so that the digest is not looked at). What the
validator reports about the digest is just that. -/
theorem finalize_trusted_iff (draft : ExecutionPlanDraft) (snapshot : CapabilitySnapshot)
    (options : FinalizeOptions) (planId : String) (createdAt : ℤ) :
    let plan := finalize draft (some snapshot) options planId createdAt
    ((Trusted plan snapshot ∧ ∀ v, digestReports v plan snapshot = []) ↔
      Undisplaced options.metadata snapshot ∧
        (snapshot.capabilityDigest ≠ "" ∨ draft.steps = [])) ∧
    ∀ v checkedAt result, validate v plan (some snapshot) checkedAt = .ok result →
      result.issues.filter isDigestIssue = digestReports v plan snapshot := by
  intro plan
  refine ⟨?_, fun v checkedAt result validated => filter_isDigestIssue validated⟩
  have steps : plan.steps = draft.steps := rfl
  have reports : Trusted plan snapshot →
      ((∀ v, digestReports v plan snapshot = []) ↔
        snapshot.capabilityDigest ≠ "" ∨ draft.steps = []) := by
    intro trusted
    have digest := fun v : PlanValidator => validateCapabilityDigest_eq_nil_iff (v := v) trusted.digest
    unfold digestReports
    rw [steps]
    cases draft.steps with
    | nil => simp
    | cons step rest =>
      simp only [List.isEmpty_cons, Bool.false_eq_true, if_false, digest, reduceCtorEq, or_false]
      exact ⟨fun all => all {}, fun nonempty _ => nonempty⟩
  rw [← trusted_iff draft snapshot options planId createdAt]
  constructor
  · rintro ⟨trusted, quiet⟩
    exact ⟨trusted, (reports trusted).mp quiet⟩
  · rintro ⟨trusted, condition⟩
    exact ⟨trusted, (reports trusted).mpr condition⟩

section Example

def sampleDraft : ExecutionPlanDraft where
  taskId := "task_1"
  taskType := "sdk_deploy"
  goal := "validate finalized plan"
  plannerName := "llm_planner"
  plannerVersion := "v1"
  planSummary := "run command"
  steps := [{ stepId := "step_1", title := "Run", kind := "run_command", intent := "see it run" }]

def sampleSnapshot : CapabilitySnapshot where
  snapshotId := "capsnap_1"
  capabilities := []
  availability := []
  availableStepKinds := []
  unavailableStepKinds := []
  capabilityDigest := "sha256:1"

/-- Metadata of the caller with a digest of its own. -/
def otherDigest : FinalizeOptions where
  metadata := some ⟨[("capability_digest", .str "sha256:2")], by decide⟩

/-- The digest of the caller is the one in the plan, and the validator reports the difference. -/
theorem digest_displaced :
    ¬ Trusted (finalize sampleDraft (some sampleSnapshot) otherDigest "plan_1" 0) sampleSnapshot ∧
      (digestReports {} (finalize sampleDraft (some sampleSnapshot) otherDigest "plan_1" 0)
        sampleSnapshot).map (·.code) = ["CAPABILITY_DIGEST_MISMATCH"] := by
  refine ⟨fun trusted => ?_, by decide⟩
  have digest := trusted.digest
  have displaced : (finalize sampleDraft (some sampleSnapshot) otherDigest "plan_1" 0).planMetadata.get
      "capability_digest" = some (.str "sha256:2") := rfl
  rw [displaced] at digest
  exact absurd (Value.str.inj (Option.some.inj digest)) (by decide)

end Example

end SthBoring.Plan.PlanFinalizer
