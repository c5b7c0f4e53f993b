/- Module: SthBoring/Plan/ExactAdmission
   source: sdk_test_agent/capability/capability_panel.py, sdk_test_agent/plan/plan_validation.py,
     plan_finalizer.py
   digest: Which drafts are admitted, told from the registry and the request alone. -/

import SthBoring.Plan.AdmissionMonotone

set_option autoImplicit false
set_option relaxedAutoImplicit false

namespace SthBoring.Plan.ExactAdmission

open SthBoring.Lib.OrderedDict (PyDict)
open SthBoring.Lib.PyValue (Value Fields PyExc bind_eq_ok collect_all_iff)
open SthBoring.Capability.CapabilityModels
open SthBoring.Capability.Panel
open SthBoring.Capability.SchemaValidation (validatePayloadAgainstSchema)
open SthBoring.Plan.Models
open SthBoring.Plan.PlanValidation
open SthBoring.Plan.PassedPlans
open SthBoring.Plan.AdmissionSoundness
open SthBoring.Plan.AdmissionMonotone (Cleared enabled_iff available_of_enabled)
open SthBoring.Plan.PlanFinalizer

section Borne

/-- The validator lets a plan pass in spite of an issue of this severity. -/
def Bears (v : PlanValidator) (severity : ValidationSeverity) : Prop :=
  severity ≠ .error ∧ (v.failOnWarning = true → severity ≠ .warning)

def Borne (v : PlanValidator) (issues : List ValidationIssue) : Prop :=
  ∀ i ∈ issues, Bears v i.severity

variable {v : PlanValidator}

@[simp] theorem bears_error : ¬ Bears v .error := fun h => h.1 rfl

@[simp] theorem bears_warning : Bears v .warning ↔ v.failOnWarning = false := by
  simp [Bears]

@[simp] theorem borne_nil : Borne v [] := by
  intro i hi
  cases hi

@[simp] theorem borne_cons {i : ValidationIssue} {is : List ValidationIssue} :
    Borne v (i :: is) ↔ Bears v i.severity ∧ Borne v is := by
  simp [Borne]

@[simp] theorem borne_append {is js : List ValidationIssue} :
    Borne v (is ++ js) ↔ Borne v is ∧ Borne v js := by
  simp only [Borne, List.mem_append, or_imp, forall_and]

@[simp] theorem borne_flatMap {α : Type} {xs : List α} {f : α → List ValidationIssue} :
    Borne v (xs.flatMap f) ↔ ∀ x ∈ xs, Borne v (f x) := by
  simp only [Borne, List.mem_flatMap]
  exact ⟨fun h x hx i hi => h i ⟨x, hx, hi⟩, fun h i ⟨x, hx, hi⟩ => h x hx i hi⟩

@[simp] theorem borne_issuesIf {condition : Bool} {is : List ValidationIssue} :
    Borne v (issuesIf condition is) ↔ (condition = true → Borne v is) := by
  cases condition <;> simp [issuesIf]

@[simp] theorem issue_severity (code : String) (severity : ValidationSeverity) (message : String)
    (location : Option String) (step : Option PlanStep) (path : Option String) (metadata : Fields) :
    (issue code severity message location step path metadata).severity = severity := rfl

/-- A plan passes when it has steps and all of its issues are borne. -/
theorem passes_iff_borne {plan : ExecutionPlan} {snapshot : Option CapabilitySnapshot} :
    Passes v plan snapshot ↔ plan.steps ≠ [] ∧
      ∃ issues, planIssues v plan.steps plan.planMetadata snapshot = .ok issues ∧
        Borne v issues := by
  rw [passes_iff]
  constructor
  · rintro ⟨issues, passed⟩
    refine ⟨passed.nonempty, issues, passed.computed, fun i hi => ⟨passed.clean i hi, ?_⟩⟩
    exact fun strict => passed.noWarning strict i hi
  · rintro ⟨nonempty, issues, computed, borne⟩
    refine ⟨issues, nonempty, computed, fun i hi => (borne i hi).1, ?_⟩
    exact fun strict i hi => (borne i hi).2 strict

end Borne

section Steps

variable {v : PlanValidator}

theorem borne_stepIdIssues {seen : List String} {steps : List PlanStep} {n : ℕ} :
    Borne v (stepIdIssues seen (steps.zipIdx n)) ↔
      (steps.map PlanStep.stepId).Nodup ∧
        ∀ step ∈ steps, step.stepId ∉ seen ∧ step.stepId ≠ "" := by
  induction steps generalizing seen n with
  | nil => simp [stepIdIssues]
  | cons step steps ih =>
    rw [List.zipIdx_cons, stepIdIssues, borne_append, borne_append, ih, List.map_cons,
      List.nodup_cons, List.forall_mem_cons]
    have named : Borne v (emptyIdIssues step (locOf n)) ↔ step.stepId ≠ "" := by
      simp [emptyIdIssues]
    have fresh : Borne v (duplicateIdIssues seen step (locOf n)) ↔ step.stepId ∉ seen := by
      simp [duplicateIdIssues]
    rw [named, fresh]
    constructor
    · rintro ⟨⟨named, fresh⟩, distinct, others⟩
      refine ⟨⟨fun mem => ?_, distinct⟩, ⟨fresh, named⟩, fun other ho => ?_⟩
      · obtain ⟨other, ho, same⟩ := List.mem_map.mp mem
        exact (others other ho).1 (same ▸ List.mem_cons_self)
      · exact ⟨fun mem => (others other ho).1 (List.mem_cons_of_mem _ mem), (others other ho).2⟩
    · rintro ⟨⟨unique, distinct⟩, ⟨fresh, named⟩, others⟩
      refine ⟨⟨named, fresh⟩, distinct, fun other ho => ⟨fun mem => ?_, (others other ho).2⟩⟩
      rcases List.mem_cons.mp mem with same | mem
      · exact unique (same ▸ List.mem_map_of_mem ho)
      · exact (others other ho).1 mem

/-- The checks of a step on its own. -/
structure WellFormed (v : PlanValidator) (known : List String) (step : PlanStep) : Prop
    extends SoundStep v known step where
  kind_ne : step.kind ≠ ""
  reviewed : v.failOnWarning = true → step.riskLevel ≠ .high

theorem borne_validateStepBase {step : PlanStep} {idx : ℕ} {known : List String} :
    Borne v (validateStepBase v step idx known) ↔ WellFormed v known step := by
  have deps : Borne v (dependencyIssues step (locOf idx) known) ↔ step.dependsOn ⊆ known := by
    simp [dependencyIssues, List.subset_def]
  have kind : Borne v (kindIssues v step (locOf idx)) ↔
      step.kind ≠ "" ∧ step.kind ∈ v.supportedStepKinds := by
    unfold kindIssues
    by_cases empty : step.kind = "" <;> simp [empty]
  have caps : Borne v (availableCapabilityIssues v step (locOf idx)) ↔
      ∀ available, v.availableCapabilities = some available →
        step.requiredCapabilities ⊆ available := by
    unfold availableCapabilityIssues
    cases v.availableCapabilities with
    | none => simp
    | some available => simp [List.subset_def]
  have risk : Borne v (riskIssues step (locOf idx)) ↔
      step.riskLevel.valid = true ∧ (v.failOnWarning = true → step.riskLevel ≠ .high) := by
    unfold riskIssues
    by_cases high : step.riskLevel = .high <;> simp [high]
  have policy : Borne v (onFailureIssues step (locOf idx)) ↔ step.onFailure.valid = true := by
    simp [onFailureIssues]
  have timeout : Borne v (timeoutIssues step (locOf idx)) ↔
      ∀ seconds, step.timeoutSec = some seconds → 0 < seconds := by
    unfold timeoutIssues
    cases step.timeoutSec with
    | none => simp
    | some seconds => simp
  unfold validateStepBase
  simp only [borne_append, deps, kind, caps, risk, policy, timeout]
  constructor
  · rintro ⟨⟨⟨⟨⟨deps, named, kind⟩, caps⟩, risk, reviewed⟩, policy⟩, timeout⟩
    exact ⟨⟨deps, kind, caps, risk, policy, timeout⟩, named, reviewed⟩
  · rintro ⟨⟨deps, kind, caps, risk, policy, timeout⟩, named, reviewed⟩
    exact ⟨⟨⟨⟨⟨deps, named, kind⟩, caps⟩, risk, reviewed⟩, policy⟩, timeout⟩

end Steps

section Capability

variable {v : PlanValidator} {panel : CapabilityPanel} {request : BuildCapabilitySnapshotInput}
  {uuidHex : String} {step : PlanStep} {loc : String}

/-- The capability is deprecated, and no more is asked about it. -/
structure Withdrawn (d : CapabilityDescriptor) (r : BuildCapabilitySnapshotInput) : Prop where
  placeholder : d.isPlaceholder = true → r.allowPlaceholder = true
  deprecated : d.isDeprecated = true
  unwanted : r.allowDeprecated = false

theorem deprecated_iff {d : CapabilityDescriptor} :
    (resolveDescriptor d request).status = .deprecated ↔ Withdrawn d request := by
  change (verdict d request).status = .deprecated ↔ Withdrawn d request
  unfold verdict
  dsimp only
  split
  · rename_i blocked
    simp only [Bool.and_eq_true, Bool.not_eq_true'] at blocked
    refine iff_of_false (by simp) (fun withdrawn => ?_)
    exact absurd (withdrawn.placeholder blocked.1) (by simp [blocked.2])
  · rename_i placeholder
    split
    · rename_i deprecated
      simp only [Bool.and_eq_true, Bool.not_eq_true'] at deprecated
      exact iff_of_true rfl ⟨by simpa using placeholder, deprecated.1, deprecated.2⟩
    · rename_i kept
      refine iff_of_false ?_ (fun withdrawn => kept ?_)
      · split_ifs <;> simp
      · simp [withdrawn.deprecated, withdrawn.unwanted]

theorem descriptorByCapabilityId_iff (capabilityId : String) (d : CapabilityDescriptor) :
    (buildSnapshotIndex (buildSnapshot panel request uuidHex)).descriptorByCapabilityId.get
        capabilityId = some d ↔ d ∈ panel.registry.listAll ∧ d.capabilityId = capabilityId :=
  PyDict.get_comprehension _ panel.registry.nodup_ids capabilityId d

/-- A capability that a step declares is borne when the request clears it. -/
theorem borne_declaredCapabilityIssues (capabilityId : String) :
    Borne v (declaredCapabilityIssues step loc
      (buildSnapshotIndex (buildSnapshot panel request uuidHex)) capabilityId) ↔
      ∃ d ∈ panel.registry.listAll, d.capabilityId = capabilityId ∧ Cleared d request := by
  unfold declaredCapabilityIssues
  dsimp only
  cases found : (buildSnapshotIndex
      (buildSnapshot panel request uuidHex)).descriptorByCapabilityId.get capabilityId with
  | none =>
    refine iff_of_false (by simp) ?_
    rintro ⟨d, listed, hid, -⟩
    exact absurd (found.symm.trans ((descriptorByCapabilityId_iff capabilityId d).mpr ⟨listed, hid⟩))
      (by simp)
  | some d =>
    obtain ⟨listed, hid⟩ := (descriptorByCapabilityId_iff capabilityId d).mp found
    have own : (buildSnapshotIndex
        (buildSnapshot panel request uuidHex)).availabilityByCapabilityId.get capabilityId =
          some (resolveDescriptor d request) :=
      (availabilityByCapabilityId_iff panel request uuidHex _ _).mpr
        ⟨List.mem_map_of_mem listed, hid⟩
    have status : Borne v (declaredCapabilityIssues step loc
        (buildSnapshotIndex (buildSnapshot panel request uuidHex)) capabilityId) ↔
          Cleared d request := by
      rw [← enabled_iff]
      simp [declaredCapabilityIssues, found, own]
    simp only [declaredCapabilityIssues, found] at status
    rw [status]
    constructor
    · exact fun cleared => ⟨d, listed, hid, cleared⟩
    · rintro ⟨other, listed', hid', cleared⟩
      cases found.symm.trans ((descriptorByCapabilityId_iff capabilityId other).mpr ⟨listed', hid'⟩)
      exact cleared

theorem bears_strictness :
    Bears v (if v.strictRequiredCapabilities then .error else .warning) ↔
      ¬ (v.strictRequiredCapabilities = true ∨ v.failOnWarning = true) := by
  cases v.strictRequiredCapabilities <;> simp

theorem borne_validateRequiredCapabilities (descriptor : CapabilityDescriptor) :
    Borne v (validateRequiredCapabilities v step loc descriptor
      (buildSnapshotIndex (buildSnapshot panel request uuidHex))) ↔
      (∀ capabilityId ∈ step.requiredCapabilities,
        ∃ d ∈ panel.registry.listAll, d.capabilityId = capabilityId ∧ Cleared d request) ∧
      (v.strictRequiredCapabilities = true ∨ v.failOnWarning = true →
        descriptor.capabilityId ∈ step.requiredCapabilities) := by
  unfold validateRequiredCapabilities
  dsimp only
  cases declared : step.requiredCapabilities with
  | nil => simp [bears_strictness]
  | cons cap caps =>
    simp only [List.isEmpty_cons, Bool.false_eq_true, if_false, borne_append, borne_flatMap,
      borne_declaredCapabilityIssues, borne_issuesIf, borne_cons, borne_nil, and_true,
      stepIssue_severity, bears_strictness, Bool.not_eq_true', List.contains_eq_mem,
      decide_eq_false_iff_not]
    tauto

/-- What the registry and the request have for a step. -/
inductive Grounded (v : PlanValidator) (registry : CapabilityRegistry)
    (request : BuildCapabilitySnapshotInput) (step : PlanStep) : Prop where
  | cleared (d : CapabilityDescriptor) (listed : d ∈ registry.listAll)
      (kind : d.stepKind = step.kind) (cleared : Cleared d request)
      (inputs : InputsValid v step d)
      (declared : ∀ capabilityId ∈ step.requiredCapabilities,
        ∃ other ∈ registry.listAll, other.capabilityId = capabilityId ∧ Cleared other request)
      (own : v.strictRequiredCapabilities = true ∨ v.failOnWarning = true →
        d.capabilityId ∈ step.requiredCapabilities)
  | tolerated (d : CapabilityDescriptor) (listed : d ∈ registry.listAll)
      (kind : d.stepKind = step.kind) (withdrawn : Withdrawn d request)
      (allowed : v.allowDeprecatedCapability = true) (lenient : v.failOnWarning = false)

theorem validateEnabledStep_borne_iff {descriptor : CapabilityDescriptor} :
    (∃ issues, validateEnabledStep v step loc descriptor
        (buildSnapshotIndex (buildSnapshot panel request uuidHex)) = .ok issues ∧ Borne v issues) ↔
      InputsValid v step descriptor ∧ Borne v (validateRequiredCapabilities v step loc descriptor
        (buildSnapshotIndex (buildSnapshot panel request uuidHex))) := by
  unfold validateEnabledStep InputsValid
  cases validatePayloadAgainstSchema v.recursionLimit (.dict step.inputs)
      descriptor.inputSchema with
  | error exc => simp [bind, Except.bind]
  | ok errors => cases errors <;> simp [bind, Except.bind, pure, Except.pure, schemaIssues]

/-- Where the capability of the step is not enabled, only a deprecated one is let through. -/
theorem borne_issueForUnavailableCapability {d : CapabilityDescriptor} :
    Borne v [issueForUnavailableCapability v step loc (resolveDescriptor d request)] ↔
      Withdrawn d request ∧ v.allowDeprecatedCapability = true ∧ v.failOnWarning = false := by
  rw [← deprecated_iff]
  simp only [issueForUnavailableCapability, borne_cons, borne_nil, and_true, stepIssue_severity]
  by_cases deprecated : (resolveDescriptor d request).status = .deprecated <;>
    cases v.allowDeprecatedCapability <;> simp [deprecated]

theorem capability_borne_iff {idx : ℕ} :
    (∃ issues, validateStepAgainstCapabilitySnapshot v step idx
        (buildSnapshotIndex (buildSnapshot panel request uuidHex)) = .ok issues ∧ Borne v issues) ↔
      Grounded v panel.registry request step := by
  unfold validateStepAgainstCapabilitySnapshot
  dsimp only
  have unlisted : ∀ d, d ∈ panel.registry.listAll → d.stepKind = step.kind →
      (buildSnapshotIndex (buildSnapshot panel request uuidHex)).descriptorByStepKind.get step.kind =
        some d :=
    fun d listed kind => (descriptorByStepKind_iff panel request uuidHex _ _).mpr ⟨listed, kind⟩
  cases found : (buildSnapshotIndex
      (buildSnapshot panel request uuidHex)).descriptorByStepKind.get step.kind with
  | none =>
    refine iff_of_false ?_ ?_
    · dsimp only
      split <;> simp [descriptorMissing]
    · rintro (⟨d, listed, kind⟩ | ⟨d, listed, kind⟩) <;>
        exact absurd (found.symm.trans (unlisted d listed kind)) (by simp)
  | some d =>
    obtain ⟨listed, kind⟩ := (descriptorByStepKind_iff panel request uuidHex _ _).mp found
    have only : ∀ other, other ∈ panel.registry.listAll → other.stepKind = step.kind → other = d :=
      fun other listed' kind' =>
        Option.some.inj ((unlisted other listed' kind').symm.trans found)
    rw [availabilityByStepKind_of_descriptor panel request uuidHex listed kind]
    dsimp only
    by_cases enabled : (resolveDescriptor d request).status = .enabled
    · have available : step.kind ∈
          (buildSnapshotIndex (buildSnapshot panel request uuidHex)).enabledStepKinds :=
        kind ▸ available_of_enabled uuidHex listed enabled
      have usable : ¬ ((!(buildSnapshotIndex
          (buildSnapshot panel request uuidHex)).enabledStepKinds.contains step.kind ||
            decide ((resolveDescriptor d request).status ≠ .enabled)) = true) := by
        simpa [enabled] using available
      rw [if_neg usable, validateEnabledStep_borne_iff, borne_validateRequiredCapabilities]
      constructor
      · rintro ⟨inputs, declared, own⟩
        exact .cleared d listed kind (enabled_iff.mp enabled) inputs declared own
      · rintro (⟨other, listed', kind', -, inputs, declared, own⟩ | ⟨other, listed', kind', withdrawn⟩)
        · cases only other listed' kind'
          exact ⟨inputs, declared, own⟩
        · cases only other listed' kind'
          have deprecated := deprecated_iff.mpr withdrawn
          rw [enabled] at deprecated
          cases deprecated
    · have unusable : (!(buildSnapshotIndex
          (buildSnapshot panel request uuidHex)).enabledStepKinds.contains step.kind ||
            decide ((resolveDescriptor d request).status ≠ .enabled)) = true := by
        simp [enabled]
      rw [if_pos unusable]
      simp only [Except.ok.injEq, exists_eq_left']
      rw [borne_issueForUnavailableCapability]
      constructor
      · rintro ⟨withdrawn, allowed, lenient⟩
        exact .tolerated d listed kind withdrawn allowed lenient
      · rintro (⟨other, listed', kind', cleared⟩ | ⟨other, listed', kind', withdrawn, allowed, lenient⟩)
        · cases only other listed' kind'
          exact absurd (enabled_iff.mpr cleared) enabled
        · cases only other listed' kind'
          exact ⟨withdrawn, allowed, lenient⟩

end Capability

section Plans

variable {v : PlanValidator} {panel : CapabilityPanel} {request : BuildCapabilitySnapshotInput}
  {uuidHex : String}

/-- What the steps of a plan have to be like. -/
structure Admissible (v : PlanValidator) (registry : CapabilityRegistry)
    (request : BuildCapabilitySnapshotInput) (steps : List PlanStep) : Prop where
  nonempty : steps ≠ []
  size : ∀ limit, v.maxStepCount = some limit → steps.length ≤ limit
  named : ∀ step ∈ steps, step.stepId ≠ ""
  distinct : (steps.map PlanStep.stepId).Nodup
  wellFormed : ∀ step ∈ steps, WellFormed v (steps.map PlanStep.stepId) step
  grounded : ∀ step ∈ steps, Grounded v registry request step

/-- What the validator makes of a digest in the metadata of a plan. -/
structure DigestFits (v : PlanValidator) (digest : Value) (own : String) : Prop where
  same : digest.truthy = true → digest.pyEq (.str own) = true
  missing : digest.truthy = false →
    v.requireCapabilityDigest = false ∧ v.failOnWarning = false

theorem borne_validateCapabilityDigest {fields : Fields} {snapshot : CapabilitySnapshot} :
    Borne v (validateCapabilityDigest v fields snapshot) ↔
      DigestFits v (fields.getD "capability_digest") snapshot.capabilityDigest := by
  unfold validateCapabilityDigest
  dsimp only
  cases shown : (fields.getD "capability_digest").truthy with
  | false =>
    have severity : Bears v (if v.requireCapabilityDigest then .error else .warning) ↔
        v.requireCapabilityDigest = false ∧ v.failOnWarning = false := by
      cases v.requireCapabilityDigest <;> simp
    simp only [Bool.not_false, if_true, borne_cons, borne_nil, and_true, issue_severity, severity]
    exact ⟨fun h => ⟨fun other => by simp [shown] at other, fun _ => h⟩, fun h => h.missing shown⟩
  | true =>
    simp only [Bool.not_true, Bool.false_eq_true, if_false, borne_issuesIf, borne_cons, borne_nil,
      and_true, issue_severity, bears_error, imp_false, Bool.not_eq_true', Bool.not_eq_false]
    exact ⟨fun h => ⟨fun _ => h, fun other => by simp [shown] at other⟩, fun h => h.same shown⟩

theorem stepIssues_borne_iff {known : List String} {step : PlanStep} {idx : ℕ} :
    (∃ issues, stepIssues v (some (buildSnapshot panel request uuidHex)) known (step, idx) =
        .ok issues ∧ Borne v issues) ↔
      WellFormed v known step ∧ Grounded v panel.registry request step := by
  simp only [stepIssues_eq_ok_iff]
  have base : Borne v (validateStepBase v step idx known) ↔ WellFormed v known step :=
    borne_validateStepBase
  have own : (∃ issues, validateStepAgainstCapabilitySnapshot v step idx
      (buildSnapshotIndex (buildSnapshot panel request uuidHex)) = .ok issues ∧ Borne v issues) ↔
        Grounded v panel.registry request step := capability_borne_iff
  rw [← base, ← own]
  constructor
  · rintro ⟨_, ⟨found, checked, rfl⟩, borne⟩
    obtain ⟨base, own⟩ := borne_append.mp borne
    exact ⟨base, found, checked, own⟩
  · rintro ⟨base, found, checked, own⟩
    exact ⟨_, ⟨found, checked, rfl⟩, borne_append.mpr ⟨base, own⟩⟩

theorem perStep_borne_iff {steps : List PlanStep} :
    (∃ issues, SthBoring.Lib.PyValue.collect
        (stepIssues v (some (buildSnapshot panel request uuidHex)) (steps.map PlanStep.stepId))
        steps.zipIdx = .ok issues ∧ Borne v issues) ↔
      ∀ step ∈ steps, WellFormed v (steps.map PlanStep.stepId) step ∧
        Grounded v panel.registry request step := by
  refine collect_all_iff.trans ?_
  have each : ∀ x : PlanStep × ℕ, (∃ issues, stepIssues v (some (buildSnapshot panel request uuidHex))
      (steps.map PlanStep.stepId) x = .ok issues ∧ ∀ i ∈ issues, Bears v i.severity) ↔
        WellFormed v (steps.map PlanStep.stepId) x.1 ∧ Grounded v panel.registry request x.1 :=
    fun x => stepIssues_borne_iff
  simp only [each]
  constructor
  · intro all step hs
    rw [← List.zipIdx_map_fst 0 steps] at hs
    obtain ⟨x, hx, rfl⟩ := List.mem_map.mp hs
    exact all x hx
  · exact fun all x hx => all x.1 (List.fst_mem_of_mem_zipIdx hx)

/-- The steps of a plan and the digest it carries decide whether it passes. -/
theorem passes_iff_admissible {plan : ExecutionPlan} :
    Passes v plan (some (buildSnapshot panel request uuidHex)) ↔
      Admissible v panel.registry request plan.steps ∧
        DigestFits v (plan.planMetadata.getD "capability_digest")
          (buildSnapshot panel request uuidHex).capabilityDigest := by
  have size : Borne v (tooManyIssues v plan.steps) ↔
      ∀ limit, v.maxStepCount = some limit → plan.steps.length ≤ limit := by
    unfold tooManyIssues
    cases v.maxStepCount with
    | none => simp
    | some limit => simp
  have ids : Borne v (stepIdIssues [] plan.steps.zipIdx) ↔
      (plan.steps.map PlanStep.stepId).Nodup ∧ ∀ step ∈ plan.steps, step.stepId ≠ "" := by
    refine borne_stepIdIssues.trans ?_
    simp
  have digest : Borne v (digestIssues v plan.planMetadata
      (some (buildSnapshot panel request uuidHex))) ↔ _ := borne_validateCapabilityDigest
  rw [passes_iff_borne]
  simp only [planIssues_eq_ok_iff]
  constructor
  · rintro ⟨nonempty, _, ⟨perStep, swept, rfl⟩, borne⟩
    simp only [borne_append, size, ids, digest] at borne
    obtain ⟨⟨⟨size, distinct, named⟩, fits⟩, own⟩ := borne
    have steps := perStep_borne_iff.mp ⟨perStep, swept, own⟩
    exact ⟨⟨nonempty, size, named, distinct, fun s hs => (steps s hs).1, fun s hs => (steps s hs).2⟩,
      fits⟩
  · rintro ⟨⟨nonempty, limit, named, distinct, wellFormed, grounded⟩, fits⟩
    obtain ⟨perStep, swept, own⟩ :=
      perStep_borne_iff.mpr (fun s hs => ⟨wellFormed s hs, grounded s hs⟩)
    refine ⟨nonempty, _, ⟨perStep, swept, rfl⟩, ?_⟩
    simp only [borne_append, size, ids, digest]
    exact ⟨⟨⟨limit, distinct, named⟩, fits⟩, own⟩

/-- **Exact admission.** A draft that is finalized with a panel's snapshot passes the validator with
this snapshot exactly when its steps are admissible by the registry and the request, and the
caller's metadata does not displace the digest by one that the validator minds. -/
theorem finalized_admitted_iff (v : PlanValidator) (panel : CapabilityPanel)
    (request : BuildCapabilitySnapshotInput) (uuidHex : String) (draft : ExecutionPlanDraft)
    (options : FinalizeOptions) (planId : String) (createdAt : ℤ) :
    let snapshot := buildSnapshot panel request uuidHex
    Passes v (finalize draft (some snapshot) options planId createdAt) (some snapshot) ↔
      Admissible v panel.registry request draft.steps ∧
        ∀ m ∈ options.metadata, ∀ digest, m.get "capability_digest" = some digest →
          DigestFits v digest snapshot.capabilityDigest := by
  intro snapshot
  refine passes_iff_admissible.trans (and_congr_right fun _ => ?_)
  have shown : (finalize draft (some snapshot) options planId createdAt).planMetadata.getD
      "capability_digest" = ((options.metadata.bind fun m => m.get "capability_digest").or
        (some (.str snapshot.capabilityDigest))).getD .null :=
    congrArg (Option.getD · Value.null) (get_capabilityDigest draft snapshot options)
  rw [shown]
  have own : DigestFits v (.str snapshot.capabilityDigest) snapshot.capabilityDigest := by
    have written : snapshot.capabilityDigest ≠ "" := by
      intro empty
      have text := congrArg String.toList empty
      simp [snapshot, buildSnapshot, sha256Digest] at text
    refine ⟨fun _ => by simp [Value.pyEq], fun missing => ?_⟩
    simp [Value.truthy, written] at missing
  cases options.metadata with
  | none => simpa using own
  | some m =>
    cases found : m.get "capability_digest" with
    | none => simpa [found] using own
    | some digest => simp [found, snapshot]

end Plans

end SthBoring.Plan.ExactAdmission
