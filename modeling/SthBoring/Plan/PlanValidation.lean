/- Module: SthBoring/Plan/PlanValidation
   source: sdk_test_agent/plan/plan_validation.py
   digest: The plan validator, with and without a capability snapshot. -/

import SthBoring.Capability.Panel
import SthBoring.Capability.SchemaValidation
import SthBoring.Plan.Models

set_option autoImplicit false
set_option relaxedAutoImplicit false

namespace SthBoring.Plan.PlanValidation

open SthBoring.Lib.OrderedDict (PyDict)
open SthBoring.Lib.PyValue (Value Fields PyExc textOr collect)
open SthBoring.Capability.CapabilityModels
open SthBoring.Capability.Panel (texts)
open SthBoring.Capability.SchemaValidation (SchemaError validatePayloadAgainstSchema)
open SthBoring.Plan.Models

structure ValidationIssue where
  code : String
  severity : ValidationSeverity
  message : String
  location : Option String := none
  metadata : Fields := []
  stepId : Option String := none
  stepKind : Option String := none
  path : Option String := none

structure PlanValidationResult where
  status : ValidationStatus
  issues : List ValidationIssue
  checkedAt : Option ℤ
  metadata : Fields

namespace PlanValidationResult

def passed (r : PlanValidationResult) : Prop := r.status = .passed

def errors (r : PlanValidationResult) : List ValidationIssue :=
  r.issues.filter (fun i => i.severity = .error)

def warnings (r : PlanValidationResult) : List ValidationIssue :=
  r.issues.filter (fun i => i.severity = .warning)

end PlanValidationResult

/-- The validator with its flags. `recursionLimit` is the interpreter's, for the schema check. -/
structure PlanValidator where
  stepKinds : Option (List String) := none
  availableCapabilities : Option (List String) := none
  maxStepCount : Option ℤ := none
  capabilityRegistry : Option CapabilityRegistry := none
  strictRequiredCapabilities : Bool := false
  requireCapabilityDigest : Bool := false
  failOnWarning : Bool := false
  allowDeprecatedCapability : Bool := false
  recursionLimit : ℕ := 1000

/-- `supported_step_kinds or set(SUPPORTED_PLAN_STEP_KINDS)`. -/
def PlanValidator.supportedStepKinds (v : PlanValidator) : List String :=
  match v.stepKinds with
  | some (kind :: kinds) => kind :: kinds
  | _ => supportedPlanStepKinds

/-- `path or location`. -/
def pathOr (path location : Option String) : Option String :=
  match path with
  | some "" | none => location
  | some p => some p

def issue (code : String) (severity : ValidationSeverity) (message : String)
    (location : Option String) (step : Option PlanStep) (path : Option String)
    (metadata : Fields) : ValidationIssue where
  code := code
  severity := severity
  message := message
  location := location
  metadata := metadata
  stepId := step.map PlanStep.stepId
  stepKind := step.map PlanStep.kind
  path := pathOr path location

/-- An issue about a step, at the step's place. -/
def stepIssue (code : String) (severity : ValidationSeverity) (message loc : String)
    (step : PlanStep) (path : Option String) (metadata : Fields) : ValidationIssue :=
  issue code severity message (some loc) (some step) path metadata

def locOf (idx : ℕ) : String := s!"steps[{idx}]"

def issuesIf (condition : Bool) (issues : List ValidationIssue) : List ValidationIssue :=
  if condition then issues else []

section StepIds

def emptyIdIssues (step : PlanStep) (loc : String) : List ValidationIssue :=
  issuesIf (step.stepId = "")
    [stepIssue "PLAN_STEP_ID_EMPTY" .error "step_id is required" loc step none [],
      stepIssue "step.id.empty" .error "step_id is required" loc step none []]

def duplicateIdIssues (seen : List String) (step : PlanStep) (loc : String) :
    List ValidationIssue :=
  let message := s!"duplicate step_id {step.stepId}"
  issuesIf (seen.contains step.stepId)
    [stepIssue "PLAN_DUPLICATE_STEP_ID" .error message loc step none [],
      stepIssue "step.id.duplicate" .error message loc step none []]

/-- The first pass over the steps, with the ids seen so far. -/
def stepIdIssues : List String → List (PlanStep × ℕ) → List ValidationIssue
  | _, [] => []
  | seen, (step, idx) :: rest =>
    emptyIdIssues step (locOf idx) ++ duplicateIdIssues seen step (locOf idx) ++
      stepIdIssues (step.stepId :: seen) rest

end StepIds

section StepBase

def dependencyIssues (step : PlanStep) (loc : String) (known : List String) :
    List ValidationIssue :=
  step.dependsOn.flatMap (fun dep =>
    issuesIf (!known.contains dep)
      [stepIssue "PLAN_UNKNOWN_DEPENDENCY" .error s!"unknown dependency {dep}" loc step
          (some s!"{loc}.depends_on") [],
        stepIssue "step.depends_on.missing" .error s!"unknown dependency {dep}" loc step none []])

def kindIssues (v : PlanValidator) (step : PlanStep) (loc : String) : List ValidationIssue :=
  if step.kind = "" then
    [stepIssue "PLAN_STEP_KIND_EMPTY" .error "step.kind is required" loc step
      (some s!"{loc}.kind") []]
  else
    issuesIf (!v.supportedStepKinds.contains step.kind)
      [stepIssue "PLAN_UNSUPPORTED_STEP_KIND" .error s!"unsupported step kind {step.kind}" loc step
          (some s!"{loc}.kind") [],
        stepIssue "step.kind.unsupported" .error s!"unsupported step kind {step.kind}" loc step
          none []]

def availableCapabilityIssues (v : PlanValidator) (step : PlanStep) (loc : String) :
    List ValidationIssue :=
  match v.availableCapabilities with
  | none => []
  | some available =>
    step.requiredCapabilities.flatMap (fun cap =>
      issuesIf (!available.contains cap)
        [stepIssue "step.capability.missing" .error s!"missing capability {cap}" loc step none []])

def riskIssues (step : PlanStep) (loc : String) : List ValidationIssue :=
  let message := s!"invalid risk_level {step.riskLevel.text}"
  issuesIf (!step.riskLevel.valid)
      [stepIssue "PLAN_INVALID_RISK_LEVEL" .error message loc step (some s!"{loc}.risk_level") [],
        stepIssue "step.risk.invalid" .error message loc step none []] ++
    issuesIf (step.riskLevel = .high)
      [stepIssue "step.risk.high" .warning "high risk step requires review" loc step none []]

def onFailureIssues (step : PlanStep) (loc : String) : List ValidationIssue :=
  let message := s!"invalid on_failure {step.onFailure.text}"
  issuesIf (!step.onFailure.valid)
    [stepIssue "PLAN_INVALID_ON_FAILURE" .error message loc step (some s!"{loc}.on_failure") [],
      stepIssue "step.on_failure.invalid" .error message loc step none []]

def timeoutIssues (step : PlanStep) (loc : String) : List ValidationIssue :=
  match step.timeoutSec with
  | none => []
  | some timeout =>
    issuesIf (timeout ≤ 0)
      [stepIssue "PLAN_INVALID_TIMEOUT" .error "timeout_sec must be positive" loc step
        (some s!"{loc}.timeout_sec") []]

def validateStepBase (v : PlanValidator) (step : PlanStep) (idx : ℕ) (known : List String) :
    List ValidationIssue :=
  let loc := locOf idx
  dependencyIssues step loc known ++ kindIssues v step loc ++
    availableCapabilityIssues v step loc ++ riskIssues step loc ++ onFailureIssues step loc ++
    timeoutIssues step loc

end StepBase

section Snapshot

def validateCapabilityDigest (v : PlanValidator) (planMetadata : Fields)
    (snapshot : CapabilitySnapshot) : List ValidationIssue :=
  let digest := planMetadata.getD "capability_digest"
  let own := Value.str snapshot.capabilityDigest
  let path := some "plan_metadata.capability_digest"
  if !digest.truthy then
    [issue "CAPABILITY_DIGEST_MISSING"
      (if v.requireCapabilityDigest then .error else .warning)
      "plan_metadata.capability_digest is missing" none none path [("snapshot_digest", own)]]
  else
    issuesIf (!digest.pyEq own)
      [issue "CAPABILITY_DIGEST_MISMATCH" .error
        "plan capability_digest does not match capability snapshot" none none path
        [("plan_digest", digest), ("snapshot_digest", own)]]

/-- `_build_snapshot_index`. -/
structure SnapshotIndex where
  descriptorByStepKind : PyDict String CapabilityDescriptor
  availabilityByStepKind : PyDict String CapabilityAvailability
  descriptorByCapabilityId : PyDict String CapabilityDescriptor
  availabilityByCapabilityId : PyDict String CapabilityAvailability
  enabledStepKinds : List String

def buildSnapshotIndex (snapshot : CapabilitySnapshot) : SnapshotIndex where
  descriptorByStepKind := .comprehension CapabilityDescriptor.stepKind snapshot.capabilities
  availabilityByStepKind := .comprehension CapabilityAvailability.stepKind snapshot.availability
  descriptorByCapabilityId :=
    .comprehension CapabilityDescriptor.capabilityId snapshot.capabilities
  availabilityByCapabilityId :=
    .comprehension CapabilityAvailability.capabilityId snapshot.availability
  enabledStepKinds := snapshot.availableStepKinds

/-- `_schema_error_path`: a path that starts with `$` has it replaced, and ends at a colon. -/
def schemaErrorPath (loc error : String) : String :=
  match error.toList with
  | '$' :: rest => s!"{loc}.inputs" ++ String.ofList (rest.takeWhile (fun c => c ≠ ':'))
  | _ => s!"{loc}.inputs"

def schemaIssues (step : PlanStep) (loc : String) (metadata : Fields) (error : SchemaError) :
    List ValidationIssue :=
  [stepIssue "STEP_INPUT_SCHEMA_INVALID" .error error.text loc step
      (some (schemaErrorPath loc error.text)) metadata,
    stepIssue "step.inputs.schema_invalid" .error error.text loc step none []]

/-- The issue about one declared capability, if there is one. -/
def declaredCapabilityIssues (step : PlanStep) (loc : String) (index : SnapshotIndex)
    (capabilityId : String) : List ValidationIssue :=
  let path := some s!"{loc}.required_capabilities"
  match index.descriptorByCapabilityId.get capabilityId,
    index.availabilityByCapabilityId.get capabilityId with
  | some _, some declared =>
    issuesIf (declared.status ≠ .enabled)
      [stepIssue "CAPABILITY_REQUIRED_UNAVAILABLE" .error
        s!"required capability {capabilityId} is {declared.status.text}" loc step path
        [("capability_id", .str capabilityId), ("status", .str declared.status.text)]]
  | _, _ =>
    [stepIssue "CAPABILITY_REQUIRED_UNKNOWN" .error
      s!"required capability {capabilityId} is not present in capability snapshot" loc step path
      [("capability_id", .str capabilityId)]]

def validateRequiredCapabilities (v : PlanValidator) (step : PlanStep) (loc : String)
    (descriptor : CapabilityDescriptor) (index : SnapshotIndex) : List ValidationIssue :=
  let severity : ValidationSeverity := if v.strictRequiredCapabilities then .error else .warning
  let path := some s!"{loc}.required_capabilities"
  if step.requiredCapabilities.isEmpty then
    [stepIssue "CAPABILITY_REQUIRED_MISSING" severity
      s!"step {step.stepId} does not declare required_capabilities" loc step path
      [("expected_capability_id", .str descriptor.capabilityId)]]
  else
    step.requiredCapabilities.flatMap (declaredCapabilityIssues step loc index) ++
      issuesIf (!step.requiredCapabilities.contains descriptor.capabilityId)
        [stepIssue "CAPABILITY_REQUIRED_MISMATCH" severity
          s!"required_capabilities does not include capability for step kind {step.kind}" loc step
          path
          [("expected_capability_id", .str descriptor.capabilityId),
            ("declared_capability_ids", texts step.requiredCapabilities)]]

def unavailableCode : CapabilityStatus → String
  | .placeholder => "CAPABILITY_PLACEHOLDER_USED"
  | .disabled => "CAPABILITY_DISABLED_USED"
  | .deprecated => "CAPABILITY_DEPRECATED_USED"
  | .unavailable | .enabled => "CAPABILITY_STEP_KIND_UNAVAILABLE"

def issueForUnavailableCapability (v : PlanValidator) (step : PlanStep) (loc : String)
    (availability : CapabilityAvailability) : ValidationIssue :=
  let status := availability.status
  let reason := textOr availability.reason "not enabled"
  stepIssue (unavailableCode status)
    (if status = .deprecated && v.allowDeprecatedCapability then .warning else .error)
    s!"capability for step kind {step.kind} is {status.text}: {reason}" loc step
    (some s!"{loc}.kind")
    [("capability_id", .str availability.capabilityId), ("status", .str status.text),
      ("missing_context_keys", texts availability.missingContextKeys)]

def descriptorMissing (step : PlanStep) (loc message : String) : ValidationIssue :=
  stepIssue "CAPABILITY_DESCRIPTOR_MISSING" .error message loc step none []

/-- The schema check and the capability check of a step whose kind is enabled. -/
def validateEnabledStep (v : PlanValidator) (step : PlanStep) (loc : String)
    (descriptor : CapabilityDescriptor) (index : SnapshotIndex) :
    Except PyExc (List ValidationIssue) := do
  let errors ←
    validatePayloadAgainstSchema v.recursionLimit (.dict step.inputs) descriptor.inputSchema
  return errors.flatMap
      (schemaIssues step loc [("capability_id", .str descriptor.capabilityId)]) ++
    validateRequiredCapabilities v step loc descriptor index

def validateStepAgainstCapabilitySnapshot (v : PlanValidator) (step : PlanStep) (idx : ℕ)
    (index : SnapshotIndex) : Except PyExc (List ValidationIssue) :=
  let loc := locOf idx
  let enabled := index.enabledStepKinds.contains step.kind
  match index.descriptorByStepKind.get step.kind, index.availabilityByStepKind.get step.kind with
  | some descriptor, some availability =>
    if !enabled || availability.status ≠ .enabled then
      .ok [issueForUnavailableCapability v step loc availability]
    else validateEnabledStep v step loc descriptor index
  | none, _ =>
    if enabled then
      .ok [descriptorMissing step loc
        s!"enabled step kind {step.kind} has no capability descriptor"]
    else
      .ok [descriptorMissing step loc
        s!"step kind {step.kind} is not present in capability snapshot"]
  | some _, none =>
    .ok [descriptorMissing step loc
      s!"step kind {step.kind} is not present in capability snapshot"]

end Snapshot

def validateStepAgainstRegistry (v : PlanValidator) (registry : CapabilityRegistry)
    (step : PlanStep) (idx : ℕ) : Except PyExc (List ValidationIssue) :=
  let loc := locOf idx
  match registry.maybeGetByStepKind step.kind with
  | none =>
    .ok [stepIssue "step.capability.unknown" .error
      s!"step kind {step.kind} is not registered as a capability" loc step none []]
  | some descriptor => do
    let errors ←
      validatePayloadAgainstSchema v.recursionLimit (.dict step.inputs) descriptor.inputSchema
    return errors.flatMap (schemaIssues step loc [])

/-- The capability checks of one step: the snapshot goes before the validator's registry. -/
def capabilityIssues (v : PlanValidator) (snapshot : Option CapabilitySnapshot) (step : PlanStep)
    (idx : ℕ) : Except PyExc (List ValidationIssue) :=
  match snapshot, v.capabilityRegistry with
  | some s, _ => validateStepAgainstCapabilitySnapshot v step idx (buildSnapshotIndex s)
  | none, some registry => validateStepAgainstRegistry v registry step idx
  | none, none => .ok []

/-- The second pass over the steps. -/
def stepIssues (v : PlanValidator) (snapshot : Option CapabilitySnapshot) (known : List String)
    (step : PlanStep × ℕ) : Except PyExc (List ValidationIssue) := do
  let issues ← capabilityIssues v snapshot step.1 step.2
  return validateStepBase v step.1 step.2 known ++ issues

def hasSeverity (severity : ValidationSeverity) (issues : List ValidationIssue) : Bool :=
  issues.any (fun i => i.severity = severity)

/-- `_result`. -/
def resultOf (v : PlanValidator) (issues : List ValidationIssue)
    (snapshot : Option CapabilitySnapshot) (checkedAt : ℤ) : PlanValidationResult :=
  let failed := hasSeverity .error issues || (v.failOnWarning && hasSeverity .warning issues)
  { status := if failed then .failed else .passed
    issues := issues
    checkedAt := some checkedAt
    metadata := match snapshot with
      | none => []
      | some s => [("capability_snapshot_id", .str s.snapshotId),
          ("capability_digest", .str s.capabilityDigest)] }

def tooManyIssues (v : PlanValidator) (steps : List PlanStep) : List ValidationIssue :=
  match v.maxStepCount with
  | none => []
  | some limit =>
    issuesIf (limit < steps.length)
      [issue "PLAN_TOO_MANY_STEPS" .error s!"plan has {steps.length} steps, max is {limit}" none
        none (some "steps") []]

def emptyPlanIssues : List ValidationIssue :=
  [issue "PLAN_EMPTY_STEPS" .error "plan must contain at least one step" none none none [],
    issue "plan.steps.empty" .error "plan must contain at least one step" none none none []]

def digestIssues (v : PlanValidator) (planMetadata : Fields)
    (snapshot : Option CapabilitySnapshot) : List ValidationIssue :=
  match snapshot with
  | none => []
  | some s => validateCapabilityDigest v planMetadata s

/-- All issues of a plan that has steps. The schema check may raise. -/
def planIssues (v : PlanValidator) (steps : List PlanStep) (planMetadata : Fields)
    (snapshot : Option CapabilitySnapshot) : Except PyExc (List ValidationIssue) := do
  let perStep ← collect (stepIssues v snapshot (steps.map PlanStep.stepId)) steps.zipIdx
  return tooManyIssues v steps ++ stepIdIssues [] steps.zipIdx ++
    digestIssues v planMetadata snapshot ++ perStep

/-- `validate` on the steps and the metadata of a plan; a draft has no metadata. -/
def validateSteps (v : PlanValidator) (steps : List PlanStep) (planMetadata : Fields)
    (snapshot : Option CapabilitySnapshot) (checkedAt : ℤ) :
    Except PyExc PlanValidationResult :=
  if steps.isEmpty then .ok (resultOf v emptyPlanIssues snapshot checkedAt)
  else do
    let issues ← planIssues v steps planMetadata snapshot
    return resultOf v issues snapshot checkedAt

/-- `PlanValidator.validate`. -/
def validate (v : PlanValidator) (plan : ExecutionPlan) (snapshot : Option CapabilitySnapshot)
    (checkedAt : ℤ) : Except PyExc PlanValidationResult :=
  validateSteps v plan.steps plan.planMetadata snapshot checkedAt

def validateDraft (v : PlanValidator) (draft : ExecutionPlanDraft)
    (snapshot : Option CapabilitySnapshot) (checkedAt : ℤ) :
    Except PyExc PlanValidationResult :=
  validateSteps v draft.steps [] snapshot checkedAt

/-- The validator returns, and what it returns has passed. -/
def Passes (v : PlanValidator) (plan : ExecutionPlan) (snapshot : Option CapabilitySnapshot) :
    Prop :=
  ∃ checkedAt result, validate v plan snapshot checkedAt = .ok result ∧ result.passed

end SthBoring.Plan.PlanValidation
