/- Module: SthBoring/AgentLoop/StateNodes
   source: sdk_test_agent/agent_loop/nodes.py, serializers.py
   digest: What the nodes write into the loop's dict, and what they make of it again. -/

import SthBoring.Capability.SchemaRenderers
import SthBoring.Plan.PlanFinalizer
import SthBoring.Plan.PlanObjects

set_option autoImplicit false
set_option relaxedAutoImplicit false

namespace SthBoring.AgentLoop.StateNodes

open SthBoring.Lib.PyValue (Value Fields PyExc keyError typeError joinWith)
open SthBoring.Lib.Dataclasses (plain writeOptional)
open SthBoring.Capability.CapabilityModels
open SthBoring.Capability.ModelValidation (coerceValue)
open SthBoring.Capability.Panel (CapabilityPanel buildSnapshot optionalText)
open SthBoring.Capability.SchemaRenderers (renderCapabilitiesForPrompt)
open SthBoring.Capability.SnapshotObjects (readSnapshot)
open SthBoring.Capability.TraceModels (capabilitySnapshot snapshotObj modelDump)
open SthBoring.Plan.Models
open SthBoring.Plan.PlanFinalizer (setField finalize)
open SthBoring.Plan.PlanObjects
open SthBoring.Plan.PlanValidation

/-- `to_jsonable`: `asdict` of an instance, also where it stands inside a dict or a list. -/
def toJsonable (v : Value) : Value := plain v

section Results

def severityText : ValidationSeverity → String
  | .info => "info"
  | .warning => "warning"
  | .error => "error"

def statusText : ValidationStatus → String
  | .passed => "passed"
  | .failed => "failed"

def issueObj (i : ValidationIssue) : Value :=
  .obj "ValidationIssue"
    [("code", .str i.code), ("severity", .str (severityText i.severity)),
      ("message", .str i.message), ("location", optionalText i.location),
      ("metadata", .dict i.metadata), ("step_id", optionalText i.stepId),
      ("step_kind", optionalText i.stepKind), ("path", optionalText i.path)]

def resultObj (r : PlanValidationResult) : Value :=
  .obj "PlanValidationResult"
    [("status", .str (statusText r.status)), ("issues", .list (r.issues.map issueObj)),
      ("checked_at", optionalInt r.checkedAt), ("metadata", .dict r.metadata)]

end Results

section Decoders

/-- `step if isinstance(step, PlanStep) else PlanStep(**step)`. -/
def stepFromDict : Value → Except PyExc Value
  | .obj "PlanStep" attributes => .ok (.obj "PlanStep" attributes)
  | .dict kwargs => planStep.construct kwargs
  | step => .error (typeError s!"PlanStep() argument after ** must be a mapping, not {step.typeName}")

/-- The payload with its steps rebuilt. -/
def rebuildSteps (payload : Fields) : Except PyExc Fields := do
  let steps ← ((payload.get "steps").getD (.list [])).iter
  let rebuilt ← steps.mapM stepFromDict
  return setField payload "steps" (.list rebuilt)

/-- `_draft_from_dict`, where no other class is configured. The state holds a dict here. -/
def draftFromDict (data : Fields) : Except PyExc Value := do
  let payload ← rebuildSteps data
  executionPlanDraft.construct payload

/-- `_plan_from_dict`, where no other class is configured. -/
def planFromDict : Value → Except PyExc Value
  | .dict data => do
    let payload ← rebuildSteps data
    executionPlan.construct payload
  | data => .ok data

def validationError (errors : List String) : PyExc :=
  ⟨"ValidationError", ["ValueError", "Exception"], joinWith "; " errors⟩

/-- `_capability_snapshot_from_dict`. -/
def capabilitySnapshotFromDict : Value → Except PyExc Value
  | .null => .ok .null
  | data => (coerceValue capabilitySnapshot data "").mapError validationError

end Decoders

/-- The runtime, as far as these nodes look at it: `metadata["capability_snapshot_obj"]` and the
validator. -/
structure StateRuntime where
  capabilitySnapshotObj : Option CapabilitySnapshot := none
  planValidator : PlanValidator := {}

/-- `state[key]`. -/
def subscript (state : Fields) (key : String) : Except PyExc Value := (Value.dict state).subscript key

/-- The state, with the dict that a node returns merged into it. -/
def merge (state updates : Fields) : Fields := updates.foldl (fun s e => setField s e.1 e.2) state

/-- The record behind an instance. Instances whose attributes are not of their annotated types are
not followed further. -/
def typed {α : Type} (read : Value → Option α) (v : Value) : Except PyExc α :=
  match read v with
  | some a => .ok a
  | none => .error (typeError s!"'{v.typeName}' object has other attributes")

/-- `capability_resolve_node` from the input on. -/
def capabilityResolveNode (panel : CapabilityPanel) (request : BuildCapabilitySnapshotInput)
    (uuidHex : String) (state : Fields) : Except PyExc Fields := do
  let snapshot := buildSnapshot panel request uuidHex
  let prompt ← renderCapabilitiesForPrompt snapshot
  return merge state
    [("capability_snapshot_id", .str snapshot.snapshotId),
      ("capability_digest", .str snapshot.capabilityDigest), ("capability_prompt", .str prompt),
      ("capability_snapshot", .dict (modelDump (snapshotObj snapshot)))]

/-- `plan_node` once the planner has answered. -/
def planNode (draft : Value) (state : Fields) : Fields :=
  merge state [("draft_plan", toJsonable draft)]

/-- `runtime.metadata.get("capability_snapshot_obj")`, or else the snapshot of the state. -/
def snapshotFor (runtime : StateRuntime) (state : Fields) :
    Except PyExc (Option CapabilitySnapshot) :=
  match runtime.capabilitySnapshotObj with
  | some snapshot => .ok (some snapshot)
  | none => do
    let v ← capabilitySnapshotFromDict (state.getD "capability_snapshot")
    match v with
    | .null => return none
    | v => (typed readSnapshot v).map some

def finalizeNode (runtime : StateRuntime) (planId : String) (createdAt : ℤ) (state : Fields) :
    Except PyExc Fields := do
  let data ← subscript state "draft_plan"
  let data ← typed SthBoring.Lib.Dataclasses.readDict data
  let v ← draftFromDict data
  let snapshot ← snapshotFor runtime state
  let draft ← typed readDraft v
  let plan := finalize draft snapshot {} planId createdAt
  return merge state [("plan_id", .str plan.planId), ("plan", toJsonable (planObj plan))]

/-- The plan that `validate_node` and `execute_node` take from the state. -/
def planOf (state : Fields) : Except PyExc Value := do
  let data ← subscript state "plan"
  planFromDict data

def validateNode (runtime : StateRuntime) (checkedAt : ℤ) (state : Fields) :
    Except PyExc Fields := do
  let v ← planOf state
  let snapshot ← snapshotFor runtime state
  let plan ← typed readPlan v
  let result ← validate runtime.planValidator plan snapshot checkedAt
  return merge state [("validation_result", toJsonable (resultObj result))]

end SthBoring.AgentLoop.StateNodes
