/- Module: SthBoring/Plan/PlanObjects
   source: sdk_test_agent/plan/plan_models.py, plan_enums.py
   digest: Steps, drafts and plans as instances of their dataclasses. -/

import SthBoring.Capability.SnapshotObjects
import SthBoring.Plan.Models

set_option autoImplicit false
set_option relaxedAutoImplicit false

namespace SthBoring.Plan.PlanObjects

open SthBoring.Lib.PyValue (Value Fields)
open SthBoring.Lib.Dataclasses
open SthBoring.Capability.Panel (texts optionalText)
open SthBoring.Capability.SnapshotObjects (readText readTexts sound_text sound_texts complete_text
  complete_texts)
open SthBoring.Plan.Models

section Enumerations

def failurePolicyOf : String → StepFailurePolicy
  | "abort" => .abort
  | "continue" => .continue'
  | "fallback" => .fallback
  | "request_replan" => .requestReplan
  | s => .other s

def riskLevelOf : String → StepRiskLevel
  | "low" => .low
  | "medium" => .medium
  | "high" => .high
  | s => .other s

def plannerKindText : PlannerKind → String
  | .fast => "fast"
  | .llm => "llm"
  | .ruleFallback => "rule_fallback"
  | .demo => "demo"
  | .other s => s

def plannerKindOf : String → PlannerKind
  | "fast" => .fast
  | "llm" => .llm
  | "rule_fallback" => .ruleFallback
  | "demo" => .demo
  | s => .other s

def planStatusText : PlanStatus → String
  | .draft => "draft"
  | .validated => "validated"
  | .rejected => "rejected"
  | .frozen => "frozen"
  | .other s => s

def planStatusOf : String → PlanStatus
  | "draft" => .draft
  | "validated" => .validated
  | "rejected" => .rejected
  | "frozen" => .frozen
  | s => .other s

theorem text_failurePolicyOf (s : String) : (failurePolicyOf s).text = s := by
  unfold failurePolicyOf
  split <;> rfl

theorem text_riskLevelOf (s : String) : (riskLevelOf s).text = s := by
  unfold riskLevelOf
  split <;> rfl

end Enumerations

section Classes

def required (name : String) : String × Option Value := (name, none)

def optional (name : String) (default : Value) : String × Option Value := (name, some default)

def planStep : DataClass where
  name := "PlanStep"
  fields := [required "step_id", required "title", required "kind", required "intent",
    optional "depends_on" (.list []), optional "branch_group" .null,
    optional "branch_condition" .null, optional "inputs" (.dict []),
    optional "expected_outputs" (.list []), optional "required_capabilities" (.list []),
    optional "timeout_sec" .null, optional "retryable" (.bool false),
    optional "optional" (.bool false), optional "risk_level" (.str "low"),
    optional "on_failure" (.str "abort"), optional "on_success" .null,
    optional "metadata" (.dict [])]

def executionPlan : DataClass where
  name := "ExecutionPlan"
  fields := [required "plan_id", required "task_id", required "task_type", required "goal",
    required "planner_kind", required "planner_name", required "planner_version",
    required "status", required "steps", optional "assumptions" (.list []),
    optional "missing_information" (.list []), optional "risk_notes" (.list []),
    optional "global_constraints" (.dict []), optional "plan_metadata" (.dict []),
    optional "parent_plan_id" .null, optional "revision_no" (.int 0), optional "created_at" .null]

def executionPlanDraft : DataClass where
  name := "ExecutionPlanDraft"
  fields := [required "task_id", required "task_type", required "goal", required "planner_name",
    required "planner_version", required "plan_summary", required "steps",
    optional "assumptions" (.list []), optional "missing_information" (.list []),
    optional "risk_notes" (.list []), optional "raw_llm_output" .null,
    optional "metadata" (.dict [])]

end Classes

section Instances

def optionalInt : Option ℤ → Value := writeOptional .int

def stepObj (s : PlanStep) : Value :=
  .obj "PlanStep"
    [("step_id", .str s.stepId), ("title", .str s.title), ("kind", .str s.kind),
      ("intent", .str s.intent), ("depends_on", texts s.dependsOn),
      ("branch_group", optionalText s.branchGroup),
      ("branch_condition", optionalText s.branchCondition), ("inputs", .dict s.inputs),
      ("expected_outputs", texts s.expectedOutputs),
      ("required_capabilities", texts s.requiredCapabilities),
      ("timeout_sec", optionalInt s.timeoutSec), ("retryable", .bool s.retryable),
      ("optional", .bool s.optional), ("risk_level", .str s.riskLevel.text),
      ("on_failure", .str s.onFailure.text), ("on_success", optionalText s.onSuccess),
      ("metadata", .dict s.metadata)]

def draftObj (d : ExecutionPlanDraft) : Value :=
  .obj "ExecutionPlanDraft"
    [("task_id", .str d.taskId), ("task_type", .str d.taskType), ("goal", .str d.goal),
      ("planner_name", .str d.plannerName), ("planner_version", .str d.plannerVersion),
      ("plan_summary", .str d.planSummary), ("steps", .list (d.steps.map stepObj)),
      ("assumptions", texts d.assumptions), ("missing_information", texts d.missingInformation),
      ("risk_notes", texts d.riskNotes), ("raw_llm_output", optionalText d.rawLlmOutput),
      ("metadata", .dict d.metadata)]

def planObj (p : ExecutionPlan) : Value :=
  .obj "ExecutionPlan"
    [("plan_id", .str p.planId), ("task_id", .str p.taskId), ("task_type", .str p.taskType),
      ("goal", .str p.goal), ("planner_kind", .str (plannerKindText p.plannerKind)),
      ("planner_name", .str p.plannerName), ("planner_version", .str p.plannerVersion),
      ("status", .str (planStatusText p.status)), ("steps", .list (p.steps.map stepObj)),
      ("assumptions", texts p.assumptions), ("missing_information", texts p.missingInformation),
      ("risk_notes", texts p.riskNotes), ("global_constraints", .dict p.globalConstraints),
      ("plan_metadata", .dict p.planMetadata), ("parent_plan_id", optionalText p.parentPlanId),
      ("revision_no", .int p.revisionNo), ("created_at", optionalInt p.createdAt)]

end Instances

section Reading

/-- A step, where the attributes are of their annotated types. -/
def readStep (v : Value) : Option PlanStep := do
  let values ← attributesOf "PlanStep" planStep.names v
  let (stepId, title, kind, intent, dependsOn, branchGroup, branchCondition, inputs,
    expectedOutputs, requiredCapabilities, timeoutSec, retryable, optional, riskLevel, onFailure,
    onSuccess, metadata, _) ←
    (readCons readStr <| readCons readStr <| readCons readStr <| readCons readStr <|
      readCons readTexts <| readCons readText <| readCons readText <| readCons readDict <|
      readCons readTexts <| readCons readTexts <| readCons (readOptional readInt) <|
      readCons readBool <| readCons readBool <| readCons readStr <| readCons readStr <|
      readCons readText <| readCons readDict readNil) values
  return {
    stepId, title, kind, intent, dependsOn, branchGroup, branchCondition, inputs, expectedOutputs
    requiredCapabilities, timeoutSec, retryable, optional
    riskLevel := riskLevelOf riskLevel, onFailure := failurePolicyOf onFailure
    onSuccess, metadata }

def readDraft (v : Value) : Option ExecutionPlanDraft := do
  let values ← attributesOf "ExecutionPlanDraft" executionPlanDraft.names v
  let (taskId, taskType, goal, plannerName, plannerVersion, planSummary, steps, assumptions,
    missingInformation, riskNotes, rawLlmOutput, metadata, _) ←
    (readCons readStr <| readCons readStr <| readCons readStr <| readCons readStr <|
      readCons readStr <| readCons readStr <| readCons (readList readStep) <|
      readCons readTexts <| readCons readTexts <| readCons readTexts <| readCons readText <|
      readCons readDict readNil) values
  return {
    taskId, taskType, goal, plannerName, plannerVersion, planSummary, steps, assumptions
    missingInformation, riskNotes, rawLlmOutput, metadata }

def readPlan (v : Value) : Option ExecutionPlan := do
  let values ← attributesOf "ExecutionPlan" executionPlan.names v
  let (planId, taskId, taskType, goal, plannerKind, plannerName, plannerVersion, status, steps,
    assumptions, missingInformation, riskNotes, globalConstraints, planMetadata, parentPlanId,
    revisionNo, createdAt, _) ←
    (readCons readStr <| readCons readStr <| readCons readStr <| readCons readStr <|
      readCons readStr <| readCons readStr <| readCons readStr <| readCons readStr <|
      readCons (readList readStep) <| readCons readTexts <| readCons readTexts <|
      readCons readTexts <| readCons readDict <| readCons readDict <| readCons readText <|
      readCons readInt <| readCons (readOptional readInt) readNil) values
  return {
    planId, taskId, taskType, goal, plannerKind := plannerKindOf plannerKind, plannerName
    plannerVersion, status := planStatusOf status, steps, assumptions, missingInformation
    riskNotes, globalConstraints, planMetadata, parentPlanId, revisionNo, createdAt }

/-- What is read as a step is the instance of that step. -/
theorem sound_step : Sound readStep stepObj := by
  intro v s h
  obtain ⟨values, named, h⟩ := Option.bind_eq_some_iff.mp h
  obtain ⟨row, hrow, h⟩ := Option.bind_eq_some_iff.mp h
  have written := (soundRow_cons sound_str <| soundRow_cons sound_str <| soundRow_cons sound_str <|
    soundRow_cons sound_str <| soundRow_cons sound_texts <| soundRow_cons sound_text <|
    soundRow_cons sound_text <| soundRow_cons sound_dict <| soundRow_cons sound_texts <|
    soundRow_cons sound_texts <| soundRow_cons (sound_optional sound_int) <|
    soundRow_cons sound_bool <| soundRow_cons sound_bool <| soundRow_cons sound_str <|
    soundRow_cons sound_str <| soundRow_cons sound_text <|
    soundRow_cons sound_dict soundRow_nil) values row hrow
  cases h
  rw [eq_of_attributesOf named, written, stepObj, text_riskLevelOf, text_failurePolicyOf]
  rfl

theorem sound_draft : Sound readDraft draftObj := by
  intro v d h
  obtain ⟨values, named, h⟩ := Option.bind_eq_some_iff.mp h
  obtain ⟨row, hrow, h⟩ := Option.bind_eq_some_iff.mp h
  have written := (soundRow_cons sound_str <| soundRow_cons sound_str <| soundRow_cons sound_str <|
    soundRow_cons sound_str <| soundRow_cons sound_str <| soundRow_cons sound_str <|
    soundRow_cons (sound_list sound_step) <| soundRow_cons sound_texts <|
    soundRow_cons sound_texts <| soundRow_cons sound_texts <| soundRow_cons sound_text <|
    soundRow_cons sound_dict soundRow_nil) values row hrow
  cases h
  rw [eq_of_attributesOf named, written]
  rfl

theorem readStep_of_mem {v : Value} {d : ExecutionPlanDraft} (h : readDraft v = some d)
    {s : PlanStep} (mem : s ∈ d.steps) : readStep (stepObj s) = some s := by
  obtain ⟨values, named, h⟩ := Option.bind_eq_some_iff.mp h
  obtain ⟨row, hrow, h⟩ := Option.bind_eq_some_iff.mp h
  -- The steps come after six texts.
  obtain ⟨_, h1⟩ := rest_of_readCons hrow
  obtain ⟨_, h2⟩ := rest_of_readCons h1
  obtain ⟨_, h3⟩ := rest_of_readCons h2
  obtain ⟨_, h4⟩ := rest_of_readCons h3
  obtain ⟨_, h5⟩ := rest_of_readCons h4
  obtain ⟨_, h6⟩ := rest_of_readCons h5
  obtain ⟨steps, hsteps⟩ := first_of_readCons h6
  cases h
  exact read_write_of_readList sound_step hsteps mem

/-- A plan is read from its instance as it was, its steps permitting. -/
theorem readPlan_planObj {p : ExecutionPlan}
    (steps : ∀ s ∈ p.steps, readStep (stepObj s) = some s)
    (kind : plannerKindOf (plannerKindText p.plannerKind) = p.plannerKind)
    (status : planStatusOf (planStatusText p.status) = p.status) :
    readPlan (planObj p) = some p := by
  have createdAt := complete_optional complete_int (fun _ => Value.noConfusion) p.createdAt
  have row := readCons_writeCons (complete_str p.planId) <|
    readCons_writeCons (complete_str p.taskId) <| readCons_writeCons (complete_str p.taskType) <|
    readCons_writeCons (complete_str p.goal) <|
    readCons_writeCons (complete_str (plannerKindText p.plannerKind)) <|
    readCons_writeCons (complete_str p.plannerName) <|
    readCons_writeCons (complete_str p.plannerVersion) <|
    readCons_writeCons (complete_str (planStatusText p.status)) <|
    readCons_writeCons (readList_of_forall steps) <|
    readCons_writeCons (complete_texts p.assumptions) <|
    readCons_writeCons (complete_texts p.missingInformation) <|
    readCons_writeCons (complete_texts p.riskNotes) <|
    readCons_writeCons (complete_dict p.globalConstraints) <|
    readCons_writeCons (complete_dict p.planMetadata) <|
    readCons_writeCons (complete_text p.parentPlanId) <|
    readCons_writeCons (complete_int p.revisionNo) <|
    readCons_writeCons createdAt readNil_writeNil
  rw [readPlan, planObj, attributesOf_eq (by rfl)]
  refine (congrArg (Option.bind · _) row).trans ?_
  show some { p with
    plannerKind := plannerKindOf (plannerKindText p.plannerKind)
    status := planStatusOf (planStatusText p.status) } = some p
  rw [kind, status]

end Reading

end SthBoring.Plan.PlanObjects
