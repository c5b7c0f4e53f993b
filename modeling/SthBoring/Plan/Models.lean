/- Module: SthBoring/Plan/Models
   source: sdk_test_agent/plan/plan_enums.py, plan_models.py
   digest: Plan steps, drafts, plans and replan requests. -/

import SthBoring.Lib.PyValue

set_option autoImplicit false
set_option relaxedAutoImplicit false

namespace SthBoring.Plan.Models

open SthBoring.Lib.PyValue (Value Fields)

/-- `on_failure` is a plain string in a step; `other` is any text outside the enumeration. -/
inductive StepFailurePolicy where
  | abort | continue' | fallback | requestReplan
  | other (text : String)
  deriving DecidableEq, Repr

inductive StepRiskLevel where
  | low | medium | high
  | other (text : String)
  deriving DecidableEq, Repr

inductive PlannerKind where
  | fast | llm | ruleFallback | demo
  | other (text : String)
  deriving DecidableEq, Repr

inductive PlanStatus where
  | draft | validated | rejected | frozen
  | other (text : String)
  deriving DecidableEq, Repr

inductive ValidationSeverity where
  | info | warning | error
  deriving DecidableEq, Repr

inductive ValidationStatus where
  | passed | failed
  deriving DecidableEq, Repr

def StepFailurePolicy.text : StepFailurePolicy → String
  | abort => "abort"
  | continue' => "continue"
  | fallback => "fallback"
  | requestReplan => "request_replan"
  | other s => s

def StepRiskLevel.text : StepRiskLevel → String
  | low => "low"
  | medium => "medium"
  | high => "high"
  | other s => s

/-- Membership in `VALID_FAILURE_POLICIES`. -/
def StepFailurePolicy.valid : StepFailurePolicy → Bool
  | other _ => false
  | _ => true

/-- Membership in `VALID_RISK_LEVELS`. -/
def StepRiskLevel.valid : StepRiskLevel → Bool
  | other _ => false
  | _ => true

namespace PlanStepKind

def inspectPackage : String := "inspect_package"
def parseText : String := "parse_text"
def buildImage : String := "build_image"
def createRuntime : String := "create_runtime"
def inspectEnvironment : String := "inspect_environment"
def runCommand : String := "run_command"
def executeProbe : String := "execute_probe"
def generateScript : String := "generate_script"
def runTest : String := "run_test"
def collectArtifact : String := "collect_artifact"
def summarizeReport : String := "summarize_report"

end PlanStepKind

open PlanStepKind in
/-- `SUPPORTED_PLAN_STEP_KINDS`. -/
def supportedPlanStepKinds : List String :=
  [inspectPackage, parseText, buildImage, createRuntime, inspectEnvironment, runCommand,
    executeProbe, generateScript, runTest, collectArtifact, summarizeReport]

structure PlanStep where
  stepId : String
  title : String
  kind : String
  intent : String
  dependsOn : List String := []
  branchGroup : Option String := none
  branchCondition : Option String := none
  inputs : Fields := []
  expectedOutputs : List String := []
  requiredCapabilities : List String := []
  timeoutSec : Option ℤ := none
  retryable : Bool := false
  optional : Bool := false
  riskLevel : StepRiskLevel := .low
  onFailure : StepFailurePolicy := .abort
  onSuccess : Option String := none
  metadata : Fields := []

structure ExecutionPlan where
  planId : String
  taskId : String
  taskType : String
  goal : String
  plannerKind : PlannerKind
  plannerName : String
  plannerVersion : String
  status : PlanStatus
  steps : List PlanStep
  assumptions : List String := []
  missingInformation : List String := []
  riskNotes : List String := []
  globalConstraints : Fields := []
  planMetadata : Fields := []
  parentPlanId : Option String := none
  revisionNo : ℤ := 0
  createdAt : Option ℤ := none

structure ExecutionPlanDraft where
  taskId : String
  taskType : String
  goal : String
  plannerName : String
  plannerVersion : String
  planSummary : String
  steps : List PlanStep
  assumptions : List String := []
  missingInformation : List String := []
  riskNotes : List String := []
  rawLlmOutput : Option String := none
  metadata : Fields := []

structure ReplanRequest where
  taskId : String
  parentPlanId : String
  reason : String
  failedStepId : Option String := none
  executionObservations : List String := []
  latestEnvReportRef : Option String := none
  latestArtifactRefs : List String := []
  metadata : Fields := []
  createdAt : Option ℤ := none

/-- Every id in `depends_on` is the id of a strictly earlier step. -/
def DependencyOrdered (steps : List PlanStep) : Prop :=
  ∀ before step after, steps = before ++ step :: after →
    ∀ dep ∈ step.dependsOn, dep ∈ before.map PlanStep.stepId

/-- `step` lists the id of `dep`, a step of the same plan, in its `depends_on`. -/
def DependsDirectly (steps : List PlanStep) (step dep : PlanStep) : Prop :=
  step ∈ steps ∧ dep ∈ steps ∧ dep.stepId ∈ step.dependsOn

end SthBoring.Plan.Models
