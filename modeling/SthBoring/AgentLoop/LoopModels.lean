/- Module: SthBoring/AgentLoop/LoopModels
   source: sdk_test_agent/agent_loop/state_models.py, runtime_bindings.py, policies.py,
     interaction_decision.py, task_check.py
   digest: The state of the agent loop and everything its nodes are handed. -/

import SthBoring.Lib.Effect
import SthBoring.AgentLoop.Preflight
import SthBoring.Capability.Panel
import SthBoring.Plan.PlanValidation

set_option autoImplicit false
set_option relaxedAutoImplicit false

namespace SthBoring.AgentLoop.LoopModels

universe u

open SthBoring.Lib.Effect (Computation)
open SthBoring.Lib.PyValue (Value Fields PyExc PyFloat)
open SthBoring.Capability.CapabilityModels
open SthBoring.Capability.Panel (CapabilityPanel)
open SthBoring.Plan.Models (ExecutionPlan ExecutionPlanDraft)
open SthBoring.Plan.PlanValidation (PlanValidator PlanValidationResult)
open SthBoring.Execution.Models
open SthBoring.AgentLoop.Preflight (PreflightResult)

variable {σ : Type u}

structure LoopPolicy where
  maxIterations : ℤ := 3
  failOnValidationError : Bool := true
  failOnPreflightError : Bool := true
  allowHumanInterrupt : Bool := false
  allowAskInput : Bool := true
  taskCheckMinConfidence : PyFloat := ⟨1 / 2, "0.5"⟩

structure InteractionDecisionRequest where
  rawUserInput : Option String
  taskId : Option String := none
  sessionId : Option String := none
  userId : Option String := none
  conversationSummary : Option String := none
  systemCapabilitySummary : Option String := none
  metadata : Fields := []

/-- The mode is whatever text the decider gives. -/
structure InteractionDecision where
  mode : String
  content : String
  confidence : PyFloat
  reason : String
  normalizedGoal : Option String := none
  metadata : Fields := []

structure TaskCheckRequest where
  taskId : String
  taskType : String
  userGoal : Option String
  iteration : ℤ
  plan : Option ExecutionPlan := none
  executionResult : Option ExecutionRunResult := none
  capabilitySnapshotId : Option String := none
  capabilityDigest : Option String := none
  artifactRefs : List String := []

/-- Level and route are whatever text the checker gives. -/
structure TaskCheckDecision where
  loopLevel : String
  route : String
  confidence : PyFloat
  reason : String
  evidenceRefs : List String := []
  evidenceSummary : Option String := none
  replanHint : Option String := none
  inputRequest : Option String := none
  humanMessage : Option String := none
  metadata : Fields := []

/-- What `LlmTaskChecker` answers when it cannot read the model's answer. -/
def unreadableDecision : TaskCheckDecision where
  loopLevel := "need_replan"
  route := "replan"
  confidence := ⟨0, "0.0"⟩
  reason := "task checker failed to parse decision"

structure PlanContextBase where
  taskId : String
  taskType : String
  goal : Option String
  availableCapabilities : List String := []

structure LlmPlanningContext where
  userInstructionRaw : Option String
  extraPromptVars : Fields := []

structure PlannerInput where
  baseContext : PlanContextBase
  llmContext : Option LlmPlanningContext := none

structure LoopReplanRequest where
  reason : String
  fromIteration : ℤ

structure LoopReport where
  planId : Option String
  runId : Option String
  decision : Option TaskCheckDecision

/-- The loop's dict; a field is `none` while its key is missing. The goal is there but `None`
when a decider plans without one. -/
structure SdkAgentState where
  taskId : Option String := none
  taskType : Option String := none
  userGoal : Option (Option String) := none
  rawUserInput : Option String := none
  interactionDecision : Option InteractionDecision := none
  responseContent : Option String := none
  sessionId : Option String := none
  userId : Option String := none
  conversationSummary : Option String := none
  systemCapabilitySummary : Option String := none
  iteration : Option ℤ := none
  loopStatus : Option String := none
  availableContextKeys : Option (List String) := none
  capabilitySnapshotId : Option String := none
  capabilityDigest : Option String := none
  capabilityPrompt : Option String := none
  capabilitySnapshot : Option CapabilitySnapshot := none
  selectedSkillIds : Option (List String) := none
  skillContext : Option String := none
  draftPlan : Option ExecutionPlanDraft := none
  planId : Option String := none
  plan : Option ExecutionPlan := none
  validationResult : Option PlanValidationResult := none
  preflightResult : Option PreflightResult := none
  runId : Option String := none
  executionResult : Option ExecutionRunResult := none
  taskCheckDecision : Option TaskCheckDecision := none
  replanRequest : Option LoopReplanRequest := none
  report : Option LoopReport := none
  artifactRefs : Option (List String) := none
  metadata : Option Fields := none

/-- A command controller as the loop sees it: it opens sessions, and its dispatcher, if it has
one, holds a dict of operators. -/
structure SessionController (σ : Type u) extends CommandController σ where
  openSession : Computation σ PyExc Unit
  operators : Value := .dict []

structure RuntimeBindings (σ : Type u) where
  artifactManager : Option (ArtifactManager σ) := none
  runtimeManager : Option (RuntimeManager σ) := none
  dockerDriver : Option (DockerDriver σ) := none
  commandController : Option (SessionController σ) := none
  packageInspector : Option (PackageInspector σ) := none
  envInspector : Option (EnvInspector σ) := none

/-- `metadata` of the runtime context, as far as the nodes read it. -/
structure RuntimeMetadata (σ : Type u) where
  capabilityInputFactory :
    Option (SdkAgentState → Computation σ PyExc (Option BuildCapabilitySnapshotInput)) := none
  capabilitySnapshotObj : Option CapabilitySnapshot := none

/-- The planner, the finalizer, the engine, the checker and the decider are injected objects:
each is its one method. `timeFunc` and `uuidHex` are the clock and the source of ids that the
validator and the panel use. -/
structure SdkRuntimeContext (σ : Type u) where
  bindings : RuntimeBindings σ
  capabilityPanel : CapabilityPanel
  planner : PlannerInput → Computation σ PyExc ExecutionPlanDraft
  planFinalizer : ExecutionPlanDraft → Option CapabilitySnapshot → Computation σ PyExc ExecutionPlan
  planValidator : PlanValidator
  executionEngine : ExecutionPlan → ExecutionContext σ → Computation σ PyExc ExecutionRunResult
  supportedStepKinds : List String
  taskChecker : TaskCheckRequest → Computation σ PyExc TaskCheckDecision
  loopPolicy : LoopPolicy
  interactionDecider :
    Option (InteractionDecisionRequest → Computation σ PyExc InteractionDecision) := none
  metadata : RuntimeMetadata σ := {}
  timeFunc : σ → ℤ × σ
  uuidHex : σ → String × σ

end SthBoring.AgentLoop.LoopModels
