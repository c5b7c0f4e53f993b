/- Module: SthBoring/AgentLoop/Nodes
   source: sdk_test_agent/agent_loop/nodes.py
   digest: The nodes of the agent loop. -/

import SthBoring.Capability.SchemaRenderers
import SthBoring.AgentLoop.LoopModels

set_option autoImplicit false
set_option relaxedAutoImplicit false

namespace SthBoring.AgentLoop.Nodes

universe u

open SthBoring.Lib.Effect (Computation)
open SthBoring.Lib.PyValue (Value Fields PyExc PyFloat keyError textOr)
open SthBoring.Capability.CapabilityModels
open SthBoring.Capability.Panel (buildSnapshot optionalText)
open SthBoring.Capability.SchemaRenderers (renderCapabilitiesForPrompt)
open SthBoring.Plan.PlanValidation (validate)
open SthBoring.Execution.Models
open SthBoring.AgentLoop.Preflight (runPreflight)
open SthBoring.AgentLoop.LoopModels

variable {σ : Type u}

/-- A node, together with the merge of the dict it returns into the state. -/
abbrev NodeFunction (σ : Type u) :=
  SdkAgentState → SdkRuntimeContext σ → Computation σ PyExc SdkAgentState

/-- A source of fresh values: it always returns. -/
def draw {α : Type} (f : σ → α × σ) : Computation σ PyExc α := fun w =>
  let (a, w') := f w
  (.ok a, w')

/-- `state[key]`. -/
def required {α : Type} (key : String) (field : Option α) : Computation σ PyExc α :=
  match field with
  | some a => pure a
  | none => Computation.raise (keyError key)

def iterationOf (state : SdkAgentState) : ℤ := state.iteration.getD 0

def decisionContent (state : SdkAgentState) : String :=
  match state.interactionDecision with
  | some decision => decision.content
  | none => ""

/-- `state.get("raw_user_input") or state.get("user_goal", "")`. -/
def rawUserInputOf (state : SdkAgentState) : Option String :=
  let goal := state.userGoal.getD (some "")
  match state.rawUserInput with
  | some text => if text = "" then goal else some text
  | none => goal

/-- The decision made where no decider is configured. -/
def legacyDecision (rawUserInput : Option String) : InteractionDecision where
  mode := "PLAN"
  content := ""
  confidence := ⟨1, "1.0"⟩
  reason := "No interaction decider is configured; preserve the legacy planning route."
  normalizedGoal := rawUserInput

def decisionRequest (state : SdkAgentState) : InteractionDecisionRequest where
  rawUserInput := rawUserInputOf state
  taskId := state.taskId
  sessionId := state.sessionId
  userId := state.userId
  conversationSummary := state.conversationSummary
  systemCapabilitySummary := state.systemCapabilitySummary
  metadata := state.metadata.getD []

def decideInteraction (state : SdkAgentState) (runtime : SdkRuntimeContext σ) :
    Computation σ PyExc InteractionDecision :=
  match runtime.interactionDecider with
  | none => pure (legacyDecision (rawUserInputOf state))
  | some decider => decider (decisionRequest state)

def recordDecision (state : SdkAgentState) (decision : InteractionDecision) : SdkAgentState :=
  { state with
    rawUserInput := rawUserInputOf state
    interactionDecision := some decision
    userGoal := if decision.mode = "PLAN" then some decision.normalizedGoal else state.userGoal }

def interactionDecisionNode : NodeFunction σ := fun state runtime => do
  let decision ← decideInteraction state runtime
  return recordDecision state decision

def buildAvailableContextKeys (bindings : RuntimeBindings σ) : List String :=
  [("artifact_manager", bindings.artifactManager.isSome),
    ("runtime_manager", bindings.runtimeManager.isSome),
    ("docker_driver", bindings.dockerDriver.isSome),
    ("command_controller", bindings.commandController.isSome),
    ("package_inspector", bindings.packageInspector.isSome),
    ("env_inspector", bindings.envInspector.isSome)].filterMap
      (fun entry => if entry.2 then some entry.1 else none)

def openSession (bindings : RuntimeBindings σ) : Computation σ PyExc Unit :=
  match bindings.commandController with
  | some controller => controller.openSession
  | none => pure ()

def envInitNode : NodeFunction σ := fun state runtime => do
  openSession runtime.bindings
  return { state with
    loopStatus := some "env_initialized"
    availableContextKeys := some (buildAvailableContextKeys runtime.bindings) }

/-- The input that is built where no factory gives one. -/
def defaultCapabilityInput (state : SdkAgentState) :
    Computation σ PyExc BuildCapabilitySnapshotInput := do
  let taskId ← required "task_id" state.taskId
  let taskType ← required "task_type" state.taskType
  return { taskId := some taskId, taskType := some taskType
           availableContextKeys := state.availableContextKeys.getD []
           maxRiskLevel := .high, allowPlaceholder := false, allowDeprecated := false }

def capabilityInput (state : SdkAgentState) (runtime : SdkRuntimeContext σ) :
    Computation σ PyExc BuildCapabilitySnapshotInput := do
  let made ← match runtime.metadata.capabilityInputFactory with
    | some factory => factory state
    | none => pure none
  match made with
  | some capInput => return capInput
  | none => defaultCapabilityInput state

def capabilityResolveNode : NodeFunction σ := fun state runtime => do
  let capInput ← capabilityInput state runtime
  let hex ← draw runtime.uuidHex
  let snapshot := buildSnapshot runtime.capabilityPanel capInput hex
  let prompt ← Computation.lift (renderCapabilitiesForPrompt snapshot)
  return { state with
    capabilitySnapshotId := some snapshot.snapshotId
    capabilityDigest := some snapshot.capabilityDigest
    capabilityPrompt := some prompt
    capabilitySnapshot := some snapshot }

def skillSelectNode : NodeFunction σ := fun state _ =>
  return { state with selectedSkillIds := some [], skillContext := some "" }

def planNode : NodeFunction σ := fun state runtime => do
  let taskId ← required "task_id" state.taskId
  let taskType ← required "task_type" state.taskType
  let goal ← required "user_goal" state.userGoal
  let draft ← runtime.planner
    { baseContext :=
        { taskId := taskId, taskType := taskType, goal := goal
          availableCapabilities := match state.capabilitySnapshot with
            | some snapshot => snapshot.availableStepKinds
            | none => [] }
      llmContext := some
        { userInstructionRaw := goal
          extraPromptVars := [("capability_context", .str (state.capabilityPrompt.getD "")),
            ("capability_snapshot_id", optionalText state.capabilitySnapshotId),
            ("capability_digest", optionalText state.capabilityDigest)] } }
  return { state with draftPlan := some draft }

/-- The snapshot that finalizing and validating go by. -/
def snapshotFor (state : SdkAgentState) (runtime : SdkRuntimeContext σ) :
    Option CapabilitySnapshot :=
  runtime.metadata.capabilitySnapshotObj.or state.capabilitySnapshot

def finalizeNode : NodeFunction σ := fun state runtime => do
  let draft ← required "draft_plan" state.draftPlan
  let plan ← runtime.planFinalizer draft (snapshotFor state runtime)
  return { state with planId := some plan.planId, plan := some plan }

def validateNode : NodeFunction σ := fun state runtime => do
  let plan ← required "plan" state.plan
  let checkedAt ← draw runtime.timeFunc
  let result ← Computation.lift
    (validate runtime.planValidator plan (snapshotFor state runtime) checkedAt)
  return { state with validationResult := some result }

/-- `dispatcher.operators` of the command controller, or an empty dict. -/
def operatorsOf (bindings : RuntimeBindings σ) : Value :=
  match bindings.commandController with
  | some controller => controller.operators
  | none => .dict []

def preflightNode : NodeFunction σ := fun state runtime => do
  let plan ← required "plan" state.plan
  let result ← Computation.lift
    (runPreflight plan.steps runtime.supportedStepKinds (operatorsOf runtime.bindings))
  return { state with preflightResult := some result }

/-- Each execution gets a context of its own; only the services live on. -/
def executionContext (state : SdkAgentState) (runtime : SdkRuntimeContext σ)
    (taskId runId : String) : ExecutionContext σ where
  taskId := taskId
  planId := state.planId.getD "plan_pending"
  runId := runId
  artifactManager := runtime.bindings.artifactManager
  runtimeManager := runtime.bindings.runtimeManager
  dockerDriver := runtime.bindings.dockerDriver
  commandController := runtime.bindings.commandController.map SessionController.toCommandController
  packageInspector := runtime.bindings.packageInspector
  envInspector := runtime.bindings.envInspector

def executeNode : NodeFunction σ := fun state runtime => do
  let plan ← required "plan" state.plan
  let runId := s!"run_{iterationOf state}"
  let taskId ← required "task_id" state.taskId
  let result ← runtime.executionEngine plan (executionContext state runtime taskId runId)
  return { state with runId := some runId, executionResult := some result }

def taskCheckNode : NodeFunction σ := fun state runtime => do
  let taskId ← required "task_id" state.taskId
  let taskType ← required "task_type" state.taskType
  let userGoal ← required "user_goal" state.userGoal
  let decision ← runtime.taskChecker
    { taskId := taskId, taskType := taskType, userGoal := userGoal
      iteration := iterationOf state, plan := state.plan, executionResult := state.executionResult
      capabilitySnapshotId := state.capabilitySnapshotId
      capabilityDigest := state.capabilityDigest, artifactRefs := state.artifactRefs.getD [] }
  return { state with taskCheckDecision := some decision }

/-- `decision.get("replan_hint") or decision.get("reason")`. -/
def replanReason : Option TaskCheckDecision → String
  | some decision => textOr decision.replanHint decision.reason
  | none => ""

def replanContextNode : NodeFunction σ := fun state _ =>
  let nextIteration := iterationOf state + 1
  return { state with
    iteration := some nextIteration
    replanRequest := some
      { reason := replanReason state.taskCheckDecision, fromIteration := nextIteration - 1 } }

def reportNode : NodeFunction σ := fun state _ =>
  return { state with
    loopStatus := some "succeeded"
    report := some
      { planId := state.planId, runId := state.runId, decision := state.taskCheckDecision } }

/-- A node that only says how the loop ended, and repeats what the user is told. -/
def answerNode (loopStatus : String) : NodeFunction σ := fun state _ =>
  return { state with
    loopStatus := some loopStatus, responseContent := some (decisionContent state) }

def directReturnNode : NodeFunction σ := answerNode "returned"

def refuseReturnNode : NodeFunction σ := answerNode "refused"

def failNode : NodeFunction σ := fun state _ => return { state with loopStatus := some "failed" }

def humanInterruptNode : NodeFunction σ := answerNode "need_human"

end SthBoring.AgentLoop.Nodes
