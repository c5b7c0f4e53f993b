/- Module: SthBoring/AgentLoop/TaskChecks
   source: sdk_test_agent/agent_loop/task_check.py, execution/execution_models.py
   digest: The checker that asks a model, and the decision that is read off its answer. -/

import SthBoring.Lib.PyObject
import SthBoring.Plan.PlannerAnswers

set_option autoImplicit false
set_option relaxedAutoImplicit false

namespace SthBoring.AgentLoop.TaskChecks

universe u

open SthBoring.Lib.Dataclasses
open SthBoring.Lib.Effect (Computation)
open SthBoring.Lib.JsonLoads (loads)
open SthBoring.Lib.JsonReadBack
open SthBoring.Lib.CanonicalJson (canon)
open SthBoring.Lib.PyJson (Format dumps dumpsInOrder)
open SthBoring.Lib.PyObject (dictOf)
open SthBoring.Lib.PyValue
open SthBoring.Llm.LlmModels (LlmRequest)
open SthBoring.AgentLoop.InteractionDecider (JsonResponse isText)
open SthBoring.Capability.Panel (texts optionalText)
open SthBoring.Execution.Models
open SthBoring.Plan.Models (ReplanRequest)
open SthBoring.Plan.PlanMemory (asdict)
open SthBoring.Plan.PlanObjects (optionalInt planObj)
open SthBoring.Plan.PlannerAnswers (parseJsonObject)

variable {σ : Type u}

section Request

structure TaskCheckRequest where
  taskId : String
  taskType : String
  userGoal : Option String
  iteration : ℤ
  plan : Option Fields := none
  executionResult : Option Fields := none
  capabilitySnapshotId : Option String := none
  capabilityDigest : Option String := none
  previousAttempts : List Fields := []
  artifactRefs : List String := []
  metadata : Fields := []

def requestObj (request : TaskCheckRequest) : Value :=
  .obj "TaskCheckRequest"
    [("task_id", .str request.taskId), ("task_type", .str request.taskType),
      ("user_goal", optionalText request.userGoal), ("iteration", .int request.iteration),
      ("plan", writeOptional .dict request.plan),
      ("execution_result", writeOptional .dict request.executionResult),
      ("capability_snapshot_id", optionalText request.capabilitySnapshotId),
      ("capability_digest", optionalText request.capabilityDigest),
      ("previous_attempts", writeList .dict request.previousAttempts),
      ("artifact_refs", texts request.artifactRefs), ("metadata", .dict request.metadata)]

def runStatusText : ExecutionRunStatus → String
  | .created => "created"
  | .running => "running"
  | .succeeded => "succeeded"
  | .failed => "failed"
  | .cancelled => "cancelled"
  | .waitingReplan => "waiting_replan"

def stepRunObj (run : ExecutionStepRun) : Value :=
  .obj "ExecutionStepRun"
    [("step_run_id", .str run.stepRunId), ("run_id", .str run.runId), ("step_id", .str run.stepId),
      ("step_kind", .str run.stepKind), ("status", .str run.status.text),
      ("started_at", optionalInt run.startedAt), ("finished_at", optionalInt run.finishedAt),
      ("duration_ms", optionalInt run.durationMs), ("inputs_snapshot", .dict run.inputsSnapshot),
      ("outputs", .dict run.outputs), ("artifact_refs", texts run.artifactRefs),
      ("stdout_ref", optionalText run.stdoutRef), ("stderr_ref", optionalText run.stderrRef),
      ("log_ref", optionalText run.logRef), ("error_type", optionalText run.errorType),
      ("error_message", optionalText run.errorMessage), ("metadata", .dict run.metadata)]

def runObj (run : ExecutionRun) : Value :=
  .obj "ExecutionRun"
    [("run_id", .str run.runId), ("task_id", .str run.taskId), ("plan_id", .str run.planId),
      ("status", .str (runStatusText run.status)), ("started_at", optionalInt run.startedAt),
      ("finished_at", optionalInt run.finishedAt), ("step_runs", writeList stepRunObj run.stepRuns),
      ("result_summary", optionalText run.resultSummary), ("metadata", .dict run.metadata)]

def stepResultObj (result : StepExecutionResult) : Value :=
  .obj "StepExecutionResult"
    [("status", .str result.status.text), ("outputs", .dict result.outputs),
      ("artifact_refs", texts result.artifactRefs), ("stdout", optionalText result.stdout),
      ("stderr", optionalText result.stderr), ("log_text", optionalText result.logText),
      ("error_type", optionalText result.errorType),
      ("error_message", optionalText result.errorMessage), ("metadata", .dict result.metadata)]

def replanRequestObj (request : ReplanRequest) : Value :=
  .obj "ReplanRequest"
    [("task_id", .str request.taskId), ("parent_plan_id", .str request.parentPlanId),
      ("reason", .str request.reason), ("failed_step_id", optionalText request.failedStepId),
      ("execution_observations", texts request.executionObservations),
      ("latest_env_report_ref", optionalText request.latestEnvReportRef),
      ("latest_artifact_refs", texts request.latestArtifactRefs),
      ("metadata", .dict request.metadata), ("created_at", optionalInt request.createdAt)]

def runResultObj (result : ExecutionRunResult) : Value :=
  .obj "ExecutionRunResult"
    [("run", runObj result.run), ("status", .str (runStatusText result.status)),
      ("step_results", .dict (result.stepResults.entries.map fun e => (e.1, stepResultObj e.2))),
      ("replan_request", writeOptional replanRequestObj result.replanRequest),
      ("artifact_refs", texts result.artifactRefs), ("metadata", .dict result.metadata)]

/-- What `task_check_node` asks: the state has the plan and the result as dicts. -/
def requestOf (request : LoopModels.TaskCheckRequest) : TaskCheckRequest where
  taskId := request.taskId
  taskType := request.taskType
  userGoal := request.userGoal
  iteration := request.iteration
  plan := request.plan.map fun plan => asdict (planObj plan)
  executionResult := request.executionResult.map fun result => asdict (runResultObj result)
  capabilitySnapshotId := request.capabilitySnapshotId
  capabilityDigest := request.capabilityDigest
  artifactRefs := request.artifactRefs

def promptHead : String :=
  "Return strict JSON with loop_level, route, confidence, reason.\n" ++
    "Allowed loop_level: satisfied, need_replan, failed, need_input, need_human, blocked.\n" ++
    "Allowed route: end, replan, fail, ask_input, human_interrupt.\n" ++ "Request:\n"

/-- `_build_prompt`. -/
def buildPrompt (request : TaskCheckRequest) : String :=
  promptHead ++ dumps .unicode (stringified (.dict (asdict (requestObj request))))

end Request

section Decision

/-- Level and route, as most else, are whatever the answer has. -/
structure TaskCheckDecision where
  loopLevel : Value
  route : Value
  confidence : PyFloat
  reason : String
  evidenceRefs : List Value := []
  evidenceSummary : Value := .null
  replanHint : Value := .null
  inputRequest : Value := .null
  humanMessage : Value := .null
  metadata : Fields := []

def TaskCheckDecision.toDict (decision : TaskCheckDecision) : Fields :=
  [("loop_level", decision.loopLevel), ("route", decision.route),
    ("confidence", .float decision.confidence), ("reason", .str decision.reason),
    ("evidence_refs", .list decision.evidenceRefs), ("evidence_summary", decision.evidenceSummary),
    ("replan_hint", decision.replanHint), ("input_request", decision.inputRequest),
    ("human_message", decision.humanMessage), ("metadata", .dict decision.metadata)]

/-- The floats that `json.loads` and `float` make of texts, and those that `float` makes of
integers. -/
structure FloatReader where
  ofToken : String → PyFloat
  ofText : String → Except PyExc PyFloat
  ofInt : ℤ → Except PyExc PyFloat

variable (reader : FloatReader)

/-- `float(v)`. -/
def FloatReader.read : Value → Except PyExc PyFloat
  | .bool b => .ok (if b then ⟨1, "1.0"⟩ else ⟨0, "0.0"⟩)
  | .int n => reader.ofInt n
  | .float x => .ok x
  | .str s => reader.ofText s
  | .bytes b => reader.ofText (String.ofList (b.toList.map fun byte => Char.ofNat byte.toNat))
  | v => .error (typeError
      s!"float() argument must be a string or a real number, not '{v.typeName}'")

/-- `_from_payload`. -/
def fromPayload (payload : Fields) : Except PyExc TaskCheckDecision := do
  let confidence ← reader.read ((payload.get "confidence").getD (.float ⟨0, "0.0"⟩))
  let evidenceRefs ← ((payload.get "evidence_refs").getD (.list [])).iter
  let metadata ← dictOf ((payload.get "metadata").getD (.dict []))
  return {
    loopLevel := (payload.get "loop_level").getD (.str "need_replan")
    route := (payload.get "route").getD (.str "replan")
    confidence := confidence
    reason := ((payload.get "reason").getD (.str "")).text
    evidenceRefs := evidenceRefs
    evidenceSummary := payload.getD "evidence_summary"
    replanHint := payload.getD "replan_hint"
    inputRequest := payload.getD "input_request"
    humanMessage := payload.getD "human_message"
    metadata := metadata }

/-- What is answered when the answer of the model cannot be read. -/
def unreadable : TaskCheckDecision where
  loopLevel := .str "need_replan"
  route := .str "replan"
  confidence := ⟨0, "0.0"⟩
  reason := "task checker failed to parse decision"

/-- The `try` of `check`. -/
def readDecision (response : JsonResponse) : Except PyExc TaskCheckDecision := do
  let payload ← parseJsonObject reader.ofToken response
  fromPayload reader payload

/-- Whatever is raised in the `try` is an `Exception`. -/
def decisionOn (response : JsonResponse) : TaskCheckDecision :=
  match readDecision reader response with
  | .ok decision => decision
  | .error _ => unreadable

structure LlmTaskChecker (σ : Type u) where
  llmClient : LlmRequest → Computation σ PyExc JsonResponse
  model : String := "task-check-model"
  modelAlias : Option String := none
  apiProtocol : Option String := none

variable (checker : LlmTaskChecker σ)

def LlmTaskChecker.request (prompt : String) : LlmRequest where
  modelAlias := checker.modelAlias
  model := if checker.modelAlias.any (· ≠ "") then none else some checker.model
  apiProtocol := checker.apiProtocol
  messages := [⟨"user", .text prompt⟩]
  responseFormat := some "json_object"
  temperature := .float ⟨0, "0.0"⟩
  metadata := [("checker", .str "llm_task_checker")]

/-- `check`. -/
def LlmTaskChecker.check (request : TaskCheckRequest) : Computation σ PyExc TaskCheckDecision := do
  let response ← checker.llmClient (checker.request (buildPrompt request))
  return decisionOn reader response

end Decision

section Spec

variable (reader : FloatReader) (checker : LlmTaskChecker σ) (request : TaskCheckRequest)

/-- How a request and an answer go through JSON: the prompt ends with a text that is the request,
and an answer that is the text of a decision is that decision. -/
structure Exchanges : Prop where
  shows : Loadable reader.ofToken (.dict (asdict (requestObj request))) → ∃ text,
    buildPrompt request = promptHead ++ text ∧
      loads reader.ofToken text = .ok (canon (.dict (asdict (requestObj request))))
  echoes : ∀ decision : TaskCheckDecision, Loadable reader.ofToken (.dict decision.toDict) →
    ∀ format, Separates format → ∃ text, dumpsInOrder format (.dict decision.toDict) = .ok text ∧
      ∀ s s', checker.llmClient (checker.request (buildPrompt request)) s = (.ok ⟨text, none⟩, s') →
        checker.check reader request s = (.ok decision, s')

end Spec

section Reading

variable {reader : FloatReader} {checker : LlmTaskChecker σ} {request : TaskCheckRequest}

theorem check_of_ok {response : JsonResponse} {s s' : σ}
    (answered : checker.llmClient (checker.request (buildPrompt request)) s = (.ok response, s')) :
    checker.check reader request s = (.ok (decisionOn reader response), s') := by
  rw [LlmTaskChecker.check]
  exact Computation.bind_of_ok answered _

theorem check_of_error {exc : PyExc} {s s' : σ}
    (failed : checker.llmClient (checker.request (buildPrompt request)) s = (.error exc, s')) :
    checker.check reader request s = (.error exc, s') := by
  rw [LlmTaskChecker.check]
  exact Computation.bind_of_error failed _

/-- A decision comes back from its dict. -/
theorem fromPayload_toDict (reader : FloatReader) (decision : TaskCheckDecision) :
    fromPayload reader decision.toDict = .ok decision := by
  obtain ⟨level, route, confidence, reason, refs, summary, hint, input, message, metadata⟩ := decision
  rfl

theorem decisionOn_of_loads {decision : TaskCheckDecision} {text : String}
    (read : loads reader.ofToken text = .ok (.dict decision.toDict)) :
    decisionOn reader ⟨text, none⟩ = decision := by
  have parsed : parseJsonObject reader.ofToken ⟨text, none⟩ = .ok decision.toDict := by
    rw [parseJsonObject]
    dsimp only
    rw [read]
  have own : readDecision reader ⟨text, none⟩ = .ok decision := by
    rw [readDecision, parsed]
    exact fromPayload_toDict reader decision
  rw [decisionOn, own]

/-- What the model is asked can be read off the prompt, and what the model answers can be any
decision. -/
theorem exchanges (reader : FloatReader) (checker : LlmTaskChecker σ) (request : TaskCheckRequest) :
    Exchanges reader checker request := by
  constructor
  · intro json
    refine ⟨_, rfl, ?_⟩
    rw [(inert _ json).stringified]
    exact loads_dumps_sorted separates_unicode json
  · intro decision json format separates
    obtain ⟨text, written⟩ := exists_stringified format (.dict decision.toDict)
    rw [(inert _ json).stringified] at written
    have read := loads_dumps separates json written
    refine ⟨text, written, fun s s' answered => ?_⟩
    rw [check_of_ok answered, decisionOn_of_loads read]

end Reading

end SthBoring.AgentLoop.TaskChecks
