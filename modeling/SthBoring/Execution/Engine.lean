/- Module: SthBoring/Execution/Engine
   source: sdk_test_agent/execution/execution_engine.py
   digest: The serial interpreter of plans, with the trace of its executor calls. -/

import SthBoring.Lib.Loop
import SthBoring.Execution.Models

set_option autoImplicit false
set_option relaxedAutoImplicit false

namespace SthBoring.Execution.Engine

universe u

open SthBoring.Lib.Loop (Flow loop)
open SthBoring.Lib.OrderedDict (PyDict)
open SthBoring.Lib.PyValue (Value Fields PyExc textOr strip)
open SthBoring.Plan.Models (PlanStep ExecutionPlan ReplanRequest StepFailurePolicy)
open SthBoring.Execution.Models

variable {σ : Type u}

/-- The engine's collaborators: the registry, the clock, the source of fresh ids, and
`json.dumps` of a finished run, which raises on outputs it cannot copy or sort. -/
structure ExecutionEngine (σ : Type u) where
  registry : StepExecutorRegistry σ
  timeFunc : σ → ℤ × σ
  uuidHex : σ → String × σ
  dumpSummary : ExecutionRun → PyDict String StepExecutionResult → Except PyExc String

/-- One step of the plan as the loop dealt with it. A called step keeps the context its
executor was given and the result the engine went on with. -/
inductive StepEvent (σ : Type u) where
  | skipped (step : PlanStep)
  | called (step : PlanStep) (context : ExecutionContext σ) (result : StepExecutionResult)

def StepEvent.step : StepEvent σ → PlanStep
  | skipped step => step
  | called step _ _ => step

/-- A persist call together with what the artifact manager answered. -/
abbrev PersistEntry := PersistCall × Except PyExc PersistedRecord

/-- The local variables of `run`, the world, the trace so far, and the engine's own persist
calls so far. -/
structure RunState (σ : Type u) where
  run : ExecutionRun
  stepResults : PyDict String StepExecutionResult
  stepStatus : PyDict String ExecutionStepStatus
  context : ExecutionContext σ
  world : σ
  trace : List (StepEvent σ)
  persists : List PersistEntry

/-- How the loop over the steps is left early. -/
inductive Halt (σ : Type u) where
  | raised (exc : PyExc) (st : RunState σ)
  | stopped (status : ExecutionRunStatus) (summary : String) (replan : Option ReplanRequest)
      (st : RunState σ)

/-- How a run ends. The state is what is left when it does. -/
inductive RunEnd (σ : Type u) where
  | returned (result : ExecutionRunResult) (st : RunState σ)
  | raised (exc : PyExc) (st : RunState σ)

def RunEnd.state : RunEnd σ → RunState σ
  | returned _ st => st
  | raised _ st => st

def newId (engine : ExecutionEngine σ) (pre : String) (w : σ) : String × σ :=
  let (hex, w') := engine.uuidHex w
  (s!"{pre}_{hex}", w')

def createRun (engine : ExecutionEngine σ) (plan : ExecutionPlan) (context : ExecutionContext σ)
    (w : σ) : ExecutionRun × σ :=
  let (startedAt, w') := engine.timeFunc w
  ({ runId := context.runId
     taskId := if context.taskId = "" then plan.taskId else context.taskId
     planId := if context.planId = "" then plan.planId else context.planId
     status := .running
     startedAt := some startedAt
     metadata := [("planner_name", .str plan.plannerName),
       ("planner_version", .str plan.plannerVersion)] }, w')

/-- An id the status map lacks satisfies nothing. -/
def dependenciesSatisfied (step : PlanStep) (stepStatus : PyDict String ExecutionStepStatus) :
    Bool :=
  step.dependsOn.all (fun dep => decide (stepStatus.get dep = some .succeeded))

def markSkippedDueToDependency (engine : ExecutionEngine σ) (step : PlanStep)
    (run : ExecutionRun) (w : σ) : ExecutionStepRun × σ :=
  let (now, w₁) := engine.timeFunc w
  let (stepRunId, w₂) := newId engine "step_run" w₁
  ({ stepRunId := stepRunId
     runId := run.runId
     stepId := step.stepId
     stepKind := step.kind
     status := .skipped
     startedAt := some now
     finishedAt := some now
     durationMs := some 0
     inputsSnapshot := step.inputs
     errorType := some "DependencyNotSatisfied"
     errorMessage := some "one or more dependencies did not succeed" }, w₂)

def startStepRun (engine : ExecutionEngine σ) (step : PlanStep) (run : ExecutionRun) (w : σ) :
    ExecutionStepRun × σ :=
  let (stepRunId, w₁) := newId engine "step_run" w
  let (startedAt, w₂) := engine.timeFunc w₁
  ({ stepRunId := stepRunId
     runId := run.runId
     stepId := step.stepId
     stepKind := step.kind
     status := .running
     startedAt := some startedAt
     inputsSnapshot := step.inputs }, w₂)

/-- The outcome of persisting one text, and the calls it took. -/
structure Persisted (σ : Type u) where
  outcome : Except PyExc (Option String)
  context : ExecutionContext σ
  world : σ
  calls : List PersistEntry

/-- Record the reference of a persisted text under the artifact's name. -/
def noteRef (context : ExecutionContext σ) (name ref : String) : ExecutionContext σ :=
  { context with artifactRefs := context.artifactRefs.set name ref }

/-- The keyword call of the engine. -/
def persistCall (context : ExecutionContext σ) (kind name text mimeType : String) :
    PersistCall :=
  { taskId := context.taskId, stageId := none, kind := kind, name := name
    content := text.toUTF8, subdir := "outputs", mimeType := some mimeType
    createdByAction := some "execution" }

/-- The same call with its first six arguments only, by position. -/
def PersistCall.byPosition (call : PersistCall) : PersistCall :=
  { call with mimeType := none, createdByAction := none, positional := true }

/-- A manager that rejects the keyword call with a TypeError is called again positionally. -/
def persistText (context : ExecutionContext σ) (kind name text mimeType : String) (w : σ) :
    Persisted σ :=
  match context.artifactManager with
  | none => ⟨.ok none, context, w, []⟩
  | some manager =>
    let call := persistCall context kind name text mimeType
    match manager.persistArtifactBytes call w with
    | (.ok record, w₁) =>
      ⟨.ok (some record.ref), noteRef context name record.ref, w₁, [(call, .ok record)]⟩
    | (.error exc, w₁) =>
      if exc.isInstance "TypeError" then
        let call' := PersistCall.byPosition call
        match manager.persistArtifactBytes call' w₁ with
        | (.ok record, w₂) =>
          ⟨.ok (some record.ref), noteRef context name record.ref, w₂,
            [(call, .error exc), (call', .ok record)]⟩
        | (.error exc', w₂) =>
          ⟨.error exc', context, w₂, [(call, .error exc), (call', .error exc')]⟩
      else ⟨.error exc, context, w₁, [(call, .error exc)]⟩

/-- Persist a text a result may lack. -/
def persistOptional (context : ExecutionContext σ) (kind name : String) (text : Option String)
    (w : σ) : Persisted σ :=
  match text with
  | none => ⟨.ok none, context, w, []⟩
  | some t => persistText context kind name t "text/plain" w

/-- The references that are kept: present and not empty. -/
def keptRefs (refs : List (Option String)) : List String :=
  refs.filterMap (fun r => r.bind (fun s => if s = "" then none else some s))

/-- The fields of a step run that are copied from its result, before anything is persisted. -/
def copyResult (stepRun : ExecutionStepRun) (result : StepExecutionResult) (finishedAt : ℤ) :
    ExecutionStepRun :=
  { stepRun with
    finishedAt := some finishedAt
    durationMs := match stepRun.startedAt with
      | some startedAt => some (max 0 (finishedAt - startedAt))
      | none => stepRun.durationMs
    status := result.status
    outputs := result.outputs
    artifactRefs := result.artifactRefs
    errorType := result.errorType
    errorMessage := result.errorMessage
    metadata := result.metadata }

/-- The outcome of `_finish_step_run`: the finished step run and the result with the new
references, or what a persist call raised. -/
structure Finished (σ : Type u) where
  outcome : Except PyExc (ExecutionStepRun × StepExecutionResult)
  context : ExecutionContext σ
  world : σ
  calls : List PersistEntry

def finishStepRun (engine : ExecutionEngine σ) (stepRun : ExecutionStepRun)
    (result : StepExecutionResult) (context : ExecutionContext σ) (w : σ) : Finished σ :=
  let (finishedAt, w₀) := engine.timeFunc w
  let copied := copyResult stepRun result finishedAt
  let out := persistOptional context "exec.stdout" s!"{stepRun.stepId}.stdout.txt" result.stdout w₀
  match out.outcome with
  | .error exc => ⟨.error exc, out.context, out.world, out.calls⟩
  | .ok stdoutRef =>
    let err := persistOptional out.context "exec.stderr" s!"{stepRun.stepId}.stderr.txt"
      result.stderr out.world
    match err.outcome with
    | .error exc => ⟨.error exc, err.context, err.world, out.calls ++ err.calls⟩
    | .ok stderrRef =>
      let log := persistOptional err.context "exec.log" s!"{stepRun.stepId}.log.txt"
        result.logText err.world
      match log.outcome with
      | .error exc => ⟨.error exc, log.context, log.world, out.calls ++ err.calls ++ log.calls⟩
      | .ok logRef =>
        let refs := keptRefs [stdoutRef, stderrRef, logRef]
        ⟨.ok ({ copied with
                stdoutRef := stdoutRef, stderrRef := stderrRef, logRef := logRef
                artifactRefs := copied.artifactRefs ++ refs },
              { result with artifactRefs := result.artifactRefs ++ refs }),
          log.context, log.world, out.calls ++ err.calls ++ log.calls⟩

def resultFromException (exc : PyExc) : StepExecutionResult :=
  { status := .failed, errorType := some exc.className, errorMessage := some exc.message }

/-- `context.step_outputs` as one value. -/
def stepOutputsValue (context : ExecutionContext σ) : Value :=
  .dict (context.stepOutputs.entries.map (fun e => (e.1, .dict e.2)))

def buildReplanRequest (engine : ExecutionEngine σ) (plan : ExecutionPlan) (step : PlanStep)
    (result : StepExecutionResult) (context : ExecutionContext σ) (w : σ) : ReplanRequest × σ :=
  let (createdAt, w') := engine.timeFunc w
  let cause := textOr result.errorType result.status.text
  let detail := textOr result.errorMessage ""
  ({ taskId := if context.taskId = "" then plan.taskId else context.taskId
     parentPlanId := plan.planId
     reason := textOr result.errorMessage s!"step {step.stepId} requested replan"
     failedStepId := some step.stepId
     executionObservations :=
       [strip s!"step {step.stepId} ({step.kind}) failed with {cause}: {detail}"]
     latestEnvReportRef := context.artifactRefs.get "latest_env_report"
     latestArtifactRefs := context.artifactRefs.values
     metadata := [("step_outputs", stepOutputsValue context), ("run_id", .str context.runId)]
     createdAt := some createdAt }, w')

/-- Append a step run to the run's list. -/
def RunState.addStepRun (st : RunState σ) (stepRun : ExecutionStepRun) : RunState σ :=
  { st with run := { st.run with stepRuns := st.run.stepRuns ++ [stepRun] } }

/-- The branch of an unmet dependency. -/
def skipStep (engine : ExecutionEngine σ) (step : PlanStep) (st : RunState σ) : RunState σ :=
  let skipped := markSkippedDueToDependency engine step st.run st.world
  { st.addStepRun skipped.1 with
    stepStatus := st.stepStatus.set step.stepId .skipped
    world := skipped.2
    trace := st.trace ++ [.skipped step] }

/-- The records made of a called step, with the status its step run, its result and the
status map show. -/
def recordStep (step : PlanStep) (st : RunState σ) (status : ExecutionStepStatus)
    (stepRun : ExecutionStepRun) (result : StepExecutionResult) : RunState σ :=
  { st.addStepRun { stepRun with status := status } with
    stepResults := st.stepResults.set step.stepId { result with status := status }
    stepStatus := st.stepStatus.set step.stepId status }

/-- What follows once a step run is finished and recorded. -/
def settleStep (engine : ExecutionEngine σ) (plan : ExecutionPlan) (step : PlanStep)
    (st : RunState σ) (stepRun : ExecutionStepRun) (result : StepExecutionResult) :
    Flow (RunState σ) (Halt σ) :=
  let recorded := recordStep step st result.status stepRun result
  if result.status = .succeeded then
    .next { recorded with
      context := { recorded.context with
        stepOutputs := recorded.context.stepOutputs.set step.stepId result.outputs } }
  else if step.onFailure = .continue' then .next recorded
  else if step.onFailure = .requestReplan then
    let waiting := recordStep step st .waitingReplan stepRun result
    let request := buildReplanRequest engine plan step { result with status := .waitingReplan }
      waiting.context waiting.world
    .exit (.stopped .waitingReplan
      s!"Execution waiting for replan after step {step.stepId}." (some request.1)
      { waiting with world := request.2 })
  else
    -- fallback aborts, like every policy that is not one of the two above
    .exit (.stopped .failed
      s!"Execution failed at step {step.stepId}: {textOr result.errorMessage result.status.text}"
      none recorded)

/-- What the executor of a step leaves. -/
def executeStep (engine : ExecutionEngine σ) (executor : StepExecutor σ) (step : PlanStep)
    (st : RunState σ) : Executed σ :=
  executor.execute step st.context (startStepRun engine step st.run st.world).2

/-- The result the engine goes on with: an exception becomes a failed result. -/
def Executed.result (executed : Executed σ) : StepExecutionResult :=
  match executed.outcome with
  | .ok result => result
  | .error exc => resultFromException exc

def finishCall (engine : ExecutionEngine σ) (executor : StepExecutor σ) (step : PlanStep)
    (st : RunState σ) : Finished σ :=
  let executed := executeStep engine executor step st
  finishStepRun engine (startStepRun engine step st.run st.world).1 (Executed.result executed)
    executed.context executed.world

/-- The state once the executor and the persist calls for its step are done. -/
def afterCall (engine : ExecutionEngine σ) (executor : StepExecutor σ) (step : PlanStep)
    (st : RunState σ) : RunState σ :=
  let finished := finishCall engine executor step st
  { st with
    context := finished.context
    world := finished.world
    trace := st.trace ++
      [.called step st.context (Executed.result (executeStep engine executor step st))]
    persists := st.persists ++ finished.calls }

/-- The branch of a step whose dependencies are satisfied and whose kind has an executor. -/
def callExecutor (engine : ExecutionEngine σ) (plan : ExecutionPlan) (executor : StepExecutor σ)
    (step : PlanStep) (st : RunState σ) : Flow (RunState σ) (Halt σ) :=
  match (finishCall engine executor step st).outcome with
  | .error exc => .exit (.raised exc (afterCall engine executor step st))
  | .ok (stepRun, result) =>
    settleStep engine plan step (afterCall engine executor step st) stepRun result

/-- One turn of the loop over the plan's steps. -/
def runStep (engine : ExecutionEngine σ) (plan : ExecutionPlan) (step : PlanStep)
    (st : RunState σ) : Flow (RunState σ) (Halt σ) :=
  if dependenciesSatisfied step st.stepStatus then
    match engine.registry.get step.kind with
    | .error exc => .exit (.raised exc st)
    | .ok executor => callExecutor engine plan executor step st
  else .next (skipStep engine step st)

def finishArtifactRecording (engine : ExecutionEngine σ) (run : ExecutionRun)
    (stepResults : PyDict String StepExecutionResult) (context : ExecutionContext σ) (w : σ) :
    Persisted σ :=
  match engine.dumpSummary run stepResults with
  | .error exc => ⟨.error exc, context, w, []⟩
  | .ok payload =>
    persistText context "report.json" s!"{run.runId}.execution_summary.json" payload
      "application/json" w

/-- The closing lines shared by the three ways the run returns. -/
def conclude (engine : ExecutionEngine σ) (status : ExecutionRunStatus) (summary : String)
    (replan : Option ReplanRequest) (st : RunState σ) : RunEnd σ :=
  let (finishedAt, w) := engine.timeFunc st.world
  let run := { st.run with
    status := status, finishedAt := some finishedAt, resultSummary := some summary }
  let saved := finishArtifactRecording engine run st.stepResults st.context w
  let st' := { st with
    run := run, context := saved.context, world := saved.world
    persists := st.persists ++ saved.calls }
  match saved.outcome with
  | .error exc => .raised exc st'
  | .ok ref =>
    .returned
      { run := run, status := status, stepResults := st.stepResults, replanRequest := replan
        artifactRefs := keptRefs [ref] } st'

/-- The state in which the loop starts. -/
def initialState (engine : ExecutionEngine σ) (plan : ExecutionPlan)
    (context : ExecutionContext σ) (w : σ) : RunState σ :=
  let created := createRun engine plan context w
  { run := created.1, stepResults := .empty, stepStatus := .empty, context := context
    world := created.2, trace := [], persists := [] }

def succeededSummary (st : RunState σ) : String :=
  s!"Execution succeeded with {st.run.stepRuns.length} step run(s)."

/-- `ExecutionEngine.run`. -/
def run (engine : ExecutionEngine σ) (plan : ExecutionPlan) (context : ExecutionContext σ)
    (w : σ) : RunEnd σ :=
  match loop (runStep engine plan) plan.steps (initialState engine plan context w) with
  | .next st => conclude engine .succeeded (succeededSummary st) none st
  | .exit (.stopped status summary replan st) => conclude engine status summary replan st
  | .exit (.raised exc st) => .raised exc st

section Fakes

/-! The fakes of `tests/test_execution_module.py`, for concrete runs. -/

/-- `FakeExecutor`. -/
def fakeExecutor (stepKind : String) (status : ExecutionStepStatus) : StepExecutor σ where
  stepKind := stepKind
  execute step context w :=
    let failed := status ≠ .succeeded
    ⟨.ok { status := status
           outputs := [("value", .str step.stepId)]
           errorType := if failed then some "FakeFailure" else none
           errorMessage := if failed then some "fake failed" else none }, context, w⟩

/-- `_step`. -/
def fakeStep (stepId kind : String) (dependsOn : List String) (onFailure : StepFailurePolicy) :
    PlanStep where
  stepId := stepId
  title := stepId
  kind := kind
  intent := "test"
  dependsOn := dependsOn
  onFailure := onFailure

/-- `_plan`. -/
def fakePlan (steps : List PlanStep) : ExecutionPlan where
  planId := "plan_1"
  taskId := "task_1"
  taskType := "sdk_deploy"
  goal := "test execution"
  plannerKind := .demo
  plannerName := "test_planner"
  plannerVersion := "v1"
  status := .validated
  steps := steps

/-- `_context`. -/
def fakeContext (artifactManager : Option (ArtifactManager σ)) : ExecutionContext σ where
  taskId := "task_1"
  planId := "plan_1"
  runId := "run_1"
  artifactManager := artifactManager

/-- An engine with a fixed clock. -/
def fakeEngine (executors : List (StepExecutor σ)) : ExecutionEngine σ where
  registry := StepExecutorRegistry.ofExecutors executors
  timeFunc w := (100, w)
  uuidHex w := ("0", w)
  dumpSummary _ _ := .ok "{}"

end Fakes

end SthBoring.Execution.Engine
