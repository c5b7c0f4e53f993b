/- Module: SthBoring/Execution/Models
   source: sdk_test_agent/execution/execution_enums.py, execution_models.py,
     execution_context.py, execution_errors.py, step_executor_base.py, step_executor_registry.py
   digest: Run records, the services an execution talks to, and the executor registry. -/

import Mathlib.Data.List.Induction
import SthBoring.Plan.Models

set_option autoImplicit false
set_option relaxedAutoImplicit false

namespace SthBoring.Execution.Models

universe u

open SthBoring.Lib.OrderedDict (PyDict)
open SthBoring.Lib.PyValue (Value Fields PyExc textOr)
open SthBoring.Plan.Models (PlanStep ReplanRequest)

inductive ExecutionRunStatus where
  | created | running | succeeded | failed | cancelled | waitingReplan
  deriving DecidableEq, Repr

/-- A step status is a plain string; `other` is any text outside the enumeration. -/
inductive ExecutionStepStatus where
  | pending | running | succeeded | failed | skipped | cancelled | waitingReplan
  | other (text : String)
  deriving DecidableEq, Repr

def ExecutionStepStatus.text : ExecutionStepStatus → String
  | pending => "pending"
  | running => "running"
  | succeeded => "succeeded"
  | failed => "failed"
  | skipped => "skipped"
  | cancelled => "cancelled"
  | waitingReplan => "waiting_replan"
  | other s => s

structure ExecutionStepRun where
  stepRunId : String
  runId : String
  stepId : String
  stepKind : String
  status : ExecutionStepStatus
  startedAt : Option ℤ := none
  finishedAt : Option ℤ := none
  durationMs : Option ℤ := none
  inputsSnapshot : Fields := []
  outputs : Fields := []
  artifactRefs : List String := []
  stdoutRef : Option String := none
  stderrRef : Option String := none
  logRef : Option String := none
  errorType : Option String := none
  errorMessage : Option String := none
  metadata : Fields := []

structure ExecutionRun where
  runId : String
  taskId : String
  planId : String
  status : ExecutionRunStatus
  startedAt : Option ℤ := none
  finishedAt : Option ℤ := none
  stepRuns : List ExecutionStepRun := []
  resultSummary : Option String := none
  metadata : Fields := []

structure StepExecutionResult where
  status : ExecutionStepStatus
  outputs : Fields := []
  artifactRefs : List String := []
  stdout : Option String := none
  stderr : Option String := none
  logText : Option String := none
  errorType : Option String := none
  errorMessage : Option String := none
  metadata : Fields := []

structure ExecutionRunResult where
  run : ExecutionRun
  status : ExecutionRunStatus
  stepResults : PyDict String StepExecutionResult := .empty
  replanRequest : Option ReplanRequest := none
  artifactRefs : List String := []
  metadata : Fields := []

/-- The arguments of one `persist_artifact_bytes` call. The fallback call of the engine is
positional and leaves the two optional arguments out. -/
structure PersistCall where
  taskId : String
  stageId : Option String
  kind : String
  name : String
  content : ByteArray
  subdir : String
  mimeType : Option String := none
  createdByAction : Option String := none
  positional : Bool := false

/-- What the callers read off a persisted record: two attributes it may lack, and `str(record)`. -/
structure PersistedRecord where
  artifactId : Option String
  storagePath : Option String
  text : String

/-- `getattr(record, "artifact_id", None) or getattr(record, "storage_path", None) or str(record)`. -/
def PersistedRecord.ref (r : PersistedRecord) : String :=
  textOr r.artifactId (textOr r.storagePath r.text)

/-- An artifact manager over a world `σ`: a persist call returns a record or raises,
and leaves a new world behind either way. -/
structure ArtifactManager (σ : Type u) where
  persistArtifactBytes : PersistCall → σ → Except PyExc PersistedRecord × σ

/-- The other services take and return Python objects; an object's attributes are its fields. -/
structure DockerDriver (σ : Type u) where
  buildImage : Value → σ → Except PyExc Value × σ

structure RuntimeManager (σ : Type u) where
  createContainer : Value → String → σ → Except PyExc Value × σ
  createDeploymentRecord : Fields → σ → Except PyExc Value × σ

structure CommandController (σ : Type u) where
  executeAction : Value → Fields → σ → Except PyExc Fields × σ

structure PackageInspector (σ : Type u) where
  inspectJavaPackage : Value → σ → Except PyExc Value × σ

structure EnvInspector (σ : Type u) where
  inspectDockerEnv : Value → σ → Except PyExc Value × σ

structure ExecutionContext (σ : Type u) where
  taskId : String
  planId : String
  runId : String
  artifactManager : Option (ArtifactManager σ) := none
  runtimeManager : Option (RuntimeManager σ) := none
  dockerDriver : Option (DockerDriver σ) := none
  commandController : Option (CommandController σ) := none
  packageInspector : Option (PackageInspector σ) := none
  envInspector : Option (EnvInspector σ) := none
  contextVariables : Fields := []
  stepOutputs : PyDict String Fields := .empty
  artifactRefs : PyDict String String := .empty
  runtimeRefs : PyDict String Value := .empty
  metadata : Fields := []

/-- A call of an executor: its result or what it raised, with the context and the world it
leaves. An executor hands out a result object of its own at each call. -/
structure Executed (σ : Type u) where
  outcome : Except PyExc StepExecutionResult
  context : ExecutionContext σ
  world : σ

structure StepExecutor (σ : Type u) where
  stepKind : String
  execute : PlanStep → ExecutionContext σ → σ → Executed σ

/-- The executors under their kinds; registering a kind again replaces its executor. -/
structure StepExecutorRegistry (σ : Type u) where
  executors : PyDict String (StepExecutor σ) := .empty

variable {σ : Type u}

def executionUnsupportedStepKindError (stepKind : String) : PyExc :=
  ⟨"ExecutionUnsupportedStepKindError", ["ExecutionError", "Exception"],
    s!"unsupported execution step kind: {stepKind}"⟩

namespace StepExecutorRegistry

def register (r : StepExecutorRegistry σ) (executor : StepExecutor σ) : StepExecutorRegistry σ :=
  ⟨r.executors.set executor.stepKind executor⟩

def get (r : StepExecutorRegistry σ) (stepKind : String) : Except PyExc (StepExecutor σ) :=
  match r.executors.get stepKind with
  | some executor => .ok executor
  | none => .error (executionUnsupportedStepKindError stepKind)

def supportedStepKinds (r : StepExecutorRegistry σ) : List String := r.executors.keys

/-- The registry has an executor for the kind of every step. -/
def Covers (r : StepExecutorRegistry σ) (steps : List PlanStep) : Prop :=
  ∀ step ∈ steps, step.kind ∈ r.supportedStepKinds

theorem get_of_covers {r : StepExecutorRegistry σ} {steps : List PlanStep} (h : r.Covers steps)
    {step : PlanStep} (hs : step ∈ steps) : ∃ executor, r.get step.kind = .ok executor := by
  have known := h step hs
  cases hg : r.executors.get step.kind with
  | none => exact absurd known ((r.executors.get_eq_none_iff step.kind).mp hg)
  | some executor => exact ⟨executor, by simp only [get, hg]⟩

/-- A registry filled by registering executors in turn. -/
def ofExecutors (executors : List (StepExecutor σ)) : StepExecutorRegistry σ :=
  executors.foldl register ⟨.empty⟩

theorem get_register (r : StepExecutorRegistry σ) (executor : StepExecutor σ) (stepKind : String) :
    (r.register executor).get stepKind =
      if executor.stepKind = stepKind then .ok executor else r.get stepKind := by
  simp only [get, register, PyDict.get_set]
  by_cases h : executor.stepKind = stepKind
  · rw [if_pos h, if_pos h]
  · rw [if_neg h, if_neg h]

/-- What such a registry finds under a kind is one of its executors, and has that kind. -/
theorem get_ofExecutors_spec {executors : List (StepExecutor σ)} {stepKind : String}
    {executor : StepExecutor σ} (h : (ofExecutors executors).get stepKind = .ok executor) :
    executor ∈ executors ∧ executor.stepKind = stepKind := by
  induction executors using List.reverseRecOn with
  | nil => cases h
  | append_singleton executors last ih =>
    rw [ofExecutors, List.foldl_append] at h
    change ((ofExecutors executors).register last).get stepKind = .ok executor at h
    rw [get_register] at h
    by_cases hk : last.stepKind = stepKind
    · rw [if_pos hk] at h
      cases h
      exact ⟨List.mem_append_right executors (List.mem_singleton.mpr rfl), hk⟩
    · rw [if_neg hk] at h
      obtain ⟨mem, same⟩ := ih h
      exact ⟨List.mem_append_left [last] mem, same⟩

theorem mem_of_get_ofExecutors {executors : List (StepExecutor σ)} {stepKind : String}
    {executor : StepExecutor σ} (h : (ofExecutors executors).get stepKind = .ok executor) :
    executor ∈ executors :=
  (get_ofExecutors_spec h).1

end StepExecutorRegistry

end SthBoring.Execution.Models
