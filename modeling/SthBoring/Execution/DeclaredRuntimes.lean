/- Module: SthBoring/Execution/DeclaredRuntimes
   source: sdk_test_agent/execution/step_executors/create_runtime_step_executor.py, _utils.py,
     sdk_test_agent/capability/capability_io_models.py
   digest: Which declared runtimes are created as declared. -/

import SthBoring.Execution.DeclaredWork

set_option autoImplicit false
set_option relaxedAutoImplicit false

namespace SthBoring.Execution.DeclaredRuntimes

universe u

open SthBoring.Lib.Effect (Computation)
open SthBoring.Lib.OrderedDict (PyDict)
open SthBoring.Lib.PyObject
open SthBoring.Lib.PyValue
open SthBoring.Plan.Models
open SthBoring.Capability.CapabilityIoModels
open SthBoring.Execution.DeclaredWork
open SthBoring.Execution.Engine (fakeStep fakeContext)
open SthBoring.Execution.Models
open SthBoring.Execution.StepExecutors
open SthBoring.Execution.StepUtils

variable {σ : Type u}

section Claim

/-- The specs that containers were created of. -/
def createdSpecs (calls : List ServiceCall) : List Value :=
  calls.filterMap fun
    | .createContainer spec _ _ => some spec
    | _ => none

/-- The spec has the image, and the command and the environment where the inputs declare some. -/
structure AsDeclared (inputs : Fields) (spec : Value) : Prop where
  image : attribute? spec "image" = some (inputs.getD "image_ref")
  command : ∀ v, inputs.get "command" = some v → attribute? spec "command" = some v
  env : ∀ v, inputs.get "env" = some v → attribute? spec "environment" = some v

/-- One container was created, as declared. -/
def CreatesDeclared (step : PlanStep) (calls : List ServiceCall) : Prop :=
  ∃ spec, createdSpecs calls = [spec] ∧ AsDeclared step.inputs spec

/-- A manager whose containers are always created. -/
def NeverFails (manager : RuntimeManager σ) : Prop :=
  ∀ spec owner w, ∃ container w', manager.createContainer spec owner w = (.ok container, w')

/-- The spec made for a step with valid inputs. -/
def madeSpec (inputs : Fields) (image : Value) : Value :=
  .obj "ContainerCreateSpec"
    [("image", image), ("command", (inputs.get "command").getD (strings ["sleep", "3600"])),
      ("working_dir", .str "/workspace"), ("environment", .dict []), ("detach", .bool true),
      ("mem_limit", .null), ("nano_cpus", .null), ("network_disabled", .bool false),
      ("read_only", .bool false), ("user", .null), ("auto_remove", .bool false),
      ("labels", .dict [])]

variable {step : PlanStep} {context : ExecutionContext σ} {manager : RuntimeManager σ} {w : σ}

/-- Of the declared keys, none is where the executor looks for an image. -/
theorem imageFor_valid (valid : ValidInputs createRuntimeInput step) :
    imageFor step context = findOutput context "image_id" := by
  have noImage : step.inputs.get "image" = none := get_of_undeclared valid (by decide)
  have noImageId : step.inputs.get "image_id" = none := get_of_undeclared valid (by decide)
  unfold imageFor
  rw [getD_of_none noImage, getD_of_none noImageId]
  rfl

theorem containerSpec_valid (valid : ValidInputs createRuntimeInput step) (image : Value) :
    containerSpec step.inputs image = .ok (madeSpec step.inputs image) := by
  have noSpec : step.inputs.get "container_spec" = none := get_of_undeclared valid (by decide)
  unfold containerSpec
  rw [getD_of_none noSpec]
  rfl

theorem createRuntime_without_image (configured : context.runtimeManager = some manager)
    (valid : ValidInputs createRuntimeInput step)
    (missing : (findOutput context "image_id").truthy = false) :
    ¬ Succeeds createRuntime step context w := by
  rintro ⟨result, ended, success⟩
  unfold createRuntime requiring withContext at ended
  dsimp only at ended
  rw [configured] at ended
  dsimp only at ended
  rw [imageFor_valid valid, missing] at ended
  cases ended
  cases success

/-- What a step does once an earlier one has given an image. -/
theorem createRuntime_with_image (configured : context.runtimeManager = some manager)
    (works : NeverFails manager) (valid : ValidInputs createRuntimeInput step)
    (given : (findOutput context "image_id").truthy = true) :
    Succeeds createRuntime step context w ∧ ∃ container,
      callsOf createRuntime step context w =
        [.createContainer (madeSpec step.inputs (findOutput context "image_id")) context.taskId
          (.ok container)] := by
  have noDeployment : step.inputs.get "create_deployment" = none :=
    get_of_undeclared valid (by decide)
  obtain ⟨container, w', created⟩ := works (madeSpec step.inputs (findOutput context "image_id"))
    context.taskId w
  have ran : ∃ result s', createRuntime step ⟨context, w, []⟩ = (.ok result, s') ∧
      result.status = .succeeded ∧ s'.calls =
        [.createContainer (madeSpec step.inputs (findOutput context "image_id")) context.taskId
          (.ok container)] := by
    unfold createRuntime requiring withContext
    dsimp only
    rw [configured]
    dsimp only
    rw [imageFor_valid valid, given, if_pos rfl, Computation.lift_bind (containerSpec_valid valid _),
      Computation.bind_of_ok (ask_of_ok (s := ⟨context, w, []⟩) created)]
    unfold createDeployment
    rw [getD_of_none noDeployment]
    exact ⟨_, _, rfl, rfl, rfl⟩
  obtain ⟨result, s', ended, success, calls⟩ := ran
  refine ⟨⟨result, congrArg Prod.fst ended, success⟩, container, ?_⟩
  rw [callsOf, ended, calls]

/-- When the spec of such a step is as declared. -/
theorem asDeclared_madeSpec {inputs : Fields} {image : Value} :
    AsDeclared inputs (madeSpec inputs image) ↔
      image = inputs.getD "image_ref" ∧ ∀ v, inputs.get "env" = some v → v = .dict [] := by
  constructor
  · rintro ⟨own, -, env⟩
    refine ⟨Option.some.inj own, fun v declared => ?_⟩
    exact (Option.some.inj (env v declared)).symm
  · rintro ⟨own, env⟩
    refine ⟨congrArg some own, fun v declared => ?_, fun v declared => ?_⟩
    · change some ((inputs.get "command").getD (strings ["sleep", "3600"])) = some v
      rw [declared, Option.getD_some]
    · rw [env v declared]
      rfl

/-- A runtime is created as declared if and only if the newest image among the outputs of earlier
steps is the declared one, which is not empty, and no environment is declared. -/
theorem declared_runtime_iff (configured : context.runtimeManager = some manager)
    (works : NeverFails manager) (valid : ValidInputs createRuntimeInput step) :
    (Succeeds createRuntime step context w ∧
        CreatesDeclared step (callsOf createRuntime step context w)) ↔
      findOutput context "image_id" = step.inputs.getD "image_ref" ∧
        (step.inputs.getD "image_ref").truthy = true ∧
        ∀ env, step.inputs.get "env" = some env → env = .dict [] := by
  cases found : (findOutput context "image_id").truthy with
  | false =>
    refine iff_of_false (fun h => createRuntime_without_image configured valid found h.1) ?_
    rintro ⟨same, given, -⟩
    rw [same, given] at found
    cases found
  | true =>
    obtain ⟨success, container, calls⟩ := createRuntime_with_image (w := w) configured works valid found
    have creates : CreatesDeclared step (callsOf createRuntime step context w) ↔
        AsDeclared step.inputs (madeSpec step.inputs (findOutput context "image_id")) := by
      rw [calls]
      constructor
      · rintro ⟨spec, one, declared⟩
        exact List.head_eq_of_cons_eq one ▸ declared
      · exact fun declared => ⟨_, rfl, declared⟩
    rw [and_iff_right success, creates, asDeclared_madeSpec]
    constructor
    · rintro ⟨same, env⟩
      exact ⟨same, same ▸ found, env⟩
    · rintro ⟨same, -, env⟩
      exact ⟨same, env⟩

end Claim

section Examples

/-- The example that the capability descriptor comes with. -/
def runtimeStep : PlanStep :=
  { fakeStep "create_runtime" PlanStepKind.createRuntime [] .abort with
    inputs := [("image_ref", .str "demo-sdk:latest"), ("start", .bool true)] }

/-- `FakeRuntimeManager`. -/
def fakeRuntimeManager : RuntimeManager Unit where
  createContainer _ _ w := (.ok (.obj "ContainerRecord" [("container_id", .str "c1"),
    ("engine_id", .str "engine_1"), ("metadata_json", .dict [])]), w)
  createDeploymentRecord _ w := (.ok (.obj "DeploymentRecord" [("deployment_id", .str "d1")]), w)

/-- A context in which an earlier step built an image. -/
def builtContext (imageId : String) : ExecutionContext Unit :=
  { fakeContext none with
    runtimeManager := some fakeRuntimeManager
    stepOutputs := (PyDict.empty : PyDict String Fields).set "build" [("image_id", .str imageId)] }

private theorem fakeRuntimeManager_works : NeverFails fakeRuntimeManager :=
  fun _ _ _ => ⟨_, _, rfl⟩

private theorem runtimeStep_valid : ValidInputs createRuntimeInput runtimeStep :=
  ⟨4, by decide +kernel⟩

theorem declared_runtime_demo :
    (Succeeds createRuntime runtimeStep (builtContext "demo-sdk:latest") () ∧
        CreatesDeclared runtimeStep
          (callsOf createRuntime runtimeStep (builtContext "demo-sdk:latest") ())) ↔
      findOutput (builtContext "demo-sdk:latest") "image_id" = runtimeStep.inputs.getD "image_ref" ∧
        (runtimeStep.inputs.getD "image_ref").truthy = true ∧
        ∀ env, runtimeStep.inputs.get "env" = some env → env = .dict [] :=
  declared_runtime_iff rfl fakeRuntimeManager_works runtimeStep_valid

/-- A declared image is replaced by that of an earlier step, and is not found without one. -/
theorem another_image_runs :
    ValidInputs createRuntimeInput runtimeStep ∧ NeverFails fakeRuntimeManager ∧
      (builtContext "sha256:other").runtimeManager = some fakeRuntimeManager ∧
      Succeeds createRuntime runtimeStep (builtContext "sha256:other") () ∧
      ¬ CreatesDeclared runtimeStep
        (callsOf createRuntime runtimeStep (builtContext "sha256:other") ()) ∧
      ¬ Succeeds createRuntime runtimeStep
        { fakeContext none with runtimeManager := some fakeRuntimeManager } () := by
  have configured : (builtContext "sha256:other").runtimeManager = some fakeRuntimeManager := rfl
  obtain ⟨success, container, calls⟩ :=
    createRuntime_with_image (w := ()) configured fakeRuntimeManager_works runtimeStep_valid rfl
  refine ⟨runtimeStep_valid, fakeRuntimeManager_works, rfl, success, ?_,
    createRuntime_without_image rfl runtimeStep_valid rfl⟩
  rw [calls]
  rintro ⟨spec, one, declared⟩
  obtain rfl := List.head_eq_of_cons_eq one
  have same := (asDeclared_madeSpec.mp declared).1
  have equal : "sha256:other" = "demo-sdk:latest" := Value.str.inj same
  exact absurd equal (by decide)

end Examples

end SthBoring.Execution.DeclaredRuntimes
