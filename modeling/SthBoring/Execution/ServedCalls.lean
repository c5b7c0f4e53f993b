/- Module: SthBoring/Execution/ServedCalls
   source: sdk_test_agent/execution/step_executors/*.py, execution_engine.py,
     capability/builtin_capabilities.py
   digest: Which services the executors cannot do without, and the runs that have them. -/

import SthBoring.Capability.BuiltinCapabilities
import SthBoring.Execution.ExecutorSpecs
import SthBoring.Execution.ReachedSteps

set_option autoImplicit false
set_option relaxedAutoImplicit false

namespace SthBoring.Execution.ServedCalls

universe u

open SthBoring.Lib.Effect (Computation Returns)
open SthBoring.Lib.Loop (Flow)
open SthBoring.Lib.PyValue (PyExc Value Fields)
open SthBoring.Capability.BuiltinCapabilities
open SthBoring.Capability.CapabilityModels (CapabilityDescriptor)
open SthBoring.Plan.Models
open SthBoring.Execution.Models
open SthBoring.Execution.Engine
open SthBoring.Execution.RunInvariant
open SthBoring.Execution.WorldInvariant
open SthBoring.Execution.ReachedSteps (leave_trace)
open SthBoring.Execution.StepUtils
open SthBoring.Execution.StepExecutors
open SthBoring.Execution.ExecutorSpecs

variable {σ : Type u}

section Spec

/-- The services of a context, by their context keys. -/
def contextKeys (c : ExecutionContext σ) : List String :=
  [("artifact_manager", c.artifactManager.isSome),
    ("runtime_manager", c.runtimeManager.isSome),
    ("docker_driver", c.dockerDriver.isSome),
    ("command_controller", c.commandController.isSome),
    ("package_inspector", c.packageInspector.isSome),
    ("env_inspector", c.envInspector.isSome)].filterMap
      (fun entry => if entry.2 then some entry.1 else none)

/-- What an executor answers for want of a service. -/
def TurnedDown (outcome : Except PyExc StepExecutionResult) : Prop :=
  ∃ result, outcome = .ok result ∧ result.errorType = some "MissingDependency"

/-- Whatever world the executor finds, it does not turn this call down. -/
def Served (engine : ExecutionEngine σ) : StepEvent σ → Prop
  | .skipped _ => True
  | .called step c _ => ∀ executor, engine.registry.get step.kind = .ok executor →
    ∀ w, ¬ TurnedDown (executor.execute step c w).outcome

end Spec

section Needs

/-- A result that is not for want of a service. -/
def OwnResult (result : StepExecutionResult) : Prop := result.errorType ≠ some "MissingDependency"

theorem turnedDown_requiring_iff {τ : Type u} {service : ExecutionContext σ → Option τ}
    {name : String} {body : τ → Executing σ StepExecutionResult}
    (own : ∀ found, Returns OwnResult (body found)) (s : Working σ) :
    TurnedDown (requiring service name body s).1 ↔ service s.context = none := by
  unfold requiring
  cases configured : service s.context with
  | none => exact iff_of_true ⟨_, rfl, rfl⟩ rfl
  | some found =>
    refine iff_of_false ?_ (by simp)
    rintro ⟨result, returned, missing⟩
    exact (own found).of_ok (Prod.ext returned rfl) missing

variable (step : PlanStep)

theorem turnedDown_buildImage (s : Working σ) :
    TurnedDown (buildImage step s).1 ↔ s.context.dockerDriver = none := by
  refine turnedDown_requiring_iff (fun driver => ?_) s
  refine Returns.bind (fun spec => Returns.bind (fun result => Returns.bind (fun logs => ?_)))
  refine Returns.bind (fun outputs => Returns.bind (fun ref => Returns.pure ?_))
  simp [OwnResult]

theorem turnedDown_createRuntime (s : Working σ) :
    TurnedDown (createRuntime step s).1 ↔ s.context.runtimeManager = none := by
  refine turnedDown_requiring_iff (fun manager => Returns.withContext (fun context => ?_)) s
  split
  · refine Returns.bind (fun spec => Returns.bind (fun container => Returns.bind (fun _ => ?_)))
    refine Returns.bind (fun deployment => Returns.pure ?_)
    simp [OwnResult]
  · refine Returns.pure ?_
    simp [OwnResult, failedResult]

theorem turnedDown_inspectEnvironment (s : Working σ) :
    TurnedDown (inspectEnvironment step s).1 ↔ s.context.envInspector = none := by
  refine turnedDown_requiring_iff (fun inspector => Returns.withContext (fun context => ?_)) s
  split
  · refine Returns.bind (fun report => Returns.bind (fun ref => Returns.bind (fun _ => ?_)))
    refine Returns.pure ?_
    simp [OwnResult]
  · refine Returns.pure ?_
    simp [OwnResult, failedResult]

theorem turnedDown_inspectPackage (s : Working σ) :
    TurnedDown (inspectPackage step s).1 ↔ s.context.packageInspector = none := by
  refine turnedDown_requiring_iff (fun inspector => Returns.withContext (fun context => ?_)) s
  dsimp only
  split
  · refine Returns.bind (fun report => Returns.bind (fun ref => Returns.pure ?_))
    simp [OwnResult]
  · refine Returns.pure ?_
    simp [OwnResult, failedResult]

theorem turnedDown_runCommand (s : Working σ) :
    TurnedDown (runCommand step s).1 ↔ s.context.commandController = none := by
  refine turnedDown_requiring_iff (fun controller => ?_) s
  refine Returns.bind (fun given => Returns.bind (fun response => Returns.bind (fun run => ?_)))
  refine Returns.bind (fun stdout => Returns.bind (fun stderr => Returns.pure ?_))
  dsimp only [OwnResult]
  split <;> simp

theorem turnedDown_executeProbe (s : Working σ) :
    TurnedDown (executeProbe step s).1 ↔ s.context.commandController = none := by
  refine turnedDown_requiring_iff (fun controller => ?_) s
  refine Returns.bind (fun probes => Returns.bind (fun runs => Returns.bind (fun ref => ?_)))
  refine Returns.bind (fun stdout => Returns.bind (fun stderr => Returns.pure ?_))
  dsimp only [OwnResult]
  split <;> simp

theorem turnedDown_collectArtifact (s : Working σ) :
    TurnedDown (collectArtifact step s).1 ↔ s.context.artifactManager = none := by
  refine turnedDown_requiring_iff (fun manager => ?_) s
  refine Returns.bind (fun items => Returns.bind (fun refs => Returns.bind (fun ref => ?_)))
  refine Returns.pure ?_
  simp [OwnResult]

end Needs

section Builtin

variable {d : CapabilityDescriptor} {executor : StepExecutor σ}

/-- The context keys that a capability of the package declares are exactly the services that its
executor cannot do without. -/
theorem turnedDown_iff (mem : d ∈ builtinCapabilities) (enabled : d.defaultEnabled = true)
    (known : createDefaultStepExecutorRegistry.get d.stepKind = .ok executor) (step : PlanStep)
    (c : ExecutionContext σ) (w : σ) :
    TurnedDown (executor.execute step c w).outcome ↔ ¬ d.requiredContextKeys ⊆ contextKeys c := by
  obtain ⟨body, listed, rfl⟩ := get_default known
  change TurnedDown (body step ⟨c, w, []⟩).1 ↔ _
  simp only [builtinCapabilities, List.mem_cons, List.not_mem_nil, or_false] at mem
  rcases mem with rfl | rfl | rfl | rfl | rfl | rfl | rfl | rfl | rfl | rfl | rfl
  · rw [show body = inspectPackage from body_of_kind listed rfl, turnedDown_inspectPackage]
    cases found : c.packageInspector <;> simp [inspectPackageCapability, contextKeys, found]
  · rw [show body = buildImage from body_of_kind listed rfl, turnedDown_buildImage]
    cases found : c.dockerDriver <;> simp [buildImageCapability, contextKeys, found]
  · rw [show body = createRuntime from body_of_kind listed rfl, turnedDown_createRuntime]
    cases found : c.runtimeManager <;> simp [createRuntimeCapability, contextKeys, found]
  · rw [show body = inspectEnvironment from body_of_kind listed rfl, turnedDown_inspectEnvironment]
    cases found : c.envInspector <;> simp [inspectEnvironmentCapability, contextKeys, found]
  · rw [show body = runCommand from body_of_kind listed rfl, turnedDown_runCommand]
    cases found : c.commandController <;> simp [runCommandCapability, contextKeys, found]
  · rw [show body = executeProbe from body_of_kind listed rfl, turnedDown_executeProbe]
    cases found : c.commandController <;> simp [executeProbeCapability, contextKeys, found]
  · rw [show body = collectArtifact from body_of_kind listed rfl, turnedDown_collectArtifact]
    cases found : c.artifactManager <;> simp [collectArtifactCapability, contextKeys, found]
  · cases enabled
  · cases enabled
  · cases enabled
  · cases enabled

theorem stepKind_supported (mem : d ∈ builtinCapabilities) (enabled : d.defaultEnabled = true) :
    d.stepKind ∈ (createDefaultStepExecutorRegistry (σ := σ)).supportedStepKinds := by
  have kinds : (createDefaultStepExecutorRegistry (σ := σ)).supportedStepKinds =
      ["inspect_package", "build_image", "create_runtime", "inspect_environment", "run_command",
        "execute_probe", "collect_artifact", "generate_script", "run_test", "summarize_report"] := rfl
  have all : ∀ d ∈ builtinCapabilities, d.defaultEnabled = true → d.stepKind ∈
      ["inspect_package", "build_image", "create_runtime", "inspect_environment", "run_command",
        "execute_probe", "collect_artifact", "generate_script", "run_test", "summarize_report"] := by
    decide
  rw [kinds]
  exact all d mem enabled

end Builtin

section Runs

variable {engine : ExecutionEngine σ} {steps : List PlanStep} {I : ExecutionContext σ → σ → Prop}
  {step : PlanStep} {st : RunState σ}

/-- Every call is one for a step of the plan, in a context with the property. -/
def CallsHold (steps : List PlanStep) (I : ExecutionContext σ → σ → Prop)
    (trace : List (StepEvent σ)) : Prop :=
  ∀ step c result, .called step c result ∈ trace → step ∈ steps ∧ ∃ w, I c w

theorem callsHold_skipped {trace : List (StepEvent σ)} (calls : CallsHold steps I trace) :
    CallsHold steps I (trace ++ [.skipped step]) := by
  intro called c result mem
  rcases List.mem_append.mp mem with old | new
  · exact calls called c result old
  · cases List.mem_singleton.mp new

theorem callsHold_called {trace : List (StepEvent σ)} (calls : CallsHold steps I trace)
    (mem : step ∈ steps) (holds : Has I st) (result : StepExecutionResult) :
    CallsHold steps I (trace ++ [.called step st.context result]) := by
  intro called c result' mem'
  rcases List.mem_append.mp mem' with old | new
  · exact calls called c result' old
  · cases List.mem_singleton.mp new
    exact ⟨mem, st.world, holds⟩

theorem callsHold_turn {flow : Flow (RunState σ) (Halt σ)} (turn : Turn engine step st flow)
    (mem : step ∈ steps) (holds : Has I st) (calls : CallsHold steps I st.trace) :
    flow.Holds (fun st' => CallsHold steps I st'.trace)
      (fun halt => CallsHold steps I (haltState halt).trace) := by
  cases turn with
  | skipped unmet => exact callsHold_skipped calls
  | unknown met exc missing => exact calls
  | raised met executor known exc refused => exact callsHold_called calls mem holds _
  | succeeded executor stepRun result call success => exact callsHold_called calls mem holds _
  | continued executor stepRun result call failure policy => exact callsHold_called calls mem holds _
  | waiting executor stepRun result call failure policy request w later =>
    exact callsHold_called calls mem holds _
  | failed executor stepRun result call failure policy policy' summary =>
    exact callsHold_called calls mem holds _

/-- What a run keeps is there at each of its calls. -/
theorem run_callsHold {plan : ExecutionPlan} {context : ExecutionContext σ} {w : σ}
    (kept : Kept engine plan.steps context.runId I) (start : I context w) :
    CallsHold plan.steps I (run engine plan context w).state.trace := by
  rcases run_rule engine plan context w
    (fun _ st => Has I st ∧ CallsHold plan.steps I st.trace)
    ⟨kept.clock _ _ start, fun step c result mem => by cases mem⟩
    (fun done step rest st st' split inv turn =>
      ⟨kept.turn inv.1 (by simp [split]) turn,
        callsHold_turn turn (by simp [split]) inv.1 inv.2⟩) with
    ⟨st, inv, ended⟩ | ⟨done, step, rest, st, halt, split, inv, turn, ended⟩
  · rw [ended, conclude_trace]
    exact inv.2
  · rw [ended, leave_trace]
    exact callsHold_turn turn (show step ∈ plan.steps by simp [split]) inv.1 inv.2

theorem contextKeys_of_sameButRefs {c c' : ExecutionContext σ} (same : SameButRefs c c') :
    contextKeys c' = contextKeys c := by
  obtain ⟨artifactRefs, runtimeRefs, rfl⟩ := same
  rfl

/-- A run with the default executors takes no service away. -/
theorem contextKeys_kept (default : engine.registry = createDefaultStepExecutorRegistry)
    (steps : List PlanStep) (runId : String) (keys : List String) :
    Kept engine steps runId (fun c _ => contextKeys c = keys) where
  clock _ _ h := h
  ids _ _ h := h
  executor step _ executor known c w h := by
    rw [default] at known
    obtain ⟨body, listed, rfl⟩ := get_default known
    have same := (keepsButRefs_default step listed c).after (s := ⟨c, w, []⟩) (.refl c)
    exact (contextKeys_of_sameButRefs same).trans h
  persist _ _ _ _ h _ _ := h
  refs _ _ _ h := h
  outputs _ _ _ h := h

/-- Steps of enabled capabilities, in a context that has what these declare: nothing is turned down
for want of a service. -/
theorem run_served (default : engine.registry = createDefaultStepExecutorRegistry)
    {plan : ExecutionPlan} {context : ExecutionContext σ} {w : σ}
    (declared : ∀ step ∈ plan.steps, ∃ d ∈ builtinCapabilities, d.stepKind = step.kind ∧
      d.defaultEnabled = true ∧ d.requiredContextKeys ⊆ contextKeys context) :
    ∀ event ∈ (run engine plan context w).state.trace, Served engine event := by
  intro event mem
  cases event with
  | skipped step => exact trivial
  | called step c result =>
    have kept := contextKeys_kept default plan.steps context.runId (contextKeys context)
    obtain ⟨inPlan, -, keys⟩ := run_callsHold kept rfl step c result mem
    obtain ⟨d, listed, kind, enabled, has⟩ := declared step inPlan
    intro executor known w'
    rw [default, ← kind] at known
    rw [turnedDown_iff listed enabled known, not_not, keys]
    exact has

end Runs

end SthBoring.Execution.ServedCalls
