/- Module: SthBoring/AgentLoop/ServedRuns
   source: sdk_test_agent/agent_loop/nodes.py, capability/builtin_capabilities.py,
     execution/execution_engine.py, execution/step_executors/*.py
   digest: What the agent loop executes has the services that it was admitted for. -/

import SthBoring.AgentLoop.AdmittedExecutions
import SthBoring.Execution.RunRecords
import SthBoring.Execution.ServedCalls
import SthBoring.Plan.ExactAdmission

set_option autoImplicit false
set_option relaxedAutoImplicit false

namespace SthBoring.AgentLoop.ServedRuns

universe u

open SthBoring.Lib.Effect (Computation Returns)
open SthBoring.Lib.PyValue (PyExc)
open SthBoring.Lib.Walk (walk)
open SthBoring.Capability.BuiltinCapabilities
open SthBoring.Capability.CapabilityModels
open SthBoring.Capability.Panel (buildSnapshot)
open SthBoring.Plan.AdmissionSoundness (InputsValid)
open SthBoring.Plan.ExactAdmission
open SthBoring.Plan.Models (ExecutionPlan PlanStep)
open SthBoring.Plan.PlanValidation (Passes)
open SthBoring.Execution.Models
open SthBoring.Execution.Engine
open SthBoring.Execution.RunInvariant (Preserved)
open SthBoring.Execution.RunRecords (KeepsRecords keepsRecords_iff_of_covers)
open SthBoring.Execution.ServedCalls
open SthBoring.Execution.StepExecutors (createDefaultStepExecutorRegistry)
open SthBoring.AgentLoop.AdmittedExecutions
open SthBoring.AgentLoop.BoundedReplanning (unreadableRuntime testState)
open SthBoring.AgentLoop.LoopModels
open SthBoring.AgentLoop.Nodes
open SthBoring.AgentLoop.GraphBuilder

variable {σ : Type u}

section Spec

/-- `run` of an engine, as the loop calls it. -/
def executing (engine : ExecutionEngine σ) (plan : ExecutionPlan) (context : ExecutionContext σ) :
    Computation σ PyExc ExecutionRunResult := fun w =>
  match run engine plan context w with
  | .returned result st => (.ok result, st.world)
  | .raised exc st => (.error exc, st.world)

/-- The engine with the executors of the package. -/
def packaged (engine : ExecutionEngine σ) : ExecutionEngine σ :=
  { engine with registry := createDefaultStepExecutorRegistry }

/-- A runtime with the capabilities and the executors of the package. -/
def builtin (runtime : SdkRuntimeContext σ) (engine : ExecutionEngine σ) : SdkRuntimeContext σ :=
  { runtime with
    capabilityPanel := ⟨builtinRegistry, runtime.capabilityPanel.sha256Hex⟩
    executionEngine := executing (packaged engine)
    metadata := {} }

variable (runtime : SdkRuntimeContext σ) (engine : ExecutionEngine σ)

/-- What an admitted step may count on: a capability of the package that is not reserved, that its
inputs fit, and whose services are bound. -/
def Supplied (step : PlanStep) : Prop :=
  ∃ d ∈ builtinCapabilities, d.stepKind = step.kind ∧ d.isPlaceholder = false ∧
    InputsValid runtime.planValidator step d ∧
    d.requiredContextKeys ⊆ buildAvailableContextKeys runtime.bindings

/-- The run that a walk executes in a position: no call in it is turned down for want of a service,
and only the engine's own records can make it raise. -/
structure RunServed (p : Position σ) (plan : ExecutionPlan) (taskId : String) : Prop where
  calls : ∀ event ∈ (run (packaged engine) plan
      (executionContext p.state runtime taskId (runIdOf p.state)) p.world).state.trace,
    Served (packaged engine) event
  records : KeepsRecords (run (packaged engine) plan
      (executionContext p.state runtime taskId (runIdOf p.state)) p.world) ↔
    Preserved (packaged engine) (run (packaged engine) plan
      (executionContext p.state runtime taskId (runIdOf p.state)) p.world).state

end Spec

section Keys

/-- The nodes behind the opening of the session that lead on. -/
def inRounds : Node → Bool
  | .capabilityResolve | .skillSelect | .plan | .finalize | .validate | .preflight | .execute
  | .taskCheck | .replanContext => true
  | _ => false

theorem entered {node next : Node} (along : next ∈ successors node) (inside : inRounds next = true) :
    node = .envInit ∨ inRounds node = true := by
  cases node with
  | interactionDecision => cases next <;> simp [successors, inRounds] at along inside
  | envInit => exact .inl rfl
  | report | directReturn | refuseReturn | fail | humanInterrupt => cases along
  | _ => exact .inr rfl

variable {runtime : SdkRuntimeContext σ} {state : SdkAgentState} {w : σ} {n : ℕ} {p : Position σ}

/-- No node of a round changes which services are offered. -/
theorem nodes_keys {node : Node} (inside : inRounds node = true) (s : SdkAgentState) :
    Returns (fun s' => s'.availableContextKeys = s.availableContextKeys) (nodes node s runtime) := by
  cases node with
  | capabilityResolve =>
    exact Returns.bind fun _ => Returns.bind fun _ => Returns.bind fun _ => Returns.pure rfl
  | skillSelect => exact Returns.pure rfl
  | plan =>
    refine Returns.bind fun _ => Returns.bind fun _ => Returns.bind fun _ => Returns.bind fun _ => ?_
    exact Returns.pure rfl
  | finalize => exact Returns.bind fun _ => Returns.bind fun _ => Returns.pure rfl
  | validate => exact Returns.bind fun _ => Returns.bind fun _ => Returns.bind fun _ => Returns.pure rfl
  | preflight => exact Returns.bind fun _ => Returns.bind fun _ => Returns.pure rfl
  | execute => exact Returns.bind fun _ => Returns.bind fun _ => Returns.bind fun _ => Returns.pure rfl
  | taskCheck =>
    refine Returns.bind fun _ => Returns.bind fun _ => Returns.bind fun _ => Returns.bind fun _ => ?_
    exact Returns.pure rfl
  | replanContext => exact Returns.pure rfl
  | _ => cases inside

theorem envInit_keys (s : SdkAgentState) : Returns (fun s' => s'.availableContextKeys =
    some (buildAvailableContextKeys runtime.bindings)) (nodes .envInit s runtime) :=
  Returns.bind fun _ => Returns.pure rfl

/-- In every round, the services offered are those that are bound. -/
theorem offered_bound (runtime : SdkRuntimeContext σ) (state : SdkAgentState) (w : σ) (n : ℕ) :
    ∀ p node, inRounds node = true → Stands runtime (startPosition state w) n p (.before node) →
      p.state.availableContextKeys = some (buildAvailableContextKeys runtime.bindings) := by
  induction n with
  | zero =>
    intro p node inside stands
    cases Option.some.inj stands.1
    cases stands.2
    cases inside
  | succ n ih =>
    intro p node inside stands
    have later : node ≠ .interactionDecision := by
      rintro rfl
      cases inside
    obtain ⟨m, q, before, same, there, ran, along⟩ := arrived_later stands later
    obtain rfl := Nat.succ.inj same
    rcases entered (mem_successors along) inside with rfl | within
    · exact (envInit_keys q.state).of_ok ran
    · exact ((nodes_keys within q.state).of_ok ran).trans (ih q before within there)

end Keys

section Results

variable {runtime : SdkRuntimeContext σ} {engine : ExecutionEngine σ} {state : SdkAgentState} {w : σ}
  {n : ℕ} {p : Position σ}

/-- Without a factory, a snapshot is asked for with the services that the state says are offered. -/
theorem request_keys {s : SdkAgentState} {request : BuildCapabilitySnapshotInput} {v v' : σ}
    (asked : capabilityInput s (builtin runtime engine) v = (.ok request, v')) :
    request.availableContextKeys = s.availableContextKeys.getD [] := by
  obtain ⟨made, v₁, first, asked⟩ := Computation.ok_of_bind asked
  cases first
  obtain ⟨taskId, v₂, -, asked⟩ := Computation.ok_of_bind asked
  obtain ⟨taskType, v₃, -, asked⟩ := Computation.ok_of_bind asked
  cases asked
  rfl

/-- A step that the registry of the package has something for is supplied with what it asks for. -/
theorem supplied_of_grounded {request : BuildCapabilitySnapshotInput} {step : PlanStep}
    (grounded : Grounded runtime.planValidator builtinRegistry request step)
    (keys : request.availableContextKeys = buildAvailableContextKeys runtime.bindings) :
    Supplied runtime step := by
  cases grounded with
  | cleared d listed kind cleared inputs declared own =>
    rw [listAll_builtinRegistry] at listed
    have real : d.isPlaceholder = false := (enabled_iff listed).mp cleared.defaultEnabled
    exact ⟨d, listed, kind, real, inputs, keys ▸ cleared.context⟩
  | tolerated d listed kind withdrawn allowed lenient =>
    rw [listAll_builtinRegistry] at listed
    exact absurd withdrawn.deprecated (by simp [not_deprecated listed])

theorem supplied (stands : Stands (builtin runtime engine) (startPosition state w) n p
    (.before .execute)) : ∃ plan, Admitted (builtin runtime engine) (startPosition state w) n p plan ∧
      ∀ step ∈ plan.steps, Supplied runtime step := by
  obtain ⟨m, q₁, q₂, q₃, q₄, q₅, q₆, -, round⟩ := round_of_execute stands
  obtain ⟨request, v, hex, asked, resolved⟩ := capabilityResolveNode_ok round.resolved
  obtain ⟨-, plan, -, -, admission⟩ := admitted stands
  obtain ⟨checkedAt, checked, valid, passed⟩ := admission.validated
  have bound : q₁.state.availableContextKeys = some (buildAvailableContextKeys runtime.bindings) :=
    offered_bound (builtin runtime engine) state w m q₁ .capabilityResolve rfl round.resolves
  have keys : request.availableContextKeys = buildAvailableContextKeys runtime.bindings := by
    rw [request_keys asked, bound]
    rfl
  have snapshot : snapshotFor p.state (builtin runtime engine) =
      some (buildSnapshot (builtin runtime engine).capabilityPanel request hex) :=
    round.snapshot.trans resolved
  rw [snapshot] at valid
  have passes : Passes runtime.planValidator plan
      (some (buildSnapshot (builtin runtime engine).capabilityPanel request hex)) :=
    ⟨checkedAt, checked, valid, passed⟩
  obtain ⟨admissible, -⟩ := passes_iff_admissible.mp passes
  exact ⟨plan, admission, fun step mem => supplied_of_grounded (admissible.grounded step mem) keys⟩

theorem contextKeys_executionContext (s : SdkAgentState) (runtime : SdkRuntimeContext σ)
    (taskId runId : String) : contextKeys (executionContext s runtime taskId runId) =
      buildAvailableContextKeys runtime.bindings := by
  unfold contextKeys executionContext buildAvailableContextKeys
  rw [Option.isSome_map]

/-- What is supplied is served, and its kind has an executor. -/
theorem runServed_of_supplied {plan : ExecutionPlan} (taskId : String)
    (supplied : ∀ step ∈ plan.steps, Supplied runtime step) :
    RunServed runtime engine p plan taskId := by
  constructor
  · refine run_served rfl (fun step mem => ?_)
    obtain ⟨d, listed, kind, real, -, bound⟩ := supplied step mem
    rw [contextKeys_executionContext]
    exact ⟨d, listed, kind, (enabled_iff listed).mpr real, bound⟩
  · refine keepsRecords_iff_of_covers _ _ _ _ (fun step mem => ?_)
    obtain ⟨d, listed, kind, real, -, -⟩ := supplied step mem
    exact kind ▸ stepKind_supported listed ((enabled_iff listed).mpr real)

/-- A loop that plans to inspect a package, with an inspector bound. -/
def inspectingRuntime : SdkRuntimeContext Unit :=
  { unreadableRuntime with
    bindings := { packageInspector := some ⟨fun _ w => (.ok .null, w)⟩ }
    planFinalizer := fun _ _ => pure (fakePlan [fakeStep "s1" "inspect_package" [] .abort])
    supportedStepKinds := ["inspect_package"] }

end Results

end SthBoring.AgentLoop.ServedRuns
