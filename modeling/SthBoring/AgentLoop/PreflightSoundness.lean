/- Module: SthBoring/AgentLoop/PreflightSoundness
   source: sdk_test_agent/agent_loop/preflight.py, cmd_ctrl/dispatcher.py,
     execution/step_executors/run_command_step_executor.py, execute_probe_step_executor.py
   digest: What a passed preflight says of the actions that a run dispatches. -/

import SthBoring.AgentLoop.Preflight
import SthBoring.CmdCtrl.Controller
import SthBoring.Execution.ExecutorSpecs
import SthBoring.Execution.ReachedSteps

set_option autoImplicit false
set_option relaxedAutoImplicit false

namespace SthBoring.AgentLoop.PreflightSoundness

universe u

open SthBoring.Lib.Effect (Computation Keeps)
open SthBoring.Lib.OrderedDict (PyDict assocGet assocGet_eq_none_iff mem_of_assocGet)
open SthBoring.Lib.PyObject
open SthBoring.Lib.PyValue
open SthBoring.Plan.Models
open SthBoring.Execution.Models (StepExecutorRegistry StepExecutor StepExecutionResult
  ExecutionContext)
open SthBoring.Execution.Engine
open SthBoring.Execution.ExecutorSpecs (body_of_kind keepsButRefs_default)
open SthBoring.Execution.ReachedSteps
open SthBoring.Execution.WorldInvariant (Kept)
open SthBoring.Execution.StepUtils
open SthBoring.Execution.StepExecutors
open SthBoring.CmdCtrl.Controller
open SthBoring.AgentLoop.Preflight

variable {σ : Type u}

section Registry

abbrev Body (σ : Type u) : Type u := PlanStep → Executing σ StepExecutionResult

/-- A registry of executors whose calls are on record, registered in this order. -/
def registryOf (bodies : List (String × Body σ)) : StepExecutorRegistry σ :=
  StepExecutorRegistry.ofExecutors (bodies.map fun e => executorOf e.1 e.2)

/-- What was registered last under a kind. -/
def bodyFor (bodies : List (String × Body σ)) (kind : String) : Option (Body σ) :=
  assocGet kind bodies.reverse

theorem get_registryOf (bodies : List (String × Body σ)) (kind : String) :
    (registryOf bodies).get kind = match bodyFor bodies kind with
      | some body => .ok (executorOf kind body)
      | none => (StepExecutorRegistry.mk .empty).get kind := by
  induction bodies using List.reverseRecOn with
  | nil => rfl
  | append_singleton bodies last ih =>
    have step : registryOf (bodies ++ [last]) =
        (registryOf bodies).register (executorOf last.1 last.2) := by
      unfold registryOf StepExecutorRegistry.ofExecutors
      rw [List.map_append, List.foldl_append]
      rfl
    have found : bodyFor (bodies ++ [last]) kind =
        if last.1 = kind then some last.2 else bodyFor bodies kind := by
      unfold bodyFor
      rw [List.reverse_append]
      rfl
    rw [step, StepExecutorRegistry.get_register, found, ih]
    by_cases same : last.1 = kind
    · rw [if_pos (show (executorOf last.1 last.2).stepKind = kind from same), if_pos same, same]
    · rw [if_neg (show ¬ (executorOf last.1 last.2).stepKind = kind from same), if_neg same]

theorem get_of_bodyFor {bodies : List (String × Body σ)} {kind : String} {body : Body σ}
    (found : bodyFor bodies kind = some body) :
    (registryOf bodies).get kind = .ok (executorOf kind body) := by
  rw [get_registryOf, found]

theorem mem_of_bodyFor {bodies : List (String × Body σ)} {kind : String} {body : Body σ}
    (found : bodyFor bodies kind = some body) : (kind, body) ∈ bodies := by
  have mem := mem_of_assocGet found
  exact List.mem_reverse.mp mem

end Registry

section Dispatch

/-- The dispatcher's operators as preflight looks at them; without a controller there are none. -/
def operatorsOf : Option (CommandController σ) → Value
  | none => .dict []
  | some c => .dict (c.dispatcher.operators.keys.map fun name => (name, .obj "BaseOperator" []))

/-- The controller raised ActionDispatchError, for an action without an operator. -/
def UnknownAction (controller : Option (CommandController σ)) (call : ServiceCall) : Prop :=
  ∃ c action payload, controller = some c ∧
    call = .executeAction action payload (.error (actionDispatchError action)) ∧
    c.dispatcher.operatorFor action = .error (actionDispatchError action)

/-- An operator that preflight found is one that the dispatcher finds. -/
theorem operatorFor_of_contains {c : CommandController σ} {action : Value}
    (contained : (operatorsOf (some c)).contains action = .ok true) :
    ∃ op, c.dispatcher.operatorFor action = .ok op := by
  unfold operatorsOf Value.contains at contained
  cases action with
  | str name =>
    have listed : (assocGet name (c.dispatcher.operators.keys.map fun name =>
        (name, Value.obj "BaseOperator" []))).isSome = true := Except.ok.inj contained
    have known : c.dispatcher.operators.get name ≠ none := by
      intro missing
      rw [(assocGet_eq_none_iff name _).mpr] at listed
      · cases listed
      · rw [List.map_map]
        have absent := (PyDict.get_eq_none_iff _ name).mp missing
        simpa using absent
    obtain ⟨op, found⟩ := Option.ne_none_iff_exists'.mp known
    refine ⟨op, ?_⟩
    unfold ActionDispatcher.operatorFor
    dsimp only
    rw [found]
  | _ => simp [Value.hashable] at contained

/-- A dispatch of this action gets as far as the dispatcher, which has no operator for it. -/
def Unanswered (c : CommandController σ) (action : Value) : Prop :=
  c.checkAction action = .ok () ∧
    c.dispatcher.operatorFor action = .error (actionDispatchError action)

/-- A call that the controller answered, for an action that names no path. -/
theorem unknownAction_iff {c : CommandController σ} {action : Value}
    (noPath : memberOf action ["write_file", "collect_artifacts"] = .ok false) (payload : Fields)
    (w : σ) : UnknownAction (some c)
      (.executeAction action payload (c.executeAction action payload w).1) ↔ Unanswered c action := by
  constructor
  · rintro ⟨c', action', payload', same, call, unknown⟩
    cases same
    obtain ⟨rfl, rfl, answered⟩ := ServiceCall.executeAction.inj call
    exact ⟨(CommandController.executeAction_unknown_iff noPath unknown payload w).mp answered,
      unknown⟩
  · rintro ⟨passes, unknown⟩
    have answered := (CommandController.executeAction_unknown_iff noPath unknown payload w).mpr passes
    exact ⟨c, action, payload, rfl, by rw [answered], unknown⟩

end Dispatch

section Executors

variable {step : PlanStep} {context : ExecutionContext σ} {w : σ} {c : CommandController σ}

/-- A property of the calls that persisting something cannot break. -/
def BearsPersisting (C : List ServiceCall → Prop) : Prop :=
  ∀ calls call answer, C calls → C (calls ++ [.persistArtifactBytes call answer])

theorem bearsPersisting_forall {Q : ServiceCall → Prop}
    (h : ∀ call answer, Q (.persistArtifactBytes call answer)) :
    BearsPersisting (fun calls => ∀ call ∈ calls, Q call) := by
  intro calls call answer all made mem
  rcases List.mem_append.mp mem with old | new
  · exact all made old
  · exact List.mem_singleton.mp new ▸ h call answer

/-- The call goes to the command controller. -/
def isAction : ServiceCall → Bool
  | .executeAction _ _ _ => true
  | _ => false

def NoAction (calls : List ServiceCall) : Prop := ∀ call ∈ calls, isAction call = false

theorem NoAction.unknown {calls : List ServiceCall} (none : NoAction calls)
    (controller : Option (CommandController σ)) : ∀ call ∈ calls, ¬ UnknownAction controller call := by
  rintro call mem ⟨c, action, payload, _, rfl, _⟩
  cases none _ mem

/-- The computation makes no call to the command controller. -/
abbrev NeverActs {α : Type} (m : Executing σ α) : Prop := Keeps (fun s => NoAction s.calls) m

theorem neverActs_ask {α : Type} {entry : Except PyExc α → ServiceCall}
    (other : ∀ answer, isAction (entry answer) = false) (service : σ → Except PyExc α × σ) :
    NeverActs (ask entry service) :=
  Keeps.ask_all (Q := fun call => isAction call = false) other service

theorem neverActs_persistText (kind name text : String) (mimeType : Option String) :
    NeverActs (persistText (σ := σ) kind name text mimeType) :=
  persistText_calls (bearsPersisting_forall fun _ _ => rfl) kind name text mimeType

theorem neverActs_inspectPackage (step : PlanStep) : NeverActs (inspectPackage (σ := σ) step) := by
  refine Keeps.requiring (fun inspector => Keeps.withContext (fun context => ?_))
  dsimp only
  split
  · refine Keeps.bind (neverActs_ask (fun _ => rfl) _) (fun report => ?_)
    exact Keeps.bind (neverActs_persistText _ _ _ _) (fun ref => Keeps.pure _)
  · exact Keeps.pure _

theorem neverActs_buildImage (step : PlanStep) : NeverActs (buildImage (σ := σ) step) := by
  refine Keeps.requiring (fun driver => ?_)
  refine Keeps.bind (Keeps.lift _) (fun spec => ?_)
  refine Keeps.bind (neverActs_ask (fun _ => rfl) _) (fun result => ?_)
  refine Keeps.bind (Keeps.lift _) (fun logs => ?_)
  refine Keeps.bind (Keeps.lift _) (fun outputs => ?_)
  exact Keeps.bind (neverActs_persistText _ _ _ _) (fun ref => Keeps.pure _)

theorem neverActs_createDeployment (manager : Execution.Models.RuntimeManager σ) (taskId : String)
    (inputs : Fields) (image containerId : Value) :
    NeverActs (createDeployment manager taskId inputs image containerId) := by
  unfold createDeployment
  split
  · refine Keeps.bind (Keeps.lift _) (fun kwargs => ?_)
    exact Keeps.bind (neverActs_ask (fun _ => rfl) _) (fun deployment => Keeps.pure _)
  · exact Keeps.pure _

theorem neverActs_createRuntime (step : PlanStep) : NeverActs (createRuntime (σ := σ) step) := by
  refine Keeps.requiring (fun manager => Keeps.withContext (fun context => ?_))
  split
  · refine Keeps.bind (Keeps.lift _) (fun spec => ?_)
    refine Keeps.bind (neverActs_ask (fun _ => rfl) _) (fun container => ?_)
    refine Keeps.bind (Keeps.modify (fun _ none => none)) (fun _ => ?_)
    exact Keeps.bind (neverActs_createDeployment _ _ _ _ _) (fun deployment => Keeps.pure _)
  · exact Keeps.pure _

theorem neverActs_inspectEnvironment (step : PlanStep) :
    NeverActs (inspectEnvironment (σ := σ) step) := by
  refine Keeps.requiring (fun inspector => Keeps.withContext (fun context => ?_))
  split
  · refine Keeps.bind (neverActs_ask (fun _ => rfl) _) (fun report => ?_)
    refine Keeps.bind (neverActs_persistText _ _ _ _) (fun ref => Keeps.bind ?_ (fun _ => Keeps.pure _))
    cases keptRefs [ref] with
    | nil => exact Keeps.pure ()
    | cons first rest => exact Keeps.modify (fun _ none => none)
  · exact Keeps.pure _

theorem neverActs_collectArtifact (step : PlanStep) : NeverActs (collectArtifact (σ := σ) step) := by
  refine Keeps.requiring (fun manager => ?_)
  refine Keeps.bind (Keeps.lift _) (fun items => ?_)
  refine Keeps.bind (Keeps.each (fun item _ => ?_)) (fun refs => ?_)
  · exact Keeps.bind (Keeps.lift _) (fun found => neverActs_persistText _ _ _ _)
  · refine Keeps.bind (Keeps.withContext (fun context => ?_)) (fun ref => Keeps.pure _)
    exact neverActs_persistText _ _ _ _

/-- Of the executors of the default registry only two dispatch actions. -/
theorem neverActs_default {kind : String} {body : Body σ} (mem : (kind, body) ∈ defaultBodies)
    (notCommand : kind ≠ PlanStepKind.runCommand) (notProbe : kind ≠ PlanStepKind.executeProbe)
    (step : PlanStep) : NeverActs (body step) := by
  simp only [defaultBodies, List.mem_cons, Prod.mk.injEq, List.not_mem_nil, or_false] at mem
  rcases mem with ⟨_, rfl⟩ | ⟨_, rfl⟩ | ⟨_, rfl⟩ | ⟨_, rfl⟩ | ⟨same, _⟩ | ⟨same, _⟩ | ⟨_, rfl⟩ |
    ⟨_, rfl⟩ | ⟨_, rfl⟩ | ⟨_, rfl⟩
  · exact neverActs_inspectPackage step
  · exact neverActs_buildImage step
  · exact neverActs_createRuntime step
  · exact neverActs_inspectEnvironment step
  · exact absurd same notCommand
  · exact absurd same notProbe
  · exact neverActs_collectArtifact step
  · exact Keeps.pure _
  · exact Keeps.pure _
  · exact Keeps.pure _

theorem noAction_default {kind : String} {body : Body σ} (mem : (kind, body) ∈ defaultBodies)
    (notCommand : kind ≠ PlanStepKind.runCommand) (notProbe : kind ≠ PlanStepKind.executeProbe)
    (step : PlanStep) (w : σ) : NoAction (callsOf body step context w) :=
  (neverActs_default mem notCommand notProbe step).after (List.forall_mem_nil _)

/-- Without the service that it requires an executor makes no call. -/
theorem callsOf_requiring {τ : Type u} {service : ExecutionContext σ → Option τ} (name : String)
    (body : PlanStep → τ → Executing σ StepExecutionResult) (missing : service context = none)
    (step : PlanStep) (w : σ) :
    callsOf (fun step => requiring service name (body step)) step context w = [] := by
  unfold callsOf requiring
  dsimp only
  rw [missing]

/-- The action of a command, by default an inspection. -/
def commandAction (step : PlanStep) : Value := (step.inputs.get "action").getD (.str "inspect_exec")

/-- The payload of a command, where it is a dict. -/
def CommandPayload (step : PlanStep) (payload : Fields) : Prop :=
  dictOf ((step.inputs.get "payload").getD (.dict [])) = .ok payload

/-- A command dispatches its action once, if it has a payload to dispatch. -/
theorem runCommand_calls (configured : context.commandController = some c.service)
    (step : PlanStep) (w : σ) :
    (∃ payload, CommandPayload step payload ∧ callsOf runCommand step context w =
      [.executeAction (commandAction step) (renameCmd payload)
        (c.executeAction (commandAction step) (renameCmd payload) w).1]) ∨
    ((¬ ∃ payload, CommandPayload step payload) ∧ callsOf runCommand step context w = []) := by
  unfold callsOf runCommand requiring
  dsimp only
  rw [configured]
  dsimp only
  cases given : dictOf ((step.inputs.get "payload").getD (.dict [])) with
  | error exc =>
    refine .inr ⟨?_, rfl⟩
    rintro ⟨payload, found⟩
    cases given.symm.trans found
  | ok payload =>
    refine .inl ⟨payload, given, ?_⟩
    rw [Computation.lift_bind rfl]
    refine calls_of_ask_bind (s := ⟨context, w, []⟩) (C := fun calls => calls = _) rfl ?_
    intro response
    refine Keeps.bind (Keeps.lift _) fun run => Keeps.bind (Keeps.lift _) fun stdout => ?_
    exact Keeps.bind (Keeps.lift _) fun stderr => Keeps.pure _

/-- The first probe of a step can be turned into a command line. -/
def ReadableProbe (step : PlanStep) : Prop :=
  ∃ probe probes argv, probesOf step.inputs = .ok (probe :: probes) ∧ probeArgv probe = .ok argv

/-- A call of the controller is an inspection, and has the answer that the controller gave. -/
def InspectsOnly (c : CommandController σ) (call : ServiceCall) : Prop :=
  isAction call = true → ∃ payload w, call =
    .executeAction (.str "inspect_exec") payload (c.executeAction (.str "inspect_exec") payload w).1

theorem runProbe_inspects (c : CommandController σ) (timeoutSec : Option ℤ) (probe : Value) :
    Keeps (fun s => ∀ call ∈ s.calls, InspectsOnly c call) (runProbe c.service timeoutSec probe) := by
  refine Keeps.bind (Keeps.lift _) (fun argv => ?_)
  refine Keeps.bind (Keeps.ask_answered (fun w _ => ?_)) (fun response => Keeps.lift _)
  exact ⟨_, w, rfl⟩

/-- Behind its probes a probing step only persists what they gave. -/
private theorem executeProbe_eq (configured : context.commandController = some c.service)
    {probes : List Value} (found : probesOf step.inputs = .ok probes) (w : σ) :
    ∃ k : List CommandRun → Executing σ StepExecutionResult,
      (∀ C, BearsPersisting C → ∀ runs, Keeps (fun s => C s.calls) (k runs)) ∧
      executeProbe step ⟨context, w, []⟩ =
        (Computation.each (runProbe c.service step.timeoutSec) probes >>= k) ⟨context, w, []⟩ := by
  unfold executeProbe requiring
  dsimp only
  rw [configured]
  dsimp only
  rw [Computation.lift_bind found]
  refine ⟨_, fun C bears runs => ?_, rfl⟩
  refine Keeps.bind (persistText_calls bears _ _ _ _) (fun ref => ?_)
  exact Keeps.bind (Keeps.lift _) fun stdout => Keeps.bind (Keeps.lift _) fun stderr => Keeps.pure _

/-- Where the probes of a step cannot be read it makes no call. -/
private theorem executeProbe_unread (configured : context.commandController = some c.service)
    {exc : PyExc} (found : probesOf step.inputs = .error exc) (w : σ) :
    callsOf executeProbe step context w = [] := by
  unfold callsOf executeProbe requiring
  dsimp only
  rw [configured, found]
  rfl

theorem executeProbe_inspects (configured : context.commandController = some c.service)
    (step : PlanStep) (w : σ) : ∀ call ∈ callsOf executeProbe step context w, InspectsOnly c call := by
  cases found : probesOf step.inputs with
  | error exc =>
    rw [executeProbe_unread configured found w]
    exact List.forall_mem_nil _
  | ok probes =>
    obtain ⟨k, persists, same⟩ := executeProbe_eq configured found w
    unfold callsOf
    rw [same]
    refine Keeps.after (I := fun s : Working σ => ∀ call ∈ s.calls, InspectsOnly c call) ?_
      (List.forall_mem_nil _)
    refine Keeps.bind (Keeps.each (fun probe _ => runProbe_inspects c _ probe)) (fun runs => ?_)
    exact persists _ (bearsPersisting_forall (fun _ _ => nofun)) runs

/-- A probe that can be read is dispatched. -/
theorem executeProbe_first (configured : context.commandController = some c.service)
    (readable : ReadableProbe step) (w : σ) : ∃ payload,
      .executeAction (.str "inspect_exec") payload
        (c.executeAction (.str "inspect_exec") payload w).1 ∈ callsOf executeProbe step context w := by
  obtain ⟨probe, probes, argv, found, read⟩ := readable
  obtain ⟨k, persists, same⟩ := executeProbe_eq configured found w
  have kept : ∀ (call : ServiceCall), BearsPersisting (fun calls => call ∈ calls) :=
    fun call calls persist answer mem => List.mem_append_left _ mem
  unfold callsOf
  rw [same]
  simp only [Computation.each, runProbe, bind_assoc]
  rw [Computation.lift_bind read]
  refine ⟨_, calls_of_ask_bind (s := ⟨context, w, []⟩) (C := fun calls => _ ∈ calls)
    List.mem_cons_self (fun response => ?_)⟩
  refine Keeps.bind (Keeps.lift _) (fun run => ?_)
  refine Keeps.bind (Keeps.each (fun probe _ => ?_)) (fun runs => persists _ (kept _) _)
  refine Keeps.bind (Keeps.lift _) (fun argv => ?_)
  exact Keeps.bind (Keeps.ask_mem _ _ _) (fun response => Keeps.lift _)

/-- Without a probe that can be read nothing is dispatched. -/
theorem executeProbe_noAction (configured : context.commandController = some c.service)
    (unreadable : ¬ ReadableProbe step) (w : σ) : NoAction (callsOf executeProbe step context w) := by
  cases found : probesOf step.inputs with
  | error exc =>
    rw [executeProbe_unread configured found w]
    exact List.forall_mem_nil _
  | ok probes =>
    obtain ⟨k, persists, same⟩ := executeProbe_eq configured found w
    unfold callsOf
    rw [same]
    cases probes with
    | nil =>
      have none : Computation.each (runProbe c.service step.timeoutSec) [] ⟨context, w, []⟩ =
        (.ok [], ⟨context, w, []⟩) := rfl
      rw [Computation.bind_of_ok none]
      exact (persists NoAction (bearsPersisting_forall (fun _ _ => rfl)) []).after
        (List.forall_mem_nil _)
    | cons probe probes =>
      cases read : probeArgv probe with
      | ok argv => exact absurd ⟨probe, probes, argv, found, read⟩ unreadable
      | error exc =>
        have raised : Computation.each (runProbe c.service step.timeoutSec) (probe :: probes)
            ⟨context, w, []⟩ = (.error exc, ⟨context, w, []⟩) := by
          simp only [Computation.each, runProbe, bind_assoc, read]
          rfl
        rw [Computation.bind_of_error raised]
        exact List.forall_mem_nil _

end Executors

section Claim

variable {bodies : List (String × Body σ)} {engine : ExecutionEngine σ}
  {controller : Option (CommandController σ)} {plan : ExecutionPlan}
  {context : ExecutionContext σ} {w : σ}

/-- A step that the run calls, with what the registry has for it, while the context holds the
controller that preflight looked at. -/
structure Called (bodies : List (String × Body σ)) (engine : ExecutionEngine σ)
    (controller : Option (CommandController σ)) (plan : ExecutionPlan) (context : ExecutionContext σ)
    (w : σ) (step : PlanStep) (body : Body σ) (st : RunState σ) : Prop where
  comes : ∃ i, ComesTo engine plan context w i step st
  met : dependenciesSatisfied step st.stepStatus = true
  registered : bodyFor bodies step.kind = some body
  holds : st.context.commandController = controller.map CommandController.service

/-- The calls that its executor makes there. -/
def callsAt (engine : ExecutionEngine σ) (step : PlanStep) (body : Body σ) (st : RunState σ) :
    List ServiceCall :=
  callsOf body step st.context (startStepRun engine step st.run st.world).2

/-- No step of the run lacks an executor, and no call of its steps ends in ActionDispatchError for
an unknown action. -/
structure Sound (bodies : List (String × Body σ)) (engine : ExecutionEngine σ)
    (controller : Option (CommandController σ)) (plan : ExecutionPlan) (context : ExecutionContext σ)
    (w : σ) : Prop where
  executors : ∀ i step st, ComesTo engine plan context w i step st →
    ∃ body, bodyFor bodies step.kind = some body ∧
      engine.registry.get step.kind = .ok (executorOf step.kind body)
  actions : ∀ step body st, Called bodies engine controller plan context w step body st →
    ∀ call ∈ callsAt engine step body st, ¬ UnknownAction controller call

/-- What preflight leaves open about a step. A command that names no action and has a payload, and
a step with a probe that can be read, dispatch an action that preflight did not look at. Executors
from elsewhere may dispatch anything. -/
structure Foreseen (controller : Option (CommandController σ)) (step : PlanStep) (body : Body σ)
    (calls : List ServiceCall) : Prop where
  command : step.kind = PlanStepKind.runCommand → body = runCommand →
    step.inputs.getD "action" = .null → (∃ payload, CommandPayload step payload) →
    ∀ c, controller = some c → ¬ Unanswered c (commandAction step)
  probe : step.kind = PlanStepKind.executeProbe → body = executeProbe → ReadableProbe step →
    ∀ c, controller = some c → ¬ Unanswered c (.str "inspect_exec")
  other : (step.kind, body) ∉ defaultBodies → ∀ call ∈ calls, ¬ UnknownAction controller call

/-- Preflight names the action of a command, or the command names none. -/
theorem commandAction_of_null {step : PlanStep} (unnamed : step.inputs.getD "action" = .null) :
    commandAction step = .str "inspect_exec" ∨ commandAction step = .null := by
  unfold commandAction
  unfold Fields.getD at unnamed
  cases found : step.inputs.get "action" with
  | none => exact .inl rfl
  | some v =>
    rw [found] at unnamed
    exact .inr unnamed

/-- Without a controller nothing is dispatched. -/
theorem default_idle {step : PlanStep} {body : Body σ} (mem : (step.kind, body) ∈ defaultBodies)
    (missing : context.commandController = none) (w : σ) : NoAction (callsOf body step context w) := by
  by_cases command : step.kind = PlanStepKind.runCommand
  · rw [command] at mem
    obtain rfl := body_of_kind mem rfl
    have idle : callsOf runCommand step context w = [] := callsOf_requiring _ _ missing step w
    rw [idle]
    exact List.forall_mem_nil _
  · by_cases probe : step.kind = PlanStepKind.executeProbe
    · rw [probe] at mem
      obtain rfl := body_of_kind mem rfl
      have idle : callsOf executeProbe step context w = [] := callsOf_requiring _ _ missing step w
      rw [idle]
      exact List.forall_mem_nil _
    · exact noAction_default mem command probe step w

/-- What preflight found out about the action of a command. -/
def Checked (controller : Option (CommandController σ)) (step : PlanStep) : Prop :=
  step.kind = PlanStepKind.runCommand → step.inputs.getD "action" ≠ .null →
    (operatorsOf controller).contains (step.inputs.getD "action") = .ok true

/-- A command whose action is known to the dispatcher. -/
theorem runCommand_known {c : CommandController σ} {step : PlanStep}
    (configured : context.commandController = some c.service)
    (contained : (operatorsOf (some c)).contains (commandAction step) = .ok true) (w : σ) :
    ∀ call ∈ callsOf runCommand step context w, ¬ UnknownAction (some c) call := by
  obtain ⟨op, found⟩ := operatorFor_of_contains contained
  intro call mem
  rintro ⟨c', action, payload, same, rfl, unknown⟩
  cases same
  rcases runCommand_calls configured step w with ⟨payload', _, calls⟩ | ⟨_, calls⟩
  · rw [calls] at mem
    obtain ⟨rfl, _⟩ := ServiceCall.executeAction.inj (List.mem_singleton.mp mem)
    cases found.symm.trans unknown
  · rw [calls] at mem
    cases mem

theorem commandAction_of_named {step : PlanStep} (named : step.inputs.getD "action" ≠ .null) :
    commandAction step = step.inputs.getD "action" := by
  unfold commandAction
  unfold Fields.getD at named ⊢
  cases found : step.inputs.get "action" with
  | none =>
    rw [found] at named
    exact absurd rfl named
  | some v => rfl

/-- A command without a named action dispatches an unknown one exactly when it has a payload and
nothing answers its action. -/
theorem runCommand_unknown_iff {c : CommandController σ} {step : PlanStep}
    (configured : context.commandController = some c.service)
    (unnamed : step.inputs.getD "action" = .null) (w : σ) :
    (∀ call ∈ callsOf runCommand step context w, ¬ UnknownAction (some c) call) ↔
      ((∃ payload, CommandPayload step payload) → ¬ Unanswered c (commandAction step)) := by
  have noPath : memberOf (commandAction step) ["write_file", "collect_artifacts"] = .ok false := by
    rcases commandAction_of_null unnamed with same | same
    · rw [same]
      decide
    · rw [same]
      decide
  rcases runCommand_calls configured step w with ⟨payload, given, calls⟩ | ⟨none, calls⟩
  · rw [calls, List.forall_mem_singleton, unknownAction_iff noPath]
    exact ⟨fun known _ => known, fun known => known ⟨payload, given⟩⟩
  · rw [calls]
    exact ⟨fun _ given => absurd given none, fun _ => List.forall_mem_nil _⟩

/-- A probing step dispatches an unknown action exactly when it has a probe that can be read and
nothing answers an inspection. -/
theorem executeProbe_unknown_iff {c : CommandController σ} {step : PlanStep}
    (configured : context.commandController = some c.service) (w : σ) :
    (∀ call ∈ callsOf executeProbe step context w, ¬ UnknownAction (some c) call) ↔
      (ReadableProbe step → ¬ Unanswered c (.str "inspect_exec")) := by
  have noPath : memberOf (.str "inspect_exec") ["write_file", "collect_artifacts"] = .ok false := by
    decide
  constructor
  · intro known readable
    obtain ⟨payload, mem⟩ := executeProbe_first configured readable w
    have clean := known _ mem
    rwa [unknownAction_iff noPath] at clean
  · intro answered call mem unknown
    by_cases readable : ReadableProbe step
    · have acts : isAction call = true := by
        obtain ⟨c', action, payload, _, rfl, _⟩ := unknown
        rfl
      obtain ⟨payload, w', rfl⟩ := executeProbe_inspects configured step w call mem acts
      exact answered readable ((unknownAction_iff noPath payload w').mp unknown)
    · exact (executeProbe_noAction configured readable w).unknown _ call mem unknown

/-- The step lemma: what preflight checked of a step is all it needs, but for what it left open. -/
theorem foreseen_iff {step : PlanStep} (checked : Checked controller step) {body : Body σ}
    (holds : context.commandController = controller.map CommandController.service) (w : σ) :
    (∀ call ∈ callsOf body step context w, ¬ UnknownAction controller call) ↔
      Foreseen controller step body (callsOf body step context w) := by
  constructor
  · intro known
    refine ⟨fun kind same unnamed given c found => ?_, fun kind same readable c found => ?_,
      fun _ => known⟩
    · subst same found
      exact (runCommand_unknown_iff holds unnamed w).mp known given
    · subst same found
      exact (executeProbe_unknown_iff holds w).mp known readable
  · intro foreseen
    by_cases mem : (step.kind, body) ∈ defaultBodies
    · cases controller with
      | none => exact (default_idle mem holds w).unknown none
      | some c =>
        by_cases command : step.kind = PlanStepKind.runCommand
        · rw [command] at mem
          obtain rfl := body_of_kind mem rfl
          by_cases unnamed : step.inputs.getD "action" = .null
          · rw [runCommand_unknown_iff holds unnamed]
            exact fun given => foreseen.command command rfl unnamed given c rfl
          · have contained := checked command unnamed
            rw [← commandAction_of_named unnamed] at contained
            exact runCommand_known holds contained w
        · by_cases probe : step.kind = PlanStepKind.executeProbe
          · rw [probe] at mem
            obtain rfl := body_of_kind mem rfl
            rw [executeProbe_unknown_iff holds]
            exact fun readable => foreseen.probe probe rfl readable c rfl
          · have idle : NoAction (callsOf body step context w) :=
              noAction_default mem command probe step w
            exact idle.unknown (some c)
    · exact foreseen.other mem

/-- In a registry of the default executors, every step finds the controller in its context. -/
theorem holds_of_default (registered : engine.registry = registryOf bodies)
    (default : ∀ e ∈ bodies, e ∈ defaultBodies)
    (holds : context.commandController = controller.map CommandController.service) {i : ℕ}
    {step : PlanStep} {st : RunState σ} (comes : ComesTo engine plan context w i step st) :
    st.context.commandController = controller.map CommandController.service := by
  have kept : Kept engine plan.steps context.runId
      (fun c _ => c.commandController = controller.map CommandController.service) := by
    refine ⟨fun _ _ h => h, fun _ _ h => h, ?_, fun _ _ _ _ h _ _ => h, fun _ _ _ h => h,
      fun _ _ _ h => h⟩
    intro step' _ executor known c w' h
    rw [registered, get_registryOf] at known
    cases found : bodyFor bodies step'.kind with
    | none =>
      rw [found] at known
      cases known
    | some body =>
      rw [found] at known
      cases known
      obtain ⟨artifactRefs, runtimeRefs, same⟩ :=
        (keepsButRefs_default step' (default _ (mem_of_bodyFor found)) c).after
          (s := ⟨c, w', []⟩) (.refl c)
      change (body step' ⟨c, w', []⟩).2.context.commandController = _
      rw [same]
      exact h
  exact comes.keeps kept holds

/-- Every step of a plan that passes has the executor of its kind. -/
theorem executor_of_passed (registered : engine.registry = registryOf bodies)
    {result : PreflightResult} {operators : Value}
    (checked : runPreflight plan.steps engine.registry.supportedStepKinds operators = .ok result)
    (passed : result.passed = true) {step : PlanStep} (mem : step ∈ plan.steps) :
    ∃ body, bodyFor bodies step.kind = some body ∧
      engine.registry.get step.kind = .ok (executorOf step.kind body) := by
  obtain ⟨executor, known⟩ :=
    StepExecutorRegistry.get_of_covers (covers_of_passed checked passed) mem
  rw [registered] at known ⊢
  cases found : bodyFor bodies step.kind with
  | some body => exact ⟨body, rfl, get_of_bodyFor found⟩
  | none =>
    rw [get_registryOf, found] at known
    cases known

/-- Where preflight passes, every step has its executor; and no call ends in ActionDispatchError for
an unknown action, in any run, exactly when the steps that are called meet what preflight leaves
open. With the default executors the controller is the same at every step. -/
theorem preflight_sound_iff (registered : engine.registry = registryOf bodies)
    {result : PreflightResult} (checked : runPreflight plan.steps engine.registry.supportedStepKinds
      (operatorsOf controller) = .ok result) (passed : result.passed = true)
    (context : ExecutionContext σ)
    (holds : context.commandController = controller.map CommandController.service) (w : σ) :
    (Sound bodies engine controller plan context w ↔
      ∀ step body st, Called bodies engine controller plan context w step body st →
        Foreseen controller step body (callsAt engine step body st)) ∧
    ((∀ e ∈ bodies, e ∈ defaultBodies) → ∀ i step st, ComesTo engine plan context w i step st →
      st.context.commandController = controller.map CommandController.service) := by
  have clear : ∀ step ∈ plan.steps, Checked controller step :=
    fun step mem command named => known_of_passed checked passed mem command named
  have listed : ∀ {i step st}, ComesTo engine plan context w i step st → step ∈ plan.steps :=
    fun comes => List.mem_of_getElem? comes.listed
  refine ⟨⟨?_, ?_⟩, fun default i step st comes => holds_of_default registered default holds comes⟩
  · intro sound step body st called
    obtain ⟨i, comes⟩ := called.comes
    exact (foreseen_iff (clear step (listed comes)) called.holds _).mp
      (sound.actions step body st called)
  · intro foreseen
    refine ⟨fun i step st comes => ?_, fun step body st called => ?_⟩
    · exact executor_of_passed registered checked passed (listed comes)
    · obtain ⟨i, comes⟩ := called.comes
      exact (foreseen_iff (clear step (listed comes)) called.holds _).mpr
        (foreseen step body st called)

end Claim

section Examples

/-! A probe and a command that leave their action to the executors. -/

def probeStep : PlanStep :=
  { fakeStep "step_001" PlanStepKind.executeProbe [] .abort with inputs := [("probe", .str "pwd")] }

def unnamedStep : PlanStep :=
  { fakeStep "step_002" PlanStepKind.runCommand [] .abort with
    inputs := [("payload", .dict [("cmd", strings ["pwd"])])] }

def defaultingPlan : ExecutionPlan := fakePlan [probeStep, unnamedStep]

def defaultEngine : ExecutionEngine Unit :=
  { fakeEngine [] with registry := createDefaultStepExecutorRegistry }

def controllerWith (operators : PyDict String (Operator Unit)) : CommandController Unit :=
  { dispatcher := ⟨operators⟩ }

def contextWith (operators : PyDict String (Operator Unit)) : ExecutionContext Unit :=
  { fakeContext none with commandController := some (controllerWith operators).service }

def inspectOperators : PyDict String (Operator Unit) :=
  PyDict.set .empty "inspect_exec" (fun _ s => (.ok [("exit_code", .int 0)], s))

/-- With the one operator that they dispatch, nothing is unknown. -/
theorem preflight_sound_inspecting :
    Sound defaultBodies defaultEngine (some (controllerWith inspectOperators)) defaultingPlan
      (contextWith inspectOperators) () := by
  have answered : ¬ Unanswered (controllerWith inspectOperators) (.str "inspect_exec") := by
    rintro ⟨_, unknown⟩
    cases unknown
  have own : ∀ step ∈ defaultingPlan.steps, commandAction step = .str "inspect_exec" := by
    intro step mem
    obtain rfl | rfl : step = probeStep ∨ step = unnamedStep := by
      simpa [defaultingPlan, fakePlan] using mem
    · rfl
    · rfl
  refine (preflight_sound_iff rfl (show _ = Except.ok ⟨true, [], []⟩ from rfl) rfl
    (contextWith inspectOperators) rfl ()).1.mpr ?_
  intro step body st called
  obtain ⟨i, comes⟩ := called.comes
  refine ⟨fun _ _ _ _ c same => ?_, fun _ _ _ c same => ?_, fun foreign => ?_⟩
  · cases same
    rw [own step (List.mem_of_getElem? comes.listed)]
    exact answered
  · cases same
    exact answered
  · exact absurd (mem_of_bodyFor called.registered) foreign

/-- Preflight lets the plan pass although the dispatcher has no operator at all: it asks for none of
a probe, and of no command that leaves its action out. -/
theorem defaulted_action_unknown :
    runPreflight defaultingPlan.steps defaultEngine.registry.supportedStepKinds
        (operatorsOf (some (controllerWith .empty))) = .ok ⟨true, [], []⟩ ∧
      ¬ Sound defaultBodies defaultEngine (some (controllerWith .empty)) defaultingPlan
        (contextWith .empty) () := by
  refine ⟨rfl, fun sound => ?_⟩
  have called : Called defaultBodies defaultEngine (some (controllerWith .empty)) defaultingPlan
      (contextWith .empty) () probeStep executeProbe
      (initialState defaultEngine defaultingPlan (contextWith .empty) ()) :=
    ⟨⟨0, rfl, rfl⟩, rfl, rfl, rfl⟩
  refine sound.actions _ _ _ called _ List.mem_cons_self ?_
  exact ⟨controllerWith .empty, .str "inspect_exec", _, rfl, rfl, rfl⟩

end Examples

end SthBoring.AgentLoop.PreflightSoundness
