/- Module: SthBoring/CmdCtrl/DeclaredCommands
   source: sdk_test_agent/execution/step_executors/run_command_step_executor.py,
     cmd_ctrl/operator.py, sandbox/python/docker_sandbox.py, capability/capability_io_models.py
   digest: Which inspection commands run as their inputs declare. -/

import SthBoring.Capability.CheckedPayloads
import SthBoring.CmdCtrl.Operators
import SthBoring.Execution.DeclaredWork

set_option autoImplicit false
set_option relaxedAutoImplicit false

namespace SthBoring.CmdCtrl.DeclaredCommands

universe u

open SthBoring.Lib.Effect (Computation Keeps)
open SthBoring.Lib.JsonValue
open SthBoring.Lib.OrderedDict (PyDict assocGet_eq_none_iff)
open SthBoring.Lib.PyObject (dictOf)
open SthBoring.Lib.PyValue
open SthBoring.Plan.Models
open SthBoring.Capability.CapabilityIoModels
open SthBoring.Capability.CheckedPayloads
open SthBoring.Capability.ModelAgreement
open SthBoring.Capability.ModelShapes
open SthBoring.Docker.DriverModels
open SthBoring.Execution.DeclaredWork (ValidInputs getD_of_none)
open SthBoring.Execution.Engine (fakeStep fakeContext)
open SthBoring.Execution.Models (ExecutionContext)
open SthBoring.Execution.StepExecutors
open SthBoring.Execution.StepUtils
open SthBoring.Sandbox.DockerSandbox (requireRunning)
open SthBoring.Sandbox.SandboxLife
open SthBoring.CmdCtrl.Controller
open SthBoring.CmdCtrl.Operators
open SthBoring.CmdCtrl.Policies

variable {σ : Type u}

section Payloads

/-- A step that declares an inspection command: valid inputs, as Python has them with no key twice,
and a line that the policy accepts. -/
structure Declares (policy : InspectPolicy) (step : PlanStep) (payload : Fields)
    (argv : List String) : Prop where
  keyed : Keyed runCommandInput (.dict step.inputs)
  valid : ValidInputs runCommandInput step
  action : step.inputs.get "action" = some (.str "inspect_exec")
  given : step.inputs.get "payload" = some (.dict payload)
  cmd : payload.get "cmd" = some (strings argv)
  accepted : validateArgv policy argv = .ok ()

/-- What the schema says of a payload with a command. -/
structure InspectPayload (payload : Fields) : Prop where
  noArgv : payload.get "argv" = none
  noWorkdir : payload.get "workdir" = none
  cwd : ∀ v, payload.get "cwd" = some v → v = .null ∨ v.isStr = true
  timeoutSec : ∀ v, payload.get "timeout_sec" = some v → v.isInt = true

theorem inGrammar_runCommandInput : InGrammar runCommandInput :=
  ⟨by decide, trivial, nofun,
    ⟨inGrammar_inspectExecPayload,
      ⟨by decide, trivial, nofun, trivial, fun _ => ⟨.int 30, rfl⟩, trivial⟩, trivial⟩,
    nofun, trivial⟩

theorem get_of_undeclared {payload : Fields} {keys : List String}
    (closed : ∀ e ∈ payload, e.1 ∈ keys) {key : String} (undeclared : key ∉ keys) :
    payload.get key = none := by
  refine (assocGet_eq_none_iff key payload).mpr fun present => undeclared ?_
  obtain ⟨e, he, rfl⟩ := List.mem_map.mp present
  exact closed e he

theorem get_filter {key dropped : String} (h : key ≠ dropped) (payload : Fields) :
    Fields.get (payload.filter fun e => e.1 ≠ dropped) key = payload.get key := by
  induction payload with
  | nil => rfl
  | cons e payload ih =>
    have rest : Fields.get (e :: payload) key =
        if e.1 = key then some e.2 else Fields.get payload key := rfl
    rw [rest, ← ih]
    by_cases same : e.1 = dropped
    · have other : e.1 ≠ key := fun is => h (is.symm.trans same)
      rw [List.filter_cons_of_neg (by simpa using same), if_neg other]
    · rw [List.filter_cons_of_pos (by simpa using same)]
      rfl

/-- A valid payload with a command is that of an inspection: the other kind has no such key. -/
theorem Declares.inspectPayload {policy : InspectPolicy} {step : PlanStep} {payload : Fields}
    {argv : List String} (h : Declares policy step payload argv) : InspectPayload payload := by
  obtain ⟨-, within⟩ := (passes_iff inGrammar_runCommandInput h.keyed).mp h.valid
  have member : SomeMember [inspectExecPayload, runPythonPayload] (.dict payload) :=
    (within step.inputs rfl).2.1 _ h.given
  rcases member with ⟨shape, inBounds⟩ | ⟨shape, -⟩ | none
  · obtain ⟨entries, same, closed, fields⟩ := shape
    obtain rfl : payload = entries := by simpa using same
    have cwd := (inBounds payload rfl).2.1
    refine ⟨get_of_undeclared (closed rfl) (by decide), get_of_undeclared (closed rfl) (by decide),
      fun v found => ?_, fields.2.2.2.2.2.1⟩
    rcases cwd v found with text | null | none
    · exact .inr text.1
    · exact .inl null
    · exact none.elim
  · obtain ⟨entries, same, closed, -⟩ := shape
    obtain rfl : payload = entries := by simpa using same
    have absent : payload.get "cmd" = none := get_of_undeclared (closed rfl) (by decide)
    rw [h.cmd] at absent
    cases absent
  · exact none.elim

variable {payload : Fields} {cmd : Value}

theorem get_renameCmd_argv (given : payload.get "cmd" = some cmd) (absent : payload.get "argv" = none) :
    (renameCmd payload).get "argv" = some cmd := by
  rw [renameCmd, given, absent]
  dsimp only
  have dropped : Fields.get (payload.filter (fun e => e.1 ≠ "cmd")) "argv" = none := by
    rw [get_filter (by decide), absent]
  rw [get_append, dropped]
  rfl

theorem get_renameCmd_other {key : String} (given : payload.get "cmd" = some cmd)
    (absent : payload.get "argv" = none) (notCmd : key ≠ "cmd") (notArgv : key ≠ "argv") :
    (renameCmd payload).get key = payload.get key := by
  have last : Fields.get [("argv", cmd)] key = none := if_neg (Ne.symm notArgv)
  rw [renameCmd, given, absent]
  dsimp only
  rw [get_append, get_filter notCmd, last, Option.or_none]

end Payloads

section Execution

/-- The step changes the world as its one action does. -/
theorem runCommand_world {step : PlanStep} {context : ExecutionContext σ}
    {controller : Execution.Models.CommandController σ}
    (configured : context.commandController = some controller) {payload : Fields}
    (given : dictOf ((step.inputs.get "payload").getD (.dict [])) = .ok payload) (w : σ) :
    (runCommand step ⟨context, w, []⟩).2.world =
      (controller.executeAction ((step.inputs.get "action").getD (.str "inspect_exec"))
        (renameCmd payload) w).2 := by
  unfold runCommand requiring
  dsimp only
  rw [configured]
  dsimp only
  rw [Computation.lift_bind given]
  rcases answered : controller.executeAction ((step.inputs.get "action").getD (.str "inspect_exec"))
    (renameCmd payload) w with ⟨exc | response, w'⟩
  · rw [Computation.bind_of_error (ask_of_error (s := ⟨context, w, []⟩) answered)]
  · rw [Computation.bind_of_ok (ask_of_ok (s := ⟨context, w, []⟩) answered)]
    -- what is left reads the response
    refine Keeps.after (I := fun s : Working σ => s.world = w') ?_ rfl
    refine Keeps.bind (Keeps.lift _) fun run => Keeps.bind (Keeps.lift _) fun stdout => ?_
    exact Keeps.bind (Keeps.lift _) fun stderr => Keeps.pure _

/-- The ledger after a command in a sandbox whose container runs. -/
theorem exec_calls (driver : DockerDriver σ) {spec : SandboxSpec} {s : Session (Ledger σ)}
    {containerId : String} (running : requireRunning (s.sandbox spec) = .ok containerId)
    (command : ExecSpec) (timeoutSec : Option ℤ) :
    ∃ answer, (exec spec (recorded driver) command timeoutSec s).2.world.calls =
      s.world.calls ++ [.exec (execCreateSpec spec command containerId) timeoutSec answer] := by
  refine ⟨(driver.exec (execCreateSpec spec command containerId) timeoutSec s.world.world).1, ?_⟩
  unfold exec asIs
  change (calling (Computation.lift (requireRunning (s.sandbox spec)) >>= fun containerId =>
    (recorded driver).exec (execCreateSpec spec command containerId) timeoutSec) s).2.world.calls = _
  rw [Computation.lift_bind running]
  rfl

variable {policy : InspectPolicy} {driver : DockerDriver σ} {spec : SandboxSpec}

/-- A payload that the operator takes is one command in the sandbox. -/
theorem inspectExec_state {payload : Fields} {argv : List String} {workdir : Option String}
    {timeoutSec : Option ℤ} (words : payload.get "argv" = some (strings argv))
    (accepted : validateArgv policy argv = .ok ())
    (dir : workdirOf (payload.getD "workdir") = .ok workdir)
    (limit : timeoutOf (payload.getD "timeout_sec") = .ok timeoutSec) (s : Session σ) :
    (inspectExec policy spec driver payload s).2 =
      (exec spec driver { argv := argv, workdir := workdir } timeoutSec s).2 := by
  have taken : wordsOf policy ((payload.get "argv").getD (.list [])) = .ok argv := by
    rw [words]
    exact wordsOf_accepted accepted
  unfold inspectExec payloadToExecSpec
  dsimp only
  rw [Computation.lift_bind taken, Computation.lift_bind accepted, Computation.lift_bind dir,
    Computation.lift_bind limit]
  rcases ran : exec spec driver { argv := argv, workdir := workdir } timeoutSec s with ⟨exc | result, s'⟩
  · rw [Computation.bind_of_error ran]
  · rw [Computation.bind_of_ok ran]
    rfl

end Execution

section Claim

/-- The commands that a driver was asked to execute. -/
def executions (calls : List DriverCall) : List (ExecCreateSpec × Option ℤ) :=
  calls.filterMap fun
    | .exec command timeoutSec _ => some (command, timeoutSec)
    | _ => none

/-- The working directory that a payload declares, or that of the sandbox. -/
def declaredWorkdir (spec : SandboxSpec) (payload : Fields) : Value :=
  match payload.getD "cwd" with
  | .null => .str spec.workdir
  | cwd => cwd

/-- The command as the payload has it. -/
structure AsDeclared (spec : SandboxSpec) (payload : Fields) (command : ExecCreateSpec)
    (timeoutSec : Option ℤ) : Prop where
  argv : payload.get "cmd" = some (strings command.argv)
  workdir : textValue command.workdir = declaredWorkdir spec payload
  timeoutSec : ∀ v, payload.get "timeout_sec" = some v →
    ∃ n, timeoutSec = some n ∧ v.pyEq (.int n) = true

/-- Between two states of the ledger there is one command, and it is the declared one. -/
def RunsAsDeclared (spec : SandboxSpec) (payload : Fields) (before after : List DriverCall) : Prop :=
  ∃ issued command timeoutSec, after = before ++ issued ∧
    executions issued = [(command, timeoutSec)] ∧ AsDeclared spec payload command timeoutSec

/-- A controller whose operator for inspections works in the sandbox. -/
structure Inspects (c : CommandController (Session (Ledger σ))) (policy : InspectPolicy)
    (spec : SandboxSpec) (driver : DockerDriver σ) : Prop where
  operator : c.dispatcher.operators.get "inspect_exec" =
    some (inspectExec policy spec (recorded driver))
  permitted : ∀ actions, c.actionPolicy = some actions → "inspect_exec" ∈ actions.allowedActions

/-- The sandbox was started. -/
structure Ready (s : Session (Ledger σ)) : Prop where
  status : s.status = .ready
  container : ∃ containerId, s.containerId = some containerId

variable {policy : InspectPolicy} {driver : DockerDriver σ} {spec : SandboxSpec}
  {c : CommandController (Session (Ledger σ))} {payload : Fields} {argv : List String}
  {s : Session (Ledger σ)}

theorem Inspects.passes (h : Inspects c policy spec driver) (payload : Fields) :
    c.checkPolicies (.str "inspect_exec") payload = .ok () := by
  have allowed : c.checkAction (.str "inspect_exec") = .ok () := by
    unfold CommandController.checkAction
    cases limited : c.actionPolicy with
    | none => rfl
    | some actions =>
      have member : actions.allowedActions.any (fun name =>
          (Value.str "inspect_exec").pyEq (.str name)) = true :=
        List.any_eq_true.mpr ⟨_, h.permitted actions limited, by simp [Value.pyEq]⟩
      simp only [ActionPolicy.validateAction, memberOf, Value.hashable, if_true, member]
      rfl
  unfold CommandController.checkPolicies CommandController.checkPath
  rw [allowed]
  cases c.pathPolicy with
  | none => rfl
  | some paths => rfl

theorem Inspects.found (h : Inspects c policy spec driver) :
    c.dispatcher.operatorFor (.str "inspect_exec") =
      .ok (inspectExec policy spec (recorded driver)) := by
  unfold ActionDispatcher.operatorFor
  dsimp only
  rw [h.operator]

theorem Ready.running (h : Ready s) (spec : SandboxSpec) :
    ∃ containerId, requireRunning (s.sandbox spec) = .ok containerId := by
  obtain ⟨containerId, held⟩ := h.container
  refine ⟨containerId, ?_⟩
  simp [requireRunning, Session.sandbox, h.status, held]

/-- The timeout that is passed on is the one that was given. -/
theorem timeoutOf_given (ints : ∀ v, payload.get "timeout_sec" = some v → v.isInt = true) :
    ∃ timeoutSec, timeoutOf (payload.getD "timeout_sec") = .ok timeoutSec ∧
      ∀ v, payload.get "timeout_sec" = some v → ∃ n, timeoutSec = some n ∧ v.pyEq (.int n) = true := by
  cases given : payload.get "timeout_sec" with
  | none => exact ⟨none, by rw [getD_of_none given]; rfl, nofun⟩
  | some v =>
    have whole := ints v given
    rw [Fields.getD, given, Option.getD_some]
    cases v with
    | int n =>
      refine ⟨some n, rfl, fun v same => ⟨n, rfl, ?_⟩⟩
      rw [← Option.some.inj same]
      simp [Value.pyEq, Value.number]
    | bool b =>
      refine ⟨some (if b then 1 else 0), rfl, fun v same => ⟨_, rfl, ?_⟩⟩
      rw [← Option.some.inj same]
      cases b <;> simp [Value.pyEq, Value.number]
    | _ => cases whole

/-- What the step issues: the command at the working directory of the sandbox. -/
theorem command_issued (inspects : Inspects c policy spec driver) (ready : Ready s)
    {context : ExecutionContext (Session (Ledger σ))}
    (configured : context.commandController = some c.service) {step : PlanStep}
    (declares : Declares policy step payload argv) :
    ∃ command timeoutSec answer,
      (runCommand step ⟨context, s, []⟩).2.world.world.calls =
        s.world.calls ++ [.exec command timeoutSec answer] ∧
      command.argv = argv ∧ command.workdir = some spec.workdir ∧
      ∀ v, payload.get "timeout_sec" = some v → ∃ n, timeoutSec = some n ∧ v.pyEq (.int n) = true := by
  have shape := declares.inspectPayload
  have words := get_renameCmd_argv declares.cmd shape.noArgv
  have other : ∀ key, key ≠ "cmd" → key ≠ "argv" →
      (renameCmd payload).get key = payload.get key :=
    fun _ => get_renameCmd_other declares.cmd shape.noArgv
  obtain ⟨containerId, running⟩ := ready.running spec
  obtain ⟨timeoutSec, limit, kept⟩ := timeoutOf_given shape.timeoutSec
  have dir : workdirOf ((renameCmd payload).getD "workdir") = .ok none := by
    rw [Fields.getD, other _ (by decide) (by decide), shape.noWorkdir]
    rfl
  have limited : timeoutOf ((renameCmd payload).getD "timeout_sec") = .ok timeoutSec := by
    rwa [Fields.getD, other _ (by decide) (by decide)]
  obtain ⟨answer, entered⟩ :=
    exec_calls driver running { argv := argv, workdir := none } timeoutSec
  have state : (runCommand step ⟨context, s, []⟩).2.world =
      (exec spec (recorded driver) { argv := argv, workdir := none } timeoutSec s).2 := by
    have payloadOf : dictOf ((step.inputs.get "payload").getD (.dict [])) = .ok payload := by
      rw [declares.given]
      rfl
    rw [runCommand_world configured payloadOf, declares.action]
    exact (CommandController.executeAction_state (inspects.passes _) inspects.found s).trans
      (inspectExec_state words declares.accepted dir limited s)
  exact ⟨execCreateSpec spec { argv := argv, workdir := none } containerId, timeoutSec, answer,
    state ▸ entered, rfl, rfl, kept⟩

theorem runsAsDeclared_iff {before : List DriverCall} {command : ExecCreateSpec}
    {timeoutSec : Option ℤ} {answer : Except PyExc ExecResult}
    (argv : payload.get "cmd" = some (strings command.argv))
    (workdir : command.workdir = some spec.workdir)
    (kept : ∀ v, payload.get "timeout_sec" = some v →
      ∃ n, timeoutSec = some n ∧ v.pyEq (.int n) = true) :
    RunsAsDeclared spec payload before (before ++ [.exec command timeoutSec answer]) ↔
      payload.getD "cwd" = .null ∨ payload.getD "cwd" = .str spec.workdir := by
  constructor
  · rintro ⟨issued, command', timeoutSec', same, one, declared⟩
    obtain rfl : [.exec command timeoutSec answer] = issued := List.append_cancel_left same
    obtain rfl : command = command' := congrArg Prod.fst (List.head_eq_of_cons_eq one)
    have given := declared.workdir
    rw [workdir, declaredWorkdir] at given
    split at given
    · exact .inl ‹_›
    · exact .inr given.symm
  · intro own
    refine ⟨_, command, timeoutSec, rfl, rfl, argv, ?_, kept⟩
    rw [workdir, declaredWorkdir]
    rcases own with null | same
    · rw [null]
      rfl
    · rw [same]
      rfl

/-- An inspection command runs as declared if and only if it declares no working directory, or
that of the sandbox. -/
theorem declared_command_iff (inspects : Inspects c policy spec driver) (ready : Ready s)
    {context : ExecutionContext (Session (Ledger σ))}
    (configured : context.commandController = some c.service) {step : PlanStep}
    (declares : Declares policy step payload argv) :
    RunsAsDeclared spec payload s.world.calls
        (runCommand step ⟨context, s, []⟩).2.world.world.calls ↔
      payload.getD "cwd" = .null ∨ payload.getD "cwd" = .str spec.workdir := by
  obtain ⟨command, timeoutSec, answer, ledger, words, workdir, kept⟩ :=
    command_issued inspects ready configured declares
  rw [ledger]
  exact runsAsDeclared_iff (words ▸ declares.cmd) workdir kept

end Claim

section Examples

def pwdSpec : SandboxSpec := { sandboxId := "s1" }

def pwdController : CommandController (Session (Ledger ℕ)) where
  dispatcher := ⟨(PyDict.empty : PyDict String (Operator (Session (Ledger ℕ)))).set "inspect_exec"
    (inspectExec (.init none) pwdSpec (recorded countingDriver))⟩
  actionPolicy := some ⟨["inspect_exec"]⟩

def pwdContext : ExecutionContext (Session (Ledger ℕ)) :=
  { fakeContext none with commandController := some pwdController.service }

def readySession : Session (Ledger ℕ) :=
  { status := .ready, containerId := some "c0", world := { world := 1 } }

def pwdPayload (cwd : Value) : Fields :=
  [("cmd", strings ["pwd"]), ("cwd", cwd), ("timeout_sec", .int 30)]

def pwdStep (cwd : Value) : PlanStep :=
  { fakeStep "pwd" PlanStepKind.runCommand [] .abort with
    inputs := [("action", .str "inspect_exec"), ("payload", .dict (pwdPayload cwd))] }

private theorem pwdController_inspects :
    Inspects pwdController (.init none) pwdSpec countingDriver where
  operator := rfl
  permitted := by
    rintro actions same
    cases same
    exact List.mem_singleton.mpr rfl

private theorem readySession_ready : Ready readySession := ⟨rfl, "c0", rfl⟩

private theorem pwdStep_declares {cwd : Value} (json : IsJson cwd)
    (valid : ValidInputs runCommandInput (pwdStep cwd)) :
    Declares (.init none) (pwdStep cwd) (pwdPayload cwd) ["pwd"] where
  keyed := by
    have inputs : ["action", "payload"].Nodup := by decide
    have keys : ["cmd", "cwd", "timeout_sec"].Nodup := by decide
    exact keyed_of_json
      ⟨inputs, trivial, ⟨keys, ⟨trivial, trivial⟩, json, trivial, trivial⟩, trivial⟩
  valid := valid
  action := rfl
  given := rfl
  cmd := rfl
  accepted := by decide +kernel

theorem declared_command_pwd :
    RunsAsDeclared pwdSpec (pwdPayload .null) readySession.world.calls
        (runCommand (pwdStep .null) ⟨pwdContext, readySession, []⟩).2.world.world.calls ↔
      (pwdPayload .null).getD "cwd" = .null ∨
        (pwdPayload .null).getD "cwd" = .str pwdSpec.workdir :=
  declared_command_iff pwdController_inspects readySession_ready rfl
    (pwdStep_declares trivial ⟨5, by decide +kernel⟩)

/-- A command that is declared to run in another directory is run in that of the sandbox. -/
theorem cwd_ignored :
    Inspects pwdController (.init none) pwdSpec countingDriver ∧ Ready readySession ∧
      pwdContext.commandController = some pwdController.service ∧
      Declares (.init none) (pwdStep (.str "/tmp")) (pwdPayload (.str "/tmp")) ["pwd"] ∧
      ¬ RunsAsDeclared pwdSpec (pwdPayload (.str "/tmp")) readySession.world.calls
        (runCommand (pwdStep (.str "/tmp")) ⟨pwdContext, readySession, []⟩).2.world.world.calls := by
  have valid : ValidInputs runCommandInput (pwdStep (.str "/tmp")) := ⟨5, by decide +kernel⟩
  have json : IsJson (.str "/tmp") := trivial
  have declares := pwdStep_declares json valid
  refine ⟨pwdController_inspects, readySession_ready, rfl, declares, ?_⟩
  have configured : pwdContext.commandController = some pwdController.service := rfl
  obtain ⟨command, timeoutSec, answer, ledger, words, workdir, kept⟩ :=
    command_issued pwdController_inspects readySession_ready configured declares
  rw [ledger, runsAsDeclared_iff (words ▸ declares.cmd) workdir kept]
  rintro (null | same)
  · cases null
  · have equal : "/tmp" = "/workspace" := Value.str.inj same
    exact absurd equal (by decide)

end Examples

end SthBoring.CmdCtrl.DeclaredCommands
