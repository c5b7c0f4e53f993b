/- Module: SthBoring/CmdCtrl/OperatorTable
   source: sdk_test_agent/cmd_ctrl/operator.py, controller.py, policies.py
   digest: The operators of a session in a Docker sandbox, and the session that they are called in. -/

import SthBoring.CmdCtrl.Operators

set_option autoImplicit false
set_option relaxedAutoImplicit false

namespace SthBoring.CmdCtrl.OperatorTable

universe u

open SthBoring.Lib.Effect (Computation)
open SthBoring.Lib.OrderedDict
open SthBoring.Lib.PyValue
open SthBoring.CmdCtrl.Controller
open SthBoring.CmdCtrl.Operators
open SthBoring.CmdCtrl.Policies (InspectPolicy)
open SthBoring.Docker.DriverModels (DockerDriver ExecResult Ledger)
open SthBoring.Sandbox.DockerSandbox (requireRunning safeJoin)
open SthBoring.Sandbox.SandboxLife

variable {σ : Type u}

section Arguments

/-- `*v` in a list display. -/
def unpacked (v : Value) : Except PyExc (List Value) :=
  match v.iter with
  | .ok xs => .ok xs
  | .error _ => .error (typeError s!"Value after * must be an iterable, not {v.typeName}")

/-- A driver takes texts only. -/
def textsOf : List Value → Except PyExc (List String)
  | [] => .ok []
  | .str word :: words => do
    let rest ← textsOf words
    return word :: rest
  | v :: _ => .error (typeError s!"expected str, not {v.typeName}")

/-- An `ExecSpec` has a list of texts. -/
def argvOf : Value → Except PyExc (List String)
  | .list words => textsOf words
  | v => .error (typeError s!"expected list, not {v.typeName}")

/-- The id of the container that runs, as every command asks for it first. -/
def running (spec : SandboxSpec) : InSession σ String := do
  let sandbox ← Computation.read (Session.sandbox spec)
  Computation.lift (requireRunning sandbox)

/-- A command whose words come from a payload. -/
def runWords (spec : SandboxSpec) (command : List String → InSession σ ExecResult)
    (argv : List Value) : InSession σ Fields := do
  let _ ← running spec
  let words ← Computation.lift (textsOf argv)
  let result ← command words
  return execToDict result

end Arguments

section Operators

variable (spec : SandboxSpec) (driver : DockerDriver σ)

/-- What `pip` gets, by the mode of the installation. -/
def installArgs (payload : Fields) : Except PyExc (List Value) :=
  let mode := (payload.get "mode").getD (.str "editable")
  let path := fun default => (payload.get "path").getD (.str default)
  if mode.pyEq (.str "editable") then .ok [.str "install", .str "-e", path "."]
  else if mode.pyEq (.str "requirements") then
    .ok [.str "install", .str "-r", path "requirements.txt"]
  else if mode.pyEq (.str "wheel") then .ok [.str "install", path "package.whl"]
  else .error (valueError s!"unsupported install mode: {mode.text}")

/-- `InstallSdkOperator`. -/
def installSdk : Operator (Session σ) := fun payload => do
  let args ← Computation.lift (installArgs payload)
  runWords spec (fun words => runPip spec driver words none) args

/-- `WriteFileOperator`. The path is joined before the content is encoded. -/
def writeFile : Operator (Session σ) := fun payload => do
  let path ← Computation.lift ((Value.dict payload).subscript "path")
  let content ← Computation.lift ((Value.dict payload).subscript "content")
  let name ← Computation.lift (pathText path)
  match content with
  | .str text => do
    putText spec driver name text
    return [("path", path), ("bytes", .int text.toUTF8.size)]
  | v => do
    let _ ← Computation.lift (safeJoin spec.workdir name)
    Computation.raise (attributeError s!"'{v.typeName}' object has no attribute 'encode'")

/-- `RunPythonOperator`. -/
def runPythonOperator : Operator (Session σ) := fun payload => do
  let args ← Computation.lift (unpacked ((payload.get "argv").getD (.list [])))
  runWords spec (fun words => runPython spec driver words none) args

/-- `RunPytestOperator`. -/
def runPytestOperator : Operator (Session σ) := fun payload => do
  let targets ← Computation.lift (unpacked ((payload.get "targets").getD (.list [])))
  let extraArgs := (payload.get "extra_args").getD (.list [])
  let more ← Computation.lift (unpacked (if extraArgs.truthy then extraArgs else .list []))
  runWords spec (fun words => runPytest spec driver words none none) (targets ++ more)

/-- `CollectArtifactsOperator`. -/
def collectArtifacts : Operator (Session σ) := fun payload => do
  let path := (payload.get "path").getD (.str ".")
  let _ ← running spec
  let name ← Computation.lift (pathText path)
  let (data, stat) ← getArchive spec driver name
  return [("path", path), ("size", .int data.size), ("stat", .dict stat), ("archive", .bytes data)]

structure GuardDecision where
  decision : String
  reason : Option String := none

/-- A guard sees the line and the payload, and may look at the world besides. -/
abbrev CommandGuard (σ : Type u) : Type u := Value → Fields → Computation σ PyExc GuardDecision

/-- `DefaultCommandGuard`. -/
def defaultCommandGuard : CommandGuard σ := fun _ _ =>
  pure ⟨"escalate", some "no concrete guard policy configured"⟩

/-- The exception of a decision that does not let the line pass. -/
def guardError (d : GuardDecision) : Option PyExc :=
  if d.decision = "deny" then
    some (commandControlError "GuardDeniedError" (textOr d.reason "guard denied execution"))
  else if d.decision = "escalate" then
    some (commandControlError "GuardEscalationRequired"
      (textOr d.reason "guard escalation required"))
  else none

/-- `GuardedExecOperator`. -/
def guardedExec (guard : CommandGuard σ) : Operator (Session σ) := fun payload => do
  let given := payloadToExecSpec payload
  let decision ← calling (guard given.argv payload)
  match guardError decision with
  | some exc => Computation.raise exc
  | none => do
    let _ ← running spec
    let argv ← Computation.lift (argvOf given.argv)
    let workdir ← Computation.lift (workdirOf given.workdir)
    let timeoutSec ← Computation.lift (timeoutOf given.timeoutSec)
    let result ← exec spec driver { argv := argv, workdir := workdir } timeoutSec
    return execToDict result

end Operators

/-- The operators of the package, with what they are made with. -/
inductive OperatorKind (σ : Type u) : Type u where
  | installSdk
  | writeFile
  | runPython
  | runPytest
  | collectArtifacts
  | inspectExec (policy : InspectPolicy)
  | guardedExec (guard : CommandGuard σ)

section Controller

variable (spec : SandboxSpec) (driver : DockerDriver σ)

/-- `run`. -/
def OperatorKind.run : OperatorKind σ → Operator (Session σ)
  | .installSdk => OperatorTable.installSdk spec driver
  | .writeFile => OperatorTable.writeFile spec driver
  | .runPython => runPythonOperator spec driver
  | .runPytest => runPytestOperator spec driver
  | .collectArtifacts => OperatorTable.collectArtifacts spec driver
  | .inspectExec policy => Operators.inspectExec policy spec driver
  | .guardedExec guard => OperatorTable.guardedExec spec driver guard

/-- The dict of operators that a dispatcher is made with. -/
def operators (table : PyDict String (OperatorKind σ)) : PyDict String (Operator (Session σ)) where
  entries := table.entries.map fun e => (e.1, e.2.run spec driver)
  nodup := by
    rw [List.map_map]
    exact table.nodup

/-- A controller of a session, before its sandbox is taken for the state. -/
structure SessionTable (σ : Type u) where
  table : PyDict String (OperatorKind σ)
  actionPolicy : Option ActionPolicy := none
  pathPolicy : Option PathPolicy := none

def SessionTable.controller (c : SessionTable σ) : CommandController (Session σ) where
  dispatcher := ⟨operators spec driver c.table⟩
  actionPolicy := c.actionPolicy
  pathPolicy := c.pathPolicy

/-- `open_session`. -/
def openSession : InSession σ (SandboxSnapshot × String × SandboxSnapshot) := do
  let created ← create spec driver
  let imageId ← prepareImage spec driver
  let started ← start spec driver
  return (created, imageId, started)

/-- `close_session`. -/
def closeSession : InSession σ SandboxSnapshot := do
  stop driver 10
  destroy driver false false
  snapshot spec driver

/-- The calls of a controller, with their arguments. -/
inductive SessionCall where
  | openSession
  | executeAction (action : Value) (payload : Fields)
  | closeSession

/-- Make a call, and drop what it returns. -/
def SessionTable.perform (c : SessionTable σ) : SessionCall → InSession σ Unit
  | .openSession => discard (openSession spec driver)
  | .executeAction action payload => discard ((c.controller spec driver).executeAction action payload)
  | .closeSession => discard (closeSession spec driver)

end Controller

section Recorded

/-- A guard makes no calls of the driver, so none are entered. -/
def unrecorded (guard : CommandGuard σ) : CommandGuard (Ledger σ) := fun argv payload =>
  Computation.within Ledger.world (fun w l => { l with world := w }) (guard argv payload)

def OperatorKind.recorded : OperatorKind σ → OperatorKind (Ledger σ)
  | .installSdk => .installSdk
  | .writeFile => .writeFile
  | .runPython => .runPython
  | .runPytest => .runPytest
  | .collectArtifacts => .collectArtifacts
  | .inspectExec policy => .inspectExec policy
  | .guardedExec guard => .guardedExec (unrecorded guard)

/-- The same operators, for a driver that keeps a ledger. -/
def SessionTable.recorded (c : SessionTable σ) : SessionTable (Ledger σ) where
  table := ⟨c.table.entries.map fun e => (e.1, e.2.recorded), by
    rw [List.map_map]
    exact c.table.nodup⟩
  actionPolicy := c.actionPolicy
  pathPolicy := c.pathPolicy

theorem assocGet_map {α β : Type u} (f : α → β) (key : String) (entries : List (String × α)) :
    assocGet key (entries.map fun e => (e.1, f e.2)) = (assocGet key entries).map f := by
  induction entries with
  | nil => rfl
  | cons e entries ih =>
    rw [List.map_cons, assocGet, assocGet, ih]
    split <;> rfl

/-- What the dispatcher finds is the operator that stands under the name. -/
theorem get_operators (c : SessionTable σ) (spec : SandboxSpec) (driver : DockerDriver (Ledger σ))
    (name : String) : (operators spec driver c.recorded.table).get name =
      (c.table.get name).map fun kind => kind.recorded.run spec driver := by
  rw [PyDict.get, operators, assocGet_map, SessionTable.recorded, assocGet_map, Option.map_map]
  rfl

end Recorded

end SthBoring.CmdCtrl.OperatorTable
