/- Module: SthBoring/Sandbox/SandboxLife
   source: sdk_test_agent/sandbox/python/docker_sandbox.py, sandbox/sandbox_models.py
   digest: The methods of a Docker sandbox, with the container they work on. -/

import SthBoring.Docker.DriverModels

set_option autoImplicit false
set_option relaxedAutoImplicit false

namespace SthBoring.Sandbox.SandboxLife

universe u

open SthBoring.Lib.Effect (Computation Post Triple Keeps)
open SthBoring.Lib.OrderedDict (PyDict)
open SthBoring.Lib.PyValue (Value Fields PyExc textOr)
open SthBoring.Docker.DriverModels
open SthBoring.Sandbox.DockerSandbox (SandboxStatus TarArchive DockerPythonSandbox requireRunning)

variable {σ : Type u} {α : Type}

/-- The fields of `SandboxSpec` that only matter once a container is created. -/
structure SandboxSpec extends DockerSandbox.SandboxSpec where
  image : String := "python:3.11-slim"
  env : PyDict String String := .empty
  memLimit : Value := .str "1g"
  nanoCpus : Option ℤ := none
  networkDisabled : Bool := false
  readOnlyRootfs : Bool := false
  user : Option String := none
  autoRemove : Bool := false
  pullPolicy : PullPolicy := .ifMissing
  keepAliveCmd : List String := ["sleep", "infinity"]
  labels : PyDict String String := .empty

structure ExecSpec where
  argv : List String
  workdir : Option String := none
  env : PyDict String String := .empty
  user : Option String := none
  tty : Bool := false
  stream : Bool := false
  demux : Bool := true

structure SandboxSnapshot where
  sandboxId : String
  status : SandboxStatus
  image : String
  containerId : Option String
  workdir : String
  attrs : Fields

/-- What a sandbox changes: its own attributes, and the world of its driver. -/
structure Session (σ : Type u) where
  status : SandboxStatus := .created
  containerId : Option String := none
  imageId : Option String := none
  world : σ

/-- The sandbox as the methods that move files see it. -/
def Session.sandbox (spec : SandboxSpec) (s : Session σ) : DockerPythonSandbox where
  spec := spec.toSandboxSpec
  status := s.status
  containerId := s.containerId

abbrev InSession (σ : Type u) (α : Type) : Type u := Computation (Session σ) PyExc α

/-- Call the driver. -/
def calling (m : Computation σ PyExc α) : InSession σ α :=
  Computation.within Session.world (fun w s => { s with world := w }) m

def setStatus (status : SandboxStatus) : InSession σ Unit :=
  Computation.modify fun s => { s with status := status }

/-- A method of the sandbox as it is now that only calls the driver. -/
def asIs (m : DockerPythonSandbox → Computation σ PyExc α) (spec : SandboxSpec) : InSession σ α := do
  let sandbox ← Computation.read (Session.sandbox spec)
  calling (m sandbox)

def sandboxStateError (message : String) : PyExc :=
  ⟨"SandboxStateError", ["SandboxError", "Exception"], message⟩

section Snapshot

def textValue : Option String → Value
  | some text => .str text
  | none => .null

/-- What `snapshot` notes of a container. -/
def inspectedAttrs (ref : ContainerRef) : Fields :=
  [("container_status", textValue ref.status), ("container_name", textValue ref.name),
    ("container_attrs", .dict ref.attrs)]

/-- `except Exception: pass`. -/
def orNothing (answer : Except PyExc ContainerRef) : Except PyExc Fields :=
  match answer with
  | .ok ref => .ok (inspectedAttrs ref)
  | .error exc => if exc.isInstance "Exception" then .ok [] else .error exc

/-- An empty id counts as none. -/
def containerAttrs (driver : DockerDriver σ) (containerId : Option String) : InSession σ Fields :=
  match containerId with
  | none => pure []
  | some "" => pure []
  | some id => do
    let answer ← Computation.outcome (calling (driver.inspectContainer id))
    Computation.lift (orNothing answer)

def snapshot (spec : SandboxSpec) (driver : DockerDriver σ) : InSession σ SandboxSnapshot := do
  let imageId ← Computation.read Session.imageId
  let containerId ← Computation.read Session.containerId
  let attrs ← containerAttrs driver containerId
  let status ← Computation.read Session.status
  return { sandboxId := spec.sandboxId
           status := status
           image := spec.image
           containerId := containerId
           workdir := spec.workdir
           attrs := ("image_id", textValue imageId) :: attrs }

end Snapshot

section Commands

def execCreateSpec (spec : SandboxSpec) (exec : ExecSpec) (containerId : String) : ExecCreateSpec where
  containerId := containerId
  argv := exec.argv
  workdir := some (textOr exec.workdir spec.workdir)
  environment := exec.env
  user := exec.user
  tty := exec.tty
  stream := exec.stream
  demux := exec.demux

def exec (spec : SandboxSpec) (driver : DockerDriver σ) (command : ExecSpec)
    (timeoutSec : Option ℤ) : InSession σ ExecResult :=
  asIs (fun sandbox => do
    let containerId ← Computation.lift (requireRunning sandbox)
    driver.exec (execCreateSpec spec command containerId) timeoutSec) spec

def runPython (spec : SandboxSpec) (driver : DockerDriver σ) (argv : List String)
    (timeoutSec : Option ℤ) : InSession σ ExecResult :=
  exec spec driver { argv := "python" :: argv } timeoutSec

def runPip (spec : SandboxSpec) (driver : DockerDriver σ) (argv : List String)
    (timeoutSec : Option ℤ) : InSession σ ExecResult :=
  exec spec driver { argv := ["python", "-m", "pip"] ++ argv } timeoutSec

def runPytest (spec : SandboxSpec) (driver : DockerDriver σ) (targets : List String)
    (extraArgs : Option (List String)) (timeoutSec : Option ℤ) : InSession σ ExecResult :=
  exec spec driver { argv := ["python", "-m", "pytest"] ++ targets ++ extraArgs.getD [] } timeoutSec

def logs (spec : SandboxSpec) (driver : DockerDriver σ) (tail : Value) : InSession σ ByteArray :=
  asIs (fun sandbox => do
    let containerId ← Computation.lift (requireRunning sandbox)
    driver.logs containerId tail) spec

end Commands

section Files

/-- `dest or self.spec.workdir`. -/
def putWorkspaceBytes (spec : SandboxSpec) (driver : DockerDriver σ) (data : TarArchive)
    (dest : Option String) : InSession σ Unit :=
  asIs (fun sandbox => DockerSandbox.putWorkspaceBytes sandbox driver.toBaseDockerDriver data
    (some (textOr dest spec.workdir))) spec

def putText (spec : SandboxSpec) (driver : DockerDriver σ) (path content : String) :
    InSession σ Unit :=
  asIs (fun sandbox => DockerSandbox.putText sandbox driver.toBaseDockerDriver path content) spec

def getArchive (spec : SandboxSpec) (driver : DockerDriver σ) (path : String) :
    InSession σ (ByteArray × Fields) :=
  asIs (fun sandbox => DockerSandbox.getArchive sandbox driver.toBaseDockerDriver path) spec

end Files

section Lifecycle

def create (spec : SandboxSpec) (driver : DockerDriver σ) : InSession σ SandboxSnapshot := do
  setStatus .created
  snapshot spec driver

def prepareImage (spec : SandboxSpec) (driver : DockerDriver σ) : InSession σ String := do
  let imageId ← calling (driver.ensureImage spec.image spec.pullPolicy)
  Computation.modify fun s => { s with imageId := some imageId }
  setStatus .imageReady
  return imageId

def containerCreateSpec (spec : SandboxSpec) : ContainerCreateSpec where
  image := spec.image
  command := .words spec.keepAliveCmd
  workingDir := spec.workdir
  environment := spec.env
  memLimit := spec.memLimit
  nanoCpus := spec.nanoCpus
  networkDisabled := spec.networkDisabled
  readOnly := spec.readOnlyRootfs
  user := spec.user
  autoRemove := spec.autoRemove
  labels := spec.labels

/-- Create and start a container; the id is kept before the container is started. -/
def launch (spec : SandboxSpec) (driver : DockerDriver σ) : InSession σ Unit := do
  let ref ← calling (driver.createContainer (containerCreateSpec spec))
  Computation.modify fun s => { s with containerId := some ref.containerId }
  calling (driver.startContainer ref.containerId)
  setStatus .containerRunning

/-- The two checks at the head of `start`. -/
def startable (status : SandboxStatus) : Except PyExc Unit :=
  if status ∉ [.imageReady, .created] then
    .error (sandboxStateError s!"cannot start from status={status.text}")
  else if status = .created then
    .error (sandboxStateError "prepare_image must be called before start")
  else .ok ()

def start (spec : SandboxSpec) (driver : DockerDriver σ) : InSession σ SandboxSnapshot := do
  let status ← Computation.read Session.status
  Computation.lift (startable status)
  launch spec driver
  let _ ← exec spec driver { argv := ["mkdir", "-p", spec.workdir] } none
  setStatus .workspaceReady
  setStatus .ready
  snapshot spec driver

/-- `not self._container_id`, with the id that is not so. -/
def heldContainer (containerId : Option String) : Option String :=
  containerId.filter (· ≠ "")

def stop (driver : DockerDriver σ) (timeoutSec : ℤ) : InSession σ Unit := do
  let containerId ← Computation.read Session.containerId
  let status ← Computation.read Session.status
  match heldContainer containerId with
  | none => pure ()
  | some id =>
    if status ∈ [.stopped, .removed] then pure ()
    else do
      calling (driver.stopContainer id timeoutSec)
      setStatus .stopped

/-- The status is set whether the driver removes the container or raises. -/
def destroy (driver : DockerDriver σ) (force removeVolumes : Bool) : InSession σ Unit := do
  let containerId ← Computation.read Session.containerId
  match heldContainer containerId with
  | none => setStatus .removed
  | some id => do
    let answer ← Computation.outcome (calling (driver.removeContainer id force removeVolumes))
    setStatus .removed
    Computation.lift answer

end Lifecycle

section Rules

variable {I : Session σ → Prop} {spec : SandboxSpec}

/-- A driver call leaves the attributes of the sandbox alone. -/
theorem triple_calling {P : Session σ → Prop} {Q : α → Session σ → Prop}
    {R : PyExc → Session σ → Prop} {m : Computation σ PyExc α}
    (h : ∀ s : Session σ, Triple (fun w => P { s with world := w }) m (fun a w => Q a { s with world := w })
      (fun exc w => R exc { s with world := w })) : Triple P (calling m) Q R := by
  intro s hs
  have post := h s s.world hs
  unfold calling Computation.within
  rcases answered : m s.world with ⟨exc | a, w⟩ <;> rw [answered] at post <;> exact post

theorem keeps_calling {m : Computation σ PyExc α}
    (h : ∀ s : Session σ, Keeps (fun w => I { s with world := w }) m) : Keeps I (calling m) :=
  triple_calling h

theorem keeps_asIs {m : DockerPythonSandbox → Computation σ PyExc α}
    (h : ∀ s : Session σ, Keeps (fun w => I { s with world := w }) (m (s.sandbox spec))) :
    Keeps I (asIs m spec) := by
  intro s hs
  -- what is read is the sandbox as it is at the call
  change Post (fun _ => I) (fun _ => I) (calling (m (s.sandbox spec)) s)
  have post := h s s.world hs
  unfold calling Computation.within
  rcases answered : m (s.sandbox spec) s.world with ⟨exc | a, w⟩ <;> rw [answered] at post <;>
    exact post

end Rules

/-- The public calls, with their arguments. -/
inductive SandboxCall where
  | create
  | prepareImage
  | start
  | putWorkspaceBytes (data : TarArchive) (dest : Option String)
  | putText (path content : String)
  | exec (command : ExecSpec) (timeoutSec : Option ℤ)
  | runPython (argv : List String) (timeoutSec : Option ℤ)
  | runPip (argv : List String) (timeoutSec : Option ℤ)
  | runPytest (targets : List String) (extraArgs : Option (List String)) (timeoutSec : Option ℤ)
  | getArchive (path : String)
  | logs (tail : Value)
  | snapshot
  | stop (timeoutSec : ℤ)
  | destroy (force removeVolumes : Bool)

/-- Make a call, and drop what it returns. -/
def perform (spec : SandboxSpec) (driver : DockerDriver σ) : SandboxCall → InSession σ Unit
  | .create => discard (create spec driver)
  | .prepareImage => discard (prepareImage spec driver)
  | .start => discard (start spec driver)
  | .putWorkspaceBytes data dest => putWorkspaceBytes spec driver data dest
  | .putText path content => putText spec driver path content
  | .exec command timeoutSec => discard (exec spec driver command timeoutSec)
  | .runPython argv timeoutSec => discard (runPython spec driver argv timeoutSec)
  | .runPip argv timeoutSec => discard (runPip spec driver argv timeoutSec)
  | .runPytest targets extraArgs timeoutSec =>
    discard (runPytest spec driver targets extraArgs timeoutSec)
  | .getArchive path => discard (getArchive spec driver path)
  | .logs tail => discard (logs spec driver tail)
  | .snapshot => discard (snapshot spec driver)
  | .stop timeoutSec => stop driver timeoutSec
  | .destroy force removeVolumes => destroy driver force removeVolumes

/-- The session after some calls. Each is made, whatever the ones before it raised. -/
def afterCalls (spec : SandboxSpec) (driver : DockerDriver σ) (calls : List SandboxCall)
    (s : Session σ) : Session σ :=
  calls.foldl (fun s call => (perform spec driver call s).2) s

/-- A new sandbox, with a driver that keeps a ledger. -/
def opened (w : σ) : Session (Ledger σ) := { world := { world := w } }

end SthBoring.Sandbox.SandboxLife
