/- Module: SthBoring/Docker/DriverModels
   source: sdk_test_agent/docker_driver/base.py, docker_driver_models.py,
     sandbox/sandbox_models.py
   digest: What a Docker driver is asked, what it answers, and the record of its calls. -/

import SthBoring.Sandbox.DockerSandbox

set_option autoImplicit false
set_option relaxedAutoImplicit false

namespace SthBoring.Docker.DriverModels

universe u

open SthBoring.Lib.Effect (Computation Triple Keeps)
open SthBoring.Lib.OrderedDict (PyDict)
open SthBoring.Lib.PyValue (Value Fields PyExc PyFloat)
open SthBoring.Sandbox.DockerSandbox (TarArchive BaseDockerDriver)

variable {σ : Type u}

inductive Command where
  | words (argv : List String)
  | line (text : String)

def Command.value : Command → Value
  | words argv => .list (argv.map .str)
  | line text => .str text

/-- A memory limit is a text or a number. -/
structure ContainerCreateSpec where
  image : String
  command : Command
  workingDir : String := "/workspace"
  environment : PyDict String String := .empty
  detach : Bool := true
  memLimit : Value := .null
  nanoCpus : Option ℤ := none
  networkDisabled : Bool := false
  readOnly : Bool := false
  user : Option String := none
  autoRemove : Bool := false
  labels : PyDict String String := .empty

structure ContainerRef where
  containerId : String
  name : Option String := none
  status : Option String := none
  attrs : Fields := []

structure ExecCreateSpec where
  containerId : String
  argv : List String
  workdir : Option String := none
  environment : PyDict String String := .empty
  user : Option String := none
  tty : Bool := false
  stream : Bool := false
  demux : Bool := true

structure ExecResult where
  exitCode : Option ℤ
  stdout : Option ByteArray := none
  stderr : Option ByteArray := none
  combined : Option ByteArray := none
  durationSec : PyFloat := ⟨0, "0.0"⟩
  timedOut : Bool := false
  metaFields : Fields := []

structure BuildImageSpec where
  tag : Option String := none
  dockerfileText : Option String := none
  dockerfilePathInContext : String := "Dockerfile"
  contextDir : Option String := none
  contextTarBytes : Option ByteArray := none
  contextFiles : PyDict String ByteArray := .empty
  pull : Bool := false
  nocache : Bool := false
  rm : Bool := true
  forcerm : Bool := true
  timeout : Option ℤ := none
  buildargs : PyDict String String := .empty
  encoding : Option String := none

structure BuildImageResult where
  imageId : String
  tags : List String
  logs : List Fields := []

inductive PullPolicy where
  | always | ifMissing | never
  deriving DecidableEq

/-- A driver whose calls read and change a world `σ`, and may raise. -/
structure DockerDriver (σ : Type u) extends BaseDockerDriver σ where
  ensureImage : String → PullPolicy → Computation σ PyExc String
  buildImage : BuildImageSpec → Computation σ PyExc BuildImageResult
  createContainer : ContainerCreateSpec → Computation σ PyExc ContainerRef
  startContainer : String → Computation σ PyExc Unit
  exec : ExecCreateSpec → Option ℤ → Computation σ PyExc ExecResult
  logs : String → Value → Computation σ PyExc ByteArray
  inspectContainer : String → Computation σ PyExc ContainerRef
  stopContainer : String → ℤ → Computation σ PyExc Unit
  removeContainer : String → Bool → Bool → Computation σ PyExc Unit

/-- A call that a driver got, with its answer. -/
inductive DriverCall where
  | ensureImage (image : String) (policy : PullPolicy) (answer : Except PyExc String)
  | buildImage (spec : BuildImageSpec) (answer : Except PyExc BuildImageResult)
  | createContainer (spec : ContainerCreateSpec) (answer : Except PyExc ContainerRef)
  | startContainer (containerId : String) (answer : Except PyExc Unit)
  | exec (spec : ExecCreateSpec) (timeoutSec : Option ℤ) (answer : Except PyExc ExecResult)
  | putArchive (containerId dest : String) (data : TarArchive) (answer : Except PyExc Unit)
  | getArchive (containerId path : String) (answer : Except PyExc (ByteArray × Fields))
  | logs (containerId : String) (tail : Value) (answer : Except PyExc ByteArray)
  | inspectContainer (containerId : String) (answer : Except PyExc ContainerRef)
  | stopContainer (containerId : String) (timeoutSec : ℤ) (answer : Except PyExc Unit)
  | removeContainer (containerId : String) (force removeVolumes : Bool)
      (answer : Except PyExc Unit)

/-- A world, with the calls that were made of its driver. -/
structure Ledger (σ : Type u) where
  world : σ
  calls : List DriverCall := []

/-- Enter a call into the ledger. -/
def entered {α : Type} (entry : Except PyExc α → DriverCall) (m : Computation σ PyExc α) :
    Computation (Ledger σ) PyExc α := fun s =>
  ((m s.world).1, ⟨(m s.world).2, s.calls ++ [entry (m s.world).1]⟩)

/-- The driver with a ledger of its calls. -/
def recorded (driver : DockerDriver σ) : DockerDriver (Ledger σ) where
  ensureImage image policy := entered (.ensureImage image policy) (driver.ensureImage image policy)
  buildImage spec := entered (.buildImage spec) (driver.buildImage spec)
  createContainer spec := entered (.createContainer spec) (driver.createContainer spec)
  startContainer id := entered (.startContainer id) (driver.startContainer id)
  exec spec timeoutSec := entered (.exec spec timeoutSec) (driver.exec spec timeoutSec)
  putArchive id dest data := entered (.putArchive id dest data) (driver.putArchive id dest data)
  getArchive id path := entered (.getArchive id path) (driver.getArchive id path)
  logs id tail := entered (.logs id tail) (driver.logs id tail)
  inspectContainer id := entered (.inspectContainer id) (driver.inspectContainer id)
  stopContainer id timeoutSec :=
    entered (.stopContainer id timeoutSec) (driver.stopContainer id timeoutSec)
  removeContainer id force removeVolumes :=
    entered (.removeContainer id force removeVolumes)
      (driver.removeContainer id force removeVolumes)

namespace DriverCall

/-- The container that a call created. -/
def created : DriverCall → Option String
  | createContainer _ (.ok ref) => some ref.containerId
  | _ => none

/-- The container that a call started. -/
def started : DriverCall → Option String
  | startContainer id (.ok ()) => some id
  | _ => none

/-- The container that a call was to remove, whether it did or raised. -/
def removed : DriverCall → Option String
  | removeContainer id _ _ _ => some id
  | _ => none

/-- The container that a call stopped, or was to remove. -/
def ended : DriverCall → Option String
  | stopContainer id _ (.ok ()) => some id
  | removeContainer id _ _ _ => some id
  | _ => none

/-- The container that a call works in. -/
def worksIn : DriverCall → Option String
  | exec spec _ _ => some spec.containerId
  | putArchive id _ _ _ => some id
  | getArchive id _ _ => some id
  | logs id _ _ => some id
  | _ => none

end DriverCall

/-- A driver that numbers the containers, and never raises. -/
def countingDriver : DockerDriver ℕ where
  ensureImage image _ := pure image
  buildImage _ := pure { imageId := "sha256:1", tags := [] }
  createContainer _ := fun n => (.ok { containerId := s!"c{n}" }, n + 1)
  startContainer _ := pure ()
  exec _ _ := pure { exitCode := some 0 }
  putArchive _ _ _ := pure ()
  getArchive _ _ := pure (.empty, [])
  logs _ _ := pure .empty
  inspectContainer id := pure { containerId := id, status := some "running" }
  stopContainer _ _ := pure ()
  removeContainer _ _ _ := pure ()

section Entered

variable {α : Type} {entry : Except PyExc α → DriverCall} {m : Computation σ PyExc α}

/-- The rule for one call: whatever is answered, it stands last in the ledger. -/
theorem triple_entered {P : Ledger σ → Prop} {Q : α → Ledger σ → Prop} {R : PyExc → Ledger σ → Prop}
    (ok : ∀ a w s, P s → Q a ⟨w, s.calls ++ [entry (.ok a)]⟩)
    (error : ∀ exc w s, P s → R exc ⟨w, s.calls ++ [entry (.error exc)]⟩) :
    Triple P (entered entry m) Q R := by
  intro s hs
  rcases answered : m s.world with ⟨exc | a, w⟩ <;> rw [entered, answered]
  · exact error exc w s hs
  · exact ok a w s hs

theorem keeps_entered {I : Ledger σ → Prop}
    (h : ∀ answer w s, I s → I ⟨w, s.calls ++ [entry answer]⟩) : Keeps I (entered entry m) :=
  triple_entered (fun a => h (.ok a)) (fun exc => h (.error exc))

end Entered

end SthBoring.Docker.DriverModels
