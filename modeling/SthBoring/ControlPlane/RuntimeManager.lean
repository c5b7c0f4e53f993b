/- Module: SthBoring/ControlPlane/RuntimeManager
   source: sdk_test_agent/control_plane/runtime_manager/runtime_manager_service.py,
     runtime_manager_models.py
   digest: Containers through the driver, with their records in the registry. -/

import SthBoring.ControlPlane.RuntimeRegistry
import SthBoring.Docker.DriverModels
import SthBoring.Lib.PyJson

set_option autoImplicit false
set_option relaxedAutoImplicit false

namespace SthBoring.ControlPlane.RuntimeManager

universe u

open SthBoring.Lib.Effect (Computation)
open SthBoring.Lib.OrderedDict (PyDict)
open SthBoring.Lib.PyJson (dumps Format)
open SthBoring.Lib.PyValue (Value Fields PyExc)
open SthBoring.Docker.DriverModels
open SthBoring.ControlPlane.RuntimeRegistry

variable {σ : Type u}

/-- The service with its driver, the clock, the database behind its repository, and the digests of
hashlib in hexadecimal. -/
structure RuntimeManagerService (σ : Type u) where
  driver : DockerDriver σ
  engineId : String
  nowFn : σ → String × σ
  database : Database σ
  sha1Hex : ByteArray → String
  sha256Hex : ByteArray → String

abbrev Managing (σ : Type u) (α : Type) : Type u := Computation (Plane σ) PyExc α

def textOrNone : Option String → Value
  | some text => .str text
  | none => .null

def texts (ts : List String) : Value := .list (ts.map .str)

def textDict (d : PyDict String String) : Value := .dict (d.entries.map fun e => (e.1, .str e.2))

variable (service : RuntimeManagerService σ)

def now : Managing σ String := fun s =>
  (.ok (service.nowFn s.world).1, { s with world := (service.nowFn s.world).2 })

def registerImage (imageId : String) (tags : List String) (sourceType : String)
    (sourceRef : Option String) : Managing σ ImageRecord := do
  let createdAt ← now service
  let rec' : ImageRecord := {
    imageId := imageId
    engineId := service.engineId
    repoTagsJson := some (dumps .standard (texts tags))
    sourceType := sourceType
    sourceRef := sourceRef
    createdAt := some createdAt
    metadataJson := none }
  execute service.database (Registry.insertImage rec')
  return rec'

/-- The row of a container that was just started. -/
def containerRecord (spec : ContainerCreateSpec) (ownerTaskId : Option String) (ref : ContainerRef)
    (createdAt updatedAt : String) : ContainerRecord where
  containerId := ref.containerId
  engineId := service.engineId
  imageId := some spec.image
  name := ref.name
  status := some "running"
  workdir := some spec.workingDir
  envJson := some (dumps .standard (textDict spec.environment))
  portsJson := some (dumps .standard (.list []))
  labelsJson := some (dumps .standard (textDict spec.labels))
  createdAt := some createdAt
  updatedAt := some updatedAt
  ownerTaskId := ownerTaskId
  metadataJson := some (dumps .standard (.dict [("command", spec.command.value)]))

def recordContainer (spec : ContainerCreateSpec) (ownerTaskId : Option String)
    (ref : ContainerRef) : Managing σ ContainerRecord := do
  let createdAt ← now service
  let updatedAt ← now service
  let rec' := containerRecord service spec ownerTaskId ref createdAt updatedAt
  execute service.database (Registry.insertContainer rec')
  return rec'

/-- What follows once the container is there. -/
def startAndRecord (spec : ContainerCreateSpec) (ownerTaskId : Option String) (ref : ContainerRef) :
    Managing σ ContainerRecord := do
  outside (service.driver.startContainer ref.containerId)
  recordContainer service spec ownerTaskId ref

def createContainer (spec : ContainerCreateSpec) (ownerTaskId : Option String) :
    Managing σ ContainerRecord := do
  let ref ← outside (service.driver.createContainer spec)
  startAndRecord service spec ownerTaskId ref

def recordRemoved (containerId : String) : Managing σ Unit := do
  let updatedAt ← now service
  execute service.database (Registry.upsertContainerStatus containerId "removed" updatedAt)

def removeContainer (containerId : String) : Managing σ Unit := do
  outside (service.driver.removeContainer containerId true false)
  recordRemoved service containerId

structure EnvFingerprintInput where
  runtime : String
  engineId : String
  imageId : String
  sdkName : String
  sdkVersion : Option String
  command : List String
  env : PyDict String String
  ports : List String

/-- `asdict`. -/
def EnvFingerprintInput.value (payload : EnvFingerprintInput) : Value :=
  .dict [("runtime", .str payload.runtime), ("engine_id", .str payload.engineId),
    ("image_id", .str payload.imageId), ("sdk_name", .str payload.sdkName),
    ("sdk_version", textOrNone payload.sdkVersion), ("command", texts payload.command),
    ("env", textDict payload.env), ("ports", texts payload.ports)]

/-- `separators=(",", ":")`, with what is no ASCII escaped. -/
def fingerprintFormat : Format := ⟨true, ",", ":"⟩

def makeEnvFingerprint (payload : EnvFingerprintInput) : String × String :=
  let raw := dumps fingerprintFormat payload.value
  (service.sha256Hex raw.toUTF8, raw)

/-- The id is a digest of the task and the container. -/
def deploymentId (taskId containerId : String) : String :=
  let digest := service.sha1Hex (taskId ++ containerId).toUTF8
  let head := String.ofList ((digest.toList.take 26).map Char.toUpper)
  s!"deploy_{head}"

def createDeploymentRecord (taskId sdkName : String) (sdkVersion : Option String)
    (imageId containerId : String) (fingerprintPayload : EnvFingerprintInput) (reusable : ℤ) :
    Managing σ DeploymentRecord := do
  let (fp, raw) := makeEnvFingerprint service fingerprintPayload
  let createdAt ← now service
  let updatedAt ← now service
  let rec' : DeploymentRecord := {
    deploymentId := deploymentId service taskId containerId
    taskId := some taskId
    sdkName := sdkName
    sdkVersion := sdkVersion
    engineId := some service.engineId
    imageId := some imageId
    containerId := some containerId
    envFingerprint := some fp
    status := some "ready"
    reusable := reusable
    createdAt := some createdAt
    updatedAt := some updatedAt
    metadataJson := some raw }
  execute service.database (Registry.insertDeployment rec')
  return rec'

section Records

variable {s : Plane σ}

/-- The clock is read before the insertion. -/
theorem registerImage_eq (imageId : String) (tags : List String) (sourceType : String)
    (sourceRef : Option String) :
    ∃ rec' : ImageRecord, rec'.imageId = imageId ∧
      registerImage service imageId tags sourceType sourceRef s =
        (execute service.database (Registry.insertImage rec') >>= fun _ => pure rec')
          { s with world := (service.nowFn s.world).2 } :=
  ⟨_, rfl, rfl⟩

theorem registerImage_of_new {imageId : String} (tags : List String) (sourceType : String)
    (sourceRef : Option String) (works : (service.database (service.nowFn s.world).2).1 = none)
    (new : imageId ∉ s.registry.images.keys) :
    ∃ rec', registerImage service imageId tags sourceType sourceRef s =
      (.ok rec', ⟨(service.database (service.nowFn s.world).2).2,
        { s.registry with images := s.registry.images.set imageId rec' }⟩) := by
  obtain ⟨rec', rfl, reads⟩ := registerImage_eq service (s := s) imageId tags sourceType sourceRef
  have done : execute service.database (Registry.insertImage rec')
      { s with world := (service.nowFn s.world).2 } = _ :=
    execute_of_ok works (insertImage_of_new rec' new)
  exact ⟨rec', reads.trans (Computation.bind_of_ok done _)⟩

theorem registerImage_of_taken {imageId : String} (tags : List String) (sourceType : String)
    (sourceRef : Option String) (works : (service.database (service.nowFn s.world).2).1 = none)
    (taken : imageId ∈ s.registry.images.keys) :
    ∃ exc, registerImage service imageId tags sourceType sourceRef s =
      (.error exc, { s with world := (service.database (service.nowFn s.world).2).2 }) := by
  obtain ⟨rec', rfl, reads⟩ := registerImage_eq service (s := s) imageId tags sourceType sourceRef
  obtain ⟨exc, refused⟩ := insertImage_of_taken rec' taken
  have failed : execute service.database (Registry.insertImage rec')
      { s with world := (service.nowFn s.world).2 } = _ := execute_of_error works refused
  exact ⟨exc, reads.trans (Computation.bind_of_error failed _)⟩

/-- The two readings of the clock come before the insertion. -/
theorem recordContainer_eq (spec : ContainerCreateSpec) (ownerTaskId : Option String)
    (ref : ContainerRef) :
    recordContainer service spec ownerTaskId ref s =
      (let rec' := containerRecord service spec ownerTaskId ref (service.nowFn s.world).1
        (service.nowFn (service.nowFn s.world).2).1
      (execute service.database (Registry.insertContainer rec') >>= fun _ => pure rec')
        { s with world := (service.nowFn (service.nowFn s.world).2).2 }) :=
  rfl

theorem recordContainer_of_new (spec : ContainerCreateSpec) (ownerTaskId : Option String)
    {ref : ContainerRef}
    (works : (service.database (service.nowFn (service.nowFn s.world).2).2).1 = none)
    (new : ref.containerId ∉ s.registry.containers.keys) :
    ∃ row : ContainerRecord, row.containerId = ref.containerId ∧ row.status = some "running" ∧
      recordContainer service spec ownerTaskId ref s =
        (.ok row, ⟨(service.database (service.nowFn (service.nowFn s.world).2).2).2,
          { s.registry with containers := s.registry.containers.set ref.containerId row }⟩) := by
  let row := containerRecord service spec ownerTaskId ref (service.nowFn s.world).1
    (service.nowFn (service.nowFn s.world).2).1
  let s₂ : Plane σ := { s with world := (service.nowFn (service.nowFn s.world).2).2 }
  have done : execute service.database (Registry.insertContainer row) s₂ = _ :=
    execute_of_ok works (insertContainer_of_new row new)
  exact ⟨row, rfl, rfl, (recordContainer_eq service spec ownerTaskId ref).trans
    (Computation.bind_of_ok done _)⟩

theorem recordContainer_of_refused (spec : ContainerCreateSpec) (ownerTaskId : Option String)
    {ref : ContainerRef}
    (refused : ¬ ((service.database (service.nowFn (service.nowFn s.world).2).2).1 = none ∧
      ref.containerId ∉ s.registry.containers.keys)) :
    ∃ exc, recordContainer service spec ownerTaskId ref s =
      (.error exc, { s with
        world := (service.database (service.nowFn (service.nowFn s.world).2).2).2 }) := by
  let row := containerRecord service spec ownerTaskId ref (service.nowFn s.world).1
    (service.nowFn (service.nowFn s.world).2).1
  let s₂ : Plane σ := { s with world := (service.nowFn (service.nowFn s.world).2).2 }
  rw [recordContainer_eq]
  cases fault : (service.database (service.nowFn (service.nowFn s.world).2).2).1 with
  | some exc =>
    have failed : execute service.database (Registry.insertContainer row) s₂ = _ :=
      execute_of_fault fault
    exact ⟨exc, Computation.bind_of_error failed _⟩
  | none =>
    have taken : ref.containerId ∈ s.registry.containers.keys := by
      by_contra new
      exact refused ⟨fault, new⟩
    obtain ⟨exc, inserted⟩ := insertContainer_of_taken row taken
    have failed : execute service.database (Registry.insertContainer row) s₂ = _ :=
      execute_of_error fault inserted
    exact ⟨exc, Computation.bind_of_error failed _⟩

variable {taskId containerId : String} (sdkName : String) (sdkVersion : Option String)
  (imageId : String) (payload : EnvFingerprintInput) (reusable : ℤ)

theorem createDeploymentRecord_eq :
    ∃ row : DeploymentRecord, row.deploymentId = deploymentId service taskId containerId ∧
      (row.taskId = some taskId ∧ row.imageId = some imageId ∧ row.containerId = some containerId) ∧
      createDeploymentRecord service taskId sdkName sdkVersion imageId containerId payload reusable s =
        (execute service.database (Registry.insertDeployment row) >>= fun _ => pure row)
          { s with world := (service.nowFn (service.nowFn s.world).2).2 } :=
  ⟨_, rfl, ⟨rfl, rfl, rfl⟩, rfl⟩

theorem createDeploymentRecord_of_new
    (works : (service.database (service.nowFn (service.nowFn s.world).2).2).1 = none)
    (new : deploymentId service taskId containerId ∉ s.registry.deployments.keys) :
    ∃ row : DeploymentRecord,
      (row.taskId = some taskId ∧ row.imageId = some imageId ∧ row.containerId = some containerId) ∧
      createDeploymentRecord service taskId sdkName sdkVersion imageId containerId payload reusable s =
        (.ok row, ⟨(service.database (service.nowFn (service.nowFn s.world).2).2).2,
          { s.registry with deployments := s.registry.deployments.set row.deploymentId row }⟩) := by
  obtain ⟨row, id, fields, reads⟩ := createDeploymentRecord_eq service (s := s)
    sdkName sdkVersion imageId payload reusable
  rw [← id] at new
  have done : execute service.database (Registry.insertDeployment row)
      { s with world := (service.nowFn (service.nowFn s.world).2).2 } = _ :=
    execute_of_ok works (insertDeployment_of_new row new)
  exact ⟨row, fields, reads.trans (Computation.bind_of_ok done _)⟩

theorem createDeploymentRecord_of_taken
    (works : (service.database (service.nowFn (service.nowFn s.world).2).2).1 = none)
    (taken : deploymentId service taskId containerId ∈ s.registry.deployments.keys) :
    ∃ exc s', createDeploymentRecord service taskId sdkName sdkVersion imageId containerId payload
      reusable s = (.error exc, s') := by
  obtain ⟨row, id, -, reads⟩ := createDeploymentRecord_eq service (s := s)
    sdkName sdkVersion imageId payload reusable
  rw [← id] at taken
  obtain ⟨exc, refused⟩ := insertDeployment_of_taken row taken
  have failed : execute service.database (Registry.insertDeployment row)
      { s with world := (service.nowFn (service.nowFn s.world).2).2 } = _ :=
    execute_of_error works refused
  exact ⟨exc, _, reads.trans (Computation.bind_of_error failed _)⟩

end Records

end SthBoring.ControlPlane.RuntimeManager
