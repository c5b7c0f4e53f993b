/- Module: SthBoring/Loop/MinimalLoop
   source: sdk_test_agent/loop/minimal_loop_service.py, minimal_loop_models.py, java_deploy_flow.py,
     artifact_manager/artifact_manager_service.py, inspection/inspection_enums.py
   digest: The deployment of a Java archive, from its input files to its record. -/

import SthBoring.ControlPlane.RuntimeManager

set_option autoImplicit false
set_option relaxedAutoImplicit false

namespace SthBoring.Loop.MinimalLoop

open SthBoring.Lib.Effect (Computation)
open SthBoring.Lib.OrderedDict (PyDict)
open SthBoring.Lib.PyValue (PyExc joinWith)
open SthBoring.ArtifactManager.Service
open SthBoring.ControlPlane.RuntimeManager
open SthBoring.ControlPlane.RuntimeRegistry
open SthBoring.Docker.DriverModels
open SthBoring.Execution.Models (PersistCall)

variable {σ : Type} {α : Type}

structure JavaDeployInput where
  sdkName : String
  sdkVersion : Option String
  jarBytes : ByteArray
  pomXmlBytes : ByteArray
  settingsXmlBytes : Option ByteArray := none
  jdkBytes : Option ByteArray := none

structure MinimalLoopResult where
  taskId : String
  imageId : String
  containerId : String
  deploymentId : String
  artifactIds : List String
  packageInspectionStatus : Option String := none
  envInspectionStatus : Option String := none

inductive InspectionStatus where
  | success | partial' | failed
  deriving DecidableEq

def InspectionStatus.text : InspectionStatus → String
  | success => "success"
  | partial' => "partial"
  | failed => "failed"

structure DockerEnvInspectionInput where
  engineId : String
  imageId : Option String
  containerId : String
  runtimeName : String := "docker"

structure TaskStageRecord where
  stageId : String
  taskId : String
  stageName : String
  status : String
  startedAt : Option String
  endedAt : Option String
  metadataJson : Option String

/-- What a deployment works on: the artifact store with its table of stages, and the registry
beside the rest of the world. -/
structure Bench (σ : Type) where
  store : Store
  stages : PyDict String TaskStageRecord := .empty
  plane : Plane σ

/-- The inspectors are told what to inspect, and give the status of their report. -/
structure MinimalLoopService (σ : Type) where
  artifactService : ArtifactManagerService
  runtimeService : RuntimeManagerService σ
  driver : DockerDriver σ
  packageInspector : Option (JavaDeployInput → Computation σ PyExc InspectionStatus) := none
  envInspector : Option (DockerEnvInspectionInput → Computation σ PyExc InspectionStatus) := none

abbrev Deploying (σ : Type) (α : Type) : Type := Computation (Bench σ) PyExc α

def inStore (m : Storing α) : Deploying σ α :=
  Computation.within Bench.store (fun store s => { s with store := store }) m

def inPlane (m : Computation (Plane σ) PyExc α) : Deploying σ α :=
  Computation.within Bench.plane (fun plane s => { s with plane := plane }) m

def insertStage (rec' : TaskStageRecord) : Deploying σ Unit := fun s =>
  match insertRow "task_stages.stage_id" rec'.stageId rec' s.stages with
  | .error exc => (.error exc, s)
  | .ok stages => (.ok (), { s with stages := stages })

def createStage (service : ArtifactManagerService) (taskId stageName status : String) :
    Deploying σ TaskStageRecord := do
  let stageId ← inStore (newId service "stage")
  let startedAt ← inStore (nowIso service)
  let rec' : TaskStageRecord := ⟨stageId, taskId, stageName, status, some startedAt, none, none⟩
  insertStage rec'
  return rec'

section Flow

def renderDefaultJavaRuntimeDockerfile (hasEmbeddedJdk : Bool) : String :=
  joinWith "\n" (["FROM eclipse-temurin:17-jre", "WORKDIR /app"] ++
    (if hasEmbeddedJdk then
      ["ADD jdk.tar.gz /opt/jdk/", "ENV JAVA_HOME=/opt/jdk", "ENV PATH=/opt/jdk/bin:$PATH"] else []) ++
    ["COPY app.jar /app/app.jar", "CMD [\"java\", \"-jar\", \"/app/app.jar\"]", ""])

def makeBuildSpecFromInput (data : JavaDeployInput) (tag : String) : BuildImageSpec :=
  let jar : PyDict String ByteArray := PyDict.empty.set "app.jar" data.jarBytes
  { tag := some tag
    dockerfileText := some (renderDefaultJavaRuntimeDockerfile data.jdkBytes.isSome)
    contextFiles := match data.jdkBytes with
      | some jdk => jar.set "jdk.tar.gz" jdk
      | none => jar }

def makeContainerSpec (imageRef : String) : ContainerCreateSpec where
  image := imageRef
  command := .words ["sleep", "infinity"]
  workingDir := "/app"

end Flow

/-- The calls that persist what a deployment was given, and the Dockerfile it writes. -/
def inputCall (taskId stageId kind name : String) (content : ByteArray) (mimeType : String) :
    PersistCall where
  taskId := taskId
  stageId := some stageId
  kind := kind
  name := name
  content := content
  subdir := "inputs"
  mimeType := some mimeType
  createdByAction := some "ingest_input"

def dockerfileCall (taskId stageId : String) (spec : BuildImageSpec) : PersistCall where
  taskId := taskId
  stageId := some stageId
  kind := "generated.dockerfile"
  name := "Dockerfile"
  content := (spec.dockerfileText.getD "").toUTF8
  subdir := "generated"
  mimeType := some "text/plain"
  createdByAction := some "render_dockerfile"

variable (service : MinimalLoopService σ)

def persist (call : PersistCall) : Deploying σ ArtifactRecord :=
  inStore (persistArtifactBytes service.artifactService call)

def persistSettings (taskId stageId : String) : Option ByteArray → Deploying σ Unit
  | none => pure ()
  | some settings => do
    let _ ← persist service
      (inputCall taskId stageId "input.settings_xml" "settings.xml" settings "application/xml")

/-- Ask an inspector, if there is one. -/
def inspected {β : Type} (inspector : Option (β → Computation σ PyExc InspectionStatus)) (data : β) :
    Deploying σ (Option String) :=
  match inspector with
  | none => pure none
  | some inspect => do
    let status ← inPlane (outside (inspect data))
    return some status.text

/-- The task of a deployment, the artifacts of its inputs and what the package inspector said. -/
structure Ingested where
  taskId : String
  stageId : String
  artifactIds : List String
  packageStatus : Option String

/-- The lines up to the Dockerfile. -/
def ingest (payload : JavaDeployInput) : Deploying σ Ingested := do
  let task ← inStore (createTask service.artifactService "sdk_deploy" (some s!"deploy {payload.sdkName}"))
  let stage ← createStage service.artifactService task.taskId "ingest_input" "done"
  let jarArt ← persist service
    (inputCall task.taskId stage.stageId "input.jar" "app.jar" payload.jarBytes "application/java-archive")
  let pomArt ← persist service
    (inputCall task.taskId stage.stageId "input.pom" "pom.xml" payload.pomXmlBytes "application/xml")
  persistSettings service task.taskId stage.stageId payload.settingsXmlBytes
  let packageStatus ← inspected service.packageInspector payload
  let spec := makeBuildSpecFromInput payload s!"{payload.sdkName}:latest"
  let dockerfileArt ← persist service (dockerfileCall task.taskId stage.stageId spec)
  return ⟨task.taskId, stage.stageId,
    [jarArt.artifactId, pomArt.artifactId, dockerfileArt.artifactId], packageStatus⟩

def fingerprintInput (payload : JavaDeployInput) (imageId : String) : EnvFingerprintInput where
  runtime := "docker"
  engineId := service.runtimeService.engineId
  imageId := imageId
  sdkName := payload.sdkName
  sdkVersion := payload.sdkVersion
  command := ["sleep", "infinity"]
  env := .empty
  ports := []

/-- The lines behind the container. -/
def recordDeployment (payload : JavaDeployInput) (ingested : Ingested) (imageId containerId : String) :
    Deploying σ MinimalLoopResult := do
  let envStatus ← inspected service.envInspector
    { engineId := service.runtimeService.engineId, imageId := some imageId
      containerId := containerId }
  let dep ← inPlane (createDeploymentRecord service.runtimeService ingested.taskId payload.sdkName
    payload.sdkVersion imageId containerId (fingerprintInput service payload imageId) 1)
  return { taskId := ingested.taskId
           imageId := imageId
           containerId := containerId
           deploymentId := dep.deploymentId
           artifactIds := ingested.artifactIds
           packageInspectionStatus := ingested.packageStatus
           envInspectionStatus := envStatus }

/-- The lines behind the build. -/
def deployImage (payload : JavaDeployInput) (ingested : Ingested) (build : BuildImageResult) :
    Deploying σ MinimalLoopResult := do
  let _ ← inPlane (registerImage service.runtimeService build.imageId build.tags "built"
    (some ingested.taskId))
  let cont ← inPlane (createContainer service.runtimeService (makeContainerSpec build.imageId)
    (some ingested.taskId))
  recordDeployment service payload ingested build.imageId cont.containerId

def runJavaDeploy (payload : JavaDeployInput) : Deploying σ MinimalLoopResult := do
  let ingested ← ingest service payload
  let build ← inPlane (outside
    (service.driver.buildImage (makeBuildSpecFromInput payload s!"{payload.sdkName}:latest")))
  deployImage service payload ingested build

end SthBoring.Loop.MinimalLoop
