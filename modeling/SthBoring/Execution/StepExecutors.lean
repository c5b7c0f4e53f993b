/- Module: SthBoring/Execution/StepExecutors
   source: sdk_test_agent/execution/step_executors/*.py, execution/__init__.py,
     docker_driver/docker_driver_models.py, inspection/*/…_models.py
   digest: The ten step executors and the default registry. -/

import SthBoring.Execution.StepUtils

set_option autoImplicit false
set_option relaxedAutoImplicit false

namespace SthBoring.Execution.StepExecutors

universe u

open SthBoring.Lib.Effect (Computation)
open SthBoring.Lib.OrderedDict (PyDict assocGet assocSet)
open SthBoring.Lib.PyObject
open SthBoring.Lib.PyValue
open SthBoring.Plan.Models
open SthBoring.Execution.Models
open SthBoring.Execution.Engine (keptRefs stepOutputsValue)
open SthBoring.Execution.StepUtils

variable {σ : Type u}

/-- A list of texts as a value. -/
def strings (xs : List String) : Value := .list (xs.map .str)

section BuildImage

/-- The fields of `BuildImageSpec`. -/
def buildImageSpecFields : Declared :=
  [("tag", some .null), ("dockerfile_text", some .null),
    ("dockerfile_path_in_context", some (.str "Dockerfile")), ("context_dir", some .null),
    ("context_tar_bytes", some .null), ("context_files", some (.dict [])),
    ("pull", some (.bool false)), ("nocache", some (.bool false)), ("rm", some (.bool true)),
    ("forcerm", some (.bool true)), ("timeout", some .null), ("buildargs", some (.dict [])),
    ("encoding", some .null)]

/-- The spec of a build: the one in the inputs, or one made of them. -/
def buildSpec (inputs : Fields) : Except PyExc Value := do
  let raw := (inputs.get "build_spec").getD (.dict inputs)
  if isInstanceOf raw "BuildImageSpec" then return raw
  else
    let kwargs ← dictOf raw
    construct "BuildImageSpec" buildImageSpecFields kwargs

/-- The logs of a build, a line an entry. -/
def buildLogs (result : Value) : Except PyExc String := do
  let entries ← (pyOr (getAttrD result "logs" (.list [])) (.list [])).iter
  return joinWith "\n" (entries.map Value.text)

/-- The outputs of a finished build. -/
def buildOutputs (spec result : Value) (logs : String) : Except PyExc Fields := do
  let imageId ← getAttr result "image_id"
  let tags ← getAttr result "tags"
  let tag ← getAttr spec "tag"
  return [("image_id", imageId), ("tags", tags), ("tag", tag), ("build_logs", .str logs)]

def buildImage (step : PlanStep) : Executing σ StepExecutionResult :=
  requiring ExecutionContext.dockerDriver "docker_driver" fun driver => do
    let spec ← Computation.lift (buildSpec step.inputs)
    let result ← ask (.buildImage spec) (driver.buildImage spec)
    let logs ← Computation.lift (buildLogs result)
    let outputs ← Computation.lift (buildOutputs spec result logs)
    let ref ← persistText "build.log" s!"{step.stepId}.build.log" logs (some "text/plain")
    return { status := .succeeded, outputs := outputs, artifactRefs := keptRefs [ref]
             logText := if logs = "" then none else some logs }

end BuildImage

section CreateRuntime

/-- The fields of `ContainerCreateSpec`. -/
def containerCreateSpecFields : Declared :=
  [("image", none), ("command", none), ("working_dir", some (.str "/workspace")),
    ("environment", some (.dict [])), ("detach", some (.bool true)), ("mem_limit", some .null),
    ("nano_cpus", some .null), ("network_disabled", some (.bool false)),
    ("read_only", some (.bool false)), ("user", some .null), ("auto_remove", some (.bool false)),
    ("labels", some (.dict []))]

/-- The image a step asks for, by its inputs or by the newest outputs that have one. -/
def imageFor (step : PlanStep) (context : ExecutionContext σ) : Value :=
  pyOr (pyOr (step.inputs.getD "image") (step.inputs.getD "image_id"))
    (findOutput context "image_id")

/-- The spec of a container, which may come with an image of its own. -/
def containerSpec (inputs : Fields) (image : Value) : Except PyExc Value := do
  let raw := inputs.getD "container_spec"
  if isInstanceOf raw "ContainerCreateSpec" then return raw
  else
    let payload ← dictOf (pyOr raw (.dict []))
    let command := (inputs.get "command").getD (strings ["sleep", "3600"])
    construct "ContainerCreateSpec" containerCreateSpecFields
      (setDefault (setDefault payload "image" image) "command" command)

/-- `**given, image_id=…, container_id=…, task_id=…`. -/
def deploymentArguments (given image containerId : Value) (taskId : String) :
    Except PyExc Fields :=
  match given with
  | .dict es =>
    match ["image_id", "container_id", "task_id"].find? (fun key => (assocGet key es).isSome) with
    | some key => .error (typeError
        s!"create_deployment_record() got multiple values for keyword argument '{key}'")
    | none => .ok (es ++ [("image_id", image), ("container_id", containerId), ("task_id", .str taskId)])
  | v => .error (typeError s!"argument after ** must be a mapping, not {v.typeName}")

/-- Remember a container under its step, and as the latest one. -/
def noteRuntime (stepId : String) (container containerId : Value) : Executing σ Unit :=
  Computation.modify fun s => { s with context := { s.context with
    runtimeRefs := (s.context.runtimeRefs.set stepId container).set "latest_container_id"
      containerId } }

/-- The record of a deployment, for a step that asks for one. -/
def createDeployment (manager : RuntimeManager σ) (taskId : String) (inputs : Fields)
    (image containerId : Value) : Executing σ Fields :=
  if (inputs.getD "create_deployment").truthy then do
    let kwargs ← Computation.lift
      (deploymentArguments (inputs.getD "create_deployment") image containerId taskId)
    let deployment ← ask (.createDeploymentRecord kwargs) (manager.createDeploymentRecord kwargs)
    return [("deployment_id", getAttrD deployment "deployment_id" .null)]
  else return []

def createRuntime (step : PlanStep) : Executing σ StepExecutionResult :=
  requiring ExecutionContext.runtimeManager "runtime_manager" fun manager =>
    withContext fun context =>
      if (imageFor step context).truthy then do
        let spec ← Computation.lift (containerSpec step.inputs (imageFor step context))
        let container ← ask (.createContainer spec context.taskId)
          (manager.createContainer spec context.taskId)
        let containerId := getAttrD container "container_id" .null
        noteRuntime step.stepId container containerId
        let deployment ← createDeployment manager context.taskId step.inputs
          (imageFor step context) containerId
        return { status := .succeeded
                 outputs := [("container_id", containerId),
                   ("engine_id", getAttrD container "engine_id" .null),
                   ("runtime_metadata", getAttrD container "metadata_json" .null)] ++ deployment }
      else pure (failedResult "MissingInput" "image_id is required to create runtime")

end CreateRuntime

section InspectEnvironment

/-- The container a step asks for: by its inputs, by the newest outputs that have one, or the
latest one that was started. -/
def containerFor (step : PlanStep) (context : ExecutionContext σ) : Value :=
  pyOr (pyOr (step.inputs.getD "container_id") (findOutput context "container_id"))
    ((context.runtimeRefs.get "latest_container_id").getD .null)

/-- The `DockerEnvInspectionInput` of a step. -/
def envInspectionInput (step : PlanStep) (context : ExecutionContext σ) : Value :=
  .obj "DockerEnvInspectionInput"
    [("engine_id", pyOr (pyOr (step.inputs.getD "engine_id") (findOutput context "engine_id"))
        ((context.metadata.get "engine_id").getD (.str "unknown"))),
      ("image_id", pyOr (step.inputs.getD "image_id") (findOutput context "image_id")),
      ("container_id", containerFor step context),
      ("runtime_name", (step.inputs.get "runtime_name").getD (.str "docker"))]

/-- Remember a report as the latest of the environment. -/
def noteEnvReport (refs : List String) : Executing σ Unit :=
  match refs with
  | [] => pure ()
  | ref :: _ => Computation.modify fun s => { s with context := { s.context with
      artifactRefs := s.context.artifactRefs.set "latest_env_report" ref } }

def inspectEnvironment (step : PlanStep) : Executing σ StepExecutionResult :=
  requiring ExecutionContext.envInspector "env_inspector" fun inspector =>
    withContext fun context =>
      if (containerFor step context).truthy then do
        let data := envInspectionInput step context
        let report ← ask (.inspectDockerEnv data) (inspector.inspectDockerEnv data)
        let ref ← persistJson "report.json" s!"{step.stepId}.env_report.json" report
        noteEnvReport (keptRefs [ref])
        return { status := .succeeded
                 outputs := jsonableFields [("env_report", report),
                   ("readiness", getAttrD report "readiness" (.str "unknown"))]
                 artifactRefs := keptRefs [ref] }
      else pure (failedResult "MissingInput" "container_id is required to inspect environment")

end InspectEnvironment

section InspectPackage

/-- The `JavaPackageInspectionInput` of a step, unless its inputs have one. -/
def packageInspectionInput (step : PlanStep) (context : ExecutionContext σ) : Value :=
  let input := getInputOrVariable step.inputs context
  match input "inspection_input" .null with
  | .null => .obj "JavaPackageInspectionInput"
      [("sdk_name", input "sdk_name" (.str "sdk")), ("sdk_version", input "sdk_version" .null),
        ("jar_bytes", input "jar_bytes" (.bytes ByteArray.empty)),
        ("pom_xml_bytes", input "pom_xml_bytes" .null),
        ("settings_xml_bytes", input "settings_xml_bytes" .null),
        ("jdk_bytes", input "jdk_bytes" .null)]
  | data => data

def inspectPackage (step : PlanStep) : Executing σ StepExecutionResult :=
  requiring ExecutionContext.packageInspector "package_inspector" fun inspector =>
    withContext fun context =>
      let language := getInputOrVariable step.inputs context "language" (.str "java")
      if Value.pyEq language (.str "java") then do
        let data := packageInspectionInput step context
        let report ← ask (.inspectJavaPackage data) (inspector.inspectJavaPackage data)
        let ref ← persistJson "report.json" s!"{step.stepId}.package_report.json" report
        return { status := .succeeded
                 outputs := jsonableFields [("package_report", report),
                   ("language", getAttrD report "language" language),
                   ("package_name", getAttrD report "package_name" .null),
                   ("version", getAttrD report "version" .null)]
                 artifactRefs := keptRefs [ref] }
      else pure (failedResult "UnsupportedPackageLanguage"
        s!"unsupported package language: {language.text}")

end InspectPackage

section Commands

/-- `exit_code in (None, 0)`. -/
def exitClean (exitCode : Value) : Bool :=
  match exitCode with
  | .null => true
  | v => v.pyEq (.int 0)

/-- A command that was run, with what its response says. -/
structure CommandRun where
  argv : Value
  response : Fields
  stdout : Value
  stderr : Value
  exitCode : Value

/-- The command did its work: the response is ok, with a clean exit code. -/
def CommandRun.passed (r : CommandRun) : Bool := (r.response.getD "ok").truthy && exitClean r.exitCode

/-- Read a response; its `data` must be a dict. -/
def readResponse (argv : Value) (response : Fields) : Except PyExc CommandRun := do
  let data := (response.get "data").getD (.dict [])
  let stdout ← data.get "stdout"
  let stderr ← data.get "stderr"
  let exitCode ← data.get "exit_code"
  return ⟨argv, response, stdout.getD .null, stderr.getD .null, exitCode.getD .null⟩

/-- `"cmd"` is renamed to `"argv"`. -/
def renameCmd (payload : Fields) : Fields :=
  match payload.get "cmd", payload.get "argv" with
  | some cmd, none => payload.filter (fun e => e.1 ≠ "cmd") ++ [("argv", cmd)]
  | _, _ => payload

/-- The error message of a command that did not do its work. -/
def commandError (action : Value) (response : Fields) : String :=
  if (response.getD "error").truthy then (response.getD "error").text
  else s!"command action {action.text} failed"

/-- Texts of a response that are no texts would fail once they are persisted. -/
def runCommand (step : PlanStep) : Executing σ StepExecutionResult :=
  requiring ExecutionContext.commandController "command_controller" fun controller => do
    let action := (step.inputs.get "action").getD (.str "inspect_exec")
    let given ← Computation.lift (dictOf ((step.inputs.get "payload").getD (.dict [])))
    let payload := renameCmd given
    let response ← ask (.executeAction action payload) (controller.executeAction action payload)
    let run ← Computation.lift (readResponse .null response)
    let stdout ← Computation.lift (optionalText run.stdout)
    let stderr ← Computation.lift (optionalText run.stderr)
    return { status := if run.passed then .succeeded else .failed
             outputs := [("action", action), ("response", .dict response), ("exit_code", run.exitCode)]
             stdout := stdout
             stderr := stderr
             errorType := if run.passed then none else some "CommandFailed"
             errorMessage := if run.passed then none else some (commandError action response) }

/-- The probes of a step that are not empty. -/
def probesOf (inputs : Fields) : Except PyExc (List Value) := do
  let probes ← (pyOr (inputs.getD "probes") (.list [inputs.getD "probe"])).iter
  return probes.filter Value.truthy

def probeArgv (probe : Value) : Except PyExc Value :=
  match probe with
  | .str s => (shlexSplit s).map strings
  | v => v.iter.map .list

def timeoutValue (timeoutSec : Option ℤ) : Value :=
  match timeoutSec with
  | some n => .int n
  | none => .null

/-- One turn of the loop over the probes. -/
def runProbe (controller : CommandController σ) (timeoutSec : Option ℤ) (probe : Value) :
    Executing σ CommandRun := do
  let argv ← Computation.lift (probeArgv probe)
  let payload := [("argv", argv), ("timeout_sec", timeoutValue timeoutSec)]
  let response ← ask (.executeAction (.str "inspect_exec") payload)
    (controller.executeAction (.str "inspect_exec") payload)
  Computation.lift (readResponse argv response)

/-- The text parts joined, `None` when nothing is left. -/
def joinParts (parts : List Value) : Except PyExc (Option String) :=
  match parts.zipIdx.find? (fun part => !part.1.isStr) with
  | some (part, position) => .error (typeError
      s!"sequence item {position}: expected str instance, {part.typeName} found")
  | none =>
    let text := joinWith "\n" (parts.map Value.text)
    .ok (if text = "" then none else some text)

/-- What a probe adds to `results`. -/
def CommandRun.value (r : CommandRun) : Value := .dict [("argv", r.argv), ("response", .dict r.response)]

def executeProbe (step : PlanStep) : Executing σ StepExecutionResult :=
  requiring ExecutionContext.commandController "command_controller" fun controller => do
    let probes ← Computation.lift (probesOf step.inputs)
    let runs ← Computation.each (runProbe controller step.timeoutSec) probes
    let failed := runs.filter (fun r => !r.passed)
    let results := Value.list (runs.map CommandRun.value)
    let ref ← persistJson "probe.result" s!"{step.stepId}.probe_result.json" results
    let stdout ← Computation.lift (joinParts ((runs.map CommandRun.stdout).filter Value.truthy))
    let stderr ← Computation.lift (joinParts ((runs.map CommandRun.stderr).filter Value.truthy))
    return { status := if failed.isEmpty then .succeeded else .failed
             outputs := [("probe_result", results), ("failed_count", .int failed.length)]
             artifactRefs := keptRefs [ref]
             stdout := stdout
             stderr := stderr
             errorType := if failed.isEmpty then none else some "ProbeFailed"
             errorMessage :=
               if failed.isEmpty then none else some s!"{failed.length} probe(s) failed" }

end Commands

section CollectArtifact

/-- A name or a kind, which the store takes as text only. -/
def nameText (v : Value) : Except PyExc String :=
  match v with
  | .str s => .ok s
  | v => .error (typeError s!"expected str, bytes or os.PathLike object, not {v.typeName}")

/-- A text to persist, as an item of the inputs has it. -/
structure CollectedItem where
  kind : String
  name : String
  content : String
  mimeType : Option String

def collectedItem (item : Value) : Except PyExc CollectedItem := do
  let name ← item.get "name"
  let kind ← item.get "kind"
  let content ← item.get "content"
  let mimeType ← item.get "mime_type"
  let text ← textOf (content.getD (.str ""))
  let kindText ← nameText (kind.getD (.str "exec.log"))
  let itemName ← nameText (name.getD (.str "artifact.txt"))
  let mimeText ← optionalText (mimeType.getD (.str "text/plain"))
  return ⟨kindText, itemName, text, mimeText⟩

def persistItem (item : Value) : Executing σ (Option String) := do
  let found ← Computation.lift (collectedItem item)
  persistText found.kind found.name found.content found.mimeType

/-- What the summary of a collection says of the context. -/
def collectedContext (context : ExecutionContext σ) : Value :=
  .dict [("step_outputs", stepOutputsValue context),
    ("artifact_refs", .dict (context.artifactRefs.entries.map (fun e => (e.1, .str e.2)))),
    ("runtime_refs", .dict context.runtimeRefs.entries)]

def persistSummary (step : PlanStep) : Executing σ (Option String) := withContext fun context =>
  persistJson "report.json" s!"{step.stepId}.collected_context.json" (collectedContext context)

def collectArtifact (step : PlanStep) : Executing σ StepExecutionResult :=
  requiring ExecutionContext.artifactManager "artifact_manager" fun _ => do
    let items ← Computation.lift ((step.inputs.get "items").getD (.list [])).iter
    let refs ← Computation.each persistItem items
    let summaryRef ← persistSummary step
    let kept := keptRefs (refs ++ [summaryRef])
    return { status := .succeeded, outputs := [("artifact_refs", strings kept)]
             artifactRefs := kept }

end CollectArtifact

section Reserved

/-- An executor that is not there yet. -/
def notImplemented (integration : String) (_ : PlanStep) : Executing σ StepExecutionResult :=
  pure { status := .skipped
         errorType := some "TemporarilyNotImplemented"
         errorMessage := some
           s!"Temporarily not implemented in v1. Reserved for future {integration} integration." }

def generateScript : PlanStep → Executing σ StepExecutionResult := notImplemented "script-agent"

def runTest : PlanStep → Executing σ StepExecutionResult := notImplemented "test-agent"

def summarizeReport : PlanStep → Executing σ StepExecutionResult := notImplemented "report"

end Reserved

/-- The executors of the default registry with their kinds, in the order they are registered. -/
def defaultBodies : List (String × (PlanStep → Executing σ StepExecutionResult)) :=
  [(PlanStepKind.inspectPackage, inspectPackage), (PlanStepKind.buildImage, buildImage),
    (PlanStepKind.createRuntime, createRuntime),
    (PlanStepKind.inspectEnvironment, inspectEnvironment), (PlanStepKind.runCommand, runCommand),
    (PlanStepKind.executeProbe, executeProbe), (PlanStepKind.collectArtifact, collectArtifact),
    (PlanStepKind.generateScript, generateScript), (PlanStepKind.runTest, runTest),
    (PlanStepKind.summarizeReport, summarizeReport)]

/-- `create_default_step_executor_registry`. -/
def createDefaultStepExecutorRegistry : StepExecutorRegistry σ :=
  StepExecutorRegistry.ofExecutors (defaultBodies.map (fun e => executorOf e.1 e.2))

end SthBoring.Execution.StepExecutors
