/- Module: SthBoring/Capability/BuiltinCapabilities
   source: sdk_test_agent/capability/builtin_capabilities.py
   digest: The capabilities that come with the package, and the registry made of them. -/

import SthBoring.Capability.CapabilityIoModels
import SthBoring.Capability.CapabilityModels

set_option autoImplicit false
set_option relaxedAutoImplicit false

namespace SthBoring.Capability.BuiltinCapabilities

open SthBoring.Lib.OrderedDict (PyDict)
open SthBoring.Lib.PyValue (Value Fields PyExc)
open SthBoring.Capability.CapabilityModels
open SthBoring.Capability.CapabilityIoModels

/-- `_schema`. -/
def schema (model : Annotation) : Value := modelJsonSchema model

section Descriptors

/-- A step as an example shows it. -/
private def exampleStep (stepId kind : String) (inputs : Fields) : Value :=
  .dict [("step_id", .str stepId), ("kind", .str kind), ("inputs", .dict inputs)]

def inspectPackageCapability : CapabilityDescriptor where
  capabilityId := "cap.inspect_package.v1"
  version := "1.0.0"
  stepKind := "inspect_package"
  executorName := some "InspectPackageStepExecutor"
  ownerModule := "inspection.package_inspector"
  name := "Inspect package input"
  description := "Inspect package input metadata and produce a package report."
  inputModelRef := some "InspectPackageInput"
  outputModelRef := some "InspectPackageOutput"
  inputSchema := schema inspectPackageInput
  outputSchema := schema inspectPackageOutput
  requiredContextKeys := ["package_inspector"]
  riskLevel := .low
  visibility := .plannerVisible
  examples := [exampleStep "inspect_package" "inspect_package"
    [("package_type", .str "java"), ("input_refs", .dict [("jar", .str "artifact_jar")])]]
  tags := ["inspection", "package"]

def buildImageCapability : CapabilityDescriptor where
  capabilityId := "cap.build_image.docker.v1"
  version := "1.0.0"
  stepKind := "build_image"
  executorName := some "BuildImageStepExecutor"
  ownerModule := "docker_driver"
  name := "Build Docker image"
  description :=
    "Build a Docker image from an artifact-backed Dockerfile and optional build context."
  inputModelRef := some "BuildImageInput"
  outputModelRef := some "BuildImageOutput"
  inputSchema := schema buildImageInput
  outputSchema := schema buildImageOutput
  requiredContextKeys := ["docker_driver"]
  riskLevel := .medium
  visibility := .plannerVisible
  examples := [exampleStep "build_image" "build_image"
    [("image_name", .str "demo-sdk"), ("tag", .str "latest"),
      ("dockerfile", .dict [("artifact_ref", .str "artifact_dockerfile")])]]
  tags := ["docker", "build"]

def createRuntimeCapability : CapabilityDescriptor where
  capabilityId := "cap.create_runtime.docker.v1"
  version := "1.0.0"
  stepKind := "create_runtime"
  executorName := some "CreateRuntimeStepExecutor"
  ownerModule := "control_plane.runtime_manager"
  name := "Create runtime"
  description := "Create and optionally start a managed runtime from an image reference."
  inputModelRef := some "CreateRuntimeInput"
  outputModelRef := some "CreateRuntimeOutput"
  inputSchema := schema createRuntimeInput
  outputSchema := schema createRuntimeOutput
  requiredContextKeys := ["runtime_manager"]
  riskLevel := .medium
  visibility := .plannerVisible
  examples := [exampleStep "create_runtime" "create_runtime"
    [("image_ref", .str "demo-sdk:latest"), ("start", .bool true)]]
  tags := ["runtime", "docker"]

def inspectEnvironmentCapability : CapabilityDescriptor where
  capabilityId := "cap.inspect_environment.docker.v1"
  version := "1.0.0"
  stepKind := "inspect_environment"
  executorName := some "InspectEnvironmentStepExecutor"
  ownerModule := "inspection.env_inspector"
  name := "Inspect environment"
  description := "Inspect runtime readiness and environment details with read-only probes."
  inputModelRef := some "InspectEnvironmentInput"
  outputModelRef := some "InspectEnvironmentOutput"
  inputSchema := schema inspectEnvironmentInput
  outputSchema := schema inspectEnvironmentOutput
  requiredContextKeys := ["env_inspector"]
  riskLevel := .low
  visibility := .plannerVisible
  examples := [exampleStep "inspect_environment" "inspect_environment"
    [("runtime_ref", .str "runtime_1"), ("probes", .list [.str "java -version"])]]
  tags := ["inspection", "environment"]

def runCommandCapability : CapabilityDescriptor where
  capabilityId := "cap.run_command.inspect_exec.v1"
  version := "1.0.0"
  stepKind := "run_command"
  executorName := some "RunCommandStepExecutor"
  ownerModule := "cmd_ctrl"
  name := "Run readonly command"
  description := "Run a low-risk command through cmd_ctrl using a declared safe action payload."
  inputModelRef := some "RunCommandInput"
  outputModelRef := some "RunCommandOutput"
  inputSchema := schema runCommandInput
  outputSchema := schema runCommandOutput
  requiredContextKeys := ["command_controller"]
  riskLevel := .low
  visibility := .plannerVisible
  examples := [exampleStep "check_java_version" "run_command"
    [("action", .str "inspect_exec"),
      ("payload", .dict [("cmd", .list [.str "java", .str "-version"]), ("timeout_sec", .int 30)])]]
  tags := ["cmd_ctrl", "readonly", "inspect"]

def executeProbeCapability : CapabilityDescriptor where
  capabilityId := "cap.execute_probe.inspect_exec.v1"
  version := "1.0.0"
  stepKind := "execute_probe"
  executorName := some "ExecuteProbeStepExecutor"
  ownerModule := "cmd_ctrl"
  name := "Execute readiness probe"
  description := "Run a named read-only readiness probe through cmd_ctrl InspectExecOperator."
  inputModelRef := some "ExecuteProbeInput"
  outputModelRef := some "ExecuteProbeOutput"
  inputSchema := schema executeProbeInput
  outputSchema := schema executeProbeOutput
  requiredContextKeys := ["command_controller"]
  riskLevel := .low
  visibility := .plannerVisible
  examples := [exampleStep "probe_pwd" "execute_probe"
    [("probe_name", .str "pwd"), ("payload", .dict [("cmd", .list [.str "pwd"])])]]
  tags := ["probe", "readonly"]

def collectArtifactCapability : CapabilityDescriptor where
  capabilityId := "cap.collect_artifact.v1"
  version := "1.0.0"
  stepKind := "collect_artifact"
  executorName := some "CollectArtifactStepExecutor"
  ownerModule := "artifact_manager"
  name := "Collect artifact"
  description :=
    "Persist an execution artifact reference through artifact_manager owned orchestration."
  inputModelRef := some "CollectArtifactInput"
  outputModelRef := some "CollectArtifactOutput"
  inputSchema := schema collectArtifactInput
  outputSchema := schema collectArtifactOutput
  requiredContextKeys := ["artifact_manager"]
  riskLevel := .low
  visibility := .plannerVisible
  examples := [exampleStep "collect_log" "collect_artifact"
    [("source_path", .str "logs/app.log"), ("artifact_kind", .str "exec.log"),
      ("name", .str "app.log")]]
  tags := ["artifact", "reporting"]

/-- `_placeholder`. -/
def placeholder (stepKind executorName name : String) : CapabilityDescriptor where
  capabilityId := s!"cap.{stepKind}.placeholder.v1"
  version := "0.1.0"
  stepKind := stepKind
  executorName := some executorName
  ownerModule := "execution.step_executors"
  name := name
  description := s!"Placeholder for future {name.toLower} integration."
  inputModelRef := some "EmptyPlaceholderInput"
  outputModelRef := some "EmptyPlaceholderOutput"
  inputSchema := schema emptyPlaceholderInput
  outputSchema := schema emptyPlaceholderOutput
  requiredContextKeys := []
  riskLevel := .medium
  visibility := .plannerVisible
  defaultEnabled := false
  isPlaceholder := true
  tags := ["placeholder"]

def parseTextCapability : CapabilityDescriptor :=
  placeholder "parse_text" "ParseTextStepExecutor" "Parse text"

def generateScriptCapability : CapabilityDescriptor :=
  placeholder "generate_script" "GenerateScriptStepExecutor" "Generate script"

def runTestCapability : CapabilityDescriptor :=
  placeholder "run_test" "RunTestStepExecutor" "Run test"

def summarizeReportCapability : CapabilityDescriptor :=
  placeholder "summarize_report" "SummarizeReportStepExecutor" "Summarize report"

/-- `BUILTIN_CAPABILITIES`. -/
def builtinCapabilities : List CapabilityDescriptor :=
  [inspectPackageCapability, buildImageCapability, createRuntimeCapability,
    inspectEnvironmentCapability, runCommandCapability, executeProbeCapability,
    collectArtifactCapability, parseTextCapability, generateScriptCapability, runTestCapability,
    summarizeReportCapability]

def buildBuiltinCapabilityRegistry : Except PyExc CapabilityRegistry :=
  builtinCapabilities.foldlM CapabilityRegistry.register .empty

end Descriptors

section Registration

variable {r : CapabilityRegistry} {d : CapabilityDescriptor} {ds : List CapabilityDescriptor}

theorem register_of_new (newId : d.capabilityId ∉ r.listAll.map CapabilityDescriptor.capabilityId)
    (newKind : d.stepKind ∉ r.listAll.map CapabilityDescriptor.stepKind) :
    ∃ r', r.register d = .ok r' ∧ r'.listAll = r.listAll ++ [d] := by
  rw [CapabilityRegistry.listAll, ← r.idKeys] at newId
  rw [CapabilityRegistry.listAll, ← r.same, ← r.kindKeys] at newKind
  refine ⟨_, (dif_pos newId).trans (dif_pos newKind), ?_⟩
  exact PyDict.values_set_of_notMem _ _ newId

/-- Capabilities with ids and kinds of their own are all registered. -/
theorem register_all (ids : ((r.listAll ++ ds).map CapabilityDescriptor.capabilityId).Nodup)
    (kinds : ((r.listAll ++ ds).map CapabilityDescriptor.stepKind).Nodup) :
    ∃ r', ds.foldlM CapabilityRegistry.register r = .ok r' ∧ r'.listAll = r.listAll ++ ds := by
  induction ds generalizing r with
  | nil => exact ⟨r, rfl, (List.append_nil _).symm⟩
  | cons d ds ih =>
    have newId := List.disjoint_of_nodup_append (List.map_append ▸ ids)
    have newKind := List.disjoint_of_nodup_append (List.map_append ▸ kinds)
    obtain ⟨r₁, registered, listed⟩ := register_of_new
      (fun mem => newId mem List.mem_cons_self) (fun mem => newKind mem List.mem_cons_self)
    have all : r₁.listAll ++ ds = r.listAll ++ d :: ds := by
      rw [listed, List.append_assoc]
      rfl
    obtain ⟨r', rest, listed'⟩ := ih (by rwa [all]) (by rwa [all])
    refine ⟨r', ?_, listed'.trans all⟩
    rw [List.foldlM_cons, registered]
    exact rest

theorem nodup_builtin_ids :
    (builtinCapabilities.map CapabilityDescriptor.capabilityId).Nodup := by
  decide

theorem nodup_builtin_kinds : (builtinCapabilities.map CapabilityDescriptor.stepKind).Nodup := by
  decide

/-- The registry is built, and lists the package's capabilities in their order. -/
theorem builtin_built : ∃ registry, buildBuiltinCapabilityRegistry = .ok registry ∧
    registry.listAll = builtinCapabilities :=
  register_all nodup_builtin_ids nodup_builtin_kinds

/-- `build_builtin_capability_registry()`. -/
def builtinRegistry : CapabilityRegistry :=
  (buildBuiltinCapabilityRegistry.toOption).get (by
    obtain ⟨registry, built, -⟩ := builtin_built
    rw [built]
    rfl)

theorem buildBuiltinCapabilityRegistry_eq :
    buildBuiltinCapabilityRegistry = .ok builtinRegistry := by
  obtain ⟨registry, built, -⟩ := builtin_built
  have own : builtinRegistry = registry := by
    refine Option.get_of_eq_some _ ?_
    rw [built]
    rfl
  rw [built, own]

@[simp] theorem listAll_builtinRegistry : builtinRegistry.listAll = builtinCapabilities := by
  obtain ⟨registry, built, listed⟩ := builtin_built
  have own := buildBuiltinCapabilityRegistry_eq.symm.trans built
  cases own
  exact listed

end Registration

section Uses

/-- The reserved capabilities are the ones that no request turns on. -/
theorem enabled_iff {d : CapabilityDescriptor} (mem : d ∈ builtinCapabilities) :
    d.defaultEnabled = true ↔ d.isPlaceholder = false := by
  have all : ∀ d ∈ builtinCapabilities, (d.defaultEnabled = true ↔ d.isPlaceholder = false) := by
    decide
  exact all d mem

theorem not_deprecated {d : CapabilityDescriptor} (mem : d ∈ builtinCapabilities) :
    d.isDeprecated = false := by
  have all : ∀ d ∈ builtinCapabilities, d.isDeprecated = false := by decide
  exact all d mem

end Uses

end SthBoring.Capability.BuiltinCapabilities
