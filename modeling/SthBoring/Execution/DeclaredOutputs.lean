/- Module: SthBoring/Execution/DeclaredOutputs
   source: sdk_test_agent/execution/step_executors/*.py,
     sdk_test_agent/capability/capability_io_models.py, builtin_capabilities.py
   digest: Which outputs of successful steps fit the schemas of their capabilities. -/

import SthBoring.Capability.CheckedPayloads
import SthBoring.Execution.ExecutorSpecs

set_option autoImplicit false
set_option relaxedAutoImplicit false

namespace SthBoring.Execution.DeclaredOutputs

universe u

open SthBoring.Lib.Effect (Computation Keeps Returns)
open SthBoring.Lib.OrderedDict (assocGet assocGet_eq_none_iff)
open SthBoring.Lib.PyObject
open SthBoring.Lib.PyValue
open SthBoring.Plan.Models
open SthBoring.Capability.CapabilityIoModels
open SthBoring.Capability.CheckedPayloads
open SthBoring.Capability.ModelAgreement
open SthBoring.Capability.ModelShapes
open SthBoring.Capability.ModelValidation (FieldSpecs)
open SthBoring.Execution.Engine (fakeStep fakeContext)
open SthBoring.Execution.ExecutorSpecs (body_of_kind)
open SthBoring.Execution.Models
open SthBoring.Execution.StepExecutors
open SthBoring.Execution.StepUtils

variable {σ : Type u}

section Schemas

def OptionalText (v : Value) : Prop := v.isStr = true ∨ v = .null

def OptionalInt (v : Value) : Prop := v.isInt = true ∨ v = .null

/-- The checker looks into no object below these fields. -/
def Flat (fields : FieldSpecs) : Prop := ∀ f ∈ fields, ∀ w, Keyed f.2.1 w

theorem keyed_of_flat {name : String} {extra : Extra} {fields : FieldSpecs} {outputs : Fields}
    (flat : Flat fields) (nodup : (outputs.map Prod.fst).Nodup) :
    Keyed (.model name extra fields) (.dict outputs) := by
  rintro entries same
  cases same
  exact ⟨nodup, fieldsKeyed_iff.mpr fun f hf w _ => flat f hf w⟩

/-- Outputs pass an open model when the required ones are there, and each declared one fits. -/
theorem passes_open_iff {name : String} {fields : FieldSpecs} {outputs : Fields}
    (grammar : InGrammar (.model name .allow fields)) (flat : Flat fields)
    (nodup : (outputs.map Prod.fst).Nodup) :
    Passes (.model name .allow fields) (.dict outputs) ↔ ∀ f ∈ fields,
      (f.2.2.required = true → (outputs.get f.1).isSome = true) ∧
        ∀ v, outputs.get f.1 = some v → HasShape f.2.1 v ∧ Within f.2.1 f.2.2 v := by
  rw [passes_iff grammar (keyed_of_flat flat nodup)]
  simp only [HasShape, Within, Value.dict.injEq, exists_eq_left', forall_eq', fieldShapes_iff,
    fieldsWithin_iff, reduceCtorEq, false_imp_iff, true_and]
  constructor
  · rintro ⟨shapes, within⟩ f hf
    exact ⟨(shapes f hf).1, fun v found => ⟨(shapes f hf).2 v found, within f hf v found⟩⟩
  · intro h
    exact ⟨fun f hf => ⟨(h f hf).1, fun v found => ((h f hf).2 v found).1⟩,
      fun f hf v found => ((h f hf).2 v found).2⟩

theorem optionalText_iff {v : Value} :
    HasShape (.union [.str, .null]) v ∧ Within (.union [.str, .null]) { required := false } v ↔
      OptionalText v := by
  simp [HasShape, SomeShape, Within, SomeMember, InBounds, OptionalText]

theorem optionalInt_iff {v : Value} :
    HasShape (.union [.int, .null]) v ∧ Within (.union [.int, .null]) { required := false } v ↔
      OptionalInt v := by
  simp [HasShape, SomeShape, Within, SomeMember, InBounds, OptionalInt]

/-- A required output that is not among the keys. -/
theorem not_passes_of_missing {name : String} {fields : FieldSpecs} {outputs : Fields}
    (grammar : InGrammar (.model name .allow fields)) (flat : Flat fields)
    (nodup : (outputs.map Prod.fst).Nodup) {f : String × Annotation × FieldInfo} (hf : f ∈ fields)
    (required : f.2.2.required = true) (missing : f.1 ∉ outputs.map Prod.fst) :
    ¬ Passes (.model name .allow fields) (.dict outputs) := by
  rw [passes_open_iff grammar flat nodup]
  intro fits
  have present := (fits f hf).1 required
  rw [Fields.get, (assocGet_eq_none_iff f.1 outputs).mpr missing] at present
  cases present

end Schemas

section Answers

/-- The images that were built. -/
def builtImages (calls : List ServiceCall) : List Value :=
  calls.filterMap fun
    | .buildImage _ (.ok image) => some image
    | _ => none

/-- The containers that were created. -/
def createdContainers (calls : List ServiceCall) : List Value :=
  calls.filterMap fun
    | .createContainer _ _ (.ok container) => some container
    | _ => none

/-- The deployments that were recorded. -/
def recordedDeployments (calls : List ServiceCall) : List Value :=
  calls.filterMap fun
    | .createDeploymentRecord _ (.ok deployment) => some deployment
    | _ => none

/-- The responses to actions. -/
def actionResponses (calls : List ServiceCall) : List Fields :=
  calls.filterMap fun
    | .executeAction _ _ (.ok response) => some response
    | _ => none

/-- The exit code that a response reports. -/
def exitCodeOf (response : Fields) : Value :=
  match response.get "data" with
  | some (.dict data) => Fields.getD data "exit_code"
  | _ => .null

def ImagesTyped (calls : List ServiceCall) : Prop :=
  ∀ image ∈ builtImages calls, OptionalText (getAttrD image "image_id" .null)

def RuntimesTyped (calls : List ServiceCall) : Prop :=
  (∀ container ∈ createdContainers calls, OptionalText (getAttrD container "container_id" .null)) ∧
    ∀ deployment ∈ recordedDeployments calls,
      OptionalText (getAttrD deployment "deployment_id" .null)

def ResponsesTyped (calls : List ServiceCall) : Prop :=
  ∀ response ∈ actionResponses calls, OptionalInt (exitCodeOf response)

end Answers

section Successes

variable {step : PlanStep} {context : ExecutionContext σ} {w : σ} {result : StepExecutionResult}
  {s' : Working σ}

/-- A success has outputs under these keys. -/
def ReportsKeys (keys : List String) (r : StepExecutionResult) : Prop :=
  r.status = .succeeded → r.outputs.map Prod.fst = keys

theorem reportsKeys_failedResult (keys : List String) (errorType errorMessage : String) :
    ReportsKeys keys (failedResult errorType errorMessage) :=
  fun success => nomatch success

theorem inspectPackage_keys : Returns
    (ReportsKeys ["package_report", "language", "package_name", "version"])
    (inspectPackage (σ := σ) step) := by
  refine Returns.requiring (reportsKeys_failedResult _ _ _) fun inspector => ?_
  refine Returns.withContext fun context => ?_
  dsimp only
  split
  · refine Returns.bind fun report => Returns.bind fun ref => Returns.pure fun _ => ?_
    exact map_fst_jsonableFields _
  · exact Returns.pure (reportsKeys_failedResult _ _ _)

theorem inspectEnvironment_keys : Returns (ReportsKeys ["env_report", "readiness"])
    (inspectEnvironment (σ := σ) step) := by
  refine Returns.requiring (reportsKeys_failedResult _ _ _) fun inspector => ?_
  refine Returns.withContext fun context => ?_
  split
  · refine Returns.bind fun report => Returns.bind fun ref => Returns.bind fun _ => ?_
    exact Returns.pure fun _ => map_fst_jsonableFields _
  · exact Returns.pure (reportsKeys_failedResult _ _ _)

theorem executeProbe_keys : Returns (ReportsKeys ["probe_result", "failed_count"])
    (executeProbe (σ := σ) step) := by
  refine Returns.requiring (reportsKeys_failedResult _ _ _) fun controller => ?_
  refine Returns.bind fun probes => Returns.bind fun runs => Returns.bind fun ref => ?_
  exact Returns.bind fun stdout => Returns.bind fun stderr => Returns.pure fun _ => rfl

theorem collectArtifact_keys : Returns (ReportsKeys ["artifact_refs"])
    (collectArtifact (σ := σ) step) := by
  refine Returns.requiring (reportsKeys_failedResult _ _ _) fun manager => ?_
  refine Returns.bind fun items => Returns.bind fun refs => Returns.bind fun ref => ?_
  exact Returns.pure fun _ => rfl

theorem get_of_getAttr {v w : Value} {name : String} (has : getAttr v name = .ok w) :
    getAttrD v name .null = w := by
  unfold getAttr at has
  unfold getAttrD
  split at has
  · cases has
    rw [‹attribute? v name = some _›]
    rfl
  · cases has

theorem buildOutputs_eq {spec image : Value} {logs : String} {outputs : Fields}
    (made : buildOutputs spec image logs = .ok outputs) :
    ∃ tags tag, outputs = [("image_id", getAttrD image "image_id" .null), ("tags", tags),
      ("tag", tag), ("build_logs", .str logs)] := by
  unfold buildOutputs at made
  obtain ⟨imageId, has, made⟩ := bind_eq_ok.mp made
  obtain ⟨tags, -, made⟩ := bind_eq_ok.mp made
  obtain ⟨tag, -, made⟩ := bind_eq_ok.mp made
  cases made
  exact ⟨tags, tag, by rw [get_of_getAttr has]⟩

theorem builtImages_of_persisted {kind name text : String} {mimeType : Option String}
    {s s' : Working σ} {ref : Option String}
    (persisted : persistText kind name text mimeType s = (.ok ref, s')) :
    builtImages s'.calls = builtImages s.calls := by
  have kept := (persistText_calls (C := fun calls => builtImages calls = builtImages s.calls)
    (fun calls call answer h => by rw [← h]; simp [builtImages]) kind name text mimeType).after
    (s := s) rfl
  rwa [persisted] at kept

/-- A deployment is recorded by one call, if it is. -/
theorem createDeployment_answers {manager : RuntimeManager σ} {taskId : String} {inputs : Fields}
    {image containerId : Value} {s s' : Working σ} {fields : Fields}
    (recorded : createDeployment manager taskId inputs image containerId s = (.ok fields, s')) :
    ∃ deployment : Option Value,
      fields = deployment.toList.map (fun d => ("deployment_id", getAttrD d "deployment_id" .null)) ∧
      ∃ kwargs, s'.calls = s.calls ++
        deployment.toList.map (fun d => .createDeploymentRecord kwargs (.ok d)) := by
  unfold createDeployment at recorded
  split at recorded
  · obtain ⟨kwargs, s1, made, asks⟩ := Computation.ok_of_bind recorded
    obtain ⟨deployment, s2, answered, ends⟩ := Computation.ok_of_bind asks
    cases ends
    refine ⟨some deployment, rfl, kwargs, ?_⟩
    rw [(of_ask_ok answered).2, (Computation.ok_of_lift made).2]
    rfl
  · cases recorded
    exact ⟨none, rfl, [], (List.append_nil _).symm⟩

/-- The one image of a successful build is where the outputs are from. -/
theorem buildImage_success (ran : buildImage step ⟨context, w, []⟩ = (.ok result, s'))
    (success : result.status = .succeeded) : ∃ image tags tag logs,
      builtImages s'.calls = [image] ∧
      result.outputs = [("image_id", getAttrD image "image_id" .null), ("tags", tags),
        ("tag", tag), ("build_logs", logs)] := by
  obtain ⟨driver, -, found⟩ := of_requiring_succeeded (congrArg Prod.fst ran) success
  have runs := found.symm.trans ran
  obtain ⟨spec, s1, taken, asks⟩ := Computation.ok_of_bind runs
  obtain ⟨image, s2, built, reads⟩ := Computation.ok_of_bind asks
  obtain ⟨logs, s3, read, puts⟩ := Computation.ok_of_bind reads
  obtain ⟨outputs, s4, put, persists⟩ := Computation.ok_of_bind puts
  obtain ⟨ref, s5, persisted, ends⟩ := Computation.ok_of_bind persists
  cases ends
  obtain ⟨made, same⟩ := Computation.ok_of_lift put
  have calls : s4.calls = [.buildImage spec (.ok image)] := by
    rw [same, (Computation.ok_of_lift read).2, (of_ask_ok built).2, (Computation.ok_of_lift taken).2]
    rfl
  obtain ⟨tags, tag, reported⟩ := buildOutputs_eq made
  refine ⟨image, tags, tag, .str logs, ?_, reported⟩
  rw [builtImages_of_persisted persisted, calls]
  rfl

/-- The one container of a successful step, and the deployment where one is recorded, are where the
outputs are from. -/
theorem createRuntime_success (ran : createRuntime step ⟨context, w, []⟩ = (.ok result, s'))
    (success : result.status = .succeeded) :
    ∃ (container engine runtimeMetadata : Value) (deployment : Option Value),
      createdContainers s'.calls = [container] ∧
      recordedDeployments s'.calls = deployment.toList ∧
      result.outputs = [("container_id", getAttrD container "container_id" .null),
        ("engine_id", engine), ("runtime_metadata", runtimeMetadata)] ++
          deployment.toList.map (fun d => ("deployment_id", getAttrD d "deployment_id" .null)) := by
  obtain ⟨manager, -, found⟩ := of_requiring_succeeded (congrArg Prod.fst ran) success
  have runs := found.symm.trans ran
  unfold withContext at runs
  dsimp only at runs
  split at runs
  · obtain ⟨spec, s1, made, asks⟩ := Computation.ok_of_bind runs
    obtain ⟨container, s2, created, notes⟩ := Computation.ok_of_bind asks
    obtain ⟨_, s3, noted, records⟩ := Computation.ok_of_bind notes
    obtain ⟨deployment, s4, recorded, ends⟩ := Computation.ok_of_bind records
    cases ends
    have calls : s3.calls = [.createContainer spec context.taskId (.ok container)] := by
      cases noted
      rw [(of_ask_ok created).2, (Computation.ok_of_lift made).2]
      rfl
    obtain ⟨deployment, rfl, kwargs, later⟩ := createDeployment_answers recorded
    rw [calls] at later
    refine ⟨container, _, _, deployment, ?_, ?_, rfl⟩
    · rw [later]
      cases deployment <;> rfl
    · rw [later]
      cases deployment <;> rfl
  · cases runs
    cases success

/-- The exit code that is read is the one reported. -/
theorem exitCode_of_read {argv : Value} {response : Fields} {run : CommandRun}
    (read : readResponse argv response = .ok run) : run.exitCode = exitCodeOf response := by
  unfold readResponse at read
  obtain ⟨stdout, out, read⟩ := bind_eq_ok.mp read
  obtain ⟨stderr, err, read⟩ := bind_eq_ok.mp read
  obtain ⟨exitCode, code, read⟩ := bind_eq_ok.mp read
  cases read
  unfold exitCodeOf
  cases found : response.get "data" with
  | none =>
    rw [found] at code
    cases code
    rfl
  | some data =>
    rw [found] at code
    cases data with
    | dict entries =>
      cases code
      rfl
    | _ => cases code

/-- The one response to a command is where the outputs are from. -/
theorem runCommand_success (ran : runCommand step ⟨context, w, []⟩ = (.ok result, s'))
    (success : result.status = .succeeded) : ∃ response action, actionResponses s'.calls = [response] ∧
      result.outputs = [("action", action), ("response", .dict response),
        ("exit_code", exitCodeOf response)] := by
  obtain ⟨controller, -, found⟩ := of_requiring_succeeded (congrArg Prod.fst ran) success
  have runs := found.symm.trans ran
  obtain ⟨given, s1, taken, asks⟩ := Computation.ok_of_bind runs
  obtain ⟨response, s2, answered, reads⟩ := Computation.ok_of_bind asks
  obtain ⟨run, s3, read, outs⟩ := Computation.ok_of_bind reads
  obtain ⟨stdout, s4, out, errs⟩ := Computation.ok_of_bind outs
  obtain ⟨stderr, s5, err, ends⟩ := Computation.ok_of_bind errs
  cases ends
  refine ⟨response, (step.inputs.get "action").getD (.str "inspect_exec"), ?_, ?_⟩
  · rw [(Computation.ok_of_lift err).2, (Computation.ok_of_lift out).2,
      (Computation.ok_of_lift read).2, (of_ask_ok answered).2, (Computation.ok_of_lift taken).2]
    rfl
  · rw [exitCode_of_read (Computation.ok_of_lift read).1]

end Successes

section Claim

/-- The kinds of the capabilities that are no placeholders, with the models of their outputs and
with what the answers of the tools have to be like. -/
def builtinOutputs : List (String × Annotation × (List ServiceCall → Prop)) :=
  [(PlanStepKind.inspectPackage, inspectPackageOutput, fun _ => False),
    (PlanStepKind.buildImage, buildImageOutput, ImagesTyped),
    (PlanStepKind.createRuntime, createRuntimeOutput, RuntimesTyped),
    (PlanStepKind.inspectEnvironment, inspectEnvironmentOutput, fun _ => False),
    (PlanStepKind.runCommand, runCommandOutput, ResponsesTyped),
    (PlanStepKind.executeProbe, executeProbeOutput, fun _ => False),
    (PlanStepKind.collectArtifact, collectArtifactOutput, fun _ => True)]

variable {step : PlanStep} {context : ExecutionContext σ} {w : σ} {result : StepExecutionResult}
  {s' : Working σ}

theorem inGrammar_inspectPackageOutput : InGrammar inspectPackageOutput :=
  ⟨by decide, trivial, nofun, trivial, fun _ => ⟨_, rfl⟩, trivial⟩

theorem inGrammar_buildImageOutput : InGrammar buildImageOutput :=
  ⟨by decide, ⟨trivial, trivial, trivial⟩, fun _ => ⟨_, rfl⟩, ⟨trivial, trivial, trivial⟩,
    fun _ => ⟨_, rfl⟩, ⟨trivial, trivial, trivial⟩, fun _ => ⟨_, rfl⟩, trivial⟩

theorem inGrammar_createRuntimeOutput : InGrammar createRuntimeOutput :=
  ⟨by decide, ⟨trivial, trivial, trivial⟩, fun _ => ⟨_, rfl⟩, ⟨trivial, trivial, trivial⟩,
    fun _ => ⟨_, rfl⟩, ⟨trivial, trivial, trivial⟩, fun _ => ⟨_, rfl⟩, trivial⟩

theorem inGrammar_inspectEnvironmentOutput : InGrammar inspectEnvironmentOutput :=
  ⟨by decide, trivial, nofun, trivial, fun _ => ⟨_, rfl⟩, trivial⟩

theorem inGrammar_runCommandOutput : InGrammar runCommandOutput :=
  ⟨by decide, ⟨trivial, trivial, trivial⟩, fun _ => ⟨_, rfl⟩, trivial, fun _ => ⟨_, rfl⟩, trivial,
    fun _ => ⟨_, rfl⟩, trivial, fun _ => ⟨_, rfl⟩, trivial⟩

theorem inGrammar_executeProbeOutput : InGrammar executeProbeOutput :=
  ⟨by decide, trivial, nofun, trivial, fun _ => ⟨_, rfl⟩, trivial, fun _ => ⟨_, rfl⟩,
    ⟨trivial, trivial, trivial⟩, fun _ => ⟨_, rfl⟩, trivial, fun _ => ⟨_, rfl⟩, trivial⟩

theorem inGrammar_collectArtifactOutput : InGrammar collectArtifactOutput :=
  ⟨by decide, ⟨trivial, trivial, trivial⟩, fun _ => ⟨_, rfl⟩, ⟨trivial, trivial, trivial⟩,
    fun _ => ⟨_, rfl⟩, trivial⟩

theorem buildImage_passes_iff (ran : buildImage step ⟨context, w, []⟩ = (.ok result, s'))
    (success : result.status = .succeeded) :
    Passes buildImageOutput (.dict result.outputs) ↔ ImagesTyped s'.calls := by
  obtain ⟨image, tags, tag, logs, built, outputs⟩ := buildImage_success ran success
  rw [outputs, ImagesTyped, built]
  unfold buildImageOutput
  rw [passes_open_iff inGrammar_buildImageOutput (by simp [Flat, Keyed, AllKeyed]) (by simp)]
  simp [Fields.get, assocGet, optionalText_iff]

theorem createRuntime_passes_iff (ran : createRuntime step ⟨context, w, []⟩ = (.ok result, s'))
    (success : result.status = .succeeded) :
    Passes createRuntimeOutput (.dict result.outputs) ↔ RuntimesTyped s'.calls := by
  obtain ⟨container, engine, runtimeMetadata, deployment, created, recorded, outputs⟩ :=
    createRuntime_success ran success
  have keys : (result.outputs.map Prod.fst).Nodup := by
    rw [outputs]
    cases deployment with
    | none => exact (by decide : ["container_id", "engine_id", "runtime_metadata"].Nodup)
    | some _ =>
      exact (by decide : ["container_id", "engine_id", "runtime_metadata", "deployment_id"].Nodup)
  have runtimeRef : result.outputs.get "runtime_ref" = none := by
    rw [outputs]
    cases deployment <;> rfl
  have containerId : result.outputs.get "container_id" =
      some (getAttrD container "container_id" .null) := by
    rw [outputs]
    rfl
  have deploymentId : result.outputs.get "deployment_id" =
      deployment.map (fun d => getAttrD d "deployment_id" .null) := by
    rw [outputs]
    cases deployment <;> rfl
  unfold createRuntimeOutput
  rw [passes_open_iff inGrammar_createRuntimeOutput (by simp [Flat, Keyed, AllKeyed]) keys,
    RuntimesTyped, created, recorded]
  simp [runtimeRef, containerId, deploymentId, optionalText_iff]

theorem runCommand_passes_iff (ran : runCommand step ⟨context, w, []⟩ = (.ok result, s'))
    (success : result.status = .succeeded) :
    Passes runCommandOutput (.dict result.outputs) ↔ ResponsesTyped s'.calls := by
  obtain ⟨response, action, answered, outputs⟩ := runCommand_success ran success
  rw [outputs, ResponsesTyped, answered]
  unfold runCommandOutput
  rw [passes_open_iff inGrammar_runCommandOutput (by simp [Flat, Keyed, AllKeyed]) (by simp)]
  simp [Fields.get, assocGet, optionalInt_iff]

theorem collectArtifact_passes (keys : result.outputs.map Prod.fst = ["artifact_refs"]) :
    Passes collectArtifactOutput (.dict result.outputs) := by
  have nodup : (result.outputs.map Prod.fst).Nodup := by
    rw [keys]
    decide
  unfold collectArtifactOutput
  refine (passes_open_iff inGrammar_collectArtifactOutput (by simp [Flat, Keyed, AllKeyed]) nodup).mpr ?_
  have absent : ∀ key, key ≠ "artifact_refs" → result.outputs.get key = none := by
    intro key other
    refine (assocGet_eq_none_iff key result.outputs).mpr ?_
    rw [keys]
    exact fun listed => other (List.mem_singleton.mp listed)
  simp [absent]

/-- The outputs of a successful step pass the schema of its capability if and only if the answers
of the tools are typed as its kind demands; after an inspection or a probe they never do. -/
theorem outputs_pass_iff {kind : String} {body : PlanStep → Executing σ StepExecutionResult}
    (default : (kind, body) ∈ defaultBodies) {model : Annotation} {typed : List ServiceCall → Prop}
    (builtin : (kind, model, typed) ∈ builtinOutputs)
    (ran : body step ⟨context, w, []⟩ = (.ok result, s')) (success : result.status = .succeeded) :
    Passes model (.dict result.outputs) ↔ typed s'.calls := by
  have nodup : ∀ keys, keys.Nodup → result.outputs.map Prod.fst = keys →
      (result.outputs.map Prod.fst).Nodup := fun keys distinct is => is ▸ distinct
  simp only [builtinOutputs, List.mem_cons, Prod.mk.injEq, List.not_mem_nil, or_false] at builtin
  rcases builtin with ⟨rfl, rfl, rfl⟩ | ⟨rfl, rfl, rfl⟩ | ⟨rfl, rfl, rfl⟩ | ⟨rfl, rfl, rfl⟩ |
    ⟨rfl, rfl, rfl⟩ | ⟨rfl, rfl, rfl⟩ | ⟨rfl, rfl, rfl⟩
  · obtain rfl := body_of_kind default rfl
    have keys := inspectPackage_keys.of_ok ran success
    refine iff_of_false (not_passes_of_missing inGrammar_inspectPackageOutput
      (by simp [Flat, Keyed]) (nodup _ (by decide) keys) List.mem_cons_self rfl ?_) id
    rw [keys]
    decide
  · obtain rfl := body_of_kind default rfl
    exact buildImage_passes_iff ran success
  · obtain rfl := body_of_kind default rfl
    exact createRuntime_passes_iff ran success
  · obtain rfl := body_of_kind default rfl
    have keys := inspectEnvironment_keys.of_ok ran success
    refine iff_of_false (not_passes_of_missing inGrammar_inspectEnvironmentOutput
      (by simp [Flat, Keyed]) (nodup _ (by decide) keys) List.mem_cons_self rfl ?_) id
    rw [keys]
    decide
  · obtain rfl := body_of_kind default rfl
    exact runCommand_passes_iff ran success
  · obtain rfl := body_of_kind default rfl
    have keys := executeProbe_keys.of_ok ran success
    refine iff_of_false (not_passes_of_missing inGrammar_executeProbeOutput
      (by simp [Flat, Keyed, AllKeyed]) (nodup _ (by decide) keys) List.mem_cons_self rfl ?_) id
    rw [keys]
    decide
  · obtain rfl := body_of_kind default rfl
    exact iff_of_true (collectArtifact_passes (collectArtifact_keys.of_ok ran success)) trivial

end Claim

section Examples

/-- A controller whose commands exit with a code. -/
def exitingController (exitCode : Value) : CommandController Unit where
  executeAction _ _ w := (.ok [("ok", .bool true), ("data", .dict [("exit_code", exitCode)])], w)

def pwdStep : PlanStep :=
  { fakeStep "pwd" PlanStepKind.runCommand [] .abort with
    inputs := [("payload", .dict [("cmd", strings ["pwd"])])] }

def pwdContext : ExecutionContext Unit :=
  { fakeContext none with commandController := some (exitingController (.int 0)) }

/-- An inspector that finds every container ready. -/
def readyInspector : EnvInspector Unit where
  inspectDockerEnv _ w := (.ok (.obj "DockerEnvReport" [("readiness", .str "ready")]), w)

def envStep : PlanStep :=
  { fakeStep "inspect" PlanStepKind.inspectEnvironment [] .abort with
    inputs := [("container_id", .str "c1")] }

def envContext : ExecutionContext Unit :=
  { fakeContext none with envInspector := some readyInspector }

theorem outputs_pass_pwd : ∃ (result : StepExecutionResult) (s' : Working Unit),
    runCommand pwdStep ⟨pwdContext, (), []⟩ = (.ok result, s') ∧
      (Passes runCommandOutput (.dict result.outputs) ↔ ResponsesTyped s'.calls) := by
  have default : (PlanStepKind.runCommand, runCommand (σ := Unit)) ∈ defaultBodies := by
    simp [defaultBodies]
  have builtin : (PlanStepKind.runCommand, runCommandOutput, ResponsesTyped) ∈ builtinOutputs := by
    simp [builtinOutputs]
  have ends : ∃ (result : StepExecutionResult) (s' : Working Unit),
      runCommand pwdStep ⟨pwdContext, (), []⟩ = (.ok result, s') ∧ result.status = .succeeded :=
    ⟨_, _, rfl, rfl⟩
  obtain ⟨result, s', ran, success⟩ := ends
  exact ⟨result, s', ran, outputs_pass_iff default builtin ran success⟩

/-- The outputs of a successful inspection lack the status that the schema requires. -/
theorem inspection_lacks_status :
    (PlanStepKind.inspectEnvironment, inspectEnvironment (σ := Unit)) ∈ defaultBodies ∧
    ∃ (result : StepExecutionResult) (s' : Working Unit),
      inspectEnvironment envStep ⟨envContext, (), []⟩ = (.ok result, s') ∧
      result.status = .succeeded ∧ ¬ Passes inspectEnvironmentOutput (.dict result.outputs) := by
  refine ⟨by simp [defaultBodies], _, _, rfl, rfl, ?_⟩
  exact not_passes_of_missing inGrammar_inspectEnvironmentOutput (by simp [Flat, Keyed])
    (by decide : ["env_report", "readiness"].Nodup) List.mem_cons_self rfl
    (by decide : "env_status" ∉ ["env_report", "readiness"])

end Examples

end SthBoring.Execution.DeclaredOutputs
