/- Module: SthBoring/Execution/DeclaredWork
   source: sdk_test_agent/execution/step_executors/execute_probe_step_executor.py,
     collect_artifact_step_executor.py, sdk_test_agent/capability/capability_io_models.py
   digest: Successful probes and collections whose inputs are valid, and what they did. -/

import SthBoring.Capability.CapabilityIoModels
import SthBoring.Execution.StepExecutors

set_option autoImplicit false
set_option relaxedAutoImplicit false

namespace SthBoring.Execution.DeclaredWork

universe u

open SthBoring.Lib.Effect (Computation)
open SthBoring.Lib.OrderedDict (assocGet assocGet_eq_none_iff)
open SthBoring.Lib.PyJson (dumps Format)
open SthBoring.Lib.PyObject (jsonable)
open SthBoring.Lib.PyValue
open SthBoring.Plan.Models
open SthBoring.Capability.SchemaValidation (validatePayloadAgainstSchema declared_of_valid)
open SthBoring.Capability.CapabilityIoModels
open SthBoring.Execution.Models
open SthBoring.Execution.Engine (fakeStep fakeContext)
open SthBoring.Execution.StepUtils
open SthBoring.Execution.StepExecutors

variable {σ : Type u}

section Inputs

/-- The inputs of a step have no errors against the schema of a model. -/
def ValidInputs (model : Annotation) (step : PlanStep) : Prop :=
  ∃ recursionLimit,
    validatePayloadAgainstSchema recursionLimit (.dict step.inputs) (modelJsonSchema model) = .ok []

/-- Valid inputs of a model that forbids extra fields lack every other key. -/
theorem get_of_undeclared {name : String} {fields : List (String × Annotation × FieldInfo)}
    {step : PlanStep} (valid : ValidInputs (.model name .forbid fields) step) {key : String}
    (undeclared : key ∉ fields.map Prod.fst) : step.inputs.get key = none := by
  obtain ⟨recursionLimit, clean⟩ := valid
  have declared := declared_of_valid (closedObject_of_forbid name fields) clean
  refine (assocGet_eq_none_iff key step.inputs).mpr (fun present => undeclared ?_)
  obtain ⟨e, he, rfl⟩ := List.mem_map.mp present
  have known := declared e he
  rwa [map_fst_propertySchemas] at known

theorem getD_of_none {inputs : Fields} {key : String} (h : inputs.get key = none) :
    inputs.getD key = .null := by
  rw [Fields.getD, h]
  rfl

end Inputs

section SinglePersist

/-- The executor returned a success. -/
def Succeeds (body : PlanStep → Executing σ StepExecutionResult) (step : PlanStep)
    (context : ExecutionContext σ) (w : σ) : Prop :=
  ∃ result, (body step ⟨context, w, []⟩).1 = .ok result ∧ result.status = .succeeded

/-- The artifact manager raises on a call. -/
def RefusesCall (context : ExecutionContext σ) (call : PersistCall) (w : σ) : Prop :=
  ∃ manager exc, context.artifactManager = some manager ∧
    (manager.persistArtifactBytes call w).1 = .error exc

variable {body : PlanStep → Executing σ StepExecutionResult} {step : PlanStep}
  {context : ExecutionContext σ} {w : σ}

/-- The executor does nothing but persist this one text and report a success. -/
def OnlyPersists (body : PlanStep → Executing σ StepExecutionResult) (step : PlanStep)
    (context : ExecutionContext σ) (w : σ) (kind name text : String) : Prop :=
  ∃ k : Option String → StepExecutionResult, (∀ ref, (k ref).status = .succeeded) ∧
    body step ⟨context, w, []⟩ =
      (persistText kind name text (some "application/json") >>= fun ref => pure (k ref))
        ⟨context, w, []⟩

variable {kind name text : String}

theorem OnlyPersists.without_manager (only : OnlyPersists body step context w kind name text)
    (none : context.artifactManager = none) :
    Succeeds body step context w ∧ callsOf body step context w = [] := by
  obtain ⟨k, success, same⟩ := only
  rw [Computation.bind_of_ok (persistText_of_none none)] at same
  unfold Succeeds callsOf
  rw [same]
  exact ⟨⟨_, rfl, success _⟩, rfl⟩

theorem OnlyPersists.with_manager (only : OnlyPersists body step context w kind name text)
    {manager : ArtifactManager σ} (configured : context.artifactManager = some manager)
    {answer : Except PyExc PersistedRecord} {w' : σ}
    (answered : manager.persistArtifactBytes
      (textCall context kind name text (some "application/json")) w = (answer, w')) :
    (Succeeds body step context w ↔ ∃ record, answer = .ok record) ∧
      callsOf body step context w = [.persistArtifactBytes
        (textCall context kind name text (some "application/json")) answer] := by
  obtain ⟨k, success, same⟩ := only
  unfold Succeeds callsOf
  cases answer with
  | error exc =>
    rw [Computation.bind_of_error (persistText_of_error configured answered)] at same
    rw [same]
    simp
  | ok record =>
    rw [Computation.bind_of_ok (persistText_of_ok configured answered)] at same
    rw [same]
    exact ⟨⟨fun _ => ⟨record, rfl⟩, fun _ => ⟨_, rfl, success _⟩⟩, rfl⟩

/-- It succeeds unless the manager raises. -/
theorem OnlyPersists.succeeds_iff (only : OnlyPersists body step context w kind name text) :
    Succeeds body step context w ↔
      ¬ RefusesCall context (textCall context kind name text (some "application/json")) w := by
  unfold RefusesCall
  cases configured : context.artifactManager with
  | none =>
    have succeeds := (only.without_manager configured).1
    simp [succeeds]
  | some manager =>
    rcases answered : manager.persistArtifactBytes
      (textCall context kind name text (some "application/json")) w with ⟨answer, w'⟩
    rw [(only.with_manager configured answered).1]
    constructor
    · rintro ⟨record, rfl⟩ ⟨manager', exc, same, refused⟩
      cases same
      rw [answered] at refused
      cases refused
    · intro taken
      cases answer with
      | ok record => exact ⟨record, rfl⟩
      | error exc => exact absurd ⟨manager, exc, rfl, by rw [answered]⟩ taken

/-- Its calls are the one of that text. -/
theorem OnlyPersists.calls (only : OnlyPersists body step context w kind name text) :
    ∀ call ∈ callsOf body step context w, ∃ answer, call = .persistArtifactBytes
      (textCall context kind name text (some "application/json")) answer := by
  intro call mem
  cases configured : context.artifactManager with
  | none =>
    rw [(only.without_manager configured).2] at mem
    cases mem
  | some manager =>
    rcases answered : manager.persistArtifactBytes
      (textCall context kind name text (some "application/json")) w with ⟨answer, w'⟩
    rw [(only.with_manager configured answered).2] at mem
    exact ⟨answer, List.mem_singleton.mp mem⟩

end SinglePersist

section Probe

/-- The command of the inputs was dispatched, and its response was ok with a clean exit code. -/
def ProbeDone (step : PlanStep) (calls : List ServiceCall) : Prop :=
  ∃ payload cmd action arguments response run,
    step.inputs.get "payload" = some (.dict payload) ∧ Fields.get payload "cmd" = some cmd ∧
      .executeAction action arguments (.ok response) ∈ calls ∧ cmd ∈ arguments.map Prod.snd ∧
      readResponse cmd response = .ok run ∧ run.passed = true

/-- The report of a probe that ran nothing. -/
def emptyProbeReport (step : PlanStep) (context : ExecutionContext σ) : PersistCall :=
  textCall context "probe.result" s!"{step.stepId}.probe_result.json" "[]" (some "application/json")

theorem executeProbe_without_controller {context : ExecutionContext σ}
    (missing : context.commandController = none) (step : PlanStep) (w : σ) :
    ¬ Succeeds executeProbe step context w := by
  rintro ⟨result, ended, success⟩
  obtain ⟨found, configured, -⟩ := of_requiring_succeeded ended success
  cases missing.symm.trans configured

/-- Without the keys it reads, the probe finds nothing to do. -/
theorem executeProbe_onlyPersists {step : PlanStep} (noProbes : step.inputs.get "probes" = none)
    (noProbe : step.inputs.get "probe" = none) {context : ExecutionContext σ}
    {controller : CommandController σ} (configured : context.commandController = some controller)
    (w : σ) : OnlyPersists executeProbe step context w "probe.result"
      s!"{step.stepId}.probe_result.json" "[]" := by
  have nothing : probesOf step.inputs = .ok [] := by
    unfold probesOf
    rw [getD_of_none noProbes, getD_of_none noProbe]
    rfl
  unfold OnlyPersists executeProbe requiring
  dsimp only
  rw [configured, nothing]
  exact ⟨_, fun _ => rfl, rfl⟩

end Probe

section Collection

/-- An artifact with what the file at the inputs' source path holds was taken. -/
def CollectionDone (files : String → Option ByteArray) (step : PlanStep)
    (calls : List ServiceCall) : Prop :=
  ∃ path content call record, step.inputs.get "source_path" = some (.str path) ∧
    files path = some content ∧ .persistArtifactBytes call (.ok record) ∈ calls ∧
      call.content = content

/-- The report of what the context holds. -/
def contextReport (step : PlanStep) (context : ExecutionContext σ) : PersistCall :=
  textCall context "report.json" s!"{step.stepId}.collected_context.json"
    (dumps .standard (jsonable (collectedContext context))) (some "application/json")

/-- The file at the source path holds that report already. -/
def HoldsReport (files : String → Option ByteArray) (step : PlanStep)
    (context : ExecutionContext σ) : Prop :=
  ∃ path, step.inputs.get "source_path" = some (.str path) ∧
    files path = some (contextReport step context).content

theorem collectArtifact_without_manager {context : ExecutionContext σ}
    (missing : context.artifactManager = none) (step : PlanStep) (w : σ) :
    ¬ Succeeds collectArtifact step context w := by
  rintro ⟨result, ended, success⟩
  obtain ⟨found, configured, -⟩ := of_requiring_succeeded ended success
  cases missing.symm.trans configured

/-- Without the key it reads, the collection has no items. -/
theorem collectArtifact_onlyPersists {step : PlanStep} (noItems : step.inputs.get "items" = none)
    {context : ExecutionContext σ} {manager : ArtifactManager σ}
    (configured : context.artifactManager = some manager) (w : σ) :
    OnlyPersists collectArtifact step context w "report.json"
      s!"{step.stepId}.collected_context.json" (dumps .standard (jsonable (collectedContext context))) := by
  unfold OnlyPersists collectArtifact requiring
  dsimp only
  rw [configured, noItems]
  exact ⟨_, fun _ => rfl, rfl⟩

end Collection

section Claim

variable (context : ExecutionContext σ) (w : σ)

theorem probe_iff {step : PlanStep} (valid : ValidInputs executeProbeInput step) :
    (Succeeds executeProbe step context w → ProbeDone step (callsOf executeProbe step context w)) ↔
      context.commandController = none ∨ RefusesCall context (emptyProbeReport step context) w := by
  cases configured : context.commandController with
  | none =>
    have fails := executeProbe_without_controller configured step w
    simp [fails]
  | some controller =>
    have only := executeProbe_onlyPersists (get_of_undeclared valid (by decide))
      (get_of_undeclared valid (by decide)) configured w
    have idle : ¬ ProbeDone step (callsOf executeProbe step context w) := by
      rintro ⟨payload, cmd, action, arguments, response, run, _, _, called, _⟩
      obtain ⟨answer, same⟩ := only.calls _ called
      cases same
    rw [only.succeeds_iff]
    constructor
    · intro done
      by_contra neither
      exact idle (done (fun refused => neither (.inr refused)))
    · rintro (none | refused) taken
      · cases none
      · exact absurd refused taken

theorem collection_iff (files : String → Option ByteArray) {step : PlanStep}
    (valid : ValidInputs collectArtifactInput step) :
    (Succeeds collectArtifact step context w →
        CollectionDone files step (callsOf collectArtifact step context w)) ↔
      context.artifactManager = none ∨ RefusesCall context (contextReport step context) w ∨
        HoldsReport files step context := by
  cases configured : context.artifactManager with
  | none =>
    have fails := collectArtifact_without_manager configured step w
    simp [fails]
  | some manager =>
    have only := collectArtifact_onlyPersists (get_of_undeclared valid (by decide)) configured w
    rw [only.succeeds_iff]
    constructor
    · intro done
      by_cases refused : RefusesCall context (contextReport step context) w
      · exact .inr (.inl refused)
      · obtain ⟨path, content, call, record, source, held, called, same⟩ := done refused
        obtain ⟨answer, is⟩ := only.calls _ called
        cases is
        exact .inr (.inr ⟨path, source, held.trans (congrArg some same.symm)⟩)
    · rintro (none | refused | ⟨path, source, held⟩) taken
      · cases none
      · exact absurd refused taken
      · obtain ⟨record, answered⟩ : ∃ record,
            (manager.persistArtifactBytes (contextReport step context) w).1 = .ok record := by
          cases answer : (manager.persistArtifactBytes (contextReport step context) w).1 with
          | ok record => exact ⟨record, rfl⟩
          | error exc => exact absurd ⟨manager, exc, configured, answer⟩ taken
        refine ⟨path, _, contextReport step context, record, source, held, ?_, rfl⟩
        rw [(only.with_manager configured rfl).2]
        exact List.mem_singleton.mpr (congrArg _ answered.symm)

/-- When a success has done what valid inputs declare: only when there is no success to be had,
or by coincidence. -/
theorem declared_work_iff (files : String → Option ByteArray) :
    (∀ step, ValidInputs executeProbeInput step →
      ((Succeeds executeProbe step context w →
          ProbeDone step (callsOf executeProbe step context w)) ↔
        context.commandController = none ∨ RefusesCall context (emptyProbeReport step context) w)) ∧
    (∀ step, ValidInputs collectArtifactInput step →
      ((Succeeds collectArtifact step context w →
          CollectionDone files step (callsOf collectArtifact step context w)) ↔
        context.artifactManager = none ∨ RefusesCall context (contextReport step context) w ∨
          HoldsReport files step context)) :=
  ⟨fun _ valid => probe_iff context w valid, fun _ valid => collection_iff context w files valid⟩

end Claim

section Examples

/-! The examples that the two capability descriptors come with. -/

def probeStep : PlanStep :=
  { fakeStep "probe_pwd" PlanStepKind.executeProbe [] .abort with
    inputs := [("probe_name", .str "pwd"), ("payload", .dict [("cmd", .list [.str "pwd"])])] }

def collectStep : PlanStep :=
  { fakeStep "collect_log" PlanStepKind.collectArtifact [] .abort with
    inputs := [("source_path", .str "logs/app.log"), ("artifact_kind", .str "exec.log"),
      ("name", .str "app.log")] }

/-- `FakeArtifactManager`, with one id for all. -/
def fakeArtifactManager : ArtifactManager Unit where
  persistArtifactBytes _ w := (.ok ⟨some "artifact_1", none, "artifact_1"⟩, w)

/-- `FakeCommandController`. -/
def fakeCommandController : CommandController Unit where
  executeAction _ _ w := (.ok [("ok", .bool true), ("data", .dict [("exit_code", .int 0),
    ("stdout", .str "ok"), ("stderr", .str "")])], w)

def workContext : ExecutionContext Unit :=
  { fakeContext (some fakeArtifactManager) with commandController := some fakeCommandController }

/-- A disk with a log. -/
def logFiles (path : String) : Option ByteArray :=
  if path = "logs/app.log" then some "started".toUTF8 else none

private theorem probeStep_valid : ValidInputs executeProbeInput probeStep :=
  ⟨4, by decide +kernel⟩

private theorem collectStep_valid : ValidInputs collectArtifactInput collectStep :=
  ⟨4, by decide +kernel⟩

theorem declared_work_examples :
    ((Succeeds executeProbe probeStep workContext () →
          ProbeDone probeStep (callsOf executeProbe probeStep workContext ())) ↔
        workContext.commandController = none ∨
          RefusesCall workContext (emptyProbeReport probeStep workContext) ()) ∧
      ((Succeeds collectArtifact collectStep workContext () →
          CollectionDone logFiles collectStep (callsOf collectArtifact collectStep workContext ())) ↔
        workContext.artifactManager = none ∨
          RefusesCall workContext (contextReport collectStep workContext) () ∨
          HoldsReport logFiles collectStep workContext) :=
  ⟨(declared_work_iff workContext () logFiles).1 probeStep probeStep_valid,
    (declared_work_iff workContext () logFiles).2 collectStep collectStep_valid⟩

/-- Both examples are valid, both executors return SUCCEEDED, and neither did its work: no command
was dispatched, and nothing of the log was persisted. -/
theorem examples_do_nothing :
    ValidInputs executeProbeInput probeStep ∧ Succeeds executeProbe probeStep workContext () ∧
      ¬ ProbeDone probeStep (callsOf executeProbe probeStep workContext ()) ∧
      ValidInputs collectArtifactInput collectStep ∧
      Succeeds collectArtifact collectStep workContext () ∧
      ¬ CollectionDone logFiles collectStep (callsOf collectArtifact collectStep workContext ()) := by
  refine ⟨probeStep_valid, ⟨_, rfl, rfl⟩, ?_, collectStep_valid, ⟨_, rfl, rfl⟩, ?_⟩
  · rintro ⟨payload, cmd, action, arguments, response, run, _, _, called, _⟩
    have calls : callsOf executeProbe probeStep workContext () =
        [.persistArtifactBytes (emptyProbeReport probeStep workContext)
          (.ok ⟨some "artifact_1", none, "artifact_1"⟩)] := rfl
    rw [calls] at called
    cases List.mem_singleton.mp called
  · rintro ⟨path, content, call, record, source, held, called, same⟩
    have calls : callsOf collectArtifact collectStep workContext () =
        [.persistArtifactBytes (contextReport collectStep workContext)
          (.ok ⟨some "artifact_1", none, "artifact_1"⟩)] := rfl
    rw [calls] at called
    cases List.mem_singleton.mp called
    cases source
    cases held
    have other : (contextReport collectStep workContext).content ≠ "started".toUTF8 := by
      decide +kernel
    exact other same

end Examples

end SthBoring.Execution.DeclaredWork
