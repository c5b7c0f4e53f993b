/- Module: SthBoring/Execution/ExecutorSpecs
   source: sdk_test_agent/execution/step_executors/*.py
   digest: What the step executors leave of a context, and which outputs they report. -/

import SthBoring.Execution.RunAccounting
import SthBoring.Execution.StepExecutors

set_option autoImplicit false
set_option relaxedAutoImplicit false

namespace SthBoring.Execution.ExecutorSpecs

universe u

open SthBoring.Lib.Effect (Computation Keeps Returns)
open SthBoring.Lib.OrderedDict (PyDict assocGet assocGet_of_mem)
open SthBoring.Lib.PyObject
open SthBoring.Lib.PyValue
open SthBoring.Plan.Models
open SthBoring.Execution.Models
open SthBoring.Execution.Engine
open SthBoring.Execution.RunInvariant (FromRegistry)
open SthBoring.Execution.RunAccounting (KeepsOutputs)
open SthBoring.Execution.StepUtils
open SthBoring.Execution.StepExecutors

variable {σ : Type u}

section Context

/-- Two contexts that differ in their references at most. -/
def SameButRefs (before after : ExecutionContext σ) : Prop :=
  ∃ artifactRefs runtimeRefs, after = { before with
    artifactRefs := artifactRefs, runtimeRefs := runtimeRefs }

theorem SameButRefs.refl (c : ExecutionContext σ) : SameButRefs c c :=
  ⟨c.artifactRefs, c.runtimeRefs, rfl⟩

theorem SameButRefs.trans {a b c : ExecutionContext σ} (hab : SameButRefs a b)
    (hbc : SameButRefs b c) : SameButRefs a c := by
  obtain ⟨artifactRefs, runtimeRefs, rfl⟩ := hab
  obtain ⟨artifactRefs', runtimeRefs', rfl⟩ := hbc
  exact ⟨artifactRefs', runtimeRefs', rfl⟩

theorem sameButRefs_artifactRefs (c : ExecutionContext σ) (refs : PyDict String String) :
    SameButRefs c { c with artifactRefs := refs } :=
  ⟨refs, c.runtimeRefs, rfl⟩

theorem sameButRefs_runtimeRefs (c : ExecutionContext σ) (refs : PyDict String Value) :
    SameButRefs c { c with runtimeRefs := refs } :=
  ⟨c.artifactRefs, refs, rfl⟩

/-- The computation touches nothing of the context but its references. -/
abbrev KeepsButRefs {α : Type} (m : Executing σ α) : Prop :=
  ∀ c, Keeps (fun s => SameButRefs c s.context) m

theorem keepsButRefs_persistText (kind name text : String) (mimeType : Option String) :
    KeepsButRefs (persistText (σ := σ) kind name text mimeType) := by
  intro c
  refine Keeps.withContext (fun context => ?_)
  cases context.artifactManager with
  | none => exact Keeps.pure none
  | some manager =>
    refine Keeps.bind (Keeps.ask _ _) (fun record => ?_)
    refine Keeps.bind ?_ (fun _ => Keeps.pure (some record.ref))
    exact Keeps.modify (fun s hs => hs.trans (sameButRefs_artifactRefs s.context _))

theorem keepsButRefs_createDeployment (manager : RuntimeManager σ) (taskId : String)
    (inputs : Fields) (image containerId : Value) :
    KeepsButRefs (createDeployment manager taskId inputs image containerId) := by
  intro c
  unfold createDeployment
  split
  · refine Keeps.bind (Keeps.lift _) (fun kwargs => ?_)
    exact Keeps.bind (Keeps.ask _ _) (fun deployment => Keeps.pure _)
  · exact Keeps.pure []

theorem keepsButRefs_noteEnvReport (refs : List String) :
    KeepsButRefs (noteEnvReport (σ := σ) refs) := by
  intro c
  cases refs with
  | nil => exact Keeps.pure ()
  | cons ref refs =>
    exact Keeps.modify (fun s hs => hs.trans (sameButRefs_artifactRefs s.context _))

variable (step : PlanStep)

theorem keepsButRefs_buildImage : KeepsButRefs (buildImage (σ := σ) step) := by
  intro c
  refine Keeps.requiring (fun driver => ?_)
  refine Keeps.bind (Keeps.lift _) (fun spec => ?_)
  refine Keeps.bind (Keeps.ask _ _) (fun result => ?_)
  refine Keeps.bind (Keeps.lift _) (fun logs => ?_)
  refine Keeps.bind (Keeps.lift _) (fun outputs => ?_)
  exact Keeps.bind (keepsButRefs_persistText _ _ _ _ c) (fun ref => Keeps.pure _)

theorem keepsButRefs_createRuntime : KeepsButRefs (createRuntime (σ := σ) step) := by
  intro c
  refine Keeps.requiring (fun manager => Keeps.withContext (fun context => ?_))
  split
  · refine Keeps.bind (Keeps.lift _) (fun spec => ?_)
    refine Keeps.bind (Keeps.ask _ _) (fun container => ?_)
    refine Keeps.bind ?_ (fun _ => ?_)
    · exact Keeps.modify (fun s hs => hs.trans (sameButRefs_runtimeRefs s.context _))
    · exact Keeps.bind (keepsButRefs_createDeployment _ _ _ _ _ c) (fun deployment => Keeps.pure _)
  · exact Keeps.pure _

theorem keepsButRefs_inspectEnvironment : KeepsButRefs (inspectEnvironment (σ := σ) step) := by
  intro c
  refine Keeps.requiring (fun inspector => Keeps.withContext (fun context => ?_))
  split
  · refine Keeps.bind (Keeps.ask _ _) (fun report => ?_)
    refine Keeps.bind (keepsButRefs_persistText _ _ _ _ c) (fun ref => ?_)
    exact Keeps.bind (keepsButRefs_noteEnvReport _ c) (fun _ => Keeps.pure _)
  · exact Keeps.pure _

theorem keepsButRefs_inspectPackage : KeepsButRefs (inspectPackage (σ := σ) step) := by
  intro c
  refine Keeps.requiring (fun inspector => Keeps.withContext (fun context => ?_))
  dsimp only
  split
  · refine Keeps.bind (Keeps.ask _ _) (fun report => ?_)
    exact Keeps.bind (keepsButRefs_persistText _ _ _ _ c) (fun ref => Keeps.pure _)
  · exact Keeps.pure _

theorem keepsButRefs_runCommand : KeepsButRefs (runCommand (σ := σ) step) := by
  intro c
  refine Keeps.requiring (fun controller => ?_)
  refine Keeps.bind (Keeps.lift _) (fun given => ?_)
  refine Keeps.bind (Keeps.ask _ _) (fun response => ?_)
  refine Keeps.bind (Keeps.lift _) (fun run => ?_)
  refine Keeps.bind (Keeps.lift _) (fun stdout => ?_)
  exact Keeps.bind (Keeps.lift _) (fun stderr => Keeps.pure _)

theorem keepsButRefs_runProbe (controller : CommandController σ) (timeoutSec : Option ℤ)
    (probe : Value) : KeepsButRefs (runProbe controller timeoutSec probe) := by
  intro c
  refine Keeps.bind (Keeps.lift _) (fun argv => ?_)
  exact Keeps.bind (Keeps.ask _ _) (fun response => Keeps.lift _)

theorem keepsButRefs_executeProbe : KeepsButRefs (executeProbe (σ := σ) step) := by
  intro c
  refine Keeps.requiring (fun controller => ?_)
  refine Keeps.bind (Keeps.lift _) (fun probes => ?_)
  refine Keeps.bind ?_ (fun runs => ?_)
  · exact Keeps.each (fun probe _ => keepsButRefs_runProbe controller step.timeoutSec probe c)
  · refine Keeps.bind (keepsButRefs_persistText _ _ _ _ c) (fun ref => ?_)
    refine Keeps.bind (Keeps.lift _) (fun stdout => ?_)
    exact Keeps.bind (Keeps.lift _) (fun stderr => Keeps.pure _)

theorem keepsButRefs_collectArtifact : KeepsButRefs (collectArtifact (σ := σ) step) := by
  intro c
  refine Keeps.requiring (fun manager => ?_)
  refine Keeps.bind (Keeps.lift _) (fun items => ?_)
  refine Keeps.bind ?_ (fun refs => ?_)
  · refine Keeps.each (fun item _ => ?_)
    exact Keeps.bind (Keeps.lift _) (fun found => keepsButRefs_persistText _ _ _ _ c)
  · refine Keeps.bind ?_ (fun ref => Keeps.pure _)
    exact Keeps.withContext (fun context => keepsButRefs_persistText _ _ _ _ c)

theorem keepsButRefs_notImplemented (integration : String) :
    KeepsButRefs (notImplemented (σ := σ) integration step) :=
  fun _ => Keeps.pure _

/-- No executor of the default registry touches more of a context than its references. -/
theorem keepsButRefs_default {kind : String} {body : PlanStep → Executing σ StepExecutionResult}
    (mem : (kind, body) ∈ defaultBodies) : KeepsButRefs (body step) := by
  simp only [defaultBodies, List.mem_cons, Prod.mk.injEq, List.not_mem_nil, or_false] at mem
  rcases mem with ⟨_, rfl⟩ | ⟨_, rfl⟩ | ⟨_, rfl⟩ | ⟨_, rfl⟩ | ⟨_, rfl⟩ | ⟨_, rfl⟩ | ⟨_, rfl⟩ |
    ⟨_, rfl⟩ | ⟨_, rfl⟩ | ⟨_, rfl⟩
  · exact keepsButRefs_inspectPackage step
  · exact keepsButRefs_buildImage step
  · exact keepsButRefs_createRuntime step
  · exact keepsButRefs_inspectEnvironment step
  · exact keepsButRefs_runCommand step
  · exact keepsButRefs_executeProbe step
  · exact keepsButRefs_collectArtifact step
  · exact keepsButRefs_notImplemented step "script-agent"
  · exact keepsButRefs_notImplemented step "test-agent"
  · exact keepsButRefs_notImplemented step "report"

end Context

section Outputs

/-- A result reports these outputs whenever it is a success, and no others but the optional
ones in any case. -/
structure Reports (always sometimes : List String) (r : StepExecutionResult) : Prop where
  complete : r.status = .succeeded → always ⊆ r.outputs.map Prod.fst
  only : r.outputs.map Prod.fst ⊆ always ++ sometimes

theorem reports_failedResult (always sometimes : List String) (errorType errorMessage : String) :
    Reports always sometimes (failedResult errorType errorMessage) :=
  ⟨fun success => (by cases success), List.nil_subset _⟩

variable (step : PlanStep)

private theorem buildOutputs_keys {spec result : Value} {logs : String} {outputs : Fields}
    (made : buildOutputs spec result logs = .ok outputs) :
    outputs.map Prod.fst = ["image_id", "tags", "tag", "build_logs"] := by
  unfold buildOutputs at made
  cases imageId : getAttr result "image_id" with
  | error exc => rw [imageId] at made; cases made
  | ok imageId' =>
    cases tags : getAttr result "tags" with
    | error exc => rw [imageId, tags] at made; cases made
    | ok tags' =>
      cases tag : getAttr spec "tag" with
      | error exc => rw [imageId, tags, tag] at made; cases made
      | ok tag' =>
        rw [imageId, tags, tag] at made
        cases made
        rfl

theorem buildImage_reports : Returns (Reports ["image_id", "tags", "tag", "build_logs"] [])
    (buildImage (σ := σ) step) := by
  refine Returns.requiring (reports_failedResult _ _ _ _) (fun driver => ?_)
  refine Returns.bind (fun spec => Returns.bind (fun result => Returns.bind (fun logs => ?_)))
  refine Returns.bind_of (Returns.lift (fun outputs made => buildOutputs_keys made)) ?_
  intro outputs keys
  refine Returns.bind (fun ref => Returns.pure ⟨fun _ => ?_, ?_⟩)
  · rw [keys]
    exact List.Subset.refl _
  · rw [keys]
    exact List.subset_append_left _ _

private theorem createDeployment_keys (manager : RuntimeManager σ) (taskId : String)
    (inputs : Fields) (image containerId : Value) :
    Returns (fun fields => fields.map Prod.fst ⊆ ["deployment_id"])
      (createDeployment manager taskId inputs image containerId) := by
  unfold createDeployment
  split
  · exact Returns.bind (fun kwargs => Returns.bind (fun deployment => Returns.pure (by simp)))
  · exact Returns.pure (by simp)

theorem createRuntime_reports : Returns
    (Reports ["container_id", "engine_id", "runtime_metadata"] ["deployment_id"])
    (createRuntime (σ := σ) step) := by
  refine Returns.requiring (reports_failedResult _ _ _ _) (fun manager => ?_)
  refine Returns.withContext (fun context => ?_)
  split
  · refine Returns.bind (fun spec => Returns.bind (fun container => Returns.bind (fun _ => ?_)))
    refine Returns.bind_of (createDeployment_keys _ _ _ _ _) (fun deployment keys => ?_)
    refine Returns.pure ⟨fun _ => ?_, ?_⟩
    · rw [List.map_append]
      exact List.subset_append_left _ _
    · rw [List.map_append]
      exact List.append_subset.mpr ⟨List.subset_append_left _ _,
        List.subset_append_of_subset_right _ keys⟩
  · exact Returns.pure (reports_failedResult _ _ _ _)

theorem inspectEnvironment_reports : Returns (Reports ["env_report", "readiness"] [])
    (inspectEnvironment (σ := σ) step) := by
  refine Returns.requiring (reports_failedResult _ _ _ _) (fun inspector => ?_)
  refine Returns.withContext (fun context => ?_)
  split
  · refine Returns.bind (fun report => Returns.bind (fun ref => Returns.bind (fun _ => ?_)))
    refine Returns.pure ⟨fun _ => ?_, ?_⟩
    · rw [map_fst_jsonableFields]
      exact List.Subset.refl _
    · rw [map_fst_jsonableFields]
      exact List.Subset.refl _
  · exact Returns.pure (reports_failedResult _ _ _ _)

theorem inspectPackage_reports : Returns
    (Reports ["package_report", "language", "package_name", "version"] [])
    (inspectPackage (σ := σ) step) := by
  refine Returns.requiring (reports_failedResult _ _ _ _) (fun inspector => ?_)
  refine Returns.withContext (fun context => ?_)
  dsimp only
  split
  · refine Returns.bind (fun report => Returns.bind (fun ref => Returns.pure ⟨fun _ => ?_, ?_⟩))
    · rw [map_fst_jsonableFields]
      exact List.Subset.refl _
    · rw [map_fst_jsonableFields]
      exact List.Subset.refl _
  · exact Returns.pure (reports_failedResult _ _ _ _)

theorem runCommand_reports : Returns (Reports ["action", "response", "exit_code"] [])
    (runCommand (σ := σ) step) := by
  refine Returns.requiring (reports_failedResult _ _ _ _) (fun controller => ?_)
  refine Returns.bind (fun given => Returns.bind (fun response => Returns.bind (fun run => ?_)))
  refine Returns.bind (fun stdout => Returns.bind (fun stderr => Returns.pure ?_))
  exact ⟨fun _ => List.Subset.refl _, List.Subset.refl _⟩

theorem executeProbe_reports : Returns (Reports ["probe_result", "failed_count"] [])
    (executeProbe (σ := σ) step) := by
  refine Returns.requiring (reports_failedResult _ _ _ _) (fun controller => ?_)
  refine Returns.bind (fun probes => Returns.bind (fun runs => Returns.bind (fun ref => ?_)))
  refine Returns.bind (fun stdout => Returns.bind (fun stderr => Returns.pure ?_))
  exact ⟨fun _ => List.Subset.refl _, List.Subset.refl _⟩

theorem collectArtifact_reports : Returns (Reports ["artifact_refs"] [])
    (collectArtifact (σ := σ) step) := by
  refine Returns.requiring (reports_failedResult _ _ _ _) (fun manager => ?_)
  refine Returns.bind (fun items => Returns.bind (fun refs => Returns.bind (fun ref => ?_)))
  exact Returns.pure ⟨fun _ => List.Subset.refl _, List.Subset.refl _⟩

theorem notImplemented_reports (integration : String) : Returns (Reports [] [])
    (notImplemented (σ := σ) integration step) :=
  Returns.pure ⟨fun success => (by cases success), List.Subset.refl _⟩

/-- The kinds of the default registry with the outputs they always and sometimes report. -/
def reportedKeys : List (String × List String × List String) :=
  [(PlanStepKind.inspectPackage, ["package_report", "language", "package_name", "version"], []),
    (PlanStepKind.buildImage, ["image_id", "tags", "tag", "build_logs"], []),
    (PlanStepKind.createRuntime, ["container_id", "engine_id", "runtime_metadata"],
      ["deployment_id"]),
    (PlanStepKind.inspectEnvironment, ["env_report", "readiness"], []),
    (PlanStepKind.runCommand, ["action", "response", "exit_code"], []),
    (PlanStepKind.executeProbe, ["probe_result", "failed_count"], []),
    (PlanStepKind.collectArtifact, ["artifact_refs"], []), (PlanStepKind.generateScript, [], []),
    (PlanStepKind.runTest, [], []), (PlanStepKind.summarizeReport, [], [])]

theorem default_reports {kind : String} {body : PlanStep → Executing σ StepExecutionResult}
    (mem : (kind, body) ∈ defaultBodies) : ∃ always sometimes,
      (kind, always, sometimes) ∈ reportedKeys ∧ Returns (Reports always sometimes) (body step) := by
  simp only [defaultBodies, List.mem_cons, Prod.mk.injEq, List.not_mem_nil, or_false] at mem
  rcases mem with ⟨rfl, rfl⟩ | ⟨rfl, rfl⟩ | ⟨rfl, rfl⟩ | ⟨rfl, rfl⟩ | ⟨rfl, rfl⟩ | ⟨rfl, rfl⟩ |
    ⟨rfl, rfl⟩ | ⟨rfl, rfl⟩ | ⟨rfl, rfl⟩ | ⟨rfl, rfl⟩
  · exact ⟨_, _, by decide, inspectPackage_reports step⟩
  · exact ⟨_, _, by decide, buildImage_reports step⟩
  · exact ⟨_, _, by decide, createRuntime_reports step⟩
  · exact ⟨_, _, by decide, inspectEnvironment_reports step⟩
  · exact ⟨_, _, by decide, runCommand_reports step⟩
  · exact ⟨_, _, by decide, executeProbe_reports step⟩
  · exact ⟨_, _, by decide, collectArtifact_reports step⟩
  · exact ⟨_, _, by decide, notImplemented_reports step "script-agent"⟩
  · exact ⟨_, _, by decide, notImplemented_reports step "test-agent"⟩
  · exact ⟨_, _, by decide, notImplemented_reports step "report"⟩

end Outputs

section Registry

variable {engine : ExecutionEngine σ}

/-- The body that is registered under a kind. -/
theorem body_of_kind {kind : String} {body body' : PlanStep → Executing σ StepExecutionResult}
    (default : (kind, body) ∈ defaultBodies) (registered : assocGet kind defaultBodies = some body') :
    body = body' := by
  have kinds : (defaultBodies (σ := σ)).map Prod.fst =
      ["inspect_package", "build_image", "create_runtime", "inspect_environment", "run_command",
        "execute_probe", "collect_artifact", "generate_script", "run_test", "summarize_report"] := rfl
  have distinct : ((defaultBodies (σ := σ)).map Prod.fst).Nodup := by
    rw [kinds]
    decide
  rw [assocGet_of_mem distinct default] at registered
  exact Option.some.inj registered

theorem get_default {kind : String} {executor : StepExecutor σ}
    (known : createDefaultStepExecutorRegistry.get kind = .ok executor) :
    ∃ body, (kind, body) ∈ defaultBodies ∧ executor = executorOf kind body := by
  obtain ⟨mem, same⟩ := StepExecutorRegistry.get_ofExecutors_spec known
  obtain ⟨⟨kind', body⟩, listed, rfl⟩ := List.mem_map.mp mem
  obtain rfl : kind' = kind := same
  exact ⟨body, listed, rfl⟩

theorem keepsOutputs_default (default : engine.registry = createDefaultStepExecutorRegistry) :
    KeepsOutputs engine := by
  intro kind executor known step context w
  rw [default] at known
  obtain ⟨body, listed, rfl⟩ := get_default known
  obtain ⟨artifactRefs, runtimeRefs, same⟩ :=
    (keepsButRefs_default step listed context).after (s := ⟨context, w, []⟩) (.refl context)
  change (body step ⟨context, w, []⟩).2.context.stepOutputs = context.stepOutputs
  rw [same]

/-- The result of a called step reports what the table says of its kind. -/
theorem called_reports (default : engine.registry = createDefaultStepExecutorRegistry)
    {step : PlanStep} {given : ExecutionContext σ} {result : StepExecutionResult}
    (registered : FromRegistry engine (.called step given result)) :
    ∃ always sometimes, (step.kind, always, sometimes) ∈ reportedKeys ∧
      Reports always sometimes result := by
  obtain ⟨executor, w, known, rfl⟩ := registered
  rw [default] at known
  obtain ⟨body, listed, rfl⟩ := get_default known
  obtain ⟨always, sometimes, entry, returns⟩ := default_reports step listed
  refine ⟨always, sometimes, entry, ?_⟩
  unfold Executed.result executorOf
  dsimp only
  rcases ended : body step ⟨given, w, []⟩ with ⟨exc | result, s⟩
  · exact reports_failedResult always sometimes exc.className exc.message
  · exact returns.of_ok ended

end Registry

end SthBoring.Execution.ExecutorSpecs
