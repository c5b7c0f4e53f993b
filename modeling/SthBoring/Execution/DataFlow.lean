/- Module: SthBoring/Execution/DataFlow
   source: sdk_test_agent/execution/step_executors/_utils.py, create_runtime_step_executor.py,
     inspect_environment_step_executor.py, sdk_test_agent/execution/execution_engine.py
   digest: Whose image a container is made from, and whose container is inspected. -/

import SthBoring.Execution.ExecutorSpecs

set_option autoImplicit false
set_option relaxedAutoImplicit false

namespace SthBoring.Execution.DataFlow

universe u

open SthBoring.Lib.Effect (Computation Triple Keeps Returns)
open SthBoring.Lib.OrderedDict (PyDict assocGet)
open SthBoring.Lib.PyObject
open SthBoring.Lib.PyValue
open SthBoring.Plan.Models
open SthBoring.Execution.Models
open SthBoring.Execution.Engine
open SthBoring.Execution.RunInvariant
open SthBoring.Execution.RunAccounting
open SthBoring.Execution.StepUtils
open SthBoring.Execution.StepExecutors
open SthBoring.Execution.ExecutorSpecs

variable {σ : Type u}

section Uses

/-- The inputs of a create_runtime step name no image, and its container spec none either. -/
structure NamesNoImage (inputs : Fields) : Prop where
  image : (inputs.getD "image").truthy = false
  imageId : (inputs.getD "image_id").truthy = false
  noSpec : isInstanceOf (inputs.getD "container_spec") "ContainerCreateSpec" = false
  payload : ∀ payload, dictOf (pyOr (inputs.getD "container_spec") (.dict [])) = .ok payload →
    Fields.get payload "image" = none

/-- The inputs of an inspect_environment step name no container. -/
def NamesNoContainer (inputs : Fields) : Prop := (inputs.getD "container_id").truthy = false

/-- Every container the step asks for is one of this image, and it is no success without one. -/
structure CreatesFrom (step : PlanStep) (context : ExecutionContext σ) (image : Value) : Prop where
  only : ∀ w spec owner answer,
    .createContainer spec owner answer ∈ callsOf createRuntime step context w →
      getAttr spec "image" = .ok image
  asked : ∀ w result, (createRuntime step ⟨context, w, []⟩).1 = .ok result →
    result.status = .succeeded → ∃ spec owner container,
      .createContainer spec owner (.ok container) ∈ callsOf createRuntime step context w

/-- Every inspection the step asks for is of this container, and it is no success without one. -/
structure Inspects (step : PlanStep) (context : ExecutionContext σ) (containerId : Value) : Prop where
  only : ∀ w data answer,
    .inspectDockerEnv data answer ∈ callsOf inspectEnvironment step context w →
      getAttr data "container_id" = .ok containerId
  asked : ∀ w result, (inspectEnvironment step ⟨context, w, []⟩).1 = .ok result →
    result.status = .succeeded → ∃ data report,
      .inspectDockerEnv data (.ok report) ∈ callsOf inspectEnvironment step context w

theorem pyOr_of_falsy {a : Value} (h : a.truthy = false) (b : Value) : pyOr a b = b := by
  rw [pyOr, h, if_neg Bool.false_ne_true]

theorem pyOr_of_truthy {a : Value} (h : a.truthy = true) (b : Value) : pyOr a b = a := by
  rw [pyOr, if_pos h]

theorem containerSpec_image {inputs : Fields} (unnamed : NamesNoImage inputs) {image spec : Value}
    (made : containerSpec inputs image = .ok spec) : getAttr spec "image" = .ok image := by
  unfold containerSpec at made
  dsimp only at made
  rw [unnamed.noSpec, if_neg Bool.false_ne_true] at made
  cases given : dictOf (pyOr (inputs.getD "container_spec") (.dict [])) with
  | error exc =>
    rw [given] at made
    cases made
  | ok payload =>
    have absent := unnamed.payload payload given
    rw [given] at made
    change construct _ _ _ = _ at made
    unfold construct at made
    split at made
    · cases made
    · cases made
      have kept : ∀ command, Fields.get (setDefault (setDefault payload "image" image) "command"
          command) "image" = some image := by
        intro command
        rw [get_setDefault_of_ne (by decide), get_setDefault_of_none absent]
      simp [getAttr, attribute?, containerCreateSpecFields, assocGet, kept]

theorem imageFor_of_unnamed {step : PlanStep} (unnamed : NamesNoImage step.inputs)
    (context : ExecutionContext σ) : imageFor step context = findOutput context "image_id" := by
  rw [imageFor, pyOr_of_falsy unnamed.image, pyOr_of_falsy unnamed.imageId]

/-- A call that creates a container, if it is one, asks for this image. -/
def ForImage (image : Value) (call : ServiceCall) : Prop :=
  ∀ spec owner answer, call = .createContainer spec owner answer → getAttr spec "image" = .ok image

private theorem createDeployment_forImage (image : Value) (manager : RuntimeManager σ)
    (taskId : String) (inputs : Fields) (image' containerId : Value) :
    Keeps (fun s => ∀ call ∈ s.calls, ForImage image call)
      (createDeployment manager taskId inputs image' containerId) := by
  unfold createDeployment
  split
  · refine Keeps.bind (Keeps.lift _) (fun kwargs => ?_)
    refine Keeps.bind (Keeps.ask_all ?_ _) (fun deployment => Keeps.pure _)
    intro answer spec owner answer' same
    cases same
  · exact Keeps.pure []

theorem createRuntime_forImage {step : PlanStep} (unnamed : NamesNoImage step.inputs)
    (context : ExecutionContext σ) (w : σ) :
    ∀ call ∈ callsOf createRuntime step context w,
      ForImage (findOutput context "image_id") call := by
  unfold callsOf createRuntime StepUtils.requiring
  split
  · simp
  · rename_i manager _
    unfold StepUtils.withContext
    dsimp only
    rw [imageFor_of_unnamed unnamed]
    refine Keeps.after (I := fun s : Working σ => ∀ call ∈ s.calls, ForImage _ call) ?_ (by simp)
    split
    · refine Keeps.bind_lift (fun spec made => ?_)
      refine Keeps.bind (Keeps.ask_all ?_ _) (fun container => ?_)
      · intro answer spec' owner answer' same
        cases same
        exact containerSpec_image unnamed made
      · refine Keeps.bind (Keeps.modify (fun s hs => hs)) (fun _ => ?_)
        exact Keeps.bind (createDeployment_forImage _ _ _ _ _ _) (fun deployment => Keeps.pure _)
    · exact Keeps.pure _

private theorem noteRuntime_calls (C : List ServiceCall → Prop) (stepId : String)
    (container containerId : Value) :
    Keeps (fun s : Working σ => C s.calls) (noteRuntime stepId container containerId) :=
  Keeps.modify (fun _ hs => hs)

/-- A success has had its container. -/
theorem createRuntime_asked (step : PlanStep) :
    Triple (fun _ => True) (createRuntime (σ := σ) step)
      (fun result s => result.status = .succeeded → ∃ spec owner container,
        .createContainer spec owner (.ok container) ∈ s.calls)
      (fun _ _ => True) := by
  refine Triple.requiring (fun s _ success => by cases success) (fun manager => ?_)
  refine Triple.withContext (fun context => ?_)
  split
  · refine Triple.bind (Keeps.lift _).triple (fun spec => ?_)
    refine Triple.bind (Triple.ask _ _) (fun container => ?_)
    refine Triple.bind (noteRuntime_calls (fun calls => _ ∈ calls) _ _ _).triple (fun _ => ?_)
    refine Triple.bind (Keeps.triple ?_) (fun deployment => ?_)
    · unfold createDeployment
      split
      · refine Keeps.bind (Keeps.lift _) (fun kwargs => ?_)
        exact Keeps.bind (Keeps.ask_mem _ _ _) (fun deployment => Keeps.pure _)
      · exact Keeps.pure []
    · exact Triple.pure (fun s called _ => ⟨spec, context.taskId, container, called⟩)
  · exact Triple.pure (fun s _ success => by cases success)

theorem createsFrom_newest {step : PlanStep} (unnamed : NamesNoImage step.inputs)
    (context : ExecutionContext σ) :
    CreatesFrom step context (findOutput context "image_id") where
  only w spec owner answer mem := createRuntime_forImage unnamed context w _ mem _ _ _ rfl
  asked w result ended success := by
    have post := createRuntime_asked step ⟨context, w, []⟩ trivial
    rcases made : createRuntime step ⟨context, w, []⟩ with ⟨outcome, s⟩
    rw [made] at ended post
    subst ended
    obtain ⟨spec, owner, container, called⟩ := post success
    refine ⟨spec, owner, container, ?_⟩
    rw [callsOf, made]
    exact called

/-- A call that inspects an environment, if it is one, is about this. -/
def ForData (data : Value) (call : ServiceCall) : Prop :=
  ∀ data' answer, call = .inspectDockerEnv data' answer → data' = data

private theorem noteEnvReport_calls (C : List ServiceCall → Prop) (refs : List String) :
    Keeps (fun s : Working σ => C s.calls) (noteEnvReport refs) := by
  cases refs with
  | nil => exact Keeps.pure ()
  | cons ref refs => exact Keeps.modify (fun s hs => hs)

theorem inspectEnvironment_forData (step : PlanStep) (context : ExecutionContext σ) (w : σ) :
    ∀ call ∈ callsOf inspectEnvironment step context w,
      ForData (envInspectionInput step context) call := by
  unfold callsOf inspectEnvironment StepUtils.requiring
  split
  · simp
  · rename_i inspector _
    unfold StepUtils.withContext
    dsimp only
    refine Keeps.after (I := fun s : Working σ => ∀ call ∈ s.calls, ForData _ call) ?_ (by simp)
    split
    · refine Keeps.bind (Keeps.ask_all ?_ _) (fun report => ?_)
      · intro answer data' answer' same
        cases same
        rfl
      · refine Keeps.bind (persistText_calls (C := fun calls => ∀ call ∈ calls, ForData _ call)
          ?_ _ _ _ _) (fun ref => ?_)
        · intro calls call answer all call' mem
          rcases List.mem_append.mp mem with old | new
          · exact all call' old
          · rw [List.mem_singleton.mp new]
            intro data answer' same
            cases same
        refine Keeps.bind ?_ (fun _ => Keeps.pure _)
        exact noteEnvReport_calls (fun calls => ∀ call ∈ calls, ForData _ call) _
    · exact Keeps.pure _

/-- A success has had its report. -/
theorem inspectEnvironment_asked (step : PlanStep) :
    Triple (fun _ => True) (inspectEnvironment (σ := σ) step)
      (fun result s => result.status = .succeeded → ∃ data report,
        .inspectDockerEnv data (.ok report) ∈ s.calls)
      (fun _ _ => True) := by
  refine Triple.requiring (fun s _ success => by cases success) (fun inspector => ?_)
  refine Triple.withContext (fun context => ?_)
  split
  · refine Triple.bind (Triple.ask _ _) (fun report => ?_)
    refine Triple.bind (Keeps.triple ?_) (fun ref => ?_)
    · exact persistText_calls (C := fun calls => _ ∈ calls)
        (fun _ _ _ mem => List.mem_append_left _ mem) _ _ _ _
    · refine Triple.bind (noteEnvReport_calls (fun calls => _ ∈ calls) _).triple (fun _ => ?_)
      exact Triple.pure (fun s called _ => ⟨_, report, called⟩)
  · exact Triple.pure (fun s _ success => by cases success)

theorem inspects_newest {step : PlanStep} (unnamed : NamesNoContainer step.inputs)
    {context : ExecutionContext σ} (found : (findOutput context "container_id").truthy = true) :
    Inspects step context (findOutput context "container_id") where
  only w data answer mem := by
    have same := inspectEnvironment_forData step context w _ mem data answer rfl
    have newest : containerFor step context = findOutput context "container_id" := by
      rw [containerFor, pyOr_of_falsy unnamed, pyOr_of_truthy found]
    rw [same, ← newest]
    rfl
  asked w result ended success := by
    have post := inspectEnvironment_asked step ⟨context, w, []⟩ trivial
    rcases made : inspectEnvironment step ⟨context, w, []⟩ with ⟨outcome, s⟩
    rw [made] at ended post
    subst ended
    obtain ⟨data, report, called⟩ := post success
    refine ⟨data, report, ?_⟩
    rw [callsOf, made]
    exact called

end Uses

section Outputs

/-- The entry that an event adds to the outputs. -/
def produced : StepEvent σ → Option (String × Fields)
  | .skipped _ => none
  | .called step _ result =>
    if result.status = .succeeded then some (step.stepId, result.outputs) else none

theorem produced_key {e : StepEvent σ} {entry : String × Fields} (h : produced e = some entry) :
    entry.1 = e.step.stepId := by
  cases e with
  | skipped step => cases h
  | called step given result =>
    simp only [produced] at h
    split at h
    · cases h
      rfl
    · cases h

/-- Under ids of their own, the outputs of a trace stand in its order. -/
theorem entries_recordedOutputs {start : PyDict String Fields} {t : List (StepEvent σ)}
    (distinct : (t.map (fun e => e.step.stepId)).Nodup)
    (fresh : ∀ e ∈ t, e.step.stepId ∉ start.keys) :
    (recordedOutputs start t).entries = start.entries ++ t.filterMap produced := by
  induction t using List.reverseRecOn with
  | nil => simp [recordedOutputs]
  | append_singleton t e ih =>
    rw [List.map_append, List.map_singleton, List.nodup_append] at distinct
    have before := ih distinct.1 (fun e' he' => fresh e' (List.mem_append_left [e] he'))
    rw [recordedOutputs_append_singleton, List.filterMap_append, ← List.append_assoc, ← before]
    cases e with
    | skipped step => simp [addOutputs, produced]
    | called step given result =>
      by_cases success : result.status = .succeeded
      · have new : step.stepId ∉ (recordedOutputs start t).keys := by
          rw [PyDict.keys, before, List.map_append, List.mem_append, not_or]
          refine ⟨fresh (.called step given result) (by simp), fun mem => ?_⟩
          obtain ⟨entry, he, same⟩ := List.mem_map.mp mem
          obtain ⟨e', he', hp⟩ := List.mem_filterMap.mp he
          refine distinct.2.2 e'.step.stepId (List.mem_map_of_mem he') step.stepId
            (List.mem_singleton.mpr rfl) ?_
          rw [← same, produced_key hp]
        have here : [StepEvent.called step given result].filterMap produced =
            [(step.stepId, result.outputs)] := by
          simp [produced, success]
        rw [here, addOutputs, if_pos success]
        exact PyDict.entries_set_of_notMem _ _ new
      · simp [addOutputs, produced, success]

/-- The newest outputs that have a key are those of a success after which none has it. -/
theorem newest_output {start : PyDict String Fields} {earlier between : List (StepEvent σ)}
    {b : PlanStep} {given : ExecutionContext σ} {result : StepExecutionResult}
    (distinct : ((earlier ++ .called b given result :: between).map
      (fun e => e.step.stepId)).Nodup)
    (fresh : ∀ e ∈ earlier ++ .called b given result :: between, e.step.stepId ∉ start.keys)
    (success : result.status = .succeeded) {key : String} {v : Value}
    (value : Fields.get result.outputs key = some v)
    (later : ∀ e ∈ between, ∀ entry, produced e = some entry → Fields.get entry.2 key = none) :
    (recordedOutputs start (earlier ++ .called b given result :: between)).values.reverse.findSome?
      (fun outputs => Fields.get outputs key) = some v := by
  have here : produced (.called b given result) = some (b.stepId, result.outputs) := by
    rw [produced, if_pos success]
  have none : ((between.filterMap produced).map Prod.snd).reverse.findSome?
      (fun outputs => Fields.get outputs key) = none := by
    rw [List.findSome?_eq_none_iff]
    intro outputs mem
    obtain ⟨entry, he, rfl⟩ := List.mem_map.mp (List.mem_reverse.mp mem)
    obtain ⟨e, hb, hp⟩ := List.mem_filterMap.mp he
    exact later e hb entry hp
  rw [PyDict.values, entries_recordedOutputs distinct fresh, List.filterMap_append,
    List.filterMap_cons_some here]
  simp only [List.map_append, List.map_cons, List.reverse_append, List.reverse_cons,
    List.findSome?_append, none, List.append_assoc]
  simp [value]

end Outputs

section Runs

variable {engine : ExecutionEngine σ} {plan : ExecutionPlan} {step : PlanStep}
  {start : PyDict String Fields}

/-- Every called step was given the outputs of the steps before it. -/
def GivenOutputs (start : PyDict String Fields) (t : List (StepEvent σ)) : Prop :=
  ∀ before step given result after, t = before ++ .called step given result :: after →
    given.stepOutputs = recordedOutputs start before

theorem GivenOutputs.append_singleton {t : List (StepEvent σ)} (old : GivenOutputs start t)
    {e : StepEvent σ} (new : ∀ step given result, e = .called step given result →
      given.stepOutputs = recordedOutputs start t) : GivenOutputs start (t ++ [e]) := by
  intro before step given result after split
  rcases List.eq_nil_or_concat after with rfl | ⟨rest, last, rfl⟩
  · have same : t = before ∧ e = .called step given result := by simpa using split
    rw [← same.1]
    exact new step given result same.2
  · rw [List.concat_eq_append, ← List.cons_append, ← List.append_assoc] at split
    exact old before step given result rest (List.append_inj_left' split rfl)

theorem givenOutputs_call {st : RunState σ} (ledger : Ledger start st)
    (given : GivenOutputs start st.trace) (executor : StepExecutor σ) :
    GivenOutputs start (st.trace ++ [callEvent engine executor step st]) := by
  refine given.append_singleton (fun step' given' result same => ?_)
  cases same
  exact ledger.outputs

theorem givenOutputs_turn {st st' : RunState σ} (ledger : Ledger start st)
    (given : GivenOutputs start st.trace) (turn : Turn engine step st (.next st')) :
    GivenOutputs start st'.trace := by
  cases turn with
  | skipped unmet => exact given.append_singleton (fun _ _ _ same => by cases same)
  | succeeded executor stepRun result call success => exact givenOutputs_call ledger given executor
  | continued executor stepRun result call failure policy =>
    exact givenOutputs_call ledger given executor

theorem run_givenOutputs (engine : ExecutionEngine σ) (plan : ExecutionPlan)
    (context : ExecutionContext σ) (w : σ) (distinct : (plan.steps.map PlanStep.stepId).Nodup)
    (keeps : KeepsOutputs engine) :
    GivenOutputs context.stepOutputs (run engine plan context w).state.trace := by
  rcases run_rule engine plan context w
      (fun done st => Trail engine done st ∧ Ledger context.stepOutputs st ∧
        GivenOutputs context.stepOutputs st.trace)
      ⟨trail_start plan context w, ledger_start plan context w, by
        intro before step given result after split
        cases before <;> cases split⟩
      (fun done step rest st st' split ⟨trail, ledger, given⟩ turn =>
        ⟨trail_turn trail turn, ledger_turn keeps ledger (new_id distinct split trail.steps) turn,
          givenOutputs_turn ledger given turn⟩) with
    ⟨st, ⟨_, _, given⟩, ended⟩ | ⟨done, step, rest, st, halt, split, ⟨_, ledger, given⟩, turn, ended⟩
  · rw [ended, conclude_trace]
    exact given
  · rw [ended]
    cases turn with
    | unknown met exc missing => exact given
    | raised met executor known exc refused => exact givenOutputs_call ledger given executor
    | waiting executor stepRun result call failure policy request w' later =>
      dsimp only [leave]
      rw [conclude_trace]
      exact givenOutputs_call ledger given executor
    | failed executor stepRun result call failure policy policy' summary =>
      dsimp only [leave]
      rw [conclude_trace]
      exact givenOutputs_call ledger given executor

end Runs

section Flow

/-- `b` is the one step of its kind that `s` depends on, directly or not. -/
structure OnlyDependency (steps : List PlanStep) (kind : String) (s b : PlanStep) : Prop where
  ofKind : b.kind = kind
  depends : Relation.TransGen (DependsDirectly steps) s b
  only : ∀ b', Relation.TransGen (DependsDirectly steps) s b' → b'.kind = kind → b' = b

/-- After `b`, no step of its kind succeeded but such that `s` depends on. -/
def Undisturbed (steps : List PlanStep) (kind : String) (s b : PlanStep)
    (before : List (StepEvent σ)) : Prop :=
  ∀ earlier e between, before = earlier ++ e :: between → e.step = b →
    ∀ e' ∈ between, e'.step.kind = kind → SucceededUnder e'.step.stepId e' →
      Relation.TransGen (DependsDirectly steps) s e'.step

/-- Among the default executors, those of this kind alone report the key, and always do. -/
def ReportedBy (key kind : String) : Prop :=
  ∀ entry ∈ reportedKeys, (key ∈ entry.2.1 ++ entry.2.2 → entry.1 = kind) ∧
    (entry.1 = kind → key ∈ entry.2.1)

theorem imageId_reportedBy : ReportedBy "image_id" PlanStepKind.buildImage := by
  unfold ReportedBy
  decide

theorem containerId_reportedBy : ReportedBy "container_id" PlanStepKind.createRuntime := by
  unfold ReportedBy
  decide

variable {engine : ExecutionEngine σ} {plan order : ExecutionPlan}

theorem key_of_get {outputs : Fields} {key : String} (h : outputs.get key ≠ none) :
    key ∈ outputs.map Prod.fst := by
  by_contra missing
  exact h ((SthBoring.Lib.OrderedDict.assocGet_eq_none_iff key outputs).mpr missing)

theorem get_of_key {outputs : Fields} {key : String} (h : key ∈ outputs.map Prod.fst) :
    ∃ v, outputs.get key = some v := by
  cases found : outputs.get key with
  | none => exact absurd h ((SthBoring.Lib.OrderedDict.assocGet_eq_none_iff key outputs).mp found)
  | some v => exact ⟨v, rfl⟩

private theorem called_of_view {e : StepEvent σ} {b : PlanStep} (h : view e = .called b true) :
    ∃ given result, e = .called b given result ∧ result.status = .succeeded := by
  cases e with
  | skipped step => cases h
  | called step given result =>
    simp only [view, SthBoring.Lib.DependencyTrace.Event.called.injEq, decide_eq_true_eq] at h
    obtain ⟨rfl, success⟩ := h
    exact ⟨given, result, rfl, success⟩

/-- What a step depends on, in the order of the run. -/
private theorem needs_of_depends (perm : order.steps.Perm plan.steps) {s b : PlanStep}
    (depends : Relation.TransGen (DependsDirectly plan.steps) s b) :
    Relation.TransGen
      (SthBoring.Lib.DependencyTrace.Needs PlanStep.stepId PlanStep.dependsOn order.steps) s b := by
  refine Relation.TransGen.mono (fun s' d direct => ?_) s b depends
  exact ⟨perm.mem_iff.mpr direct.2.1, direct.2.2⟩

/-- A dependency of a kind that reports the key has reported it before. -/
private theorem reported_of_dependency (default : engine.registry = createDefaultStepExecutorRegistry)
    (perm : order.steps.Perm plan.steps) (distinct : (order.steps.map PlanStep.stepId).Nodup)
    {context : ExecutionContext σ} {w : σ} {before after : List (StepEvent σ)} {step : PlanStep}
    {given : ExecutionContext σ} {result : StepExecutionResult}
    (split : (run engine order context w).state.trace = before ++ .called step given result :: after)
    {key kind : String} (reported : ReportedBy key kind) {b : PlanStep}
    (only : OnlyDependency plan.steps kind step b) :
    ∃ given' result' v, .called b given' result' ∈ before ∧ result'.status = .succeeded ∧
      result'.outputs.get key = some v := by
  have outline := run_outline engine order context w
  have within : ∀ e ∈ (run engine order context w).state.trace.map view, e.item ∈ order.steps := by
    intro e he
    obtain ⟨e', he', rfl⟩ := List.mem_map.mp he
    rw [view_item]
    exact outline.steps.subset (List.mem_map_of_mem he')
  have called : (run engine order context w).state.trace.map view =
      before.map view ++ .called step (decide (result.status = .succeeded)) :: after.map view := by
    rw [split, List.map_append]
    rfl
  have succeeded : .called b true ∈ before.map view :=
    outline.faithful.needed_succeeded _ _ within distinct (needs_of_depends perm only.depends) called
  obtain ⟨e, he, hv⟩ := List.mem_map.mp succeeded
  obtain ⟨given', result', rfl, success⟩ := called_of_view hv
  have inTrace : .called b given' result' ∈ (run engine order context w).state.trace :=
    split ▸ List.mem_append_left _ he
  obtain ⟨always, sometimes, entry, reports⟩ :=
    called_reports default (outline.registered _ inTrace)
  have reporting := reports.complete success ((reported _ entry).2 only.ofKind)
  obtain ⟨v, value⟩ := get_of_key reporting
  exact ⟨given', result', v, he, success, value⟩

/-- The newest output under a key is that of the one dependency of the kind that reports it. -/
theorem newest_of_dependency (default : engine.registry = createDefaultStepExecutorRegistry)
    (perm : order.steps.Perm plan.steps) (distinct : (plan.steps.map PlanStep.stepId).Nodup)
    {context : ExecutionContext σ} (fresh : ∀ step ∈ plan.steps, step.stepId ∉ context.stepOutputs.keys)
    {w : σ} {before after : List (StepEvent σ)} {step : PlanStep} {given : ExecutionContext σ}
    {result : StepExecutionResult}
    (split : (run engine order context w).state.trace = before ++ .called step given result :: after)
    {key kind : String} (reported : ReportedBy key kind) {b : PlanStep}
    (only : OnlyDependency plan.steps kind step b)
    (undisturbed : Undisturbed plan.steps kind step b before) :
    ∃ given' result' v, .called b given' result' ∈ before ∧ result'.status = .succeeded ∧
      result'.outputs.get key = some v ∧ findOutput given key = v := by
  have outline := run_outline engine order context w
  have distinct' : (order.steps.map PlanStep.stepId).Nodup :=
    (perm.map PlanStep.stepId).nodup_iff.mpr distinct
  have ids : (before.map (fun e => e.step.stepId)).Nodup := by
    have all := distinct'.sublist (outline.steps.map PlanStep.stepId).sublist
    rw [List.map_map, split, List.map_append] at all
    exact all.sublist (List.sublist_append_left _ _)
  have inTrace : ∀ e ∈ before, e ∈ (run engine order context w).state.trace :=
    fun e he => split ▸ List.mem_append_left _ he
  obtain ⟨given', result', v, he, success, value⟩ :=
    reported_of_dependency default perm distinct' split reported only
  refine ⟨given', result', v, he, success, value, ?_⟩
  obtain ⟨earlier, between, cut⟩ := List.append_of_mem he
  have own := run_givenOutputs engine order context w distinct' (keepsOutputs_default default)
    _ _ _ _ _ split
  rw [findOutput, own, cut, newest_output (cut ▸ ids) ?_ success value ?_]
  · rfl
  · intro e' he'
    have planned : e'.step ∈ order.steps :=
      outline.steps.subset (List.mem_map_of_mem (inTrace e' (cut ▸ he')))
    exact fresh e'.step (perm.mem_iff.mp planned)
  · -- nothing that succeeded in between reports the key
    intro e' he' entry' hp
    by_contra present
    have mem' : e' ∈ before := by
      rw [cut]
      exact List.mem_append_right _ (List.mem_cons_of_mem _ he')
    cases e' with
    | skipped step' => cases hp
    | called step' given'' result'' =>
      simp only [produced] at hp
      split at hp
      · rename_i success'
        cases hp
        obtain ⟨always', sometimes', entry', reports'⟩ :=
          called_reports default (outline.registered _ (inTrace _ mem'))
        have same := (reported _ entry').1 (reports'.only (key_of_get present))
        have needed := undisturbed _ _ _ cut rfl _ he' same ⟨rfl, success'⟩
        obtain rfl : step' = b := only.only step' needed same
        rw [cut, List.map_append, List.map_cons, List.nodup_append] at ids
        exact (List.nodup_cons.mp ids.2.1).1 (List.mem_map.mpr ⟨_, he', rfl⟩)
      · cases hp

/-- The executor that this body makes ran for the step, and left this result. -/
def RanBy (body : PlanStep → Executing σ StepExecutionResult) (step : PlanStep)
    (given : ExecutionContext σ) (result : StepExecutionResult) : Prop :=
  ∃ w, result = Executed.result ((executorOf step.kind body).execute step given w)

private theorem ranBy_of_kind (default : engine.registry = createDefaultStepExecutorRegistry)
    {step : PlanStep} {given : ExecutionContext σ} {result : StepExecutionResult}
    (registered : FromRegistry engine (.called step given result))
    {body : PlanStep → Executing σ StepExecutionResult}
    (known : createDefaultStepExecutorRegistry.get step.kind = .ok (executorOf step.kind body)) :
    RanBy body step given result := by
  obtain ⟨executor, w, found, same⟩ := registered
  rw [default, known] at found
  cases found
  exact ⟨w, same⟩

/-- What one step of a run makes of the outputs of the steps before it. -/
structure FlowsFrom (steps : List PlanStep) (before : List (StepEvent σ)) (step : PlanStep)
    (given : ExecutionContext σ) (result : StepExecutionResult) : Prop where
  image : step.kind = PlanStepKind.createRuntime → NamesNoImage step.inputs →
    ∀ b, OnlyDependency steps PlanStepKind.buildImage step b →
      Undisturbed steps PlanStepKind.buildImage step b before →
      RanBy createRuntime step given result ∧
      ∃ given' result' image, .called b given' result' ∈ before ∧ result'.status = .succeeded ∧
        result'.outputs.get "image_id" = some image ∧ CreatesFrom step given image
  container : step.kind = PlanStepKind.inspectEnvironment → NamesNoContainer step.inputs →
    ∀ r, OnlyDependency steps PlanStepKind.createRuntime step r →
      Undisturbed steps PlanStepKind.createRuntime step r before →
      RanBy inspectEnvironment step given result ∧
      ∃ given' result' containerId, .called r given' result' ∈ before ∧
        result'.status = .succeeded ∧ result'.outputs.get "container_id" = some containerId ∧
        (containerId.truthy = true → Inspects step given containerId)

/-- In every run of a plan's steps, in any order, images and containers come from the one
dependency that makes them, unless a step that is no dependency made another one since. -/
theorem data_flow (engine : ExecutionEngine σ)
    (default : engine.registry = createDefaultStepExecutorRegistry) (plan order : ExecutionPlan)
    (perm : order.steps.Perm plan.steps) (distinct : (plan.steps.map PlanStep.stepId).Nodup)
    (context : ExecutionContext σ) (fresh : ∀ step ∈ plan.steps, step.stepId ∉ context.stepOutputs.keys)
    (w : σ) {before after : List (StepEvent σ)} {step : PlanStep} {given : ExecutionContext σ}
    {result : StepExecutionResult}
    (split : (run engine order context w).state.trace = before ++ .called step given result :: after) :
    FlowsFrom plan.steps before step given result := by
  have registered := (run_outline engine order context w).registered (.called step given result)
    (by simp [split])
  refine ⟨fun kind unnamed b only undisturbed => ?_, fun kind unnamed r only undisturbed => ?_⟩
  · obtain ⟨given', result', image, mem, success, value, newest⟩ :=
      newest_of_dependency default perm distinct fresh split imageId_reportedBy only undisturbed
    refine ⟨ranBy_of_kind default registered ?_, given', result', image, mem, success, value, ?_⟩
    · rw [kind]
      rfl
    · rw [← newest]
      exact createsFrom_newest unnamed given
  · obtain ⟨given', result', containerId, mem, success, value, newest⟩ :=
      newest_of_dependency default perm distinct fresh split containerId_reportedBy only undisturbed
    refine ⟨ranBy_of_kind default registered ?_, given', result', containerId, mem, success, value,
      fun truthy => ?_⟩
    · rw [kind]
      rfl
    · rw [← newest] at truthy ⊢
      exact inspects_newest unnamed truthy

end Flow

section Examples

/-! Two builds, and a runtime that depends on the first. -/

/-- `FakeDockerDriver`, with images named by their tags. -/
def fakeDockerDriver : DockerDriver Unit where
  buildImage spec w :=
    let tag := getAttrD spec "tag" .null
    (.ok (.obj "BuildImageResult" [("image_id", tag), ("tags", .list [tag])]), w)

/-- `FakeRuntimeManager`. -/
def fakeRuntimeManager : RuntimeManager Unit where
  createContainer _ _ w := (.ok (.obj "FakeContainer" [("container_id", .str "ctr_1"),
    ("engine_id", .str "engine_1"), ("metadata_json", .str "{}")]), w)
  createDeploymentRecord _ w := (.ok .null, w)

def flowContext : ExecutionContext Unit :=
  { fakeContext none with
    dockerDriver := some fakeDockerDriver, runtimeManager := some fakeRuntimeManager }

def flowEngine : ExecutionEngine Unit :=
  { fakeEngine [] with registry := createDefaultStepExecutorRegistry }

def buildStep (stepId tag : String) : PlanStep :=
  { fakeStep stepId PlanStepKind.buildImage [] .abort with inputs := [("tag", .str tag)] }

def buildA : PlanStep := buildStep "build_a" "img_a"

def buildB : PlanStep := buildStep "build_b" "img_b"

def runtimeStep : PlanStep := fakeStep "run_a" PlanStepKind.createRuntime ["build_a"] .abort

/-- Both orders of the two builds. -/
def flowPlan (first second : PlanStep) : ExecutionPlan := fakePlan [first, second, runtimeStep]

private theorem only_buildA :
    OnlyDependency (flowPlan buildA buildB).steps PlanStepKind.buildImage runtimeStep buildA := by
  have direct : ∀ b, DependsDirectly (flowPlan buildA buildB).steps runtimeStep b → b = buildA := by
    rintro b ⟨_, mem, dep⟩
    obtain rfl | rfl | rfl : b = buildA ∨ b = buildB ∨ b = runtimeStep := by
      simpa [flowPlan, fakePlan] using mem
    · rfl
    · exact absurd dep (by decide)
    · exact absurd dep (by decide)
  have free : ∀ b, ¬ DependsDirectly (flowPlan buildA buildB).steps buildA b :=
    fun b depends => absurd depends.2.2 List.not_mem_nil
  refine ⟨rfl, .single ⟨?_, ?_, ?_⟩, fun b depends ofKind => ?_⟩
  · simp [flowPlan, fakePlan]
  · simp [flowPlan, fakePlan]
  · decide
  · clear ofKind
    induction depends with
    | single depends => exact direct _ depends
    | tail _ depends ih =>
      rw [ih] at depends
      exact absurd depends (free _)

private theorem runtimeStep_unnamed : NamesNoImage runtimeStep.inputs := by
  refine ⟨rfl, rfl, rfl, fun payload given => ?_⟩
  cases given
  rfl

private theorem undisturbed_swapped (given given' : ExecutionContext Unit)
    (result result' : StepExecutionResult) :
    Undisturbed (flowPlan buildA buildB).steps PlanStepKind.buildImage runtimeStep buildA
      [.called buildB given result, .called buildA given' result'] := by
  intro earlier e between split same e' he'
  rcases earlier with _ | ⟨first, _ | ⟨second, earlier⟩⟩
  · cases split
    have ids : buildB.stepId = buildA.stepId := congrArg PlanStep.stepId same
    exact absurd ids (by decide)
  · cases split
    cases he'
  · cases earlier <;> cases split

/-- The build the runtime does not depend on comes first, and its image is not used. -/
theorem data_flow_swapped :
    ∃ before given result,
      (run flowEngine (flowPlan buildB buildA) flowContext ()).state.trace =
        before ++ [.called runtimeStep given result] ∧
      RanBy createRuntime runtimeStep given result ∧
      ∃ given' result' image, .called buildA given' result' ∈ before ∧
        result'.status = .succeeded ∧ result'.outputs.get "image_id" = some image ∧
        CreatesFrom runtimeStep given image :=
  ⟨[_, _], _, _, rfl, (data_flow flowEngine rfl (flowPlan buildA buildB) (flowPlan buildB buildA)
    (List.Perm.swap _ _ _) (by decide) flowContext (fun _ _ => List.not_mem_nil) () rfl).image rfl
    runtimeStep_unnamed buildA only_buildA (undisturbed_swapped _ _ _ _)⟩

/-- It comes second, and its image is used, although the runtime depends on the other one. -/
theorem newest_image_wins :
    DependencyOrdered (flowPlan buildA buildB).steps ∧
      ((flowPlan buildA buildB).steps.map PlanStep.stepId).Nodup ∧
      NamesNoImage runtimeStep.inputs ∧
      OnlyDependency (flowPlan buildA buildB).steps PlanStepKind.buildImage runtimeStep buildA ∧
      ∃ before given result,
        (run flowEngine (flowPlan buildA buildB) flowContext ()).state.trace =
          before ++ [.called runtimeStep given result] ∧
        result.status = .succeeded ∧
        (∃ given' result', .called buildA given' result' ∈ before ∧ result'.status = .succeeded ∧
          result'.outputs.get "image_id" = some (.str "img_a")) ∧
        CreatesFrom runtimeStep given (.str "img_b") ∧
        ¬ CreatesFrom runtimeStep given (.str "img_a") := by
  refine ⟨?_, by decide, runtimeStep_unnamed, only_buildA, [_, _], _, _, rfl, rfl,
    ⟨_, _, List.mem_cons_self, rfl, rfl⟩, createsFrom_newest runtimeStep_unnamed _, ?_⟩
  · intro before step after split dep hd
    rcases before with _ | ⟨first, _ | ⟨second, _ | ⟨third, before⟩⟩⟩
    · cases split
      cases hd
    · cases split
      cases hd
    · cases split
      rw [List.mem_singleton.mp hd]
      decide
    · cases before <;> cases split
  · intro wrong
    have shown := wrong.only () _ _ _ (List.Mem.head _)
    exact absurd (Value.str.inj (Except.ok.inj shown)) (by decide)

end Examples

end SthBoring.Execution.DataFlow
