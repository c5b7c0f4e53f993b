/- Module: SthBoring/Execution/FailedInspections
   source: sdk_test_agent/execution/step_executors/inspect_environment_step_executor.py,
     inspect_package_step_executor.py, sdk_test_agent/execution/execution_engine.py
   digest: What becomes of the steps that depend on an inspection with a failed report. -/

import SthBoring.Execution.DataFlow
import SthBoring.Execution.ReachedSteps

set_option autoImplicit false
set_option relaxedAutoImplicit false

namespace SthBoring.Execution.FailedInspections

universe u

open SthBoring.Lib.DependencyTrace (Event Means)
open SthBoring.Lib.Effect (Computation)
open SthBoring.Lib.Loop (loop)
open SthBoring.Lib.OrderedDict (PyDict)
open SthBoring.Lib.PyObject
open SthBoring.Lib.PyValue
open SthBoring.Plan.Models
open SthBoring.Execution.Models
open SthBoring.Execution.Engine
open SthBoring.Execution.DataFlow (fakeDockerDriver flowEngine)
open SthBoring.Execution.RunInvariant
open SthBoring.Execution.ReachedSteps
open SthBoring.Execution.StepUtils
open SthBoring.Execution.StepExecutors

variable {σ : Type u}

section Executors

/-- The executor of an inspection kind. -/
def inspectionBody (kind : String) : Option (PlanStep → Executing σ StepExecutionResult) :=
  if kind = PlanStepKind.inspectPackage then some inspectPackage
  else if kind = PlanStepKind.inspectEnvironment then some inspectEnvironment
  else none

/-- The report that an inspector answered with. -/
def answeredReport : ServiceCall → Option Value
  | .inspectJavaPackage _ (.ok report) => some report
  | .inspectDockerEnv _ (.ok report) => some report
  | _ => none

/-- The status of a report says failed, or its readiness does. -/
def saysFailed (report : Value) : Bool :=
  (getAttrD report "status" .null).pyEq (.str "failed") ||
    (getAttrD report "readiness" .null).pyEq (.str "failed")

/-- A result without texts of its own. -/
structure Quiet (result : StepExecutionResult) : Prop where
  stdout : result.stdout = none
  stderr : result.stderr = none
  logText : result.logText = none

/-- Everything an inspection executor can do. -/
inductive Inspects : Except PyExc StepExecutionResult → List ServiceCall → Prop where
  | idle (result : StepExecutionResult) : Inspects (.ok result) []
  | raised (asked : ServiceCall) (noReport : answeredReport asked = none) (exc : PyExc) :
      Inspects (.error exc) [asked]
  | refused (asked : ServiceCall) (persist : PersistCall) (exc : PyExc) :
      Inspects (.error exc) [asked, .persistArtifactBytes persist (.error exc)]
  | reported (asked : ServiceCall) (report : Value) (answered : answeredReport asked = some report)
      (saved : List ServiceCall) (result : StepExecutionResult)
      (taken : ∀ call ∈ saved, ∃ persist record, call = .persistArtifactBytes persist (.ok record))
      (success : result.status = .succeeded) (quiet : Quiet result) :
      Inspects (.ok result) (asked :: saved)

/-- What is left to do once the report is there makes no calls and reports a success. -/
def Concludes (k : Option String → Executing σ StepExecutionResult) : Prop :=
  ∀ ref s, ∃ result s', k ref s = (.ok result, s') ∧ s'.calls = s.calls ∧
    result.status = .succeeded ∧ Quiet result

/-- From the report on, only its persist call can raise. -/
private theorem inspects_of_report {asked : ServiceCall} {name : String} {report : Value}
    (answers : answeredReport asked = some report)
    {k : Option String → Executing σ StepExecutionResult} (concludes : Concludes k)
    {s : Working σ} (calls : s.calls = [asked]) :
    let ended := (persistJson "report.json" name report >>= k) s
    Inspects ended.1 ended.2.calls := by
  intro ended
  have reported : ∀ ref s', persistJson "report.json" name report s = (.ok ref, s') →
      ∀ saved, s'.calls = asked :: saved →
      (∀ call ∈ saved, ∃ persist record, call = .persistArtifactBytes persist (.ok record)) →
      Inspects ended.1 ended.2.calls := by
    intro ref s' persisted saved made taken
    obtain ⟨result, s'', ran, same, success, quiet⟩ := concludes ref s'
    have all : ended = _ := (Computation.bind_of_ok persisted k).trans ran
    rw [all]
    dsimp only
    rw [same, made]
    exact .reported asked report answers saved result taken success quiet
  cases configured : s.context.artifactManager with
  | none =>
    refine reported none s (persistText_of_none configured) [] calls ?_
    intro call mem
    cases mem
  | some manager =>
    rcases answered : manager.persistArtifactBytes (textCall s.context "report.json" name
      (SthBoring.Lib.PyJson.dumps .standard (jsonable report)) (some "application/json")) s.world
      with ⟨exc | record, w'⟩
    · have all : ended = _ := Computation.bind_of_error (persistText_of_error configured answered) k
      rw [all]
      dsimp only
      rw [calls]
      exact .refused asked _ exc
    · refine reported _ _ (persistText_of_ok configured answered) _ (by rw [calls]; rfl) ?_
      intro call mem
      exact ⟨_, record, List.mem_singleton.mp mem⟩

private theorem inspects_of_asking {entry : Except PyExc Value → ServiceCall}
    (asks : ∀ exc, answeredReport (entry (.error exc)) = none)
    (gives : ∀ report, answeredReport (entry (.ok report)) = some report)
    (service : σ → Except PyExc Value × σ) (name : String)
    {k : Value → Option String → Executing σ StepExecutionResult}
    (concludes : ∀ report, Concludes (k report)) (context : ExecutionContext σ) (w : σ) :
    let ended := (ask entry service >>= fun report =>
      persistJson "report.json" name report >>= k report) ⟨context, w, []⟩
    Inspects ended.1 ended.2.calls := by
  intro ended
  rcases answered : service w with ⟨exc | report, w'⟩
  · have all : ended = _ := Computation.bind_of_error (ask_of_error answered) _
    rw [all]
    exact .raised _ (asks exc) exc
  · have all : ended = _ := Computation.bind_of_ok (ask_of_ok answered) _
    rw [all]
    exact inspects_of_report (gives report) (concludes report) rfl

theorem inspectPackage_inspects (step : PlanStep) (context : ExecutionContext σ) (w : σ) :
    Inspects (inspectPackage step ⟨context, w, []⟩).1 (callsOf inspectPackage step context w) := by
  unfold callsOf inspectPackage requiring withContext
  dsimp only
  cases context.packageInspector with
  | none => exact .idle _
  | some inspector =>
    dsimp only
    split
    · refine inspects_of_asking (fun _ => rfl) (fun _ => rfl) _ _ (fun report ref s => ?_) context w
      exact ⟨_, s, rfl, rfl, rfl, rfl, rfl, rfl⟩
    · exact .idle _

theorem inspectEnvironment_inspects (step : PlanStep) (context : ExecutionContext σ) (w : σ) :
    Inspects (inspectEnvironment step ⟨context, w, []⟩).1
      (callsOf inspectEnvironment step context w) := by
  unfold callsOf inspectEnvironment requiring withContext
  dsimp only
  cases context.envInspector with
  | none => exact .idle _
  | some inspector =>
    dsimp only
    split
    · refine inspects_of_asking (fun _ => rfl) (fun _ => rfl) _ _ (fun report ref s => ?_) context w
      cases keptRefs [ref] with
      | nil => exact ⟨_, s, rfl, rfl, rfl, rfl, rfl, rfl⟩
      | cons first rest => exact ⟨_, _, rfl, rfl, rfl, rfl, rfl, rfl⟩
    · exact .idle _

theorem body_inspects {kind : String} {body : PlanStep → Executing σ StepExecutionResult}
    (inspection : inspectionBody kind = some body) (step : PlanStep) (context : ExecutionContext σ)
    (w : σ) : Inspects (body step ⟨context, w, []⟩).1 (callsOf body step context w) := by
  unfold inspectionBody at inspection
  split at inspection
  · cases inspection
    exact inspectPackage_inspects step context w
  · split at inspection
    · cases inspection
      exact inspectEnvironment_inspects step context w
    · cases inspection

end Executors

section Step

variable {engine : ExecutionEngine σ} {step : PlanStep} {st : RunState σ}

/-- The two inspection kinds have their executors in the registry. -/
def InspectionsRegistered (engine : ExecutionEngine σ) : Prop :=
  ∀ kind body, inspectionBody kind = some body →
    engine.registry.get kind = .ok (executorOf kind body)

/-- The executor of an inspection makes this call when it is called in this state. -/
def Makes (engine : ExecutionEngine σ) (step : PlanStep) (st : RunState σ) (call : ServiceCall) :
    Prop :=
  ∃ body, inspectionBody step.kind = some body ∧
    call ∈ callsOf body step st.context (startStepRun engine step st.run st.world).2

/-- An inspection whose dependencies are met in this state, and whose report says failed. -/
structure FailedInspection (engine : ExecutionEngine σ) (step : PlanStep) (st : RunState σ) :
    Prop where
  met : dependenciesSatisfied step st.stepStatus = true
  obtained : ∃ call report, Makes engine step st call ∧ answeredReport call = some report ∧
    saysFailed report = true

/-- The artifact manager raises on the call that persists the report. -/
def ReportRefused (engine : ExecutionEngine σ) (step : PlanStep) (st : RunState σ) : Prop :=
  ∃ persist exc, Makes engine step st (.persistArtifactBytes persist (.error exc))

/-- The result of a failed inspection: the step fails exactly when its report is refused. -/
theorem FailedInspection.result (registered : InspectionsRegistered engine)
    (failed : FailedInspection engine step st) :
    ∃ executor, engine.registry.get step.kind = .ok executor ∧
      Quiet (Executed.result (executeStep engine executor step st)) ∧
      ((Executed.result (executeStep engine executor step st)).status = .succeeded ↔
        ¬ ReportRefused engine step st) := by
  obtain ⟨call, report, ⟨body, inspection, made⟩, answered, _⟩ := failed.obtained
  refine ⟨_, registered step.kind body inspection, ?_⟩
  have inspects := body_inspects inspection step st.context
    (startStepRun engine step st.run st.world).2
  have refused_iff : ReportRefused engine step st ↔ ∃ persist exc,
      .persistArtifactBytes persist (.error exc) ∈
        callsOf body step st.context (startStepRun engine step st.run st.world).2 := by
    unfold ReportRefused Makes
    simp only [inspection, Option.some.injEq, exists_eq_left']
  rw [refused_iff]
  change Quiet (Executed.result ⟨(body step ⟨st.context, _, []⟩).1, _, _⟩) ∧
    ((Executed.result ⟨(body step ⟨st.context, _, []⟩).1, _, _⟩).status = .succeeded ↔ _)
  generalize (body step ⟨st.context, (startStepRun engine step st.run st.world).2, []⟩).1 = outcome
    at inspects ⊢
  generalize callsOf body step st.context (startStepRun engine step st.run st.world).2 = calls
    at inspects made ⊢
  cases inspects with
  | idle result => cases made
  | raised asked noReport exc =>
    cases List.mem_singleton.mp made
    cases noReport.symm.trans answered
  | refused asked persist exc =>
    refine ⟨⟨rfl, rfl, rfl⟩, fun success => ?_, fun taken => ?_⟩
    · cases success
    · exact absurd ⟨persist, exc, by simp⟩ taken
  | reported asked report' isReport saved result taken success quiet =>
    refine ⟨quiet, fun _ => ?_, fun _ => success⟩
    rintro ⟨persist, exc, mem⟩
    rcases List.mem_cons.mp mem with rfl | mem
    · cases isReport
    · obtain ⟨persist', record, same⟩ := taken _ mem
      cases same

/-- A quiet result is finished without a persist call, so nothing can be refused. -/
theorem finishes_of_quiet {executor : StepExecutor σ}
    (met : dependenciesSatisfied step st.stepStatus = true)
    (known : engine.registry.get step.kind = .ok executor)
    (quiet : Quiet (Executed.result (executeStep engine executor step st))) :
    ∃ stepRun result, Finishes engine step st executor stepRun result := by
  obtain ⟨⟨stepRun, result⟩, finished⟩ := (finishStepRun_ok_iff engine
    (startStepRun engine step st.run st.world).1
    (Executed.result (executeStep engine executor step st))
    (executeStep engine executor step st).context
    (executeStep engine executor step st).world).mpr (by
      unfold finishStepRun
      simp [quiet.stdout, quiet.stderr, quiet.logText, persistOptional])
  exact ⟨stepRun, result, met, known, finished⟩

end Step

section Claim

variable {engine : ExecutionEngine σ} {plan : ExecutionPlan} {context : ExecutionContext σ} {w : σ}

/-- The step at this position of the plan is called in the run. -/
def Executes (engine : ExecutionEngine σ) (plan : ExecutionPlan) (context : ExecutionContext σ)
    (w : σ) (j : ℕ) : Prop :=
  ∃ step given result,
    (run engine plan context w).state.trace[j]? = some (.called step given result)

/-- What a failed inspection at this position stops. -/
structure Stops (engine : ExecutionEngine σ) (plan : ExecutionPlan) (context : ExecutionContext σ)
    (w : σ) (i : ℕ) (step : PlanStep) : Prop where
  dependents : ∀ j, Relation.TransGen (Means PlanStep.stepId PlanStep.dependsOn plan.steps) j i →
    ¬ Executes engine plan context w j
  waits : step.onFailure = .requestReplan → ∃ result st,
    run engine plan context w = .returned result st ∧ result.status = .waitingReplan

/-- Every failed inspection of the run stops its dependents. -/
def StopsDependents (engine : ExecutionEngine σ) (plan : ExecutionPlan)
    (context : ExecutionContext σ) (w : σ) : Prop :=
  ∀ i step st, ComesTo engine plan context w i step st → FailedInspection engine step st →
    Stops engine plan context w i step

/-- The report of every failed inspection of the run is refused, and the run that such a failure
hands over to a replan can write down its summary. -/
structure Heeds (engine : ExecutionEngine σ) (plan : ExecutionPlan) (context : ExecutionContext σ)
    (w : σ) : Prop where
  refused : ∀ i step st, ComesTo engine plan context w i step st →
    FailedInspection engine step st → ReportRefused engine step st
  recorded : ∀ i step st, ComesTo engine plan context w i step st →
    FailedInspection engine step st → step.onFailure = .requestReplan →
      Preserved engine (run engine plan context w).state

/-- A called step that anything called means, directly or not, was a success. -/
theorem succeeded_of_executes {i j : ℕ}
    (means : Relation.TransGen (Means PlanStep.stepId PlanStep.dependsOn plan.steps) j i)
    (executes : Executes engine plan context w j) {step : PlanStep} {given : ExecutionContext σ}
    {result : StepExecutionResult}
    (called : (run engine plan context w).state.trace[i]? = some (.called step given result)) :
    result.status = .succeeded := by
  have outline := run_outline engine plan context w
  obtain ⟨step', given', result', called'⟩ := executes
  have seen : ((run engine plan context w).state.trace.map view)[j]? =
      some (.called step' (decide (result'.status = .succeeded))) := by
    rw [List.getElem?_map, called']
    rfl
  obtain ⟨b, found⟩ := outline.faithful.reached_succeeded _ _
    (by rw [map_view_item]; exact outline.steps) means seen
  rw [List.getElem?_map, called] at found
  simp only [Option.map_some, view, Option.some.injEq, Event.called.injEq,
    decide_eq_true_eq] at found
  exact found.2

/-- A failed inspection whose report is refused fails, and that stops what depends on it. -/
theorem Heeds.stops (registered : InspectionsRegistered engine)
    (heeds : Heeds engine plan context w) : StopsDependents engine plan context w := by
  intro i step st comes failed
  obtain ⟨executor, known, quiet, success_iff⟩ := failed.result registered
  have fails : (Executed.result (executeStep engine executor step st)).status ≠ .succeeded :=
    fun success => success_iff.mp success (heeds.refused i step st comes failed)
  refine ⟨fun j means executes => ?_, fun policy => ?_⟩
  · exact fails (succeeded_of_executes means executes (comes.called failed.met known))
  · obtain ⟨stepRun, result, call⟩ := finishes_of_quiet failed.met known quiet
    have failure : result.status ≠ .succeeded := call.spec.status ▸ fails
    obtain ⟨summary, request, w', left⟩ := runStep_of_replan call failure policy
    have ended := comes.leaves left
    have preserved := heeds.recorded i step st comes failed policy
    rw [ended] at preserved
    have clean : ∀ entry ∈ ({ recordStep step (afterCall engine executor step st) .waitingReplan
        stepRun result with world := w' } : RunState σ).persists, ¬ Refused entry :=
      comes.trail.clean_call call
    obtain ⟨ended', st', returned⟩ :=
      (conclude_returned_iff engine .waitingReplan summary (some request) clean).mpr preserved
    exact ⟨ended', st', ended.trans returned, (concluded_of_returned returned).status⟩

/-- A failed inspection whose report is taken lets the next step, which depends on it, run. -/
theorem executes_of_taken (registered : InspectionsRegistered engine) {i : ℕ} {step : PlanStep}
    {st : RunState σ} (comes : ComesTo engine plan context w i step st)
    (failed : FailedInspection engine step st) (taken : ¬ ReportRefused engine step st)
    (later : PlanStep) (known : ∃ executor, engine.registry.get later.kind = .ok executor)
    (depends : later.dependsOn = [step.stepId]) (listed : plan.steps[i + 1]? = some later) :
    Executes engine plan context w (i + 1) := by
  obtain ⟨executor, known', quiet, success_iff⟩ := failed.result registered
  obtain ⟨stepRun, result, call⟩ := finishes_of_quiet failed.met known' quiet
  have success : result.status = .succeeded := call.spec.status.trans (success_iff.mpr taken)
  have next := comes.next (runStep_of_success call success) listed
  have met : dependenciesSatisfied later
      (succeededState (afterCall engine executor step st) step stepRun result).stepStatus = true := by
    simp only [dependenciesSatisfied, depends, List.all_cons, List.all_nil, Bool.and_true,
      decide_eq_true_eq]
    exact PyDict.get_set_self _ _ _
  obtain ⟨executor', known'⟩ := known
  exact ⟨later, _, _, next.called met known'⟩

/-- The plan with other steps. -/
def withSteps (plan : ExecutionPlan) (steps : List PlanStep) : ExecutionPlan :=
  { plan with steps := steps }

/-- A step of the same kind that depends on the given one and on nothing else. -/
def dependentOf (step : PlanStep) : PlanStep :=
  { step with stepId := step.stepId ++ "_next", dependsOn := [step.stepId] }

/-- The steps cut behind a position, with one more that depends on the last of them. -/
def cutBehind (steps : List PlanStep) (i : ℕ) (step : PlanStep) : List PlanStep :=
  steps.take i ++ [step, dependentOf step]

section Cut

variable {i : ℕ} {step : PlanStep} {st : RunState σ}

theorem cutBehind_last (comes : ComesTo engine plan context w i step st) :
    (cutBehind plan.steps i step)[i + 1]? = some (dependentOf step) := by
  have length := comes.length_take
  rw [cutBehind, List.getElem?_append_right (by omega), length, Nat.add_sub_cancel_left]
  rfl

/-- The cut plan runs alike as far as it goes. -/
theorem comesTo_cutBehind (comes : ComesTo engine plan context w i step st) :
    ComesTo engine (withSteps plan (cutBehind plan.steps i step)) context w i step st where
  listed := by
    have length := comes.length_take
    change (cutBehind plan.steps i step)[i]? = some step
    rw [cutBehind, List.getElem?_append_right length.le, length, Nat.sub_self]
    rfl
  state := by
    have same : (cutBehind plan.steps i step).take i = plan.steps.take i :=
      List.take_left' (comes.length_take)
    change loop (runStep engine plan) ((cutBehind plan.steps i step).take i)
      (initialState engine plan context w) = .next st
    rw [same]
    exact comes.state

theorem means_cutBehind (comes : ComesTo engine plan context w i step st) :
    Means PlanStep.stepId PlanStep.dependsOn (cutBehind plan.steps i step) (i + 1) i := by
  refine ⟨dependentOf step, step, cutBehind_last comes, (comesTo_cutBehind comes).listed,
    List.mem_singleton_self _, fun k c early between => ?_⟩
  have late := between (Nat.lt_succ_self i)
  omega

end Cut

/-- Where failed inspections stop their dependents whatever the steps are, their reports are
refused: one that is taken lets a step run that was put behind it. -/
theorem heeds_of_stops (registered : InspectionsRegistered engine)
    (stops : ∀ steps, StopsDependents engine (withSteps plan steps) context w)
    (steps : List PlanStep) : Heeds engine (withSteps plan steps) context w := by
  refine ⟨fun i step st comes failed => ?_, fun i step st comes failed policy => ?_⟩
  · by_contra taken
    have comes' := comesTo_cutBehind comes
    obtain ⟨executor, known, _⟩ := failed.result registered
    have executes := executes_of_taken registered comes' failed taken (dependentOf step)
      ⟨executor, known⟩ rfl (cutBehind_last comes)
    exact (stops _ i step st comes' failed).dependents (i + 1) (.single (means_cutBehind comes))
      executes
  · obtain ⟨result, st', returned, _⟩ := (stops steps i step st comes failed).waits policy
    rw [returned]
    exact preserved_of_returned returned

/-- A failed inspection stops its dependents in every run in which the reports of failed
inspections are refused, and in no other way: where it does so whatever the steps of the plan
are, they all are refused. -/
theorem failed_inspections_stop (registered : InspectionsRegistered engine) (plan : ExecutionPlan)
    (context : ExecutionContext σ) (w : σ) :
    (Heeds engine plan context w → StopsDependents engine plan context w) ∧
      ((∀ steps, StopsDependents engine (withSteps plan steps) context w) ↔
        ∀ steps, Heeds engine (withSteps plan steps) context w) :=
  ⟨fun heeds => heeds.stops registered, heeds_of_stops registered,
    fun heeds steps => (heeds steps).stops registered⟩

end Claim

section Examples

/-! The inspection of a package that turns out to be empty, and a build that depends on it. -/

def emptyJarReport : Value :=
  .obj "PackageInspectionReport" [("status", .str "failed"), ("language", .str "java")]

def emptyJarInspector : PackageInspector Unit where
  inspectJavaPackage _ w := (.ok emptyJarReport, w)

def inspectionStep : PlanStep :=
  fakeStep "step_001" PlanStepKind.inspectPackage [] .requestReplan

def dependentBuild : PlanStep :=
  { fakeStep "step_002" PlanStepKind.buildImage ["step_001"] .abort with
    inputs := [("tag", .str "sdk")] }

def inspectionPlan : ExecutionPlan := fakePlan [inspectionStep, dependentBuild]

def inspectionContext (manager : Option (ArtifactManager Unit)) : ExecutionContext Unit :=
  { fakeContext manager with
    packageInspector := some emptyJarInspector, dockerDriver := some fakeDockerDriver }

/-- An artifact manager that runs out of space on package reports. -/
def fullArtifactManager : ArtifactManager Unit where
  persistArtifactBytes call w :=
    if call.name = "step_001.package_report.json" then
      (.error ⟨"OSError", ["Exception"], "No space left on device"⟩, w)
    else (.ok ⟨some call.name, none, call.name⟩, w)

theorem flowEngine_registered : InspectionsRegistered flowEngine := by
  intro kind body inspection
  unfold inspectionBody at inspection
  split at inspection
  · rename_i same
    cases inspection
    rw [same]
    rfl
  · split at inspection
    · rename_i same
      cases inspection
      rw [same]
      rfl
    · cases inspection

private theorem comesTo_inspectionStep (manager : Option (ArtifactManager Unit)) :
    ComesTo flowEngine inspectionPlan (inspectionContext manager) () 0 inspectionStep
      (initialState flowEngine inspectionPlan (inspectionContext manager) ()) :=
  ⟨rfl, rfl⟩

private theorem inspectionStep_failed (manager : Option (ArtifactManager Unit))
    (taken : manager = none ∨ manager = some fullArtifactManager) :
    FailedInspection flowEngine inspectionStep
      (initialState flowEngine inspectionPlan (inspectionContext manager) ()) where
  met := rfl
  obtained := by
    refine ⟨.inspectJavaPackage (packageInspectionInput inspectionStep (inspectionContext manager))
      (.ok emptyJarReport), emptyJarReport, ⟨inspectPackage, rfl, ?_⟩, rfl, by decide +kernel⟩
    rcases taken with rfl | rfl
    · exact List.mem_cons_self
    · exact List.mem_cons_self

private theorem inspectionStep_refused : ReportRefused flowEngine inspectionStep
    (initialState flowEngine inspectionPlan (inspectionContext (some fullArtifactManager)) ()) :=
  ⟨_, _, inspectPackage, rfl, List.mem_cons_of_mem _ List.mem_cons_self⟩

private theorem heeds_inspectionPlan :
    Heeds flowEngine inspectionPlan (inspectionContext (some fullArtifactManager)) () := by
  have first : ∀ i step st, ComesTo flowEngine inspectionPlan
      (inspectionContext (some fullArtifactManager)) () i step st → step = inspectionStep ∧
      st = initialState flowEngine inspectionPlan (inspectionContext (some fullArtifactManager)) () := by
    rintro i step st ⟨listed, state⟩
    match i with
    | 0 =>
      cases listed
      cases state
      exact ⟨rfl, rfl⟩
    | 1 => cases state
    | i + 2 => cases listed
  refine ⟨fun i step st comes failed => ?_, fun i step st comes failed policy => ?_⟩
  · obtain ⟨rfl, rfl⟩ := first i step st comes
    exact inspectionStep_refused
  · refine ⟨fun entry mem => ?_, "{}", rfl⟩
    cases List.mem_singleton.mp mem
    rintro ⟨exc, raised, _⟩
    cases raised

/-- The report is refused, and the build is not made. -/
theorem failed_inspections_stop_refused :
    FailedInspection flowEngine inspectionStep (initialState flowEngine inspectionPlan
        (inspectionContext (some fullArtifactManager)) ()) ∧
      StopsDependents flowEngine inspectionPlan (inspectionContext (some fullArtifactManager)) () :=
  ⟨inspectionStep_failed _ (.inr rfl), (failed_inspections_stop flowEngine_registered inspectionPlan
    (inspectionContext (some fullArtifactManager)) ()).1 heeds_inspectionPlan⟩

/-- Without an artifact manager the image is built, although the inspection of its package failed,
and the run succeeds without a replan. -/
theorem dependent_build_runs :
    FailedInspection flowEngine inspectionStep
        (initialState flowEngine inspectionPlan (inspectionContext none) ()) ∧
      Executes flowEngine inspectionPlan (inspectionContext none) () 1 ∧
      (∃ result st, run flowEngine inspectionPlan (inspectionContext none) () =
        .returned result st ∧ result.status = .succeeded) ∧
      ¬ StopsDependents flowEngine inspectionPlan (inspectionContext none) () := by
  have failed := inspectionStep_failed none (.inl rfl)
  have executes : Executes flowEngine inspectionPlan (inspectionContext none) () 1 := ⟨_, _, _, rfl⟩
  refine ⟨failed, executes, ⟨_, _, rfl, rfl⟩, fun stops => ?_⟩
  have stopped := stops 0 inspectionStep _ (comesTo_inspectionStep none) failed
  refine stopped.dependents 1 (.single ⟨dependentBuild, inspectionStep, rfl, rfl, ?_, ?_⟩) executes
  · exact List.mem_cons_self
  · intro k c early between
    have late := between Nat.zero_lt_one
    omega

end Examples

end SthBoring.Execution.FailedInspections
