/- Module: SthBoring/Execution/WorldInvariant
   source: sdk_test_agent/execution/execution_engine.py
   digest: What a run keeps of its context and its world, whatever its executors do in them. -/

import SthBoring.Execution.RunInvariant

set_option autoImplicit false
set_option relaxedAutoImplicit false

namespace SthBoring.Execution.WorldInvariant

universe u

open SthBoring.Lib.Loop (Flow)
open SthBoring.Lib.PyValue (PyExc)
open SthBoring.Plan.Models (PlanStep ExecutionPlan ReplanRequest)
open SthBoring.Execution.Models
open SthBoring.Execution.Engine
open SthBoring.Execution.RunInvariant

variable {σ : Type u}

/-- The names of what the engine itself persists in a run of these steps. -/
inductive EngineName (steps : List PlanStep) (runId : String) : String → Prop where
  | stdout (step : PlanStep) (mem : step ∈ steps) :
      EngineName steps runId s!"{step.stepId}.stdout.txt"
  | stderr (step : PlanStep) (mem : step ∈ steps) :
      EngineName steps runId s!"{step.stepId}.stderr.txt"
  | log (step : PlanStep) (mem : step ∈ steps) : EngineName steps runId s!"{step.stepId}.log.txt"
  | summary : EngineName steps runId s!"{runId}.execution_summary.json"

/-- A persist call as the engine makes it. -/
structure EngineCall (steps : List PlanStep) (runId : String) (context : ExecutionContext σ)
    (call : PersistCall) : Prop where
  taskId : call.taskId = context.taskId
  subdir : call.subdir = "outputs"
  name : EngineName steps runId call.name

/-- Everything a run does to its context and its world keeps the property. -/
structure Kept (engine : ExecutionEngine σ) (steps : List PlanStep) (runId : String)
    (I : ExecutionContext σ → σ → Prop) : Prop where
  clock : ∀ c w, I c w → I c (engine.timeFunc w).2
  ids : ∀ c w, I c w → I c (engine.uuidHex w).2
  executor : ∀ step ∈ steps, ∀ executor, engine.registry.get step.kind = .ok executor →
    ∀ c w, I c w → I (executor.execute step c w).context (executor.execute step c w).world
  persist : ∀ c w manager call, I c w → c.artifactManager = some manager →
    EngineCall steps runId c call → I c (manager.persistArtifactBytes call w).2
  refs : ∀ c w refs, I c w → I { c with artifactRefs := refs } w
  outputs : ∀ c w outputs, I c w → I { c with stepOutputs := outputs } w

section Rule

variable {engine : ExecutionEngine σ} {steps : List PlanStep} {runId : String}
  {I : ExecutionContext σ → σ → Prop} {c : ExecutionContext σ} {w : σ}

theorem Kept.asked (kept : Kept engine steps runId I) (h : I c w) {manager : ArtifactManager σ}
    (managed : c.artifactManager = some manager) {call : PersistCall}
    (named : EngineCall steps runId c call) {outcome : Except PyExc PersistedRecord} {w' : σ}
    (answer : manager.persistArtifactBytes call w = (outcome, w')) : I c w' := by
  have after := kept.persist c w manager call h managed named
  rw [answer] at after
  exact after

theorem Kept.textPersisted (kept : Kept engine steps runId I) (h : I c w) {call : PersistCall}
    (named : EngineCall steps runId c call)
    (same : EngineCall steps runId c (PersistCall.byPosition call))
    {persisted : Persisted σ} (made : TextPersisted c call w persisted) :
    I persisted.context persisted.world := by
  cases made with
  | unmanaged => exact h
  | saved managed answer => exact kept.refs c _ _ (kept.asked h managed named answer)
  | refused managed answer => exact kept.asked h managed named answer
  | savedAgain managed answer _ again =>
    have first := kept.asked h managed named answer
    exact kept.refs c _ _ (kept.asked first managed same again)
  | refusedAgain managed answer _ again =>
    have first := kept.asked h managed named answer
    exact kept.asked first managed same again

theorem Kept.persistText (kept : Kept engine steps runId I) (h : I c w) {name : String}
    (named : EngineName steps runId name) (kind text mimeType : String) :
    I (Engine.persistText c kind name text mimeType w).context
      (Engine.persistText c kind name text mimeType w).world := by
  have made := RunInvariant.textPersisted c kind name text mimeType w
  refine kept.textPersisted h ?_ ?_ made
  · exact ⟨rfl, rfl, named⟩
  · exact ⟨rfl, rfl, named⟩

theorem Kept.persistOptional (kept : Kept engine steps runId I) (h : I c w) {name : String}
    (named : EngineName steps runId name) (kind : String) (text : Option String) :
    I (Engine.persistOptional c kind name text w).context
      (Engine.persistOptional c kind name text w).world := by
  cases text with
  | none => exact h
  | some t => exact kept.persistText h named kind t "text/plain"

theorem Kept.persistTexts (kept : Kept engine steps runId I) {texts : List StepText}
    (h : I c w) (named : ∀ text ∈ texts, EngineName steps runId text.2.1) :
    I (RunInvariant.persistTexts texts c w).context (RunInvariant.persistTexts texts c w).world := by
  induction texts generalizing c w with
  | nil => exact h
  | cons text texts ih =>
    obtain ⟨kind, name, text⟩ := text
    obtain ⟨first, others⟩ := List.forall_mem_cons.mp named
    have persisted := kept.persistOptional h first kind text
    cases saved : (Engine.persistOptional c kind name text w).outcome with
    | error exc =>
      rw [persistTexts_cons_error saved]
      exact persisted
    | ok ref =>
      rw [persistTexts_cons_ok saved]
      exact ih persisted others

theorem Kept.finishStepRun (kept : Kept engine steps runId I) (h : I c w) {step : PlanStep}
    (mem : step ∈ steps) {stepRun : ExecutionStepRun} (own : stepRun.stepId = step.stepId)
    (result : StepExecutionResult) :
    I (Engine.finishStepRun engine stepRun result c w).context
      (Engine.finishStepRun engine stepRun result c w).world := by
  rw [finishStepRun_eq]
  refine kept.persistTexts (kept.clock c w h) ?_
  rw [textsOf, own]
  simp only [List.forall_mem_cons, List.not_mem_nil, IsEmpty.forall_iff, implies_true, and_true]
  exact ⟨.stdout step mem, .stderr step mem, .log step mem⟩

/-- The state of a run has the property. -/
def Has (I : ExecutionContext σ → σ → Prop) (st : RunState σ) : Prop := I st.context st.world

/-- How far a step's executor and persist calls take the state. -/
theorem Kept.afterCall (kept : Kept engine steps runId I) {st : RunState σ} (h : Has I st)
    {step : PlanStep} (mem : step ∈ steps) {executor : StepExecutor σ}
    (known : engine.registry.get step.kind = .ok executor) :
    Has I (Engine.afterCall engine executor step st) := by
  have started : I st.context (startStepRun engine step st.run st.world).2 :=
    kept.clock _ _ (kept.ids _ _ h)
  have executed := kept.executor step mem executor known _ _ started
  exact kept.finishStepRun executed mem rfl _

/-- The state in which the loop is left. -/
def haltState : Halt σ → RunState σ
  | .raised _ st => st
  | .stopped _ _ _ st => st

theorem Kept.turn (kept : Kept engine steps runId I) {st : RunState σ} (h : Has I st)
    {step : PlanStep} (mem : step ∈ steps) {flow : Flow (RunState σ) (Halt σ)}
    (turn : Turn engine step st flow) : flow.Holds (Has I) (fun halt => Has I (haltState halt)) := by
  cases turn with
  | skipped unmet => exact kept.ids _ _ (kept.clock _ _ h)
  | unknown met exc missing => exact h
  | raised met executor known exc refused => exact kept.afterCall h mem known
  | succeeded executor stepRun result call success =>
    exact kept.outputs _ _ _ (kept.afterCall h mem call.known)
  | continued executor stepRun result call failure policy => exact kept.afterCall h mem call.known
  | waiting executor stepRun result call failure policy request w later =>
    have after := kept.afterCall h mem call.known
    rw [later]
    exact kept.clock _ _ after
  | failed executor stepRun result call failure policy policy' summary =>
    exact kept.afterCall h mem call.known

theorem turn_runId {st : RunState σ} {step : PlanStep} {flow : Flow (RunState σ) (Halt σ)}
    (turn : Turn engine step st flow) :
    flow.Holds (fun st' => st'.run.runId = st.run.runId)
      (fun halt => (haltState halt).run.runId = st.run.runId) := by
  cases turn <;> rfl

theorem Kept.conclude (kept : Kept engine steps runId I) {st : RunState σ} (h : Has I st)
    (own : st.run.runId = runId) (status : ExecutionRunStatus) (summary : String)
    (replan : Option ReplanRequest) : Has I (Engine.conclude engine status summary replan st).state := by
  have timed : I st.context (engine.timeFunc st.world).2 := kept.clock _ _ h
  have saved : ∀ run : ExecutionRun, run.runId = runId →
      I (finishArtifactRecording engine run st.stepResults st.context
          (engine.timeFunc st.world).2).context
        (finishArtifactRecording engine run st.stepResults st.context
          (engine.timeFunc st.world).2).world := by
    intro run same
    unfold finishArtifactRecording
    cases engine.dumpSummary run st.stepResults with
    | error exc => exact timed
    | ok payload => exact kept.persistText timed (same ▸ EngineName.summary) _ payload _
  have done := saved
    { st.run with
      status := status, finishedAt := some (engine.timeFunc st.world).1
      resultSummary := some summary } own
  simp only [Engine.conclude]
  split
  · exact done
  · exact done

end Rule

/-- What a run keeps: a property that everything the run does keeps holds at its end. -/
theorem run_keeps {engine : ExecutionEngine σ} {plan : ExecutionPlan}
    {context : ExecutionContext σ} {I : ExecutionContext σ → σ → Prop} {w : σ}
    (kept : Kept engine plan.steps context.runId I) (start : I context w) :
    Has I (run engine plan context w).state := by
  rcases run_rule engine plan context w
    (fun _ st => Has I st ∧ st.run.runId = context.runId)
    ⟨kept.clock _ _ start, rfl⟩
    (fun done step rest st st' split inv turn =>
      ⟨kept.turn inv.1 (by simp [split]) turn, (turn_runId turn).trans inv.2⟩) with
    ⟨st, inv, ended⟩ | ⟨done, step, rest, st, halt, split, inv, turn, ended⟩
  · rw [ended]
    exact kept.conclude inv.1 inv.2 _ _ _
  · have left := kept.turn inv.1 (show step ∈ plan.steps by simp [split]) turn
    have same := (turn_runId turn).trans inv.2
    rw [ended]
    cases halt with
    | raised exc st' => exact left
    | stopped status summary replan st' => exact kept.conclude left same status summary replan

end SthBoring.Execution.WorldInvariant
