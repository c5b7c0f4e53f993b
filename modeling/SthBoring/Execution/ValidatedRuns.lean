/- Module: SthBoring/Execution/ValidatedRuns
   source: sdk_test_agent/plan/plan_validation.py, sdk_test_agent/execution/execution_engine.py
   digest: Which validated plans are executed to the last step when every call succeeds. -/

import SthBoring.Execution.RunRecords
import SthBoring.Plan.PassedPlans

set_option autoImplicit false
set_option relaxedAutoImplicit false

namespace SthBoring.Execution.ValidatedRuns

universe u

open SthBoring.Lib.DependencyTrace (Event Ordered)
open SthBoring.Lib.PyValue (PyExc)
open SthBoring.Capability.CapabilityModels (CapabilitySnapshot)
open SthBoring.Plan.Models (PlanStep ExecutionPlan DependencyOrdered)
open SthBoring.Plan.PlanValidation (PlanValidator Passes)
open SthBoring.Plan.PassedPlans (Passes.distinct Passes.soundStep)
open SthBoring.Execution.Models
open SthBoring.Execution.Engine
open SthBoring.Execution.RunInvariant
open SthBoring.Execution.RunRecords (not_preserved_of_raised)

variable {σ : Type u}

/-- No step names its own id, or the id of a step listed after it, in its `depends_on`. -/
def NoForwardReference (steps : List PlanStep) : Prop :=
  ∀ before step after, steps = before ++ step :: after →
    ∀ dep ∈ step.dependsOn, dep ∉ (step :: after).map PlanStep.stepId

/-- A validated plan is in dependency order when nothing in it refers forward: the validator has
seen to it that ids are distinct and that dependencies are ids of the plan. -/
theorem dependencyOrdered_iff {v : PlanValidator} {plan : ExecutionPlan}
    {snapshot : Option CapabilitySnapshot} (passes : Passes v plan snapshot) :
    DependencyOrdered plan.steps ↔ NoForwardReference plan.steps := by
  have distinct := Passes.distinct passes
  constructor
  · intro ordered before step after split dep hd later
    have earlier := ordered before step after split dep hd
    rw [split, List.map_append, List.nodup_append] at distinct
    exact distinct.2.2 dep earlier dep later rfl
  · intro forward before step after split dep hd
    have inPlan : step ∈ plan.steps := by simp [split]
    have known := (Passes.soundStep passes inPlan).dependencies hd
    rw [split, List.map_append] at known
    exact (List.mem_append.mp known).resolve_right (forward before step after split dep hd)

/-- Every step of the plan was executed once, in turn, with success, and its step run says so. -/
structure ExecutedAll (plan : ExecutionPlan) (result : ExecutionRunResult) (st : RunState σ) :
    Prop where
  calls : List.Forall₂ (fun step e => ∃ given res, e = .called step given res ∧
    res.status = .succeeded) plan.steps st.trace
  stepRuns : List.Forall₂ (fun step (stepRun : ExecutionStepRun) => stepRun.stepId = step.stepId ∧
    stepRun.status = .succeeded) plan.steps result.run.stepRuns

/-- Every executor call of the run returned SUCCEEDED. -/
def CallsSucceed (t : List (StepEvent σ)) : Prop :=
  ∀ step given result, .called step given result ∈ t → result.status = .succeeded

section Completed

variable {engine : ExecutionEngine σ} {plan : ExecutionPlan} {st : RunState σ}

private theorem forall₂_of_all_called {t : List (StepEvent σ)} (succeed : CallsSucceed t)
    (all : ∀ e ∈ t.map view, e.isCalled = true) :
    List.Forall₂ (fun step e => ∃ given res, e = .called step given res ∧
      res.status = .succeeded) (t.map StepEvent.step) t := by
  induction t with
  | nil => exact .nil
  | cons e t ih =>
    have here := all (view e) (by simp)
    refine .cons ?_ (ih (fun step given result mem => succeed step given result (by simp [mem]))
      (fun e' he' => all e' (by simp [he'])))
    cases e with
    | skipped step => cases here
    | called step given result => exact ⟨given, result, rfl, succeed _ _ _ List.mem_cons_self⟩

private theorem all_called_of_forall₂ {steps : List PlanStep} {t : List (StepEvent σ)}
    (h : List.Forall₂ (fun step e => ∃ given res, e = .called step given res ∧
      res.status = .succeeded) steps t) : ∀ e ∈ t.map view, e.isCalled = true := by
  intro e he
  obtain ⟨e', he', rfl⟩ := List.mem_map.mp he
  obtain ⟨step, _, given, res, rfl, _⟩ := exists_of_forall₂_right h he'
  rfl

private theorem stepRuns_of_calls {steps : List PlanStep} {t : List (StepEvent σ)}
    {stepRuns : List ExecutionStepRun}
    (calls : List.Forall₂ (fun step e => ∃ given res, e = .called step given res ∧
      res.status = .succeeded) steps t)
    (recorded : List.Forall₂ Recorded t stepRuns) :
    List.Forall₂ (fun step (stepRun : ExecutionStepRun) => stepRun.stepId = step.stepId ∧
      stepRun.status = .succeeded) steps stepRuns := by
  induction calls generalizing stepRuns with
  | nil =>
    rw [List.forall₂_nil_left_iff.mp recorded]
    exact .nil
  | cons here _ ih =>
    obtain ⟨stepRun, rest, first, others, rfl⟩ := List.forall₂_cons_left_iff.mp recorded
    obtain ⟨given, res, rfl, success⟩ := here
    refine .cons ⟨first.1, ?_⟩ (ih others)
    rw [first.2.2.1, finalStatus_succeeded_iff]
    exact success

/-- A loop that completed, with no call that failed, executed everything exactly when the plan
is in dependency order. -/
private theorem executedAll_iff (trail : Trail engine plan.steps st)
    (succeed : CallsSucceed st.trace) {result : ExecutionRunResult} {st' : RunState σ}
    (hruns : result.run.stepRuns = st.run.stepRuns) (htrace : st'.trace = st.trace) :
    ExecutedAll plan result st' ↔ DependencyOrdered plan.steps := by
  have success : ∀ e ∈ st.trace.map view, e.isCalled = true → e.succeeded = true := by
    intro e he called
    obtain ⟨e', he', rfl⟩ := List.mem_map.mp he
    cases e' with
    | skipped step => cases called
    | called step given res => exact decide_eq_true (succeed step given res he')
  have ordered := trail.faithful.all_called_iff_ordered _ _ success
  rw [map_view_item, trail.steps] at ordered
  constructor
  · intro executed
    have calls := executed.calls
    rw [htrace] at calls
    exact ordered.mp (all_called_of_forall₂ calls)
  · intro inOrder
    have calls := forall₂_of_all_called succeed (ordered.mpr inOrder)
    rw [trail.steps] at calls
    exact ⟨htrace ▸ calls, hruns ▸ stepRuns_of_calls calls trail.recorded⟩

end Completed

/-- The run is reported as SUCCEEDED and executed every step of the plan. -/
def CompletesPlan (plan : ExecutionPlan) (ended : RunEnd σ) : Prop :=
  ∃ result st, ended = .returned result st ∧ result.status = .succeeded ∧
    ExecutedAll plan result st

/-- How a run ends in which no call fails: SUCCEEDED, unless an exception from the engine's own
persistence leaves it. -/
inductive SuccessfulEnd (engine : ExecutionEngine σ) (plan : ExecutionPlan) : RunEnd σ → Prop where
  | returned (result : ExecutionRunResult) (st : RunState σ) (status : result.status = .succeeded)
      (preserved : Preserved engine st)
      (executed : ExecutedAll plan result st ↔ DependencyOrdered plan.steps) :
      SuccessfulEnd engine plan (.returned result st)
  | raised (exc : PyExc) (st : RunState σ) (lost : ¬ Preserved engine st) :
      SuccessfulEnd engine plan (.raised exc st)

theorem successful_end (engine : ExecutionEngine σ) (plan : ExecutionPlan)
    (context : ExecutionContext σ) (w : σ) (covers : engine.registry.Covers plan.steps)
    (succeed : CallsSucceed (run engine plan context w).state.trace) :
    SuccessfulEnd engine plan (run engine plan context w) := by
  rcases run_rule engine plan context w (Trail engine) (trail_start plan context w)
    (fun done step rest st st' _ trail turn => trail_turn trail turn) with
    ⟨st, trail, ended⟩ | ⟨done, step, rest, st, halt, split, trail, turn, ended⟩
  · rw [ended] at succeed ⊢
    rw [conclude_trace] at succeed
    have back := conclude_returned_iff engine .succeeded (succeededSummary st) none trail.clean
    cases hc : conclude engine .succeeded (succeededSummary st) none st with
    | returned result st' =>
      have concluded := concluded_of_returned hc
      rw [hc] at back
      exact .returned result st' concluded.status (back.mp ⟨result, st', rfl⟩)
        (executedAll_iff trail succeed concluded.stepRuns concluded.trace)
    | raised exc st' =>
      refine .raised exc st' (fun preserved => ?_)
      rw [hc] at back
      obtain ⟨result, st'', returned⟩ := back.mpr preserved
      cases returned
  · -- a call without success ends no run of this kind
    have noFailure : ∀ executor stepRun result, Finishes engine step st executor stepRun result →
        result.status ≠ .succeeded →
        ¬ CallsSucceed (st.trace ++ [callEvent engine executor step st]) := by
      intro executor stepRun result call failure all
      have success := all step st.context _ (List.mem_append_right _ (List.mem_singleton.mpr rfl))
      exact failure (call.spec.status.trans success)
    rw [ended] at succeed ⊢
    cases turn with
    | unknown met exc missing =>
      obtain ⟨executor, known⟩ := StepExecutorRegistry.get_of_covers covers
        (show step ∈ plan.steps by simp [split])
      cases missing.symm.trans known
    | raised met executor known exc refused => exact .raised exc _ (not_preserved_of_raised refused)
    | waiting executor stepRun result call failure policy request w' later =>
      dsimp only [leave] at succeed
      rw [conclude_trace] at succeed
      exact absurd succeed (noFailure executor stepRun result call failure)
    | failed executor stepRun result call failure policy policy' summary =>
      dsimp only [leave] at succeed
      rw [conclude_trace] at succeed
      exact absurd succeed (noFailure executor stepRun result call failure)

/-- For a validated plan with an executor for every kind, a run without a failing call completes
the plan exactly when nothing in the plan refers forward, and whatever the engine itself
persists is taken. -/
theorem completesPlan_iff (v : PlanValidator) (plan : ExecutionPlan)
    (snapshot : Option CapabilitySnapshot) (engine : ExecutionEngine σ)
    (context : ExecutionContext σ) (w : σ) (passes : Passes v plan snapshot)
    (covers : engine.registry.Covers plan.steps)
    (succeed : CallsSucceed (run engine plan context w).state.trace) :
    CompletesPlan plan (run engine plan context w) ↔
      NoForwardReference plan.steps ∧ Preserved engine (run engine plan context w).state := by
  rw [← dependencyOrdered_iff passes]
  have successful := successful_end engine plan context w covers succeed
  generalize run engine plan context w = ended at successful
  cases successful with
  | returned result st status preserved executed =>
    constructor
    · rintro ⟨_, _, same, _, all⟩
      cases same
      exact ⟨executed.mp all, preserved⟩
    · rintro ⟨ordered, _⟩
      exact ⟨result, st, rfl, status, executed.mpr ordered⟩
  | raised exc st lost =>
    constructor
    · rintro ⟨_, _, same, _⟩
      cases same
    · rintro ⟨_, preserved⟩
      exact absurd preserved lost

section Examples

/-- The engine of the examples: one executor, which succeeds. -/
def testEngine : ExecutionEngine Unit := fakeEngine [fakeExecutor "run_test" .succeeded]

def chainPlan (first second : List String) : ExecutionPlan :=
  fakePlan [fakeStep "step_a" "run_test" first .abort, fakeStep "step_b" "run_test" second .abort]

private theorem testEngine_callsSucceed (plan : ExecutionPlan) :
    CallsSucceed (run testEngine plan (fakeContext none) ()).state.trace := by
  intro step given result mem
  have outline := run_outline testEngine plan (fakeContext none) ()
  obtain ⟨executor, w, known, rfl⟩ := outline.registered _ mem
  have only := StepExecutorRegistry.mem_of_get_ofExecutors known
  rw [List.mem_singleton.mp only]
  rfl

/-- Two steps in order. -/
theorem completesPlan_chain :
    CompletesPlan (chainPlan [] ["step_a"])
        (run testEngine (chainPlan [] ["step_a"]) (fakeContext none) ()) ↔
      NoForwardReference (chainPlan [] ["step_a"]).steps ∧
        Preserved testEngine (run testEngine (chainPlan [] ["step_a"]) (fakeContext none) ()).state :=
  completesPlan_iff {} (chainPlan [] ["step_a"]) none testEngine (fakeContext none) ()
    ⟨0, _, rfl, rfl⟩ (by unfold StepExecutorRegistry.Covers; decide) (testEngine_callsSucceed _)

private theorem not_executedAll_of_skipped {plan : ExecutionPlan} {result : ExecutionRunResult}
    {st : RunState σ}
    (skipped : .skipped ∈ result.run.stepRuns.map ExecutionStepRun.status) :
    ¬ ExecutedAll plan result st := by
  intro executed
  obtain ⟨stepRun, mem, status⟩ := List.mem_map.mp skipped
  obtain ⟨step, _, _, success⟩ := exists_of_forall₂_right executed.stepRuns mem
  cases status.symm.trans success

/-- The same steps the other way round: the plan passes, the only call succeeds, and the run is
reported as SUCCEEDED with one step skipped. -/
theorem forward_reference_lost :
    Passes {} (chainPlan ["step_b"] []) none ∧
      testEngine.registry.Covers (chainPlan ["step_b"] []).steps ∧
      CallsSucceed (run testEngine (chainPlan ["step_b"] []) (fakeContext none) ()).state.trace ∧
      ∃ result st, run testEngine (chainPlan ["step_b"] []) (fakeContext none) () =
          .returned result st ∧
        result.status = .succeeded ∧
        result.run.stepRuns.map ExecutionStepRun.status = [.skipped, .succeeded] ∧
        ¬ ExecutedAll (chainPlan ["step_b"] []) result st := by
  refine ⟨⟨0, _, rfl, rfl⟩, by unfold StepExecutorRegistry.Covers; decide,
    testEngine_callsSucceed _, _, _, rfl, rfl, rfl, ?_⟩
  exact not_executedAll_of_skipped List.mem_cons_self

end Examples

end SthBoring.Execution.ValidatedRuns
