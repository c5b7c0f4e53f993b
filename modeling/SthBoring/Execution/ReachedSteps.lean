/- Module: SthBoring/Execution/ReachedSteps
   source: sdk_test_agent/execution/execution_engine.py
   digest: The states in which a run comes to its steps, and what is left of a call at the end. -/

import SthBoring.Execution.WorldInvariant

set_option autoImplicit false
set_option relaxedAutoImplicit false

namespace SthBoring.Execution.ReachedSteps

universe u

open SthBoring.Lib.DependencyTrace (split_at)
open SthBoring.Lib.Loop (Flow loop loop_append loop_rule)
open SthBoring.Plan.Models (PlanStep ExecutionPlan)
open SthBoring.Execution.Models
open SthBoring.Execution.Engine
open SthBoring.Execution.RunInvariant
open SthBoring.Execution.WorldInvariant (Has Kept haltState)

variable {σ : Type u}

section Finish

variable {engine : ExecutionEngine σ}

/-- How a run goes on when its loop is over. -/
def finish (engine : ExecutionEngine σ) : Flow (RunState σ) (Halt σ) → RunEnd σ
  | .next st => conclude engine .succeeded (succeededSummary st) none st
  | .exit halt => leave engine halt

theorem run_eq_finish (engine : ExecutionEngine σ) (plan : ExecutionPlan)
    (context : ExecutionContext σ) (w : σ) : run engine plan context w =
      finish engine (loop (runStep engine plan) plan.steps (initialState engine plan context w)) := by
  unfold run finish
  cases loop (runStep engine plan) plan.steps (initialState engine plan context w) with
  | next st => rfl
  | exit halt => cases halt <;> rfl

theorem leave_trace (halt : Halt σ) : (leave engine halt).state.trace = (haltState halt).trace := by
  cases halt with
  | raised exc st => rfl
  | stopped status summary replan st => exact conclude_trace engine status summary replan st

/-- A property of the trace at the end of the loop is one of the trace at the end of the run. -/
theorem finish_trace {P : List (StepEvent σ) → Prop} {flow : Flow (RunState σ) (Halt σ)}
    (h : flow.Holds (fun st => P st.trace) (fun halt => P (haltState halt).trace)) :
    P (finish engine flow).state.trace := by
  cases flow with
  | next st =>
    change P (conclude engine _ _ _ st).state.trace
    rw [conclude_trace]
    exact h
  | exit halt =>
    change P (leave engine halt).state.trace
    rw [leave_trace]
    exact h

end Finish

section Traces

variable {engine : ExecutionEngine σ} {plan : ExecutionPlan} {step : PlanStep} {st : RunState σ}

/-- A turn only adds to the trace. -/
theorem trace_of_turn {flow : Flow (RunState σ) (Halt σ)} (turn : Turn engine step st flow) :
    flow.Holds (fun st' => st.trace <+: st'.trace)
      (fun halt => st.trace <+: (haltState halt).trace) := by
  cases turn with
  | unknown met exc missing => exact List.prefix_refl st.trace
  | _ => exact List.prefix_append st.trace [_]

theorem trace_of_loop (engine : ExecutionEngine σ) (plan : ExecutionPlan) (steps : List PlanStep)
    (st : RunState σ) : (loop (runStep engine plan) steps st).Holds
      (fun st' => st.trace <+: st'.trace) (fun halt => st.trace <+: (haltState halt).trace) := by
  have ended := loop_rule (runStep engine plan) (fun _ st' => st.trace <+: st'.trace) steps st
    (List.prefix_refl st.trace) (by
      intro done step rest s s' split before next
      have added := trace_of_turn (runStep_turn engine plan step s)
      rw [next] at added
      exact before.trans added)
  refine ended.imp (fun st' h => h) (fun halt h => ?_)
  obtain ⟨before, step, after, s, split, reached, left⟩ := h
  have added := trace_of_turn (runStep_turn engine plan step s)
  rw [left] at added
  exact reached.trans added

/-- A step that is called leaves its call in the trace, however its turn ends. -/
theorem trace_of_call {executor : StepExecutor σ}
    (met : dependenciesSatisfied step st.stepStatus = true)
    (known : engine.registry.get step.kind = .ok executor) {flow : Flow (RunState σ) (Halt σ)}
    (turn : Turn engine step st flow) :
    flow.Holds (fun st' => st'.trace = st.trace ++ [callEvent engine executor step st])
      (fun halt => (haltState halt).trace = st.trace ++ [callEvent engine executor step st]) := by
  cases turn with
  | skipped unmet => cases met.symm.trans unmet
  | unknown _ exc missing => cases known.symm.trans missing
  | raised _ executor' known' exc refused =>
    cases known.symm.trans known'
    rfl
  | succeeded executor' stepRun result call success =>
    cases known.symm.trans call.known
    rfl
  | continued executor' stepRun result call failure policy =>
    cases known.symm.trans call.known
    rfl
  | waiting executor' stepRun result call failure policy request w' later =>
    cases known.symm.trans call.known
    rfl
  | failed executor' stepRun result call failure policy policy' summary =>
    cases known.symm.trans call.known
    rfl

theorem runStep_of_finishes {executor : StepExecutor σ} {stepRun : ExecutionStepRun}
    {result : StepExecutionResult} (call : Finishes engine step st executor stepRun result) :
    runStep engine plan step st =
      settleStep engine plan step (afterCall engine executor step st) stepRun result := by
  unfold runStep
  rw [if_pos call.met, call.known]
  dsimp only [callExecutor]
  rw [call.finished]

theorem runStep_of_success {executor : StepExecutor σ} {stepRun : ExecutionStepRun}
    {result : StepExecutionResult} (call : Finishes engine step st executor stepRun result)
    (success : result.status = .succeeded) : runStep engine plan step st =
      .next (succeededState (afterCall engine executor step st) step stepRun result) := by
  rw [runStep_of_finishes call, settleStep, if_pos success, success]
  rfl

theorem runStep_of_replan {executor : StepExecutor σ} {stepRun : ExecutionStepRun}
    {result : StepExecutionResult} (call : Finishes engine step st executor stepRun result)
    (failure : result.status ≠ .succeeded) (policy : step.onFailure = .requestReplan) :
    ∃ summary request w', runStep engine plan step st =
      .exit (.stopped .waitingReplan summary (some request)
        { recordStep step (afterCall engine executor step st) .waitingReplan stepRun result with
          world := w' }) := by
  have other : step.onFailure ≠ .continue' := by
    rw [policy]
    exact fun h => by cases h
  rw [runStep_of_finishes call, settleStep, if_neg failure, if_neg other, if_pos policy]
  exact ⟨_, _, _, rfl⟩

end Traces

section Reached

variable {engine : ExecutionEngine σ} {plan : ExecutionPlan} {context : ExecutionContext σ} {w : σ}
  {i : ℕ} {step : PlanStep} {st : RunState σ}

/-- The loop comes to the step at this position of the plan in this state. -/
structure ComesTo (engine : ExecutionEngine σ) (plan : ExecutionPlan) (context : ExecutionContext σ)
    (w : σ) (i : ℕ) (step : PlanStep) (st : RunState σ) : Prop where
  listed : plan.steps[i]? = some step
  state : loop (runStep engine plan) (plan.steps.take i) (initialState engine plan context w) =
    .next st

theorem ComesTo.split (comes : ComesTo engine plan context w i step st) :
    plan.steps = plan.steps.take i ++ step :: plan.steps.drop (i + 1) :=
  (split_at comes.listed).1

theorem ComesTo.length_take (comes : ComesTo engine plan context w i step st) :
    (plan.steps.take i).length = i :=
  (split_at comes.listed).2

theorem ComesTo.trail (comes : ComesTo engine plan context w i step st) :
    Trail engine (plan.steps.take i) st := by
  have ended := loop_rule (runStep engine plan) (Trail engine) (plan.steps.take i)
    (initialState engine plan context w) (trail_start plan context w)
    (fun done step' rest s s' _ trail next =>
      trail_turn trail (next ▸ runStep_turn engine plan step' s))
  rwa [comes.state] at ended

theorem ComesTo.position (comes : ComesTo engine plan context w i step st) :
    st.trace.length = i := by
  rw [← List.length_map StepEvent.step, comes.trail.steps, comes.length_take]

/-- From there the run is its loop over the steps that are left. -/
theorem ComesTo.run_eq (comes : ComesTo engine plan context w i step st) :
    run engine plan context w =
      finish engine (loop (runStep engine plan) (step :: plan.steps.drop (i + 1)) st) := by
  have whole := loop_append (runStep engine plan) (plan.steps.take i)
    (step :: plan.steps.drop (i + 1)) (initialState engine plan context w)
  rw [← comes.split, comes.state] at whole
  rw [run_eq_finish, whole]

/-- A called step has its call at its own place in the trace of the whole run. -/
theorem ComesTo.called (comes : ComesTo engine plan context w i step st)
    (met : dependenciesSatisfied step st.stepStatus = true) {executor : StepExecutor σ}
    (known : engine.registry.get step.kind = .ok executor) :
    (run engine plan context w).state.trace[i]? = some (callEvent engine executor step st) := by
  have turn := trace_of_call met known (runStep_turn engine plan step st)
  have added : st.trace ++ [callEvent engine executor step st] <+:
      (run engine plan context w).state.trace := by
    rw [comes.run_eq]
    refine finish_trace ?_
    simp only [loop]
    cases left : runStep engine plan step st with
    | exit halt =>
      rw [left] at turn
      exact (show (haltState halt).trace = _ from turn) ▸ List.prefix_refl _
    | next st' =>
      rw [left] at turn
      have same : st'.trace = _ := turn
      rw [← same]
      exact trace_of_loop engine plan _ st'
  obtain ⟨rest, same⟩ := added
  rw [← same, List.append_assoc, List.getElem?_append_right comes.position.le, comes.position,
    Nat.sub_self]
  rfl

theorem ComesTo.leaves (comes : ComesTo engine plan context w i step st) {halt : Halt σ}
    (left : runStep engine plan step st = .exit halt) :
    run engine plan context w = leave engine halt := by
  rw [comes.run_eq]
  simp only [loop, left]
  rfl

theorem ComesTo.next (comes : ComesTo engine plan context w i step st) {st' : RunState σ}
    (goes : runStep engine plan step st = .next st') {step' : PlanStep}
    (listed : plan.steps[i + 1]? = some step') :
    ComesTo engine plan context w (i + 1) step' st' where
  listed := listed
  state := by
    obtain ⟨bound, same⟩ := List.getElem?_eq_some_iff.mp comes.listed
    rw [List.take_succ_eq_append_getElem bound, loop_append, comes.state, same]
    simp only [loop, goes]

/-- What the run keeps holds where it comes to a step. -/
theorem ComesTo.keeps {I : ExecutionContext σ → σ → Prop}
    (comes : ComesTo engine plan context w i step st)
    (kept : Kept engine plan.steps context.runId I) (start : I context w) : Has I st := by
  have ended := loop_rule (runStep engine plan) (fun _ st => Has I st) (plan.steps.take i)
    (initialState engine plan context w) (kept.clock _ _ start) (by
      intro done step' rest s s' split before next
      have mem : step' ∈ plan.steps.take i := by simp [split]
      have after := kept.turn before (List.mem_of_mem_take mem) (runStep_turn engine plan step' s)
      rwa [next] at after)
  rwa [comes.state] at ended

/-- A run that returns persisted everything the engine persists. -/
theorem preserved_of_returned {result : ExecutionRunResult}
    (returned : run engine plan context w = .returned result st) : Preserved engine st := by
  have closed : ∀ {status summary replan st'}, (∀ entry ∈ st'.persists, ¬ Refused entry) →
      conclude engine status summary replan st' = .returned result st → Preserved engine st := by
    intro status summary replan st' clean ended
    have preserved := (conclude_returned_iff engine status summary replan clean).mp
      ⟨result, st, ended⟩
    rwa [ended] at preserved
  rcases run_rule engine plan context w (Trail engine) (trail_start plan context w)
    (fun done step rest st st' _ trail turn => trail_turn trail turn) with
    ⟨st', trail, ended⟩ | ⟨done, step', rest, st', halt, split, trail, turn, ended⟩
  · exact closed trail.clean (ended.symm.trans returned)
  · have left := ended.symm.trans returned
    cases turn with
    | unknown met exc missing => cases left
    | raised met executor known exc refused => cases left
    | waiting executor stepRun result' call failure policy request w' later =>
      refine closed (fun entry mem => ?_) left
      exact trail.clean_call call entry mem
    | failed executor stepRun result' call failure policy policy' summary =>
      refine closed (fun entry mem => ?_) left
      exact trail.clean_call call entry mem

end Reached

end SthBoring.Execution.ReachedSteps
