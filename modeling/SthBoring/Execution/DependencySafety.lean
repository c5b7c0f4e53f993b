/- Module: SthBoring/Execution/DependencySafety
   source: sdk_test_agent/execution/execution_engine.py
   digest: No executor is called before its dependencies succeeded, or after the run ended. -/

import SthBoring.Execution.RunInvariant

set_option autoImplicit false
set_option relaxedAutoImplicit false

namespace SthBoring.Execution.DependencySafety

universe u

open SthBoring.Lib.DependencyTrace (Event Faithful)
open SthBoring.Plan.Models (PlanStep ExecutionPlan StepFailurePolicy)
open SthBoring.Execution.Models
open SthBoring.Execution.Engine
open SthBoring.Execution.RunInvariant (view view_item GoesOn FromRegistry SucceededUnder
  Outline run_outline)

variable {σ : Type u}

/-- What a trace of executor calls owes to the dependencies of the steps it calls. The most
recent event under a dependency's id is the one that counts, so ids may occur twice. -/
structure DependencySafe (engine : ExecutionEngine σ) (plan : ExecutionPlan)
    (t : List (StepEvent σ)) : Prop where
  inPlanOrder : t.map StepEvent.step <+: plan.steps
  results : ∀ e ∈ t, FromRegistry engine e
  dependencies : ∀ before step given result after, t = before ++ .called step given result :: after →
    ∀ dep ∈ step.dependsOn, ∃ earlier e between, before = earlier ++ e :: between ∧
      SucceededUnder dep e ∧ ∀ e' ∈ between, e'.step.stepId ≠ dep
  ended : ∀ before step given result after, t = before ++ .called step given result :: after →
    result.status ≠ .succeeded → step.onFailure ≠ .continue' → after = []

private theorem succeededUnder_of_view {e : StepEvent σ} {b : PlanStep} {id : String}
    (he : view e = .called b true) (hb : b.stepId = id) : SucceededUnder id e := by
  cases e with
  | skipped step => cases he
  | called step given result =>
    simp only [view, Event.called.injEq, decide_eq_true_eq] at he
    exact ⟨he.1 ▸ hb, he.2⟩

/-- The success the dependency vocabulary finds in the view, found in the trace itself. -/
private theorem dependency_in_trace {t before after : List (StepEvent σ)} {step : PlanStep}
    {given : ExecutionContext σ} {result : StepExecutionResult}
    (faithful : Faithful PlanStep.stepId PlanStep.dependsOn (t.map view))
    (split : t = before ++ .called step given result :: after) {dep : String}
    (hd : dep ∈ step.dependsOn) :
    ∃ earlier e between, before = earlier ++ e :: between ∧ SucceededUnder dep e ∧
      ∀ e' ∈ between, e'.step.stepId ≠ dep := by
  have split' : t.map view =
      before.map view ++ .called step (decide (result.status = .succeeded)) :: after.map view := by
    rw [split, List.map_append]
    rfl
  obtain ⟨pre, b, post, hb, hk, fresh⟩ := faithful.dependency_succeeded _ _ split' hd
  obtain ⟨earlier, tail, rfl, _, ht⟩ := List.map_eq_append_iff.mp hb
  obtain ⟨e, between, rfl, he, hpost⟩ := List.map_eq_cons_iff.mp ht
  refine ⟨earlier, e, between, rfl, succeededUnder_of_view he hk, fun e' he' => ?_⟩
  have other := fresh (view e') (hpost ▸ List.mem_map_of_mem he')
  rwa [view_item] at other

theorem dependency_safety (engine : ExecutionEngine σ) (plan : ExecutionPlan)
    (context : ExecutionContext σ) (w : σ) :
    DependencySafe engine plan (run engine plan context w).state.trace := by
  have outline := run_outline engine plan context w
  refine ⟨outline.steps, outline.registered, ?_, ?_⟩
  · intro before step given result after split dep hd
    exact dependency_in_trace outline.faithful split hd
  · intro before step given result after split failure policy
    by_contra more
    rcases outline.goesOn before _ after split more with success | cont
    · exact failure success
    · exact policy cont

end SthBoring.Execution.DependencySafety
