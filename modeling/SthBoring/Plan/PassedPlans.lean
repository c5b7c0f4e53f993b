/- Module: SthBoring/Plan/PassedPlans
   source: sdk_test_agent/plan/plan_validation.py
   digest: What the validator has established about a plan that it passes. -/

import SthBoring.Plan.PlanValidation

set_option autoImplicit false
set_option relaxedAutoImplicit false

namespace SthBoring.Plan.PassedPlans

open SthBoring.Lib.PyValue (Fields PyExc bind_eq_ok collect collect_complete)
open SthBoring.Capability.CapabilityModels
open SthBoring.Plan.Models
open SthBoring.Plan.PlanValidation

/-- No issue is an error. -/
def Clean (issues : List ValidationIssue) : Prop := ∀ i ∈ issues, i.severity ≠ .error

theorem clean_append {is js : List ValidationIssue} : Clean (is ++ js) ↔ Clean is ∧ Clean js := by
  simp only [Clean, List.mem_append, or_imp, forall_and]

theorem Clean.subset {is js : List ValidationIssue} (h : Clean js) (sub : is ⊆ js) : Clean is :=
  fun i hi => h i (sub hi)

theorem clean_flatMap {α : Type} {xs : List α} {f : α → List ValidationIssue} :
    Clean (xs.flatMap f) ↔ ∀ x ∈ xs, Clean (f x) := by
  simp only [Clean, List.mem_flatMap]
  exact ⟨fun h x hx i hi => h i ⟨x, hx, hi⟩, fun h i ⟨x, hx, hi⟩ => h x hx i hi⟩

/-- Issues that start with an error are clean only if they are not made. -/
theorem clean_issuesIf {condition : Bool} {i : ValidationIssue} {is : List ValidationIssue}
    (he : i.severity = .error) (h : Clean (issuesIf condition (i :: is))) : condition = false := by
  cases condition with
  | false => rfl
  | true => exact absurd he (h i List.mem_cons_self)

@[simp] theorem stepIssue_severity (code : String) (severity : ValidationSeverity)
    (message loc : String) (step : PlanStep) (path : Option String) (metadata : Fields) :
    (stepIssue code severity message loc step path metadata).severity = severity := rfl

section Issues

variable {v : PlanValidator} {snapshot : Option CapabilitySnapshot} {issues : List ValidationIssue}

/-- The issues of a step, if its capability checks get through. -/
theorem stepIssues_eq_ok_iff {known : List String} {step : PlanStep × ℕ} :
    stepIssues v snapshot known step = .ok issues ↔
      ∃ found, capabilityIssues v snapshot step.1 step.2 = .ok found ∧
        validateStepBase v step.1 step.2 known ++ found = issues := by
  unfold stepIssues
  rw [bind_eq_ok]
  simp only [pure, Except.pure, Except.ok.injEq]

/-- The issues of a plan, if the checks of all its steps get through. -/
theorem planIssues_eq_ok_iff {steps : List PlanStep} {planMetadata : Fields} :
    planIssues v steps planMetadata snapshot = .ok issues ↔
      ∃ perStep, collect (stepIssues v snapshot (steps.map PlanStep.stepId)) steps.zipIdx =
          .ok perStep ∧
        tooManyIssues v steps ++ stepIdIssues [] steps.zipIdx ++
          digestIssues v planMetadata snapshot ++ perStep = issues := by
  unfold planIssues
  rw [bind_eq_ok]
  simp only [pure, Except.pure, Except.ok.injEq]

end Issues

section Passed

variable {v : PlanValidator} {plan : ExecutionPlan} {snapshot : Option CapabilitySnapshot}

/-- A plan passes when its issues can be computed, none is an error, and warnings are let be. -/
structure Passed (v : PlanValidator) (plan : ExecutionPlan)
    (snapshot : Option CapabilitySnapshot) (issues : List ValidationIssue) : Prop where
  nonempty : plan.steps ≠ []
  computed : planIssues v plan.steps plan.planMetadata snapshot = .ok issues
  clean : Clean issues
  noWarning : v.failOnWarning = true → ∀ i ∈ issues, i.severity ≠ .warning

private theorem hasSeverity_eq_false {severity : ValidationSeverity}
    {issues : List ValidationIssue} :
    hasSeverity severity issues = false ↔ ∀ i ∈ issues, i.severity ≠ severity := by
  simp [hasSeverity]

theorem resultOf_passed_iff (issues : List ValidationIssue) (checkedAt : ℤ) :
    (resultOf v issues snapshot checkedAt).passed ↔
      Clean issues ∧ (v.failOnWarning = true → ∀ i ∈ issues, i.severity ≠ .warning) := by
  unfold PlanValidationResult.passed resultOf Clean
  rw [← hasSeverity_eq_false, ← hasSeverity_eq_false]
  cases hasSeverity .error issues <;> cases v.failOnWarning <;>
    cases hasSeverity .warning issues <;> simp

theorem passes_iff : Passes v plan snapshot ↔ ∃ issues, Passed v plan snapshot issues := by
  unfold Passes validate validateSteps
  constructor
  · rintro ⟨checkedAt, result, validated, passed⟩
    by_cases empty : plan.steps.isEmpty = true
    · rw [if_pos empty] at validated
      cases validated
      have clean := ((resultOf_passed_iff emptyPlanIssues checkedAt).mp passed).1
      exact absurd rfl (clean _ List.mem_cons_self)
    · rw [if_neg empty] at validated
      cases computed : planIssues v plan.steps plan.planMetadata snapshot with
      | error exc =>
        rw [computed] at validated
        cases validated
      | ok issues =>
        rw [computed] at validated
        cases validated
        obtain ⟨clean, noWarning⟩ := (resultOf_passed_iff issues checkedAt).mp passed
        exact ⟨issues, by simpa using empty, computed, clean, noWarning⟩
  · rintro ⟨issues, passed⟩
    refine ⟨0, resultOf v issues snapshot 0, ?_, ?_⟩
    · rw [if_neg (by simpa using passed.nonempty), passed.computed]
      rfl
    · exact (resultOf_passed_iff issues 0).mpr ⟨passed.clean, passed.noWarning⟩

/-- The issues of a step are among those of its plan. -/
theorem Passed.step_issues {issues : List ValidationIssue} (passed : Passed v plan snapshot issues)
    {step : PlanStep} (hs : step ∈ plan.steps) :
    ∃ idx found, capabilityIssues v snapshot step idx = .ok found ∧
      validateStepBase v step idx (plan.steps.map PlanStep.stepId) ++ found ⊆ issues := by
  obtain ⟨perStep, swept, rfl⟩ := planIssues_eq_ok_iff.mp passed.computed
  obtain ⟨idx, inRange, hidx⟩ := List.mem_iff_getElem.mp hs
  have hz : (step, idx) ∈ plan.steps.zipIdx := by
    rw [List.mem_zipIdx_iff_getElem?, List.getElem?_eq_getElem inRange, hidx]
  obtain ⟨own, hown, sub⟩ := collect_complete swept hz
  obtain ⟨found, checked, rfl⟩ := stepIssues_eq_ok_iff.mp hown
  exact ⟨idx, found, checked, fun i hi => List.mem_append_right _ (sub hi)⟩

theorem Passed.stepId_issues {issues : List ValidationIssue}
    (passed : Passed v plan snapshot issues) : stepIdIssues [] plan.steps.zipIdx ⊆ issues := by
  obtain ⟨perStep, swept, rfl⟩ := planIssues_eq_ok_iff.mp passed.computed
  intro i hi
  exact List.mem_append_left _ (List.mem_append_left _ (List.mem_append_right _ hi))

private theorem clean_stepIdIssues {seen : List String} {steps : List PlanStep} {n : ℕ}
    (clean : Clean (stepIdIssues seen (steps.zipIdx n))) :
    (steps.map PlanStep.stepId).Nodup ∧ ∀ step ∈ steps, step.stepId ∉ seen ∧ step.stepId ≠ "" := by
  induction steps generalizing seen n with
  | nil => simp
  | cons step steps ih =>
    rw [List.zipIdx_cons, stepIdIssues, clean_append, clean_append] at clean
    obtain ⟨⟨named, fresh⟩, later⟩ := clean
    obtain ⟨nodup, others⟩ := ih later
    have here : step.stepId ∉ seen ∧ step.stepId ≠ "" := by
      have fresh' := clean_issuesIf rfl fresh
      have named' := clean_issuesIf rfl named
      exact ⟨by simpa using fresh', by simpa using named'⟩
    refine ⟨?_, ?_⟩
    · rw [List.map_cons, List.nodup_cons]
      refine ⟨fun mem => ?_, nodup⟩
      obtain ⟨other, ho, same⟩ := List.mem_map.mp mem
      exact (others other ho).1 (same ▸ List.mem_cons_self)
    · intro other ho
      rcases List.mem_cons.mp ho with rfl | ho
      · exact here
      · exact ⟨fun mem => (others other ho).1 (List.mem_cons_of_mem _ mem), (others other ho).2⟩

theorem Passes.distinct (passes : Passes v plan snapshot) :
    (plan.steps.map PlanStep.stepId).Nodup := by
  obtain ⟨issues, passed⟩ := passes_iff.mp passes
  exact (clean_stepIdIssues (passed.clean.subset passed.stepId_issues)).1

theorem Passes.stepId_ne_empty (passes : Passes v plan snapshot) {step : PlanStep}
    (hs : step ∈ plan.steps) : step.stepId ≠ "" := by
  obtain ⟨issues, passed⟩ := passes_iff.mp passes
  exact ((clean_stepIdIssues (passed.clean.subset passed.stepId_issues)).2 step hs).2

/-- What the checks of one step on its own have established. -/
structure SoundStep (v : PlanValidator) (known : List String) (step : PlanStep) : Prop where
  dependencies : step.dependsOn ⊆ known
  kind : step.kind ∈ v.supportedStepKinds
  capabilities : ∀ available, v.availableCapabilities = some available →
    step.requiredCapabilities ⊆ available
  risk : step.riskLevel.valid = true
  onFailure : step.onFailure.valid = true
  timeout : ∀ seconds, step.timeoutSec = some seconds → 0 < seconds

theorem Passes.soundStep (passes : Passes v plan snapshot) {step : PlanStep}
    (hs : step ∈ plan.steps) : SoundStep v (plan.steps.map PlanStep.stepId) step := by
  obtain ⟨issues, passed⟩ := passes_iff.mp passes
  obtain ⟨idx, found, _, sub⟩ := passed.step_issues hs
  have clean := passed.clean.subset sub
  unfold validateStepBase at clean
  simp only [clean_append] at clean
  obtain ⟨⟨⟨⟨⟨⟨deps, kind⟩, caps⟩, risk⟩, policy⟩, timeout⟩, _⟩ := clean
  refine ⟨?_, ?_, ?_, ?_, ?_, ?_⟩
  · intro dep hd
    have known := clean_issuesIf rfl (clean_flatMap.mp deps dep hd)
    simpa using known
  · unfold kindIssues at kind
    split at kind
    · exact absurd rfl (kind _ List.mem_cons_self)
    · have supported := clean_issuesIf rfl kind
      simpa using supported
  · intro available ha cap hc
    simp only [availableCapabilityIssues, ha] at caps
    have present := clean_issuesIf rfl (clean_flatMap.mp caps cap hc)
    simpa using present
  · have valid := clean_issuesIf rfl (clean_append.mp risk).1
    simpa using valid
  · have valid := clean_issuesIf rfl policy
    simpa using valid
  · intro seconds ht
    simp only [timeoutIssues, ht] at timeout
    have positive := clean_issuesIf rfl timeout
    simpa using positive

end Passed

end SthBoring.Plan.PassedPlans
