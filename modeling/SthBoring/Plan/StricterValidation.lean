/- Module: SthBoring/Plan/StricterValidation
   source: sdk_test_agent/plan/plan_validation.py
   digest: A stricter validator passes no more plans, and loses no error. -/

import SthBoring.Lib.Covers
import SthBoring.Plan.AdmissionSoundness

set_option autoImplicit false
set_option relaxedAutoImplicit false

namespace SthBoring.Plan.StricterValidation

open SthBoring.Lib.Covers
open SthBoring.Lib.PyValue (Fields PyExc collect)
open SthBoring.Capability.CapabilityModels
open SthBoring.Capability.Panel (buildSnapshot)
open SthBoring.Plan.Models
open SthBoring.Plan.PlanValidation
open SthBoring.Plan.PassedPlans
open SthBoring.Plan.AdmissionSoundness

/-- The two validators differ only in flags and in the step limit, and the second is the stricter. -/
structure Stricter (v v' : PlanValidator) : Prop where
  stepKinds : v'.stepKinds = v.stepKinds
  availableCapabilities : v'.availableCapabilities = v.availableCapabilities
  capabilityRegistry : v'.capabilityRegistry = v.capabilityRegistry
  recursionLimit : v'.recursionLimit = v.recursionLimit
  maxStepCount : ∀ n, v.maxStepCount = some n → ∃ m, v'.maxStepCount = some m ∧ m ≤ n
  strictRequiredCapabilities :
    v.strictRequiredCapabilities = true → v'.strictRequiredCapabilities = true
  requireCapabilityDigest : v.requireCapabilityDigest = true → v'.requireCapabilityDigest = true
  failOnWarning : v.failOnWarning = true → v'.failOnWarning = true
  allowDeprecatedCapability :
    v'.allowDeprecatedCapability = true → v.allowDeprecatedCapability = true

/-- How grave a severity is. -/
def gravity : ValidationSeverity → ℕ
  | .info => 0
  | .warning => 1
  | .error => 2

/-- The second issue has the code of the first, and is at least as grave. -/
structure Rises (i i' : ValidationIssue) : Prop where
  code : i'.code = i.code
  severity : gravity i.severity ≤ gravity i'.severity

/-- The second result accepts no more than the first, and has an error for each of its errors. -/
structure NoLaxer (r r' : PlanValidationResult) : Prop where
  passed : r'.passed → r.passed
  errors : ∀ i ∈ r.errors, ∃ i' ∈ r'.errors, i'.code = i.code

section Issues

variable {i i' : ValidationIssue}

theorem Rises.refl (i : ValidationIssue) : Rises i i := ⟨rfl, le_rfl⟩

theorem Rises.error (rises : Rises i i') (error : i.severity = .error) : i'.severity = .error := by
  have grave := rises.severity
  rw [error] at grave
  cases severity : i'.severity with
  | info => rw [severity] at grave; exact absurd grave (by decide)
  | warning => rw [severity] at grave; exact absurd grave (by decide)
  | error => rfl

/-- A warning is reported again, if not as an error. -/
theorem Rises.warning (rises : Rises i i') (noError : i'.severity ≠ .error)
    (warning : i.severity = .warning) : i'.severity = .warning := by
  have grave := rises.severity
  rw [warning] at grave
  cases severity : i'.severity with
  | info => rw [severity] at grave; exact absurd grave (by decide)
  | warning => rfl
  | error => exact absurd severity noError

/-- An issue that a flag makes an error, and that is a warning without it. -/
theorem rises_of_flag {flag flag' : Bool} (raised : flag = true → flag' = true)
    (code message : String) (location : Option String) (step : Option PlanStep)
    (path : Option String) (metadata : Fields) :
    Rises (issue code (if flag then .error else .warning) message location step path metadata)
      (issue code (if flag' then .error else .warning) message location step path metadata) := by
  refine ⟨rfl, ?_⟩
  show gravity (if flag then .error else .warning) ≤ gravity (if flag' then .error else .warning)
  cases flag with
  | false => cases flag' <;> decide
  | true => rw [raised rfl]

end Issues

section Checks

variable {v v' : PlanValidator}

theorem tooManyIssues_rise (stricter : Stricter v v') (steps : List PlanStep) :
    Covered Rises (tooManyIssues v steps) (tooManyIssues v' steps) := by
  unfold tooManyIssues
  cases bound : v.maxStepCount with
  | none => exact covered_nil Rises _
  | some n =>
    obtain ⟨m, bound', smaller⟩ := stricter.maxStepCount n bound
    rw [bound']
    by_cases exceeded : n < steps.length
    · have exceeded' : m < steps.length := smaller.trans_lt exceeded
      simp only [issuesIf, exceeded, exceeded', decide_true, if_true]
      -- the message names the limit, so the issue is another one
      exact covered_singleton.mpr ⟨rfl, le_rfl⟩
    · simp only [issuesIf, exceeded, decide_false, Bool.false_eq_true, if_false]
      exact covered_nil Rises _

theorem digestIssues_rise (stricter : Stricter v v') (planMetadata : Fields)
    (snapshot : Option CapabilitySnapshot) :
    Covered Rises (digestIssues v planMetadata snapshot)
      (digestIssues v' planMetadata snapshot) := by
  cases snapshot with
  | none => exact covered_nil Rises _
  | some s =>
    show Covered Rises (validateCapabilityDigest v planMetadata s)
      (validateCapabilityDigest v' planMetadata s)
    unfold validateCapabilityDigest
    dsimp only
    split
    · exact covered_singleton.mpr (rises_of_flag stricter.requireCapabilityDigest ..)
    · exact Covered.refl Rises.refl _

theorem validateStepBase_eq (stricter : Stricter v v') (step : PlanStep) (idx : ℕ)
    (known : List String) :
    validateStepBase v' step idx known = validateStepBase v step idx known := by
  have kinds : v'.supportedStepKinds = v.supportedStepKinds := by
    simp only [PlanValidator.supportedStepKinds, stricter.stepKinds]
  simp only [validateStepBase, kindIssues, availableCapabilityIssues, kinds,
    stricter.availableCapabilities]

theorem validateRequiredCapabilities_rise (stricter : Stricter v v') (step : PlanStep)
    (loc : String) (descriptor : CapabilityDescriptor) (index : SnapshotIndex) :
    Covered Rises (validateRequiredCapabilities v step loc descriptor index)
      (validateRequiredCapabilities v' step loc descriptor index) := by
  unfold validateRequiredCapabilities
  dsimp only
  split
  · exact covered_singleton.mpr (rises_of_flag stricter.strictRequiredCapabilities ..)
  · refine (Covered.refl Rises.refl _).append ?_
    unfold issuesIf
    split
    · exact covered_singleton.mpr (rises_of_flag stricter.strictRequiredCapabilities ..)
    · exact covered_nil Rises _

/-- Only a deprecated capability is let be, and only under the flag. -/
theorem issueForUnavailableCapability_rise (stricter : Stricter v v') (step : PlanStep)
    (loc : String) (availability : CapabilityAvailability) :
    Rises (issueForUnavailableCapability v step loc availability)
      (issueForUnavailableCapability v' step loc availability) := by
  refine ⟨rfl, ?_⟩
  simp only [issueForUnavailableCapability, stepIssue_severity]
  cases allowed : v'.allowDeprecatedCapability with
  | false =>
    rw [Bool.and_false]
    split
    · decide
    · exact le_rfl
  | true => rw [stricter.allowDeprecatedCapability allowed]

theorem validateEnabledStep_rise (stricter : Stricter v v') (step : PlanStep) (loc : String)
    (descriptor : CapabilityDescriptor) (index : SnapshotIndex) :
    Parallel (Covered Rises) (validateEnabledStep v step loc descriptor index)
      (validateEnabledStep v' step loc descriptor index) := by
  unfold validateEnabledStep
  rw [stricter.recursionLimit]
  refine (Parallel.refl (fun _ => rfl) _).bind (R := Eq) ?_
  rintro errors _ rfl
  have required := validateRequiredCapabilities_rise stricter step loc descriptor index
  exact .returned ((Covered.refl Rises.refl _).append required)

theorem validateStepAgainstCapabilitySnapshot_rise (stricter : Stricter v v') (step : PlanStep)
    (idx : ℕ) (index : SnapshotIndex) :
    Parallel (Covered Rises) (validateStepAgainstCapabilitySnapshot v step idx index)
      (validateStepAgainstCapabilitySnapshot v' step idx index) := by
  have same : ∀ x : Except PyExc (List ValidationIssue), Parallel (Covered Rises) x x :=
    Parallel.refl (Covered.refl Rises.refl)
  unfold validateStepAgainstCapabilitySnapshot
  dsimp only
  split
  · rename_i descriptor availability _ _
    split
    · have rises := issueForUnavailableCapability_rise stricter step (locOf idx) availability
      exact .returned (covered_singleton.mpr rises)
    · exact validateEnabledStep_rise stricter step (locOf idx) descriptor index
  · exact same _
  · exact same _

theorem capabilityIssues_rise (stricter : Stricter v v') (snapshot : Option CapabilitySnapshot)
    (step : PlanStep) (idx : ℕ) :
    Parallel (Covered Rises) (capabilityIssues v snapshot step idx)
      (capabilityIssues v' snapshot step idx) := by
  unfold capabilityIssues
  rw [stricter.capabilityRegistry]
  split
  · exact validateStepAgainstCapabilitySnapshot_rise stricter step idx _
  · -- the registry's check reads no flag
    unfold validateStepAgainstRegistry
    rw [stricter.recursionLimit]
    exact Parallel.refl (Covered.refl Rises.refl) _
  · exact Parallel.refl (Covered.refl Rises.refl) _

end Checks

section Verdicts

variable {v v' : PlanValidator}

/-- Each issue of the laxer validator has a counterpart that is at least as grave. -/
theorem planIssues_rise (stricter : Stricter v v') (steps : List PlanStep) (planMetadata : Fields)
    (snapshot : Option CapabilitySnapshot) :
    Parallel (Covered Rises) (planIssues v steps planMetadata snapshot)
      (planIssues v' steps planMetadata snapshot) := by
  have perStep : Parallel (Covered Rises)
      (collect (stepIssues v snapshot (steps.map PlanStep.stepId))
        steps.zipIdx)
      (collect (stepIssues v' snapshot (steps.map PlanStep.stepId))
        steps.zipIdx) := by
    refine collect_parallel fun step _ => ?_
    refine (capabilityIssues_rise stricter snapshot step.1 step.2).bind fun is is' rise => ?_
    rw [validateStepBase_eq stricter]
    exact .returned ((Covered.refl Rises.refl _).append rise)
  refine perStep.bind fun is is' rise => ?_
  have tooMany := tooManyIssues_rise stricter steps
  have stepIds := Covered.refl Rises.refl (stepIdIssues [] steps.zipIdx)
  have digest := digestIssues_rise stricter planMetadata snapshot
  exact .returned (((tooMany.append stepIds).append digest).append rise)

theorem resultOf_noLaxer (stricter : Stricter v v') {issues issues' : List ValidationIssue}
    (rise : Covered Rises issues issues') (snapshot : Option CapabilitySnapshot)
    (checkedAt checkedAt' : ℤ) :
    NoLaxer (resultOf v issues snapshot checkedAt) (resultOf v' issues' snapshot checkedAt') where
  passed := by
    intro passed
    obtain ⟨clean, noWarning⟩ := (resultOf_passed_iff issues' checkedAt').mp passed
    refine (resultOf_passed_iff issues checkedAt).mpr ⟨?_, fun failOnWarning => ?_⟩
    · exact rise.forall (fun i i' rises noError error => noError (rises.error error)) clean
    · have neither : ∀ i' ∈ issues', i'.severity ≠ .error ∧ i'.severity ≠ .warning :=
        fun i' mem => ⟨clean i' mem, noWarning (stricter.failOnWarning failOnWarning) i' mem⟩
      exact rise.forall
        (fun i i' rises quiet warning => quiet.2 (rises.warning quiet.1 warning)) neither
  errors := by
    intro i mem
    obtain ⟨reported, error⟩ := List.mem_filter.mp mem
    obtain ⟨i', covers, rises⟩ := rise i reported
    have error' := rises.error (of_decide_eq_true error)
    exact ⟨i', List.mem_filter.mpr ⟨covers, decide_eq_true error'⟩, rises.code⟩

theorem validateSteps_noLaxer (stricter : Stricter v v') (steps : List PlanStep)
    (planMetadata : Fields) (snapshot : Option CapabilitySnapshot) (checkedAt checkedAt' : ℤ) :
    Parallel NoLaxer (validateSteps v steps planMetadata snapshot checkedAt)
      (validateSteps v' steps planMetadata snapshot checkedAt') := by
  unfold validateSteps
  split
  · have same := Covered.refl Rises.refl emptyPlanIssues
    exact .returned (resultOf_noLaxer stricter same snapshot checkedAt checkedAt')
  · refine (planIssues_rise stricter steps planMetadata snapshot).bind fun is is' rise => ?_
    exact .returned (resultOf_noLaxer stricter rise snapshot checkedAt checkedAt')

/-- **Stricter validation.** On every plan and every draft, the two validators raise the same, or
both return; what passes under the stricter one passes under the other, and each error of the other
is an error of the stricter one. -/
theorem stricter_accepts_no_more (stricter : Stricter v v')
    (snapshot : Option CapabilitySnapshot) (checkedAt checkedAt' : ℤ) :
    (∀ plan, Parallel NoLaxer (validate v plan snapshot checkedAt)
      (validate v' plan snapshot checkedAt')) ∧
    ∀ draft, Parallel NoLaxer (validateDraft v draft snapshot checkedAt)
      (validateDraft v' draft snapshot checkedAt') := by
  constructor
  · intro plan
    exact validateSteps_noLaxer stricter plan.steps plan.planMetadata snapshot checkedAt checkedAt'
  · intro draft
    exact validateSteps_noLaxer stricter draft.steps [] snapshot checkedAt checkedAt'

end Verdicts

section Example

/-- Declared capabilities are required, and a plan has one step. -/
def strictValidator : PlanValidator where
  maxStepCount := some 1
  strictRequiredCapabilities := true

theorem stricter_strictValidator : Stricter {} strictValidator where
  stepKinds := rfl
  availableCapabilities := rfl
  capabilityRegistry := rfl
  recursionLimit := rfl
  maxStepCount := nofun
  strictRequiredCapabilities := nofun
  requireCapabilityDigest := nofun
  failOnWarning := nofun
  allowDeprecatedCapability := nofun

/-- The plan that runs a command passes by default, since it passes under the stricter validator. -/
theorem command_passes_by_default :
    Passes {} commandPlan (some (buildSnapshot (commandPanel false) {} "0")) := by
  have strict : ∃ result, validate strictValidator commandPlan
      (some (buildSnapshot (commandPanel false) {} "0")) 1 = .ok result ∧ result.passed :=
    ⟨_, rfl, rfl⟩
  obtain ⟨result', returned, passed⟩ := strict
  have parallel := (stricter_accepts_no_more stricter_strictValidator
    (some (buildSnapshot (commandPanel false) {} "0")) 0 1).1 commandPlan
  rw [returned] at parallel
  obtain ⟨result, returned', noLaxer⟩ := parallel.of_returned
  exact ⟨0, result, returned', noLaxer.passed passed⟩

end Example

end SthBoring.Plan.StricterValidation
