/- Module: SthBoring/AgentLoop/Preflight
   source: sdk_test_agent/agent_loop/preflight.py
   digest: The last check of a plan against the executors and operators at hand. -/

import SthBoring.Execution.Models

set_option autoImplicit false
set_option relaxedAutoImplicit false

namespace SthBoring.AgentLoop.Preflight

universe u

open SthBoring.Lib.PyValue (Value Fields PyExc bind_eq_ok collect collect_complete)
open SthBoring.Plan.Models (PlanStep)
open SthBoring.Execution.Models (StepExecutorRegistry)

structure PreflightResult where
  passed : Bool
  errors : List String
  warnings : List String

def unknownExecutor (supported : List String) (step : PlanStep) : List String :=
  if supported.contains step.kind then []
  else [s!"unknown step executor for step kind: {step.kind}"]

/-- The action of a command must be an operator of the dispatcher; none is asked for when the
action is missing. -/
def unknownAction (operators : Value) (step : PlanStep) : Except PyExc (List String) :=
  if step.kind = "run_command" then
    match Fields.getD step.inputs "action" with
    | .null => .ok []
    | action => do
      let known ← operators.contains action
      return if known then [] else [s!"unknown action: {action.text}"]
  else .ok []

def preflightStep (supported : List String) (operators : Value) (step : PlanStep) :
    Except PyExc (List String) := do
  let actions ← unknownAction operators step
  return unknownExecutor supported step ++ actions

/-- `run_preflight` on the steps of the plan. `operators` is the dispatcher's dict, or an empty
one where there is no dispatcher. -/
def runPreflight (steps : List PlanStep) (supported : List String) (operators : Value) :
    Except PyExc PreflightResult := do
  let errors ← collect (preflightStep supported operators) steps
  return { passed := errors.isEmpty, errors := errors, warnings := [] }

section Passed

variable {steps : List PlanStep} {supported : List String} {operators : Value}
  {result : PreflightResult}

/-- A plan that passes has no errors at any step. -/
theorem clean_of_passed (checked : runPreflight steps supported operators = .ok result)
    (passed : result.passed = true) {step : PlanStep} (hs : step ∈ steps) :
    unknownExecutor supported step = [] ∧ unknownAction operators step = .ok [] := by
  unfold runPreflight at checked
  obtain ⟨errors, swept, same⟩ := bind_eq_ok.mp checked
  cases same
  obtain rfl : errors = [] := List.isEmpty_iff.mp passed
  obtain ⟨own, found, sub⟩ := collect_complete swept hs
  obtain rfl : own = [] := List.subset_nil.mp sub
  unfold preflightStep at found
  obtain ⟨actions, acted, same⟩ := bind_eq_ok.mp found
  have empty : unknownExecutor supported step ++ actions = [] := Except.ok.inj same
  obtain ⟨none, rfl⟩ := List.append_eq_nil_iff.mp empty
  exact ⟨none, acted⟩

/-- A plan that passes has an executor for each of its steps. -/
theorem covers_of_passed {σ : Type u} {registry : StepExecutorRegistry σ}
    (checked : runPreflight steps registry.supportedStepKinds operators = .ok result)
    (passed : result.passed = true) : registry.Covers steps := by
  intro step hs
  have known := (clean_of_passed checked passed hs).1
  unfold unknownExecutor at known
  by_contra missing
  rw [if_neg (by simpa using missing)] at known
  cases known

/-- The action that a command of a passing plan names is one of the operators. -/
theorem known_of_passed (checked : runPreflight steps supported operators = .ok result)
    (passed : result.passed = true) {step : PlanStep} (hs : step ∈ steps)
    (command : step.kind = "run_command") (named : Fields.getD step.inputs "action" ≠ .null) :
    operators.contains (Fields.getD step.inputs "action") = .ok true := by
  have clean := (clean_of_passed checked passed hs).2
  unfold unknownAction at clean
  rw [if_pos command] at clean
  split at clean
  · exact absurd ‹_› named
  · obtain ⟨known, contained, same⟩ := bind_eq_ok.mp clean
    cases known with
    | true => exact contained
    | false => cases same

end Passed

end SthBoring.AgentLoop.Preflight
