/- Module: SthBoring/Execution/RunRecords
   source: sdk_test_agent/execution/execution_engine.py
   digest: When a run comes back with a record of every executor call. -/

import SthBoring.AgentLoop.Preflight
import SthBoring.Execution.RunInvariant
import SthBoring.Plan.PlanValidation

set_option autoImplicit false
set_option relaxedAutoImplicit false

namespace SthBoring.Execution.RunRecords

universe u

open SthBoring.Lib.PyValue (Value PyExc)
open SthBoring.Plan.Models (PlanStep ExecutionPlan ReplanRequest)
open SthBoring.Plan.PlanValidation (Passes)
open SthBoring.AgentLoop.Preflight (PreflightResult runPreflight covers_of_passed)
open SthBoring.Execution.Models
open SthBoring.Execution.Engine
open SthBoring.Execution.RunInvariant

variable {σ : Type u}

/-- The three statuses a run can end with. -/
def Terminal (status : ExecutionRunStatus) : Prop :=
  status = .succeeded ∨ status = .failed ∨ status = .waitingReplan

/-- The run returned, with a terminal status and a step run that tells the outcome of every
executor call. -/
def KeepsRecords (ended : RunEnd σ) : Prop :=
  ∃ result st, ended = .returned result st ∧ Terminal result.status ∧
    ∀ step given outcome, .called step given outcome ∈ st.trace →
      ∃ stepRun ∈ result.run.stepRuns, Recorded (.called step given outcome) stepRun

section Returned

variable {engine : ExecutionEngine σ} {plan : ExecutionPlan} {step : PlanStep}
  {done : List PlanStep} {st : RunState σ}

private theorem keepsRecords_conclude {status : ExecutionRunStatus} {summary : String}
    {replan : Option ReplanRequest} {result : ExecutionRunResult}
    {st' : RunState σ} (terminal : Terminal status)
    (recorded : List.Forall₂ Recorded st.trace st.run.stepRuns)
    (returned : conclude engine status summary replan st = .returned result st') :
    KeepsRecords (.returned result st') := by
  have concluded := concluded_of_returned returned
  refine ⟨result, st', rfl, concluded.status ▸ terminal, ?_⟩
  intro called given outcome mem
  rw [concluded.trace] at mem
  rw [concluded.stepRuns]
  exact exists_of_forall₂_left recorded mem

/-- An exception in the middle of a run comes from a refused persist call. -/
theorem not_preserved_of_raised {executor : StepExecutor σ} {exc : PyExc}
    (raised : (finishCall engine executor step st).outcome = .error exc) :
    ¬ Preserved engine (afterCall engine executor step st) := by
  intro preserved
  obtain ⟨finished, ok⟩ := (finishStepRun_ok_iff engine _ _ _ _).mpr
    (fun entry he => preserved.clean entry (List.mem_append_right st.persists he))
  cases raised.symm.trans ok

private theorem keepsRecords_conclude_iff {status : ExecutionRunStatus} {summary : String}
    {replan : Option ReplanRequest} (terminal : Terminal status)
    (recorded : List.Forall₂ Recorded st.trace st.run.stepRuns)
    (clean : ∀ entry ∈ st.persists, ¬ Refused entry) :
    KeepsRecords (conclude engine status summary replan st) ↔
      Preserved engine (conclude engine status summary replan st).state := by
  rw [← conclude_returned_iff engine status summary replan clean]
  constructor
  · rintro ⟨result, st', returned, _⟩
    exact ⟨result, st', returned⟩
  · rintro ⟨result, st', returned⟩
    rw [returned]
    exact keepsRecords_conclude terminal recorded returned

end Returned

/-- With an executor for every kind, a run keeps its records exactly when everything that the
engine itself persists is taken. -/
theorem keepsRecords_iff_of_covers (engine : ExecutionEngine σ) (plan : ExecutionPlan)
    (context : ExecutionContext σ) (w : σ) (covers : engine.registry.Covers plan.steps) :
    KeepsRecords (run engine plan context w) ↔
      Preserved engine (run engine plan context w).state := by
  rcases run_rule engine plan context w (Trail engine) (trail_start plan context w)
    (fun done step rest st st' _ trail turn => trail_turn trail turn) with
    ⟨st, trail, ended⟩ | ⟨done, step, rest, st, halt, split, trail, turn, ended⟩
  · rw [ended]
    exact keepsRecords_conclude_iff (.inl rfl) trail.recorded trail.clean
  · have inPlan : step ∈ plan.steps := by simp [split]
    rw [ended]
    cases turn with
    | unknown met exc missing =>
      obtain ⟨executor, known⟩ := StepExecutorRegistry.get_of_covers covers inPlan
      cases missing.symm.trans known
    | raised met executor known exc refused =>
      constructor
      · rintro ⟨result, st', returned, _⟩
        cases returned
      · intro preserved
        exact absurd preserved (not_preserved_of_raised refused)
    | waiting executor stepRun result call failure policy request w' later =>
      have hs : ExecutionStepStatus.waitingReplan = finalStatus step result := by
        rw [finalStatus, if_pos ⟨failure, policy⟩]
      exact keepsRecords_conclude_iff (.inr (.inr rfl)) (trail.recorded_call call hs)
        (trail.clean_call call)
    | failed executor stepRun result call failure policy policy' summary =>
      have hs : result.status = finalStatus step result := by
        rw [finalStatus, if_neg (fun h => policy' h.2)]
      exact keepsRecords_conclude_iff (.inr (.inl rfl)) (trail.recorded_call call hs)
        (trail.clean_call call)

section Examples

/-- An artifact manager whose store has no directory for a name with a separator. -/
def flatArtifactManager : ArtifactManager Unit where
  persistArtifactBytes call w :=
    if call.name.toList.contains '/' then
      (.error ⟨"FileNotFoundError", ["OSError", "Exception"],
        s!"No such file or directory: {call.name}"⟩, w)
    else (.ok ⟨some s!"artifact_{call.name}", none, call.name⟩, w)

/-- An executor that succeeds and prints something. -/
def printingExecutor (stepKind : String) : StepExecutor Unit where
  stepKind := stepKind
  execute _ context w := ⟨.ok { status := .succeeded, stdout := some "done" }, context, w⟩

def namedPlan (stepId : String) : ExecutionPlan :=
  fakePlan [fakeStep stepId "run_test" [] .abort]

end Examples

end SthBoring.Execution.RunRecords
