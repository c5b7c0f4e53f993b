/- Module: SthBoring/AgentLoop/BoundedReplanning
   source: sdk_test_agent/agent_loop/graph_builder.py, policies.py
   digest: How often a walk through the agent loop can execute, and when it ends. -/

import Mathlib.Tactic.Linarith
import SthBoring.Lib.Walk
import SthBoring.Execution.Engine
import SthBoring.AgentLoop.GraphBuilder

set_option autoImplicit false
set_option relaxedAutoImplicit false

namespace SthBoring.AgentLoop.BoundedReplanning

universe u

open SthBoring.Lib.PyValue (PyExc)
open SthBoring.Lib.Walk
open SthBoring.AgentLoop.LoopModels
open SthBoring.AgentLoop.Nodes
open SthBoring.AgentLoop.GraphBuilder

variable {σ : Type u}

def atExecute (p : Position σ) : Bool := decide (p.place = .before .execute)

def AtEnd (p : Position σ) : Prop := ∃ terminal, p.place = .finished terminal

/-- The walk executes at most `max_iterations` times and ends behind a terminal node. -/
structure Bounded (runtime : SdkRuntimeContext σ) (start : Position σ) : Prop where
  executions : ∀ n, (visits (advance runtime) atExecute start n : ℤ) ≤ runtime.loopPolicy.maxIterations
  ends : EndsIn (advance runtime) AtEnd start

/-- No node has raised, and where the walk executes, fewer iterations than the policy allows
have been counted since it started. -/
structure WithinPolicy (runtime : SdkRuntimeContext σ) (start p : Position σ) : Prop where
  running : ∀ exc, p.place ≠ .raised exc
  allowed : p.place = .before .execute →
    iterationOf p.state - iterationOf start.state < runtime.loopPolicy.maxIterations

section Counting

/-- The nodes between an execution and the iteration it is counted in. -/
def uncounted : Node → Bool
  | .taskCheck | .replanContext => true
  | _ => false

def terminal : Node → Bool
  | .report | .directReturn | .refuseReturn | .fail | .humanInterrupt => true
  | _ => false

/-- Executions are counted by the iteration, up to the one that is being checked. -/
def Counted (start : Position σ) (k : ℕ) (p : Position σ) : Prop :=
  ∀ node, p.place = .before node → terminal node = false →
    (k : ℤ) = iterationOf p.state - iterationOf start.state + if uncounted node then 1 else 0

private theorem successors_counted : ∀ node, ∀ next ∈ successors node, terminal next = false →
    terminal node = false ∧
      (if uncounted next then 1 else 0 : ℤ) + iterationStep node =
        (if uncounted node then 1 else 0) + if node = .execute then 1 else 0 := by
  intro node
  cases node <;> decide

theorem counted_advance {runtime : SdkRuntimeContext σ} {start p p' : Position σ} {k : ℕ}
    (counted : Counted start k p) (h : advance runtime p = some p') :
    Counted start (if atExecute p then k + 1 else k) p' := by
  intro next there more
  obtain ⟨node, here, along, iteration⟩ := before_of_advance h there
  obtain ⟨going, balance⟩ := successors_counted node next (mem_successors along) more
  have before := counted node here going
  rw [iteration]
  by_cases executes : node = .execute
  · have visited : atExecute p = true := by simp [atExecute, here, executes]
    rw [if_pos executes] at balance
    rw [if_pos visited, Nat.cast_succ]
    linarith
  · have passed : atExecute p = false := by simp [atExecute, here, executes]
    rw [if_neg executes] at balance
    rw [passed, if_neg Bool.false_ne_true]
    linarith

theorem counted_walk (runtime : SdkRuntimeContext σ) (state : SdkAgentState) (w : σ) :
    ∀ n p, walk (advance runtime) (startPosition state w) n = some p →
      Counted (startPosition state w)
        (visits (advance runtime) atExecute (startPosition state w) n) p := by
  refine walk_rule atExecute (Counted (startPosition state w)) ?_ ?_
  · intro node here more
    cases here
    simp [startPosition, uncounted]
  · intro k p p' counted h
    exact counted_advance counted h

/-- Where the walk executes, its iteration tells how often it has executed before. -/
theorem visits_eq_of_atExecute {runtime : SdkRuntimeContext σ} {state : SdkAgentState} {w : σ}
    {n : ℕ} {p : Position σ} (reached : walk (advance runtime) (startPosition state w) n = some p)
    (here : p.place = .before .execute) :
    (visits (advance runtime) atExecute (startPosition state w) n : ℤ) =
      iterationOf p.state - iterationOf state := by
  have counted := counted_walk runtime state w n p reached .execute here rfl
  have closed : ¬ uncounted .execute = true := by decide
  rw [counted, if_neg closed, Int.add_zero]
  rfl

end Counting

section Ending

/-- How far a node is from the end of a round. -/
def distance : Node → ℕ
  | .interactionDecision => 12
  | .envInit => 11
  | .capabilityResolve => 10
  | .skillSelect => 9
  | .plan => 8
  | .finalize => 7
  | .validate => 6
  | .preflight => 5
  | .execute => 4
  | .taskCheck => 3
  | .replanContext => 2
  | .report | .directReturn | .refuseReturn | .fail | .humanInterrupt => 1

/-- Rounds left within the policy, then nodes left in the round. -/
def remaining (runtime : SdkRuntimeContext σ) (start p : Position σ) : ℕ :=
  match p.place with
  | .before node =>
    (runtime.loopPolicy.maxIterations -
      (iterationOf p.state - iterationOf start.state)).toNat * 12 + distance node
  | .finished _ => 0
  | .raised _ => 0

private theorem successors_distance : ∀ node, ∀ next ∈ successors node,
    distance next < distance node + 12 * (iterationStep node).toNat := by
  intro node
  cases node <;> decide

private theorem successors_uncounted : ∀ node, ∀ next ∈ successors node,
    uncounted next = true →
      iterationStep node = 0 ∧ (node = .execute ∨ uncounted node = true) := by
  intro node
  cases node <;> decide

private theorem iterationStep_uncounted : ∀ node, iterationStep node = 0 ∨
    (iterationStep node = 1 ∧ uncounted node = true) := by
  intro node
  cases node <;> decide

/-- Until an execution is counted, the policy allows one more. -/
def Room (runtime : SdkRuntimeContext σ) (start p : Position σ) : Prop :=
  ∀ node, p.place = .before node → uncounted node = true →
    iterationOf p.state - iterationOf start.state < runtime.loopPolicy.maxIterations

theorem room_advance {runtime : SdkRuntimeContext σ} {start p p' : Position σ}
    (within : WithinPolicy runtime start p) (room : Room runtime start p)
    (h : advance runtime p = some p') : Room runtime start p' := by
  intro next there open'
  obtain ⟨node, here, along, iteration⟩ := before_of_advance h there
  obtain ⟨kept, executed⟩ := successors_uncounted node next (mem_successors along) open'
  rw [iteration, kept, Int.add_zero]
  rcases executed with rfl | counting
  · exact within.allowed here
  · exact room node here counting

theorem remaining_advance {runtime : SdkRuntimeContext σ} {start p p' : Position σ}
    (room : Room runtime start p) (h : advance runtime p = some p') :
    remaining runtime start p' < remaining runtime start p := by
  cases advance_step h with
  | finished node here last there =>
    have positive : 0 < distance node := by cases node <;> decide
    simp only [remaining, here, there]
    omega
  | raised node here exc there =>
    have positive : 0 < distance node := by cases node <;> decide
    simp only [remaining, here, there]
    omega
  | followed node next here along there iteration =>
    have closer := successors_distance node next (mem_successors along)
    simp only [remaining, here, there, iteration]
    rcases iterationStep_uncounted node with zero | ⟨one, counting⟩
    · rw [zero] at closer ⊢
      simp only [Int.add_zero]
      omega
    · have allowed := room node here counting
      rw [one] at closer ⊢
      omega

theorem ends_of_within {runtime : SdkRuntimeContext σ} {state : SdkAgentState} {w : σ}
    (within : ∀ n p, walk (advance runtime) (startPosition state w) n = some p →
      WithinPolicy runtime (startPosition state w) p) :
    EndsIn (advance runtime) AtEnd (startPosition state w) := by
  have ended : EndsIn (advance runtime)
      (fun p => (∃ n, walk (advance runtime) (startPosition state w) n = some p) ∧
        Room runtime (startPosition state w) p) (startPosition state w) := by
    refine endsIn_of_measure (remaining runtime (startPosition state w)) _ ⟨⟨0, rfl⟩, ?_⟩ ?_ ?_
    · intro node here counting
      cases here
      cases counting
    · rintro p p' ⟨⟨n, reached⟩, room⟩ h
      exact ⟨⟨n + 1, (walk_succ reached).trans h⟩, room_advance (within n p reached) room h⟩
    · rintro p p' ⟨_, room⟩ h
      exact remaining_advance room h
  obtain ⟨n, last, reached, stops, _, _⟩ := ended
  refine ⟨n, last, reached, stops, ?_⟩
  rcases place_of_advance_eq_none stops with atEnd | ⟨exc, raised⟩
  · exact atEnd
  · exact absurd raised ((within n last reached).running exc)

end Ending

/-- The walks that stay within the policy's bound and end are those on which no node raises and
the iteration is below the bound wherever the walk executes: a comparison the graph never makes. -/
theorem bounded_iff (runtime : SdkRuntimeContext σ) (state : SdkAgentState) (w : σ) :
    Bounded runtime (startPosition state w) ↔
      0 ≤ runtime.loopPolicy.maxIterations ∧
        ∀ n p, walk (advance runtime) (startPosition state w) n = some p →
          WithinPolicy runtime (startPosition state w) p := by
  constructor
  · rintro ⟨executions, ends⟩
    have nonneg : 0 ≤ runtime.loopPolicy.maxIterations := executions 0
    refine ⟨nonneg, fun n p reached => ⟨?_, ?_⟩⟩
    · intro exc here
      obtain ⟨m, last, reached', stops, terminal, there⟩ := ends
      have same := last_unique reached (advance_eq_none_of_raised here) reached' stops
      rw [same, there] at here
      cases here
    · intro here
      have visited : atExecute p = true := decide_eq_true here
      have below := executions (n + 1)
      rw [visits_succ_of_visited reached visited, Nat.cast_succ,
        visits_eq_of_atExecute reached here] at below
      change iterationOf p.state - iterationOf state < _
      linarith
  · rintro ⟨nonneg, within⟩
    refine ⟨?_, ends_of_within within⟩
    obtain ⟨b, hb⟩ := Int.eq_ofNat_of_zero_le nonneg
    have paid : ∀ n p, walk (advance runtime) (startPosition state w) n = some p →
        atExecute p = true → visits (advance runtime) atExecute (startPosition state w) n < b := by
      intro n p reached visited
      have here : p.place = .before .execute := of_decide_eq_true visited
      have counted := visits_eq_of_atExecute reached here
      have allowed := (within n p reached).allowed here
      change iterationOf p.state - iterationOf state < _ at allowed
      omega
    intro n
    have bounded := (visits_le_iff b).mpr paid n
    rw [hb]
    exact_mod_cast bounded

section Examples

open SthBoring.Capability.CapabilityModels
open SthBoring.Plan.Models
open SthBoring.Execution.Models
open SthBoring.Execution.Engine

/-- A panel with the capability of running tests. -/
def testCapability : CapabilityDescriptor where
  capabilityId := "cap.run_test.v1"
  version := "1"
  stepKind := "run_test"
  ownerModule := "execution"
  name := "run test"
  description := "run a test"

def testRegistry : CapabilityRegistry :=
  match CapabilityRegistry.empty.register testCapability with
  | .ok registry => registry
  | .error _ => .empty

def testPlan : ExecutionPlan := fakePlan [fakeStep "s1" "run_test" [] .abort]

/-- `FakePlanner`, with one step. -/
def testDraft : ExecutionPlanDraft where
  taskId := "task_1"
  taskType := "sdk_deploy"
  goal := "retry"
  plannerName := "fake"
  plannerVersion := "v1"
  planSummary := "fake plan"
  steps := testPlan.steps

/-- `FakeExecutionEngine`. -/
def testRunResult (context : ExecutionContext Unit) : ExecutionRunResult where
  run := { runId := context.runId, taskId := context.taskId, planId := context.planId
           status := .succeeded }
  status := .succeeded

/-- The runtime of the tests, with a checker that never understands the model's answer. -/
def unreadableRuntime : SdkRuntimeContext Unit where
  bindings := {}
  capabilityPanel := ⟨testRegistry, fun _ => "0"⟩
  planner _ := pure testDraft
  planFinalizer _ _ := pure testPlan
  planValidator := {}
  executionEngine _ context := pure (testRunResult context)
  supportedStepKinds := ["run_test"]
  taskChecker _ := pure unreadableDecision
  loopPolicy := {}
  timeFunc w := (1, w)
  uuidHex w := ("0", w)

def testState : SdkAgentState :=
  { taskId := some "task_1", taskType := some "sdk_deploy", userGoal := some (some "retry")
    iteration := some 0 }

/-- A fourth execution, where the policy allows three. -/
theorem unreadable_exceeds :
    unreadableRuntime.loopPolicy.maxIterations = 3 ∧
      visits (advance unreadableRuntime) atExecute (startPosition testState ()) 36 = 4 ∧
      ¬ Bounded unreadableRuntime (startPosition testState ()) := by
  have four : visits (advance unreadableRuntime) atExecute (startPosition testState ()) 36 = 4 := by
    decide +kernel
  refine ⟨rfl, four, ?_⟩
  intro bounded
  have three := bounded.executions 36
  rw [four] at three
  exact absurd three (by decide)

end Examples

end SthBoring.AgentLoop.BoundedReplanning
