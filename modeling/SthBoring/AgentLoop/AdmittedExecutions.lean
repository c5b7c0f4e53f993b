/- Module: SthBoring/AgentLoop/AdmittedExecutions
   source: sdk_test_agent/agent_loop/graph_builder.py, nodes.py
   digest: What the agent loop executes was planned, validated and preflighted in the same round. -/

import SthBoring.AgentLoop.BoundedReplanning
import SthBoring.Lib.JsonText

set_option autoImplicit false
set_option relaxedAutoImplicit false

namespace SthBoring.AgentLoop.AdmittedExecutions

universe u

open SthBoring.Lib.Effect (Computation)
open SthBoring.Lib.PyValue (PyExc)
open SthBoring.Lib.JsonText (intText_inj)
open SthBoring.Lib.Walk
open SthBoring.Capability.Panel (buildSnapshot)
open SthBoring.Plan.Models
open SthBoring.Plan.PlanValidation (validate)
open SthBoring.Execution.Models
open SthBoring.AgentLoop.Preflight (runPreflight)
open SthBoring.AgentLoop.LoopModels
open SthBoring.AgentLoop.Nodes
open SthBoring.AgentLoop.GraphBuilder
open SthBoring.AgentLoop.BoundedReplanning (unreadableRuntime testState)

variable {σ : Type u}

section Spec

/-- The id of the run that a state executes as. -/
def runIdOf (state : SdkAgentState) : String := s!"run_{iterationOf state}"

variable (runtime : SdkRuntimeContext σ) (start : Position σ)

/-- The walk stands here after so many steps. -/
def Stands (n : ℕ) (p : Position σ) (place : Place) : Prop :=
  walk (advance runtime) start n = some p ∧ p.place = place

/-- The plan of a state that executes after `n` steps: it is what the finalizer made of what the
planner gave in this round, it passed the validation against the round's snapshot, and the
preflight. -/
structure Admitted (n : ℕ) (p : Position σ) (plan : ExecutionPlan) : Prop where
  carried : p.state.plan = some plan
  named : p.state.planId = some plan.planId
  resolved : ∃ request hex, p.state.capabilitySnapshot =
    some (buildSnapshot runtime.capabilityPanel request hex)
  planned : ∃ q q' q'' input draft, Stands runtime start (n - 4) q (.before .plan) ∧
    Stands runtime start (n - 3) q' (.before .finalize) ∧
    Stands runtime start (n - 2) q'' (.before .validate) ∧
    runtime.planner input q.world = (.ok draft, q'.world) ∧
    runtime.planFinalizer draft (snapshotFor p.state runtime) q'.world = (.ok plan, q''.world)
  validated : ∃ checkedAt result,
    validate runtime.planValidator plan (snapshotFor p.state runtime) checkedAt = .ok result ∧
      result.status = .passed
  preflighted : ∃ result, runPreflight plan.steps runtime.supportedStepKinds
    (operatorsOf runtime.bindings) = .ok result ∧ result.passed = true

/-- An execution after `n` steps of a walk. A round takes nine nodes. -/
structure Execution (n : ℕ) (p : Position σ) : Prop where
  admitted : ∃ plan, Admitted runtime start n p plan
  round : ∃ k : ℕ, n = 8 + 9 * k ∧ iterationOf p.state = iterationOf start.state + k
  opened : ∃ q, Stands runtime start 1 q (.before .envInit)
  once : ∀ n' q, Stands runtime start n' q (.before .envInit) → n' = 1
  fresh : ∀ n' p', Stands runtime start n' p' (.before .execute) → n' ≠ n →
    runIdOf p'.state ≠ runIdOf p.state

/-- What the report says: the plan that was admitted and executed in the last round, its run, and
the checker's decision on it. -/
structure Reported (n : ℕ) (p : Position σ) : Prop where
  status : p.state.loopStatus = some "succeeded"
  executed : ∃ q q' plan taskId result, Stands runtime start (n - 3) q (.before .execute) ∧
    Admitted runtime start (n - 3) q plan ∧ Stands runtime start (n - 2) q' (.before .taskCheck) ∧
    q.state.taskId = some taskId ∧
    runtime.executionEngine plan (executionContext q.state runtime taskId (runIdOf q.state)) q.world =
      (.ok result, q'.world) ∧
    ∃ request decision q'', Stands runtime start (n - 1) q'' (.before .report) ∧
      request.plan = some plan ∧ request.executionResult = some result ∧
      runtime.taskChecker request q'.world = (.ok decision, q''.world) ∧ decision.route = "end" ∧
      p.state.report = some
        { planId := some plan.planId, runId := some (runIdOf q.state), decision := some decision }

end Spec

section Returned

variable {runtime : SdkRuntimeContext σ} {s s' : SdkAgentState} {w w' : σ}

theorem required_ok {α : Type} {key : String} {field : Option α} {a : α}
    (h : (required key field : Computation σ PyExc α) w = (.ok a, w')) :
    field = some a ∧ w' = w := by
  cases field with
  | none => cases h
  | some b =>
    cases h
    exact ⟨rfl, rfl⟩

theorem capabilityResolveNode_ok (h : capabilityResolveNode s runtime w = (.ok s', w')) :
    ∃ request v hex, capabilityInput s runtime w = (.ok request, v) ∧
      s'.capabilitySnapshot = some (buildSnapshot runtime.capabilityPanel request hex) := by
  obtain ⟨request, v, asked, h⟩ := Computation.ok_of_bind h
  obtain ⟨hex, v', -, h⟩ := Computation.ok_of_bind h
  obtain ⟨prompt, v'', -, h⟩ := Computation.ok_of_bind h
  cases h
  exact ⟨request, v, hex, asked, rfl⟩

theorem skillSelectNode_ok (runtime : SdkRuntimeContext σ)
    (h : skillSelectNode s runtime w = (.ok s', w')) :
    s'.capabilitySnapshot = s.capabilitySnapshot := by
  cases h
  rfl

theorem planNode_ok (h : planNode s runtime w = (.ok s', w')) :
    ∃ input draft, runtime.planner input w = (.ok draft, w') ∧
      s' = { s with draftPlan := some draft } := by
  obtain ⟨taskId, v, first, h⟩ := Computation.ok_of_bind h
  obtain ⟨taskType, v', second, h⟩ := Computation.ok_of_bind h
  obtain ⟨goal, v'', third, h⟩ := Computation.ok_of_bind h
  obtain ⟨draft, v''', asked, h⟩ := Computation.ok_of_bind h
  cases h
  obtain ⟨-, rfl⟩ := required_ok first
  obtain ⟨-, rfl⟩ := required_ok second
  obtain ⟨-, rfl⟩ := required_ok third
  exact ⟨_, draft, asked, rfl⟩

theorem finalizeNode_ok (h : finalizeNode s runtime w = (.ok s', w')) :
    ∃ draft plan, s.draftPlan = some draft ∧
      runtime.planFinalizer draft (snapshotFor s runtime) w = (.ok plan, w') ∧
      s' = { s with planId := some plan.planId, plan := some plan } := by
  obtain ⟨draft, v, first, h⟩ := Computation.ok_of_bind h
  obtain ⟨plan, v', made, h⟩ := Computation.ok_of_bind h
  cases h
  obtain ⟨drafted, rfl⟩ := required_ok first
  exact ⟨draft, plan, drafted, made, rfl⟩

theorem validateNode_ok (h : validateNode s runtime w = (.ok s', w')) :
    ∃ plan checkedAt result, s.plan = some plan ∧
      validate runtime.planValidator plan (snapshotFor s runtime) checkedAt = .ok result ∧
      s' = { s with validationResult := some result } := by
  obtain ⟨plan, v, first, h⟩ := Computation.ok_of_bind h
  obtain ⟨checkedAt, v', -, h⟩ := Computation.ok_of_bind h
  obtain ⟨result, v'', checked, h⟩ := Computation.ok_of_bind h
  cases h
  exact ⟨plan, checkedAt, result, (required_ok first).1, (Computation.ok_of_lift checked).1, rfl⟩

theorem preflightNode_ok (h : preflightNode s runtime w = (.ok s', w')) :
    ∃ plan result, s.plan = some plan ∧
      runPreflight plan.steps runtime.supportedStepKinds (operatorsOf runtime.bindings) = .ok result ∧
      s' = { s with preflightResult := some result } := by
  obtain ⟨plan, v, first, h⟩ := Computation.ok_of_bind h
  obtain ⟨result, v', checked, h⟩ := Computation.ok_of_bind h
  cases h
  exact ⟨plan, result, (required_ok first).1, (Computation.ok_of_lift checked).1, rfl⟩

theorem executeNode_ok (h : executeNode s runtime w = (.ok s', w')) :
    ∃ plan taskId result, s.plan = some plan ∧ s.taskId = some taskId ∧
      runtime.executionEngine plan (executionContext s runtime taskId (runIdOf s)) w =
        (.ok result, w') ∧
      s' = { s with runId := some (runIdOf s), executionResult := some result } := by
  obtain ⟨plan, v, first, h⟩ := Computation.ok_of_bind h
  obtain ⟨taskId, v', second, h⟩ := Computation.ok_of_bind h
  obtain ⟨result, v'', ran, h⟩ := Computation.ok_of_bind h
  cases h
  obtain ⟨carried, rfl⟩ := required_ok first
  obtain ⟨named, rfl⟩ := required_ok second
  exact ⟨plan, taskId, result, carried, named, ran, rfl⟩

theorem taskCheckNode_ok (h : taskCheckNode s runtime w = (.ok s', w')) :
    ∃ request decision, request.plan = s.plan ∧ request.executionResult = s.executionResult ∧
      runtime.taskChecker request w = (.ok decision, w') ∧
      s' = { s with taskCheckDecision := some decision } := by
  obtain ⟨taskId, v, first, h⟩ := Computation.ok_of_bind h
  obtain ⟨taskType, v', second, h⟩ := Computation.ok_of_bind h
  obtain ⟨goal, v'', third, h⟩ := Computation.ok_of_bind h
  obtain ⟨decision, v''', asked, h⟩ := Computation.ok_of_bind h
  cases h
  obtain ⟨-, rfl⟩ := required_ok first
  obtain ⟨-, rfl⟩ := required_ok second
  obtain ⟨-, rfl⟩ := required_ok third
  exact ⟨_, decision, rfl, rfl, asked, rfl⟩

end Returned

section Arrivals

variable {runtime : SdkRuntimeContext σ} {state : SdkAgentState} {w : σ} {n : ℕ} {p : Position σ}

theorem advance_ran {p p' : Position σ} (h : advance runtime p = some p') :
    (∃ exc, p'.place = .raised exc) ∨ ∃ node, p.place = .before node ∧
      nodes node p.state runtime p.world = (.ok p'.state, p'.world) ∧
      p'.place = arrive node p'.state := by
  obtain ⟨place, s, v⟩ := p
  cases place with
  | finished terminal => cases h
  | raised exc => cases h
  | before node =>
    rcases ran : nodes node s runtime v with ⟨exc | s', v'⟩
    · rw [advance_of_error ran] at h
      cases h
      exact .inl ⟨exc, rfl⟩
    · rw [advance_of_ok ran] at h
      cases h
      exact .inr ⟨node, rfl, ran, rfl⟩

/-- Behind the start, the walk comes to a node along an edge. -/
theorem arrived {next : Node} (stands : Stands runtime (startPosition state w) n p (.before next)) :
    (n = 0 ∧ p = startPosition state w) ∨ ∃ m q node, n = m + 1 ∧
      Stands runtime (startPosition state w) m q (.before node) ∧
      nodes node q.state runtime q.world = (.ok p.state, p.world) ∧ edge node p.state = some next := by
  obtain ⟨reached, here⟩ := stands
  cases n with
  | zero =>
    cases reached
    exact .inl ⟨rfl, rfl⟩
  | succ m =>
    obtain ⟨q, before, stepped⟩ := walk_succ_eq_some reached
    rcases advance_ran stepped with ⟨exc, raised⟩ | ⟨node, there, ran, arrives⟩
    · rw [raised] at here
      cases here
    · refine .inr ⟨m, q, node, rfl, ⟨before, there⟩, ran, ?_⟩
      rw [arrives, arrive] at here
      cases along : edge node p.state with
      | none =>
        rw [along] at here
        cases here
      | some other =>
        rw [along] at here
        exact congrArg some (Place.before.inj here)

theorem arrived_later {next : Node}
    (stands : Stands runtime (startPosition state w) n p (.before next))
    (later : next ≠ .interactionDecision) :
    ∃ m q node, n = m + 1 ∧ Stands runtime (startPosition state w) m q (.before node) ∧
      nodes node q.state runtime q.world = (.ok p.state, p.world) ∧ edge node p.state = some next := by
  rcases arrived stands with ⟨-, rfl⟩ | some
  · exact absurd (Place.before.inj stands.2).symm later
  · exact some

/-- To some nodes only one node leads. -/
theorem arrived_by (node : Node) {next : Node}
    (stands : Stands runtime (startPosition state w) n p (.before next))
    (later : next ≠ .interactionDecision)
    (only : ∀ other, next ∈ successors other → other = node) :
    ∃ m q, n = m + 1 ∧ Stands runtime (startPosition state w) m q (.before node) ∧
      nodes node q.state runtime q.world = (.ok p.state, p.world) ∧ edge node p.state = some next := by
  obtain ⟨m, q, other, rfl, there, ran, along⟩ := arrived_later stands later
  obtain rfl := only other (mem_successors along)
  exact ⟨m, q, rfl, there, ran, along⟩

/-- No edge leads back to the first node. -/
theorem eq_zero_of_first (stands : Stands runtime (startPosition state w) n p
    (.before .interactionDecision)) : n = 0 ∧ p = startPosition state w := by
  rcases arrived stands with first | ⟨m, q, node, -, -, -, along⟩
  · exact first
  · have back := mem_successors along
    cases node <;> exact absurd back (by decide)

/-- The session is opened in the second node, and never again. -/
theorem eq_one_of_envInit (stands : Stands runtime (startPosition state w) n p (.before .envInit)) :
    n = 1 ∧ iterationOf p.state = iterationOf state := by
  obtain ⟨m, q, rfl, there, ran, -⟩ :=
    arrived_by .interactionDecision stands (by decide) (fun other => by cases other <;> decide)
  obtain ⟨rfl, rfl⟩ := eq_zero_of_first there
  have kept := (nodes_iteration runtime state .interactionDecision).of_ok ran
  exact ⟨rfl, kept.trans (Int.add_zero _)⟩

/-- The end behind a terminal node. -/
theorem finished_by {node : Node}
    (stands : Stands runtime (startPosition state w) n p (.finished node)) :
    ∃ m q, n = m + 1 ∧ Stands runtime (startPosition state w) m q (.before node) ∧
      nodes node q.state runtime q.world = (.ok p.state, p.world) := by
  obtain ⟨reached, here⟩ := stands
  cases n with
  | zero =>
    cases reached
    cases here
  | succ m =>
    obtain ⟨q, before, stepped⟩ := walk_succ_eq_some reached
    rcases advance_ran stepped with ⟨exc, raised⟩ | ⟨other, there, ran, arrives⟩
    · rw [raised] at here
      cases here
    · rw [arrives, arrive] at here
      cases along : edge other p.state with
      | some next =>
        rw [along] at here
        cases here
      | none =>
        rw [along] at here
        cases here
        exact ⟨m, q, rfl, ⟨before, there⟩, ran⟩

/-- The nodes of a round up to its execution. -/
structure Round (runtime : SdkRuntimeContext σ) (start : Position σ) (m : ℕ)
    (q₁ q₂ q₃ q₄ q₅ q₆ p : Position σ) : Prop where
  resolves : Stands runtime start m q₁ (.before .capabilityResolve)
  plans : Stands runtime start (m + 2) q₃ (.before .plan)
  finalizes : Stands runtime start (m + 3) q₄ (.before .finalize)
  validates : Stands runtime start (m + 4) q₅ (.before .validate)
  resolved : capabilityResolveNode q₁.state runtime q₁.world = (.ok q₂.state, q₂.world)
  selected : skillSelectNode q₂.state runtime q₂.world = (.ok q₃.state, q₃.world)
  planned : planNode q₃.state runtime q₃.world = (.ok q₄.state, q₄.world)
  finalized : finalizeNode q₄.state runtime q₄.world = (.ok q₅.state, q₅.world)
  validated : validateNode q₅.state runtime q₅.world = (.ok q₆.state, q₆.world)
  preflighted : preflightNode q₆.state runtime q₆.world = (.ok p.state, p.world)
  valid : routeAfterValidate q₆.state = .preflight
  cleared : routeAfterPreflight p.state = .execute

/-- From an execution back to where its round starts. -/
theorem round_of_execute (stands : Stands runtime (startPosition state w) n p (.before .execute)) :
    ∃ m q₁ q₂ q₃ q₄ q₅ q₆, n = m + 6 ∧
      Round runtime (startPosition state w) m q₁ q₂ q₃ q₄ q₅ q₆ p := by
  obtain ⟨_, q₆, rfl, at₆, ran₆, along₆⟩ :=
    arrived_by .preflight stands (by decide) (fun other => by cases other <;> decide)
  obtain ⟨_, q₅, rfl, at₅, ran₅, along₅⟩ :=
    arrived_by .validate at₆ (by decide) (fun other => by cases other <;> decide)
  obtain ⟨_, q₄, rfl, at₄, ran₄, -⟩ :=
    arrived_by .finalize at₅ (by decide) (fun other => by cases other <;> decide)
  obtain ⟨_, q₃, rfl, at₃, ran₃, -⟩ :=
    arrived_by .plan at₄ (by decide) (fun other => by cases other <;> decide)
  obtain ⟨_, q₂, rfl, at₂, ran₂, -⟩ :=
    arrived_by .skillSelect at₃ (by decide) (fun other => by cases other <;> decide)
  obtain ⟨m, q₁, rfl, at₁, ran₁, -⟩ :=
    arrived_by .capabilityResolve at₂ (by decide) (fun other => by cases other <;> decide)
  exact ⟨m, q₁, q₂, q₃, q₄, q₅, q₆, rfl, at₁, at₃, at₄, at₅, ran₁, ran₂, ran₃, ran₄, ran₅, ran₆,
    Option.some.inj along₅, Option.some.inj along₆⟩

end Arrivals

section Rounds

variable {runtime : SdkRuntimeContext σ} {state : SdkAgentState} {w : σ} {n : ℕ} {p : Position σ}

theorem passed_of_routeAfterPreflight {s : SdkAgentState} (along : routeAfterPreflight s = .execute) :
    ∃ result, s.preflightResult = some result ∧ result.passed = true := by
  unfold routeAfterPreflight at along
  split at along
  · cases along
  split at along
  · exact ⟨_, ‹_›, ‹_›⟩
  · cases along

theorem passed_of_routeAfterValidate {s : SdkAgentState} (along : routeAfterValidate s = .preflight) :
    ∃ result, s.validationResult = some result ∧ result.status = .passed := by
  unfold routeAfterValidate at along
  split at along
  · cases along
  split at along
  · exact ⟨_, ‹_›, ‹_›⟩
  · cases along

theorem end_of_routeAfterTaskCheck {s : SdkAgentState} (along : routeAfterTaskCheck s = .report) :
    ∃ decision, s.taskCheckDecision = some decision ∧ decision.route = "end" := by
  unfold routeAfterTaskCheck at along
  split at along
  · cases along
  split at along
  · exact ⟨_, ‹_›, ‹_›⟩
  split at along
  · cases along
  split at along <;> cases along

theorem snapshotFor_congr {s s' : SdkAgentState} (same : s'.capabilitySnapshot = s.capabilitySnapshot) :
    snapshotFor s' runtime = snapshotFor s runtime := by
  rw [snapshotFor, snapshotFor, same]

/-- The snapshot of a round is the one that was resolved in it. -/
theorem Round.snapshot {start : Position σ} {m : ℕ} {q₁ q₂ q₃ q₄ q₅ q₆ : Position σ}
    (round : Round runtime start m q₁ q₂ q₃ q₄ q₅ q₆ p) :
    p.state.capabilitySnapshot = q₂.state.capabilitySnapshot := by
  obtain ⟨_, _, -, drafted⟩ := planNode_ok round.planned
  obtain ⟨_, _, -, -, finalized⟩ := finalizeNode_ok round.finalized
  obtain ⟨_, _, _, -, -, judged⟩ := validateNode_ok round.validated
  obtain ⟨_, _, -, -, cleared⟩ := preflightNode_ok round.preflighted
  have skipped := skillSelectNode_ok runtime round.selected
  rw [cleared, judged, finalized, drafted, ← skipped]

/-- Nothing is executed that was not admitted in the same round. -/
theorem admitted (stands : Stands runtime (startPosition state w) n p (.before .execute)) :
    ∃ m plan, n = m + 6 ∧ (∃ q, Stands runtime (startPosition state w) m q (.before .capabilityResolve) ∧
      iterationOf p.state = iterationOf q.state) ∧
      Admitted runtime (startPosition state w) n p plan := by
  obtain ⟨m, q₁, q₂, q₃, q₄, q₅, q₆, rfl, round⟩ := round_of_execute stands
  obtain ⟨request, -, hex, -, resolved⟩ := capabilityResolveNode_ok round.resolved
  obtain ⟨input, draft, asked, drafted⟩ := planNode_ok round.planned
  obtain ⟨draft', plan, same, made, finalized⟩ := finalizeNode_ok round.finalized
  obtain ⟨plan', checkedAt, checked, carried, valid, judged⟩ := validateNode_ok round.validated
  obtain ⟨plan'', preflight, kept, flown, cleared⟩ := preflightNode_ok round.preflighted
  obtain ⟨preflight', found, passed⟩ := passed_of_routeAfterPreflight round.cleared
  obtain ⟨checked', listed, status⟩ := passed_of_routeAfterValidate round.valid
  -- one plan and one snapshot are carried along
  rw [drafted] at same
  rw [finalized] at carried
  rw [judged, finalized] at kept
  rw [cleared] at found
  rw [judged] at listed
  cases same
  cases carried
  cases kept
  cases found
  cases listed
  have iteration : iterationOf p.state = iterationOf q₁.state := by
    have first := (nodes_iteration runtime q₁.state .capabilityResolve).of_ok round.resolved
    have second := (nodes_iteration runtime q₂.state .skillSelect).of_ok round.selected
    rw [cleared, judged, finalized, drafted]
    exact second.trans ((Int.add_zero _).trans (first.trans (Int.add_zero _)))
  refine ⟨m, plan, rfl, ⟨q₁, round.resolves, iteration⟩, ?_, ?_, ?_, ?_, ?_, ?_⟩
  · rw [cleared, judged, finalized]
  · rw [cleared, judged, finalized]
  · exact ⟨request, hex, round.snapshot.trans resolved⟩
  · refine ⟨q₃, q₄, q₅, input, draft, round.plans, round.finalizes, round.validates, asked, ?_⟩
    rw [snapshotFor_congr (show p.state.capabilitySnapshot = q₄.state.capabilitySnapshot by
      rw [cleared, judged, finalized])]
    exact made
  · refine ⟨checkedAt, checked, ?_, status⟩
    rw [snapshotFor_congr (show p.state.capabilitySnapshot = q₅.state.capabilitySnapshot by
      rw [cleared, judged])]
    exact valid
  · exact ⟨preflight, flown, passed⟩

/-- A round takes nine nodes. -/
theorem resolve_round : ∀ n p,
    Stands runtime (startPosition state w) n p (.before .capabilityResolve) →
      (∃ q, Stands runtime (startPosition state w) 1 q (.before .envInit)) ∧
        ∃ k : ℕ, n = 2 + 9 * k ∧ iterationOf p.state = iterationOf state + k := by
  intro n
  -- a round later than the first one starts nine nodes behind the one before
  induction n using Nat.strong_induction_on with
  | _ n ih =>
    intro p stands
    obtain ⟨m, q, node, rfl, there, ran, along⟩ := arrived_later stands (by decide)
    have back := mem_successors along
    have kept := (nodes_iteration runtime q.state node).of_ok ran
    by_cases first : node = .envInit
    · subst first
      obtain ⟨rfl, start⟩ := eq_one_of_envInit there
      refine ⟨⟨q, there⟩, 0, rfl, ?_⟩
      rw [kept, start]
      rfl
    · have replans : node = .replanContext := by
        cases node <;> first | rfl | exact absurd back (by decide) | exact absurd rfl first
      subst replans
      obtain ⟨m, q', rfl, checks, ran', -⟩ :=
        arrived_by .taskCheck there (by decide) (fun other => by cases other <;> decide)
      obtain ⟨m, q'', rfl, executes, ran'', -⟩ :=
        arrived_by .execute checks (by decide) (fun other => by cases other <;> decide)
      obtain ⟨m, plan, rfl, ⟨r, resolves, same⟩, -⟩ := admitted executes
      obtain ⟨opened, k, rfl, counted⟩ := ih m (by omega) r resolves
      have third := (nodes_iteration runtime q'.state .taskCheck).of_ok ran'
      have second := (nodes_iteration runtime q''.state .execute).of_ok ran''
      refine ⟨opened, k + 1, by omega, ?_⟩
      rw [kept, third, second, same, counted]
      simp only [iterationStep, Int.add_zero, Nat.cast_succ, Int.add_assoc]

theorem execute_round (stands : Stands runtime (startPosition state w) n p (.before .execute)) :
    (∃ q, Stands runtime (startPosition state w) 1 q (.before .envInit)) ∧
      ∃ k : ℕ, n = 8 + 9 * k ∧ iterationOf p.state = iterationOf state + k := by
  obtain ⟨m, plan, rfl, ⟨q, resolves, same⟩, -⟩ := admitted stands
  obtain ⟨opened, k, rfl, counted⟩ := resolve_round m q resolves
  exact ⟨opened, k, by omega, same.trans counted⟩

theorem runIdOf_inj {s s' : SdkAgentState} (same : runIdOf s = runIdOf s') :
    iterationOf s = iterationOf s' := by
  have texts : "run_".toList ++ (toString (iterationOf s)).toList =
      "run_".toList ++ (toString (iterationOf s')).toList := by
    rw [← String.toList_append, ← String.toList_append]
    exact congrArg String.toList same
  exact intText_inj (List.append_cancel_left texts)

end Rounds

section Results

variable {runtime : SdkRuntimeContext σ} {state : SdkAgentState} {w : σ} {n : ℕ} {p : Position σ}

/-- A checker that sends the first execution back and is content with the second. -/
def secondRuntime : SdkRuntimeContext Unit :=
  { unreadableRuntime with
    taskChecker := fun request => pure (if request.iteration = 0 then unreadableDecision else
      { loopLevel := "done", route := "end", confidence := ⟨1, "1.0"⟩, reason := "deployed" }) }

end Results

end SthBoring.AgentLoop.AdmittedExecutions
