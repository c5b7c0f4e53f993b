/- Module: SthBoring/AgentLoop/GraphBuilder
   source: sdk_test_agent/agent_loop/graph_builder.py
   digest: The graph of the agent loop, and how it is walked. -/

import SthBoring.AgentLoop.Nodes

set_option autoImplicit false
set_option relaxedAutoImplicit false

namespace SthBoring.AgentLoop.GraphBuilder

universe u

open SthBoring.Lib.Effect (Computation)
open SthBoring.Lib.PyValue (PyExc)
open SthBoring.AgentLoop.LoopModels
open SthBoring.AgentLoop.Nodes

variable {σ : Type u}

/-- The names under which nodes are added to the graph. -/
inductive Node where
  | interactionDecision | envInit | capabilityResolve | skillSelect | plan | finalize | validate
  | preflight | execute | taskCheck | replanContext
  | report | directReturn | refuseReturn | fail | humanInterrupt
  deriving DecidableEq, Repr

/-- The table `nodes`. -/
def nodes : Node → NodeFunction σ
  | .interactionDecision => interactionDecisionNode
  | .envInit => envInitNode
  | .capabilityResolve => capabilityResolveNode
  | .skillSelect => skillSelectNode
  | .plan => planNode
  | .finalize => finalizeNode
  | .validate => validateNode
  | .preflight => preflightNode
  | .execute => executeNode
  | .taskCheck => taskCheckNode
  | .replanContext => replanContextNode
  | .report => reportNode
  | .directReturn => directReturnNode
  | .refuseReturn => refuseReturnNode
  | .fail => failNode
  | .humanInterrupt => humanInterruptNode

def routeAfterInteractionDecision (state : SdkAgentState) : Node :=
  match state.interactionDecision with
  | none => .fail
  | some decision =>
    if decision.mode = "PLAN" then .envInit
    else if decision.mode = "RETURN" then .directReturn
    else if decision.mode = "REFUSE" then .refuseReturn
    else if decision.mode = "HUMAN" then .humanInterrupt
    else .fail

def routeAfterValidate (state : SdkAgentState) : Node :=
  match state.validationResult with
  | none => .fail
  | some result => if result.status = .passed then .preflight else .fail

def routeAfterPreflight (state : SdkAgentState) : Node :=
  match state.preflightResult with
  | none => .fail
  | some result => if result.passed = true then .execute else .fail

def routeAfterTaskCheck (state : SdkAgentState) : Node :=
  match state.taskCheckDecision with
  | none => .fail
  | some decision =>
    if decision.route = "end" then .report
    else if decision.route = "replan" then .replanContext
    else if decision.route = "human_interrupt" then .humanInterrupt
    else .fail

/-- The edges of the graph. A terminal node has an edge to `END` only. -/
def edge (node : Node) (state : SdkAgentState) : Option Node :=
  match node with
  | .interactionDecision => some (routeAfterInteractionDecision state)
  | .envInit => some .capabilityResolve
  | .capabilityResolve => some .skillSelect
  | .skillSelect => some .plan
  | .plan => some .finalize
  | .finalize => some .validate
  | .validate => some (routeAfterValidate state)
  | .preflight => some (routeAfterPreflight state)
  | .execute => some .taskCheck
  | .taskCheck => some (routeAfterTaskCheck state)
  | .replanContext => some .capabilityResolve
  | .report | .directReturn | .refuseReturn | .fail | .humanInterrupt => none

/-- Where the edges of a node can lead. -/
def successors : Node → List Node
  | .interactionDecision => [.envInit, .directReturn, .refuseReturn, .humanInterrupt, .fail]
  | .envInit => [.capabilityResolve]
  | .capabilityResolve => [.skillSelect]
  | .skillSelect => [.plan]
  | .plan => [.finalize]
  | .finalize => [.validate]
  | .validate => [.preflight, .fail]
  | .preflight => [.execute, .fail]
  | .execute => [.taskCheck]
  | .taskCheck => [.report, .replanContext, .humanInterrupt, .fail]
  | .replanContext => [.capabilityResolve]
  | .report | .directReturn | .refuseReturn | .fail | .humanInterrupt => []

private theorem routeAfterInteractionDecision_mem (state : SdkAgentState) :
    routeAfterInteractionDecision state ∈ successors .interactionDecision := by
  unfold routeAfterInteractionDecision
  repeat' split
  all_goals decide

private theorem routeAfterValidate_mem (state : SdkAgentState) :
    routeAfterValidate state ∈ successors .validate := by
  unfold routeAfterValidate
  repeat' split
  all_goals decide

private theorem routeAfterPreflight_mem (state : SdkAgentState) :
    routeAfterPreflight state ∈ successors .preflight := by
  unfold routeAfterPreflight
  repeat' split
  all_goals decide

private theorem routeAfterTaskCheck_mem (state : SdkAgentState) :
    routeAfterTaskCheck state ∈ successors .taskCheck := by
  unfold routeAfterTaskCheck
  repeat' split
  all_goals decide

theorem mem_successors {node next : Node} {state : SdkAgentState}
    (along : edge node state = some next) : next ∈ successors node := by
  cases node with
  | interactionDecision => exact Option.some.inj along ▸ routeAfterInteractionDecision_mem state
  | validate => exact Option.some.inj along ▸ routeAfterValidate_mem state
  | preflight => exact Option.some.inj along ▸ routeAfterPreflight_mem state
  | taskCheck => exact Option.some.inj along ▸ routeAfterTaskCheck_mem state
  | report | directReturn | refuseReturn | fail | humanInterrupt => cases along
  | _ => exact List.mem_singleton.mpr (Option.some.inj along).symm

/-- Before a node, at the end behind a terminal node, or where a node raised. -/
inductive Place where
  | before (node : Node)
  | finished (terminal : Node)
  | raised (exc : PyExc)
  deriving DecidableEq

structure Position (σ : Type u) where
  place : Place
  state : SdkAgentState
  world : σ

/-- Where a node's edge leads. -/
def arrive (node : Node) (state : SdkAgentState) : Place :=
  match edge node state with
  | some next => .before next
  | none => .finished node

/-- Run the node, merge what it returns into the state, and follow its edge. -/
def advance (runtime : SdkRuntimeContext σ) (position : Position σ) : Option (Position σ) :=
  match position.place with
  | .before node =>
    match nodes node position.state runtime position.world with
    | (.ok state, w) => some ⟨arrive node state, state, w⟩
    | (.error exc, w) => some ⟨.raised exc, position.state, w⟩
  | .finished _ => none
  | .raised _ => none

/-- `START`. -/
def startPosition (state : SdkAgentState) (w : σ) : Position σ :=
  ⟨.before .interactionDecision, state, w⟩

section Nodes

open SthBoring.Lib.Effect (Returns)

variable (runtime : SdkRuntimeContext σ) (state : SdkAgentState)

/-- What `replan_context` adds to the iteration, and no other node does. -/
def iterationStep : Node → ℤ
  | .replanContext => 1
  | _ => 0

private theorem returns_kept {m : Computation σ PyExc SdkAgentState}
    (h : Returns (fun state' => state'.iteration = state.iteration) m) :
    Returns (fun state' => iterationOf state' = iterationOf state + 0) m := by
  refine h.imp (fun state' same => ?_)
  rw [Int.add_zero, iterationOf, iterationOf, same]

theorem nodes_iteration (node : Node) :
    Returns (fun state' => iterationOf state' = iterationOf state + iterationStep node)
      (nodes node state runtime) := by
  cases node with
  | replanContext => exact Returns.pure rfl
  | interactionDecision =>
    exact returns_kept state (Returns.bind fun _ => Returns.pure rfl)
  | envInit => exact returns_kept state (Returns.bind fun _ => Returns.pure rfl)
  | capabilityResolve =>
    exact returns_kept state
      (Returns.bind fun _ => Returns.bind fun _ => Returns.bind fun _ => Returns.pure rfl)
  | plan =>
    exact returns_kept state (Returns.bind fun _ => Returns.bind fun _ => Returns.bind fun _ =>
      Returns.bind fun _ => Returns.pure rfl)
  | finalize =>
    exact returns_kept state (Returns.bind fun _ => Returns.bind fun _ => Returns.pure rfl)
  | validate =>
    exact returns_kept state
      (Returns.bind fun _ => Returns.bind fun _ => Returns.bind fun _ => Returns.pure rfl)
  | preflight =>
    exact returns_kept state (Returns.bind fun _ => Returns.bind fun _ => Returns.pure rfl)
  | execute =>
    exact returns_kept state
      (Returns.bind fun _ => Returns.bind fun _ => Returns.bind fun _ => Returns.pure rfl)
  | taskCheck =>
    exact returns_kept state (Returns.bind fun _ => Returns.bind fun _ => Returns.bind fun _ =>
      Returns.bind fun _ => Returns.pure rfl)
  | skillSelect => exact returns_kept state (Returns.pure rfl)
  | report => exact returns_kept state (Returns.pure rfl)
  | directReturn => exact returns_kept state (Returns.pure rfl)
  | refuseReturn => exact returns_kept state (Returns.pure rfl)
  | fail => exact returns_kept state (Returns.pure rfl)
  | humanInterrupt => exact returns_kept state (Returns.pure rfl)

end Nodes

section Advance

open SthBoring.Lib.Effect (Returns)

variable {runtime : SdkRuntimeContext σ} {p p' : Position σ}

/-- Everything one step of a walk can do. -/
inductive Step (p p' : Position σ) : Prop where
  | followed (node next : Node) (here : p.place = .before node)
      (along : edge node p'.state = some next) (there : p'.place = .before next)
      (iteration : iterationOf p'.state = iterationOf p.state + iterationStep node)
  | finished (node : Node) (here : p.place = .before node) (last : edge node p'.state = none)
      (there : p'.place = .finished node)
  | raised (node : Node) (here : p.place = .before node) (exc : PyExc)
      (there : p'.place = .raised exc)

theorem advance_of_ok {node : Node} {state state' : SdkAgentState} {w w' : σ}
    (h : nodes node state runtime w = (.ok state', w')) :
    advance runtime ⟨.before node, state, w⟩ = some ⟨arrive node state', state', w'⟩ := by
  simp only [advance, h]

theorem advance_of_error {node : Node} {state : SdkAgentState} {exc : PyExc} {w w' : σ}
    (h : nodes node state runtime w = (.error exc, w')) :
    advance runtime ⟨.before node, state, w⟩ = some ⟨.raised exc, state, w'⟩ := by
  simp only [advance, h]

theorem advance_step (h : advance runtime p = some p') : Step p p' := by
  obtain ⟨place, state, w⟩ := p
  cases place with
  | finished terminal => cases h
  | raised exc => cases h
  | before node =>
    cases hn : nodes node state runtime w with
    | mk outcome w' =>
      cases outcome with
      | error exc =>
        rw [advance_of_error hn] at h
        cases h
        exact .raised node rfl exc rfl
      | ok state' =>
        rw [advance_of_ok hn] at h
        cases h
        have iteration := (nodes_iteration runtime state node).of_ok hn
        cases along : edge node state' with
        | none => exact .finished node rfl along (by simp only [arrive, along])
        | some next => exact .followed node next rfl along (by simp only [arrive, along]) iteration

/-- Before a node the walk comes along an edge from the one before. -/
theorem before_of_advance (h : advance runtime p = some p') {next : Node}
    (there : p'.place = .before next) : ∃ node, p.place = .before node ∧
      edge node p'.state = some next ∧
      iterationOf p'.state = iterationOf p.state + iterationStep node := by
  cases advance_step h with
  | finished node here last there' => cases there'.symm.trans there
  | raised node here exc there' => cases there'.symm.trans there
  | followed node next' here along there' iteration =>
    cases there'.symm.trans there
    exact ⟨node, here, along, iteration⟩

/-- Only behind a terminal node, or where a node raised, does a walk end. -/
theorem place_of_advance_eq_none (h : advance runtime p = none) :
    (∃ terminal, p.place = .finished terminal) ∨ ∃ exc, p.place = .raised exc := by
  obtain ⟨place, state, w⟩ := p
  cases place with
  | finished terminal => exact .inl ⟨terminal, rfl⟩
  | raised exc => exact .inr ⟨exc, rfl⟩
  | before node =>
    cases hn : nodes node state runtime w with
    | mk outcome w' =>
      cases outcome with
      | error exc =>
        rw [advance_of_error hn] at h
        cases h
      | ok state' =>
        rw [advance_of_ok hn] at h
        cases h

theorem advance_eq_none_of_raised {exc : PyExc} (h : p.place = .raised exc) :
    advance runtime p = none := by
  unfold advance
  rw [h]

end Advance

end SthBoring.AgentLoop.GraphBuilder
