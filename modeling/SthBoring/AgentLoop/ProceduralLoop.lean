/- Module: SthBoring/AgentLoop/ProceduralLoop
   source: sdk_test_agent/agent_loop/graph_builder.py
   digest: The loop written as a procedure, and the traversal of the graph that it follows. -/

import SthBoring.AgentLoop.GraphBuilder

set_option autoImplicit false
set_option relaxedAutoImplicit false

namespace SthBoring.AgentLoop.ProceduralLoop

universe u

open SthBoring.Lib.Effect (Computation)
open SthBoring.Lib.OrderedDict (assocGet)
open SthBoring.Lib.PyValue (PyExc)
open SthBoring.AgentLoop.LoopModels
open SthBoring.AgentLoop.GraphBuilder

variable {σ : Type u}

section Procedure

/-- The nodes visited so far, and the world they left. -/
structure Tour (σ : Type u) where
  visited : List Node
  world : σ

abbrev Touring (σ : Type u) (α : Type) : Type u := Computation (Tour σ) PyExc α

/-- `s.update(node(s, runtime_context))`. -/
def visit (runtime : SdkRuntimeContext σ) (node : Node) (s : SdkAgentState) :
    Touring σ SdkAgentState := do
  Computation.modify fun tour => { tour with visited := tour.visited ++ [node] }
  Computation.within Tour.world (fun w tour => { tour with world := w }) (nodes node s runtime)

/-- `for fn in (…): s.update(fn(s, runtime_context))`. -/
def visitAll (runtime : SdkRuntimeContext σ) : List Node → SdkAgentState → Touring σ SdkAgentState
  | [], s => pure s
  | node :: rest, s => do
    let s ← visit runtime node s
    visitAll runtime rest s

/-- `terminal = {…}.get(route, fail_node)`. -/
def terminalFor (table : List (Node × Node)) (route : Node) : Node :=
  (assocGet route table).getD .fail

def runAgentLoopOnce (state : SdkAgentState) (runtime : SdkRuntimeContext σ) :
    Touring σ SdkAgentState := do
  let s ← visit runtime .interactionDecision state
  let interactionRoute := routeAfterInteractionDecision s
  if interactionRoute ≠ .envInit then
    let table := [(.directReturn, .directReturn), (.refuseReturn, .refuseReturn),
      (.humanInterrupt, .humanInterrupt)]
    visit runtime (terminalFor table interactionRoute) s
  else
    let s ← visitAll runtime
      [.envInit, .capabilityResolve, .skillSelect, .plan, .finalize, .validate] s
    if routeAfterValidate s ≠ .preflight then visit runtime .fail s
    else
      let s ← visit runtime .preflight s
      if routeAfterPreflight s ≠ .execute then visit runtime .fail s
      else
        let s ← visitAll runtime [.execute, .taskCheck] s
        let table := [(.report, .report), (.replanContext, .replanContext),
          (.humanInterrupt, .humanInterrupt)]
        visit runtime (terminalFor table (routeAfterTaskCheck s)) s

end Procedure

section Traversal

variable {runtime : SdkRuntimeContext σ}

/-- The walk through the graph from a position on, up to its end or up to and including the first
`replan_context`, with the nodes that it visits. -/
inductive Traverses (runtime : SdkRuntimeContext σ) :
    Position σ → List Node → Position σ → Prop where
  | ended (p : Position σ) (stopped : advance runtime p = none) : Traverses runtime p [] p
  | replanned (p q : Position σ) (here : p.place = .before .replanContext)
      (goes : advance runtime p = some q) : Traverses runtime p [.replanContext] q
  | visited (p p' q : Position σ) (node : Node) (rest : List Node) (here : p.place = .before node)
      (other : node ≠ .replanContext) (goes : advance runtime p = some p')
      (later : Traverses runtime p' rest q) : Traverses runtime p (node :: rest) q

/-- There is one such walk. -/
theorem traverses_unique {p q q' : Position σ} {visits visits' : List Node}
    (h : Traverses runtime p visits q) (h' : Traverses runtime p visits' q') :
    visits' = visits ∧ q' = q := by
  induction h generalizing visits' q' with
  | ended p stopped =>
    cases h' with
    | ended _ _ => exact ⟨rfl, rfl⟩
    | replanned _ _ here goes => cases stopped.symm.trans goes
    | visited _ _ _ _ _ here other goes later => cases stopped.symm.trans goes
  | replanned p q here goes =>
    cases h' with
    | ended _ stopped => cases stopped.symm.trans goes
    | replanned _ _ here' goes' => exact ⟨rfl, Option.some.inj (goes'.symm.trans goes)⟩
    | visited _ _ _ node _ here' other _ _ =>
      cases here.symm.trans here'
      exact absurd rfl other
  | visited p p' q node rest here other goes later ih =>
    cases h' with
    | ended _ stopped => cases stopped.symm.trans goes
    | replanned _ _ here' _ =>
      cases here.symm.trans here'
      exact absurd rfl other
    | visited _ p'' _ node' rest' here' other' goes' later' =>
      cases here.symm.trans here'
      obtain rfl : p'' = p' := Option.some.inj (goes'.symm.trans goes)
      obtain ⟨rfl, rfl⟩ := ih later'
      exact ⟨rfl, rfl⟩

/-- What the procedure ends in, at the position where the walk stops: behind a terminal node or
behind `replan_context` with the same state, or where a node raised. -/
def Agrees (outcome : Except PyExc SdkAgentState) (p : Position σ) : Prop :=
  match outcome with
  | .ok s => p.state = s ∧ ((∃ terminal, p.place = .finished terminal) ∨
      p.place = arrive .replanContext s)
  | .error exc => p.place = .raised exc

/-- From this position on the procedure does what the walk does. -/
def Follows (runtime : SdkRuntimeContext σ) (m : Touring σ SdkAgentState) (p : Position σ) : Prop :=
  ∀ before, ∃ visits q, Traverses runtime p visits q ∧
    (m ⟨before, p.world⟩).2 = ⟨before ++ visits, q.world⟩ ∧ Agrees (m ⟨before, p.world⟩).1 q

variable {node : Node} {s : SdkAgentState} {w : σ}

theorem visit_of_ok {s' : SdkAgentState} {w' : σ} (h : nodes node s runtime w = (.ok s', w'))
    (before : List Node) : visit runtime node s ⟨before, w⟩ = (.ok s', ⟨before ++ [node], w'⟩) := by
  change (((nodes node s runtime w).1, _) : Except PyExc SdkAgentState × Tour σ) = _
  rw [h]

theorem visit_of_error {exc : PyExc} {w' : σ} (h : nodes node s runtime w = (.error exc, w'))
    (before : List Node) :
    visit runtime node s ⟨before, w⟩ = (.error exc, ⟨before ++ [node], w'⟩) := by
  change (((nodes node s runtime w).1, _) : Except PyExc SdkAgentState × Tour σ) = _
  rw [h]

/-- A visit that raises ends the procedure and the walk. -/
private theorem traverses_raised {exc : PyExc} {w' : σ}
    (h : nodes node s runtime w = (.error exc, w')) :
    Traverses runtime ⟨.before node, s, w⟩ [node] ⟨.raised exc, s, w'⟩ := by
  by_cases replan : node = .replanContext
  · rw [replan] at h ⊢
    exact .replanned _ _ rfl (advance_of_error h)
  · exact .visited _ _ _ node [] rfl replan (advance_of_error h) (.ended _ rfl)

/-- A visit in the middle, whose edge leads where the procedure goes on. -/
theorem follows_visit_bind {k : SdkAgentState → Touring σ SdkAgentState}
    (other : node ≠ .replanContext)
    (goes : ∀ s' w', Follows runtime (k s') ⟨arrive node s', s', w'⟩) :
    Follows runtime (visit runtime node s >>= k) ⟨.before node, s, w⟩ := by
  intro before
  rcases h : nodes node s runtime w with ⟨exc | s', w'⟩
  · have ran := visit_of_error h before
    refine ⟨[node], _, traverses_raised h, ?_, ?_⟩
    · rw [Computation.bind_of_error ran]
    · rw [Computation.bind_of_error ran]
      rfl
  · have ran := visit_of_ok h before
    obtain ⟨visits, q, later, tour, agrees⟩ := goes s' w' (before ++ [node])
    refine ⟨node :: visits, q, .visited _ _ q node visits rfl other (advance_of_ok h) later, ?_, ?_⟩
    · rw [Computation.bind_of_ok ran, tour, List.append_assoc]
      rfl
    · rw [Computation.bind_of_ok ran]
      exact agrees

/-- The last visit: of a terminal node, or of `replan_context`. -/
theorem follows_visit_last
    (last : node = .replanContext ∨ ∀ s', edge node s' = none) :
    Follows runtime (visit runtime node s) ⟨.before node, s, w⟩ := by
  intro before
  rcases h : nodes node s runtime w with ⟨exc | s', w'⟩
  · refine ⟨[node], _, traverses_raised h, ?_, ?_⟩
    · rw [visit_of_error h]
    · rw [visit_of_error h]
      rfl
  · have ran := visit_of_ok h before
    refine ⟨[node], ⟨arrive node s', s', w'⟩, ?_, ?_, ?_⟩
    · rcases last with rfl | terminal
      · exact .replanned _ _ rfl (advance_of_ok h)
      · by_cases replan : node = .replanContext
        · cases replan
          cases terminal s'
        · refine .visited _ _ _ node [] rfl replan (advance_of_ok h) (.ended _ ?_)
          rw [arrive, terminal s']
          rfl
    · rw [ran]
    · rw [ran]
      refine ⟨rfl, ?_⟩
      rcases last with rfl | terminal
      · exact .inr rfl
      · refine .inl ⟨node, ?_⟩
        dsimp only
        rw [arrive, terminal s']

/-- Plain edges join the nodes, up to the last one. -/
def Chained : List Node → Node → Prop
  | [], _ => False
  | [node], last => node = last ∧ node ≠ .replanContext
  | node :: next :: rest, last =>
    node ≠ .replanContext ∧ (∀ s, edge node s = some next) ∧ Chained (next :: rest) last

theorem follows_visitAll_bind {last : Node} {rest : List Node} (chain : Chained (node :: rest) last)
    {k : SdkAgentState → Touring σ SdkAgentState}
    (goes : ∀ s' w', Follows runtime (k s') ⟨arrive last s', s', w'⟩) :
    Follows runtime (visitAll runtime (node :: rest) s >>= k) ⟨.before node, s, w⟩ := by
  induction rest generalizing node s w with
  | nil =>
    obtain ⟨rfl, other⟩ := chain
    simp only [visitAll, bind_pure]
    exact follows_visit_bind other goes
  | cons next rest ih =>
    obtain ⟨other, along, chain⟩ := chain
    rw [visitAll, bind_assoc]
    refine follows_visit_bind other (fun s' w' => ?_)
    rw [arrive, along s']
    exact ih chain

end Traversal

section Claim

variable (runtime : SdkRuntimeContext σ)

theorem edge_of_no_successors {node : Node} (terminal : successors node = []) (s : SdkAgentState) :
    edge node s = none := by
  cases along : edge node s with
  | none => rfl
  | some next =>
    have led := mem_successors along
    rw [terminal] at led
    cases led

/-- The first dictionary has the terminals that the first route can lead to. -/
theorem follows_answer {s : SdkAgentState} (w : σ)
    (other : routeAfterInteractionDecision s ≠ .envInit) :
    Follows runtime (visit runtime (terminalFor [(.directReturn, .directReturn),
        (.refuseReturn, .refuseReturn), (.humanInterrupt, .humanInterrupt)]
        (routeAfterInteractionDecision s)) s)
      ⟨.before (routeAfterInteractionDecision s), s, w⟩ := by
  have table : ∀ route ∈ successors .interactionDecision, route ≠ .envInit →
      terminalFor [(.directReturn, .directReturn), (.refuseReturn, .refuseReturn),
        (.humanInterrupt, .humanInterrupt)] route = route ∧ successors route = [] := by
    decide
  obtain ⟨same, terminal⟩ := table _ (mem_successors (show edge _ s = some _ from rfl)) other
  rw [same]
  exact follows_visit_last (.inr (edge_of_no_successors terminal))

/-- The second has the ends that the last route can lead to, `replan_context` among them. -/
theorem follows_verdict (s : SdkAgentState) (w : σ) :
    Follows runtime (visit runtime (terminalFor [(.report, .report),
        (.replanContext, .replanContext), (.humanInterrupt, .humanInterrupt)]
        (routeAfterTaskCheck s)) s)
      ⟨.before (routeAfterTaskCheck s), s, w⟩ := by
  have table : ∀ route ∈ successors .taskCheck,
      terminalFor [(.report, .report), (.replanContext, .replanContext),
        (.humanInterrupt, .humanInterrupt)] route = route ∧
      (route = .replanContext ∨ successors route = []) := by
    decide
  obtain ⟨same, last⟩ := table _ (mem_successors (show edge _ s = some _ from rfl))
  rw [same]
  exact follows_visit_last (last.imp id edge_of_no_successors)

theorem follows_fail (s : SdkAgentState) (w : σ) :
    Follows runtime (visit runtime .fail s) ⟨.before .fail, s, w⟩ :=
  follows_visit_last (.inr fun _ => rfl)

/-- A check leads on, or to the failure. -/
theorem eq_fail_of_edge {node good next : Node} {s : SdkAgentState}
    (along : edge node s = some next) (checks : successors node = [good, .fail])
    (ne : next ≠ good) : next = .fail := by
  have led := mem_successors along
  rw [checks] at led
  simpa [ne] using led

/-- From `preflight` on. -/
theorem follows_execution (s : SdkAgentState) (w : σ) :
    Follows runtime (do
        let s ← visit runtime .preflight s
        if routeAfterPreflight s ≠ .execute then visit runtime .fail s
        else
          let s ← visitAll runtime [.execute, .taskCheck] s
          visit runtime (terminalFor [(.report, .report), (.replanContext, .replanContext),
            (.humanInterrupt, .humanInterrupt)] (routeAfterTaskCheck s)) s)
      ⟨.before .preflight, s, w⟩ := by
  refine follows_visit_bind nofun (fun s w => ?_)
  have leads : arrive .preflight s = .before (routeAfterPreflight s) := rfl
  rw [leads]
  by_cases passed : routeAfterPreflight s = .execute
  · rw [if_neg (not_not.mpr passed), passed]
    have chain : Chained [.execute, .taskCheck] .taskCheck := ⟨nofun, fun _ => rfl, rfl, nofun⟩
    exact follows_visitAll_bind chain (follows_verdict runtime)
  · have failed : routeAfterPreflight s = .fail :=
      eq_fail_of_edge (show edge .preflight s = some _ from rfl) rfl passed
    rw [if_pos passed, failed]
    exact follows_fail runtime s w

theorem runAgentLoopOnce_follows (state : SdkAgentState) (w : σ) :
    Follows runtime (runAgentLoopOnce state runtime) (startPosition state w) := by
  refine follows_visit_bind nofun (fun s w => ?_)
  have leads : arrive .interactionDecision s = .before (routeAfterInteractionDecision s) := rfl
  rw [leads]
  dsimp only
  by_cases planned : routeAfterInteractionDecision s = .envInit
  · rw [if_neg (not_not.mpr planned), planned]
    have chain : Chained [.envInit, .capabilityResolve, .skillSelect, .plan, .finalize, .validate]
        .validate :=
      ⟨nofun, fun _ => rfl, nofun, fun _ => rfl, nofun, fun _ => rfl, nofun, fun _ => rfl, nofun,
        fun _ => rfl, rfl, nofun⟩
    refine follows_visitAll_bind chain (fun s w => ?_)
    have leads : arrive .validate s = .before (routeAfterValidate s) := rfl
    rw [leads]
    by_cases valid : routeAfterValidate s = .preflight
    · rw [if_neg (not_not.mpr valid), valid]
      exact follows_execution runtime s w
    · have failed : routeAfterValidate s = .fail :=
        eq_fail_of_edge (show edge .validate s = some _ from rfl) rfl valid
      rw [if_pos valid, failed]
      exact follows_fail runtime s w
  · rw [if_pos planned]
    exact follows_answer runtime w planned

/-- The procedure visits the nodes that the one traversal of the graph visits, in that order, leaves
the same world, and ends with the same state or at the node that raised. -/
theorem procedural_refines_graph (state : SdkAgentState) (w : σ) :
    ∃ visits q, (∀ visits' q', Traverses runtime (startPosition state w) visits' q' ↔
        visits' = visits ∧ q' = q) ∧
      (runAgentLoopOnce state runtime ⟨[], w⟩).2 = ⟨visits, q.world⟩ ∧
      Agrees (runAgentLoopOnce state runtime ⟨[], w⟩).1 q := by
  obtain ⟨visits, q, traverses, tour, agrees⟩ := runAgentLoopOnce_follows runtime state w []
  refine ⟨visits, q, fun visits' q' => ⟨traverses_unique traverses, ?_⟩, tour, agrees⟩
  rintro ⟨rfl, rfl⟩
  exact traverses

end Claim

end SthBoring.AgentLoop.ProceduralLoop
