/- Module: SthBoring/AgentLoop/ReplanFeedback
   source: sdk_test_agent/agent_loop/nodes.py, graph_builder.py
   digest: What the planner of the next iteration is told about the last one. -/

import SthBoring.AgentLoop.BoundedReplanning

set_option autoImplicit false
set_option relaxedAutoImplicit false

namespace SthBoring.AgentLoop.ReplanFeedback

universe u

open SthBoring.Lib.Effect (Computation)
open SthBoring.Lib.PyValue (Value Fields PyExc)
open SthBoring.Lib.Walk (walk walk_succ)
open SthBoring.Capability.CapabilityModels
open SthBoring.Capability.Panel (CapabilityPanel buildSnapshot optionalText)
open SthBoring.Capability.SchemaRenderers (renderCapabilitiesForPrompt)
open SthBoring.AgentLoop.LoopModels
open SthBoring.AgentLoop.Nodes
open SthBoring.AgentLoop.GraphBuilder

variable {σ : Type u}

/-- What the planner is told of the capabilities. -/
structure Offer where
  prompt : String
  snapshotId : Option String
  digest : Option String
  availableStepKinds : List String

def told (state : SdkAgentState) : Offer where
  prompt := state.capabilityPrompt.getD ""
  snapshotId := state.capabilitySnapshotId
  digest := state.capabilityDigest
  availableStepKinds := match state.capabilitySnapshot with
    | some snapshot => snapshot.availableStepKinds
    | none => []

/-- The input that `plan_node` builds of its state, when it is told this. -/
def plannerInput (state : SdkAgentState) (o : Offer) : Option PlannerInput := do
  let taskId ← state.taskId
  let taskType ← state.taskType
  let goal ← state.userGoal
  return { baseContext :=
             { taskId := taskId, taskType := taskType, goal := goal
               availableCapabilities := o.availableStepKinds }
           llmContext := some
             { userInstructionRaw := goal
               extraPromptVars := [("capability_context", .str o.prompt),
                 ("capability_snapshot_id", optionalText o.snapshotId),
                 ("capability_digest", optionalText o.digest)] } }

/-- The planner is asked with that input and learns nothing else of the state. -/
theorem planNode_of_plannerInput {state : SdkAgentState} {input : PlannerInput}
    (built : plannerInput state (told state) = some input) (runtime : SdkRuntimeContext σ) :
    planNode state runtime = (do
      let draft ← runtime.planner input
      return { state with draftPlan := some draft }) := by
  unfold plannerInput at built
  unfold planNode
  cases taskId : state.taskId with
  | none => rw [taskId] at built; cases built
  | some i =>
    cases taskType : state.taskType with
    | none => rw [taskId, taskType] at built; cases built
    | some t =>
      cases goal : state.userGoal with
      | none => rw [taskId, taskType, goal] at built; cases built
      | some g =>
        rw [taskId, taskType, goal] at built
        cases built
        rfl

/-- From `replan_context` on, the input of the planner in the next iteration. -/
def nextPlannerInput (runtime : SdkRuntimeContext σ) (state : SdkAgentState) (w : σ) :
    Option PlannerInput :=
  (walk (advance runtime) ⟨.before .replanContext, state, w⟩ 3).bind fun position =>
    if position.place = .before .plan then plannerInput position.state (told position.state)
    else none

section Feedback

/-- The decision of the checker without its reason and hint. -/
def plainDecision (decision : TaskCheckDecision) : TaskCheckDecision :=
  { decision with reason := "", replanHint := none }

/-- The state without anything that says why to replan. -/
def withoutFeedback (state : SdkAgentState) : SdkAgentState :=
  { state with
    taskCheckDecision := state.taskCheckDecision.map plainDecision
    replanRequest := none
    executionResult := state.executionResult.map
      (fun result => { result with replanRequest := none }) }

/-- The two states differ at most in what says why to replan. -/
def SameButFeedback (s s' : SdkAgentState) : Prop := withoutFeedback s = withoutFeedback s'

/-- The check is done, and the loop goes on to replan. -/
structure EntersReplan (state : SdkAgentState) : Prop where
  taskId : state.taskId.isSome
  taskType : state.taskType.isSome
  userGoal : state.userGoal.isSome
  route : routeAfterTaskCheck state = .replanContext

/-- Both planners get an input, and the two inputs differ. -/
def ToldApart (runtime : SdkRuntimeContext σ) (s s' : SdkAgentState) (w : σ) : Prop :=
  ∃ input input', nextPlannerInput runtime s w = some input ∧
    nextPlannerInput runtime s' w = some input' ∧ input ≠ input'

/-- The state behind `replan_context`. -/
def counted (state : SdkAgentState) : SdkAgentState :=
  { state with
    iteration := some (iterationOf state + 1)
    replanRequest := some
      { reason := replanReason state.taskCheckDecision
        fromIteration := iterationOf state + 1 - 1 } }

/-- The snapshot that is resolved in a state, with its rendering. -/
def resolve (runtime : SdkRuntimeContext σ) (state : SdkAgentState) :
    Computation σ PyExc (CapabilitySnapshot × String) := do
  let capInput ← capabilityInput state runtime
  let hex ← draw runtime.uuidHex
  let snapshot := buildSnapshot runtime.capabilityPanel capInput hex
  let prompt ← Computation.lift (renderCapabilitiesForPrompt snapshot)
  return (snapshot, prompt)

def offer (resolved : CapabilitySnapshot × String) : Offer where
  prompt := resolved.2
  snapshotId := some resolved.1.snapshotId
  digest := some resolved.1.capabilityDigest
  availableStepKinds := resolved.1.availableStepKinds

/-- A factory of capability inputs is configured, and what it makes of the two states resolves to
different offers. -/
def FactoryTellsApart (runtime : SdkRuntimeContext σ) (s s' : SdkAgentState) (w : σ) : Prop :=
  runtime.metadata.capabilityInputFactory.isSome ∧
    ∃ r r' v v', resolve runtime (counted s) w = (.ok r, v) ∧
      resolve runtime (counted s') w = (.ok r', v') ∧ offer r ≠ offer r'

end Feedback

section Flow

variable {runtime : SdkRuntimeContext σ} {s s' : SdkAgentState} {w : σ}

def withCapabilities (s : SdkAgentState) (resolved : CapabilitySnapshot × String) : SdkAgentState :=
  { s with
    capabilitySnapshotId := some resolved.1.snapshotId
    capabilityDigest := some resolved.1.capabilityDigest
    capabilityPrompt := some resolved.2
    capabilitySnapshot := some resolved.1 }

private theorem capabilityResolveNode_eq (runtime : SdkRuntimeContext σ) (s : SdkAgentState) :
    capabilityResolveNode s runtime = (do
      let resolved ← resolve runtime s
      return withCapabilities s resolved) := by
  simp only [resolve, capabilityResolveNode, withCapabilities, bind_assoc, pure_bind]

private theorem walk_counted (runtime : SdkRuntimeContext σ) (s : SdkAgentState) (w : σ) :
    walk (advance runtime) ⟨.before .replanContext, s, w⟩ 1 =
      some ⟨.before .capabilityResolve, counted s, w⟩ := rfl

/-- On its way to the planner the state gains the offer, and keeps the planner's other keys. -/
theorem nextPlannerInput_of_resolved {resolved : CapabilitySnapshot × String} {v : σ}
    (h : resolve runtime (counted s) w = (.ok resolved, v)) :
    nextPlannerInput runtime s w = plannerInput s (offer resolved) := by
  have node : nodes .capabilityResolve (counted s) runtime w =
      (.ok (withCapabilities (counted s) resolved), v) :=
    (congrFun (capabilityResolveNode_eq runtime (counted s)) w).trans (Computation.bind_of_ok h _)
  have second := (walk_succ (walk_counted runtime s w)).trans (advance_of_ok node)
  have third := walk_succ second
  unfold nextPlannerInput
  rw [third]
  rfl

/-- Where no snapshot can be resolved, the walk ends before the planner. -/
theorem nextPlannerInput_of_raised {exc : PyExc} {v : σ}
    (h : resolve runtime (counted s) w = (.error exc, v)) : nextPlannerInput runtime s w = none := by
  have node : nodes .capabilityResolve (counted s) runtime w = (.error exc, v) :=
    (congrFun (capabilityResolveNode_eq runtime (counted s)) w).trans
      (Computation.bind_of_error h _)
  have second := (walk_succ (walk_counted runtime s w)).trans (advance_of_error node)
  have third := walk_succ second
  unfold nextPlannerInput
  rw [third]
  rfl

theorem optionalText_injective {a b : Option String} (h : optionalText a = optionalText b) :
    a = b := by
  cases a <;> cases b <;> cases h <;> rfl

/-- What the planner is told can be read off its input. -/
theorem plannerInput_injective {o o' : Offer} {input : PlannerInput}
    (h : plannerInput s o = some input) (h' : plannerInput s o' = some input) : o = o' := by
  unfold plannerInput at h h'
  simp only [Option.bind_eq_bind, Option.bind_eq_some_iff, Option.pure_def, Option.some.injEq] at h h'
  obtain ⟨taskId, -, taskType, -, goal, -, rfl⟩ := h
  obtain ⟨taskId', -, taskType', -, goal', -, same⟩ := h'
  simp only [PlannerInput.mk.injEq, PlanContextBase.mk.injEq, LlmPlanningContext.mk.injEq,
    Option.some.injEq, List.cons.injEq, Prod.mk.injEq, Value.str.injEq, true_and, and_true] at same
  obtain ⟨⟨-, -, -, kinds⟩, -, prompt, snapshotId, digest⟩ := same
  have snapshotId' := optionalText_injective snapshotId
  have digest' := optionalText_injective digest
  cases o
  cases o'
  simp_all only

/-- The keys that are read on the way to the planner are not among those that differ. -/
theorem SameButFeedback.keys (same : SameButFeedback s s') :
    s.taskId = s'.taskId ∧ s.taskType = s'.taskType ∧ s.userGoal = s'.userGoal ∧
      s.availableContextKeys = s'.availableContextKeys := by
  have plain : withoutFeedback s = withoutFeedback s' := same
  simp only [withoutFeedback, SdkAgentState.mk.injEq] at plain
  tauto

theorem plannerInput_same (same : SameButFeedback s s') (o : Offer) :
    plannerInput s o = plannerInput s' o := by
  obtain ⟨taskId, taskType, goal, -⟩ := same.keys
  simp only [plannerInput, taskId, taskType, goal]

/-- Without a factory, nothing that is fed back changes what is resolved. -/
theorem resolve_same (same : SameButFeedback s s')
    (plain : runtime.metadata.capabilityInputFactory = none) :
    resolve runtime (counted s) = resolve runtime (counted s') := by
  obtain ⟨taskId, taskType, -, keys⟩ := same.keys
  simp only [resolve, capabilityInput, plain, defaultCapabilityInput, counted, taskId, taskType,
    keys]

theorem EntersReplan.plannerInput_isSome (enters : EntersReplan s) (o : Offer) :
    ∃ input, plannerInput s o = some input := by
  obtain ⟨taskId, hi⟩ := Option.isSome_iff_exists.mp enters.taskId
  obtain ⟨taskType, ht⟩ := Option.isSome_iff_exists.mp enters.taskType
  obtain ⟨goal, hg⟩ := Option.isSome_iff_exists.mp enters.userGoal
  simp only [plannerInput, hi, ht, hg]
  exact ⟨_, rfl⟩

theorem resolved_of_nextPlannerInput {input : PlannerInput}
    (h : nextPlannerInput runtime s w = some input) :
    ∃ r v, resolve runtime (counted s) w = (.ok r, v) ∧ plannerInput s (offer r) = some input := by
  rcases resolved : resolve runtime (counted s) w with ⟨exc | r, v⟩
  · rw [nextPlannerInput_of_raised resolved] at h
    cases h
  · rw [nextPlannerInput_of_resolved resolved] at h
    exact ⟨r, v, rfl, h⟩

/-- Without a factory the planner gets the same input again. -/
theorem nextPlannerInput_same (same : SameButFeedback s s')
    (plain : runtime.metadata.capabilityInputFactory = none) :
    nextPlannerInput runtime s w = nextPlannerInput runtime s' w := by
  have resolves := resolve_same same plain
  rcases resolved : resolve runtime (counted s) w with ⟨exc | r, v⟩
  · rw [nextPlannerInput_of_raised resolved, nextPlannerInput_of_raised (resolves ▸ resolved)]
  · rw [nextPlannerInput_of_resolved resolved, nextPlannerInput_of_resolved (resolves ▸ resolved),
      plannerInput_same same]

end Flow

/-- Two states that differ in why to replan give the planner different inputs if and only if a
factory of capability inputs passes the difference on. -/
theorem replan_feedback {runtime : SdkRuntimeContext σ} {s s' : SdkAgentState} {w : σ}
    (enters : EntersReplan s) (same : SameButFeedback s s') :
    ToldApart runtime s s' w ↔ FactoryTellsApart runtime s s' w := by
  constructor
  · rintro ⟨input, input', h, h', differ⟩
    obtain ⟨r, v, resolved, built⟩ := resolved_of_nextPlannerInput h
    obtain ⟨r', v', resolved', built'⟩ := resolved_of_nextPlannerInput h'
    have offers : offer r ≠ offer r' := by
      intro equal
      rw [← plannerInput_same same, ← equal, built] at built'
      exact differ (Option.some.inj built')
    refine ⟨?_, r, r', v, v', resolved, resolved', offers⟩
    by_contra plain
    rw [← resolve_same same (Option.not_isSome_iff_eq_none.mp plain), resolved] at resolved'
    cases resolved'
    exact offers rfl
  · rintro ⟨-, r, r', v, v', resolved, resolved', offers⟩
    obtain ⟨input, built⟩ := enters.plannerInput_isSome (offer r)
    obtain ⟨input', built'⟩ := enters.plannerInput_isSome (offer r')
    refine ⟨input, input', (nextPlannerInput_of_resolved resolved).trans built,
      (nextPlannerInput_of_resolved resolved').trans
        ((plannerInput_same same (offer r')).symm.trans built'), ?_⟩
    rintro rfl
    exact offers (plannerInput_injective built built')

section Examples

open SthBoring.AgentLoop.BoundedReplanning (unreadableRuntime testState)

/-- The test's state behind a check that asks to replan, with a hint. -/
def hinted (hint : String) : SdkAgentState :=
  { testState with
    taskCheckDecision := some
      { loopLevel := "need_replan", route := "replan", confidence := ⟨3 / 5, "0.6"⟩
        reason := "retry", replanHint := some hint } }

/-- The same behind an execution that stopped for a replan. -/
def stopped (reason : String) : SdkAgentState :=
  { hinted "use port 8080" with
    executionResult := some
      { run := { runId := "run_0", taskId := "task_1", planId := "plan_1", status := .waitingReplan }
        status := .waitingReplan
        replanRequest := some { taskId := "task_1", parentPlanId := "plan_1", reason := reason } } }

private theorem hinted_enters (hint : String) : EntersReplan (hinted hint) :=
  ⟨rfl, rfl, rfl, rfl⟩

private theorem stopped_enters (reason : String) : EntersReplan (stopped reason) :=
  ⟨rfl, rfl, rfl, rfl⟩

/-- Neither the hint nor the failure that asked for the replan gets to the planner. -/
theorem feedback_is_lost :
    EntersReplan (hinted "use port 8080") ∧ EntersReplan (hinted "use port 9090") ∧
      SameButFeedback (hinted "use port 8080") (hinted "use port 9090") ∧
      (nextPlannerInput unreadableRuntime (hinted "use port 8080") ()).isSome = true ∧
      nextPlannerInput unreadableRuntime (hinted "use port 8080") () =
        nextPlannerInput unreadableRuntime (hinted "use port 9090") () ∧
      EntersReplan (stopped "port taken") ∧ EntersReplan (stopped "no such image") ∧
      SameButFeedback (stopped "port taken") (stopped "no such image") ∧
      nextPlannerInput unreadableRuntime (stopped "port taken") () =
        nextPlannerInput unreadableRuntime (stopped "no such image") () :=
  ⟨hinted_enters _, hinted_enters _, rfl, by decide +kernel, nextPlannerInput_same rfl rfl,
    stopped_enters _, stopped_enters _, rfl, nextPlannerInput_same rfl rfl⟩

/-- A factory that drops the capability a hint warns of. -/
def heedingRuntime : SdkRuntimeContext Unit :=
  { unreadableRuntime with
    metadata :=
      { capabilityInputFactory := some fun state =>
          pure (some
            { taskId := state.taskId, taskType := state.taskType
              forbiddenCapabilityIds :=
                if state.replanRequest.map (·.reason) = some "do not run tests"
                then ["cap.run_test.v1"] else [] }) } }

private def offeredKinds (hint : String) : Option (List String) :=
  (resolve heedingRuntime (counted (hinted hint)) ()).1.toOption.map (·.1.availableStepKinds)

private theorem resolved_of_offeredKinds {hint : String} {kinds : List String}
    (h : offeredKinds hint = some kinds) :
    ∃ r v, resolve heedingRuntime (counted (hinted hint)) () = (.ok r, v) ∧
      (offer r).availableStepKinds = kinds := by
  unfold offeredKinds at h
  rcases resolved : resolve heedingRuntime (counted (hinted hint)) () with ⟨exc | r, v⟩
  · rw [resolved] at h
    cases h
  · rw [resolved] at h
    exact ⟨r, v, rfl, Option.some.inj h⟩

theorem replan_feedback_heeded :
    ToldApart heedingRuntime (hinted "do not run tests") (hinted "use port 9090") () := by
  have without : offeredKinds "do not run tests" = some [] := by decide +kernel
  have with' : offeredKinds "use port 9090" = some ["run_test"] := by decide +kernel
  obtain ⟨r, v, resolved, none_left⟩ := resolved_of_offeredKinds without
  obtain ⟨r', v', resolved', one_left⟩ := resolved_of_offeredKinds with'
  have same : SameButFeedback (hinted "do not run tests") (hinted "use port 9090") := rfl
  refine (replan_feedback (hinted_enters _) same).mpr ⟨rfl, r, r', v, v', resolved, resolved', ?_⟩
  intro equal
  rw [equal, one_left] at none_left
  cases none_left

end Examples

end SthBoring.AgentLoop.ReplanFeedback
