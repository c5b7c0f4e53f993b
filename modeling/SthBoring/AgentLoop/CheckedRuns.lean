/- Module: SthBoring/AgentLoop/CheckedRuns
   source: sdk_test_agent/agent_loop/task_check.py, graph_builder.py, nodes.py
   digest: A loop whose checker asks a model goes where the answers of the model send it. -/

import SthBoring.AgentLoop.AdmittedExecutions
import SthBoring.AgentLoop.TaskChecks

set_option autoImplicit false
set_option relaxedAutoImplicit false

namespace SthBoring.AgentLoop.CheckedRuns

universe u

open SthBoring.Lib.Effect (Computation)
open SthBoring.Lib.PyValue (Value PyExc)
open SthBoring.Lib.Walk
open SthBoring.Llm.LlmModels (LlmRequest)
open SthBoring.Execution.Models (ExecutionRunResult)
open SthBoring.Plan.Models (ExecutionPlan)
open SthBoring.Plan.PlanMemory (asdict)
open SthBoring.Plan.PlanObjects (planObj)
open SthBoring.AgentLoop.LoopModels
open SthBoring.AgentLoop.Nodes
open SthBoring.AgentLoop.GraphBuilder
open SthBoring.AgentLoop.InteractionDecider (JsonResponse isText isText_iff)
open SthBoring.AgentLoop.AdmittedExecutions
open SthBoring.AgentLoop.TaskChecks (FloatReader LlmTaskChecker buildPrompt check_of_ok
  check_of_error decisionOn readDecision requestOf unreadable)

variable {σ : Type u}

section Shown

/-- A text as it is. What is no text stands in parentheses, and is no route. -/
def shownText : Value → String
  | .str s => s
  | v => "(" ++ v.text ++ ")"

/-- A text or nothing. What is neither stays as true as it was. -/
def shownHint : Value → Option String
  | .null => none
  | .str s => some s
  | v => some (if v.truthy then shownText v else "")

/-- A decision as the state of the loop holds it. -/
def shown (decision : TaskChecks.TaskCheckDecision) : TaskCheckDecision where
  loopLevel := shownText decision.loopLevel
  route := shownText decision.route
  confidence := decision.confidence
  reason := decision.reason
  evidenceRefs := decision.evidenceRefs.map shownText
  evidenceSummary := shownHint decision.evidenceSummary
  replanHint := shownHint decision.replanHint
  inputRequest := shownHint decision.inputRequest
  humanMessage := shownHint decision.humanMessage
  metadata := decision.metadata

variable (reader : FloatReader) (checker : LlmTaskChecker σ) (runtime : SdkRuntimeContext σ)

/-- The checker as the node calls it. -/
def checking (request : TaskCheckRequest) : Computation σ PyExc TaskCheckDecision := do
  let decision ← checker.check reader (requestOf request)
  return shown decision

/-- A runtime whose checker asks a model. -/
def asking : SdkRuntimeContext σ := { runtime with taskChecker := checking reader checker }

end Shown

section Spec

/-- Where a decision sends the loop. -/
def destination (decision : TaskChecks.TaskCheckDecision) : Node :=
  if isText "end" decision.route then .report
  else if isText "replan" decision.route then .replanContext
  else if isText "human_interrupt" decision.route then .humanInterrupt
  else .fail

variable (reader : FloatReader) (checker : LlmTaskChecker σ) (runtime : SdkRuntimeContext σ)
  (start : Position σ)

/-- The call of the model for a request of the loop. -/
def called (request : TaskCheckRequest) : Computation σ PyExc JsonResponse :=
  checker.llmClient (checker.request (buildPrompt (requestOf request)))

/-- What the answer to a request makes of the check after `n` steps. -/
structure Answered (n : ℕ) (p : Position σ) (request : TaskCheckRequest) : Prop where
  fails : ∀ exc w, called checker request p.world = (.error exc, w) →
    Stands runtime start (n + 1) ⟨.raised exc, p.state, w⟩ (.raised exc)
  follows : ∀ response w, called checker request p.world = (.ok response, w) →
    Stands runtime start (n + 1)
      ⟨.before (destination (decisionOn reader response)),
        { p.state with taskCheckDecision := some (shown (decisionOn reader response)) }, w⟩
      (.before (destination (decisionOn reader response)))

/-- A check after `n` steps. The model is asked once, about the plan that was admitted in this round
and about what came of its execution, and its answer says where the loop goes. -/
def Judged (n : ℕ) (p : Position σ) : Prop :=
  ∃ q plan taskId result request, Stands runtime start (n - 1) q (.before .execute) ∧
    Admitted runtime start (n - 1) q plan ∧
    runtime.executionEngine plan (executionContext q.state runtime taskId (runIdOf q.state)) q.world =
      (.ok result, p.world) ∧
    request.plan = some plan ∧ request.executionResult = some result ∧
    request.iteration = iterationOf p.state ∧ Answered reader checker runtime start n p request

/-- No answer of the model can be read. -/
def Unread : Prop :=
  ∀ request s s' response, checker.llmClient request s = (.ok response, s') →
    ∀ decision, readDecision reader response ≠ .ok decision

/-- What the answers of the model make of a walk. -/
structure Led : Prop where
  judged : ∀ n p, Stands runtime start n p (.before .taskCheck) → Judged reader checker runtime start n p
  reported : ∀ n p, Stands runtime start n p (.finished .report) →
    ∃ q request response decision w, Stands runtime start (n - 2) q (.before .taskCheck) ∧
      called checker request q.world = (.ok response, w) ∧
      readDecision reader response = .ok decision ∧ decision.route = .str "end"
  unreported : Unread reader checker → ∀ n p, ¬ Stands runtime start n p (.finished .report)
  unread : Unread reader checker → ∀ n p p' place, Stands runtime start n p (.before .taskCheck) →
    Stands runtime start (n + 1) p' place →
      place = .before .replanContext ∨ ∃ exc, place = .raised exc

end Spec

section Routes

theorem shownText_eq_iff {text : String} (route : text.toList.head? ≠ some '(') {v : Value} :
    shownText v = text ↔ v = .str text := by
  constructor
  · rintro rfl
    cases v with
    | str s => rfl
    | _ => simp [shownText] at route
  · rintro rfl
    rfl

theorem routeAfterTaskCheck_shown {s : SdkAgentState} {decision : TaskChecks.TaskCheckDecision}
    (held : s.taskCheckDecision = some (shown decision)) :
    routeAfterTaskCheck s = destination decision := by
  have ends : (shown decision).route = "end" ↔ isText "end" decision.route = true :=
    (shownText_eq_iff (by decide)).trans isText_iff.symm
  have replans : (shown decision).route = "replan" ↔ isText "replan" decision.route = true :=
    (shownText_eq_iff (by decide)).trans isText_iff.symm
  have interrupts : (shown decision).route = "human_interrupt" ↔
      isText "human_interrupt" decision.route = true :=
    (shownText_eq_iff (by decide)).trans isText_iff.symm
  rw [routeAfterTaskCheck, held, destination]
  simp only [ends, replans, interrupts]

variable {reader : FloatReader}

/-- What cannot be read is no decision to end. -/
theorem read_of_end {response : JsonResponse}
    (ends : (decisionOn reader response).route = .str "end") :
    ∃ decision, readDecision reader response = .ok decision ∧ decision.route = .str "end" := by
  unfold decisionOn at ends
  cases read : readDecision reader response with
  | ok decision =>
    rw [read] at ends
    exact ⟨decision, rfl, ends⟩
  | error exc =>
    rw [read] at ends
    exact absurd (Value.str.inj ends) (by decide)

theorem decisionOn_of_unread {response : JsonResponse}
    (unread : ∀ decision, readDecision reader response ≠ .ok decision) :
    decisionOn reader response = unreadable := by
  unfold decisionOn
  cases read : readDecision reader response with
  | ok decision => exact absurd read (unread decision)
  | error exc => rfl

end Routes

section Nodes

variable {reader : FloatReader} {checker : LlmTaskChecker σ} {runtime : SdkRuntimeContext σ}
  {s s' : SdkAgentState} {w w' : σ}

/-- The state says which task it is. -/
def Known (s : SdkAgentState) : Prop :=
  ∃ taskId taskType userGoal,
    s.taskId = some taskId ∧ s.taskType = some taskType ∧ s.userGoal = some userGoal

theorem checking_of_ok {request : TaskCheckRequest} {response : JsonResponse}
    (answered : called checker request w = (.ok response, w')) :
    checking reader checker request w = (.ok (shown (decisionOn reader response)), w') := by
  rw [checking]
  exact Computation.bind_of_ok (check_of_ok answered) _

theorem checking_of_error {request : TaskCheckRequest} {exc : PyExc}
    (failed : called checker request w = (.error exc, w')) :
    checking reader checker request w = (.error exc, w') := by
  rw [checking]
  exact Computation.bind_of_error (check_of_error failed) _

theorem checking_ok {request : TaskCheckRequest} {decision : TaskCheckDecision}
    (h : checking reader checker request w = (.ok decision, w')) :
    ∃ response, called checker request w = (.ok response, w') ∧
      decision = shown (decisionOn reader response) := by
  rcases outcome : called checker request w with ⟨exc | response, v⟩
  · rw [checking_of_error outcome] at h
    cases h
  · rw [checking_of_ok outcome] at h
    cases h
    exact ⟨response, rfl, rfl⟩

/-- The planner is asked only for a task that is known. -/
theorem planNode_known (h : planNode s runtime w = (.ok s', w')) : Known s := by
  obtain ⟨taskId, v, first, h⟩ := Computation.ok_of_bind h
  obtain ⟨taskType, v', second, h⟩ := Computation.ok_of_bind h
  obtain ⟨userGoal, v'', third, h⟩ := Computation.ok_of_bind h
  exact ⟨taskId, taskType, userGoal, (required_ok first).1, (required_ok second).1,
    (required_ok third).1⟩

/-- The check of a task that is known is one call of the model. -/
theorem taskCheckNode_called (reader : FloatReader) (checker : LlmTaskChecker σ)
    (runtime : SdkRuntimeContext σ) (known : Known s) :
    ∃ request : TaskCheckRequest, request.plan = s.plan ∧
      request.executionResult = s.executionResult ∧ request.iteration = iterationOf s ∧
      taskCheckNode s (asking reader checker runtime) = (do
        let decision ← checking reader checker request
        return { s with taskCheckDecision := some decision }) := by
  obtain ⟨taskId, taskType, userGoal, named, typed, wanted⟩ := known
  refine ⟨{ taskId := taskId, taskType := taskType, userGoal := userGoal
            iteration := iterationOf s, plan := s.plan, executionResult := s.executionResult
            capabilitySnapshotId := s.capabilitySnapshotId
            capabilityDigest := s.capabilityDigest, artifactRefs := s.artifactRefs.getD [] },
    rfl, rfl, rfl, ?_⟩
  rw [taskCheckNode, named, typed, wanted]
  rfl

end Nodes

section Walks

variable {reader : FloatReader} {checker : LlmTaskChecker σ} {runtime : SdkRuntimeContext σ}
  {state : SdkAgentState} {w : σ} {n : ℕ} {p : Position σ}

/-- What is checked is a task that is known. -/
theorem task_known (stands : Stands runtime (startPosition state w) n p (.before .taskCheck)) :
    Known p.state := by
  obtain ⟨_, q, rfl, executes, ran, -⟩ :=
    arrived_by .execute stands (by decide) (fun other => by cases other <;> decide)
  obtain ⟨m, q₁, q₂, q₃, q₄, q₅, q₆, -, round⟩ := round_of_execute executes
  obtain ⟨_, _, _, -, -, -, executed⟩ := executeNode_ok ran
  obtain ⟨_, _, -, -, flown⟩ := preflightNode_ok round.preflighted
  obtain ⟨_, _, _, -, -, judged⟩ := validateNode_ok round.validated
  obtain ⟨_, _, -, -, finalized⟩ := finalizeNode_ok round.finalized
  obtain ⟨_, _, -, drafted⟩ := planNode_ok round.planned
  have planned : Known q₄.state := drafted ▸ planNode_known round.planned
  have made : Known q₅.state := finalized ▸ planned
  have checked : Known q₆.state := judged ▸ made
  have ready : Known q.state := flown ▸ checked
  exact executed ▸ ready

theorem next_of_ok {node : Node} {s' : SdkAgentState} {w' : σ}
    (stands : Stands runtime (startPosition state w) n p (.before node))
    (ran : nodes node p.state runtime p.world = (.ok s', w')) :
    Stands runtime (startPosition state w) (n + 1) ⟨arrive node s', s', w'⟩ (arrive node s') := by
  obtain ⟨place, s, v⟩ := p
  obtain ⟨reached, here⟩ := stands
  cases here
  exact ⟨(walk_succ reached).trans (advance_of_ok ran), rfl⟩

theorem next_of_error {node : Node} {exc : PyExc} {w' : σ}
    (stands : Stands runtime (startPosition state w) n p (.before node))
    (ran : nodes node p.state runtime p.world = (.error exc, w')) :
    Stands runtime (startPosition state w) (n + 1) ⟨.raised exc, p.state, w'⟩ (.raised exc) := by
  obtain ⟨place, s, v⟩ := p
  obtain ⟨reached, here⟩ := stands
  cases here
  exact ⟨(walk_succ reached).trans (advance_of_error ran), rfl⟩

theorem judged
    (stands : Stands (asking reader checker runtime) (startPosition state w) n p (.before .taskCheck)) :
    Judged reader checker (asking reader checker runtime) (startPosition state w) n p := by
  obtain ⟨request, planned, resulted, counted, node⟩ :=
    taskCheckNode_called reader checker runtime (task_known stands)
  obtain ⟨m, q, rfl, executes, ran, -⟩ :=
    arrived_by .execute stands (by decide) (fun other => by cases other <;> decide)
  obtain ⟨-, plan, -, -, admission⟩ := admitted executes
  obtain ⟨plan', taskId', result, carried, -, ended, executed⟩ := executeNode_ok ran
  rw [admission.carried] at carried
  cases carried
  rw [executed] at planned resulted
  refine ⟨q, plan, taskId', result, request, executes, admission, ended,
    planned.trans admission.carried, resulted, counted, ⟨?_, ?_⟩⟩
  · intro exc v failed
    refine next_of_error stands ?_
    rw [nodes, node]
    exact Computation.bind_of_error (checking_of_error failed) _
  · intro response v answered
    have place : arrive .taskCheck
        { p.state with taskCheckDecision := some (shown (decisionOn reader response)) } =
          .before (destination (decisionOn reader response)) :=
      congrArg Place.before (routeAfterTaskCheck_shown rfl)
    rw [← place]
    refine next_of_ok stands ?_
    rw [nodes, node]
    exact Computation.bind_of_ok (checking_of_ok answered) _

theorem reported
    (stands : Stands (asking reader checker runtime) (startPosition state w) n p (.finished .report)) :
    ∃ q request response decision w', Stands (asking reader checker runtime) (startPosition state w)
        (n - 2) q (.before .taskCheck) ∧ called checker request q.world = (.ok response, w') ∧
      readDecision reader response = .ok decision ∧ decision.route = .str "end" := by
  obtain ⟨m, q₂, rfl, at₂, -⟩ := finished_by stands
  obtain ⟨m, q₁, rfl, at₁, ran₁, along₁⟩ :=
    arrived_by .taskCheck at₂ (by decide) (fun other => by cases other <;> decide)
  obtain ⟨request, decision, -, -, asked, checked⟩ := taskCheckNode_ok ran₁
  obtain ⟨decision', found, route⟩ := end_of_routeAfterTaskCheck (Option.some.inj along₁)
  obtain ⟨response, answered, rfl⟩ := checking_ok asked
  rw [checked] at found
  cases found
  obtain ⟨own, read, ends⟩ := read_of_end ((shownText_eq_iff (by decide)).mp route)
  exact ⟨q₁, request, response, own, q₂.world, at₁, answered, read, ends⟩

/-- Where no answer can be read, every check asks for a new plan. -/
theorem replans_of_unread (unread : Unread reader checker) {p' : Position σ} {place : Place}
    (stands : Stands (asking reader checker runtime) (startPosition state w) n p (.before .taskCheck))
    (next : Stands (asking reader checker runtime) (startPosition state w) (n + 1) p' place) :
    place = .before .replanContext ∨ ∃ exc, place = .raised exc := by
  obtain ⟨-, -, -, -, request, -, -, -, -, -, -, answered⟩ := judged stands
  obtain ⟨reached, rfl⟩ := next
  rcases outcome : called checker request p.world with ⟨exc | response, v⟩
  · obtain ⟨there, -⟩ := answered.fails exc v outcome
    cases reached.symm.trans there
    exact .inr ⟨exc, rfl⟩
  · obtain ⟨there, -⟩ := answered.follows response v outcome
    cases reached.symm.trans there
    refine .inl (congrArg Place.before ?_)
    rw [decisionOn_of_unread (unread _ _ _ _ outcome)]
    rfl

/-- A loop whose checker asks a model is led by its answers: each check is one call about the plan
and the result of the round, the answer says where the loop goes, and success is reported on an
answer that says so. Where no answer can be read, all the loop does is to plan again. -/
theorem led (reader : FloatReader) (checker : LlmTaskChecker σ) (runtime : SdkRuntimeContext σ)
    (state : SdkAgentState) (w : σ) :
    Led reader checker (asking reader checker runtime) (startPosition state w) := by
  refine ⟨fun n p => judged, fun n p => reported, fun unread n p stands => ?_,
    fun unread n p p' place => replans_of_unread unread⟩
  obtain ⟨q, request, response, decision, w', -, answered, read, -⟩ := reported stands
  exact unread _ _ _ _ answered decision read

end Walks

end SthBoring.AgentLoop.CheckedRuns
