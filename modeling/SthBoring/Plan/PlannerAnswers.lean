/- Module: SthBoring/Plan/PlannerAnswers
   source: sdk_test_agent/plan/planners/llm_planner.py, plan_context.py, llm/response_parser.py
   digest: The prompt of the planner that asks a model, and the draft that is read off its answer. -/

import SthBoring.AgentLoop.InteractionDecider
import SthBoring.Lib.JsonReadBack
import SthBoring.Plan.PlanRecall

set_option autoImplicit false
set_option relaxedAutoImplicit false

namespace SthBoring.Plan.PlannerAnswers

universe u

open SthBoring.Lib.BestFirst (bestFirst perm_bestFirst)
open SthBoring.Lib.Dataclasses
open SthBoring.Lib.Effect (Computation)
open SthBoring.Lib.JsonLoads (loads)
open SthBoring.Lib.JsonReadBack
open SthBoring.Lib.PyJson (Format dumps dumpsInOrder sortMembers)
open SthBoring.Lib.PyValue
open SthBoring.Lib.UrlParse (Interpreter asciiInterpreter)
open SthBoring.Llm.LlmModels (LlmRequest)
open SthBoring.AgentLoop.InteractionDecider (JsonResponse llmResponseParseError)
open SthBoring.Capability.Panel (texts optionalText)
open SthBoring.Capability.ModelRebuild (plain_texts plain_optionalText)
open SthBoring.AgentLoop.CarriedObjects (plain_optionalInt)
open SthBoring.Plan.Models
open SthBoring.Plan.PlanMemory
open SthBoring.Plan.PlanObjects
open SthBoring.Plan.PlanRecall (saved items_saved demoSaves)

variable {σ : Type u} {S : Type}

section Context

/-- The loop may plan without a goal. The reports are of any type. -/
structure PlanContextBase where
  taskId : String
  taskType : String
  goal : Option String
  packageReport : Value := .null
  envReport : Value := .null
  textParseResult : Value := .null
  runtimeTarget : Option String := none
  constraints : Fields := []
  availableCapabilities : List String := []
  priorArtifacts : List (String × String) := []
  metadata : Fields := []

/-- What the prompt shows of a `PlanningSkill`. -/
structure PlanningSkill where
  name : String
  content : String

structure LlmPlanningContext (S : Type) where
  userInstructionRaw : Option String
  systemPrompt : Option String := none
  outputSchemaPrompt : Option String := none
  skills : List PlanningSkill := []
  retrievedPlanMemories : List (RetrievedPlanMemory S) := []
  systemConstraintsText : Option String := none
  extraPromptVars : Fields := []

structure PlannerInput (S : Type) where
  baseContext : PlanContextBase
  llmContext : Option (LlmPlanningContext S) := none

def contextObj (ctx : PlanContextBase) : Value :=
  .obj "PlanContextBase"
    [("task_id", .str ctx.taskId), ("task_type", .str ctx.taskType),
      ("goal", optionalText ctx.goal), ("package_report", ctx.packageReport),
      ("env_report", ctx.envReport), ("text_parse_result", ctx.textParseResult),
      ("runtime_target", optionalText ctx.runtimeTarget), ("constraints", .dict ctx.constraints),
      ("available_capabilities", texts ctx.availableCapabilities),
      ("prior_artifacts", .dict (ctx.priorArtifacts.map fun e => (e.1, .str e.2))),
      ("metadata", .dict ctx.metadata)]

end Context

section Prompt

/-- `json.dumps(v, default=str)`. -/
def dumpsShown (v : Value) : Except PyExc String := dumpsInOrder .standard (stringified v)

def memoryPart (memory : RetrievedPlanMemory S) : Except PyExc String := do
  let text ← dumpsShown (.dict memory.planJson)
  return s!"Retrieved plan memory {memory.memoryId}: " ++ text

/-- What the prompt says of the context for models. -/
def llmParts (llm : LlmPlanningContext S) : Except PyExc (List String) := do
  let capabilityContext := llm.extraPromptVars.getD "capability_context"
  let others := (sortMembers llm.extraPromptVars).filter fun entry => entry.1 ≠ "capability_context"
  let memories ← llm.retrievedPlanMemories.mapM memoryPart
  return ["User instruction: " ++ llm.userInstructionRaw.getD "None"] ++
    (if textOr llm.systemConstraintsText "" = "" then []
      else ["Constraints: " ++ textOr llm.systemConstraintsText ""]) ++
    (llm.skills.map fun skill => s!"Skill {skill.name}:\n{skill.content}") ++
    (if capabilityContext.truthy then ["Capability context:\n" ++ capabilityContext.text] else []) ++
    (others.map fun entry => s!"Extra prompt var {entry.1}: " ++ dumps .standard entry.2) ++ memories

def promptParts (plannerInput : PlannerInput S) : Except PyExc (List String) := do
  let llm := plannerInput.llmContext
  let base := [textOr (llm.bind (·.systemPrompt)) "You are SdkTestAgent planner. Output JSON only.",
    textOr (llm.bind (·.outputSchemaPrompt))
      "Return plan_summary, steps, assumptions, missing_information, risk_notes.",
    "Base context:", dumps .standard (plain (contextObj plannerInput.baseContext))]
  match llm with
  | none => return base
  | some llm => return base ++ (← llmParts llm)

/-- `_build_prompt`. -/
def buildPrompt (plannerInput : PlannerInput S) : Except PyExc String := do
  let parts ← promptParts plannerInput
  return joinWith "\n\n" parts

end Prompt

section Answer

def planLlmClientNotConfiguredError (message : String) : PyExc :=
  ⟨"PlanLlmClientNotConfiguredError", ["PlanError", "Exception"], message⟩

def planLlmOutputError (message : String) : PyExc :=
  ⟨"PlanLlmOutputError", ["PlanError", "Exception"], message⟩

variable (float : String → PyFloat)

/-- `LlmJsonResponseParser.parse_json_object`. -/
def parseJsonObject (response : JsonResponse) : Except PyExc Fields :=
  match response.parsedJson with
  | some parsed => .ok parsed
  | none =>
    match loads float response.content with
    | .error exc =>
      if exc.isInstance "JSONDecodeError" then
        .error (llmResponseParseError
          s!"failed to parse LLM response as JSON object: {exc.message}")
      else .error exc
    | .ok (.dict fields) => .ok fields
    | .ok _ => .error (llmResponseParseError "LLM response is not a JSON object")

/-- The `try` of `_parse_response`. -/
def readAnswer (response : JsonResponse) : Except PyExc (Fields × List Value) := do
  let raw ← parseJsonObject float response
  let entries ← ((raw.get "steps").getD (.list [])).iter
  let steps ← entries.mapM stepOf
  return (raw, steps)

structure LlmPlanner (σ : Type u) where
  llmClient : Option (LlmRequest → Computation σ PyExc JsonResponse) := none
  model : String := "planner-model"
  modelAlias : Option String := none
  name : String := "llm_planner"
  version : String := "0.1.0"

variable (planner : LlmPlanner σ)

/-- `_parse_response`. Whatever is raised in the `try` is an `Exception`. -/
def LlmPlanner.parseResponse (response : JsonResponse) (ctx : PlanContextBase) :
    Except PyExc Value :=
  match readAnswer float response with
  | .error exc => .error (planLlmOutputError s!"failed to parse LLM plan JSON: {exc.message}")
  | .ok (raw, steps) =>
    executionPlanDraft.construct
      [("task_id", .str ctx.taskId), ("task_type", .str ctx.taskType),
        ("goal", optionalText ctx.goal), ("planner_name", .str planner.name),
        ("planner_version", .str planner.version),
        ("plan_summary", (raw.get "plan_summary").getD (.str "")), ("steps", .list steps),
        ("assumptions", (raw.get "assumptions").getD (.list [])),
        ("missing_information", (raw.get "missing_information").getD (.list [])),
        ("risk_notes", (raw.get "risk_notes").getD (.list [])),
        ("raw_llm_output", .str response.content),
        ("metadata", (raw.get "metadata").getD (.dict []))]

def LlmPlanner.request (prompt : String) : LlmRequest where
  modelAlias := planner.modelAlias
  model := if planner.modelAlias.any (· ≠ "") then none else some planner.model
  messages := [⟨"user", .text prompt⟩]
  temperature := .float ⟨0, "0.0"⟩
  responseFormat := some "json_object"
  metadata := [("planner", .str planner.name)]

/-- `plan`. -/
def LlmPlanner.plan (plannerInput : PlannerInput S) : Computation σ PyExc Value :=
  match planner.llmClient with
  | none =>
    Computation.raise (planLlmClientNotConfiguredError "LlmPlanner requires an llm_client")
  | some client => do
    let prompt ← Computation.lift (buildPrompt plannerInput)
    let response ← client (planner.request prompt)
    Computation.lift (planner.parseResponse float response plannerInput.baseContext)

end Answer

section Spec

variable (float : String → PyFloat)

/-- What a plan carries along is JSON, with floats that `float` knows. -/
structure PlanLoadable (plan : ExecutionPlan) : Prop where
  inputs : ∀ step ∈ plan.steps, Loadable float (.dict step.inputs)
  metadata : ∀ step ∈ plan.steps, Loadable float (.dict step.metadata)
  constraints : Loadable float (.dict plan.globalConstraints)
  planMetadata : Loadable float (.dict plan.planMetadata)

variable (planner : LlmPlanner σ)

/-- The draft that a saved plan comes back as. -/
def LlmPlanner.reread (ctx : PlanContextBase) (goal : String) (plan : ExecutionPlan)
    (answer : String) : ExecutionPlanDraft where
  taskId := ctx.taskId
  taskType := ctx.taskType
  goal := goal
  plannerName := planner.name
  plannerVersion := planner.version
  planSummary := ""
  steps := plan.steps
  assumptions := plan.assumptions
  missingInformation := plan.missingInformation
  riskNotes := plan.riskNotes
  rawLlmOutput := some answer

/-- An instance of a dataclass. -/
def InstanceOf (c : DataClass) (v : Value) : Prop :=
  ∃ attributes, v = .obj c.name attributes ∧ attributes.map Prod.fst = c.names

/-- What an answer comes to: the planner's own error, or a draft that is made of steps. -/
def Ends (ended : Except PyExc Value) : Prop :=
  (∃ message, ended = .error (planLlmOutputError message)) ∨
    ∃ (draft : Fields) (steps : List Value), ended = .ok (.obj "ExecutionPlanDraft" draft) ∧
      draft.map Prod.fst = executionPlanDraft.names ∧ draft.get "steps" = some (.list steps) ∧
      ∀ step ∈ steps, InstanceOf planStep step

variable (client : LlmRequest → Computation σ PyExc JsonResponse) (saves : List (SaveCall S))
  (plannerInput : PlannerInput S) (goal : String) (parts : List String)

/-- What the planner makes of the answers to a prompt of these parts. -/
structure Answers : Prop where
  fails : ∀ s s' exc, client (planner.request (joinWith "\n\n" parts)) s = (.error exc, s') →
    planner.plan float plannerInput s = (.error exc, s')
  ends : ∀ s s' response, client (planner.request (joinWith "\n\n" parts)) s =
    (.ok response, s') → ∃ ended, planner.plan float plannerInput s = (ended, s') ∧ Ends ended
  echoes : ∀ llm, plannerInput.llmContext = some llm → ∀ memory ∈ llm.retrievedPlanMemories,
    ∃ call ∈ saves, ∃ text, memory.memoryId = memoryId call ∧
      s!"Retrieved plan memory {memory.memoryId}: " ++ text ∈ parts ∧
      ∀ s s', client (planner.request (joinWith "\n\n" parts)) s = (.ok ⟨text, none⟩, s') →
        planner.plan float plannerInput s =
          (.ok (draftObj (planner.reread plannerInput.baseContext goal call.plan text)), s')

end Spec

section Loading

variable {float : String → PyFloat}

theorem loadable_texts (xs : List String) : Loadable float (texts xs) := by
  refine allLoadable_iff.mpr fun x mem => ?_
  obtain ⟨s, -, rfl⟩ := List.mem_map.mp mem
  trivial

theorem loadable_optionalText (s : Option String) : Loadable float (optionalText s) := by
  cases s <;> trivial

theorem loadable_optionalInt (n : Option ℤ) : Loadable float (optionalInt n) := by
  cases n <;> trivial

theorem plain_of_loadable {v : Value} (loadable : Loadable float v) : plain v = v :=
  (inert v loadable).plain

/-- A step becomes a dict of its attributes. -/
theorem plain_step {step : PlanStep} (inputs : Loadable float (.dict step.inputs))
    (metadata : Loadable float (.dict step.metadata)) :
    ∃ attributes, stepObj step = .obj "PlanStep" attributes ∧
      attributes.map Prod.fst = planStep.names ∧ plain (stepObj step) = .dict attributes ∧
      Loadable float (.dict attributes) := by
  refine ⟨_, rfl, rfl, ?_, (by decide : planStep.names.Nodup), ?_⟩
  · rw [stepObj, plain]
    simp only [plainFields, plain_texts, plain_optionalText, plain_optionalInt,
      plain_of_loadable inputs, plain_of_loadable metadata]
    simp only [plain]
  · simp only [MembersLoadable, loadable_texts, loadable_optionalText, loadable_optionalInt, inputs,
      metadata, true_and, and_true]
    simp only [Loadable, and_true]

theorem stepOf_step {step : PlanStep} (inputs : Loadable float (.dict step.inputs))
    (metadata : Loadable float (.dict step.metadata)) :
    stepOf (plain (stepObj step)) = .ok (stepObj step) := by
  obtain ⟨attributes, own, named, dumped, -⟩ := plain_step inputs metadata
  rw [dumped, own]
  exact DataClass.construct_eq (c := planStep) (by decide) named

theorem mapM_stepOf_steps {steps : List PlanStep}
    (inputs : ∀ step ∈ steps, Loadable float (.dict step.inputs))
    (metadata : ∀ step ∈ steps, Loadable float (.dict step.metadata)) :
    (steps.map fun step => plain (stepObj step)).mapM stepOf = .ok (steps.map stepObj) := by
  induction steps with
  | nil => rfl
  | cons step steps ih =>
    obtain ⟨first, others⟩ := List.forall_mem_cons.mp inputs
    obtain ⟨firstData, othersData⟩ := List.forall_mem_cons.mp metadata
    rw [List.map_cons, List.mapM_cons, stepOf_step first firstData, ih others othersData]
    rfl

/-- The members of a plan that is saved. -/
def planMembers (plan : ExecutionPlan) : Fields :=
  [("plan_id", .str plan.planId), ("task_id", .str plan.taskId), ("task_type", .str plan.taskType),
    ("goal", .str plan.goal), ("planner_kind", .str (plannerKindText plan.plannerKind)),
    ("planner_name", .str plan.plannerName), ("planner_version", .str plan.plannerVersion),
    ("status", .str (planStatusText plan.status)),
    ("steps", .list (plan.steps.map fun step => plain (stepObj step))),
    ("assumptions", texts plan.assumptions), ("missing_information", texts plan.missingInformation),
    ("risk_notes", texts plan.riskNotes), ("global_constraints", .dict plan.globalConstraints),
    ("plan_metadata", .dict plan.planMetadata), ("parent_plan_id", optionalText plan.parentPlanId),
    ("revision_no", .int plan.revisionNo), ("created_at", optionalInt plan.createdAt)]

variable {plan : ExecutionPlan} (json : PlanLoadable float plan)

include json

theorem asdict_plan : asdict (planObj plan) = planMembers plan := by
  rw [planObj, asdict]
  simp only [plainFields, plain_texts, plain_optionalText, plain_optionalInt,
    plain_of_loadable json.constraints, plain_of_loadable json.planMetadata]
  simp only [plain, plainList_eq, List.map_map]
  rfl

theorem loadable_plan : Loadable float (.dict (planMembers plan)) := by
  have steps : Loadable float (.list (plan.steps.map fun step => plain (stepObj step))) := by
    refine allLoadable_iff.mpr fun v mem => ?_
    obtain ⟨step, own, rfl⟩ := List.mem_map.mp mem
    obtain ⟨attributes, -, -, dumped, loadable⟩ :=
      plain_step (json.inputs step own) (json.metadata step own)
    exact dumped ▸ loadable
  refine ⟨(by decide : executionPlan.names.Nodup), ?_⟩
  simp only [planMembers, MembersLoadable, loadable_texts, loadable_optionalText,
    loadable_optionalInt, steps, json.constraints, json.planMetadata, true_and, and_true]
  simp only [Loadable, and_true]

/-- A saved plan that is written into a prompt can be read back. -/
theorem dumpsShown_plan : ∃ text, dumpsShown (.dict (asdict (planObj plan))) = .ok text ∧
    loads float text = .ok (.dict (planMembers plan)) := by
  have loadable := loadable_plan json
  obtain ⟨text, written⟩ := exists_stringified .standard (.dict (planMembers plan))
  rw [asdict_plan json, dumpsShown, (inert _ loadable).stringified]
  rw [(inert _ loadable).stringified] at written
  exact ⟨text, written, loads_dumps separates_standard loadable written⟩

/-- The draft of an answer that is the text of a saved plan. -/
theorem parseResponse_plan (planner : LlmPlanner σ) {ctx : PlanContextBase} {goal text : String}
    (asked : ctx.goal = some goal) (read : loads float text = .ok (.dict (planMembers plan))) :
    planner.parseResponse float ⟨text, none⟩ ctx =
      .ok (draftObj (planner.reread ctx goal plan text)) := by
  have parsed : parseJsonObject float ⟨text, none⟩ = .ok (planMembers plan) := by
    rw [parseJsonObject]
    dsimp only
    rw [read]
  have steps := mapM_stepOf_steps json.inputs json.metadata
  have answer : readAnswer float ⟨text, none⟩ = .ok (planMembers plan, plan.steps.map stepObj) := by
    rw [readAnswer, parsed]
    change ((plan.steps.map fun step => plain (stepObj step)).mapM stepOf >>= fun steps => _) = _
    rw [steps]
    rfl
  rw [LlmPlanner.parseResponse, answer]
  dsimp only
  rw [asked]
  exact DataClass.construct_eq (c := executionPlanDraft) (by decide) rfl

end Loading

section Prompts

/-- The text of a plan that was found is among these parts. -/
def Shows (parts : List String) (memory : RetrievedPlanMemory S) : Prop :=
  ∃ text, dumpsShown (.dict memory.planJson) = .ok text ∧
    s!"Retrieved plan memory {memory.memoryId}: " ++ text ∈ parts

theorem Shows.append {parts more : List String} {memory : RetrievedPlanMemory S}
    (shows : Shows more memory) : Shows (parts ++ more) memory := by
  obtain ⟨text, written, listed⟩ := shows
  exact ⟨text, written, List.mem_append_right parts listed⟩

theorem exists_memoryParts (memories : List (RetrievedPlanMemory S)) :
    ∃ parts, memories.mapM memoryPart = .ok parts ∧ ∀ memory ∈ memories, Shows parts memory := by
  induction memories with
  | nil => exact ⟨[], rfl, List.forall_mem_nil _⟩
  | cons memory memories ih =>
    obtain ⟨text, written⟩ := exists_stringified .standard (.dict memory.planJson)
    obtain ⟨parts, listed, inside⟩ := ih
    refine ⟨[s!"Retrieved plan memory {memory.memoryId}: " ++ text] ++ parts, ?_, ?_⟩
    · rw [List.mapM_cons, memoryPart, dumpsShown, written, listed]
      rfl
    · refine List.forall_mem_cons.mpr ⟨⟨text, written, List.mem_cons_self⟩, ?_⟩
      exact fun other mem => (inside other mem).append

/-- The prompt is always built, and has the text of every plan that was found. -/
theorem exists_promptParts (plannerInput : PlannerInput S) :
    ∃ parts, promptParts plannerInput = .ok parts ∧
      ∀ llm, plannerInput.llmContext = some llm →
        ∀ memory ∈ llm.retrievedPlanMemories, Shows parts memory := by
  rw [promptParts]
  cases plannerInput.llmContext with
  | none => exact ⟨_, rfl, fun llm same => by cases same⟩
  | some llm =>
    obtain ⟨memories, listed, inside⟩ := exists_memoryParts llm.retrievedPlanMemories
    dsimp only
    rw [llmParts, listed]
    refine ⟨_, rfl, ?_⟩
    rintro _ ⟨⟩ memory mem
    exact (inside memory mem).append.append

variable [LinearOrder S] [Zero S]

/-- Whatever a search finds was saved. -/
theorem mem_search {py : Interpreter} {saves : List (SaveCall S)} {taskType query : String}
    {limit : ℤ} {memory : RetrievedPlanMemory S}
    (mem : memory ∈ (saved saves).searchSimilarPlans py taskType query limit) :
    ∃ call ∈ saves, memory.memoryId = memoryId call ∧
      memory.planJson = asdict (planObj call.plan) := by
  have within : memory ∈ bestFirst rank (((saved saves).items.filter fun item =>
      item.taskType == taskType).map fun item =>
        { item with similarity := similarity (words py query) (words py item.planSummary) }) := by
    unfold InMemoryPlanMemoryStore.searchSimilarPlans sliceUpTo at mem
    dsimp only at mem
    split at mem
    · exact List.mem_of_mem_take mem
    · exact List.mem_of_mem_take mem
  obtain ⟨item, kept, rfl⟩ := List.mem_map.mp ((perm_bestFirst rank _).mem_iff.mp within)
  rw [items_saved] at kept
  obtain ⟨call, among, rfl⟩ := List.mem_map.mp (List.mem_of_mem_filter kept)
  exact ⟨call, among, rfl, rfl⟩

end Prompts

section Answers

variable {float : String → PyFloat} {planner : LlmPlanner σ}

theorem instanceOf_of_construct {c : DataClass} {kwargs : Fields} {v : Value}
    (made : c.construct kwargs = .ok v) : InstanceOf c v := by
  unfold DataClass.construct at made
  split at made
  · cases made
  split at made
  · cases made
    refine ⟨_, rfl, ?_⟩
    rw [List.map_map]
    rfl
  · cases made
  · cases made

theorem mapM_stepOf_ok {entries steps : List Value} (read : entries.mapM stepOf = .ok steps) :
    ∀ step ∈ steps, InstanceOf planStep step := by
  induction entries generalizing steps with
  | nil =>
    cases read
    exact List.forall_mem_nil _
  | cons entry entries ih =>
    rw [List.mapM_cons] at read
    obtain ⟨step, first, read⟩ := bind_eq_ok.mp read
    obtain ⟨others, later, read⟩ := bind_eq_ok.mp read
    cases read
    refine List.forall_mem_cons.mpr ⟨?_, ih later⟩
    cases entry with
    | dict kwargs => exact instanceOf_of_construct first
    | _ => cases first

/-- Whatever a model answers, a draft that is returned is made of steps. -/
theorem ends_parseResponse (planner : LlmPlanner σ) (response : JsonResponse)
    (ctx : PlanContextBase) : Ends (planner.parseResponse float response ctx) := by
  rw [LlmPlanner.parseResponse]
  cases read : readAnswer float response with
  | error exc => exact Or.inl ⟨_, rfl⟩
  | ok answer =>
    obtain ⟨raw, steps⟩ := answer
    obtain ⟨parsed, -, read⟩ := bind_eq_ok.mp read
    obtain ⟨entries, -, read⟩ := bind_eq_ok.mp read
    obtain ⟨made, all, read⟩ := bind_eq_ok.mp read
    cases read
    exact Or.inr ⟨_, steps, DataClass.construct_eq (by decide) rfl, rfl, rfl, mapM_stepOf_ok all⟩

variable [LinearOrder S] [Zero S]

/-- The planner asks its client once, and what it plans is what the client answers. An answer that
is the text of a plan that was found, as the prompt has it, is a draft with the steps of that plan. -/
theorem reads_saved_plans (py : Interpreter) {client : LlmRequest → Computation σ PyExc JsonResponse}
    (configured : planner.llmClient = some client) {saves : List (SaveCall S)}
    (json : ∀ call ∈ saves, PlanLoadable float call.plan) {plannerInput : PlannerInput S}
    {goal : String} (asked : plannerInput.baseContext.goal = some goal)
    (retrieved : ∀ llm, plannerInput.llmContext = some llm →
      ∀ memory ∈ llm.retrievedPlanMemories, ∃ taskType query limit,
        memory ∈ (saved saves).searchSimilarPlans py taskType query limit) :
    ∃ parts, Answers float planner client saves plannerInput goal parts := by
  obtain ⟨parts, built, inside⟩ := exists_promptParts plannerInput
  have prompt : buildPrompt plannerInput = .ok (joinWith "\n\n" parts) := by
    rw [buildPrompt, built]
    rfl
  have answered : ∀ s s' response, client (planner.request (joinWith "\n\n" parts)) s =
      (.ok response, s') → planner.plan float plannerInput s =
        (planner.parseResponse float response plannerInput.baseContext, s') := by
    intro s s' response returned
    rw [LlmPlanner.plan, configured]
    dsimp only
    rw [Computation.lift_bind prompt, Computation.bind_of_ok returned]
    cases planner.parseResponse float response plannerInput.baseContext <;> rfl
  refine ⟨parts, ?_, ?_, ?_⟩
  · intro s s' exc raised
    rw [LlmPlanner.plan, configured]
    dsimp only
    rw [Computation.lift_bind prompt]
    exact Computation.bind_of_error raised _
  · intro s s' response returned
    exact ⟨_, answered s s' response returned, ends_parseResponse planner response _⟩
  · intro llm shown memory mem
    obtain ⟨taskType, query, limit, hit⟩ := retrieved llm shown memory mem
    obtain ⟨call, among, named, own⟩ := mem_search hit
    obtain ⟨text, written, listed⟩ := inside llm shown memory mem
    obtain ⟨read, same, loaded⟩ := dumpsShown_plan (json call among)
    rw [own, same] at written
    cases written
    refine ⟨call, among, text, named, listed, fun s s' returned => ?_⟩
    rw [answered s s' ⟨text, none⟩ returned,
      parseResponse_plan (json call among) planner asked loaded]

end Answers

section Demo

/-- A client that counts its calls and plans nothing. -/
def idleClient : LlmRequest → Computation ℕ PyExc JsonResponse :=
  fun _ calls => (.ok ⟨"\x7b\"steps\": []\x7d", none⟩, calls + 1)

/-- A task like the ones whose plans were saved. -/
def demoInput : PlannerInput ℚ where
  baseContext := ⟨"t3", "java", some "build", .null, .null, .null, none, [], [], [], []⟩
  llmContext := some
    { userInstructionRaw := some "build"
      retrievedPlanMemories := (saved demoSaves).searchSimilarPlans asciiInterpreter "java" "build" 5
      extraPromptVars := [("capability_digest", .str "d1")] }

theorem reads_saved_plans_demo : ∃ parts,
    Answers floatOf { llmClient := some idleClient } idleClient demoSaves demoInput "build" parts := by
  refine reads_saved_plans asciiInterpreter rfl ?_ rfl ?_
  · have step : ∀ call ∈ demoSaves, ∀ step ∈ call.plan.steps,
        step.inputs = [] ∧ step.metadata = [] := by decide +kernel
    have none : Loadable floatOf (.dict []) := ⟨List.nodup_nil, trivial⟩
    have own : ∀ call ∈ demoSaves, call.plan.globalConstraints = [] ∧ call.plan.planMetadata = [] := by
      decide +kernel
    intro call mem
    constructor
    · intro s inside
      rw [(step call mem s inside).1]
      exact none
    · intro s inside
      rw [(step call mem s inside).2]
      exact none
    · rw [(own call mem).1]
      exact none
    · rw [(own call mem).2]
      exact none
  · rintro _ ⟨⟩ memory mem
    exact ⟨"java", "build", 5, mem⟩

end Demo

end SthBoring.Plan.PlannerAnswers
