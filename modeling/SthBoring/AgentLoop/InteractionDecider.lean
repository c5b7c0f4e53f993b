/- Module: SthBoring/AgentLoop/InteractionDecider
   source: sdk_test_agent/agent_loop/interaction_decision.py, llm/response_parser.py
   digest: The decision that is read off the answer of a model, and what it is checked for. -/

import SthBoring.AgentLoop.LoopModels
import SthBoring.Lib.PyJson
import SthBoring.Llm.LlmModels

set_option autoImplicit false
set_option relaxedAutoImplicit false

namespace SthBoring.AgentLoop.InteractionDecider

universe u

open SthBoring.AgentLoop.LoopModels (InteractionDecisionRequest)
open SthBoring.Lib.Effect (Computation)
open SthBoring.Lib.OrderedDict (PyDict)
open SthBoring.Lib.PyJson (dumps Format)
open SthBoring.Lib.PyValue (Value Fields PyExc PyFloat joinWith strip typeError)
open SthBoring.Llm.LlmModels (LlmRequest isNotNone)

variable {σ : Type u}

section Models

/-- What is read of an `LlmResponse`. -/
structure JsonResponse where
  content : String
  parsedJson : Option Fields := none

/-- A decision as it is built from a payload, with fields of any type. -/
structure InteractionDecision where
  mode : Value
  content : Value
  confidence : Value
  reason : Value
  normalizedGoal : Value
  metadata : Value

def llmResponseParseError (message : String) : PyExc :=
  ⟨"LlmResponseParseError", ["LlmError", "Exception"], message⟩

def interactionDecisionParseError (message : String) : PyExc :=
  ⟨"InteractionDecisionParseError", ["InteractionDecisionError", "Exception"], message⟩

def interactionDecisionValidationError (message : String) : PyExc :=
  ⟨"InteractionDecisionValidationError", ["InteractionDecisionError", "Exception"], message⟩

/-- The client of a decider, and `json.loads`. -/
structure LlmInteractionDecider (σ : Type u) where
  complete : LlmRequest → Computation σ PyExc JsonResponse
  loads : String → Except PyExc Value
  model : String := "interaction-decision-model"
  modelAlias : Option String := none
  apiProtocol : Option String := none
  temperature : PyFloat := ⟨0, "0.0"⟩

end Models

section Prompt

/-- `build_interaction_decision_prompt`. -/
def buildInteractionDecisionPrompt (request : InteractionDecisionRequest) : String :=
  let optional := [("task_id", request.taskId), ("session_id", request.sessionId),
    ("user_id", request.userId), ("conversation_summary", request.conversationSummary),
    ("system_capability_summary", request.systemCapabilitySummary)].filterMap
      fun entry => entry.2.map fun value => entry.1 ++ ": " ++ value
  let metadata :=
    if request.metadata.isEmpty then []
    else ["metadata: " ++ dumps Format.unicode (.dict request.metadata)]
  let contextLines :=
    ("raw_user_input: " ++ request.rawUserInput.getD "None") :: optional ++ metadata
  joinWith "\n"
    ["You are the interaction decision module for SdkTestAgent.",
      "Decide how the system should handle the user's input.",
      "",
      "Allowed modes:",
      "- PLAN: enter task planning and execution.",
      "- RETURN: answer directly in natural language; no planning or execution is needed.",
      "- REFUSE: refuse the request.",
      "- HUMAN: pause for human intervention, approval, login, or permission.",
      "",
      "Return strict JSON only with exactly these required fields:",
      "\x7b\"mode\":\"PLAN | RETURN | REFUSE | HUMAN\",\"content\":\"string\"," ++
        "\"confidence\":0.0,\"reason\":\"string\",\"normalized_goal\":null," ++
        "\"metadata\":\x7b\x7d\x7d",
      "",
      "Rules:",
      "- Greetings, chat, conceptual questions, and explanation requests use RETURN.",
      "- Requests to run, deploy, test, inspect an environment, call tools, or produce" ++
        " artifacts use PLAN.",
      "- Destructive, unauthorized, or unsafe requests use REFUSE.",
      "- Tasks requiring manual approval, login, permission, or confirmation use HUMAN.",
      "- PLAN requires a concise, non-empty normalized_goal.",
      "- RETURN, REFUSE, and HUMAN require non-empty content.",
      "- Do not invent credentials, URLs, versions, file paths, or environment details.",
      "- raw_user_input is the source of truth.",
      "",
      "Input context:"] ++ "\n" ++ joinWith "\n" contextLines

end Prompt

section Validator

def allowedModes : List String := ["PLAN", "RETURN", "REFUSE", "HUMAN"]

def isText (text : String) : Value → Bool
  | .str s => s == text
  | _ => false

/-- `v in names`, for a set of texts. The value is hashed before it is looked for. -/
def inSet (names : List String) (v : Value) : Except PyExc Bool :=
  if v.hashable then .ok (names.any fun name => isText name v)
  else .error (typeError s!"unhashable type: '{v.typeName}'")

/-- `isinstance(v, str) and v.strip()`. -/
def isFilled : Value → Bool
  | .str s => strip s ≠ ""
  | _ => false

def isDict : Value → Bool
  | .dict _ => true
  | _ => false

/-- `isinstance(v, (int, float))`, and no boolean. -/
def isProperNumber (v : Value) : Bool := !v.isBool && v.isNumber

/-- Floats that have no value are told by their texts. -/
def isFinite (x : PyFloat) : Bool := !(["nan", "inf", "-inf"].contains x.repr)

/-- `0.0 <= v <= 1.0`, for a number. -/
def inUnit : Value → Bool
  | .float x => isFinite x && 0 ≤ x.value && x.value ≤ 1
  | .int n => 0 ≤ n && n ≤ 1
  | _ => false

/-- `InteractionDecisionValidator.validate`. -/
def validate (decision : InteractionDecision) : Except PyExc Unit := do
  let fails (message : String) : Except PyExc Unit :=
    .error (interactionDecisionValidationError message)
  let allowed ← inSet allowedModes decision.mode
  if !allowed then fails s!"unsupported interaction mode: {decision.mode.repr}"
  else if !decision.content.isStr then fails "content must be a string"
  else if !isFilled decision.reason then fails "reason must be a non-empty string"
  else if !isProperNumber decision.confidence then fails "confidence must be a number"
  else if !inUnit decision.confidence then fails "confidence must be between 0.0 and 1.0"
  else if !isDict decision.metadata then fails "metadata must be an object"
  else if isNotNone decision.normalizedGoal && !decision.normalizedGoal.isStr then
    fails "normalized_goal must be a string or null"
  else if isText "PLAN" decision.mode && !isFilled decision.normalizedGoal then
    fails "PLAN requires a non-empty normalized_goal"
  else do
    let answers ← inSet ["RETURN", "REFUSE", "HUMAN"] decision.mode
    if answers && !isFilled decision.content then
      fails s!"{decision.mode.text} requires non-empty content"
    else .ok ()

end Validator

section Decide

def required : List String :=
  ["mode", "content", "confidence", "reason", "normalized_goal", "metadata"]

def missing (payload : Fields) : List String :=
  required.filter fun name => (payload.get name).isNone

/-- The fields of a payload, with nothing for those that it does not have. -/
def decisionOf (payload : Fields) : InteractionDecision where
  mode := payload.getD "mode"
  content := payload.getD "content"
  confidence := payload.getD "confidence"
  reason := payload.getD "reason"
  normalizedGoal := payload.getD "normalized_goal"
  metadata := payload.getD "metadata"

/-- `_from_payload`. -/
def fromPayload (payload : Fields) : Except PyExc InteractionDecision :=
  if missing payload ≠ [] then
    .error (interactionDecisionValidationError
      ("missing required fields: " ++ joinWith ", " (missing payload)))
  else .ok (decisionOf payload)

variable (decider : LlmInteractionDecider σ)

/-- `LlmJsonResponseParser.parse_json_object`. -/
def parseJsonObject (response : JsonResponse) : Except PyExc Fields :=
  match response.parsedJson with
  | some parsed => .ok parsed
  | none =>
    match decider.loads response.content with
    | .error exc =>
      if exc.isInstance "JSONDecodeError" then
        .error (llmResponseParseError
          s!"failed to parse LLM response as JSON object: {exc.message}")
      else .error exc
    | .ok (.dict fields) => .ok fields
    | .ok _ => .error (llmResponseParseError "LLM response is not a JSON object")

/-- `decide`, from the response on. -/
def decideOn (response : JsonResponse) : Except PyExc InteractionDecision :=
  match parseJsonObject decider response with
  | .error _ =>
    .error (interactionDecisionParseError
      "failed to parse interaction decision as a JSON object")
  | .ok payload => do
    let decision ← fromPayload payload
    validate decision
    return decision

def llmRequest (request : InteractionDecisionRequest) : LlmRequest where
  modelAlias := decider.modelAlias
  model := if decider.modelAlias.any (· ≠ "") then none else some decider.model
  apiProtocol := decider.apiProtocol
  messages := [⟨"user", .text (buildInteractionDecisionPrompt request)⟩]
  responseFormat := some "json_object"
  temperature := .float decider.temperature
  metadata := [("decider", .str "llm_interaction_decider")]

/-- `LlmInteractionDecider.decide`. -/
def LlmInteractionDecider.decide (request : InteractionDecisionRequest) :
    Computation σ PyExc InteractionDecision := do
  let response ← decider.complete (llmRequest decider request)
  Computation.lift (decideOn decider response)

end Decide

/-- What a decision is to be. -/
structure Contract (decision : InteractionDecision) : Prop where
  mode : ∃ name ∈ allowedModes, decision.mode = .str name
  content : ∃ s, decision.content = .str s
  reason : isFilled decision.reason = true
  confidence : isProperNumber decision.confidence = true ∧ inUnit decision.confidence = true
  metadata : ∃ fields, decision.metadata = .dict fields
  goal : decision.mode = .str "PLAN" → isFilled decision.normalizedGoal = true
  answer : decision.mode ≠ .str "PLAN" → isFilled decision.content = true

/-- The goal is a text or null. -/
def HasGoal (goal : Value) : Prop := goal = .null ∨ ∃ s, goal = .str s

def OwnError (exc : PyExc) : Prop :=
  exc.isInstance "InteractionDecisionParseError" = true ∨
    exc.isInstance "InteractionDecisionValidationError" = true

/-- A decision ends with an error of its own, or keeps to the contract. -/
def EndsWell : Except PyExc InteractionDecision → Prop
  | .error exc => OwnError exc
  | .ok decision => Contract decision

variable (decider : LlmInteractionDecider σ) (response : JsonResponse)
  (outcome : Except PyExc InteractionDecision)

/-- Whatever the contract asks for is enough. -/
structure Promise : Prop where
  ends : EndsWell outcome
  returns : ∀ payload, parseJsonObject decider response = .ok payload →
    Contract (decisionOf payload) → ∃ decision, outcome = .ok decision

/-- The contract is enough where the goal is there, as a text or null; and it is needed. -/
structure Decided : Prop where
  ends : EndsWell outcome
  returns : ∀ decision, outcome = .ok decision ↔ ∃ payload goal,
    parseJsonObject decider response = .ok payload ∧ Contract (decisionOf payload) ∧
      payload.get "normalized_goal" = some goal ∧ HasGoal goal ∧ decision = decisionOf payload

section Checks

variable {decision : InteractionDecision} {checked : Except PyExc Unit} {P : Prop}

/-- A check passes where the property holds, and else ends with the error of the validator. -/
def Ends (P : Prop) (checked : Except PyExc Unit) : Prop :=
  (checked = .ok () ∧ P) ∨
    (∃ message, checked = .error (interactionDecisionValidationError message)) ∧ ¬ P

theorem Ends.guard {wrong : Bool} (message : String) (rest : Ends P checked) :
    Ends (wrong = false ∧ P)
      (if wrong then .error (interactionDecisionValidationError message) else checked) := by
  cases wrong with
  | true => exact .inr ⟨⟨message, rfl⟩, fun both => by cases both.1⟩
  | false =>
    obtain ⟨passed, holds⟩ | ⟨failed, fails⟩ := rest
    · exact .inl ⟨passed, rfl, holds⟩
    · exact .inr ⟨failed, fun both => fails both.2⟩

theorem Ends.congr {Q : Prop} (rest : Ends P checked) (same : P ↔ Q) : Ends Q checked := by
  unfold Ends
  rw [← same]
  exact rest

theorem isText_iff {text : String} {v : Value} : isText text v = true ↔ v = .str text := by
  cases v <;> simp [isText]

theorem any_isText {names : List String} {v : Value} :
    names.any (fun name => isText name v) = true ↔ ∃ name ∈ names, v = .str name := by
  simp only [List.any_eq_true, isText_iff]

theorem isStr_iff {v : Value} : v.isStr = true ↔ ∃ s, v = .str s := by
  cases v <;> simp [Value.isStr]

theorem isDict_iff {v : Value} : isDict v = true ↔ ∃ fields, v = .dict fields := by
  cases v <;> simp [isDict]

theorem hasGoal_iff {v : Value} : (isNotNone v && !v.isStr) = false ↔ HasGoal v := by
  cases v <;> simp [isNotNone, Value.isStr, HasGoal]

/-- Of the allowed modes, all but one ask for an answer. -/
theorem answers_iff {v : Value} (allowed : ∃ name ∈ allowedModes, v = .str name) :
    (∃ name ∈ ["RETURN", "REFUSE", "HUMAN"], v = .str name) ↔ v ≠ .str "PLAN" := by
  obtain ⟨name, mem, rfl⟩ := allowed
  simp only [allowedModes, List.mem_cons, List.not_mem_nil, or_false] at mem
  obtain rfl | rfl | rfl | rfl := mem <;> simp

/-- The checks are those of the contract, and of the goal. -/
theorem checks_iff :
    ((!allowedModes.any fun name => isText name decision.mode) = false ∧
      (!decision.content.isStr) = false ∧ (!isFilled decision.reason) = false ∧
      (!isProperNumber decision.confidence) = false ∧ (!inUnit decision.confidence) = false ∧
      (!isDict decision.metadata) = false ∧
      (isNotNone decision.normalizedGoal && !decision.normalizedGoal.isStr) = false ∧
      (isText "PLAN" decision.mode && !isFilled decision.normalizedGoal) = false ∧
      ((["RETURN", "REFUSE", "HUMAN"].any fun name => isText name decision.mode) &&
        !isFilled decision.content) = false ∧ True) ↔
    Contract decision ∧ HasGoal decision.normalizedGoal := by
  rw [hasGoal_iff]
  simp only [Bool.not_eq_false', any_isText, isStr_iff, isDict_iff, Bool.and_eq_false_imp,
    isText_iff, and_true]
  constructor
  · rintro ⟨mode, content, reason, proper, inside, metadata, typed, goal, answer⟩
    refine ⟨⟨mode, content, reason, ⟨proper, inside⟩, metadata, goal, fun other => ?_⟩, typed⟩
    exact answer ((answers_iff mode).mpr other)
  · rintro ⟨contract, typed⟩
    refine ⟨contract.mode, contract.content, contract.reason, contract.confidence.1,
      contract.confidence.2, contract.metadata, typed, contract.goal, fun answers => ?_⟩
    exact contract.answer ((answers_iff contract.mode).mp answers)

/-- The validator accepts what keeps to the contract and has a goal that is a text or null, unless
the mode cannot be hashed. -/
theorem validate_ends (hashable : decision.mode.hashable = true) :
    Ends (Contract decision ∧ HasGoal decision.normalizedGoal) (validate decision) := by
  have member : ∀ names, inSet names decision.mode =
      .ok (names.any fun name => isText name decision.mode) := fun _ => if_pos hashable
  refine Ends.congr ?_ checks_iff
  unfold validate
  rw [member, member]
  refine Ends.guard _ (Ends.guard _ (Ends.guard _ (Ends.guard _ (Ends.guard _ (Ends.guard _
    (Ends.guard _ (Ends.guard _ (Ends.guard _ ?_))))))))
  exact .inl ⟨rfl, trivial⟩

end Checks

section Payloads

variable {decider response} {payload : Fields}

theorem missing_eq_nil_iff :
    missing payload = [] ↔ ∀ name ∈ required, ∃ v, payload.get name = some v := by
  simp only [missing, List.filter_eq_nil_iff, Bool.not_eq_true, Option.isNone_eq_false_iff,
    Option.isSome_iff_exists]

theorem exists_get_of_getD_ne {name : String} (some_value : payload.getD name ≠ .null) :
    ∃ v, payload.get name = some v := by
  by_contra none
  rw [← Option.ne_none_iff_exists', not_not] at none
  exact some_value (by rw [Fields.getD, none, Option.getD_none])

/-- Nothing that the contract asks for is missing, but for the goal. -/
theorem missing_of_contract (contract : Contract (decisionOf payload)) {goal : Value}
    (found : payload.get "normalized_goal" = some goal) : missing payload = [] := by
  obtain ⟨mode, -, mode_eq⟩ := contract.mode
  obtain ⟨content, content_eq⟩ := contract.content
  obtain ⟨fields, metadata_eq⟩ := contract.metadata
  have reason := contract.reason
  have proper := contract.confidence.1
  simp only [decisionOf] at mode_eq content_eq metadata_eq reason proper
  have there : ∀ name, payload.getD name ≠ .null → ∃ v, payload.get name = some v :=
    fun _ => exists_get_of_getD_ne
  rw [missing_eq_nil_iff]
  intro name mem
  simp only [required, List.mem_cons, List.not_mem_nil, or_false] at mem
  obtain rfl | rfl | rfl | rfl | rfl | rfl := mem
  · exact there _ (by rw [mode_eq]; simp)
  · exact there _ (by rw [content_eq]; simp)
  · refine there _ fun none => ?_
    rw [none] at proper
    cases proper
  · refine there _ fun none => ?_
    rw [none] at reason
    cases reason
  · exact ⟨goal, found⟩
  · exact there _ (by rw [metadata_eq]; simp)

theorem ownError_validation (message : String) :
    OwnError (interactionDecisionValidationError message) := .inr rfl

/-- A payload is judged by the contract and by its goal, if it has all fields and a mode that can be
hashed, or not all fields. -/
theorem decided_of_payload (parsed : parseJsonObject decider response = .ok payload)
    (hashable : missing payload = [] → (payload.getD "mode").hashable = true) :
    Decided decider response (decideOn decider response) := by
  have only : ∀ {other}, parseJsonObject decider response = .ok other → payload = other :=
    fun same => Except.ok.inj (parsed.symm.trans same)
  unfold decideOn
  rw [parsed]
  dsimp only
  by_cases complete : missing payload = []
  · have read : fromPayload payload = .ok (decisionOf payload) := if_neg (not_not.mpr complete)
    rw [read]
    have hashed : (decisionOf payload).mode.hashable = true := hashable complete
    obtain ⟨passed, contract, typed⟩ | ⟨⟨message, failed⟩, fails⟩ := validate_ends hashed
    · change Decided decider response (validate (decisionOf payload) >>= fun _ => .ok _)
      rw [passed]
      refine ⟨contract, fun decision => ⟨?_, ?_⟩⟩
      · rintro ⟨⟩
        obtain ⟨goal, found⟩ := missing_eq_nil_iff.mp complete "normalized_goal" (by decide)
        have same : payload.getD "normalized_goal" = goal := by
          rw [Fields.getD, found, Option.getD_some]
        exact ⟨payload, goal, parsed, contract, found, same ▸ typed, rfl⟩
      · rintro ⟨other, goal, parsed', -, -, -, rfl⟩
        rw [only parsed']
        rfl
    · change Decided decider response (validate (decisionOf payload) >>= fun _ => .ok _)
      rw [failed]
      refine ⟨ownError_validation message, fun decision => ⟨nofun, ?_⟩⟩
      rintro ⟨other, goal, parsed', contract, found, typed, -⟩
      rw [← only parsed'] at contract found
      have same : payload.getD "normalized_goal" = goal := by
        rw [Fields.getD, found, Option.getD_some]
      rw [← same] at typed
      exact absurd ⟨contract, typed⟩ fails
  · have unread : fromPayload payload = .error _ := if_pos complete
    rw [unread]
    refine ⟨ownError_validation _, fun decision => ⟨nofun, ?_⟩⟩
    rintro ⟨other, goal, parsed', contract, found, -, -⟩
    rw [← only parsed'] at contract found
    exact absurd (missing_of_contract contract found) complete

variable {request : InteractionDecisionRequest} {s s' : σ}

/-- A decider that gets a response decides it so, unless the payload has all fields and a mode that
cannot be hashed. -/
theorem decide_decided (answered : decider.complete (llmRequest decider request) s =
      (.ok response, s'))
    (hashable : ∀ payload, parseJsonObject decider response = .ok payload →
      missing payload = [] → (payload.getD "mode").hashable = true) :
    Decided decider response (decider.decide request s).1 := by
  have decided : (decider.decide request s).1 = decideOn decider response := by
    unfold LlmInteractionDecider.decide
    rw [Computation.bind_of_ok answered]
    cases decideOn decider response <;> rfl
  rw [decided]
  cases parsed : parseJsonObject decider response with
  | ok payload => exact decided_of_payload parsed (hashable payload parsed)
  | error exc =>
    unfold decideOn
    rw [parsed]
    refine ⟨.inl rfl, fun decision => ⟨nofun, ?_⟩⟩
    rintro ⟨payload, goal, none, -⟩
    rw [parsed] at none
    cases none

end Payloads

section Sample

/-- A decider whose answers have this payload. -/
def deciderOf (payload : Fields) : LlmInteractionDecider Unit where
  complete _ := pure { content := "" }
  loads _ := .ok (.dict payload)

def askedHello : InteractionDecisionRequest where
  rawUserInput := some "hello"

def planning : Fields :=
  [("mode", .str "PLAN"), ("content", .str "planning"), ("confidence", .float ⟨4 / 5, "0.8"⟩),
    ("reason", .str "tool needed"), ("normalized_goal", .str "show time"), ("metadata", .dict [])]

def greeting : Fields :=
  [("mode", .str "RETURN"), ("content", .str "hello"), ("confidence", .float ⟨9 / 10, "0.9"⟩),
    ("reason", .str "greeting"), ("metadata", .dict [])]

theorem planning_decided : Decided (deciderOf planning) { content := "" }
    ((deciderOf planning).decide askedHello ()).1 := by
  refine decide_decided rfl ?_
  intro payload parsed _
  obtain rfl : planning = payload := Except.ok.inj parsed
  rfl

/-- An answer without a goal keeps to the contract, and is refused. -/
theorem greeting_refused : ¬ Promise (deciderOf greeting) { content := "" }
    ((deciderOf greeting).decide askedHello ()).1 := by
  intro promise
  have contract : Contract (decisionOf greeting) :=
    { mode := ⟨"RETURN", by decide, rfl⟩
      content := ⟨"hello", rfl⟩
      reason := by decide +kernel
      confidence := by decide +kernel
      metadata := ⟨[], rfl⟩
      goal := by
        intro same
        injection same with plan
        exact absurd plan (by decide)
      answer := fun _ => by decide +kernel }
  obtain ⟨decision, returned⟩ := promise.returns greeting rfl contract
  cases returned

end Sample

end SthBoring.AgentLoop.InteractionDecider
