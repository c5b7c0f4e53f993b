/- Module: SthBoring/Llm/OpenAICompatibleClient
   source: sdk_test_agent/llm/clients/openai_compatible_client.py
   digest: A request resolved, mapped to the parameters of an API, sent and read back. -/

import SthBoring.Lib.Effect
import SthBoring.Llm.LlmModels

set_option autoImplicit false
set_option relaxedAutoImplicit false

namespace SthBoring.Llm.OpenAICompatibleClient

open SthBoring.Lib.Effect (Computation)
open SthBoring.Lib.OrderedDict (PyDict)
open SthBoring.Lib.PyObject (attribute? getAttrD)
open SthBoring.Lib.PyValue (Value Fields PyExc typeError keyError pyOr textOr)
open SthBoring.Llm.LlmModels

variable {σ : Type} {α : Type}

/-- A text that is given: neither `None` nor empty. -/
def given (text : Option String) : Option String := text.filter (· ≠ "")

/-- `xs or None` for a list or a dict. -/
def dictOrNone (fields : Fields) : Value := if fields.isEmpty then .null else .dict fields

section Content

def contentPartToResponses (part : LlmContentPart) : Value :=
  if part.type = "text" ∨ part.type = "input_text" then
    .dict [("type", .str "input_text"), ("text", .str (textOr part.text ""))]
  else
    let data : Kwargs := PyDict.empty.set "type" (.str part.type)
    let optional : Kwargs := ⟨[("text", optionalText part.text), ("image_url", optionalText part.imageUrl),
      ("file_id", optionalText part.fileId), ("file_url", optionalText part.fileUrl),
      ("detail", optionalText part.detail)], by simp⟩
    .dict ((data.update part.data).update (optional.keep isNotNone)).entries

def contentToResponsesParts : LlmContent → Value
  | .text s => .list [.dict [("type", .str "input_text"), ("text", .str s)]]
  | .parts ps => .list (ps.map contentPartToResponses)

def contentPartToChat (part : LlmContentPart) : Value :=
  if part.type = "text" ∨ part.type = "input_text" then
    .dict [("type", .str "text"), ("text", .str (textOr part.text ""))]
  else contentPartToResponses part

def contentToChatContent : LlmContent → Value
  | .text s => .str s
  | .parts ps => .list (ps.map contentPartToChat)

def messageToResponsesInput (message : LlmMessage) : Value :=
  .dict [("role", .str message.role), ("content", contentToResponsesParts message.content)]

def messageToChat (message : LlmMessage) : Value :=
  .dict [("role", .str message.role), ("content", contentToChatContent message.content)]

end Content

section Parameters

variable (request : LlmRequest) (resolved : ResolvedLlmTarget)

/-- `resolved.request_defaults.get(key)`. -/
def defaultOf (key : String) : Value := (resolved.requestDefaults.get key).getD .null

def format : Value := pyOr (optionalText request.responseFormat) (defaultOf resolved "response_format")

def schema : Value :=
  pyOr (request.jsonSchema.elim .null .dict) (defaultOf resolved "json_schema")

def strict : Bool := request.strictJsonSchema || (defaultOf resolved "strict_json_schema").truthy

def maxTokens : Value :=
  pyOr (request.maxOutputTokens.elim .null .int) (defaultOf resolved "max_output_tokens")

def reasoning : Value :=
  pyOr (optionalText request.reasoningEffort) (defaultOf resolved "reasoning_effort")

/-- `value if value is not None else default`. -/
def unlessNone (value default : Value) : Value := if isNotNone value then value else default

/-- Equality with a member of `LlmResponseFormatType`. -/
def isFormat (fmt : Value) (member : String) : Bool := Value.pyEq fmt (.str member)

def responsesTextFormat : Value :=
  let fmt := format request resolved
  if isFormat fmt LlmResponseFormatType.jsonSchema then
    .dict [("format", .dict [("type", .str "json_schema"), ("name", .str "structured_output"),
      ("schema", pyOr (schema request resolved) (.dict [])),
      ("strict", .bool (strict request resolved))])]
  else if isFormat fmt LlmResponseFormatType.jsonObject then
    .dict [("format", .dict [("type", .str "json_object")])]
  else .null

def chatResponseFormat : Value :=
  let fmt := format request resolved
  if isFormat fmt LlmResponseFormatType.jsonSchema then
    .dict [("type", .str "json_schema"), ("json_schema", .dict [("name", .str "structured_output"),
      ("schema", pyOr (schema request resolved) (.dict [])),
      ("strict", .bool (strict request resolved))])]
  else if isFormat fmt LlmResponseFormatType.jsonObject then
    .dict [("type", .str "json_object")]
  else .null

/-- `if condition: kwargs[key] = value`. -/
def setWhen (condition : Bool) (key : String) (value : Value) (kwargs : Kwargs) : Kwargs :=
  if condition then kwargs.set key value else kwargs

def buildResponsesKwargs : Kwargs :=
  let kwargs : Kwargs := ⟨[("model", .str resolved.model),
    ("input", .list (request.messages.map messageToResponsesInput)),
    ("metadata", dictOrNone request.metadata)], by simp⟩
  let kwargs := setWhen (given request.instructions).isSome "instructions"
    (optionalText request.instructions) kwargs
  let kwargs := setWhen (!request.tools.isEmpty) "tools" (.list request.tools) kwargs
  let kwargs := setWhen (isNotNone request.toolChoice) "tool_choice" request.toolChoice kwargs
  let kwargs := setWhen (isNotNone (maxTokens request resolved)) "max_output_tokens"
    (maxTokens request resolved) kwargs
  let kwargs := setWhen (reasoning request resolved).truthy "reasoning"
    (.dict [("effort", reasoning request resolved)]) kwargs
  let kwargs := setWhen (responsesTextFormat request resolved).truthy "text"
    (responsesTextFormat request resolved) kwargs
  (kwargs.update request.extraBody).keep isNotNone

def chatMessages : List Value :=
  let system := match given request.instructions with
    | some text => [Value.dict [("role", .str "system"), ("content", .str text)]]
    | none => []
  system ++ request.messages.map messageToChat

def buildChatKwargs : Kwargs :=
  let kwargs : Kwargs := ⟨[("model", .str resolved.model), ("messages", .list (chatMessages request)),
    ("temperature", unlessNone request.temperature (defaultOf resolved "temperature")),
    ("top_p", unlessNone request.topP (defaultOf resolved "top_p")),
    ("max_tokens", maxTokens request resolved), ("stream", .bool false)], by simp⟩
  let kwargs := setWhen (chatResponseFormat request resolved).truthy "response_format"
    (chatResponseFormat request resolved) kwargs
  let kwargs := setWhen (!request.tools.isEmpty) "tools" (.list request.tools) kwargs
  let kwargs := setWhen (isNotNone request.toolChoice) "tool_choice" request.toolChoice kwargs
  (kwargs.update request.extraBody).keep isNotNone

/-- Membership in a set hashes the value first. -/
def validateStructuredOutput : Except PyExc Unit :=
  let fmt := format request resolved
  if !fmt.hashable then .error (typeError s!"unhashable type: '{fmt.typeName}'")
  else if (isFormat fmt LlmResponseFormatType.jsonObject ||
      isFormat fmt LlmResponseFormatType.jsonSchema) &&
      !resolved.modelConfig.supportsStructuredOutput then
    .error (llmCapabilityError
      ("model alias " ++ resolved.modelConfig.alias' ++ " does not support structured output"))
  else .ok ()

end Parameters

section Normalizing

/-- `value[0] if value else None`. -/
def first (value : Value) : Except PyExc Value :=
  if !value.truthy then .ok .null
  else match value with
    | .list xs => .ok (xs.headD .null)
    | .str s => .ok (.str (String.ofList (s.toList.take 1)))
    | .bytes b => .ok (.int (b.toList.headD 0).toNat)
    | .dict _ => .error ⟨"KeyError", ["LookupError", "Exception"], "0"⟩
    | v => .error (typeError s!"'{v.typeName}' object is not subscriptable")

/-- The public attributes that are integers, dicts or `None`, by name. -/
def publicData : Value → Fields
  | .obj _ fields =>
    (fields.filter fun e => !e.1.startsWith "_" &&
      (match e.2 with
        | .null | .bool _ | .int _ | .dict _ => true
        | _ => false)).mergeSort (fun a b => decide (a.1 ≤ b.1))
  | .bool b => [("denominator", .int 1), ("imag", .int 0), ("numerator", .int b.toNat),
      ("real", .int b.toNat)]
  | .int n => [("denominator", .int 1), ("imag", .int 0), ("numerator", .int n), ("real", .int n)]
  | _ => []

/-- `data.get(details).get(key) if isinstance(data.get(details), dict) else None`. -/
def detail (data : Fields) (details key : String) : Value :=
  match Fields.getD data details with
  | .dict entries => Fields.getD entries key
  | _ => .null

def normalizeUsage (rawUsage : Value) : Option LlmUsage :=
  let usageOf (data : Fields) : LlmUsage := {
    inputTokens := pyOr (Fields.getD data "input_tokens") (Fields.getD data "prompt_tokens")
    outputTokens := pyOr (Fields.getD data "output_tokens") (Fields.getD data "completion_tokens")
    totalTokens := Fields.getD data "total_tokens"
    reasoningTokens := detail data "output_tokens_details" "reasoning_tokens"
    cachedInputTokens := detail data "input_tokens_details" "cached_tokens"
    raw := data }
  match rawUsage with
  | .null => none
  | .dict data => some (usageOf data)
  | v => some (usageOf (publicData v))

/-- The texts of a list of contents, those that are empty left out. -/
def textChunks (item : Value) : Except PyExc (List Value) := do
  let contents ← (pyOr (getAttrD item "content" (.list [])) (.list [])).iter
  return (contents.map (getAttrD · "text" .null)).filter Value.truthy

/-- `"".join(chunks)`. -/
def joinChunks (position : ℕ) : List Value → Except PyExc String
  | [] => .ok ""
  | .str s :: rest => do return s ++ (← joinChunks (position + 1) rest)
  | v :: _ => .error (typeError
      s!"sequence item {position}: expected str instance, {v.typeName} found")

def extractResponseOutputText (raw : Value) : Except PyExc String := do
  let items ← (pyOr (getAttrD raw "output" (.list [])) (.list [])).iter
  let chunks ← items.mapM textChunks
  joinChunks 0 chunks.flatten

variable (raw : Value) (request : LlmRequest) (resolved : ResolvedLlmTarget)

/-- What both ways of reading an answer write. -/
def responseOf (content finishReason : Value) : LlmResponse where
  content := content
  model := some resolved.model
  modelAlias := request.modelAlias
  providerName := some resolved.providerConfig.providerName
  providerType := some resolved.providerConfig.providerType
  raw := raw
  usage := normalizeUsage (getAttrD raw "usage" .null)
  responseId := getAttrD raw "id" .null
  finishReason := finishReason

def normalizeResponses : Except PyExc LlmResponse := do
  let text := getAttrD raw "output_text" .null
  let content ← if text.truthy then .ok text
    else Value.str <$> extractResponseOutputText raw
  return responseOf raw request resolved (pyOr content (.str "")) (getAttrD raw "status" .null)

def normalizeChat : Except PyExc LlmResponse := do
  let choice ← first (getAttrD raw "choices" .null)
  let message := getAttrD choice "message" .null
  let content := if isNotNone message then getAttrD message "content" .null else .str ""
  return responseOf raw request resolved (pyOr content (.str ""))
    (getAttrD choice "finish_reason" .null)

end Normalizing

/-- A client of the API. What it was constructed with is all that is known of it; whose
configuration that was is kept beside it. -/
structure ApiClient where
  kwargs : Kwargs
  providerConfig : LlmProviderConfig

inductive Endpoint where
  | responses | chatCompletions
  deriving DecidableEq

/-- A call of `create`, with the client it was made on. -/
structure ApiCall where
  client : ApiClient
  endpoint : Endpoint
  kwargs : Kwargs

/-- An `OpenAICompatibleLlmClient` as it was constructed, with what it finds around it: the
environment of the process, the constructor of the package, the API and the clock. -/
structure OpenAICompatibleLlmClient (σ : Type) where
  providerConfig : LlmProviderConfig
  clientFactory : Option (Kwargs → Computation σ PyExc Unit) := none
  environ : String → Option String
  openAI : Kwargs → Computation σ PyExc Unit
  create : ApiCall → Computation σ PyExc Value
  monotonic : Computation σ PyExc ℚ

/-- What changes while the client is used: the registry it holds, the API client it keeps, and
the calls made. -/
structure Exchange (σ : Type) where
  modelRegistry : Option ModelRegistry
  apiClient : Option ApiClient := none
  calls : List ApiCall := []
  world : σ

abbrev Calling (σ : Type) (α : Type) : Type := Computation (Exchange σ) PyExc α

def outside (m : Computation σ PyExc α) : Calling σ α :=
  Computation.within Exchange.world (fun w s => { s with world := w }) m

variable (client : OpenAICompatibleLlmClient σ)

def adHocModelConfig (model providerName : String) : LlmModelConfig where
  alias' := model
  providerName := providerName
  model := model
  supportsStructuredOutput := true

def resolve (modelRegistry : Option ModelRegistry) (request : LlmRequest) :
    Except PyExc ResolvedLlmTarget :=
  match given request.modelAlias, modelRegistry with
  | some modelAlias, some registry => registry.resolve modelAlias
  | _, _ =>
    match given request.model with
    | none => .error (llmConfigError "request must include model or resolvable model_alias")
    | some model => .ok {
        providerConfig := client.providerConfig
        modelConfig := adHocModelConfig model client.providerConfig.providerName
        model := model
        apiProtocol := textOr request.apiProtocol LlmApiProtocol.responses }

def clientKwargs (config : LlmProviderConfig) : Kwargs :=
  let apiKey := match given config.apiKeyEnv with
    | some name => optionalText (client.environ name)
    | none => .null
  let kwargs : Kwargs := ⟨[("api_key", apiKey), ("base_url", optionalText config.baseUrl),
    ("timeout", .float config.timeoutSec), ("max_retries", .int config.maxRetries),
    ("default_headers", dictOrNone config.extraHeaders)], by simp⟩
  (kwargs.update config.extraClientKwargs).keep isNotNone

def getClient : Calling σ ApiClient := do
  match ← Computation.read Exchange.apiClient with
  | some api => return api
  | none =>
    let kwargs := clientKwargs client client.providerConfig
    outside (client.clientFactory.getD client.openAI kwargs)
    let api : ApiClient := { kwargs := kwargs, providerConfig := client.providerConfig }
    Computation.modify fun s => { s with apiClient := some api }
    return api

def send (call : ApiCall) : Calling σ Value := do
  Computation.modify fun s => { s with calls := s.calls ++ [call] }
  outside (client.create call)

def completeResponses (request : LlmRequest) (resolved : ResolvedLlmTarget) :
    Calling σ LlmResponse := do
  Computation.lift (validateStructuredOutput request resolved)
  let kwargs := buildResponsesKwargs request resolved
  let api ← getClient client
  let raw ← send client { client := api, endpoint := .responses, kwargs := kwargs }
  Computation.lift (normalizeResponses raw request resolved)

def completeChatCompletions (request : LlmRequest) (resolved : ResolvedLlmTarget) :
    Calling σ LlmResponse := do
  Computation.lift (validateStructuredOutput request resolved)
  let kwargs := buildChatKwargs request resolved
  let api ← getClient client
  let raw ← send client { client := api, endpoint := .chatCompletions, kwargs := kwargs }
  Computation.lift (normalizeChat raw request resolved)

def dispatch (protocol : String) (request : LlmRequest) (resolved : ResolvedLlmTarget) :
    Calling σ LlmResponse :=
  if protocol = LlmApiProtocol.responses then completeResponses client request resolved
  else if protocol = LlmApiProtocol.chatCompletions then
    completeChatCompletions client request resolved
  else Computation.raise (llmConfigError ("unsupported api_protocol: " ++ protocol))

/-- The client's own errors pass; any other exception becomes an `LlmProviderError`. -/
def wrapped (exc : PyExc) : PyExc :=
  if exc.isInstance "LlmCapabilityError" || exc.isInstance "LlmConfigError" then exc
  else if exc.isInstance "Exception" then llmProviderError exc.message
  else exc

/-- `int((time.monotonic() - start) * 1000)`. -/
def milliseconds (start stop : ℚ) : ℤ :=
  let ms := (stop - start) * 1000
  ms.num.tdiv ms.den

def complete (request : LlmRequest) : Calling σ LlmResponse := do
  let start ← outside client.monotonic
  let registry ← Computation.read Exchange.modelRegistry
  let resolved ← Computation.lift (resolve client registry request)
  let protocol := textOr request.apiProtocol resolved.apiProtocol
  let response ← (dispatch client protocol request resolved).mapError wrapped
  let stop ← outside client.monotonic
  return { response with latencyMs := some (milliseconds start stop) }

end SthBoring.Llm.OpenAICompatibleClient
