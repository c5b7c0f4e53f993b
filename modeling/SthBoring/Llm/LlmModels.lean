/- Module: SthBoring/Llm/LlmModels
   source: sdk_test_agent/llm/llm_models.py, llm_config.py, llm_enums.py, llm_errors.py, usage.py,
     model_registry.py
   digest: Requests, responses, and the models and providers they are resolved against. -/

import SthBoring.Lib.OrderedMoves
import SthBoring.Lib.PyObject

set_option autoImplicit false
set_option relaxedAutoImplicit false

namespace SthBoring.Llm.LlmModels

open SthBoring.Lib.OrderedDict (PyDict)
open SthBoring.Lib.PyValue (Value Fields PyExc PyFloat textOr)

/-- The keyword arguments of a call. -/
abbrev Kwargs := PyDict String Value

/-- An optional text as the value it is passed on as. -/
def optionalText : Option String → Value
  | some s => .str s
  | none => .null

def isNotNone : Value → Bool
  | .null => false
  | _ => true

theorem isNotNone_iff {v : Value} : isNotNone v = true ↔ v ≠ .null := by
  cases v <;> simp [isNotNone]

/-- `None` is dropped, so what is left tells what there was. -/
theorem filter_isNotNone_inj {v w : Value} :
    (some v).filter isNotNone = (some w).filter isNotNone ↔ v = w := by
  constructor
  · intro same
    by_cases hv : isNotNone v = true
    · by_cases hw : isNotNone w = true
      · simpa [Option.filter, hv, hw] using same
      · simp [Option.filter, hv, hw] at same
    · by_cases hw : isNotNone w = true
      · simp [Option.filter, hv, hw] at same
      · rw [isNotNone_iff, not_not] at hv hw
        rw [hv, hw]
  · rintro rfl
    rfl

/-- What another dict gives for a key, or what was there: kept unless it is `None`. -/
theorem get_keep_update (kwargs extra : Kwargs) (key : String) :
    ((kwargs.update extra).keep isNotNone).get key =
      ((extra.get key).or (kwargs.get key)).filter isNotNone := by
  rw [PyDict.get_keep, PyDict.get_update]

section Enums

/-- The members of these enumerations are strings, and compare as strings. -/
def LlmApiProtocol.responses : String := "responses"
def LlmApiProtocol.chatCompletions : String := "chat_completions"

def LlmResponseFormatType.text : String := "text"
def LlmResponseFormatType.jsonObject : String := "json_object"
def LlmResponseFormatType.jsonSchema : String := "json_schema"

end Enums

section Errors

def llmConfigError (message : String) : PyExc :=
  ⟨"LlmConfigError", ["LlmError", "Exception"], message⟩

def llmProviderNotFoundError (message : String) : PyExc :=
  ⟨"LlmProviderNotFoundError", ["LlmConfigError", "LlmError", "Exception"], message⟩

def llmModelNotFoundError (message : String) : PyExc :=
  ⟨"LlmModelNotFoundError", ["LlmConfigError", "LlmError", "Exception"], message⟩

def llmCapabilityError (message : String) : PyExc :=
  ⟨"LlmCapabilityError", ["LlmError", "Exception"], message⟩

def llmProviderError (message : String) : PyExc :=
  ⟨"LlmProviderError", ["LlmError", "Exception"], message⟩

end Errors

structure LlmContentPart where
  type : String
  text : Option String := none
  imageUrl : Option String := none
  fileId : Option String := none
  fileUrl : Option String := none
  detail : Option String := none
  data : Kwargs := .empty

inductive LlmContent where
  | text (s : String)
  | parts (ps : List LlmContentPart)

structure LlmMessage where
  role : String
  content : LlmContent

structure LlmStructuredOutputConfig where
  responseFormat : String := "text"
  jsonSchema : Option Fields := none
  strict : Bool := false

/-- Optional numbers, and a tool choice that is a text or a dict, stand as the values they are. -/
structure LlmRequest where
  modelAlias : Option String := none
  model : Option String := none
  messages : List LlmMessage := []
  instructions : Option String := none
  apiProtocol : Option String := none
  temperature : Value := .null
  topP : Value := .null
  maxOutputTokens : Option ℤ := none
  responseFormat : Option String := none
  jsonSchema : Option Fields := none
  strictJsonSchema : Bool := false
  tools : List Value := []
  toolChoice : Value := .null
  reasoningEffort : Option String := none
  metadata : Fields := []
  extraBody : Kwargs := .empty

structure LlmUsage where
  inputTokens : Value := .null
  outputTokens : Value := .null
  totalTokens : Value := .null
  reasoningTokens : Value := .null
  cachedInputTokens : Value := .null
  raw : Fields := []

/-- What the API answered is passed on as it came, whatever its type. -/
structure LlmResponse where
  content : Value
  model : Option String := none
  modelAlias : Option String := none
  providerName : Option String := none
  providerType : Option String := none
  raw : Value := .null
  usage : Option LlmUsage := none
  finishReason : Value := .null
  responseId : Value := .null
  latencyMs : Option ℤ := none

structure LlmProviderConfig where
  providerName : String
  providerType : String
  baseUrl : Option String := none
  apiKeyEnv : Option String := none
  timeoutSec : PyFloat := ⟨60, "60.0"⟩
  maxRetries : ℤ := 2
  extraHeaders : Fields := []
  extraClientKwargs : Kwargs := .empty

structure LlmModelConfig where
  alias' : String
  providerName : String
  model : String
  apiProtocol : String := LlmApiProtocol.responses
  temperature : Value := .float ⟨0, "0.0"⟩
  topP : Value := .null
  maxOutputTokens : Option ℤ := none
  supportsStructuredOutput : Bool := false
  reasoningEffort : Option String := none
  defaultResponseFormat : Option LlmStructuredOutputConfig := none

structure ResolvedLlmTarget where
  providerConfig : LlmProviderConfig
  modelConfig : LlmModelConfig
  model : String
  apiProtocol : String
  requestDefaults : Kwargs := .empty

/-- The routes of a registry are read by nobody and left out. -/
structure ModelRegistry where
  providers : PyDict String LlmProviderConfig := .empty
  models : PyDict String LlmModelConfig := .empty

namespace ModelRegistry

variable (registry : ModelRegistry)

def registerProvider (config : LlmProviderConfig) : ModelRegistry :=
  { registry with providers := registry.providers.set config.providerName config }

def registerModel (config : LlmModelConfig) : ModelRegistry :=
  { registry with models := registry.models.set config.alias' config }

def getProvider (providerName : String) : Except PyExc LlmProviderConfig :=
  match registry.providers.get providerName with
  | some config => .ok config
  | none => .error (llmProviderNotFoundError s!"provider not found: {providerName}")

def getModel (modelAlias : String) : Except PyExc LlmModelConfig :=
  match registry.models.get modelAlias with
  | some config => .ok config
  | none => .error (llmModelNotFoundError s!"model alias not found: {modelAlias}")

/-- The defaults of a model before those that are `None` are dropped. -/
def modelDefaults (config : LlmModelConfig) : Kwargs :=
  let defaults : Kwargs := ⟨[("temperature", config.temperature), ("top_p", config.topP),
    ("max_output_tokens", config.maxOutputTokens.elim .null .int),
    ("reasoning_effort", optionalText config.reasoningEffort)], by simp⟩
  match config.defaultResponseFormat with
  | none => defaults
  | some format =>
    ((defaults.set "response_format" (.str format.responseFormat)).set "json_schema"
      (format.jsonSchema.elim .null .dict)).set "strict_json_schema" (.bool format.strict)

def resolve (modelAlias : String) : Except PyExc ResolvedLlmTarget := do
  let modelConfig ← registry.getModel modelAlias
  let providerConfig ← registry.getProvider modelConfig.providerName
  return {
    providerConfig := providerConfig
    modelConfig := modelConfig
    model := modelConfig.model
    apiProtocol := modelConfig.apiProtocol
    requestDefaults := (modelDefaults modelConfig).keep isNotNone }

variable {registry}

/-- A resolved target is the model found under the alias, at the provider found under its name. -/
theorem of_resolve {modelAlias : String} {target : ResolvedLlmTarget}
    (resolved : registry.resolve modelAlias = .ok target) :
    registry.models.get modelAlias = some target.modelConfig ∧
      registry.providers.get target.modelConfig.providerName = some target.providerConfig := by
  unfold resolve getModel at resolved
  cases model : registry.models.get modelAlias with
  | none => rw [model] at resolved; cases resolved
  | some modelConfig =>
    rw [model] at resolved
    change (registry.getProvider modelConfig.providerName >>= _) = _ at resolved
    unfold getProvider at resolved
    cases provider : registry.providers.get modelConfig.providerName with
    | none => rw [provider] at resolved; cases resolved
    | some providerConfig =>
      rw [provider] at resolved
      cases resolved
      exact ⟨rfl, provider⟩

end ModelRegistry

end SthBoring.Llm.LlmModels
