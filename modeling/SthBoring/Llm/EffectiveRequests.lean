/- Module: SthBoring/Llm/EffectiveRequests
   source: sdk_test_agent/llm/clients/openai_compatible_client.py, model_registry.py
   digest: What either protocol carries of the settings of a request. -/

import SthBoring.Llm.OpenAICompatibleClient

set_option autoImplicit false
set_option relaxedAutoImplicit false

namespace SthBoring.Llm.EffectiveRequests

open SthBoring.Lib.OrderedDict (PyDict assocGet)
open SthBoring.Lib.PyValue (Value Fields pyOr)
open SthBoring.Llm.LlmModels
open SthBoring.Llm.OpenAICompatibleClient

inductive StructuredFormat where
  | jsonObject
  | jsonSchema (name schema strict : Value)

/-- The settings of a request that both protocols have a parameter for. -/
@[ext] structure Settings where
  temperature : Option Value
  topP : Option Value
  outputLimit : Option Value
  tools : Option Value
  toolChoice : Option Value
  format : Option StructuredFormat

/-- A format with its details, which one protocol nests and the other does not. -/
def formatOf (type details : Value) : Option StructuredFormat :=
  match type, details with
  | .str type, .dict details =>
    if type = "json_schema" then
      some (.jsonSchema (Fields.getD details "name") (Fields.getD details "schema")
        (Fields.getD details "strict"))
    else if type = "json_object" then some .jsonObject
    else none
  | _, _ => none

def formatInResponses : Option Value → Option StructuredFormat
  | some (.dict text) =>
    match Fields.getD text "format" with
    | .dict format => formatOf (Fields.getD format "type") (.dict format)
    | _ => none
  | _ => none

def formatInChat : Option Value → Option StructuredFormat
  | some (.dict format) =>
    match Fields.getD format "type" with
    | .str "json_object" => some .jsonObject
    | type => formatOf type (Fields.getD format "json_schema")
  | _ => none

def carriedByResponses (kwargs : Kwargs) : Settings where
  temperature := kwargs.get "temperature"
  topP := kwargs.get "top_p"
  outputLimit := kwargs.get "max_output_tokens"
  tools := kwargs.get "tools"
  toolChoice := kwargs.get "tool_choice"
  format := formatInResponses (kwargs.get "text")

def carriedByChat (kwargs : Kwargs) : Settings where
  temperature := kwargs.get "temperature"
  topP := kwargs.get "top_p"
  outputLimit := kwargs.get "max_tokens"
  tools := kwargs.get "tools"
  toolChoice := kwargs.get "tool_choice"
  format := formatInChat (kwargs.get "response_format")

section Wanted

variable (request : LlmRequest) (resolved : ResolvedLlmTarget)

/-- A value, unless it is `None`. -/
def present (v : Value) : Option Value := (some v).filter isNotNone

/-- What the request sets, zero and the empty text included, or the default of the model. -/
def wantedFormatType : Value :=
  unlessNone (optionalText request.responseFormat) (defaultOf resolved "response_format")

def wantedSchema : Value :=
  pyOr (unlessNone (request.jsonSchema.elim .null .dict) (defaultOf resolved "json_schema")) (.dict [])

/-- A structured format with a schema. -/
def structured (fmt schema : Value) (strict : Bool) : Option StructuredFormat :=
  if isFormat fmt LlmResponseFormatType.jsonSchema then
    some (.jsonSchema (.str "structured_output") schema (.bool strict))
  else if isFormat fmt LlmResponseFormatType.jsonObject then some .jsonObject
  else none

def wanted : Settings where
  temperature := present (unlessNone request.temperature (defaultOf resolved "temperature"))
  topP := present (unlessNone request.topP (defaultOf resolved "top_p"))
  outputLimit := present (unlessNone (request.maxOutputTokens.elim .null .int)
    (defaultOf resolved "max_output_tokens"))
  tools := if request.tools.isEmpty then none else some (.list request.tools)
  toolChoice := present request.toolChoice
  format := structured (wantedFormatType request resolved) (wantedSchema request resolved)
    (strict request resolved)

/-- The formats that are written to the API. -/
def isStructured (fmt : Value) : Bool :=
  isFormat fmt LlmResponseFormatType.jsonSchema || isFormat fmt LlmResponseFormatType.jsonObject

/-- Neither sampling parameter is wanted, and nothing that the request sets is taken for unset. -/
structure KeepsSettings : Prop where
  temperature : unlessNone request.temperature (defaultOf resolved "temperature") = .null
  topP : unlessNone request.topP (defaultOf resolved "top_p") = .null
  outputLimit : request.maxOutputTokens = some 0 →
    defaultOf resolved "max_output_tokens" = .int 0
  format : request.responseFormat = some "" →
    isStructured (defaultOf resolved "response_format") = false
  schema : isFormat (wantedFormatType request resolved) LlmResponseFormatType.jsonSchema →
    request.jsonSchema = some [] → (defaultOf resolved "json_schema").truthy = false

end Wanted

section Carried

variable {request : LlmRequest} {resolved : ResolvedLlmTarget}

theorem get_setWhen (condition : Bool) (key other : String) (value : Value) (kwargs : Kwargs) :
    (setWhen condition key value kwargs).get other =
      if condition = true ∧ key = other then some value else kwargs.get other := by
  unfold setWhen
  by_cases set : condition = true
  · simp [set, PyDict.get_set]
  · simp [set]

theorem get_literal (entries : Fields) (nodup : (entries.map Prod.fst).Nodup) (key : String) :
    (⟨entries, nodup⟩ : Kwargs).get key = assocGet key entries := rfl

/-- A parameter that is set when it is not `None`, and was absent before. -/
theorem filter_setWhen (v : Value) :
    (if isNotNone v = true then some v else none).filter isNotNone = present v := by
  unfold present
  by_cases set : isNotNone v = true
  · rw [if_pos set]
  · simp [Option.filter, set]

theorem filter_truthy (v : Value) (null : v.truthy = false → v = .null) :
    (if v.truthy = true then some v else none).filter isNotNone = present v := by
  unfold present
  by_cases set : v.truthy = true
  · rw [if_pos set]
  · rw [null (Bool.eq_false_iff.mpr set)]
    rfl

theorem filter_tools (tools : List Value) :
    (if tools = [] then none else some (Value.list tools)).filter isNotNone =
      if tools = [] then none else some (.list tools) := by
  cases tools <;> rfl

/-- Either protocol writes a format that is set, or null. -/
private theorem eq_null_of_falsy {schema object : Prop} [Decidable schema] [Decidable object]
    {v w : Value} (hv : v.truthy = true) (hw : w.truthy = true)
    (falsy : (if schema then v else if object then w else .null).truthy = false) :
    (if schema then v else if object then w else .null) = .null := by
  split_ifs at falsy ⊢
  · rw [hv] at falsy
    cases falsy
  · rw [hw] at falsy
    cases falsy
  · rfl

theorem responsesTextFormat_truthy
    (falsy : (responsesTextFormat request resolved).truthy = false) :
    responsesTextFormat request resolved = .null :=
  eq_null_of_falsy rfl rfl falsy

theorem chatResponseFormat_truthy
    (falsy : (chatResponseFormat request resolved).truthy = false) :
    chatResponseFormat request resolved = .null :=
  eq_null_of_falsy rfl rfl falsy

/-- The format that either protocol writes. -/
def sentFormat (request : LlmRequest) (resolved : ResolvedLlmTarget) : Option StructuredFormat :=
  structured (format request resolved) (pyOr (schema request resolved) (.dict []))
    (strict request resolved)

theorem formatInResponses_sent :
    formatInResponses (present (responsesTextFormat request resolved)) =
      sentFormat request resolved := by
  unfold responsesTextFormat sentFormat structured
  dsimp only
  split
  · rfl
  · split <;> rfl

theorem formatInChat_sent :
    formatInChat (present (chatResponseFormat request resolved)) = sentFormat request resolved := by
  unfold chatResponseFormat sentFormat structured
  dsimp only
  split
  · rfl
  · split <;> rfl

/-- What the responses protocol carries: no sampling parameter at all. -/
theorem carriedByResponses_eq (plain : request.extraBody = .empty) :
    carriedByResponses (buildResponsesKwargs request resolved) =
      { temperature := none
        topP := none
        outputLimit := present (maxTokens request resolved)
        tools := if request.tools.isEmpty then none else some (.list request.tools)
        toolChoice := present request.toolChoice
        format := sentFormat request resolved } := by
  have text : (buildResponsesKwargs request resolved).get "text" =
      present (responsesTextFormat request resolved) := by
    rw [← filter_truthy _ responsesTextFormat_truthy]
    simp [buildResponsesKwargs, get_keep_update, plain, get_setWhen, get_literal, assocGet]
  unfold carriedByResponses
  rw [text, formatInResponses_sent]
  simp [buildResponsesKwargs, get_keep_update, plain, get_setWhen, get_literal, assocGet,
    filter_setWhen, filter_tools]

/-- What the chat protocol carries. -/
theorem carriedByChat_eq (plain : request.extraBody = .empty) :
    carriedByChat (buildChatKwargs request resolved) =
      { temperature := present (unlessNone request.temperature (defaultOf resolved "temperature"))
        topP := present (unlessNone request.topP (defaultOf resolved "top_p"))
        outputLimit := present (maxTokens request resolved)
        tools := if request.tools.isEmpty then none else some (.list request.tools)
        toolChoice := present request.toolChoice
        format := sentFormat request resolved } := by
  have format : (buildChatKwargs request resolved).get "response_format" =
      present (chatResponseFormat request resolved) := by
    rw [← filter_truthy _ chatResponseFormat_truthy]
    simp [buildChatKwargs, get_keep_update, plain, get_setWhen, get_literal, assocGet]
  unfold carriedByChat
  rw [format, formatInChat_sent]
  simp [buildChatKwargs, get_keep_update, plain, get_setWhen, get_literal, assocGet,
    filter_setWhen, filter_tools, present]

end Carried

section Agreement

variable {request : LlmRequest} {resolved : ResolvedLlmTarget}

/-- Only zero is taken for a limit that is not set. -/
theorem outputLimit_iff (limit : Option ℤ) (default : Value) :
    pyOr (limit.elim .null .int) default = unlessNone (limit.elim .null .int) default ↔
      (limit = some 0 → default = .int 0) := by
  cases limit with
  | none => simp [pyOr, unlessNone, Value.truthy, isNotNone]
  | some n =>
    by_cases zero : n = 0
    · simp [pyOr, unlessNone, Value.truthy, isNotNone, zero]
    · simp [pyOr, unlessNone, Value.truthy, isNotNone, zero]

/-- Only the empty schema is taken for one that is not set. -/
theorem schema_iff (given : Option Fields) (default : Value) :
    pyOr (pyOr (given.elim .null .dict) default) (.dict []) =
        pyOr (unlessNone (given.elim .null .dict) default) (.dict []) ↔
      (given = some [] → default.truthy = false) := by
  cases given with
  | none => simp [pyOr, unlessNone, Value.truthy, isNotNone]
  | some fields =>
    cases fields with
    | cons entry fields => simp [pyOr, unlessNone, Value.truthy, isNotNone]
    | nil =>
      have unset : pyOr (.dict []) default = default := rfl
      have set : unlessNone (.dict []) default = .dict [] := rfl
      simp only [Option.elim_some, unset, set, true_implies]
      by_cases kept : default.truthy = true
      · have other : default ≠ .dict [] := by
          rintro rfl
          cases kept
        simp [pyOr, kept, other]
      · simp [pyOr, kept]

/-- The schema is read where the format is a schema. -/
theorem structured_inj (fmt : Value) (schema schema' : Value) (strict : Bool) :
    structured fmt schema strict = structured fmt schema' strict ↔
      (isFormat fmt LlmResponseFormatType.jsonSchema → schema = schema') := by
  unfold structured
  by_cases isSchema : isFormat fmt LlmResponseFormatType.jsonSchema = true
  · simp [isSchema]
  · simp [isSchema]

theorem structured_none_iff (fmt schema : Value) (strict : Bool) :
    structured fmt schema strict = none ↔ isStructured fmt = false := by
  unfold structured isStructured
  by_cases isSchema : isFormat fmt LlmResponseFormatType.jsonSchema = true
  · simp [isSchema]
  · by_cases isObject : isFormat fmt LlmResponseFormatType.jsonObject = true
    · simp [isSchema, isObject]
    · simp [isSchema, isObject]

/-- Only the empty text is taken for a format that is not set. -/
theorem format_eq (set : request.responseFormat ≠ some "") :
    format request resolved = wantedFormatType request resolved := by
  unfold format wantedFormatType
  cases type : request.responseFormat with
  | none => rfl
  | some text =>
    have nonempty : text ≠ "" := fun empty => set (by rw [type, empty])
    simp [optionalText, pyOr, unlessNone, Value.truthy, isNotNone, nonempty]

theorem sentFormat_iff :
    sentFormat request resolved = (wanted request resolved).format ↔
      (request.responseFormat = some "" →
        isStructured (defaultOf resolved "response_format") = false) ∧
      (isFormat (wantedFormatType request resolved) LlmResponseFormatType.jsonSchema →
        request.jsonSchema = some [] → (defaultOf resolved "json_schema").truthy = false) := by
  by_cases empty : request.responseFormat = some ""
  · have read : format request resolved = defaultOf resolved "response_format" := by
      rw [format, empty]
      rfl
    have plain : wantedFormatType request resolved = .str "" := by
      rw [wantedFormatType, empty]
      rfl
    have unstructured : (wanted request resolved).format = none := by
      rw [wanted, plain]
      rfl
    have notSchema : isFormat (.str "") LlmResponseFormatType.jsonSchema = false := rfl
    rw [unstructured, sentFormat, structured_none_iff, read, plain, notSchema]
    simp [empty]
  · rw [sentFormat, wanted, format_eq empty, structured_inj, schema, wantedSchema, schema_iff]
    simp [empty]

/-- The two protocols carry the same settings, and these are the wanted ones, exactly when no
sampling parameter is wanted and nothing that is set is taken for unset. -/
theorem carried_alike_iff (plain : request.extraBody = .empty) :
    (carriedByResponses (buildResponsesKwargs request resolved) =
        carriedByChat (buildChatKwargs request resolved) ∧
      carriedByChat (buildChatKwargs request resolved) = wanted request resolved) ↔
    KeepsSettings request resolved := by
  have limit : present (maxTokens request resolved) = (wanted request resolved).outputLimit ↔
      (request.maxOutputTokens = some 0 → defaultOf resolved "max_output_tokens" = .int 0) := by
    rw [← outputLimit_iff, ← filter_isNotNone_inj]
    rfl
  have absent : ∀ v : Value, none = present v ↔ v = .null := fun v => by
    rw [eq_comm]
    exact filter_isNotNone_inj (w := .null)
  rw [carriedByResponses_eq plain, carriedByChat_eq plain]
  constructor
  · rintro ⟨alike, asWanted⟩
    obtain ⟨keptFormat, keptSchema⟩ := sentFormat_iff.mp (congrArg Settings.format asWanted)
    exact ⟨(absent _).mp (congrArg Settings.temperature alike),
      (absent _).mp (congrArg Settings.topP alike),
      limit.mp (congrArg Settings.outputLimit asWanted), keptFormat, keptSchema⟩
  · intro keeps
    have noTemperature := (absent _).mpr keeps.temperature
    have noTopP := (absent _).mpr keeps.topP
    refine ⟨?_, ?_⟩
    · rw [← noTemperature, ← noTopP]
    · ext1
      · rfl
      · rfl
      · exact limit.mpr keeps.outputLimit
      · rfl
      · rfl
      · exact sentFormat_iff.mpr ⟨keeps.format, keeps.schema⟩

/-- A model that the request names itself has no defaults. -/
def adHocTarget : ResolvedLlmTarget where
  providerConfig := { providerName := "p", providerType := "openai" }
  modelConfig := adHocModelConfig "gpt-test" "p"
  model := "gpt-test"
  apiProtocol := LlmApiProtocol.responses

theorem carried_alike_iff_adHoc :
    carriedByResponses (buildResponsesKwargs { maxOutputTokens := some 123 } adHocTarget) =
        carriedByChat (buildChatKwargs { maxOutputTokens := some 123 } adHocTarget) ∧
      carriedByChat (buildChatKwargs { maxOutputTokens := some 123 } adHocTarget) =
        wanted { maxOutputTokens := some 123 } adHocTarget := by
  refine (carried_alike_iff rfl).mpr ⟨rfl, rfl, ?_, ?_, ?_⟩
  · intro zero
    cases zero
  · intro empty
    cases empty
  · intro _ empty
    cases empty

def plannerTarget : Except SthBoring.Lib.PyValue.PyExc ResolvedLlmTarget :=
  ((ModelRegistry.registerProvider {} { providerName := "p", providerType := "openai" }).registerModel
    { alias' := "planner", providerName := "p", model := "gpt-test", maxOutputTokens := some 100 }).resolve
    "planner"

/-- One request through both protocols: the temperature is left out of one, and the limit of zero
gives way to the default in both. -/
theorem temperature_not_sent :
    ∃ resolved, plannerTarget = .ok resolved ∧
      let request : LlmRequest :=
        { modelAlias := some "planner", temperature := .int 0, maxOutputTokens := some 0 }
      request.extraBody = .empty ∧
      (carriedByResponses (buildResponsesKwargs request resolved)).temperature = none ∧
      (carriedByChat (buildChatKwargs request resolved)).temperature = some (.int 0) ∧
      (carriedByChat (buildChatKwargs request resolved)).outputLimit = some (.int 100) ∧
      (wanted request resolved).outputLimit = some (.int 0) ∧
      ¬ (carriedByResponses (buildResponsesKwargs request resolved) =
          carriedByChat (buildChatKwargs request resolved) ∧
        carriedByChat (buildChatKwargs request resolved) = wanted request resolved) := by
  refine ⟨_, rfl, rfl, rfl, rfl, rfl, rfl, ?_⟩
  rintro ⟨alike, -⟩
  have same : none = some (Value.int 0) := congrArg Settings.temperature alike
  cases same

end Agreement

end SthBoring.Llm.EffectiveRequests
