/- Module: SthBoring/Llm/ResolvedCalls
   source: sdk_test_agent/llm/clients/openai_compatible_client.py, model_registry.py
   digest: Which provider a request is sent to, and which one its response names. -/

import SthBoring.Llm.OpenAICompatibleClient

set_option autoImplicit false
set_option relaxedAutoImplicit false

namespace SthBoring.Llm.ResolvedCalls

open SthBoring.Lib.Effect (Computation Triple Keeps Returns Post)
open SthBoring.Lib.OrderedDict (PyDict)
open SthBoring.Lib.PyValue (Value PyExc bind_eq_ok textOr)
open SthBoring.Llm.LlmModels
open SthBoring.Llm.OpenAICompatibleClient

variable {σ : Type} (client : OpenAICompatibleLlmClient σ)

/-- What may happen while the client is in use: registrations, requests, and whatever changes the
world elsewhere. -/
inductive Event (σ : Type) where
  | registerProvider (config : LlmProviderConfig)
  | registerModel (config : LlmModelConfig)
  | complete (request : LlmRequest)
  | elsewhere (world : σ)

def step (s : Exchange σ) : Event σ → Exchange σ
  | .registerProvider config =>
    { s with modelRegistry := s.modelRegistry.map (·.registerProvider config) }
  | .registerModel config => { s with modelRegistry := s.modelRegistry.map (·.registerModel config) }
  | .complete request => (complete client request s).2
  | .elsewhere world => { s with world := world }

/-- A client as constructed, with no API client yet. -/
def constructed (modelRegistry : Option ModelRegistry) (world : σ) : Exchange σ :=
  { modelRegistry := modelRegistry, world := world }

def after (history : List (Event σ)) (modelRegistry : Option ModelRegistry) (world : σ) :
    Exchange σ :=
  history.foldl (step client) (constructed modelRegistry world)

/-- The API client has the base URL and the key that a provider's configuration gives. -/
structure ConfiguredFor (config : LlmProviderConfig) (api : ApiClient) : Prop where
  baseUrl : api.kwargs.get "base_url" = (clientKwargs client config).get "base_url"
  apiKey : api.kwargs.get "api_key" = (clientKwargs client config).get "api_key"

/-- The request went to the provider it was resolved to, and the response says where it went. -/
structure GoesToResolved (resolved : ResolvedLlmTarget) (api : ApiClient) (response : LlmResponse) :
    Prop where
  configured : ConfiguredFor client resolved.providerConfig api
  named : response.providerName = some api.providerConfig.providerName

/-- A base URL among the extra arguments of the constructor takes the place of the provider's. -/
def baseUrlOf (config : LlmProviderConfig) : Value :=
  (config.extraClientKwargs.get "base_url").getD (optionalText config.baseUrl)

def environmentKey (config : LlmProviderConfig) : Value :=
  match given config.apiKeyEnv with
  | some name => optionalText (client.environ name)
  | none => .null

def apiKeyOf (config : LlmProviderConfig) : Value :=
  (config.extraClientKwargs.get "api_key").getD (environmentKey client config)

/-- A provider with the base URL and the key of the client's own. -/
structure SameEndpoint (config : LlmProviderConfig) : Prop where
  baseUrl : baseUrlOf client.providerConfig = baseUrlOf config
  apiKey : apiKeyOf client client.providerConfig = apiKeyOf client config

structure SameProvider (config : LlmProviderConfig) : Prop where
  endpoint : SameEndpoint client config
  name : client.providerConfig.providerName = config.providerName

section Arguments

variable {client}

theorem get_baseUrl (config : LlmProviderConfig) :
    (clientKwargs client config).get "base_url" = (some (baseUrlOf config)).filter isNotNone := by
  unfold clientKwargs
  rw [get_keep_update, baseUrlOf]
  cases config.extraClientKwargs.get "base_url" <;> rfl

theorem get_apiKey (config : LlmProviderConfig) :
    (clientKwargs client config).get "api_key" = (some (apiKeyOf client config)).filter isNotNone := by
  unfold clientKwargs
  rw [get_keep_update, apiKeyOf]
  cases config.extraClientKwargs.get "api_key" <;> rfl

theorem configuredFor_iff {api : ApiClient} {config : LlmProviderConfig}
    (own : api.kwargs = clientKwargs client client.providerConfig) :
    ConfiguredFor client config api ↔ SameEndpoint client config := by
  constructor
  · rintro ⟨baseUrl, apiKey⟩
    rw [own, get_baseUrl, get_baseUrl, filter_isNotNone_inj] at baseUrl
    rw [own, get_apiKey, get_apiKey, filter_isNotNone_inj] at apiKey
    exact ⟨baseUrl, apiKey⟩
  · rintro ⟨baseUrl, apiKey⟩
    refine ⟨?_, ?_⟩
    · rw [own, get_baseUrl, get_baseUrl, baseUrl]
    · rw [own, get_apiKey, get_apiKey, apiKey]

end Arguments

section Exchanges

/-- The API client is the one that the client's own provider gives. -/
structure Own (api : ApiClient) : Prop where
  kwargs : api.kwargs = clientKwargs client client.providerConfig
  provider : api.providerConfig = client.providerConfig

/-- Nothing but the client's own provider was ever called. -/
structure OwnOnly (s : Exchange σ) : Prop where
  kept : ∀ api, s.apiClient = some api → Own client api
  called : ∀ call ∈ s.calls, Own client call.client

/-- The state while a request is served: the calls made, and the registry that was found. -/
structure Serving (registry : Option ModelRegistry) (calls : List ApiCall) (s : Exchange σ) :
    Prop where
  own : OwnOnly client s
  registry : s.modelRegistry = registry
  calls : s.calls = calls

variable {client} {registry : Option ModelRegistry} {calls : List ApiCall} {α : Type}

theorem Serving.elsewhere {s : Exchange σ} (h : Serving client registry calls s) (w : σ) :
    Serving client registry calls { s with world := w } :=
  ⟨⟨h.own.kept, h.own.called⟩, h.registry, h.calls⟩

theorem keeps_outside (m : Computation σ PyExc α) :
    Keeps (Serving client registry calls) (outside m) :=
  Keeps.within m fun w _ h => h.elsewhere w

theorem getClient_own : Triple (Serving client registry calls) (getClient client)
    (fun api s => Serving client registry calls s ∧ Own client api)
    (fun _ => Serving client registry calls) := by
  unfold getClient
  have found : Triple (Serving client registry calls) (Computation.read Exchange.apiClient)
      (fun kept s => Serving client registry calls s ∧ ∀ api, kept = some api → Own client api)
      (fun (_ : PyExc) => Serving client registry calls) :=
    Triple.read fun s h => ⟨h, h.own.kept⟩
  refine Triple.bind found fun kept => ?_
  cases kept with
  | some api => exact Triple.pure fun s h => ⟨h.1, h.2 api rfl⟩
  | none =>
    refine Triple.bind (Triple.imp (keeps_outside _) (fun _ h => h.1) (fun _ _ h => h)
      (fun _ _ h => h)) fun _ => ?_
    refine Triple.bind (Q := fun _ => Serving client registry calls) (Triple.modify fun s h => ?_)
      fun _ => Triple.pure fun s h => ⟨h, rfl, rfl⟩
    refine ⟨⟨fun api kept => ?_, h.own.called⟩, h.registry, h.calls⟩
    cases kept
    exact ⟨rfl, rfl⟩

theorem send_calls {call : ApiCall} (own : Own client call.client) :
    Triple (Serving client registry calls) (send client call)
      (fun _ => Serving client registry (calls ++ [call]))
      (fun _ => Serving client registry (calls ++ [call])) := by
  unfold send
  refine Triple.bind (Q := fun _ => Serving client registry (calls ++ [call]))
    (Triple.modify fun s h => ?_) fun _ => keeps_outside _
  refine ⟨⟨h.own.kept, fun made mem => ?_⟩, h.registry, by rw [h.calls]⟩
  rcases List.mem_append.mp mem with old | new
  · exact h.own.called made old
  · rw [List.mem_singleton.mp new]
    exact own

/-- How a request ends: with its one call made, or before it. -/
def Refused (client : OpenAICompatibleLlmClient σ) (registry : Option ModelRegistry)
    (calls : List ApiCall) (s : Exchange σ) : Prop :=
  Serving client registry calls s ∨ ∃ call, Serving client registry (calls ++ [call]) s

def Answered (client : OpenAICompatibleLlmClient σ) (registry : Option ModelRegistry)
    (calls : List ApiCall) (resolved : ResolvedLlmTarget) (response : LlmResponse)
    (s : Exchange σ) : Prop :=
  (∃ call, Serving client registry (calls ++ [call]) s) ∧
    response.providerName = some resolved.providerConfig.providerName

/-- Either protocol: the request is checked, an API client is taken, and one call is made. -/
theorem exchange_answered {request : LlmRequest} {resolved : ResolvedLlmTarget}
    (callOf : ApiClient → ApiCall) (same : ∀ api, (callOf api).client = api)
    (normalize : Value → Except PyExc LlmResponse)
    (named : ∀ raw response, normalize raw = .ok response →
      response.providerName = some resolved.providerConfig.providerName) :
    Triple (Serving client registry calls)
      (do
        Computation.lift (validateStructuredOutput request resolved)
        let api ← getClient client
        let raw ← send client (callOf api)
        Computation.lift (normalize raw))
      (Answered client registry calls resolved)
      (fun _ => Refused client registry calls) := by
  refine Triple.bind (Q := fun _ => Serving client registry calls)
    (Triple.lift (fun _ _ _ h => h) (fun _ _ _ h => .inl h)) fun _ => ?_
  refine Triple.bind (Triple.imp getClient_own (fun _ h => h) (fun _ _ h => h)
    (fun _ _ h => .inl h)) fun api => ?_
  intro s h
  have own : Own client (callOf api).client := by rw [same]; exact h.2
  have rest : Triple (Serving client registry calls)
      (do
        let raw ← send client (callOf api)
        Computation.lift (normalize raw))
      (Answered client registry calls resolved) (fun _ => Refused client registry calls) := by
    refine Triple.bind (Triple.imp (send_calls own) (fun _ h => h) (fun _ _ h => h)
      (fun _ _ h => .inr ⟨_, h⟩)) fun raw => ?_
    exact Triple.lift (fun response made _ h => ⟨⟨_, h⟩, named raw response made⟩)
      (fun _ _ _ h => .inr ⟨_, h⟩)
  exact rest s h.1

theorem normalizeResponses_named {raw : Value} {request : LlmRequest}
    {resolved : ResolvedLlmTarget} {response : LlmResponse}
    (made : normalizeResponses raw request resolved = .ok response) :
    response.providerName = some resolved.providerConfig.providerName := by
  unfold normalizeResponses at made
  dsimp only at made
  split at made
  · cases made
    rfl
  · obtain ⟨content, -, made⟩ := bind_eq_ok.mp made
    cases made
    rfl

theorem normalizeChat_named {raw : Value} {request : LlmRequest}
    {resolved : ResolvedLlmTarget} {response : LlmResponse}
    (made : normalizeChat raw request resolved = .ok response) :
    response.providerName = some resolved.providerConfig.providerName := by
  unfold normalizeChat at made
  obtain ⟨choice, -, made⟩ := bind_eq_ok.mp made
  cases made
  rfl

theorem dispatch_answered (protocol : String) (request : LlmRequest)
    (resolved : ResolvedLlmTarget) :
    Triple (Serving client registry calls) (dispatch client protocol request resolved)
      (Answered client registry calls resolved) (fun _ => Refused client registry calls) := by
  unfold dispatch
  split
  · exact exchange_answered (fun api => ⟨api, .responses, buildResponsesKwargs request resolved⟩)
      (fun _ => rfl) _ (fun _ _ => normalizeResponses_named)
  · split
    · exact exchange_answered (fun api => ⟨api, .chatCompletions, buildChatKwargs request resolved⟩)
        (fun _ => rfl) _ (fun _ _ => normalizeChat_named)
    · exact Triple.raise fun _ h => .inl h

/-- What a request does, whatever the outside answers. -/
theorem complete_answered (request : LlmRequest) :
    Triple (Serving client registry calls) (complete client request)
      (fun response s => ∃ resolved, resolve client registry request = .ok resolved ∧
        Answered client registry calls resolved response s)
      (fun _ => Refused client registry calls) := by
  unfold complete
  refine Triple.bind (Q := fun _ => Serving client registry calls)
    (Triple.imp (keeps_outside _) (fun _ h => h) (fun _ _ h => h) (fun _ _ h => .inl h)) fun start => ?_
  have found : Triple (Serving client registry calls) (Computation.read Exchange.modelRegistry)
      (fun there s => there = registry ∧ Serving client registry calls s)
      (fun (_ : PyExc) => Refused client registry calls) :=
    Triple.read fun s h => ⟨h.registry, h⟩
  refine Triple.bind found fun there => ?_
  rintro s ⟨rfl, h⟩
  cases resolved : resolve client there request with
  | error exc => exact .inl h
  | ok target =>
    have rest : Triple (Serving client there calls)
        (do
          let response ← Computation.mapError wrapped (dispatch client
            (textOr request.apiProtocol target.apiProtocol) request target)
          let stop ← outside client.monotonic
          pure { response with latencyMs := some (milliseconds start stop) })
        (Answered client there calls target) (fun _ => Refused client there calls) := by
      refine Triple.bind (Triple.mapError wrapped (dispatch_answered _ request target)
        (fun _ _ h => h)) fun response => ?_
      rintro s ⟨⟨call, h⟩, named⟩
      have clocked : Triple (Serving client there (calls ++ [call]))
          (do
            let stop ← outside client.monotonic
            pure { response with latencyMs := some (milliseconds start stop) })
          (Answered client there calls target) (fun _ => Refused client there calls) := by
        refine Triple.bind (Triple.imp (keeps_outside _) (fun _ h => h) (fun _ _ h => h)
          (fun _ _ h => .inr ⟨call, h⟩)) fun stop => ?_
        exact Triple.pure fun s h => ⟨⟨call, h⟩, named⟩
      exact clocked s h
    exact Triple.imp rest (fun _ h => h) (fun _ _ h => ⟨target, rfl, h⟩) (fun _ _ h => h) s h

end Exchanges

section Histories

variable {client}

theorem OwnOnly.serving {s : Exchange σ} (h : OwnOnly client s) :
    Serving client s.modelRegistry s.calls s := ⟨h, rfl, rfl⟩

theorem Answered.ownOnly {registry : Option ModelRegistry} {calls : List ApiCall}
    {resolved : ResolvedLlmTarget} {response : LlmResponse} {s : Exchange σ}
    (h : Answered client registry calls resolved response s) : OwnOnly client s := by
  obtain ⟨⟨call, serving⟩, -⟩ := h
  exact serving.own

theorem Refused.ownOnly {registry : Option ModelRegistry} {calls : List ApiCall} {s : Exchange σ}
    (h : Refused client registry calls s) : OwnOnly client s := by
  rcases h with serving | ⟨call, serving⟩
  · exact serving.own
  · exact serving.own

theorem complete_ownOnly (request : LlmRequest) : Keeps (OwnOnly client) (complete client request) := by
  intro s h
  have answered := complete_answered request s h.serving
  rcases ran : complete client request s with ⟨exc | response, s'⟩ <;> rw [ran] at answered
  · exact answered.ownOnly
  · obtain ⟨resolved, -, answered⟩ := answered
    exact answered.ownOnly

theorem step_ownOnly {s : Exchange σ} (h : OwnOnly client s) (event : Event σ) :
    OwnOnly client (step client s event) := by
  cases event with
  | registerProvider config => exact ⟨h.kept, h.called⟩
  | registerModel config => exact ⟨h.kept, h.called⟩
  | complete request => exact (complete_ownOnly request).after h
  | elsewhere world => exact ⟨h.kept, h.called⟩

theorem after_ownOnly (history : List (Event σ)) (modelRegistry : Option ModelRegistry)
    (world : σ) : OwnOnly client (after client history modelRegistry world) := by
  have started : OwnOnly client (constructed modelRegistry world) :=
    ⟨fun _ none => (by cases none), fun _ none => (by cases none)⟩
  unfold after
  generalize constructed modelRegistry world = s at started
  induction history generalizing s with
  | nil => exact started
  | cons event history ih => exact ih _ (step_ownOnly started event)

end Histories

/-- The calls that one request makes. -/
def callsOf (request : LlmRequest) (s : Exchange σ) : List ApiCall :=
  (complete client request s).2.calls.drop s.calls.length

/-- After any history, a call goes to the provider that the alias resolves to exactly when that
provider has the endpoint of the client's own, and a response also names it rightly exactly when
the two have one name. -/
theorem resolved_calls_iff (history : List (Event σ)) (modelRegistry : Option ModelRegistry)
    (world : σ) (registry : ModelRegistry) (request : LlmRequest) (modelAlias : String)
    (resolved : ResolvedLlmTarget)
    (held : (after client history modelRegistry world).modelRegistry = some registry)
    (aliased : given request.modelAlias = some modelAlias)
    (resolves : registry.resolve modelAlias = .ok resolved) :
    (∀ call ∈ callsOf client request (after client history modelRegistry world),
      ConfiguredFor client resolved.providerConfig call.client ↔
        SameEndpoint client resolved.providerConfig) ∧
    ∀ response, (complete client request (after client history modelRegistry world)).1 = .ok response →
      ∃ call, callsOf client request (after client history modelRegistry world) = [call] ∧
        (GoesToResolved client resolved call.client response ↔
          SameProvider client resolved.providerConfig) := by
  have ownOnly : OwnOnly client (after client history modelRegistry world) := after_ownOnly _ _ _
  generalize after client history modelRegistry world = s at held ownOnly
  constructor
  · intro call mem
    have own := ((complete_ownOnly request).after ownOnly).called call (List.mem_of_mem_drop mem)
    exact configuredFor_iff own.kwargs
  · intro response returned
    have answered := complete_answered request s
      ownOnly.serving
    rcases ran : complete client request s with ⟨exc | made, s'⟩ <;> rw [ran] at answered returned
    · cases returned
    · cases returned
      obtain ⟨target, found, ⟨call, serving⟩, named⟩ := answered
      have same : resolve client s.modelRegistry request = .ok resolved := by
        rw [held]
        unfold resolve
        rw [aliased]
        exact resolves
      obtain rfl : target = resolved := Except.ok.inj (found.symm.trans same)
      have own : Own client call.client := serving.own.called call (by rw [serving.calls]; simp)
      refine ⟨call, ?_, fun h => ⟨(configuredFor_iff own.kwargs).mp h.configured, ?_⟩,
        fun h => ⟨(configuredFor_iff own.kwargs).mpr h.endpoint, ?_⟩⟩
      · rw [callsOf, ran, serving.calls, List.drop_left]
      · have names := h.named
        rw [named, own.provider, Option.some.injEq] at names
        exact names.symm
      · rw [named, own.provider, h.name]

section Samples

def mainProvider : LlmProviderConfig where
  providerName := "main"
  providerType := "openai"
  baseUrl := some "https://main.example/v1"
  apiKeyEnv := some "MAIN_KEY"

def localProvider : LlmProviderConfig where
  providerName := "local"
  providerType := "vllm"
  baseUrl := some "http://localhost:8000/v1"

/-- Constructors and calls succeed, and the clock stands still. -/
def sampleClient : OpenAICompatibleLlmClient Unit where
  providerConfig := mainProvider
  environ := fun name => if name = "MAIN_KEY" then some "main-secret" else none
  openAI := fun _ => pure ()
  create := fun _ => pure (.obj "Response" [("output_text", .str "done")])
  monotonic := pure 0

/-- A registry with the client's own provider and another one, and a model at each. -/
def sampleRegistrations : List (Event Unit) :=
  [.registerProvider mainProvider, .registerProvider localProvider,
    .registerModel { alias' := "planner", providerName := "main", model := "gpt" },
    .registerModel { alias' := "private", providerName := "local", model := "llama" }]

def sampleRequest (modelAlias : String) : LlmRequest :=
  { modelAlias := some modelAlias, messages := [{ role := "user", content := .text "hello" }] }

def sampleState : Exchange Unit := after sampleClient sampleRegistrations (some {}) ()

theorem resolved_calls_iff_planner :
    ∃ call, callsOf sampleClient (sampleRequest "planner") sampleState = [call] ∧
      ∃ resolved response, GoesToResolved sampleClient resolved call.client response := by
  obtain ⟨call, made, iff⟩ := (resolved_calls_iff sampleClient sampleRegistrations (some {}) () _
    (sampleRequest "planner") "planner" _ rfl rfl rfl).2 _ rfl
  exact ⟨call, made, _, _, iff.mpr ⟨⟨rfl, rfl⟩, rfl⟩⟩

/-- A request for the model at the other provider goes to the client's own one, with its key, and
the response names the other. -/
theorem other_provider_not_called :
    ∃ resolved response call,
      resolve sampleClient sampleState.modelRegistry (sampleRequest "private") = .ok resolved ∧
      (complete sampleClient (sampleRequest "private") sampleState).1 = .ok response ∧
      callsOf sampleClient (sampleRequest "private") sampleState = [call] ∧
      response.providerName = some "local" ∧
      call.client.kwargs.get "base_url" = some (.str "https://main.example/v1") ∧
      call.client.kwargs.get "api_key" = some (.str "main-secret") ∧
      ¬ ConfiguredFor sampleClient resolved.providerConfig call.client ∧
      ¬ GoesToResolved sampleClient resolved call.client response := by
  refine ⟨_, _, _, rfl, rfl, rfl, rfl, rfl, rfl, ?_, ?_⟩
  · rintro ⟨baseUrl, -⟩
    have same : some (Value.str "https://main.example/v1") = some (.str "http://localhost:8000/v1") :=
      baseUrl
    simp at same
  · rintro ⟨-, named⟩
    have same : some "local" = some "main" := named
    simp at same

end Samples

end SthBoring.Llm.ResolvedCalls
