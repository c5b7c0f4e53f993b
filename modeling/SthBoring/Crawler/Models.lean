/- Module: SthBoring/Crawler/Models
   source: agent_crawler/models/*.py
   digest: Requests, plans, traces and result bundles of the crawler. -/

import SthBoring.Lib.PyValue
import SthBoring.WebKit.Clean

set_option autoImplicit false
set_option relaxedAutoImplicit false

namespace SthBoring.Crawler.Models

open SthBoring.Lib.PyValue (Fields PyExc)
open SthBoring.WebKit.Clean (Document)

inductive TransportHint where
  | auto | http | browser
  deriving DecidableEq

inductive TransportKind where
  | http | browser
  deriving DecidableEq

def TransportKind.value : TransportKind → String
  | http => "http"
  | browser => "browser"

inductive ExtractHint where
  | auto | universal | adapter | intelligent
  deriving DecidableEq

inductive ExtractKind where
  | universal | adapter | intelligent
  deriving DecidableEq

def ExtractKind.value : ExtractKind → String
  | universal => "universal"
  | adapter => "adapter"
  | intelligent => "intelligent"

inductive RenderMode where
  | plain | structured | adapter | llm
  deriving DecidableEq

inductive ErrorType where
  | fetchError | extractError | qualityTooLow | relevanceRejected
  | unsupportedTransport | unsupportedExtractor | maxAttemptsExceeded
  deriving DecidableEq

inductive EventStatus where
  | started | ok | warning | error | skipped
  deriving DecidableEq

def EventStatus.value : EventStatus → String
  | started => "started"
  | ok => "ok"
  | warning => "warning"
  | error => "error"
  | skipped => "skipped"

inductive EventStep where
  | policy | cache | session | fetch | extract | clean | assess | render | emit | fallback
  deriving DecidableEq

def EventStep.value : EventStep → String
  | policy => "policy"
  | cache => "cache"
  | session => "session"
  | fetch => "fetch"
  | extract => "extract"
  | clean => "clean"
  | assess => "assess"
  | render => "render"
  | emit => "emit"
  | fallback => "fallback"

structure CrawlBudgets where
  maxPages : ℤ := 1
  maxElapsedS : ℚ := 30
  maxLlmTokens : ℤ := 0
  maxRawHtmlChars : ℤ := 2000000
  deriving DecidableEq

structure LLMConfig where
  provider : Option String := none
  model : Option String := none
  temperature : ℚ := 0
  maxTokens : Option ℤ := none
  deriving DecidableEq

structure CrawlRequest where
  url : String
  query : Option String := none
  authProfileId : String := "anonymous"
  render : Bool := false
  renderMode : RenderMode := .plain
  transportHint : TransportHint := .auto
  extractHint : ExtractHint := .auto
  maxAttempts : ℤ := 3
  budgets : CrawlBudgets := {}
  persistArtifacts : Bool := false
  debug : Bool := false
  llm : Option LLMConfig := none
  options : Fields := []

structure CrawlPlan where
  transport : TransportKind
  extractKind : ExtractKind
  adapterName : Option String := none
  preferProfile : Bool := false
  useResultCache : Bool := true
  resultCacheTtlS : ℤ := 600
  httpCacheTtlS : ℤ := 3600
  allowLlmGate : Bool := false
  allowLlmRender : Bool := false
  deriving DecidableEq

structure FetchMeta where
  url : String
  finalUrl : String
  statusCode : ℤ
  headers : List (String × String) := []
  elapsedMs : ℚ := 0
  transport : TransportKind := .http
  extra : Fields := []

structure QualityMetrics where
  textChars : ℕ
  chunkCount : ℕ
  linkCount : ℕ
  linkDensity : ℚ
  uniqueLineRatio : ℚ
  deriving DecidableEq

structure QualityScore where
  score : ℚ
  ok : Bool
  reasons : List String
  metrics : QualityMetrics
  deriving DecidableEq

structure RelevanceResult where
  relevant : Bool
  confidence : ℚ
  reason : String := ""

structure ArtifactRefs where
  rawHtmlRef : Option String := none
  documentRef : Option String := none
  renderedRef : Option String := none
  debugRef : Option String := none

structure TraceStep where
  attempt : ℕ
  stepName : String
  status : String
  reason : String := ""
  errorType : Option ErrorType := none
  stepMeta : List (String × String) := []
  deriving DecidableEq

structure TraceInfo where
  runId : String
  fallbackCount : ℕ := 0
  steps : List TraceStep := []
  deriving DecidableEq

def TraceInfo.addStep (trace : TraceInfo) (step : TraceStep) : TraceInfo :=
  { trace with steps := trace.steps ++ [step] }

structure CrawlResultBundle where
  request : CrawlRequest
  plan : CrawlPlan
  fetched : FetchMeta
  rawHtml : Option String
  docClean : Document
  quality : QualityScore
  relevance : Option RelevanceResult := none
  rendered : Option String := none
  trace : Option TraceInfo := none
  artifacts : Option ArtifactRefs := none

structure FetchedPayload where
  info : FetchMeta
  html : Option String

/-- How a run fails: by the declared error, or by another exception that gets out of it. -/
inductive RunFailure where
  | crawlFailed (errorType : ErrorType) (trace : TraceInfo)
  | escaped (exc : PyExc)

def notImplementedError (message : String) : PyExc :=
  ⟨"NotImplementedError", ["RuntimeError", "Exception"], message⟩

end SthBoring.Crawler.Models
