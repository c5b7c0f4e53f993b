/- Module: SthBoring/Crawler/WebReadPage
   source: agent_crawler/tools/*.py
   digest: The page reading tool: its input, the request it makes, and the result it maps. -/

import SthBoring.Crawler.Runner

set_option autoImplicit false
set_option relaxedAutoImplicit false

namespace SthBoring.Crawler.WebReadPage

open SthBoring.Crawler.Models
open SthBoring.Crawler.Runner
open SthBoring.Lib
open SthBoring.Lib.Effect (Computation)
open SthBoring.Lib.OrderedDict (assocGet)
open SthBoring.Lib.PyValue
open SthBoring.Lib.UrlParse (Interpreter netloc)
open SthBoring.WebKit.Clean (Chunk)

section Models

inductive TransportMode where
  | auto | http | browser
  deriving DecidableEq

inductive ToolRenderMode where
  | agentText | chunks | both | none
  deriving DecidableEq

def ToolRenderMode.text : ToolRenderMode → String
  | agentText => "agent_text"
  | chunks => "chunks"
  | both => "both"
  | none => "none"

inductive CacheMode where
  | prefer | refresh | bypass
  deriving DecidableEq

def CacheMode.text : CacheMode → String
  | prefer => "prefer"
  | refresh => "refresh"
  | bypass => "bypass"

inductive ReadStatus where
  | success | authRequired | lowQuality | fetchError | extractError | timeout | blocked
  | configError | unknownError
  deriving DecidableEq

structure WebReadPageToolInput where
  url : String
  query : Option String := none
  transport : TransportMode := .auto
  authProfileId : String := "anonymous"
  interactiveLogin : Bool := false
  keepPageOpen : Bool := false
  renderMode : ToolRenderMode := .agentText
  maxChunks : ℤ := 8
  maxRenderChars : ℤ := 12000
  maxChunkChars : ℤ := 1500
  includeLinks : Bool := true
  maxLinks : ℤ := 30
  includeRawHtml : Bool := false
  maxRawHtmlChars : ℤ := 5000
  cacheMode : CacheMode := .prefer
  debug : Bool := false

structure WebPageMeta where
  requestedUrl : String
  finalUrl : String
  title : Option String
  statusCode : ℤ
  contentType : Option String
  transportUsed : TransportKind

structure WebChunk where
  chunkId : String
  order : ℕ
  rank : ℕ
  score : PyFloat
  text : String
  title : Option String
  sourceUrl : String
  charCount : ℕ
  truncated : Bool
  metadata : Fields

structure WebPageContent where
  renderedText : Option String
  cleanTextPreview : Option String
  rawHtmlPreview : Option String
  chunks : List WebChunk
  totalTextChars : ℕ
  totalChunks : ℕ
  truncated : Bool

inductive LinkKind where
  | internal | external | unknown
  deriving DecidableEq

structure WebLink where
  text : String
  url : String
  kind : LinkKind
  rank : ℕ

structure WebLinksInfo where
  links : List WebLink
  totalLinks : ℕ
  truncated : Bool

inductive QualityLabel where
  | good | medium | poor
  deriving DecidableEq

structure WebQualityInfo where
  score : ℚ
  label : QualityLabel
  textChars : ℕ
  chunkCount : ℕ
  linkCount : ℕ
  reason : Option String
  fallbackTriggered : Bool
  fallbackReason : Option String

structure WebAuthInfo where
  authRequired : Bool
  confidence : ℚ
  reason : Value
  interactiveLoginUsed : Bool
  interactiveLoginSuccess : Value
  authProfileId : String
  storageStateUsed : Bool
  storageStateSaved : Bool
  beforeLoginUrl : Value
  afterLoginUrl : Value
  beforeDensityScore : Value
  afterDensityScore : Value

structure WebBrowserInfo where
  pageRef : Value
  contextRef : Value
  keptOpen : Bool
  headless : Value
  browserName : Value
  redirectChain : List Value

structure WebCacheInfo where
  cacheHit : Bool
  cacheKey : Value
  cacheMode : CacheMode

structure WebTraceInfo where
  runId : Option String
  attempts : ℕ
  fallbackChain : List String
  events : List String

structure WebErrorInfo where
  errorType : String
  message : String
  retryable : Bool

structure WebReadPageResult where
  ok : Bool
  status : ReadStatus
  page : WebPageMeta
  content : WebPageContent
  links : WebLinksInfo
  quality : WebQualityInfo
  auth : WebAuthInfo
  browser : Option WebBrowserInfo
  cache : WebCacheInfo
  trace : WebTraceInfo
  error : Option WebErrorInfo

end Models

section Mapper

/-- `s[:limit]`. -/
def sliceTo (limit : ℤ) (s : String) : String :=
  if 0 ≤ limit then String.ofList (s.toList.take limit.toNat)
  else String.ofList (s.toList.take (s.length - limit.natAbs))

/-- `_truncate_text` of a text. -/
def truncateText (text : String) (limit : ℤ) : String × Bool :=
  if (text.length : ℤ) ≤ limit then (text, false)
  else (sliceTo limit text ++ "\n...[truncated]", true)

def qualityLabel (score : ℚ) : QualityLabel :=
  if Binary64.round (70 / 100) ≤ score then .good
  else if Binary64.round (40 / 100) ≤ score then .medium
  else .poor

/-- `float(v)`. -/
def toFloat (py : Interpreter) : Value → Except PyExc ℚ
  | .bool b => .ok (if b then 1 else 0)
  | .int n =>
    if n.natAbs < 2 ^ 1024 - 2 ^ 970 then .ok (Binary64.round n)
    else .error ⟨"OverflowError", ["ArithmeticError", "Exception"], "int too large to convert to float"⟩
  | .float x => .ok x.value
  | .str s =>
    match py.parseFloat s with
    | some x => .ok x
    | none => .error (valueError s!"could not convert string to float: {PyValue.reprStr s}")
  | .bytes b =>
    match py.parseFloat (String.ofList (b.toList.map (fun x => Char.ofNat x.toNat))) with
    | some x => .ok x
    | none => .error (valueError s!"could not convert string to float: {reprBytes b}")
  | v => .error (typeError
      s!"float() argument must be a string or a real number, not '{v.typeName}'")

/-- `extra.get(key, False)` as a truth value. -/
def flag (extra : Fields) (key : String) : Bool := (extra.getD key).truthy

def mapChunk (toolInput : WebReadPageToolInput) (chunk : Chunk × ℕ) : WebChunk :=
  let (text, truncated) := truncateText chunk.1.text toolInput.maxChunkChars
  let digits := toString chunk.2
  { chunkId := "chunk_" ++ String.ofList (List.replicate (4 - digits.length) '0') ++ digits
    order := if chunk.1.order = 0 then chunk.2 else chunk.1.order
    rank := chunk.2
    score := chunk.1.score
    text := text
    title := chunk.1.title
    sourceUrl := chunk.1.sourceUrl
    charCount := text.length
    truncated := truncated
    metadata := chunk.1.chunkMeta }

def linkKind (py : Interpreter) (requestedUrl url : String) : LinkKind :=
  match netloc py requestedUrl, netloc py url with
  | .ok baseHost, .ok linkHost =>
    if linkHost ≠ "" ∧ baseHost ≠ "" then
      if linkHost = baseHost then .internal else .external
    else .unknown
  | _, _ => .unknown

/-- `_derive_status`, of a bundle that has a document. -/
def deriveStatus (authRequired : Bool) (qualityScore : ℚ) :
    Bool × ReadStatus × Option WebErrorInfo :=
  if authRequired then
    (false, .authRequired, some ⟨"auth_required", "The page requires authentication. " ++
      "Retry with interactive_login=true or a valid auth_profile_id.", true⟩)
  else if qualityScore < Binary64.round (30 / 100) then
    (false, .lowQuality, some ⟨"low_quality",
      "The crawler fetched the page but extracted low-quality content.", true⟩)
  else (true, .success, none)

def mapContent (toolInput : WebReadPageToolInput) (bundle : CrawlResultBundle) : WebPageContent :=
  let doc := bundle.docClean
  let chunks := (doc.chunks.take toolInput.maxChunks.toNat).zipIdx.map (mapChunk toolInput)
  let raw := if toolInput.includeRawHtml then
    bundle.rawHtml.map (truncateText · toolInput.maxRawHtmlChars) else none
  let rendered := if toolInput.renderMode ∈ [.agentText, .both] then
    some (truncateText (textOr bundle.rendered doc.text) toolInput.maxRenderChars) else none
  let clean := truncateText doc.text toolInput.maxRenderChars
  { renderedText := rendered.map Prod.fst
    cleanTextPreview := some clean.1
    rawHtmlPreview := raw.map Prod.fst
    chunks := if toolInput.renderMode ∈ [.chunks, .both, .agentText] then chunks else []
    totalTextChars := doc.text.length
    totalChunks := doc.chunks.length
    truncated := raw.any Prod.snd || rendered.any Prod.snd || clean.2 }

def mapLinks (py : Interpreter) (toolInput : WebReadPageToolInput) (bundle : CrawlResultBundle) :
    WebLinksInfo :=
  let all := bundle.docClean.links
  let links := (all.take toolInput.maxLinks.toNat).zipIdx.map (fun link =>
    (⟨"", link.1, linkKind py bundle.request.url link.1, link.2⟩ : WebLink))
  { links := if toolInput.includeLinks then links else []
    totalLinks := all.length
    truncated := toolInput.maxLinks < all.length }

/-- A reason that is empty is none. -/
def orNone (text : String) : Option String := if text = "" then none else some text

def mapQuality (bundle : CrawlResultBundle) : WebQualityInfo where
  score := bundle.quality.score
  label := qualityLabel bundle.quality.score
  textChars := bundle.quality.metrics.textChars
  chunkCount := bundle.quality.metrics.chunkCount
  linkCount := bundle.quality.metrics.linkCount
  reason := orNone (joinWith "," bundle.quality.reasons)
  fallbackTriggered := bundle.trace.any (·.fallbackCount ≠ 0)
  fallbackReason := bundle.trace.bind (fun trace => trace.steps.getLast?.map TraceStep.reason)

def mapAuth (py : Interpreter) (toolInput : WebReadPageToolInput) (extra : Fields) :
    Except PyExc WebAuthInfo := do
  let confidence ← toFloat py (pyOr (extra.getD "auth_confidence") (.float ⟨0, "0.0"⟩))
  return { authRequired := flag extra "auth_required"
           confidence := confidence
           reason := extra.getD "auth_reason"
           interactiveLoginUsed := flag extra "interactive_login_used"
           interactiveLoginSuccess := extra.getD "interactive_login_success"
           authProfileId := toolInput.authProfileId
           storageStateUsed := flag extra "storage_state_used"
           storageStateSaved := flag extra "storage_state_saved"
           beforeLoginUrl := extra.getD "before_login_url"
           afterLoginUrl := extra.getD "after_login_url"
           beforeDensityScore := extra.getD "before_login_density_score"
           afterDensityScore := extra.getD "after_login_density_score" }

def mapBrowser (fetched : FetchMeta) : Except PyExc (Option WebBrowserInfo) :=
  let extra := fetched.extra
  if fetched.transport = .browser ∨ extra ≠ [] then do
    let redirectChain ← (pyOr (extra.getD "redirect_chain") (.list [])).iter
    return some { pageRef := extra.getD "page_ref"
                  contextRef := extra.getD "context_ref"
                  keptOpen := flag extra "kept_open"
                  headless := extra.getD "headless"
                  browserName := extra.getD "browser_name"
                  redirectChain := redirectChain }
  else .ok none

def mapTrace (bundle : CrawlResultBundle) : WebTraceInfo :=
  let steps := (bundle.trace.map TraceInfo.steps).getD []
  { runId := bundle.trace.map TraceInfo.runId
    attempts := max 1 steps.length
    fallbackChain := (steps.filter (·.stepName = "fallback")).map
      (fun step => (assocGet "plan_transport" step.stepMeta).getD "")
    events := steps.map (fun step => step.stepName ++ ":" ++ step.status) }

def mapCrawlResultToWebResult (py : Interpreter) (toolInput : WebReadPageToolInput)
    (bundle : CrawlResultBundle) : Except PyExc WebReadPageResult := do
  let fetched := bundle.fetched
  let auth ← mapAuth py toolInput fetched.extra
  let browser ← mapBrowser fetched
  let (ok, status, error) := deriveStatus auth.authRequired bundle.quality.score
  return { ok := ok
           status := status
           page := { requestedUrl := bundle.request.url
                     finalUrl := fetched.finalUrl
                     title := bundle.docClean.title
                     statusCode := fetched.statusCode
                     contentType := assocGet "content-type" fetched.headers
                     transportUsed := fetched.transport }
           content := mapContent toolInput bundle
           links := mapLinks py toolInput bundle
           quality := mapQuality bundle
           auth := auth
           browser := browser
           cache := { cacheHit := flag fetched.extra "cache_hit"
                      cacheKey := fetched.extra.getD "cache_key"
                      cacheMode := toolInput.cacheMode }
           trace := mapTrace bundle
           error := error }

end Mapper

section Tool

def TransportMode.hint : TransportMode → TransportHint
  | auto => .auto
  | http => .http
  | browser => .browser

/-- `_to_crawl_request`. -/
def toCrawlRequest (toolInput : WebReadPageToolInput) : CrawlRequest where
  url := toolInput.url
  query := toolInput.query
  authProfileId := toolInput.authProfileId
  render := toolInput.renderMode ∈ [.agentText, .both]
  renderMode := if toolInput.renderMode ∈ [.agentText, .both] then .plain else .structured
  transportHint := toolInput.transport.hint
  debug := toolInput.debug
  options := [
    ("interactive_login", .bool toolInput.interactiveLogin),
    ("keep_page_open", .bool toolInput.keepPageOpen),
    ("cache_mode", .str toolInput.cacheMode.text),
    ("include_raw_html", .bool toolInput.includeRawHtml),
    ("max_raw_html_chars", .int toolInput.maxRawHtmlChars),
    ("max_chunks", .int toolInput.maxChunks),
    ("max_render_chars", .int toolInput.maxRenderChars),
    ("max_chunk_chars", .int toolInput.maxChunkChars),
    ("include_links", .bool toolInput.includeLinks),
    ("max_links", .int toolInput.maxLinks),
    ("tool_render_mode", .str toolInput.renderMode.text)]

variable {σ : Type}

/-- `WebReadPageTool.arun`. -/
def arun (runner : CrawlerRunner σ) (toolInput : WebReadPageToolInput) :
    Computation (Crawl σ) RunFailure WebReadPageResult := do
  let crawlResult ← run runner (toCrawlRequest toolInput)
  Computation.mapError RunFailure.escaped
    (Computation.lift (mapCrawlResultToWebResult runner.py toolInput crawlResult))

end Tool

end SthBoring.Crawler.WebReadPage
