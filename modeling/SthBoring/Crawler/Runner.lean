/- Module: SthBoring/Crawler/Runner
   source: agent_crawler/loop/runner.py, agent_crawler/extract/adapter.py
   digest: One crawl: attempts with a falling plan, each of a lookup, a fetch, an extraction and
     its assessment. -/

import SthBoring.Crawler.Assess
import SthBoring.Crawler.Caching
import SthBoring.Crawler.Policy
import SthBoring.Crawler.Session
import SthBoring.Lib.Effect

set_option autoImplicit false
set_option relaxedAutoImplicit false

namespace SthBoring.Crawler.Runner

open SthBoring.Crawler.Assess
open SthBoring.Crawler.Caching
open SthBoring.Crawler.Models
open SthBoring.Crawler.Policy
open SthBoring.Crawler.Session
open SthBoring.Lib.Effect (Computation)
open SthBoring.Lib.PyValue (Fields PyExc Value joinWith textOr)
open SthBoring.Lib.UrlParse (Interpreter asciiInterpreter netloc)
open SthBoring.WebKit.Clean (Chunk Cleaner Document chunk)

structure SiteAdapter (σ : Type) where
  name : String
  canHandle : String → Except PyExc Bool
  extract : String → String → Computation σ PyExc Document

/-- The parts a runner is put together from. The fetcher, the extractors and the reranker may do
anything to the world and may raise. -/
structure CrawlerRunner (σ : Type) where
  py : Interpreter
  domainRegistry : DomainPolicyRegistry := {}
  fetch : String → CrawlPlan → CrawlSession → Option Fields → Computation σ PyExc FetchedPayload
  universalExtractor : String → String → Computation σ PyExc Document
  adapters : List (SiteAdapter σ) := []
  intelligentExtractor : String → String → Option String → Computation σ PyExc Document
  cleaner : Cleaner := {}
  rank : List Chunk → Option String → Computation σ PyExc (List Chunk)
  qualityAssessor : QualityAssessor := {}
  renderer : Renderer := {}
  artifactAdapter : ArtifactAdapterForCrawler := {}
  time : σ → ℚ × σ
  uuid4 : σ → String × σ

/-- One call of the fetcher. -/
structure FetchCall where
  attempt : ℕ
  options : Option Fields
  outcome : Except PyExc FetchedPayload

/-- The world with what a runner keeps between runs, and what the current run has recorded. The
calls are a history of the run that no code reads. -/
structure Crawl (σ : Type) where
  world : σ
  cache : ResultCache := {}
  sessions : SessionStore := {}
  trace : TraceInfo := { runId := "" }
  calls : List FetchCall := []

def Crawl.addStep {σ : Type} (step : TraceStep) (s : Crawl σ) : Crawl σ :=
  { s with trace := s.trace.addStep step }

abbrev Crawling (σ α : Type) : Type := Computation (Crawl σ) PyExc α

variable {σ : Type}

section Steps

def inWorld {α : Type} (m : Computation σ PyExc α) : Crawling σ α :=
  Computation.within Crawl.world (fun world s => { s with world := world }) m

def draw {α : Type} (f : σ → α × σ) : Crawling σ α := inWorld (fun world => (.ok (f world).1, (f world).2))

/-- `_record`. The event it logs is read by nobody; its domain is parsed from the URL. -/
def record (runner : CrawlerRunner σ) (request : CrawlRequest) (plan : CrawlPlan) (attempt : ℕ)
    (step : EventStep) (status : EventStatus) (message : String)
    (errorType : Option ErrorType := none) : Crawling σ Unit := do
  Computation.modify (Crawl.addStep
    { attempt := attempt, stepName := step.value, status := status.value, reason := message,
      errorType := errorType, stepMeta := [("plan_transport", plan.transport.value),
        ("plan_extract_kind", plan.extractKind.value)] })
  let _ ← Computation.lift (netloc runner.py request.url)
  return ()

/-- `_fallback`. -/
def fallback (runner : CrawlerRunner σ) (request : CrawlRequest) (plan : CrawlPlan) (attempt : ℕ)
    (reason : String) : Crawling σ CrawlPlan := do
  let changed := if nextPlan plan = plan then 0 else 1
  Computation.modify fun s =>
    { s with trace := { s.trace with fallbackCount := s.trace.fallbackCount + changed } }
  record runner request (nextPlan plan) attempt .fallback .warning reason
  return nextPlan plan

end Steps

section Cache

/-- The cache is asked, unless it is bypassed; a refresh asks it and takes no answer. -/
def consult (runner : CrawlerRunner σ) (request : CrawlRequest) (plan : CrawlPlan) (attempt : ℕ)
    (cacheMode : String) : Crawling σ (Option CrawlResultBundle) := do
  if plan.useResultCache = true ∧ cacheMode ≠ "bypass" then
    let now ← draw runner.time
    let cached ← Computation.read fun s => (s.cache.get now (makeKey request plan)).1
    Computation.modify fun s => { s with cache := (s.cache.get now (makeKey request plan)).2 }
    if cached.isSome ∧ cacheMode ≠ "refresh" then
      record runner request plan attempt .cache .ok "result cache hit"
      return cached
    record runner request plan attempt .cache .skipped "result cache miss"
    return none
  return none

/-- A hit: the cached bundle gets the trace of this run, and a rendering if it has none. -/
def serve (runner : CrawlerRunner σ) (request : CrawlRequest) (plan : CrawlPlan)
    (cached : CrawlResultBundle) : Crawling σ CrawlResultBundle := do
  let trace ← Computation.read Crawl.trace
  let traced := { cached with trace := some trace }
  Computation.modify fun s => { s with cache := s.cache.amend (makeKey request plan) traced }
  if request.render = true ∧ traced.rendered = none then
    let text ← Computation.lift (runner.renderer.render traced.docClean request.renderMode)
    let patched := { traced with rendered := some text }
    Computation.modify fun s => { s with cache := s.cache.amend (makeKey request plan) patched }
    return patched
  return traced

end Cache

section Page

def openSession (runner : CrawlerRunner σ) (request : CrawlRequest) (plan : CrawlPlan) :
    Crawling σ CrawlSession := do
  let now ← draw runner.time
  let store ← Computation.read Crawl.sessions
  let (session, store) ←
    Computation.lift (store.get runner.py now request.url request.authProfileId plan.transport)
  Computation.modify fun s => { s with sessions := store }
  return session

def callFetcher (runner : CrawlerRunner σ) (request : CrawlRequest) (plan : CrawlPlan)
    (attempt : ℕ) (session : CrawlSession) (options : Option Fields) :
    Crawling σ FetchedPayload := do
  let outcome ← Computation.outcome (inWorld (runner.fetch request.url plan session options))
  Computation.modify fun s => { s with calls := s.calls ++ [⟨attempt, options, outcome⟩] }
  Computation.lift outcome

/-- A fetcher that raises a `TypeError` is called again without the options. -/
def fetchPage (runner : CrawlerRunner σ) (request : CrawlRequest) (plan : CrawlPlan) (attempt : ℕ)
    (session : CrawlSession) (options : Fields) : Crawling σ FetchedPayload := do
  match ← Computation.outcome (callFetcher runner request plan attempt session (some options)) with
  | .ok fetched => return fetched
  | .error exc =>
    if exc.isInstance "TypeError" then callFetcher runner request plan attempt session none
    else Computation.raise exc

def firstHandling (url : String) : List (SiteAdapter σ) → Except PyExc (Option (SiteAdapter σ))
  | [] => .ok none
  | adapter :: rest => do
    if ← adapter.canHandle url then return some adapter
    firstHandling url rest

/-- `SiteAdapterRegistry.resolve`. -/
def resolveAdapter (adapters : List (SiteAdapter σ)) (url : String) (name : Option String) :
    Except PyExc (Option (SiteAdapter σ)) :=
  match name.bind (fun name => adapters.find? (·.name = name)) with
  | some adapter => .ok (some adapter)
  | none => firstHandling url adapters

/-- `_extract`. -/
def extract (runner : CrawlerRunner σ) (request : CrawlRequest) (plan : CrawlPlan) (html : String) :
    Computation σ PyExc Document :=
  match plan.extractKind with
  | .universal => runner.universalExtractor html request.url
  | .adapter => do
    match ← Computation.lift (resolveAdapter runner.adapters request.url plan.adapterName) with
    | none => runner.universalExtractor html request.url
    | some adapter => adapter.extract html request.url
  | .intelligent => runner.intelligentExtractor html request.url request.query

/-- The document of a page: extracted, cut into chunks, its chunks ranked. -/
def readPage (runner : CrawlerRunner σ) (request : CrawlRequest) (plan : CrawlPlan) (attempt : ℕ)
    (fetched : FetchedPayload) : Crawling σ Document := do
  let doc ← inWorld (extract runner request plan (textOr fetched.html ""))
  record runner request plan attempt .extract .ok "extract complete"
  let doc := chunk runner.cleaner doc
  let chunks ← inWorld (runner.rank doc.chunks request.query)
  record runner request plan attempt .clean .ok "clean and rerank complete"
  return { doc with chunks := chunks }

/-- Why an attempt failed: the type of the error, and the reason for the next plan. -/
abbrev Failure := ErrorType × String

structure Page where
  fetched : FetchedPayload
  doc : Document
  quality : QualityScore

def fetchStage (runner : CrawlerRunner σ) (request : CrawlRequest) (plan : CrawlPlan)
    (attempt : ℕ) : Crawling σ (Except Failure FetchedPayload) := do
  let session ← openSession runner request plan
  record runner request plan attempt .session .ok "session ready"
  match ← Computation.outcome (do
    let fetched ← fetchPage runner request plan attempt session request.options
    record runner request plan attempt .fetch .ok "fetch complete"
    return fetched) with
  | .error exc =>
    let errorType := if exc.isInstance "NotImplementedError" then .unsupportedTransport
      else .fetchError
    record runner request plan attempt .fetch .error exc.message (some errorType)
    return .error (errorType, exc.message)
  | .ok fetched =>
    if 400 ≤ fetched.info.statusCode then
      let reason := s!"bad status {fetched.info.statusCode}"
      record runner request plan attempt .fetch .error reason (some .fetchError)
      return .error (.fetchError, reason)
    return .ok fetched

def readStage (runner : CrawlerRunner σ) (request : CrawlRequest) (plan : CrawlPlan) (attempt : ℕ)
    (fetched : FetchedPayload) : Crawling σ (Except Failure Page) := do
  match ← Computation.outcome (readPage runner request plan attempt fetched) with
  | .error exc =>
    let errorType := if exc.isInstance "NotImplementedError" then .unsupportedExtractor
      else .extractError
    record runner request plan attempt .extract .error exc.message (some errorType)
    return .error (errorType, exc.message)
  | .ok doc =>
    let quality := runner.qualityAssessor.score doc
    let reason := joinWith "," quality.reasons
    record runner request plan attempt .assess (if quality.ok then .ok else .warning)
      (textOr (some reason) "quality ok")
    if quality.ok then return .ok ⟨fetched, doc, quality⟩
    return .error (.qualityTooLow, reason)

/-- An attempt up to the quality gate. Whatever the fetcher and the extractors raise is caught. -/
def acquire (runner : CrawlerRunner σ) (request : CrawlRequest) (plan : CrawlPlan) (attempt : ℕ) :
    Crawling σ (Except Failure Page) := do
  match ← fetchStage runner request plan attempt with
  | .error failure => return .error failure
  | .ok fetched => readStage runner request plan attempt fetched

end Page

section Deliver

/-- The gate is asked where the policy allows it and there is a query. -/
def judge (request : CrawlRequest) (plan : CrawlPlan) : Except PyExc (Option RelevanceResult) :=
  if plan.allowLlmGate = true ∧ textOr request.query "" ≠ "" then relevanceGateCheck request.query
  else .ok none

def renderFor (runner : CrawlerRunner σ) (request : CrawlRequest) (doc : Document) :
    Except PyExc (Option String) :=
  if request.render then (runner.renderer.render doc request.renderMode).map some else .ok none

def persistFor (runner : CrawlerRunner σ) (request : CrawlRequest) :
    Except PyExc (Option ArtifactRefs) :=
  if request.persistArtifacts then runner.artifactAdapter.persist.map some else .ok none

def noteRendering (runner : CrawlerRunner σ) (request : CrawlRequest) (plan : CrawlPlan)
    (attempt : ℕ) : Crawling σ Unit :=
  if request.render then record runner request plan attempt .render .ok "render complete"
  else return ()

def storeBundle (runner : CrawlerRunner σ) (bundle : CrawlResultBundle) : Crawling σ Unit :=
  if bundle.plan.useResultCache then do
    let now ← draw runner.time
    let key := makeKey bundle.request bundle.plan
    Computation.modify fun s =>
      { s with cache := s.cache.put now key bundle (some bundle.plan.resultCacheTtlS) }
  else return ()

/-- The bundle is made, stored and returned. -/
def emitBundle (runner : CrawlerRunner σ) (request : CrawlRequest) (plan : CrawlPlan)
    (attempt : ℕ) (page : Page) (relevance : Option RelevanceResult) :
    Crawling σ CrawlResultBundle := do
  let rendered ← Computation.lift (renderFor runner request page.doc)
  noteRendering runner request plan attempt
  let artifacts ← Computation.lift (persistFor runner request)
  let bundle : CrawlResultBundle :=
    { request := request, plan := plan, fetched := page.fetched.info,
      rawHtml := page.fetched.html, docClean := page.doc, quality := page.quality,
      relevance := relevance, rendered := rendered, artifacts := artifacts }
  storeBundle runner bundle
  record runner request plan attempt .emit .ok "run complete"
  -- The bundle holds the trace itself, which the cached one gets afresh with every hit.
  let trace ← Computation.read Crawl.trace
  return { bundle with trace := some trace }

/-- The rest of an attempt, which no handler guards. -/
def deliver (runner : CrawlerRunner σ) (request : CrawlRequest) (plan : CrawlPlan) (attempt : ℕ)
    (page : Page) : Crawling σ (Except Failure CrawlResultBundle) := do
  let relevance ← Computation.lift (judge request plan)
  match relevance.filter (fun relevance => !relevance.relevant) with
  | some rejected => return .error (.relevanceRejected, rejected.reason)
  | none => return .ok (← emitBundle runner request plan attempt page relevance)

end Deliver

section Run

inductive AttemptEnd where
  | returned (bundle : CrawlResultBundle)
  | failed (errorType : ErrorType) (plan : CrawlPlan)

def cacheModeOf (request : CrawlRequest) : String :=
  ((request.options.get "cache_mode").getD (.str "prefer")).text

/-- What follows when a stage of an attempt ends. -/
def conclude (runner : CrawlerRunner σ) (request : CrawlRequest) (plan : CrawlPlan) (attempt : ℕ) :
    Except Failure CrawlResultBundle → Crawling σ AttemptEnd
  | .ok bundle => return .returned bundle
  | .error failure => do
    let next ← fallback runner request plan attempt failure.2
    return .failed failure.1 next

/-- One turn of the loop. -/
def attempt (runner : CrawlerRunner σ) (request : CrawlRequest) (plan : CrawlPlan) (n : ℕ) :
    Crawling σ AttemptEnd := do
  match ← consult runner request plan n (cacheModeOf request) with
  | some cached => return .returned (← serve runner request plan cached)
  | none =>
    match ← acquire runner request plan n with
    | .error failure => conclude runner request plan n (.error failure)
    | .ok page => do conclude runner request plan n (← deliver runner request plan n page)

/-- So many turns, the next of them numbered; the error is of the turn before. -/
def attempts (runner : CrawlerRunner σ) (request : CrawlRequest) :
    ℕ → ℕ → CrawlPlan → ErrorType → Crawling σ (Except ErrorType CrawlResultBundle)
  | 0, _, _, lastErrorType => return .error lastErrorType
  | turns + 1, n, plan, _ => do
    match ← attempt runner request plan n with
    | .returned bundle => return .ok bundle
    | .failed errorType next => attempts runner request turns (n + 1) next errorType

/-- What comes before the loop. -/
def start (runner : CrawlerRunner σ) (request : CrawlRequest) : Crawling σ CrawlPlan := do
  let runId ← draw runner.uuid4
  Computation.modify fun s => { s with trace := { runId := runId }, calls := [] }
  let plan ← Computation.lift (buildPlan runner.py runner.domainRegistry request)
  record runner request plan 0 .policy .ok "plan built"
  return plan

/-- `max(1, request.max_attempts)`. -/
def budget (request : CrawlRequest) : ℕ := (max 1 request.maxAttempts).toNat

/-- `CrawlerRunner.run`. -/
def run (runner : CrawlerRunner σ) (request : CrawlRequest) :
    Computation (Crawl σ) RunFailure CrawlResultBundle := do
  match ← Computation.mapError RunFailure.escaped (do
    let plan ← start runner request
    attempts runner request (budget request) 1 plan .maxAttemptsExceeded) with
  | .ok bundle => return bundle
  | .error errorType => do
    Computation.raise (.crawlFailed errorType (← Computation.read Crawl.trace))

end Run

section Sample

/-- A page taken as it is. -/
def takenAsIs (html url : String) : Document where
  url := url
  title := none
  text := html

/-- A fetcher that always has a page, and a quality gate that one word passes. -/
def sampleRunner : CrawlerRunner Unit where
  py := asciiInterpreter
  fetch url plan _ _ := pure
    { info := { url := url, finalUrl := url, statusCode := 200, transport := plan.transport }
      html := some "text" }
  universalExtractor html url := pure (takenAsIs html url)
  intelligentExtractor _ _ _ := Computation.raise (notImplementedError
    "LLM-based intelligent extraction is a placeholder for a later implementation.")
  rank chunks _ := pure chunks
  qualityAssessor := { thresholds := { minTextChars := 1 } }
  time world := (0, world)
  uuid4 world := ("run", world)

def emptyCrawl : Crawl Unit where
  world := ()

example : (run sampleRunner { url := "https://example.test/page" } emptyCrawl).1.toOption.map
    (fun bundle => (bundle.quality.score, bundle.docClean.chunks.length)) = some (1, 1) := by
  decide +kernel

end Sample

end SthBoring.Crawler.Runner
