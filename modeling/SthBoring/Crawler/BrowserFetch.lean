/- Module: SthBoring/Crawler/BrowserFetch
   source: agent_crawler/fetch/browser_fetcher.py, agent_crawler/fetch/hybrid_fetcher.py
   digest: One fetch with a browser: the page, the wait for a login, and the response. -/

import SthBoring.Crawler.BrowserRegistry
import SthBoring.Crawler.LoginDetection
import SthBoring.Crawler.Session
import SthBoring.Lib.Effect

set_option autoImplicit false
set_option relaxedAutoImplicit false

namespace SthBoring.Crawler.BrowserFetch

open SthBoring.Crawler.BrowserRegistry
open SthBoring.Crawler.LoginDetection
open SthBoring.Crawler.Models
open SthBoring.Crawler.Session (CrawlSession)
open SthBoring.Lib
open SthBoring.Lib.Effect (Computation)
open SthBoring.Lib.PyValue (Fields PyExc Value valueError)
open SthBoring.Lib.UrlParse (netloc)

variable {σ : Type}

section Models

structure BrowserFetcherConfig where
  browserName : String := "chromium"
  headless : Bool := true
  keepPageOpen : Bool := false
  maxOpenPages : ℤ := 8
  pageTtlS : ℤ := 600
  maxConcurrency : ℤ := 2
  navTimeoutMs : ℤ := 30000
  waitUntil : String := "domcontentloaded"
  networkidleWaitMs : ℤ := 2000
  blockResourceTypes : List String := ["image", "media", "font"]
  userAgent : Option String := none
  viewportWidth : Option ℤ := none
  viewportHeight : Option ℤ := none
  ignoreHttpsErrors : Bool := false
  auth : BrowserAuthConfig := {}

structure BrowserFetchResponse where
  url : String
  finalUrl : String
  statusCode : ℤ
  html : String
  headers : List (String × String)
  elapsedMs : ℚ
  pageRef : Option String := none
  contextRef : Option String := none
  keptOpen : Bool := false
  redirectChain : List String
  authRequired : Bool
  authConfidence : ℚ
  authReason : Option String
  interactiveLoginUsed : Bool
  interactiveLoginSuccess : Option Bool
  loginWaitReason : Option String
  beforeLoginUrl : Option String
  afterLoginUrl : Option String
  beforeLoginDensityScore : Option ℚ
  afterLoginDensityScore : Option ℚ
  storageStateUsed : Bool
  storageStateSaved : Bool

/-- A fetcher that may wait for a login shows its browser; the constructor refuses others. -/
structure BrowserFetcher where
  config : BrowserFetcherConfig := {}
  authGate : AuthGate
  shown : config.auth.interactiveLogin = true → config.headless = false

/-- What came of a navigation: its status and headers, and the URLs of its request and of those
it was redirected from, the last one first. -/
structure Response where
  status : ℤ
  headers : Option (List (String × String)) := none
  requests : List String := []

/-- The fetcher's own fields with the world around them. -/
structure FetcherState (σ : Type) where
  world : σ
  closed : Bool := false
  playwright : Bool := false
  browser : Bool := false
  pageRegistry : BrowserPageRegistry := {}

/-- What is awaited may change every field: other tasks run in the meantime. -/
abbrev Awaiting (σ α : Type) := Computation (FetcherState σ) PyExc α

/-- Playwright, the clocks and the files. -/
structure Machinery (σ : Type) where
  /-- The wait for a permit or a lock. -/
  turn : Awaiting σ Unit
  installed : Bool := true
  startPlaywright : Awaiting σ Unit
  stopPlaywright : Awaiting σ Unit
  hasBrowserType : String → Bool
  launch : String → Bool → Awaiting σ Unit
  newContext : Fields → Awaiting σ ℕ
  route : ℕ → Awaiting σ Unit
  newPage : ℕ → Awaiting σ ℕ
  closePage : ℕ → Awaiting σ Unit
  closeContext : ℕ → Awaiting σ Unit
  goto : ℕ → String → String → ℤ → Awaiting σ (Option Response)
  waitForLoadState : ℕ → String → ℤ → Awaiting σ Unit
  content : ℕ → Awaiting σ String
  pageUrl : ℕ → σ → String
  locatorCount : ℕ → String → Awaiting σ ℕ
  storageState : ℕ → String → Awaiting σ Unit
  pathExists : String → σ → Bool
  makeParent : String → Awaiting σ Unit
  sleep : ℚ → Awaiting σ Unit
  monotonic : σ → ℚ × σ
  time : σ → ℚ × σ
  uuid4 : σ → String × σ

def runtimeError (message : String) : PyExc := ⟨"RuntimeError", ["Exception"], message⟩

def interactiveLoginHeadlessError : PyExc :=
  valueError "interactive_login requires headed browser. Please set headless=False."

def playwrightInstallMessage : String :=
  "BrowserFetcher requires playwright. Please install playwright and run playwright install chromium."

end Models

section World

def observe (f : σ → String) : Awaiting σ String := Computation.read fun s => f s.world

def draw {α : Type} (f : σ → α × σ) : Awaiting σ α := fun s =>
  (.ok (f s.world).1, { s with world := (f s.world).2 })

def ensure (condition : Bool) (otherwise : PyExc) : Awaiting σ Unit :=
  if condition then pure () else Computation.raise otherwise

/-- `try: ... except Exception: pass`. -/
def ignoring {α : Type} (m : Awaiting σ α) : Awaiting σ Unit := do
  let _ ← (Computation.outcome m : Awaiting σ (Except PyExc α))
  return ()

/-- `now_ms`. -/
def nowMs (m : Machinery σ) : Awaiting σ ℚ := do
  return Binary64.round ((← draw m.monotonic) * 1000)

end World

section Opening

variable (fetcher : BrowserFetcher) (m : Machinery σ)

def launchBrowser : Awaiting σ Unit := do
  m.startPlaywright
  Computation.modify fun s => { s with playwright := true }
  ensure (m.hasBrowserType fetcher.config.browserName)
    (valueError s!"Unsupported browser_name: {fetcher.config.browserName}")
  m.launch fetcher.config.browserName fetcher.config.headless
  Computation.modify fun s => { s with browser := true }

/-- What is left of a launch that failed. -/
def abandonLaunch : Awaiting σ Unit := do
  if ← Computation.read FetcherState.playwright then
    ignoring m.stopPlaywright
    Computation.modify fun s => { s with playwright := false }

/-- `_ensure_browser`. -/
def ensureBrowser : Awaiting σ Unit := do
  if ← Computation.read FetcherState.browser then return ()
  m.turn
  if ← Computation.read FetcherState.browser then return ()
  ensure m.installed (runtimeError playwrightInstallMessage)
  match ← Computation.outcome (launchBrowser fetcher m) with
  | .ok _ => return ()
  | .error exc => do
    abandonLaunch m
    Computation.raise (runtimeError
      s!"Browser launch failed: {exc.message}. {playwrightInstallMessage}")

/-- A size that is missing or zero gives way to the default. -/
def sizeOr (size : Option ℤ) (default : ℤ) : ℤ := if size.getD 0 = 0 then default else size.getD 0

/-- `_build_context_kwargs`. -/
def buildContextKwargs (storageStatePath : Option String) (present : Bool) : Fields :=
  let config := fetcher.config
  [("ignore_https_errors", .bool config.ignoreHttpsErrors)] ++
    (config.userAgent.map (fun agent => ("user_agent", Value.str agent))).toList ++
    (if config.viewportWidth.isSome ∨ config.viewportHeight.isSome then
      [("viewport", .dict [("width", .int (sizeOr config.viewportWidth 1280)),
        ("height", .int (sizeOr config.viewportHeight 720))])]
    else []) ++
    (if present then (storageStatePath.map (fun path => ("storage_state", Value.str path))).toList
    else [])

/-- `_close_page_and_context`. -/
def closePageAndContext (page context : Option ℕ) : Awaiting σ Unit := do
  let _ ← Computation.each (fun page => ignoring (m.closePage page)) page.toList
  let _ ← Computation.each (fun context => ignoring (m.closeContext context)) context.toList
  return ()

/-- A new page in a context of its own. -/
def openPage (url : String) (storageStatePath : Option String) : Awaiting σ (ℕ × ℕ) := do
  let present ← Computation.read fun s => storageStatePath.any (m.pathExists · s.world)
  let failed (exc : PyExc) : PyExc :=
    runtimeError s!"Browser context/page creation failed for {url}: {exc.message}"
  match ← Computation.outcome
    (m.newContext (buildContextKwargs fetcher storageStatePath present)) with
  | .error exc => Computation.raise (failed exc)
  | .ok context =>
    match ← Computation.outcome (do
      if fetcher.config.blockResourceTypes ≠ [] then m.route context
      m.newPage context) with
    | .ok page => return (context, page)
    | .error exc => do
      closePageAndContext m none (some context)
      Computation.raise (failed exc)

end Opening

section Page

variable (fetcher : BrowserFetcher) (m : Machinery σ)

/-- `_is_transient_page_content_error`. -/
def isTransientPageContentError (exc : PyExc) : Bool :=
  let message := (fetcher.authGate.py.lower exc.message).toList
  ["page is navigating", "changing the content", "execution context was destroyed",
    "target closed", "page closed", "browser has been closed"].any
      fun marker => TextPattern.occursIn marker.toList message

/-- `_safe_page_content`, with so many attempts left. -/
def safePageContent (page : ℕ) (retryIntervalMs : ℕ) : ℕ → Awaiting σ (Option String)
  | 0 => return none
  | left + 1 => do
    match ← Computation.outcome (m.content page) with
    | .ok html => return some html
    | .error exc =>
      if !isTransientPageContentError fetcher exc then Computation.raise exc
      else if left = 0 then return none
      else
        ignoring (m.waitForLoadState page "domcontentloaded" 1000)
        m.sleep (double retryIntervalMs 1000)
        safePageContent page retryIntervalMs left

/-- `_build_redirect_chain`. -/
def buildRedirectChain (response : Option Response) : List String :=
  ((response.map Response.requests).getD []).reverse.filter (· ≠ "")

/-- A page as the navigation leaves it. -/
structure Arrival where
  html : String
  finalUrl : String
  statusCode : ℤ
  headers : List (String × String)
  redirectChain : List String

/-- The navigation, up to the page's content. -/
def arrive (page : ℕ) (url : String) : Awaiting σ Arrival := do
  match ← Computation.outcome
    (m.goto page url fetcher.config.waitUntil fetcher.config.navTimeoutMs) with
  | .error exc =>
    Computation.raise (runtimeError s!"Browser navigation timeout for {url}: {exc.message}")
  | .ok response =>
    if 0 < fetcher.config.networkidleWaitMs then
      ignoring (m.waitForLoadState page "networkidle" fetcher.config.networkidleWaitMs)
    match ← safePageContent fetcher m page 300 5 with
    | none => Computation.raise (runtimeError
        s!"Page content unavailable for {url}: page kept navigating or closed")
    | some html =>
      return { html := html
               finalUrl := ← observe (m.pageUrl page)
               statusCode := (response.map Response.status).getD 0
               headers := (response.bind Response.headers).getD []
               redirectChain := buildRedirectChain response }

end Page

section Login

variable (fetcher : BrowserFetcher) (m : Machinery σ)

/-- `_success_selector_matches`. -/
def successSelectorMatches (page : ℕ) : List String → Awaiting σ Bool
  | [] => return false
  | selector :: selectors => do
    match ← Computation.outcome (m.locatorCount page selector) with
    | .ok count => if 0 < count then return true else successSelectorMatches page selectors
    | .error _ => successSelectorMatches page selectors

/-- What a wait for a login starts from. -/
structure LoginWait where
  sourceUrl : String
  beforeUrl : String
  beforeDensityScore : ℚ
  startedMs : ℚ

/-- The page as it was last seen. -/
structure Sight where
  url : String
  density : ℚ
  htmlLen : ℕ

/-- Why a page seen during the wait counts as logged in, if it does. -/
def signOfLogin (page : ℕ) (wait : LoginWait) (currentUrl currentHtml : String) (density : ℚ) :
    Awaiting σ (Option String) := do
  let gate := fetcher.authGate
  if gate.successUrlMatches currentUrl then return some "success_url_pattern"
  if ← successSelectorMatches m page fetcher.config.auth.successSelectors then
    return some "success_selector"
  let detection := gate.detect wait.sourceUrl currentUrl currentHtml []
  let sourceInUrl := containsUnquoted wait.sourceUrl currentUrl
  if !detection.loginRequired && Binary64.round (wait.beforeDensityScore + double 5 100) < density then
    return some "density_improved_not_login"
  if sourceInUrl && !detection.loginRequired && wait.beforeDensityScore < density then
    return some "source_url_returned_not_login"
  return none

/-- `_login_wait_result`. -/
def loginWaitResult (success : Bool) (reason : String) (wait : LoginWait) (last : Sight) :
    Awaiting σ LoginWaitResult := do
  let waited := Binary64.round ((← nowMs m) - wait.startedMs)
  return { success := success
           reason := reason
           beforeUrl := wait.beforeUrl
           afterUrl := last.url
           beforeDensityScore := wait.beforeDensityScore
           afterDensityScore := last.density
           waitedMs := max 0 waited
           finalHtmlLen := last.htmlLen }

def deadlineMs (wait : LoginWait) : ℚ :=
  Binary64.round (wait.startedMs + fetcher.config.auth.loginWaitTimeoutMs)

def intervalS : ℚ := Binary64.round ((max fetcher.config.auth.loginPollIntervalMs 50 : ℤ) / 1000)

/-- The loop of `_wait_for_interactive_login`, for at most so many turns. -/
def pollLogin (page : ℕ) (wait : LoginWait) : ℕ → Sight → Awaiting σ (Option LoginWaitResult)
  | 0, _ => return none
  | polls + 1, last => do
    if deadlineMs fetcher wait ≤ (← nowMs m) then
      return some (← loginWaitResult m false "login_wait_timeout" wait last)
    else
      let currentUrl ← observe (m.pageUrl page)
      match ← safePageContent fetcher m page 300 5 with
      | none => do
        m.sleep (intervalS fetcher)
        pollLogin page wait polls last
      | some currentHtml => do
        let density := fetcher.authGate.computeTextDensityScore currentHtml
        let seen : Sight := ⟨currentUrl, density, currentHtml.length⟩
        match ← signOfLogin fetcher m page wait currentUrl currentHtml density with
        | some reason => return some (← loginWaitResult m true reason wait seen)
        | none => do
          m.sleep (intervalS fetcher)
          pollLogin page wait polls seen

/-- `_wait_for_interactive_login`. -/
def waitForInteractiveLogin (polls page : ℕ) (sourceUrl beforeUrl beforeHtml : String)
    (beforeDensityScore : ℚ) : Awaiting σ (Option LoginWaitResult) := do
  let wait : LoginWait := ⟨sourceUrl, beforeUrl, beforeDensityScore, ← nowMs m⟩
  pollLogin fetcher m page wait polls ⟨beforeUrl, beforeDensityScore, beforeHtml.length⟩

/-- The page as the login handling leaves it. -/
structure Settled where
  html : String
  finalUrl : String
  authReason : String
  waited : Option LoginWaitResult

def detect (url : String) (arrival : Arrival) : AuthDetectionResult :=
  fetcher.authGate.detect url arrival.finalUrl arrival.html arrival.redirectChain

/-- A login is waited for where the page looks like a login page and the caller asks for it. The
latest content is returned however the wait ends. -/
def settleLogin (polls page : ℕ) (url : String) (asked : Bool) (arrival : Arrival) :
    Awaiting σ (Option Settled) := do
  let detection := detect fetcher url arrival
  if detection.loginRequired && asked then
    match ← waitForInteractiveLogin fetcher m polls page url arrival.finalUrl arrival.html
      detection.textDensityScore with
    | none => return none
    | some waited => do
      let reason := detection.reason ++ ";" ++ waited.reason
      match ← safePageContent fetcher m page 500 8 with
      | some html => return some ⟨html, ← observe (m.pageUrl page), reason, some waited⟩
      | none => return some ⟨arrival.html, arrival.finalUrl, reason, some waited⟩
  else return some ⟨arrival.html, arrival.finalUrl, detection.reason, none⟩

end Login

section Response

variable (fetcher : BrowserFetcher) (m : Machinery σ)

/-- `_try_save_storage_state`. -/
def trySaveStorageState (context : ℕ) : Option String → Awaiting σ (Option String)
  | none => return none
  | some path => do
    match ← Computation.outcome (do m.makeParent path; m.storageState context path) with
    | .ok _ => return none
    | .error exc => return some ("storage_state_save_failed:" ++ exc.message)

/-- `_make_response`. -/
def makeResponse (url : String) (arrival : Arrival) (detection : AuthDetectionResult)
    (settled : Settled) (authReason : String) (elapsedMs : ℚ) (storageStateUsed storageStateSaved : Bool) :
    BrowserFetchResponse where
  url := url
  finalUrl := settled.finalUrl
  statusCode := arrival.statusCode
  html := settled.html
  headers := arrival.headers
  elapsedMs := elapsedMs
  redirectChain := arrival.redirectChain
  authRequired := detection.loginRequired
  authConfidence := detection.confidence
  authReason := some authReason
  interactiveLoginUsed := settled.waited.isSome
  interactiveLoginSuccess := settled.waited.map LoginWaitResult.success
  loginWaitReason := settled.waited.map LoginWaitResult.reason
  beforeLoginUrl := if detection.loginRequired then some detection.finalUrl else none
  afterLoginUrl := settled.waited.map LoginWaitResult.afterUrl
  beforeLoginDensityScore :=
    if detection.loginRequired then some detection.textDensityScore else none
  afterLoginDensityScore := settled.waited.map LoginWaitResult.afterDensityScore
  storageStateUsed := storageStateUsed
  storageStateSaved := storageStateSaved

/-- `_close_handle`. -/
def closeHandle (handle : BrowserPageHandle) : Awaiting σ Unit := do
  ignoring (m.closePage handle.page)
  ignoring (m.closeContext handle.context)

/-- Take pages out of the registry, and close them. -/
def closeHandles : List BrowserPageHandle → Awaiting σ Unit
  | [] => return ()
  | handle :: handles => do
    Computation.modify fun s => { s with pageRegistry := s.pageRegistry.remove handle.pageRef }
    closeHandle m handle
    closeHandles handles

/-- `BrowserPageRegistry.register`. Readings of the clock with no wait between them are one. -/
def register (registration : Registration) : Awaiting σ BrowserPageHandle := do
  m.turn
  let now ← draw m.time
  let expired ← Computation.read fun s => s.pageRegistry.expired now
  closeHandles m expired
  let pageId ← draw m.uuid4
  let contextId ← draw m.uuid4
  let now ← draw m.time
  let defaultTtlS ← Computation.read fun s => s.pageRegistry.defaultTtlS
  let handle := registration.handle defaultTtlS pageId contextId now
  Computation.modify fun s => { s with pageRegistry := s.pageRegistry.store handle }
  let overflowing ← Computation.read fun s => s.pageRegistry.overflowing
  closeHandles m overflowing
  return handle

/-- The page is put in the registry if it is to stay open. -/
def keepPage (shouldKeepOpen : Bool) (url : String) (session : Option CrawlSession)
    (ownerRunId : Option String) (context page : ℕ) (response : BrowserFetchResponse) :
    Awaiting σ BrowserFetchResponse := do
  if shouldKeepOpen then
    let py := fetcher.authGate.py
    let location := if response.finalUrl = "" then url else response.finalUrl
    let domain := py.lower (← Computation.lift (netloc py location))
    let handle ← register m
      { page := page
        context := context
        url := url
        finalUrl := response.finalUrl
        domain := if domain = "" then none else some domain
        authProfileId := (session.map (·.authProfile.profileId)).filter (· ≠ "")
        ownerRunId := ownerRunId
        ttlS := some fetcher.config.pageTtlS }
    return { response with
      pageRef := some handle.pageRef, contextRef := some handle.contextRef, keptOpen := true }
  else return response

end Response

section Fetch

variable (fetcher : BrowserFetcher) (m : Machinery σ)

/-- The arguments of a fetch. -/
structure Call where
  url : String
  session : Option CrawlSession := none
  keepPageOpen : Option Bool := none
  ownerRunId : Option String := none
  interactiveLogin : Option Bool := none

def Call.storageStatePath (call : Call) : Option String :=
  call.session.bind (·.authProfile.storageStatePath)

def Call.useInteractiveLogin (call : Call) : Bool :=
  call.interactiveLogin.getD fetcher.config.auth.interactiveLogin

/-- What a fetch does with its page, up to the response. -/
def visit (polls : ℕ) (call : Call) (started : ℚ) (context page : ℕ) :
    Awaiting σ (Option BrowserFetchResponse) := do
  let arrival ← arrive fetcher m page call.url
  let asked := call.useInteractiveLogin fetcher
  ensure (!(asked && fetcher.config.headless)) interactiveLoginHeadlessError
  match ← settleLogin fetcher m polls page call.url asked arrival with
  | none => return none
  | some settled => do
    let used ← Computation.read fun s => call.storageStatePath.any (m.pathExists · s.world)
    let unsaved ← trySaveStorageState m context call.storageStatePath
    let now ← draw m.monotonic
    let response := makeResponse call.url arrival (detect fetcher call.url arrival) settled
      (PyValue.joinWith ";" (settled.authReason :: unsaved.toList))
      (Binary64.round (Binary64.round (now - started) * 1000)) used
      (unsaved.isNone && call.storageStatePath.isSome)
    return some (← keepPage fetcher m (call.keepPageOpen.getD fetcher.config.keepPageOpen) call.url
      call.session call.ownerRunId context page response)

/-- A page that is not kept is closed, whatever became of the visit. -/
def closeUnlessKept (context page : ℕ) : Except PyExc BrowserFetchResponse → Awaiting σ Unit
  | .ok response =>
    if response.keptOpen then pure () else closePageAndContext m (some page) (some context)
  | .error _ => closePageAndContext m (some page) (some context)

/-- `BrowserFetcher.fetch`. It ends in none where the wait for a login goes on after so many
polls. -/
def fetch (polls : ℕ) (call : Call) : Awaiting σ (Option BrowserFetchResponse) := do
  let closed ← Computation.read FetcherState.closed
  ensure (!closed) (runtimeError "BrowserFetcher is closed")
  let started ← draw m.monotonic
  m.turn
  ensureBrowser fetcher m
  let (context, page) ← openPage fetcher m call.url call.storageStatePath
  match ← Computation.outcome (visit fetcher m polls call started context page) with
  | .ok none => return none
  | .ok (some response) => do
    closeUnlessKept m context page (.ok response)
    return some response
  | .error exc => do
    closeUnlessKept m context page (.error exc)
    Computation.raise exc

end Fetch

section Hybrid

/-- The answer of an HTTP fetch. -/
structure HttpAnswer where
  url : String
  finalUrl : String
  statusCode : ℤ
  headers : List (String × String)
  text : String

/-- `HybridFetcher`, with what its HTTP fetcher answers and how the interpreter writes a float. -/
structure HybridFetcher (σ : Type) where
  httpFetch : String → Awaiting σ HttpAnswer
  browserFetcher : BrowserFetcher
  machinery : Machinery σ
  reprFloat : ℚ → String

namespace HybridFetcher

variable (hybrid : HybridFetcher σ)

def float (x : ℚ) : Value := .float ⟨x, hybrid.reprFloat x⟩

def text (s : Option String) : Value := (s.map Value.str).getD .null

/-- The payload of a browser fetch, by `HybridFetcher.fetch`. -/
def browserPayload (url : String) (resp : BrowserFetchResponse) (elapsedMs : ℚ) :
    FetchedPayload where
  info := {
    url := url
    finalUrl := resp.finalUrl
    statusCode := resp.statusCode
    headers := resp.headers
    elapsedMs := elapsedMs
    transport := .browser
    extra := [
      ("auth_required", .bool resp.authRequired),
      ("auth_confidence", hybrid.float resp.authConfidence),
      ("auth_reason", text resp.authReason),
      ("interactive_login_used", .bool resp.interactiveLoginUsed),
      ("interactive_login_success", (resp.interactiveLoginSuccess.map Value.bool).getD .null),
      ("before_login_url", text resp.beforeLoginUrl),
      ("after_login_url", text resp.afterLoginUrl),
      ("before_login_density_score", (resp.beforeLoginDensityScore.map hybrid.float).getD .null),
      ("after_login_density_score", (resp.afterLoginDensityScore.map hybrid.float).getD .null),
      ("page_ref", text resp.pageRef),
      ("context_ref", text resp.contextRef),
      ("kept_open", .bool resp.keptOpen),
      ("redirect_chain", .list (resp.redirectChain.map Value.str)),
      ("storage_state_used", .bool resp.storageStateUsed),
      ("storage_state_saved", .bool resp.storageStateSaved)] }
  html := some resp.html

def elapsedSince (started : ℚ) : Awaiting σ ℚ := do
  let now ← draw hybrid.machinery.monotonic
  return Binary64.round (Binary64.round (now - started) * 1000)

def elapsedOf (resp : BrowserFetchResponse) (started : ℚ) : Awaiting σ ℚ :=
  if resp.elapsedMs = 0 then hybrid.elapsedSince started else pure resp.elapsedMs

/-- What the options ask of the browser fetcher. -/
def callOf (url : String) (session : Option CrawlSession) (options : Option Fields) : Call where
  url := url
  session := session
  keepPageOpen := some ((options.getD []).getD "keep_page_open").truthy
  interactiveLogin := some ((options.getD []).getD "interactive_login").truthy

/-- `HybridFetcher.fetch`. -/
def fetch (polls : ℕ) (url : String) (plan : CrawlPlan) (session : Option CrawlSession)
    (options : Option Fields) : Awaiting σ (Option FetchedPayload) := do
  let started ← draw hybrid.machinery.monotonic
  match plan.transport with
  | .http => do
    let resp ← hybrid.httpFetch url
    let elapsedMs ← hybrid.elapsedSince started
    return some { info := { url := resp.url
                            finalUrl := resp.finalUrl
                            statusCode := resp.statusCode
                            headers := resp.headers
                            elapsedMs := elapsedMs
                            transport := .http }
                  html := some resp.text }
  | .browser => do
    match ← BrowserFetch.fetch hybrid.browserFetcher hybrid.machinery polls
      (callOf url session options) with
    | none => return none
    | some resp => do
      let elapsedMs ← hybrid.elapsedOf resp started
      return some (hybrid.browserPayload url resp elapsedMs)

end HybridFetcher

end Hybrid

end SthBoring.Crawler.BrowserFetch
