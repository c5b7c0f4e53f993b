/- Module: SthBoring/Crawler/LoginReports
   source: agent_crawler/fetch/browser_fetcher.py, agent_crawler/tools/result_mapper.py
   digest: What the page reading tool says of a fetch that waited for a login. -/

import SthBoring.Crawler.BrowserFetch
import SthBoring.Crawler.ReadPageOutcomes

set_option autoImplicit false
set_option relaxedAutoImplicit false

namespace SthBoring.Crawler.LoginReports

open SthBoring.Crawler.Assess
open SthBoring.Crawler.Attempts
open SthBoring.Crawler.BrowserFetch
open SthBoring.Crawler.LoginDetection
open SthBoring.Crawler.Models
open SthBoring.Crawler.ReadPageOutcomes
open SthBoring.Crawler.Runner
open SthBoring.Crawler.WebReadPage
open SthBoring.Lib.Effect (Computation Returns)
open SthBoring.Lib.PyValue
open SthBoring.Lib.UrlParse (Interpreter asciiInterpreter)
open SthBoring.WebKit.Clean (Document)

variable {σ : Type}

/-- A bundle with the data of a payload, and with the score of its document. -/
structure Carries (assessor : QualityAssessor) (payload : FetchedPayload)
    (bundle : CrawlResultBundle) : Prop where
  fetched : bundle.fetched = payload.info
  quality : bundle.quality = assessor.score bundle.docClean

/-- The gate takes the returned content for a login page. -/
def StillLogin (gate : AuthGate) (url : String) (resp : BrowserFetchResponse) : Prop :=
  (gate.detect url resp.finalUrl resp.html resp.redirectChain).loginRequired = true

/-- The tool has a result. It is a success where the wait for a login was one and the page passes
the quality gate, and it asks for a login only where the content is still the login page. -/
def ReportsLogin (py : Interpreter) (toolInput : WebReadPageToolInput) (gate : AuthGate)
    (url : String) (resp : BrowserFetchResponse) (bundle : CrawlResultBundle) : Prop :=
  ∃ result, mapCrawlResultToWebResult py toolInput bundle = .ok result ∧
    (resp.interactiveLoginSuccess = some true → bundle.quality.ok = true →
      result.ok = true ∧ result.status = .success) ∧
    (result.status = .authRequired → StillLogin gate url resp)

/-- The part of a fetch up to its page. -/
def reach (fetcher : BrowserFetcher) (m : Machinery σ) (call : Call) : Awaiting σ (ℕ × Arrival) := do
  let closed ← Computation.read FetcherState.closed
  ensure (!closed) (runtimeError "BrowserFetcher is closed")
  let _ ← draw m.monotonic
  m.turn
  ensureBrowser fetcher m
  let (_, page) ← openPage fetcher m call.url call.storageStatePath
  let arrival ← arrive fetcher m page call.url
  return (page, arrival)

/-- No login is waited for; or the page that is there when the wait is over is still the login
page, and the wait timed out or that page does not pass. -/
def Untroubled (fetcher : BrowserFetcher) (m : Machinery σ) (polls : ℕ) (call : Call)
    (s₀ : FetcherState σ) (passes : Bool) : Prop :=
  ∃ page arrival s₁ settled s₂,
    reach fetcher m call s₀ = (.ok (page, arrival), s₁) ∧
    settleLogin fetcher m polls page call.url (call.useInteractiveLogin fetcher) arrival s₁ =
      (.ok (some settled), s₂) ∧
    ∀ waited, settled.waited = some waited → ¬ (waited.success = true ∧ passes = true) ∧
      (fetcher.authGate.detect call.url settled.finalUrl settled.html
        arrival.redirectChain).loginRequired = true

section Bundles

variable {runner : CrawlerRunner σ} {request : CrawlRequest} {plan : CrawlPlan} {n : ℕ}

theorem acquire_scores : Returns (fun got => ∀ page, got = .ok page →
    page.quality = runner.qualityAssessor.score page.doc) (acquire runner request plan n) := by
  refine Returns.bind (fun fetched => ?_)
  cases fetched with
  | error failure => exact Returns.pure fun _ none => by cases none
  | ok fetched =>
    refine Returns.bind (fun outcome => ?_)
    cases outcome with
    | error exc => exact Returns.bind fun _ => Returns.pure fun _ none => by cases none
    | ok doc =>
      refine Returns.bind (fun _ => ?_)
      split_ifs
      · refine Returns.pure (fun page same => ?_)
        obtain rfl := Except.ok.inj same
        rfl
      · exact Returns.pure fun _ none => by cases none

/-- The bundle a run makes of a page carries the payload of that page. -/
theorem carries_freshBundle {page : Page} {s s' : Crawl σ}
    (got : acquire runner request plan n s = (.ok (.ok page), s')) :
    Carries runner.qualityAssessor page.fetched (freshBundle runner request plan page) where
  fetched := rfl
  quality := acquire_scores.of_ok got page rfl

end Bundles

section Fetch

variable {fetcher : BrowserFetcher} {m : Machinery σ} {polls : ℕ} {call : Call}

theorem ensure_ok {condition : Bool} {exc : PyExc} {s s' : FetcherState σ}
    (h : ensure condition exc s = (.ok (), s')) : condition = true ∧ s' = s := by
  cases condition with
  | true => exact ⟨rfl, (Prod.mk.inj h).2.symm⟩
  | false => cases (Prod.mk.inj h).1

/-- The response without what is known of the place of its page. -/
def unkept (resp : BrowserFetchResponse) : BrowserFetchResponse :=
  { resp with pageRef := none, contextRef := none, keptOpen := false }

theorem keepPage_unkept (shouldKeepOpen : Bool) (url : String)
    (session : Option Session.CrawlSession) (owner : Option String) (context page : ℕ)
    (resp : BrowserFetchResponse) :
    Returns (fun kept => unkept kept = unkept resp)
      (keepPage fetcher m shouldKeepOpen url session owner context page resp) := by
  cases shouldKeepOpen with
  | true =>
    refine Returns.bind (fun host => ?_)
    refine Returns.bind (fun handle => ?_)
    exact Returns.pure rfl
  | false => exact Returns.pure rfl

/-- What the response says of the login is what the first page looked like, and how the wait
ended; its content is that of the last page. -/
structure Tells (fetcher : BrowserFetcher) (url : String) (arrival : Arrival) (settled : Settled)
    (resp : BrowserFetchResponse) : Prop where
  authRequired : resp.authRequired = (detect fetcher url arrival).loginRequired
  success : resp.interactiveLoginSuccess = settled.waited.map LoginWaitResult.success
  html : resp.html = settled.html
  finalUrl : resp.finalUrl = settled.finalUrl
  redirectChain : resp.redirectChain = arrival.redirectChain

theorem Tells.of_unkept {url : String} {arrival : Arrival} {settled : Settled}
    {resp resp' : BrowserFetchResponse} (tells : Tells fetcher url arrival settled resp)
    (same : unkept resp' = unkept resp) : Tells fetcher url arrival settled resp' where
  authRequired := (congrArg BrowserFetchResponse.authRequired same).trans tells.authRequired
  success := (congrArg BrowserFetchResponse.interactiveLoginSuccess same).trans tells.success
  html := (congrArg BrowserFetchResponse.html same).trans tells.html
  finalUrl := (congrArg BrowserFetchResponse.finalUrl same).trans tells.finalUrl
  redirectChain := (congrArg BrowserFetchResponse.redirectChain same).trans tells.redirectChain

theorem stages_of_visit {started : ℚ} {context page : ℕ} {s s' : FetcherState σ}
    {resp : BrowserFetchResponse}
    (h : visit fetcher m polls call started context page s = (.ok (some resp), s')) :
    ∃ arrival s₁ settled s₂, arrive fetcher m page call.url s = (.ok arrival, s₁) ∧
      settleLogin fetcher m polls page call.url (call.useInteractiveLogin fetcher) arrival s₁ =
        (.ok (some settled), s₂) ∧
      Tells fetcher call.url arrival settled resp := by
  obtain ⟨arrival, s₁, arrived, h⟩ := Computation.ok_of_bind h
  obtain ⟨_, s₁', ensured, h⟩ := Computation.ok_of_bind h
  rw [(ensure_ok ensured).2] at h
  obtain ⟨got, s₂, login, h⟩ := Computation.ok_of_bind h
  cases got with
  | none => cases (Prod.mk.inj h).1
  | some settled =>
    obtain ⟨used, s₃, -, h⟩ := Computation.ok_of_bind h
    obtain ⟨unsaved, s₄, -, h⟩ := Computation.ok_of_bind h
    obtain ⟨now, s₅, -, h⟩ := Computation.ok_of_bind h
    obtain ⟨kept, s₆, keeping, h⟩ := Computation.ok_of_bind h
    obtain rfl : kept = resp := Option.some.inj (Except.ok.inj (Prod.mk.inj h).1)
    have same := (keepPage_unkept _ _ _ _ _ _ _).of_ok keeping
    refine ⟨arrival, s₁, settled, s₂, arrived, login, Tells.of_unkept ?_ same⟩
    exact ⟨rfl, rfl, rfl, rfl, rfl⟩

theorem stages_of_fetch {s₀ s' : FetcherState σ} {resp : BrowserFetchResponse}
    (h : fetch fetcher m polls call s₀ = (.ok (some resp), s')) :
    ∃ page arrival s₁ settled s₂, reach fetcher m call s₀ = (.ok (page, arrival), s₁) ∧
      settleLogin fetcher m polls page call.url (call.useInteractiveLogin fetcher) arrival s₁ =
        (.ok (some settled), s₂) ∧
      Tells fetcher call.url arrival settled resp := by
  obtain ⟨closed, t₁, looked, h⟩ := Computation.ok_of_bind h
  obtain ⟨_, t₂, ensured, h⟩ := Computation.ok_of_bind h
  obtain ⟨started, t₃, drawn, h⟩ := Computation.ok_of_bind h
  obtain ⟨_, t₄, waited, h⟩ := Computation.ok_of_bind h
  obtain ⟨_, t₅, launched, h⟩ := Computation.ok_of_bind h
  obtain ⟨⟨context, page⟩, t₆, opened, h⟩ := Computation.ok_of_bind h
  obtain ⟨outcome, t₇, visited, h⟩ := Computation.ok_of_bind h
  obtain ⟨ended, same⟩ := Prod.mk.inj visited
  have ran : visit fetcher m polls call started context page t₆ = (outcome, t₇) :=
    Prod.ext (Except.ok.inj ended) same
  match outcome, ran, h with
  | .error exc, _, h =>
    obtain ⟨_, t₈, -, h⟩ := Computation.ok_of_bind h
    cases (Prod.mk.inj h).1
  | .ok none, _, h => cases (Prod.mk.inj h).1
  | .ok (some resp'), ran, h =>
    obtain ⟨_, t₈, -, h⟩ := Computation.ok_of_bind h
    obtain rfl : resp' = resp := Option.some.inj (Except.ok.inj (Prod.mk.inj h).1)
    obtain ⟨arrival, s₁, settled, s₂, arrived, login, tells⟩ := stages_of_visit ran
    refine ⟨page, arrival, s₁, settled, s₂, ?_, login, tells⟩
    rw [reach, Computation.bind_of_ok looked, Computation.bind_of_ok ensured,
      Computation.bind_of_ok drawn, Computation.bind_of_ok waited, Computation.bind_of_ok launched,
      Computation.bind_of_ok opened]
    exact Computation.bind_of_ok arrived _

/-- What the hybrid fetcher returns of a browser fetch is the payload of its response. -/
theorem browserPayload_of_fetch {hybrid : HybridFetcher σ} {url : String} {plan : CrawlPlan}
    {session : Option Session.CrawlSession} {options : Option Fields} {s₀ s' : FetcherState σ}
    {payload : FetchedPayload} (browser : plan.transport = .browser)
    (h : hybrid.fetch polls url plan session options s₀ = (.ok (some payload), s')) :
    ∃ resp elapsedMs s₁ s₂, fetch hybrid.browserFetcher hybrid.machinery polls
      (HybridFetcher.callOf url session options) s₁ = (.ok (some resp), s₂) ∧
      payload = hybrid.browserPayload url resp elapsedMs := by
  obtain ⟨started, s₁, -, h⟩ := Computation.ok_of_bind h
  rw [browser] at h
  obtain ⟨got, s₂, fetched, h⟩ := Computation.ok_of_bind h
  cases got with
  | none => cases (Prod.mk.inj h).1
  | some resp =>
    obtain ⟨elapsedMs, s₃, -, h⟩ := Computation.ok_of_bind h
    have made := Option.some.inj (Except.ok.inj (Prod.mk.inj h).1)
    exact ⟨resp, elapsedMs, s₁, s₂, fetched, made.symm⟩

end Fetch

section Mapper

variable {hybrid : HybridFetcher σ} {url : String} {resp : BrowserFetchResponse} {elapsedMs : ℚ}

theorem readable_browserPayload (py : Interpreter) :
    Readable py (hybrid.browserPayload url resp elapsedMs).info := by
  constructor
  · have confidence : (hybrid.browserPayload url resp elapsedMs).info.extra.getD
        "auth_confidence" = hybrid.float resp.authConfidence := rfl
    rw [confidence, pyOr]
    split_ifs
    · exact ⟨_, rfl⟩
    · exact ⟨_, rfl⟩
  · have browser : (hybrid.browserPayload url resp elapsedMs).info.transport = .browser := rfl
    have redirects : (hybrid.browserPayload url resp elapsedMs).info.extra.getD
        "redirect_chain" = .list (resp.redirectChain.map Value.str) := rfl
    rw [mapBrowser, if_pos (Or.inl browser), redirects, pyOr]
    split_ifs
    · exact ⟨_, rfl⟩
    · exact ⟨_, rfl⟩

theorem needsLogin_browserPayload :
    NeedsLogin (hybrid.browserPayload url resp elapsedMs).info ↔ resp.authRequired = true :=
  Iff.rfl

variable {assessor : QualityAssessor} {bundle : CrawlResultBundle}

/-- A page that needed a login when the fetch came to it is reported to need one. -/
theorem map_of_authRequired (py : Interpreter) (toolInput : WebReadPageToolInput)
    (carried : Carries assessor (hybrid.browserPayload url resp elapsedMs) bundle)
    (required : resp.authRequired = true) :
    ∃ result, mapCrawlResultToWebResult py toolInput bundle = .ok result ∧
      result.ok = false ∧ result.status = .authRequired := by
  have readable : Readable py bundle.fetched := by
    rw [carried.fetched]
    exact readable_browserPayload py
  obtain ⟨result, mapped⟩ := mapper_returns_iff.mpr readable
  have needed : flag bundle.fetched.extra "auth_required" = true := by
    rw [carried.fetched]
    exact needsLogin_browserPayload.mpr required
  have derived := (parts_of_map mapped).1
  rw [needed] at derived
  obtain ⟨ok, rest⟩ := Prod.mk.inj derived
  exact ⟨result, mapped, ok, (Prod.mk.inj rest).1⟩

theorem map_of_not_authRequired (py : Interpreter) (toolInput : WebReadPageToolInput)
    (carried : Carries assessor (hybrid.browserPayload url resp elapsedMs) bundle)
    (required : resp.authRequired = false) :
    ∃ result, mapCrawlResultToWebResult py toolInput bundle = .ok result ∧
      result.status ≠ .authRequired := by
  have readable : Readable py bundle.fetched := by
    rw [carried.fetched]
    exact readable_browserPayload py
  obtain ⟨result, mapped⟩ := mapper_returns_iff.mpr readable
  refine ⟨result, mapped, fun status => ?_⟩
  have needed := (authRequired_iff mapped).mp status
  rw [carried.fetched, needsLogin_browserPayload, required] at needed
  exact Bool.false_ne_true needed

end Mapper

section Reports

theorem waited_of_settle {fetcher : BrowserFetcher} {m : Machinery σ} {polls page : ℕ}
    {url : String} {asked : Bool} {arrival : Arrival} {s s' : FetcherState σ} {settled : Settled}
    (h : settleLogin fetcher m polls page url asked arrival s = (.ok (some settled), s')) :
    (settled.waited = none ∧ settled.html = arrival.html ∧ settled.finalUrl = arrival.finalUrl) ∨
      ((detect fetcher url arrival).loginRequired = true ∧ ∃ waited, settled.waited = some waited) := by
  rw [settleLogin] at h
  by_cases needed : ((detect fetcher url arrival).loginRequired && asked) = true
  · rw [if_pos needed] at h
    refine Or.inr ⟨(Bool.and_eq_true_iff.mp needed).1, ?_⟩
    obtain ⟨got, s₁, -, h⟩ := Computation.ok_of_bind h
    cases got with
    | none => cases (Prod.mk.inj h).1
    | some waited =>
      obtain ⟨latest, s₂, -, h⟩ := Computation.ok_of_bind h
      cases latest with
      | none =>
        have same := Option.some.inj (Except.ok.inj (Prod.mk.inj h).1)
        exact ⟨waited, (congrArg Settled.waited same).symm⟩
      | some html =>
        obtain ⟨shown, s₃, -, h⟩ := Computation.ok_of_bind h
        have same := Option.some.inj (Except.ok.inj (Prod.mk.inj h).1)
        exact ⟨waited, (congrArg Settled.waited same).symm⟩
  · rw [if_neg needed] at h
    have same := Option.some.inj (Except.ok.inj (Prod.mk.inj h).1)
    subst same
    exact Or.inl ⟨rfl, rfl, rfl⟩

variable {py : Interpreter} {toolInput : WebReadPageToolInput} {hybrid : HybridFetcher σ}
  {assessor : QualityAssessor} {bundle : CrawlResultBundle} {polls : ℕ} {call : Call}
  {elapsedMs : ℚ} {s₀ s' : FetcherState σ} {resp : BrowserFetchResponse}

/-- **Login reports.** The tool's result of a browser fetch tells of the login as it should exactly
when no login was waited for, or when the login page is still there after a wait that timed out or
on a page that does not pass the quality gate. -/
theorem login_reported_iff
    (fetched : fetch hybrid.browserFetcher hybrid.machinery polls call s₀ = (.ok (some resp), s'))
    (carried : Carries assessor (hybrid.browserPayload call.url resp elapsedMs) bundle) :
    ReportsLogin py toolInput hybrid.browserFetcher.authGate call.url resp bundle ↔
      Untroubled hybrid.browserFetcher hybrid.machinery polls call s₀ bundle.quality.ok := by
  obtain ⟨page, arrival, s₁, settled, s₂, reached, login, tells⟩ := stages_of_fetch fetched
  have unchanged : ∀ passes, Untroubled hybrid.browserFetcher hybrid.machinery polls call s₀ passes ↔
      ∀ waited, settled.waited = some waited → ¬ (waited.success = true ∧ passes = true) ∧
        StillLogin hybrid.browserFetcher.authGate call.url resp := by
    intro passes
    rw [StillLogin, tells.html, tells.finalUrl, tells.redirectChain]
    constructor
    · rintro ⟨page', arrival', t₁, settled', t₂, reached', login', fine⟩
      rw [reached] at reached'
      cases reached'
      rw [login] at login'
      cases login'
      exact fine
    · intro fine
      exact ⟨page, arrival, s₁, settled, s₂, reached, login, fine⟩
  rw [unchanged]
  rcases waited_of_settle login with ⟨unasked, html, finalUrl⟩ | ⟨needed, waited, waits⟩
  · refine iff_of_true ?_ (fun waited waits => ?_)
    · have silent : resp.interactiveLoginSuccess ≠ some true := by
        rw [tells.success, unasked]
        exact nofun
      cases required : resp.authRequired with
      | true =>
        obtain ⟨result, mapped, -, -⟩ :=
          map_of_authRequired py toolInput carried required
        refine ⟨result, mapped, fun success => absurd success silent, fun _ => ?_⟩
        rw [StillLogin, tells.html, tells.finalUrl, tells.redirectChain, html, finalUrl]
        exact tells.authRequired.symm.trans required
      | false =>
        obtain ⟨result, mapped, status⟩ :=
          map_of_not_authRequired py toolInput carried required
        exact ⟨result, mapped, fun success => absurd success silent, fun h => absurd h status⟩
    · rw [unasked] at waits
      cases waits
  · have required : resp.authRequired = true := tells.authRequired.trans needed
    have success : resp.interactiveLoginSuccess = some waited.success := by
      rw [tells.success, waits]
      rfl
    obtain ⟨result, mapped, ok, status⟩ :=
      map_of_authRequired py toolInput carried required
    constructor
    · rintro ⟨result', mapped', completed, still⟩ waited' waits'
      rw [mapped] at mapped'
      cases mapped'
      rw [waits] at waits'
      cases waits'
      refine ⟨fun ⟨succeeded, passes⟩ => ?_, still status⟩
      rw [succeeded] at success
      have fine := (completed success passes).1
      rw [ok] at fine
      exact Bool.false_ne_true fine
    · intro fine
      obtain ⟨unfinished, still⟩ := fine waited waits
      refine ⟨result, mapped, fun succeeded passes => ?_, fun _ => still⟩
      rw [success] at succeeded
      exact absurd ⟨Option.some.inj succeeded, passes⟩ unfinished

/-- A login that was waited for with success is never reported, on a page that passes. -/
theorem not_reported_of_completed
    (fetched : fetch hybrid.browserFetcher hybrid.machinery polls call s₀ = (.ok (some resp), s'))
    (carried : Carries assessor (hybrid.browserPayload call.url resp elapsedMs) bundle)
    (completed : resp.interactiveLoginSuccess = some true) (passes : bundle.quality.ok = true) :
    ¬ ReportsLogin py toolInput hybrid.browserFetcher.authGate call.url resp bundle := by
  obtain ⟨page, arrival, s₁, settled, s₂, -, login, tells⟩ := stages_of_fetch fetched
  rintro ⟨result, mapped, fine, -⟩
  rcases waited_of_settle login with ⟨unasked, -, -⟩ | ⟨needed, waited, waits⟩
  · rw [tells.success, unasked] at completed
    cases completed
  · have required : resp.authRequired = true := tells.authRequired.trans needed
    obtain ⟨result', mapped', ok, -⟩ :=
      map_of_authRequired py toolInput carried required
    rw [mapped] at mapped'
    cases mapped'
    have succeeded := (fine completed passes).1
    rw [ok] at succeeded
    exact Bool.false_ne_true succeeded

end Reports

section Example

/-- A site that shows a login page first, and then a text. The clock is the number of waits. -/
def loginSite : Machinery ℕ where
  turn := pure ()
  startPlaywright := pure ()
  stopPlaywright := pure ()
  hasBrowserType _ := true
  launch _ _ := pure ()
  newContext _ := pure 0
  route _ := pure ()
  newPage _ := pure 0
  closePage _ := pure ()
  closeContext _ := pure ()
  goto _ _ _ _ := pure (some { status := 200 })
  waitForLoadState _ _ _ := pure ()
  content _ := Computation.read fun s => if s.world = 0 then "<input type=password>" else "text"
  pageUrl _ world := if world = 0 then "https://a.test/login" else "https://a.test/"
  locatorCount _ _ := pure 0
  storageState _ _ := pure ()
  pathExists _ _ := false
  makeParent _ := pure ()
  sleep _ := Computation.modify fun s => { s with world := s.world + 1 }
  monotonic world := (world, world)
  time world := (world, world)
  uuid4 world := ("id", world)

def shownFetcher : BrowserFetcher where
  config := { headless := false }
  authGate := asciiGate
  shown _ := rfl

def loginHybrid : HybridFetcher ℕ where
  httpFetch _ := Computation.raise (runtimeError "unused")
  browserFetcher := shownFetcher
  machinery := loginSite
  reprFloat _ := ""

def loginCall : Call where
  url := "https://a.test/login"
  interactiveLogin := some true

def shortTexts : QualityAssessor where
  thresholds := { minTextChars := 1, minChunks := 0 }

/-- The bundle of a page whose text is its content. -/
def bundleOf (resp : BrowserFetchResponse) : CrawlResultBundle where
  request := { url := resp.url }
  plan := { transport := .browser, extractKind := .universal }
  fetched := (loginHybrid.browserPayload resp.url resp resp.elapsedMs).info
  rawHtml := some resp.html
  docClean := takenAsIs resp.html resp.finalUrl
  quality := shortTexts.score (takenAsIs resp.html resp.finalUrl)

theorem carries_bundleOf {resp : BrowserFetchResponse} (url : resp.url = loginCall.url) :
    Carries shortTexts (loginHybrid.browserPayload loginCall.url resp resp.elapsedMs)
      (bundleOf resp) where
  fetched := by rw [← url]; rfl
  quality := rfl

/-- The fetch ends with a login that was waited for with success, and on a page that passes. -/
def completes (outcome : Except PyExc (Option BrowserFetchResponse)) : Bool :=
  match outcome with
  | .ok (some resp) => resp.url = loginCall.url ∧ resp.interactiveLoginSuccess = some true ∧
      (bundleOf resp).quality.ok = true
  | _ => false

theorem response_of_completes {outcome : Except PyExc (Option BrowserFetchResponse)}
    (h : completes outcome = true) : ∃ resp, outcome = .ok (some resp) ∧
      resp.url = loginCall.url ∧ resp.interactiveLoginSuccess = some true ∧
      (bundleOf resp).quality.ok = true := by
  rcases outcome with exc | resp | resp
  · exact absurd h Bool.false_ne_true
  · exact absurd h Bool.false_ne_true
  · exact ⟨resp, rfl, of_decide_eq_true h⟩

def loginFetch : Except PyExc (Option BrowserFetchResponse) × FetcherState ℕ :=
  fetch loginHybrid.browserFetcher loginHybrid.machinery 5 loginCall { world := 0 }

theorem completes_loginFetch : completes loginFetch.1 = true := by decide +kernel

theorem response_loginFetch : ∃ resp s',
    fetch loginHybrid.browserFetcher loginHybrid.machinery 5 loginCall { world := 0 } =
      (.ok (some resp), s') ∧
    resp.url = loginCall.url ∧ resp.interactiveLoginSuccess = some true ∧
    (bundleOf resp).quality.ok = true := by
  have completed := completes_loginFetch
  unfold loginFetch at completed
  -- Nothing is to run the fetch again.
  generalize fetch loginHybrid.browserFetcher loginHybrid.machinery 5 loginCall { world := 0 } = ended
    at completed ⊢
  obtain ⟨outcome, s'⟩ := ended
  obtain ⟨resp, rfl, said⟩ := response_of_completes completed
  exact ⟨resp, s', rfl, said⟩

theorem login_reported_iff_loginFetch : ∃ resp s', loginFetch = (.ok (some resp), s') ∧
    (ReportsLogin asciiInterpreter { url := loginCall.url } loginHybrid.browserFetcher.authGate
        loginCall.url resp (bundleOf resp) ↔
      Untroubled loginHybrid.browserFetcher loginHybrid.machinery 5 loginCall { world := 0 }
        (bundleOf resp).quality.ok) := by
  obtain ⟨resp, s', fetched, url, -, -⟩ := response_loginFetch
  have carried := carries_bundleOf url
  refine ⟨resp, s', fetched, ?_⟩
  exact login_reported_iff fetched carried

/-- A login that is completed while the fetch waits is reported as one that is missing. -/
theorem completed_login_unreported : ∃ resp s', loginFetch = (.ok (some resp), s') ∧
    resp.interactiveLoginSuccess = some true ∧ (bundleOf resp).quality.ok = true ∧
    ¬ ReportsLogin asciiInterpreter { url := loginCall.url } loginHybrid.browserFetcher.authGate
      loginCall.url resp (bundleOf resp) := by
  obtain ⟨resp, s', fetched, url, completed, passes⟩ := response_loginFetch
  have carried := carries_bundleOf url
  refine ⟨resp, s', fetched, completed, passes, ?_⟩
  exact not_reported_of_completed fetched carried completed passes

end Example

end SthBoring.Crawler.LoginReports
