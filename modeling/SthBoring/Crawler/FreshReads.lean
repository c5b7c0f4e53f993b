/- Module: SthBoring/Crawler/FreshReads
   source: agent_crawler/loop/runner.py, agent_crawler/fetch/hybrid_fetcher.py
   digest: When a run that is not to use the cache has its page from the server. -/

import SthBoring.Crawler.FetchCalls
import SthBoring.Crawler.RunAccounts
import SthBoring.Crawler.WebFetches

set_option autoImplicit false
set_option relaxedAutoImplicit false

namespace SthBoring.Crawler.FreshReads

open SthBoring.Crawler.AttemptFrames
open SthBoring.Crawler.Attempts
open SthBoring.Crawler.FetchCalls
open SthBoring.Crawler.Models
open SthBoring.Crawler.RunAccounts (returned_by)
open SthBoring.Crawler.Runner
open SthBoring.Crawler.Session
open SthBoring.Crawler.WebFetches
open SthBoring.Lib.Effect (Computation Triple Keeps Returns Raises Post)
open SthBoring.Lib.PyValue (Fields PyExc)
open SthBoring.Lib.UrlParse (asciiInterpreter)
open SthBoring.WebKit.CachedFetch (HttpResponse)

variable {σ : Type}

/-- The states of a runner over its runs. The directory may have entries from before, and between
the runs anything may happen elsewhere. -/
inductive History (runner : CrawlerRunner (Web σ)) : Crawl (Web σ) → Prop
  | fresh {s : Crawl (Web σ)} : s.cache.items.entries = [] → Counted 0 s.world → History runner s
  | run {s : Crawl (Web σ)} (request : CrawlRequest) :
      History runner s → History runner (run runner request s).2
  | wait {s : Crawl (Web σ)} (inner : σ) :
      History runner s → History runner { s with world := { s.world with inner := inner } }

/-- The run calls the fetcher with this plan, in this world. -/
inductive Calls (runner : CrawlerRunner σ) (request : CrawlRequest) (s₀ : Crawl σ) :
    CrawlPlan → σ → Prop
  | first {n : ℕ} {plan : CrawlPlan} {session : CrawlSession} {t : Crawl σ} :
      Asks runner request s₀ n plan session t → Calls runner request s₀ plan t.world
  | again {n : ℕ} {plan : CrawlPlan} {session : CrawlSession} {t : Crawl σ} {exc : PyExc}
      {world : σ} : Asks runner request s₀ n plan session t →
      runner.fetch request.url plan session (some request.options) t.world = (.error exc, world) →
      exc.isInstance "TypeError" = true → Calls runner request s₀ plan world

/-- An attempt of the run got to this state with a page, and the document of the bundle is what it
read from the page. -/
def MadeOf (runner : CrawlerRunner σ) (request : CrawlRequest) (s₀ : Crawl σ)
    (bundle : CrawlResultBundle) (fetched : FetchedPayload) (t : Crawl σ) : Prop :=
  ∃ n plan session s s₁ s₂, Asks runner request s₀ n plan session s ∧
    fetchPage runner request plan n session request.options s = (.ok fetched, t) ∧
    record runner request plan n .fetch .ok "fetch complete" none t = (.ok (), s₁) ∧
    readPage runner request plan n fetched s₁ = (.ok bundle.docClean, s₂)

/-- The page that the document is made of is from an answer that came, or that confirmed it,
during the run. -/
def FromThisRun (runner : CrawlerRunner (Web σ)) (request : CrawlRequest) (s₀ : Crawl (Web σ))
    (bundle : CrawlResultBundle) : Prop :=
  ∃ fetched t answer, MadeOf runner request s₀ bundle fetched t ∧
    t.world.pages.getLast? = some answer ∧ s₀.world.answers ≤ answer ∧
    answer < (run runner request s₀).2.world.answers

/-- The result cache is not to be used. -/
def AsksAnew (request : CrawlRequest) : Prop :=
  cacheModeOf request = "bypass" ∨ cacheModeOf request = "refresh"

/-- No HTTP fetch of the run finds an entry which is fresh, and older than the run. -/
def FindsNothingOld (hybrid : HybridFetcher σ) (parts : CrawlerRunner σ) (request : CrawlRequest)
    (s₀ : Crawl (Web σ)) : Prop :=
  ∀ plan web, Calls (withHybrid hybrid parts) request s₀ plan web → plan.transport = .http →
    ¬ FindsOld hybrid s₀.world.answers request.url (lookupTime hybrid web) web

section Turn

variable {runner : CrawlerRunner σ} {request : CrawlRequest} {plan : CrawlPlan} {n : ℕ}
  {s s' : Crawl σ}

theorem consult_anew (anew : AsksAnew request) :
    Returns (fun answer => answer = none) (consult runner request plan n (cacheModeOf request)) := by
  unfold consult
  split_ifs with asked
  · have refresh := anew.resolve_left asked.2
    apply Returns.bind
    intro now
    apply Returns.bind
    intro cached
    apply Returns.bind
    intro _
    rw [if_neg fun taken => taken.2 refresh]
    exact Returns.bind fun _ => Returns.pure rfl
  · exact Returns.pure rfl

theorem deliver_docClean (page : Page) : Returns
    (fun got => ∀ bundle, got = .ok bundle → bundle.docClean = page.doc)
    (deliver runner request plan n page) := by
  by_cases gated : Gated request plan
  · intro s _
    have raises : Raises (deliver runner request plan n page) := deliver_raises page (Or.inl gated)
    obtain ⟨exc, s', raised⟩ := raises s
    rw [raised]
    trivial
  · rw [deliver_of_not_gated gated page]
    refine Returns.bind_of (emitBundle_returns page) ?_
    rintro bundle ⟨trace, rfl⟩
    refine Returns.pure ?_
    rintro _ ⟨⟩
    rfl

/-- A page comes from the fetcher, right after the session was opened. -/
theorem fetchStage_ok {fetched : FetchedPayload}
    (ended : fetchStage runner request plan n s = (.ok (.ok fetched), s')) :
    ∃ session s₁ s₂ t, openSession runner request plan s = (.ok session, s₁) ∧
      record runner request plan n .session .ok "session ready" none s₁ = (.ok (), s₂) ∧
      fetchPage runner request plan n session request.options s₂ = (.ok fetched, t) ∧
      record runner request plan n .fetch .ok "fetch complete" none t = (.ok (), s') := by
  obtain ⟨session, s₁, opened, rest⟩ := Computation.ok_of_bind ended
  obtain ⟨_, s₂, recorded, rest⟩ := Computation.ok_of_bind rest
  obtain ⟨outcome, s₃, fetching, rest⟩ := Computation.ok_of_bind rest
  refine ⟨session, s₁, s₂, ?_⟩
  cases outcome with
  | error exc =>
    obtain ⟨_, _, _, rest⟩ := Computation.ok_of_bind rest
    cases rest
  | ok page =>
    have paged : (do
        let fetched ← fetchPage runner request plan n session request.options
        record runner request plan n .fetch .ok "fetch complete"
        return fetched : Crawling σ FetchedPayload) s₂ = (.ok page, s₃) := by
      obtain ⟨first, second⟩ := Prod.mk.inj fetching
      exact Prod.ext (Except.ok.inj first) second
    obtain ⟨got, t, fetchedPage, paged⟩ := Computation.ok_of_bind paged
    obtain ⟨_, s₄, told, paged⟩ := Computation.ok_of_bind paged
    cases paged
    by_cases bad : 400 ≤ page.info.statusCode
    · simp only [if_pos bad] at rest
      obtain ⟨_, _, _, rest⟩ := Computation.ok_of_bind rest
      cases rest
    · simp only [if_neg bad] at rest
      cases rest
      exact ⟨t, opened, recorded, fetchedPage, told⟩

theorem readStage_ok {fetched : FetchedPayload} {page : Page}
    (ended : readStage runner request plan n fetched s = (.ok (.ok page), s')) :
    ∃ t, readPage runner request plan n fetched s = (.ok page.doc, t) := by
  obtain ⟨outcome, t, reading, rest⟩ := Computation.ok_of_bind ended
  obtain ⟨first, second⟩ := Prod.mk.inj reading
  cases outcome with
  | error exc =>
    obtain ⟨_, _, _, rest⟩ := Computation.ok_of_bind rest
    cases rest
  | ok doc =>
    obtain ⟨_, t', _, rest⟩ := Computation.ok_of_bind rest
    refine ⟨t, Prod.ext ?_ second⟩
    split at rest
    · cases rest
      exact Except.ok.inj first
    · cases rest

/-- A bundle that is not from the cache is made of a page which the attempt fetched. -/
theorem attempt_ok {bundle : CrawlResultBundle} (anew : AsksAnew request)
    (ended : attempt runner request plan n s = (.ok (.returned bundle), s')) :
    ∃ session t fetched t₁ t₂ t₃ t₄ page, Arrives runner request n plan s session t ∧
      fetchPage runner request plan n session request.options t = (.ok fetched, t₁) ∧
      record runner request plan n .fetch .ok "fetch complete" none t₁ = (.ok (), t₂) ∧
      readPage runner request plan n fetched t₂ = (.ok bundle.docClean, t₃) ∧
      readStage runner request plan n fetched t₂ = (.ok (.ok page), t₄) ∧
      deliver runner request plan n page t₄ = (.ok (.ok bundle), s') := by
  obtain ⟨answer, s₁, consulted, rest⟩ := Computation.ok_of_bind ended
  obtain rfl := (consult_anew anew).of_ok consulted
  obtain ⟨got, t₄, acquired, rest⟩ := Computation.ok_of_bind rest
  cases got with
  | error failure =>
    obtain ⟨_, _, _, rest⟩ := Computation.ok_of_bind rest
    cases rest
  | ok page =>
    obtain ⟨delivered, s₂, delivering, rest⟩ := Computation.ok_of_bind rest
    cases delivered with
    | error failure =>
      obtain ⟨_, _, _, rest⟩ := Computation.ok_of_bind rest
      cases rest
    | ok made =>
      cases rest
      obtain ⟨staged, t₂, fetching, rest⟩ := Computation.ok_of_bind acquired
      cases staged with
      | error failure => cases rest
      | ok fetched =>
        obtain ⟨session, s₃, t, t₁, opened, recorded, paged, told⟩ := fetchStage_ok fetching
        obtain ⟨t₃, read⟩ := readStage_ok rest
        have same := (deliver_docClean page).of_ok delivering bundle rfl
        rw [← same] at read
        exact ⟨session, t, fetched, t₁, t₂, t₃, t₄, page, ⟨s₁, s₃, consulted, opened, recorded⟩,
          paged, told, read, rest, delivering⟩

end Turn

section Run

variable {hybrid : HybridFetcher σ} {parts : CrawlerRunner σ} {request : CrawlRequest}
  {s₀ : Crawl (Web σ)} {since : ℕ}

/-- No part of the runner takes an answer back. -/
theorem worldKept_counted (hybrid : HybridFetcher σ) (parts : CrawlerRunner σ) (since : ℕ) :
    WorldKept (withHybrid hybrid parts) (Counted since) where
  time _ counted := ⟨counted.marked, counted.since⟩
  uuid4 _ counted := ⟨counted.marked, counted.since⟩
  fetch _ plan session options := keeps_fetch plan session options
  universal _ _ := keeps_inside _
  adapters adapter mem html url := by
    obtain ⟨made, _, rfl⟩ := List.mem_map.mp mem
    exact keeps_inside _
  intelligent _ _ _ := keeps_inside _
  rank _ _ := keeps_inside _

theorem counted_of_history (history : History (withHybrid hybrid parts) s₀) :
    Counted s₀.world.answers s₀.world := by
  have counted : Counted 0 s₀.world := by
    induction history with
    | fresh _ first => exact first
    | run request _ ih => exact world_run (worldKept_counted hybrid parts 0) ih
    | wait inner _ ih => exact ⟨ih.marked, ih.since⟩
  exact ⟨counted.marked, le_rfl⟩

theorem called_since {plan : CrawlPlan} {session : CrawlSession} {options : Option Fields}
    {web web' : Web σ} {page : FetchedPayload} (unfound : FindsNothingOld hybrid parts request s₀)
    (calls : Calls (withHybrid hybrid parts) request s₀ plan web)
    (counted : Counted s₀.world.answers web)
    (got : hybrid.fetch request.url plan session options web = (.ok page, web')) :
    Counted s₀.world.answers web' ∧ GaveSince s₀.world.answers web' := by
  have ended : Post _ _ (hybrid.fetch request.url plan session options web) :=
    fetch_since plan session options web web ⟨counted, rfl⟩
  rw [got] at ended
  exact ⟨ended.1, ended.2.resolve_left fun old => unfound plan web calls old.1 old.2⟩

/-- The page that the fetcher has at last is from an answer of the run. -/
theorem fetchPage_since {n : ℕ} {plan : CrawlPlan} {session : CrawlSession} {t t' : Crawl (Web σ)}
    {fetched : FetchedPayload} (unfound : FindsNothingOld hybrid parts request s₀)
    (asks : Asks (withHybrid hybrid parts) request s₀ n plan session t)
    (counted : Counted s₀.world.answers t.world)
    (paged : fetchPage (withHybrid hybrid parts) request plan n session request.options t =
      (.ok fetched, t')) :
    Counted s₀.world.answers t'.world ∧ GaveSince s₀.world.answers t'.world := by
  rw [fetchPage_eq] at paged
  rcases first : (withHybrid hybrid parts).fetch request.url plan session (some request.options)
    t.world with ⟨exc | page, web⟩
  · have kept : Counted s₀.world.answers web := by
      have keeps := (worldKept_counted hybrid parts s₀.world.answers).fetch request.url plan session
        (some request.options)
      have ended := keeps.after counted
      rwa [first] at ended
    rw [first] at paged
    dsimp only at paged
    split at paged
    · next again =>
      rw [callFetcher_eq] at paged
      obtain ⟨got, rfl⟩ := Prod.mk.inj paged
      have called := Calls.again asks first again
      simp only [afterCall, first] at got ⊢
      exact called_since unfound called kept (Prod.ext got rfl)
    · cases paged
  · rw [first] at paged
    cases paged
    simp only [afterCall, first]
    exact called_since unfound (.first asks) counted first

end Run

section Samples

/-- A site with one page, whose content is the state of the world. The cache has the digest of the
page's URL. -/
def siteFetcher : HybridFetcher (List UInt8) where
  httpFetcher := defaultHttpFetcher asciiInterpreter
    (fun _ => "d801f7fd9da67e8696dd1b2a7d240e7af31f3a945f87e449e83430993e8b8fb0")
  time page := (0, page)
  monotonic page := (0, page)
  get request := fun page => (.ok { url := request.url, statusCode := 200, content := page }, page)
  sleep _ := pure ()
  decode content _ := .ok (String.ofList (content.map fun octet => Char.ofNat octet.toNat))
  browse _ _ _ := Computation.raise (notImplementedError "no browser")

def siteParts : CrawlerRunner (List UInt8) where
  py := asciiInterpreter
  fetch _ _ _ _ := Computation.raise (notImplementedError "no fetcher")
  universalExtractor html url := pure (takenAsIs html url)
  intelligentExtractor _ _ _ := Computation.raise (notImplementedError "no model")
  rank chunks _ := pure chunks
  qualityAssessor := { thresholds := { minTextChars := 1 } }
  time page := (0, page)
  uuid4 page := ("run", page)

def siteRunner : CrawlerRunner (Web (List UInt8)) := withHybrid siteFetcher siteParts

def read (mode : String) : CrawlRequest where
  url := "https://example.test/page"
  options := [("cache_mode", .str mode)]

/-- Before the first run; the page reads "old". -/
def before : Crawl (Web (List UInt8)) where
  world := { inner := [111, 108, 100] }

/-- The page was read once, and then it was changed to "new". -/
def changed : Crawl (Web (List UInt8)) :=
  let s := (run siteRunner (read "prefer") before).2
  { s with world := { s.world with inner := [110, 101, 119] } }

def textOf (ended : Except RunFailure CrawlResultBundle × Crawl (Web (List UInt8))) :
    Option String :=
  ended.1.toOption.map fun bundle => bundle.docClean.text

theorem returned_of_text {s : Crawl (Web (List UInt8))} {request : CrawlRequest} {text : String}
    (told : textOf (run siteRunner request s) = some text) :
    ∃ bundle s', run siteRunner request s = (.ok bundle, s') ∧ bundle.docClean.text = text := by
  rcases ended : run siteRunner request s with ⟨exc | bundle, s'⟩
  · rw [ended] at told
    cases told
  · rw [ended] at told
    exact ⟨bundle, s', rfl, Option.some.inj told⟩

theorem history_before : History siteRunner before := .fresh rfl ⟨nofun, le_rfl⟩

/-- A run in which no answer comes has no page from it. -/
theorem not_fromThisRun {σ : Type} {runner : CrawlerRunner (Web σ)} {request : CrawlRequest}
    {s₀ : Crawl (Web σ)} {bundle : CrawlResultBundle}
    (silent : (run runner request s₀).2.world.answers = s₀.world.answers) :
    ¬ FromThisRun runner request s₀ bundle := by
  rintro ⟨fetched, t, answer, -, -, since, given⟩
  omega

end Samples

end SthBoring.Crawler.FreshReads
