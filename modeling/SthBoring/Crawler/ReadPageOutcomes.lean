/- Module: SthBoring/Crawler/ReadPageOutcomes
   source: agent_crawler/tools/web_read_page.py, agent_crawler/loop/runner.py
   digest: The tool reports exactly the runs that come to an answer. -/

import SthBoring.Crawler.AttemptFrames
import SthBoring.Crawler.WebReadPage

set_option autoImplicit false
set_option relaxedAutoImplicit false

namespace SthBoring.Crawler.ReadPageOutcomes

open SthBoring.Crawler.Assess
open SthBoring.Crawler.AttemptFrames
open SthBoring.Crawler.Attempts
open SthBoring.Crawler.Models
open SthBoring.Crawler.Runner
open SthBoring.Crawler.Session
open SthBoring.Crawler.WebReadPage
open SthBoring.Lib.Effect (Computation Triple Keeps Returns Total Raises Post)
open SthBoring.Lib.PyValue
open SthBoring.Lib.UrlParse (Interpreter asciiInterpreter)
open SthBoring.WebKit.Clean (Document)

variable {σ : Type}

/-- The page fetched last. -/
def lastPage (calls : List FetchCall) : Option FetchedPayload :=
  (calls.filterMap (fun call => call.outcome.toOption)).getLast?

/-- The page was reported to need a login. -/
def NeedsLogin (fetched : FetchMeta) : Prop := flag fetched.extra "auth_required" = true

/-- The tool returns a result, whose status says so when the page fetched last needs a login. -/
def Reports (runner : CrawlerRunner σ) (toolInput : WebReadPageToolInput) (s₀ : Crawl σ) : Prop :=
  ∃ result s', arun runner toolInput s₀ = (.ok result, s') ∧
    ∀ page, lastPage s'.calls = some page → NeedsLogin page.info → result.status = .authRequired

/-- What the mapper converts in the data that came with a page: the confidence is a number, and
the redirects of a page are a list. -/
def Readable (py : Interpreter) (fetched : FetchMeta) : Prop :=
  (∃ x, toFloat py (pyOr (fetched.extra.getD "auth_confidence") (.float ⟨0, "0.0"⟩)) = .ok x) ∧
    ∃ browser, mapBrowser fetched = .ok browser

/-- Some attempt is answered from the cache, with a bundle that needs a login if the page fetched
last does, or gets a page past the quality gate that is not held up at the relevance gate. -/
def ComesToAnswer (runner : CrawlerRunner σ) (request : CrawlRequest) (s₀ : Crawl σ) : Prop :=
  ∃ n plan s s', Reached runner request s₀ n plan s ∧
    ((∃ cached, Hits runner request plan n s cached s' ∧ Readable runner.py cached.fetched ∧
        ∀ page, lastPage s.calls = some page → NeedsLogin page.info → NeedsLogin cached.fetched) ∨
      ∃ page, Acquires runner request plan n s (.ok page) s' ∧ ¬ Gated request plan ∧
        Readable runner.py page.fetched.info)

section Mapper

variable {py : Interpreter} {toolInput : WebReadPageToolInput} {bundle : CrawlResultBundle}

theorem mapper_returns_iff :
    (∃ result, mapCrawlResultToWebResult py toolInput bundle = .ok result) ↔
      Readable py bundle.fetched := by
  rw [mapCrawlResultToWebResult, mapAuth, Readable]
  cases toFloat py (pyOr (bundle.fetched.extra.getD "auth_confidence") (.float ⟨0, "0.0"⟩)) with
  | error exc => simp [bind, Except.bind]
  | ok x =>
    cases mapBrowser bundle.fetched with
    | error exc => simp [bind, Except.bind, pure, Except.pure]
    | ok browser => simp [bind, Except.bind, pure, Except.pure]

/-- Where the mapper returns, the status comes from the page and the content from the document. -/
theorem parts_of_map {result : WebReadPageResult}
    (h : mapCrawlResultToWebResult py toolInput bundle = .ok result) :
    (result.ok, result.status, result.error) =
        deriveStatus (flag bundle.fetched.extra "auth_required") bundle.quality.score ∧
      result.content = mapContent toolInput bundle := by
  obtain ⟨⟨x, confidence⟩, browser, mapped⟩ := mapper_returns_iff.mp ⟨result, h⟩
  simp only [mapCrawlResultToWebResult, mapAuth, confidence, mapped, bind, Except.bind, pure,
    Except.pure, Except.ok.injEq] at h
  subst h
  exact ⟨rfl, rfl⟩

theorem deriveStatus_authRequired_iff (authRequired : Bool) (score : ℚ) :
    (deriveStatus authRequired score).2.1 = .authRequired ↔ authRequired = true := by
  rw [deriveStatus]
  cases authRequired with
  | true => simp
  | false => split_ifs <;> simp_all

theorem authRequired_iff {result : WebReadPageResult}
    (h : mapCrawlResultToWebResult py toolInput bundle = .ok result) :
    result.status = .authRequired ↔ NeedsLogin bundle.fetched := by
  have derived := (parts_of_map h).1
  have status : result.status = (deriveStatus (flag bundle.fetched.extra "auth_required")
    bundle.quality.score).2.1 := by rw [← derived]
  rw [status]
  exact deriveStatus_authRequired_iff _ _

end Mapper

section LastPage

variable {runner : CrawlerRunner σ} {request : CrawlRequest} {plan : CrawlPlan} {n : ℕ}

theorem lastPage_append (calls : List FetchCall) (call : FetchCall) {page : FetchedPayload}
    (h : call.outcome = .ok page) : lastPage (calls ++ [call]) = some page := by
  simp [lastPage, List.filterMap_append, h, Except.toOption]

theorem callFetcher_lastPage (session : CrawlSession) (options : Option Fields) :
    Triple (fun _ => True) (callFetcher runner request plan n session options)
      (fun fetched s => lastPage s.calls = some fetched) (fun _ _ => True) := by
  apply Triple.bind (Triple.any _)
  intro outcome
  refine Triple.bind (Q := fun _ s => ∀ page, outcome = .ok page →
    lastPage s.calls = some page) ?_ ?_
  · exact Triple.modify (fun s _ page got => lastPage_append s.calls ⟨n, options, outcome⟩ got)
  · intro _
    exact Triple.lift (fun fetched got s hs => hs fetched got) (fun _ _ _ _ => trivial)

theorem fetchPage_lastPage (session : CrawlSession) (options : Fields) :
    Triple (fun _ => True) (fetchPage runner request plan n session options)
      (fun fetched s => lastPage s.calls = some fetched) (fun _ _ => True) := by
  apply Triple.bind (Triple.outcome (callFetcher_lastPage session (some options)) _)
  intro outcome
  cases outcome with
  | ok fetched => exact Triple.pure (fun s hs => hs)
  | error exc =>
    by_cases again : exc.isInstance "TypeError" = true
    · simp only [if_pos again]
      exact Triple.imp (callFetcher_lastPage session none) (fun _ _ => trivial)
        (fun _ _ => id) (fun _ _ => id)
    · simp only [if_neg again]
      exact Triple.raise (fun _ _ => trivial)

/-- The records of an attempt leave the calls as they are. -/
theorem noted_lastPage (m : ℕ) (page : Option FetchedPayload) :
    Noted m (fun s : Crawl σ => lastPage s.calls = page) where
  world _ _ hs := hs
  addStep _ _ _ hs := hs
  fallbacks _ _ hs := hs

theorem fetchStage_lastPage : Triple (fun _ => True) (fetchStage runner request plan n)
    (fun got s => ∀ fetched, got = .ok fetched → lastPage s.calls = some fetched)
    (fun _ _ => True) := by
  apply Triple.bind (Triple.any _)
  intro session
  apply Triple.bind (Triple.any _)
  intro _
  have read : Triple (fun _ => True) (do
      let fetched ← fetchPage runner request plan n session request.options
      record runner request plan n .fetch .ok "fetch complete"
      return fetched) (fun fetched s => lastPage s.calls = some fetched) (fun _ _ => True) := by
    apply Triple.bind (fetchPage_lastPage session request.options)
    intro fetched
    apply Triple.bind (keeps_record (noted_lastPage n (some fetched)).framed _ _ _ _).triple
    intro _
    exact Triple.pure (fun _ hs => hs)
  apply Triple.bind (Triple.outcome (Triple.imp read (fun _ _ => trivial) (fun _ _ => id)
    (fun _ _ => id)) _)
  intro outcome
  cases outcome with
  | error exc =>
    apply Triple.bind (Triple.any _)
    intro _
    exact Triple.pure (fun _ _ fetched got => by cases got)
  | ok fetched =>
    by_cases bad : 400 ≤ fetched.info.statusCode
    · simp only [if_pos bad]
      apply Triple.bind (Triple.any _)
      intro _
      exact Triple.pure (fun _ _ fetched got => by cases got)
    · simp only [if_neg bad]
      refine Triple.pure ?_
      rintro s hs _ ⟨rfl⟩
      exact hs

theorem readStage_fetched (fetched : FetchedPayload) :
    Returns (fun got => ∀ page, got = .ok page → page.fetched = fetched)
      (readStage runner request plan n fetched) := by
  apply Returns.bind
  intro outcome
  cases outcome with
  | error exc =>
    apply Returns.bind
    intro _
    exact Returns.pure (fun page got => by cases got)
  | ok doc =>
    apply Returns.bind
    intro _
    split_ifs
    · refine Returns.pure ?_
      rintro _ ⟨rfl⟩
      rfl
    · exact Returns.pure (fun page got => by cases got)

theorem acquire_lastPage : Triple (fun _ => True) (acquire runner request plan n)
    (fun got s => ∀ page, got = .ok page → lastPage s.calls = some page.fetched)
    (fun _ _ => True) := by
  apply Triple.bind fetchStage_lastPage
  intro got
  cases got with
  | error failure => exact Triple.pure (fun _ _ page got => by cases got)
  | ok fetched =>
    have kept : Triple (fun s => lastPage s.calls = some fetched)
        (readStage runner request plan n fetched)
        (fun _ s => lastPage s.calls = some fetched) (fun _ _ => True) :=
      (keeps_readStage (noted_lastPage n (some fetched)).framed fetched).triple
    have same : Triple (fun s => lastPage s.calls = some fetched)
        (readStage runner request plan n fetched)
        (fun got _ => ∀ page, got = .ok page → page.fetched = fetched) (fun _ _ => True) :=
      Triple.imp (readStage_fetched fetched) (fun _ _ => trivial) (fun _ _ => id) (fun _ _ => id)
    refine Triple.imp (kept.and same) (fun s hs => hs fetched rfl) ?_ (fun _ _ _ => trivial)
    rintro got s ⟨last, both⟩ page rfl
    rw [last, both page rfl]

theorem lastPage_of_acquires {s s' : Crawl σ} {page : Page}
    (h : Acquires runner request plan n s (.ok page) s') :
    lastPage s'.calls = some page.fetched := by
  obtain ⟨s₁, _, acquired⟩ := h
  have post := (acquire_lastPage :
    Triple _ (acquire runner request plan n) _ _) s₁ trivial
  rw [acquired] at post
  exact post page rfl

theorem lastPage_after_hit {s s' : Crawl σ} {cached : CrawlResultBundle}
    (h : Hits runner request plan n s cached s') :
    lastPage (attempt runner request plan n s).2.calls = lastPage s.calls := by
  have consulted : Keeps (fun t => lastPage t.calls = lastPage s.calls)
      (consult runner request plan n (cacheModeOf request)) :=
    keeps_consult (noted_lastPage n _).framed _ (fun _ _ _ hs => hs)
  have given : Keeps (fun t => lastPage t.calls = lastPage s.calls)
      (do return .returned (← serve runner request plan cached) : Crawling σ AttemptEnd) :=
    Keeps.bind (keeps_serve (fun _ _ _ _ hs => hs)) (fun _ => Keeps.pure _)
  have before := consulted.after (s := s) rfl
  rw [h] at before
  rw [attempt_of_hits h]
  exact given.after before

theorem lastPage_after_page {s s' : Crawl σ} {page : Page}
    (h : Acquires runner request plan n s (.ok page) s') :
    lastPage (attempt runner request plan n s).2.calls = some page.fetched := by
  have delivered : Keeps (fun t => lastPage t.calls = some page.fetched)
      (do conclude runner request plan n (← deliver runner request plan n page)) :=
    Keeps.bind (keeps_deliver (noted_lastPage n _).framed page (fun _ _ _ hs => hs))
      (keeps_conclude (noted_lastPage n _).framed)
  rw [attempt_of_acquires h]
  exact delivered.after (lastPage_of_acquires h)

end LastPage

section Outcomes

variable {runner : CrawlerRunner σ} {toolInput : WebReadPageToolInput} {s₀ s' : Crawl σ}

/-- The tool does not ask for a rendering by a language model, and for no artifacts. -/
theorem gated_of_unwritten {plan : CrawlPlan}
    (h : Unwritten runner (toCrawlRequest toolInput) plan) :
    Gated (toCrawlRequest toolInput) plan := by
  rcases h with gated | ⟨_, mode⟩ | ⟨persist, _⟩
  · exact gated
  · simp only [toCrawlRequest] at mode
    split_ifs at mode
  · cases persist

theorem not_llmPatch (cached : CrawlResultBundle) :
    ¬ LlmPatch (toCrawlRequest toolInput) cached := by
  rintro ⟨_, _, mode⟩
  simp only [toCrawlRequest] at mode
  split_ifs at mode

theorem arun_eq_ok_iff {result : WebReadPageResult} :
    arun runner toolInput s₀ = (.ok result, s') ↔
      ∃ bundle, run runner (toCrawlRequest toolInput) s₀ = (.ok bundle, s') ∧
        mapCrawlResultToWebResult runner.py toolInput bundle = .ok result := by
  rw [arun]
  rcases ran : run runner (toCrawlRequest toolInput) s₀ with ⟨failure | bundle, s₁⟩
  · rw [Computation.bind_of_error ran]
    simp
  · rw [Computation.bind_of_ok ran]
    cases mapped : mapCrawlResultToWebResult runner.py toolInput bundle with
    | error exc => simp [Computation.mapError, Computation.lift, Computation.raise, Except.mapError, mapped]
    | ok made =>
      simp [Computation.mapError, Computation.lift, pure, Except.mapError, mapped, and_comm]

/-- A bundle made from another one but for the trace and the rendering came with the same page. -/
theorem reports_of_returned {bundle : CrawlResultBundle}
    (returned : run runner (toCrawlRequest toolInput) s₀ = (.ok bundle, s'))
    (readable : Readable runner.py bundle.fetched)
    (login : ∀ page, lastPage s'.calls = some page → NeedsLogin page.info →
      NeedsLogin bundle.fetched) : Reports runner toolInput s₀ := by
  obtain ⟨result, mapped⟩ := mapper_returns_iff.mpr readable
  refine ⟨result, s', arun_eq_ok_iff.mpr ⟨bundle, returned, mapped⟩, ?_⟩
  intro page last needs
  exact (authRequired_iff mapped).mpr (login page last needs)

theorem comesToAnswer_of_reports (h : Reports runner toolInput s₀) :
    ComesToAnswer runner (toCrawlRequest toolInput) s₀ := by
  obtain ⟨result, s', returned, status⟩ := h
  obtain ⟨bundle, ran, mapped⟩ := arun_eq_ok_iff.mp returned
  have parsed : Parsed runner (toCrawlRequest toolInput) := by
    by_contra unparsed
    obtain ⟨exc, s₁, raised⟩ := start_raises unparsed s₀
    rw [run_eq_finish, Computation.bind_of_error raised] at ran
    cases ran
  obtain ⟨plan, s, started⟩ := start_total parsed s₀
  obtain ⟨n, plan, s, reached, last⟩ := exists_last_attempt (Reached.first started)
  have readable : Readable runner.py bundle.fetched := mapper_returns_iff.mp ⟨result, mapped⟩
  rcases hits_or_acquires parsed plan n s with ⟨cached, s₁, hit⟩ | ⟨failure | page, s₁, got⟩
  · obtain ⟨given, s₂, ended, trace, rfl⟩ := attempt_of_hit hit (not_llmPatch cached)
    have same := lastPage_after_hit hit
    rw [run_of_returned reached ended] at ran
    obtain ⟨rfl, rfl⟩ : _ ∧ _ := by simpa using ran
    rw [ended] at same
    refine ⟨n, plan, s, s₁, reached, Or.inl ⟨cached, hit, readable, ?_⟩⟩
    intro page fetched needs
    exact (authRequired_iff mapped).mp (status page (same.trans fetched) needs)
  · obtain ⟨s₂, failed⟩ := attempt_of_failure parsed got
    have lastOne := last _ _ _ failed
    subst lastOne
    rw [run_of_failed reached rfl failed] at ran
    cases ran
  · by_cases asked : Unwritten runner (toCrawlRequest toolInput) plan
    · obtain ⟨exc, s₂, raised⟩ := attempt_raises_of_page asked got
      rw [run_of_raised reached raised] at ran
      cases ran
    · obtain ⟨given, s₂, ended, trace, rfl⟩ := attempt_of_page parsed asked got
      rw [run_of_returned reached ended] at ran
      obtain ⟨rfl, rfl⟩ : _ ∧ _ := by simpa using ran
      exact ⟨n, plan, s, s₁, reached, Or.inr ⟨page, got, fun gated => asked (Or.inl gated), readable⟩⟩

theorem reports_of_comesToAnswer (h : ComesToAnswer runner (toCrawlRequest toolInput) s₀) :
    Reports runner toolInput s₀ := by
  obtain ⟨n, plan, s, s₁, reached, ⟨cached, hit, readable, login⟩ | ⟨page, got, ungated, readable⟩⟩ := h
  · obtain ⟨given, s₂, ended, trace, rfl⟩ := attempt_of_hit hit (not_llmPatch cached)
    have same := lastPage_after_hit hit
    rw [ended] at same
    apply reports_of_returned (run_of_returned reached ended) readable
    intro page fetched needs
    exact login page (same.symm.trans fetched) needs
  · have written : ¬ Unwritten runner (toCrawlRequest toolInput) plan :=
      fun asked => ungated (gated_of_unwritten asked)
    obtain ⟨given, s₂, ended, trace, rfl⟩ :=
      attempt_of_page (parsed_of_reached reached) written got
    have same := lastPage_after_page got
    rw [ended] at same
    apply reports_of_returned (run_of_returned reached ended) readable
    intro last fetched needs
    obtain rfl : page.fetched = last := Option.some.inj (same.symm.trans fetched)
    exact needs

end Outcomes

section Example

/-- A site that answers every request with its short login page. -/
def loginRunner : CrawlerRunner Unit where
  py := asciiInterpreter
  fetch url plan _ _ := pure
    { info := { url := url, finalUrl := "https://example.test/login", statusCode := 200,
                transport := plan.transport, extra := [("auth_required", .bool true)] }
      html := some "Please sign in." }
  universalExtractor html url := pure { url := url, title := none, text := html }
  intelligentExtractor _ _ _ := Computation.raise (notImplementedError
    "LLM-based intelligent extraction is a placeholder for a later implementation.")
  rank chunks _ := pure chunks
  time world := (0, world)
  uuid4 world := ("run", world)

def privatePage : WebReadPageToolInput where
  url := "https://example.test/private"
  transport := .browser

def noCrawlYet : Crawl Unit where
  world := ()

def raisesToo {α : Type} : Except RunFailure α → Bool
  | .ok _ => false
  | .error _ => true

end Example

end SthBoring.Crawler.ReadPageOutcomes
