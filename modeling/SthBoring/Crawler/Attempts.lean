/- Module: SthBoring/Crawler/Attempts
   source: agent_crawler/loop/runner.py
   digest: What one attempt can do, which attempts a run comes to, and the run from there. -/

import SthBoring.Crawler.Runner

set_option autoImplicit false
set_option relaxedAutoImplicit false

namespace SthBoring.Crawler.Attempts

open SthBoring.Crawler.Assess
open SthBoring.Crawler.Caching
open SthBoring.Crawler.Models
open SthBoring.Crawler.Policy
open SthBoring.Crawler.Runner
open SthBoring.Crawler.Session
open SthBoring.Lib.Effect (Computation Triple Keeps Returns Total Raises Post)
open SthBoring.Lib.PyValue (Fields PyExc textOr)
open SthBoring.Lib.UrlParse (netloc)
open SthBoring.WebKit.Clean (Document)

variable {σ : Type} {runner : CrawlerRunner σ} {request : CrawlRequest} {plan : CrawlPlan} {n : ℕ}

/-- The URL has a network location that `urlparse` can make out. -/
def Parsed (runner : CrawlerRunner σ) (request : CrawlRequest) : Prop :=
  ∃ host, netloc runner.py request.url = .ok host

section Totality

theorem draw_total {α : Type} (f : σ → α × σ) : Total (draw f) :=
  fun s => ⟨(f s.world).1, { s with world := (f s.world).2 }, rfl⟩

theorem record_total (parsed : Parsed runner request) (step : EventStep) (status : EventStatus)
    (message : String) (errorType : Option ErrorType) :
    Total (record runner request plan n step status message errorType) := by
  obtain ⟨host, parsed⟩ := parsed
  apply Total.bind (Total.modify _)
  intro _
  exact Total.bind (Total.lift parsed) (fun _ => Total.pure ())

theorem buildPlan_of_parsed (parsed : Parsed runner request) :
    ∃ plan, buildPlan runner.py runner.domainRegistry request = .ok plan := by
  obtain ⟨host, parsed⟩ := parsed
  simp only [buildPlan, DomainPolicyRegistry.resolve, parsed, bind, Except.bind, pure, Except.pure]
  exact ⟨_, rfl⟩

theorem session_of_parsed (parsed : Parsed runner request) (store : SessionStore) (now : ℚ)
    (profile : String) (transport : TransportKind) :
    ∃ opened, store.get runner.py now request.url profile transport = .ok opened := by
  obtain ⟨host, parsed⟩ := parsed
  simp only [SessionStore.get, SessionStore.domainOf, parsed, bind, Except.bind, pure, Except.pure]
  exact ⟨_, rfl⟩

theorem openSession_total (parsed : Parsed runner request) :
    Total (openSession runner request plan) := by
  apply Total.bind (draw_total _)
  intro now
  apply Total.bind (Total.read _)
  intro store
  obtain ⟨opened, h⟩ :=
    session_of_parsed parsed store now request.authProfileId plan.transport
  apply Total.bind (Total.lift h)
  intro opened
  exact Total.bind (Total.modify _) (fun _ => Total.pure _)

theorem consult_total (parsed : Parsed runner request) (cacheMode : String) :
    Total (consult runner request plan n cacheMode) := by
  unfold consult
  split_ifs with asked
  · apply Total.bind (draw_total _)
    intro now
    apply Total.bind (Total.read _)
    intro cached
    apply Total.bind (Total.modify _)
    intro _
    split_ifs with taken
    · exact Total.bind (record_total parsed _ _ _ _) (fun _ => Total.pure _)
    · exact Total.bind (record_total parsed _ _ _ _) (fun _ => Total.pure _)
  · exact Total.pure none

theorem fetchStage_total (parsed : Parsed runner request) :
    Total (fetchStage runner request plan n) := by
  apply Total.bind (openSession_total parsed)
  intro session
  apply Total.bind (record_total parsed _ _ _ _)
  intro _
  apply Total.bind (Total.outcome _)
  intro outcome
  cases outcome with
  | error exc => exact Total.bind (record_total parsed _ _ _ _) (fun _ => Total.pure _)
  | ok fetched =>
    by_cases bad : 400 ≤ fetched.info.statusCode
    · simp only [if_pos bad]
      exact Total.bind (record_total parsed _ _ _ _) (fun _ => Total.pure _)
    · simp only [if_neg bad]
      exact Total.pure _

theorem readStage_total (parsed : Parsed runner request) (fetched : FetchedPayload) :
    Total (readStage runner request plan n fetched) := by
  apply Total.bind (Total.outcome _)
  intro outcome
  cases outcome with
  | error exc => exact Total.bind (record_total parsed _ _ _ _) (fun _ => Total.pure _)
  | ok doc =>
    apply Total.bind (record_total parsed _ _ _ _)
    intro _
    split_ifs <;> exact Total.pure _

/-- Up to the quality gate nothing gets out of an attempt. -/
theorem acquire_total (parsed : Parsed runner request) : Total (acquire runner request plan n) := by
  apply Total.bind (fetchStage_total parsed)
  intro outcome
  cases outcome with
  | error failure => exact Total.pure _
  | ok fetched => exact readStage_total parsed fetched

end Totality

section Deliver

/-- The policy allows a judgement of relevance, and there is a query to judge by. -/
def Gated (request : CrawlRequest) (plan : CrawlPlan) : Prop :=
  plan.allowLlmGate = true ∧ textOr request.query "" ≠ ""

/-- The run is asked for something that is not written yet: a judgement of relevance, a rendering
by a language model, or artifacts in a project's store. -/
def Unwritten (runner : CrawlerRunner σ) (request : CrawlRequest) (plan : CrawlPlan) : Prop :=
  Gated request plan ∨ (request.render = true ∧ request.renderMode = .llm) ∨
    (request.persistArtifacts = true ∧ runner.artifactAdapter.hasManager = true)

/-- What a run renders of a document it has just read. -/
def rendering (runner : CrawlerRunner σ) (request : CrawlRequest) (doc : Document) :
    Option String :=
  if request.render then (runner.renderer.render doc request.renderMode).toOption else none

/-- The bundle a run makes of a page, without its trace. -/
def freshBundle (runner : CrawlerRunner σ) (request : CrawlRequest) (plan : CrawlPlan)
    (page : Page) : CrawlResultBundle where
  request := request
  plan := plan
  fetched := page.fetched.info
  rawHtml := page.fetched.html
  docClean := page.doc
  quality := page.quality
  rendered := rendering runner request page.doc
  artifacts := if request.persistArtifacts then some {} else none

theorem judge_of_not_gated (h : ¬ Gated request plan) : judge request plan = .ok none :=
  if_neg h

theorem judge_of_gated (h : Gated request plan) : ∃ exc, judge request plan = .error exc := by
  unfold Gated at h
  rw [judge, if_pos h, relevanceGateCheck, if_neg h.2]
  exact ⟨_, rfl⟩

theorem renderFor_of_ok {doc : Document} {rendered : Option String}
    (h : renderFor runner request doc = .ok rendered) :
    rendered = rendering runner request doc := by
  rw [renderFor] at h
  rw [rendering]
  split_ifs at h ⊢ with asked
  · cases shown : runner.renderer.render doc request.renderMode with
    | error exc =>
      rw [shown] at h
      cases h
    | ok text =>
      rw [shown] at h
      exact (Except.ok.inj h).symm
  · exact (Except.ok.inj h).symm

theorem renderFor_of_written (h : ¬ (request.render = true ∧ request.renderMode = .llm))
    (doc : Document) : renderFor runner request doc = .ok (rendering runner request doc) := by
  by_cases asked : request.render = true
  · have mode : request.renderMode ≠ .llm := fun llm => h ⟨asked, llm⟩
    obtain ⟨text, shown⟩ := (render_isOk_iff runner.renderer doc request.renderMode).mpr mode
    rw [renderFor, rendering, if_pos asked, if_pos asked, shown]
    rfl
  · rw [renderFor, rendering, if_neg asked, if_neg asked]

theorem renderFor_of_llm (runner : CrawlerRunner σ)
    (h : request.render = true ∧ request.renderMode = .llm) (doc : Document) : ∃ exc, renderFor runner request doc = .error exc := by
  rw [renderFor, if_pos h.1, h.2]
  exact ⟨_, rfl⟩

theorem persistFor_of_written
    (h : ¬ (request.persistArtifacts = true ∧ runner.artifactAdapter.hasManager = true)) :
    persistFor runner request = .ok (if request.persistArtifacts then some {} else none) := by
  by_cases asked : request.persistArtifacts = true
  · have manager : ¬ runner.artifactAdapter.hasManager = true := fun hm => h ⟨asked, hm⟩
    rw [persistFor, if_pos asked, if_pos asked, ArtifactAdapterForCrawler.persist, if_neg manager]
    rfl
  · rw [persistFor, if_neg asked, if_neg asked]

theorem persistFor_of_manager
    (h : request.persistArtifacts = true ∧ runner.artifactAdapter.hasManager = true) :
    ∃ exc, persistFor runner request = .error exc := by
  rw [persistFor, if_pos h.1, ArtifactAdapterForCrawler.persist, if_pos h.2]
  exact ⟨_, rfl⟩

theorem deliver_of_not_gated (h : ¬ Gated request plan) (page : Page) :
    deliver runner request plan n page = (do
      return .ok (← emitBundle runner request plan n page none)) := by
  rw [deliver, judge_of_not_gated h]
  rfl

theorem emitBundle_raises (page : Page) (relevance : Option RelevanceResult)
    (asked : (request.render = true ∧ request.renderMode = .llm) ∨
      (request.persistArtifacts = true ∧ runner.artifactAdapter.hasManager = true)) :
    Raises (emitBundle runner request plan n page relevance) := by
  rcases asked with llm | manager
  · obtain ⟨exc, h⟩ := renderFor_of_llm runner llm page.doc
    exact Raises.left (Raises.lift h) _
  · obtain ⟨exc, h⟩ := persistFor_of_manager manager
    apply Raises.right
    intro rendered
    apply Raises.right
    intro _
    exact Raises.left (Raises.lift h) _

/-- What is not written yet raises where nothing catches it. -/
theorem deliver_raises (page : Page) (asked : Unwritten runner request plan) :
    Raises (deliver runner request plan n page) := by
  by_cases gated : Gated request plan
  · obtain ⟨exc, h⟩ := judge_of_gated gated
    exact Raises.left (Raises.lift h) _
  · rw [deliver_of_not_gated gated page]
    exact Raises.left (emitBundle_raises page none (asked.resolve_left gated)) _

theorem noteRendering_total (parsed : Parsed runner request) :
    Total (noteRendering runner request plan n) := by
  unfold noteRendering
  split_ifs
  · exact record_total parsed _ _ _ _
  · exact Total.pure ()

theorem storeBundle_total (bundle : CrawlResultBundle) : Total (storeBundle runner bundle) := by
  unfold storeBundle
  split_ifs
  · exact Total.bind (draw_total _) (fun now => Total.modify _)
  · exact Total.pure ()

theorem emitBundle_total (parsed : Parsed runner request) (written : ¬ Unwritten runner request plan)
    (page : Page) (relevance : Option RelevanceResult) :
    Total (emitBundle runner request plan n page relevance) := by
  have noLlm : ¬ (request.render = true ∧ request.renderMode = .llm) :=
    fun llm => written (Or.inr (Or.inl llm))
  have noManager : ¬ (request.persistArtifacts = true ∧ runner.artifactAdapter.hasManager = true) :=
    fun manager => written (Or.inr (Or.inr manager))
  apply Total.bind (Total.lift (renderFor_of_written noLlm page.doc))
  intro rendered
  apply Total.bind (noteRendering_total parsed)
  intro _
  apply Total.bind (Total.lift (persistFor_of_written noManager))
  intro artifacts
  apply Total.bind (storeBundle_total _)
  intro _
  apply Total.bind (record_total parsed _ _ _ _)
  intro _
  exact Total.bind (Total.read _) (fun _ => Total.pure _)

theorem persistFor_of_ok {artifacts : Option ArtifactRefs}
    (h : persistFor runner request = .ok artifacts) :
    artifacts = if request.persistArtifacts then some {} else none := by
  by_cases manager : request.persistArtifacts = true ∧ runner.artifactAdapter.hasManager = true
  · obtain ⟨exc, raised⟩ := persistFor_of_manager manager
    rw [h] at raised
    cases raised
  · rw [persistFor_of_written manager] at h
    exact (Except.ok.inj h).symm

theorem not_unwritten_of_ok {doc : Document} {rendered : Option String}
    {artifacts : Option ArtifactRefs} (ungated : ¬ Gated request plan)
    (shown : renderFor runner request doc = .ok rendered)
    (persisted : persistFor runner request = .ok artifacts) : ¬ Unwritten runner request plan := by
  rintro (gated | llm | manager)
  · exact ungated gated
  · obtain ⟨exc, raised⟩ := renderFor_of_llm runner llm doc
    rw [raised] at shown
    cases shown
  · obtain ⟨exc, raised⟩ := persistFor_of_manager manager
    rw [raised] at persisted
    cases persisted

/-- A bundle up to its trace. -/
def Traced (made bundle : CrawlResultBundle) : Prop :=
  ∃ trace, bundle = { made with trace := some trace }

theorem emitBundle_returns (page : Page) : Returns (Traced (freshBundle runner request plan page))
    (emitBundle runner request plan n page none) := by
  apply Returns.bind_of (Returns.lift (fun _ => renderFor_of_ok))
  rintro rendered rfl
  apply Returns.bind
  intro _
  apply Returns.bind_of (Returns.lift (fun _ => persistFor_of_ok))
  rintro artifacts rfl
  apply Returns.bind
  intro _
  apply Returns.bind
  intro _
  apply Returns.bind
  intro trace
  exact Returns.pure ⟨trace, rfl⟩

/-- An attempt that passed the quality gate, and is asked for nothing unwritten, delivers. -/
theorem deliver_of_written (parsed : Parsed runner request)
    (written : ¬ Unwritten runner request plan) (page : Page) (s : Crawl σ) :
    ∃ bundle s', deliver runner request plan n page s = (.ok (.ok bundle), s') ∧
      Traced (freshBundle runner request plan page) bundle := by
  rw [deliver_of_not_gated (fun gated => written (Or.inl gated)) page]
  obtain ⟨bundle, s', emitted⟩ := emitBundle_total parsed written page none s
  exact ⟨bundle, s', Computation.bind_of_ok emitted _,
    (emitBundle_returns page).of_ok emitted⟩

end Deliver

section Serve

/-- What a hit is turned into, without the trace. -/
def served (runner : CrawlerRunner σ) (request : CrawlRequest) (cached : CrawlResultBundle) :
    CrawlResultBundle :=
  { cached with rendered :=
      if request.render = true ∧ cached.rendered = none then
        rendering runner request cached.docClean
      else cached.rendered }

/-- The hit has to be rendered by a language model. -/
def LlmPatch (request : CrawlRequest) (cached : CrawlResultBundle) : Prop :=
  request.render = true ∧ cached.rendered = none ∧ request.renderMode = .llm

theorem serve_raises (runner : CrawlerRunner σ) (plan : CrawlPlan) {cached : CrawlResultBundle}
    (h : LlmPatch request cached) :
    Raises (serve runner request plan cached) := by
  obtain ⟨asked, bare, mode⟩ := h
  apply Raises.right
  intro trace
  apply Raises.right
  intro _
  rw [if_pos ⟨asked, bare⟩, mode]
  exact Raises.left (Raises.lift rfl) _

theorem serve_total (runner : CrawlerRunner σ) (plan : CrawlPlan) {cached : CrawlResultBundle}
    (h : ¬ LlmPatch request cached) :
    Total (serve runner request plan cached) := by
  apply Total.bind (Total.read _)
  intro trace
  apply Total.bind (Total.modify _)
  intro _
  split_ifs with patch
  · have mode : request.renderMode ≠ .llm := fun llm => h ⟨patch.1, patch.2, llm⟩
    obtain ⟨text, shown⟩ :=
      (render_isOk_iff runner.renderer cached.docClean request.renderMode).mpr mode
    apply Total.bind (Total.lift shown)
    intro text
    exact Total.bind (Total.modify _) (fun _ => Total.pure _)
  · exact Total.pure _

theorem serve_returns (cached : CrawlResultBundle) :
    Returns (Traced (served runner request cached)) (serve runner request plan cached) := by
  apply Returns.bind
  intro trace
  apply Returns.bind
  intro _
  split_ifs with patch
  · apply Returns.bind_of (Returns.lift (fun _ shown => shown))
    intro text shown
    apply Returns.bind
    intro _
    have rendered : (served runner request cached).rendered = some text := by
      rw [served, if_pos patch, rendering, if_pos patch.1, shown]
      rfl
    refine Returns.pure ⟨trace, ?_⟩
    rw [← rendered]
    rfl
  · refine Returns.pure ⟨trace, ?_⟩
    rw [served, if_neg patch]

end Serve

section Turn

/-- The attempt is answered from the cache. -/
def Hits (runner : CrawlerRunner σ) (request : CrawlRequest) (plan : CrawlPlan) (n : ℕ)
    (s : Crawl σ) (cached : CrawlResultBundle) (s' : Crawl σ) : Prop :=
  consult runner request plan n (cacheModeOf request) s = (.ok (some cached), s')

/-- The attempt is not answered from the cache, and what it gets ends so at the quality gate. -/
def Acquires (runner : CrawlerRunner σ) (request : CrawlRequest) (plan : CrawlPlan) (n : ℕ)
    (s : Crawl σ) (got : Except Failure Page) (s' : Crawl σ) : Prop :=
  ∃ s₁, consult runner request plan n (cacheModeOf request) s = (.ok none, s₁) ∧
    acquire runner request plan n s₁ = (.ok got, s')

theorem hits_or_acquires (parsed : Parsed runner request) (plan : CrawlPlan) (n : ℕ)
    (s : Crawl σ) : (∃ cached s', Hits runner request plan n s cached s') ∨
      ∃ got s', Acquires runner request plan n s got s' := by
  obtain ⟨answer, s₁, asked⟩ := consult_total parsed (cacheModeOf request) s
  cases answer with
  | some cached => exact Or.inl ⟨cached, s₁, asked⟩
  | none =>
    obtain ⟨got, s', acquired⟩ := acquire_total parsed s₁
    exact Or.inr ⟨got, s', s₁, asked, acquired⟩

theorem attempt_of_hits {s s' : Crawl σ} {cached : CrawlResultBundle}
    (h : Hits runner request plan n s cached s') :
    attempt runner request plan n s =
      (do return .returned (← serve runner request plan cached) : Crawling σ AttemptEnd) s' :=
  Computation.bind_of_ok h _

theorem attempt_of_acquires {s s' : Crawl σ} {got : Except Failure Page}
    (h : Acquires runner request plan n s got s') :
    attempt runner request plan n s =
      (match got with
      | .error failure => conclude runner request plan n (.error failure)
      | .ok page => do conclude runner request plan n (← deliver runner request plan n page)) s' := by
  obtain ⟨s₁, asked, acquired⟩ := h
  exact (Computation.bind_of_ok asked _).trans (Computation.bind_of_ok acquired _)

theorem fallback_of_parsed (parsed : Parsed runner request) (plan : CrawlPlan) (n : ℕ)
    (reason : String) (s : Crawl σ) :
    ∃ s', fallback runner request plan n reason s = (.ok (nextPlan plan), s') := by
  have noted : Total (record runner request (nextPlan plan) n .fallback .warning reason) :=
    record_total parsed _ _ _ _
  obtain ⟨_, s', recorded⟩ := noted { s with trace := { s.trace with
      fallbackCount := s.trace.fallbackCount + if nextPlan plan = plan then 0 else 1 } }
  refine ⟨s', ?_⟩
  exact (Computation.bind_of_ok rfl _).trans (Computation.bind_of_ok recorded _)

/-- An attempt that gets no page is followed by one with the next plan. -/
theorem attempt_of_failure (parsed : Parsed runner request) {s s' : Crawl σ} {failure : Failure}
    (h : Acquires runner request plan n s (.error failure) s') :
    ∃ s'', attempt runner request plan n s = (.ok (.failed failure.1 (nextPlan plan)), s'') := by
  obtain ⟨s'', fell⟩ := fallback_of_parsed parsed plan n failure.2 s'
  exact ⟨s'', (attempt_of_acquires h).trans (Computation.bind_of_ok fell _)⟩

theorem attempt_of_page (parsed : Parsed runner request) (written : ¬ Unwritten runner request plan)
    {s s' : Crawl σ} {page : Page} (h : Acquires runner request plan n s (.ok page) s') :
    ∃ bundle s'', attempt runner request plan n s = (.ok (.returned bundle), s'') ∧
      Traced (freshBundle runner request plan page) bundle := by
  obtain ⟨bundle, s'', delivered, made⟩ := deliver_of_written (n := n) parsed written page s'
  exact ⟨bundle, s'', (attempt_of_acquires h).trans (Computation.bind_of_ok delivered _), made⟩

theorem attempt_raises_of_page (asked : Unwritten runner request plan) {s s' : Crawl σ}
    {page : Page} (h : Acquires runner request plan n s (.ok page) s') :
    ∃ exc s'', attempt runner request plan n s = (.error exc, s'') := by
  obtain ⟨exc, s'', raised⟩ := deliver_raises (n := n) page asked s'
  exact ⟨exc, s'', (attempt_of_acquires h).trans (Computation.bind_of_error raised _)⟩

theorem attempt_of_hit {s s' : Crawl σ} {cached : CrawlResultBundle}
    (h : Hits runner request plan n s cached s') (shown : ¬ LlmPatch request cached) :
    ∃ bundle s'', attempt runner request plan n s = (.ok (.returned bundle), s'') ∧
      Traced (served runner request cached) bundle := by
  obtain ⟨bundle, s'', given⟩ := serve_total runner plan shown s'
  exact ⟨bundle, s'', (attempt_of_hits h).trans (Computation.bind_of_ok given _),
    (serve_returns cached).of_ok given⟩

theorem attempt_raises_of_hit {s s' : Crawl σ} {cached : CrawlResultBundle}
    (h : Hits runner request plan n s cached s') (patch : LlmPatch request cached) :
    ∃ exc s'', attempt runner request plan n s = (.error exc, s'') := by
  obtain ⟨exc, s'', raised⟩ := serve_raises runner plan patch s'
  exact ⟨exc, s'', (attempt_of_hits h).trans (Computation.bind_of_error raised _)⟩

end Turn

section Start

theorem start_total (parsed : Parsed runner request) : Total (start runner request) := by
  obtain ⟨plan, planned⟩ := buildPlan_of_parsed parsed
  apply Total.bind (draw_total _)
  intro runId
  apply Total.bind (Total.modify _)
  intro _
  apply Total.bind (Total.lift planned)
  intro plan
  exact Total.bind (record_total parsed _ _ _ _) (fun _ => Total.pure plan)

/-- A URL that cannot be parsed gets out of the run as it is. -/
theorem start_raises (h : ¬ Parsed runner request) : Raises (start runner request) := by
  have raised : ∃ exc, buildPlan runner.py runner.domainRegistry request = .error exc := by
    cases parsed : netloc runner.py request.url with
    | ok host => exact absurd ⟨host, parsed⟩ h
    | error exc =>
      refine ⟨exc, ?_⟩
      rw [buildPlan, DomainPolicyRegistry.resolve, parsed]
      rfl
  obtain ⟨exc, raised⟩ := raised
  apply Raises.right
  intro runId
  apply Raises.right
  intro _
  exact Raises.left (Raises.lift raised) _

end Start

section Reached

/-- The attempts a run comes to: the number, the plan and the state each begins with. -/
inductive Reached (runner : CrawlerRunner σ) (request : CrawlRequest) (s₀ : Crawl σ) :
    ℕ → CrawlPlan → Crawl σ → Prop
  | first {plan : CrawlPlan} {s : Crawl σ} :
      start runner request s₀ = (.ok plan, s) → Reached runner request s₀ 1 plan s
  | next {n : ℕ} {plan plan' : CrawlPlan} {s s' : Crawl σ} {errorType : ErrorType} :
      Reached runner request s₀ n plan s → n < budget request →
      attempt runner request plan n s = (.ok (.failed errorType plan'), s') →
      Reached runner request s₀ (n + 1) plan' s'

theorem parsed_of_reached {s₀ s : Crawl σ} (h : Reached runner request s₀ n plan s) : Parsed runner request := by
  induction h with
  | first started =>
    by_contra unparsed
    obtain ⟨exc, s', raised⟩ := start_raises unparsed s₀
    rw [raised] at started
    cases started
  | next _ _ _ ih => exact ih

/-- What a run makes of the end of its loop. -/
def finish : Except PyExc (Except ErrorType CrawlResultBundle) × Crawl σ →
    Except RunFailure CrawlResultBundle × Crawl σ
  | (.ok (.ok bundle), s) => (.ok bundle, s)
  | (.ok (.error errorType), s) => (.error (.crawlFailed errorType s.trace), s)
  | (.error exc, s) => (.error (.escaped exc), s)

theorem finish_snd (ended : Except PyExc (Except ErrorType CrawlResultBundle) × Crawl σ) :
    (finish ended).2 = ended.2 := by
  rcases ended with ⟨exc | errorType | bundle, s⟩ <;> rfl

theorem one_le_budget (request : CrawlRequest) : 1 ≤ budget request := by
  rw [budget]
  omega

theorem run_eq_finish (runner : CrawlerRunner σ) (request : CrawlRequest) (s : Crawl σ) :
    run runner request s = finish ((do
      let plan ← start runner request
      attempts runner request (budget request) 1 plan .maxAttemptsExceeded) s) := by
  unfold run
  generalize (do
      let plan ← start runner request
      attempts runner request (budget request) 1 plan .maxAttemptsExceeded : Crawling σ _) = m
  rcases ended : m s with ⟨exc | errorType | bundle, s'⟩
  · have mapped : Computation.mapError RunFailure.escaped m s = (.error (.escaped exc), s') := by
      rw [Computation.mapError, ended]
      rfl
    exact Computation.bind_of_error mapped _
  · have mapped : Computation.mapError RunFailure.escaped m s = (.ok (.error errorType), s') := by
      rw [Computation.mapError, ended]
      rfl
    exact Computation.bind_of_ok mapped _
  · have mapped : Computation.mapError RunFailure.escaped m s = (.ok (.ok bundle), s') := by
      rw [Computation.mapError, ended]
      rfl
    exact Computation.bind_of_ok mapped _

theorem attempts_of_failed {turns : ℕ} {s s' : Crawl σ} {errorType last : ErrorType}
    {plan' : CrawlPlan} (h : attempt runner request plan n s = (.ok (.failed errorType plan'), s')) :
    attempts runner request (turns + 1) n plan last s =
      attempts runner request turns (n + 1) plan' errorType s' :=
  Computation.bind_of_ok h _

theorem attempts_of_returned {turns : ℕ} {s s' : Crawl σ} {last : ErrorType}
    {bundle : CrawlResultBundle}
    (h : attempt runner request plan n s = (.ok (.returned bundle), s')) :
    attempts runner request (turns + 1) n plan last s = (.ok (.ok bundle), s') :=
  Computation.bind_of_ok h _

theorem attempts_of_raised {turns : ℕ} {s s' : Crawl σ} {last : ErrorType} {exc : PyExc}
    (h : attempt runner request plan n s = (.error exc, s')) :
    attempts runner request (turns + 1) n plan last s = (.error exc, s') :=
  Computation.bind_of_error h _

/-- The run from an attempt it comes to. -/
theorem run_of_reached {s₀ s : Crawl σ} (h : Reached runner request s₀ n plan s) :
    1 ≤ n ∧ n ≤ budget request ∧ ∃ last, run runner request s₀ =
      finish (attempts runner request (budget request - n + 1) n plan last s) := by
  induction h with
  | @first plan s started =>
    have enough := one_le_budget request
    refine ⟨le_rfl, enough, .maxAttemptsExceeded, ?_⟩
    rw [run_eq_finish, Computation.bind_of_ok started, Nat.sub_add_cancel enough]
  | @next n plan plan' s s' errorType _ before failed ih =>
    obtain ⟨_, _, last, same⟩ := ih
    refine ⟨by omega, before, errorType, ?_⟩
    have left : budget request - n = budget request - (n + 1) + 1 := by omega
    rw [same, attempts_of_failed failed, left]

variable {s₀ s s' : Crawl σ}

theorem run_of_returned {bundle : CrawlResultBundle} (h : Reached runner request s₀ n plan s)
    (ended : attempt runner request plan n s = (.ok (.returned bundle), s')) :
    run runner request s₀ = (.ok bundle, s') := by
  obtain ⟨_, _, last, same⟩ := run_of_reached h
  rw [same, attempts_of_returned ended]
  rfl

theorem run_of_raised {exc : PyExc} (h : Reached runner request s₀ n plan s)
    (ended : attempt runner request plan n s = (.error exc, s')) :
    run runner request s₀ = (.error (.escaped exc), s') := by
  obtain ⟨_, _, last, same⟩ := run_of_reached h
  rw [same, attempts_of_raised ended]
  rfl

/-- When the last attempt fails, so does the run, with its error. -/
theorem run_of_failed {errorType : ErrorType} {plan' : CrawlPlan}
    (h : Reached runner request s₀ n plan s) (lastOne : n = budget request)
    (ended : attempt runner request plan n s = (.ok (.failed errorType plan'), s')) :
    run runner request s₀ = (.error (.crawlFailed errorType s'.trace), s') := by
  obtain ⟨_, _, last, same⟩ := run_of_reached h
  rw [same, attempts_of_failed ended, lastOne, Nat.sub_self]
  rfl

/-- A run that begins comes to an attempt that ends it. -/
theorem exists_last_attempt (h : Reached runner request s₀ n plan s) :
    ∃ n plan s, Reached runner request s₀ n plan s ∧
      ∀ errorType plan' s', attempt runner request plan n s = (.ok (.failed errorType plan'), s') →
        n = budget request := by
  have bound := (run_of_reached h).2.1
  generalize left : budget request - n = k
  induction k generalizing n plan s with
  | zero => exact ⟨n, plan, s, h, fun _ _ _ _ => by omega⟩
  | succ k ih =>
    by_cases fails : ∃ errorType plan' s',
        attempt runner request plan n s = (.ok (.failed errorType plan'), s')
    · obtain ⟨errorType, plan', s', failed⟩ := fails
      have further := Reached.next h (by omega) failed
      exact ih further (by omega) (by omega)
    · exact ⟨n, plan, s, h, fun e p t failed => absurd ⟨e, p, t, failed⟩ fails⟩

end Reached

end SthBoring.Crawler.Attempts
