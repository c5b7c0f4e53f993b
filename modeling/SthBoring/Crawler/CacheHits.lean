/- Module: SthBoring/Crawler/CacheHits
   source: agent_crawler/loop/runner.py, agent_crawler/fetch/result_cache.py
   digest: When an answer from the cache is the one a fresh run gives. -/

import SthBoring.Crawler.AttemptFrames

set_option autoImplicit false
set_option relaxedAutoImplicit false

namespace SthBoring.Crawler.CacheHits

open SthBoring.Crawler.AttemptFrames
open SthBoring.Crawler.Attempts
open SthBoring.Crawler.Caching
open SthBoring.Crawler.Models
open SthBoring.Crawler.Policy
open SthBoring.Crawler.Runner
open SthBoring.Crawler.Session
open SthBoring.Lib.Effect (Computation Triple Keeps Returns Total Raises Settles)
open SthBoring.Lib.PyValue (Fields PyExc joinWith textOr)
open SthBoring.WebKit.Clean (Chunk Document chunk)

variable {σ : Type}

/-- What the fetcher answers depends on the URL, the plan and the options alone, and what the
extractors and the reranker make of a page depends on what they are given. -/
structure Steady (runner : CrawlerRunner σ) : Prop where
  fetch : ∀ url plan options, ∃ answer, ∀ session, Settles (runner.fetch url plan session options) answer
  universal : ∀ html url, ∃ read, Settles (runner.universalExtractor html url) read
  adapters : ∀ adapter ∈ runner.adapters, ∀ html url, ∃ read, Settles (adapter.extract html url) read
  intelligent : ∀ html url query, ∃ read, Settles (runner.intelligentExtractor html url query) read
  rank : ∀ chunks query, ∃ ranked, Settles (runner.rank chunks query) ranked

/-- The states of a runner over its runs. Between them anything may happen in the world. -/
inductive History (runner : CrawlerRunner σ) : Crawl σ → Prop
  | fresh {s : Crawl σ} : s.cache.items.entries = [] → History runner s
  | run {s : Crawl σ} (request : CrawlRequest) :
      History runner s → History runner (run runner request s).2
  | wait {s : Crawl σ} (world : σ) : History runner s → History runner { s with world := world }

/-- The run is answered from the cache, with this bundle. -/
def AnsweredFromCache (runner : CrawlerRunner σ) (request : CrawlRequest) (s₀ : Crawl σ)
    (cached : CrawlResultBundle) : Prop :=
  ∃ n plan s s', Reached runner request s₀ n plan s ∧ Hits runner request plan n s cached s' ∧
    ¬ LlmPatch request cached

/-- The same runner with nothing in its cache. -/
def uncached (s : Crawl σ) : Crawl σ := { s with cache := s.cache.clear }

/-- The bundle that the run returns has its request, and the rendering of a run without the
cache. -/
def Indistinguishable (runner : CrawlerRunner σ) (request : CrawlRequest) (s₀ : Crawl σ) : Prop :=
  ∃ bundle s' fresh s'', run runner request s₀ = (.ok bundle, s') ∧
    run runner request (uncached s₀) = (.ok fresh, s'') ∧
    bundle.request = request ∧ bundle.rendered = fresh.rendered

section Steadiness

variable {runner : CrawlerRunner σ} {request : CrawlRequest} {plan : CrawlPlan}

/-- Whatever the number of the attempt and the state, it gets the same page or fails the same. -/
def Yields (runner : CrawlerRunner σ) (request : CrawlRequest) (plan : CrawlPlan)
    (got : Except Failure Page) : Prop :=
  ∀ n, Settles (acquire runner request plan n) (.ok got)

theorem record_settles (parsed : Parsed runner request) (plan : CrawlPlan) (n : ℕ)
    (step : EventStep) (status : EventStatus) (message : String) (errorType : Option ErrorType) :
    Settles (record runner request plan n step status message errorType) (.ok ()) := by
  obtain ⟨host, parsed⟩ := parsed
  apply Settles.bind (Settles.modify _)
  apply Settles.bind (a := host)
  · rw [parsed]
    exact Settles.lift _
  · exact Settles.pure ()

theorem callFetcher_settles (steady : Steady runner) (request : CrawlRequest) (plan : CrawlPlan)
    (options : Option Fields) : ∃ answer, ∀ n session,
      Settles (callFetcher runner request plan n session options) answer := by
  obtain ⟨answer, answered⟩ := steady.fetch request.url plan options
  refine ⟨answer, fun n session => ?_⟩
  apply Settles.bind (Settles.outcome (Settles.within (answered session)))
  apply Settles.bind (Settles.modify _)
  exact Settles.lift answer

theorem fetchPage_settles (steady : Steady runner) (request : CrawlRequest) (plan : CrawlPlan)
    (options : Fields) : ∃ answer, ∀ n session,
      Settles (fetchPage runner request plan n session options) answer := by
  obtain ⟨first, tried⟩ := callFetcher_settles steady request plan (some options)
  obtain ⟨second, again⟩ := callFetcher_settles steady request plan none
  cases first with
  | ok fetched =>
    exact ⟨.ok fetched, fun n session =>
      Settles.bind (Settles.outcome (tried n session)) (Settles.pure fetched)⟩
  | error exc =>
    by_cases unexpected : exc.isInstance "TypeError" = true
    · refine ⟨second, fun n session => Settles.bind (Settles.outcome (tried n session)) ?_⟩
      simp only [if_pos unexpected]
      exact again n session
    · refine ⟨.error exc, fun n session => Settles.bind (Settles.outcome (tried n session)) ?_⟩
      simp only [if_neg unexpected]
      exact Settles.lift (.error exc)

theorem fetchStage_settles (steady : Steady runner) (parsed : Parsed runner request)
    (plan : CrawlPlan) : ∃ got, ∀ n, Settles (fetchStage runner request plan n) (.ok got) := by
  obtain ⟨answer, fetches⟩ := fetchPage_settles steady request plan request.options
  cases answer with
  | error exc =>
    refine ⟨.error (if exc.isInstance "NotImplementedError" then .unsupportedTransport
      else .fetchError, exc.message), fun n => ?_⟩
    apply Settles.bind_any (openSession_total parsed)
    intro session
    apply Settles.bind (record_settles parsed _ _ _ _ _ _)
    apply Settles.bind (Settles.outcome (Settles.bind_error (fetches n session) _))
    apply Settles.bind (record_settles parsed _ _ _ _ _ _)
    exact Settles.pure _
  | ok fetched =>
    have fetchedSo (n : ℕ) (session : CrawlSession) : Settles (do
        let fetched ← fetchPage runner request plan n session request.options
        record runner request plan n .fetch .ok "fetch complete"
        return fetched) (.ok fetched) :=
      Settles.bind (fetches n session)
        (Settles.bind (record_settles parsed _ _ _ _ _ _) (Settles.pure fetched))
    by_cases bad : 400 ≤ fetched.info.statusCode
    · refine ⟨.error (.fetchError, s!"bad status {fetched.info.statusCode}"), fun n => ?_⟩
      apply Settles.bind_any (openSession_total parsed)
      intro session
      apply Settles.bind (record_settles parsed _ _ _ _ _ _)
      apply Settles.bind (Settles.outcome (fetchedSo n session))
      simp only [if_pos bad]
      apply Settles.bind (record_settles parsed _ _ _ _ _ _)
      exact Settles.pure _
    · refine ⟨.ok fetched, fun n => ?_⟩
      apply Settles.bind_any (openSession_total parsed)
      intro session
      apply Settles.bind (record_settles parsed _ _ _ _ _ _)
      apply Settles.bind (Settles.outcome (fetchedSo n session))
      simp only [if_neg bad]
      exact Settles.pure _

theorem extract_settles (steady : Steady runner) (request : CrawlRequest) (plan : CrawlPlan)
    (html : String) : ∃ read, Settles (extract runner request plan html) read := by
  unfold extract
  cases plan.extractKind with
  | universal => exact steady.universal html request.url
  | intelligent => exact steady.intelligent html request.url request.query
  | adapter =>
    cases resolved : resolveAdapter runner.adapters request.url plan.adapterName with
    | error exc => exact ⟨.error exc, Settles.bind_error (Settles.lift _) _⟩
    | ok found =>
      cases found with
      | none =>
        obtain ⟨read, reads⟩ := steady.universal html request.url
        exact ⟨read, Settles.bind (Settles.lift (.ok none)) reads⟩
      | some adapter =>
        obtain ⟨read, reads⟩ :=
          steady.adapters adapter (mem_of_resolveAdapter resolved) html request.url
        exact ⟨read, Settles.bind (Settles.lift (.ok (some adapter))) reads⟩

theorem readPage_settles (steady : Steady runner) (parsed : Parsed runner request)
    (plan : CrawlPlan) (fetched : FetchedPayload) :
    ∃ read, ∀ n, Settles (readPage runner request plan n fetched) read := by
  obtain ⟨extracted, extracts⟩ := extract_settles steady request plan (textOr fetched.html "")
  cases extracted with
  | error exc => exact ⟨.error exc, fun n => Settles.bind_error (Settles.within extracts) _⟩
  | ok doc =>
    obtain ⟨ranked, ranks⟩ := steady.rank (chunk runner.cleaner doc).chunks request.query
    cases ranked with
    | error exc =>
      refine ⟨.error exc, fun n => ?_⟩
      apply Settles.bind (Settles.within extracts)
      apply Settles.bind (record_settles parsed _ _ _ _ _ _)
      exact Settles.bind_error (Settles.within ranks) _
    | ok chunks =>
      refine ⟨.ok { chunk runner.cleaner doc with chunks := chunks }, fun n => ?_⟩
      apply Settles.bind (Settles.within extracts)
      apply Settles.bind (record_settles parsed _ _ _ _ _ _)
      apply Settles.bind (Settles.within ranks)
      apply Settles.bind (record_settles parsed _ _ _ _ _ _)
      exact Settles.pure _

theorem readStage_settles (steady : Steady runner) (parsed : Parsed runner request)
    (plan : CrawlPlan) (fetched : FetchedPayload) :
    ∃ got, ∀ n, Settles (readStage runner request plan n fetched) (.ok got) := by
  obtain ⟨read, reads⟩ := readPage_settles steady parsed plan fetched
  cases read with
  | error exc =>
    refine ⟨.error (if exc.isInstance "NotImplementedError" then .unsupportedExtractor
      else .extractError, exc.message), fun n => ?_⟩
    apply Settles.bind (Settles.outcome (reads n))
    apply Settles.bind (record_settles parsed _ _ _ _ _ _)
    exact Settles.pure _
  | ok doc =>
    refine ⟨if (runner.qualityAssessor.score doc).ok then
        .ok ⟨fetched, doc, runner.qualityAssessor.score doc⟩
      else .error (.qualityTooLow, joinWith "," (runner.qualityAssessor.score doc).reasons),
      fun n => ?_⟩
    apply Settles.bind (Settles.outcome (reads n))
    apply Settles.bind (record_settles parsed _ _ _ _ _ _)
    split_ifs <;> exact Settles.pure _

/-- With steady parts an attempt gets the same whenever it is made. -/
theorem exists_yields (steady : Steady runner) (parsed : Parsed runner request)
    (plan : CrawlPlan) : ∃ got, Yields runner request plan got := by
  obtain ⟨first, fetches⟩ := fetchStage_settles steady parsed plan
  cases first with
  | error failure =>
    exact ⟨.error failure, fun n => Settles.bind (fetches n) (Settles.pure _)⟩
  | ok fetched =>
    obtain ⟨got, reads⟩ := readStage_settles steady parsed plan fetched
    exact ⟨got, fun n => Settles.bind (fetches n) (reads n)⟩

theorem yields_of_acquires (steady : Steady runner) (parsed : Parsed runner request) {n : ℕ}
    {s s' : Crawl σ} {got : Except Failure Page}
    (h : Acquires runner request plan n s got s') : Yields runner request plan got := by
  obtain ⟨same, yields⟩ := exists_yields steady parsed plan
  obtain ⟨s₁, _, acquired⟩ := h
  have here := yields n s₁
  rw [acquired] at here
  obtain rfl := Except.ok.inj here
  exact yields

end Steadiness

section Keys

variable {runner : CrawlerRunner σ} {request : CrawlRequest}

/-- A plan that a run of the request may come to. -/
def Planned (runner : CrawlerRunner σ) (request : CrawlRequest) (plan : CrawlPlan) : Prop :=
  ∃ first, buildPlan runner.py runner.domainRegistry request = .ok first ∧ SameTerms first plan

theorem Planned.next {plan : CrawlPlan} (h : Planned runner request plan) :
    Planned runner request (nextPlan plan) := by
  obtain ⟨first, built, same⟩ := h
  exact ⟨first, built, same.trans (sameTerms_nextPlan plan)⟩

/-- In the key of one request nothing but the transport and the extractor changes with the plan,
and both can be read off. -/
theorem value_inj {t t' : TransportKind} {k k' : ExtractKind} (adapter : String)
    (h : t.value ++ "|" ++ (k.value ++ "|" ++ adapter) =
      t'.value ++ "|" ++ (k'.value ++ "|" ++ adapter)) : t = t' ∧ k = k' := by
  have chars := congrArg String.toList h
  cases t <;> cases t' <;> cases k <;> cases k' <;>
    simp [TransportKind.value, ExtractKind.value, String.toList_append] at chars ⊢

theorem plan_of_key {plan plan' : CrawlPlan} (h : Planned runner request plan)
    (h' : Planned runner request plan') (same : makeKey request plan = makeKey request plan') :
    plan = plan' := by
  obtain ⟨first, built, terms⟩ := h
  obtain ⟨first', built', terms'⟩ := h'
  obtain rfl : first = first' := Except.ok.inj (built.symm.trans built')
  rw [SameTerms] at terms terms'
  have adapter : plan.adapterName = plan'.adapterName := by rw [terms, terms']
  simp only [makeKey, joinWith, adapter, String.append_right_inj] at same
  obtain ⟨transport, extractKind⟩ := value_inj _ same
  rw [terms, terms', transport, extractKind]

end Keys

section Invariant

variable {runner : CrawlerRunner σ} {request : CrawlRequest} {plan : CrawlPlan} {n : ℕ}

/-- A cached bundle is what its request and its plan give, except perhaps for the rendering of a
request that asked for none. -/
structure Stored (runner : CrawlerRunner σ) (key : String) (bundle : CrawlResultBundle) :
    Prop where
  key_eq : key = makeKey bundle.request bundle.plan
  planned : Planned runner bundle.request bundle.plan
  written : ¬ Unwritten runner bundle.request bundle.plan
  page : ∃ page, Yields runner bundle.request bundle.plan (.ok page) ∧ bundle.docClean = page.doc
  shown : bundle.request.render = true →
    bundle.rendered = rendering runner bundle.request bundle.docClean

theorem rendering_isSome {doc : Document} (written : ¬ Unwritten runner request plan)
    (asked : request.render = true) : rendering runner request doc ≠ none := by
  have mode : request.renderMode ≠ .llm := fun llm => written (Or.inr (Or.inl ⟨asked, llm⟩))
  obtain ⟨text, shown⟩ :=
    (Assess.render_isOk_iff runner.renderer doc request.renderMode).mpr mode
  rw [rendering, if_pos asked, shown]
  exact Option.some_ne_none text

theorem stored_freshBundle (planned : Planned runner request plan)
    (written : ¬ Unwritten runner request plan) {page : Page}
    (yields : Yields runner request plan (.ok page)) :
    Stored runner (makeKey request plan) (freshBundle runner request plan page) where
  key_eq := rfl
  planned := planned
  written := written
  page := ⟨page, yields, rfl⟩
  shown _ := rfl

/-- A hit writes to the cached bundle only what may vary. -/
theorem Stored.amend {key : String} {cached : CrawlResultBundle} (h : Stored runner key cached)
    {trace : Option TraceInfo} {rendered : Option String}
    (given : rendered = cached.rendered ∨ rendered = (served runner request cached).rendered) :
    Stored runner key { cached with trace := trace, rendered := rendered } where
  key_eq := h.key_eq
  planned := h.planned
  written := h.written
  page := h.page
  shown asked := by
    have full : cached.rendered ≠ none := by
      rw [h.shown asked]
      exact rendering_isSome h.written asked
    have same : rendered = cached.rendered := by
      rcases given with same | same
      · exact same
      · rw [same, served]
        exact if_neg (fun patch => full patch.2)
    exact same.trans (h.shown asked)

/-- The invariant of the cache. -/
def Sound (runner : CrawlerRunner σ) (s : Crawl σ) : Prop := s.cache.All (Stored runner)

theorem aside_sound (m : ℕ) : Aside m (Sound runner) where
  world _ _ hs := hs
  addStep _ _ _ hs := hs
  fallbacks _ _ hs := hs
  sessions _ _ hs := hs
  calls _ _ hs := hs

theorem noted_cache (m : ℕ) (c : ResultCache) : Noted m (fun s : Crawl σ => s.cache = c) where
  world _ _ hs := hs
  addStep _ _ _ hs := hs
  fallbacks _ _ hs := hs

theorem consult_answers (c : ResultCache) (cacheMode : String) :
    Triple (fun s => s.cache = c) (consult runner request plan n cacheMode)
      (fun answer _ => ∀ cached, answer = some cached →
        ∃ now, (c.get now (makeKey request plan)).1 = some cached) (fun _ _ => True) := by
  unfold consult
  split_ifs with asked
  · apply Triple.bind (keeps_draw (noted_cache n c) runner.time).triple
    intro now
    refine Triple.bind (Q := fun answer _ => answer = (c.get now (makeKey request plan)).1) ?_ ?_
    · exact Triple.read (fun s hs => by rw [hs])
    · intro answer s found
      have passed : Returns (fun given => given = none ∨ given = answer) (do
          Computation.modify fun s : Crawl σ =>
            { s with cache := (s.cache.get now (makeKey request plan)).2 }
          if answer.isSome ∧ cacheMode ≠ "refresh" then
            record runner request plan n .cache .ok "result cache hit"
            return answer
          record runner request plan n .cache .skipped "result cache miss"
          return none) := by
        apply Returns.bind
        intro _
        split_ifs
        · exact Returns.bind (fun _ => Returns.pure (Or.inr rfl))
        · exact Returns.bind (fun _ => Returns.pure (Or.inl rfl))
      refine Triple.imp (P := fun _ => True) passed (fun _ => id) ?_ (fun _ _ => id) s trivial
      rintro given _ (rfl | rfl) cached hit
      · cases hit
      · exact ⟨now, by rw [← found, hit]⟩
  · exact Triple.pure (fun s _ cached hit => by cases hit)

/-- A hit is stored under the key that was asked for. -/
theorem stored_of_hits {s s' : Crawl σ} {cached : CrawlResultBundle} (sound : Sound runner s)
    (hit : Hits runner request plan n s cached s') : Stored runner (makeKey request plan) cached := by
  have post := (consult_answers s.cache (cacheModeOf request) :
    Triple _ (consult runner request plan n _) _ _) s rfl
  rw [hit] at post
  obtain ⟨now, got⟩ := post cached rfl
  exact sound.of_hit got

/-- An attempt of a plan that its run may come to keeps the cache sound. -/
theorem attempt_sound (steady : Steady runner) (parsed : Parsed runner request)
    (planned : Planned runner request plan) {s : Crawl σ} (sound : Sound runner s) :
    Sound runner (attempt runner request plan n s).2 := by
  have aside : Aside n (Sound runner) := aside_sound n
  rcases hits_or_acquires parsed plan n s with ⟨cached, s', hit⟩ | ⟨got, s', acquires⟩
  · have stored := stored_of_hits sound hit
    have given : Keeps (Sound runner)
        (do return .returned (← serve runner request plan cached) : Crawling σ AttemptEnd) :=
      Keeps.bind (keeps_serve (fun _ _ _ same hs => hs.amend (stored.amend same)))
        (fun _ => Keeps.pure _)
    rw [attempt_of_hits hit]
    exact given.after (after_hits aside.toNoted.framed (fun _ now key hs => hs.get now key) hit sound)
  · have before : Sound runner s' :=
      after_acquires aside.beside.framed (fun _ now key hs => hs.get now key) acquires sound
    have yields := yields_of_acquires steady parsed acquires
    rw [attempt_of_acquires acquires]
    cases got with
    | error failure => exact (keeps_conclude aside.toNoted.framed _).after before
    | ok page =>
      have delivered : Keeps (Sound runner)
          (do conclude runner request plan n (← deliver runner request plan n page)) :=
        Keeps.bind (keeps_deliver aside.toNoted.framed page (fun written s now hs =>
          hs.put now (stored_freshBundle planned written yields) _))
          (keeps_conclude aside.toNoted.framed)
      exact delivered.after before

/-- A failed attempt got no page, and the next plan follows. -/
theorem of_failed (parsed : Parsed runner request) {s s' : Crawl σ} {errorType : ErrorType}
    {plan' : CrawlPlan} (h : attempt runner request plan n s = (.ok (.failed errorType plan'), s')) :
    ∃ failure s₁, Acquires runner request plan n s (.error failure) s₁ ∧
      errorType = failure.1 ∧ plan' = nextPlan plan := by
  rcases hits_or_acquires parsed plan n s with ⟨cached, s₁, hit⟩ | ⟨failure | page, s₁, got⟩
  · by_cases patch : LlmPatch request cached
    · obtain ⟨exc, s₂, raised⟩ := attempt_raises_of_hit hit patch
      rw [raised] at h
      cases h
    · obtain ⟨bundle, s₂, returned, _⟩ := attempt_of_hit hit patch
      rw [returned] at h
      cases h
  · obtain ⟨s₂, failed⟩ := attempt_of_failure parsed got
    rw [failed] at h
    cases h
    exact ⟨failure, s₁, got, rfl, rfl⟩
  · by_cases asked : Unwritten runner request plan
    · obtain ⟨exc, s₂, raised⟩ := attempt_raises_of_page asked got
      rw [raised] at h
      cases h
    · obtain ⟨bundle, s₂, returned, _⟩ := attempt_of_page parsed asked got
      rw [returned] at h
      cases h

theorem attempts_sound (steady : Steady runner) (parsed : Parsed runner request) (turns : ℕ)
    (planned : Planned runner request plan) (last : ErrorType) {s : Crawl σ}
    (sound : Sound runner s) : Sound runner (attempts runner request turns n plan last s).2 := by
  induction turns generalizing n plan last s with
  | zero => exact sound
  | succ turns ih =>
    have after := attempt_sound (n := n) steady parsed planned sound
    rcases ended : attempt runner request plan n s with ⟨exc | bundle | ⟨errorType, plan'⟩, s'⟩
    · rw [attempts_of_raised ended]
      rw [ended] at after
      exact after
    · rw [attempts_of_returned ended]
      rw [ended] at after
      exact after
    · rw [attempts_of_failed ended]
      rw [ended] at after
      obtain ⟨failure, s₁, _, _, rfl⟩ := of_failed parsed ended
      exact ih planned.next errorType after

/-- What comes before the loop leaves the cache as it is. -/
theorem start_cache (c : ResultCache) :
    Keeps (fun s => s.cache = c) (start runner request) := by
  apply Keeps.bind (keeps_draw (noted_cache 0 c) _)
  intro runId
  refine Keeps.bind (Keeps.modify ?_) (fun _ => ?_)
  · intro s hs
    exact hs
  · apply Keeps.bind (Keeps.lift _)
    intro plan
    exact Keeps.bind (keeps_record (noted_cache 0 c).framed _ _ _ _) (fun _ => Keeps.pure plan)

theorem built_of_start {s₀ s : Crawl σ} (h : start runner request s₀ = (.ok plan, s)) :
    buildPlan runner.py runner.domainRegistry request = .ok plan := by
  have built : Returns (fun plan => buildPlan runner.py runner.domainRegistry request = .ok plan)
      (start runner request) := by
    apply Returns.bind
    intro runId
    apply Returns.bind
    intro _
    apply Returns.bind_of (Returns.lift (fun _ built => built))
    intro plan built
    exact Returns.bind (fun _ => Returns.pure built)
  exact built.of_ok h

theorem planned_of_start {s₀ s : Crawl σ} (h : start runner request s₀ = (.ok plan, s)) :
    Planned runner request plan :=
  ⟨plan, built_of_start h, SameTerms.refl plan⟩

theorem start_keeps_cache {s₀ : Crawl σ} : (start runner request s₀).2.cache = s₀.cache :=
  (start_cache s₀.cache).after rfl

theorem run_sound (steady : Steady runner) (request : CrawlRequest) {s₀ : Crawl σ}
    (sound : Sound runner s₀) : Sound runner (run runner request s₀).2 := by
  have before : Sound runner (start runner request s₀).2 := by
    rw [Sound, start_keeps_cache]
    exact sound
  rw [run_eq_finish, finish_snd]
  rcases started : start runner request s₀ with ⟨exc | plan, s⟩
  · rw [Computation.bind_of_error started]
    rw [started] at before
    exact before
  · rw [Computation.bind_of_ok started]
    rw [started] at before
    have parsed : Parsed runner request := parsed_of_reached (Reached.first started)
    exact attempts_sound steady parsed _ (planned_of_start started) _ before

/-- The cache is sound in every state of a history. -/
theorem history_sound (steady : Steady runner) {s : Crawl σ} (h : History runner s) :
    Sound runner s := by
  induction h with
  | fresh empty =>
    intro e he
    rw [empty] at he
    exact absurd he List.not_mem_nil
  | run request _ ih => exact run_sound steady request ih
  | wait world _ ih => exact ih

theorem sound_of_reached (steady : Steady runner) {s₀ s : Crawl σ} (sound : Sound runner s₀)
    (h : Reached runner request s₀ n plan s) :
    Sound runner s ∧ Planned runner request plan := by
  have parsed := parsed_of_reached h
  induction h with
  | first started =>
    have kept : (start runner request s₀).2.cache = s₀.cache := start_keeps_cache
    rw [started] at kept
    refine ⟨?_, planned_of_start started⟩
    rw [Sound, kept]
    exact sound
  | @next n plan plan' s s' errorType _ _ failed ih =>
    obtain ⟨before, planned⟩ := ih
    have after := attempt_sound (n := n) steady parsed planned before
    rw [failed] at after
    obtain ⟨failure, s₁, _, _, rfl⟩ := of_failed parsed failed
    exact ⟨after, planned.next⟩

end Invariant

section Uncached

variable {runner : CrawlerRunner σ} {request : CrawlRequest} {plan : CrawlPlan} {n : ℕ}

def Bare (s : Crawl σ) : Prop := s.cache.items.entries = []

theorem get_of_bare {s : Crawl σ} (h : Bare s) (now : ℚ) (key : String) :
    s.cache.get now key = (none, s.cache) := by
  have missing : s.cache.items.get key = none := by
    rw [Lib.OrderedDict.PyDict.get, h]
    rfl
  rw [ResultCache.get, missing]

theorem aside_bare (m : ℕ) : Aside m (Bare (σ := σ)) where
  world _ _ hs := hs
  addStep _ _ _ hs := hs
  fallbacks _ _ hs := hs
  sessions _ _ hs := hs
  calls _ _ hs := hs

theorem bare_looked (s : Crawl σ) (now : ℚ) (key : String) (h : Bare s) :
    Bare (withCache s (s.cache.get now key).2) := by
  rw [get_of_bare h]
  exact h

/-- Without a cache an attempt gets what it always gets. -/
theorem acquires_of_bare (parsed : Parsed runner request) {got : Except Failure Page}
    (yields : Yields runner request plan got) {s : Crawl σ} (bare : Bare s) :
    ∃ s', Acquires runner request plan n s got s' := by
  rcases hits_or_acquires parsed plan n s with ⟨cached, s', hit⟩ | ⟨same, s', s₁, asked, acquired⟩
  · have post := (consult_answers s.cache (cacheModeOf request) :
      Triple _ (consult runner request plan n _) _ _) s rfl
    rw [hit] at post
    obtain ⟨now, found⟩ := post cached rfl
    rw [get_of_bare bare] at found
    cases found
  · have here := yields n s₁
    rw [acquired] at here
    obtain rfl := Except.ok.inj here
    exact ⟨s', s₁, asked, acquired⟩

/-- A run without a cache comes to the same attempts. -/
theorem reached_uncached (steady : Steady runner) {s₀ s : Crawl σ}
    (h : Reached runner request s₀ n plan s) :
    ∃ s', Reached runner request (uncached s₀) n plan s' ∧ Bare s' := by
  have parsed := parsed_of_reached h
  induction h with
  | @first plan s started =>
    obtain ⟨plan', s', again⟩ := start_total parsed (uncached s₀)
    obtain rfl : plan' = plan :=
      Except.ok.inj ((built_of_start again).symm.trans (built_of_start started))
    have kept : (start runner request (uncached s₀)).2.cache = (uncached s₀).cache :=
      start_keeps_cache
    rw [again] at kept
    refine ⟨s', Reached.first again, ?_⟩
    rw [Bare, kept]
    rfl
  | @next n plan plan' s s' errorType _ more failed ih =>
    obtain ⟨t, reached, bare⟩ := ih
    obtain ⟨failure, s₁, got, rfl, rfl⟩ := of_failed parsed failed
    obtain ⟨t₁, again⟩ := acquires_of_bare (n := n) parsed (yields_of_acquires steady parsed got) bare
    obtain ⟨t₂, fails⟩ := attempt_of_failure parsed again
    refine ⟨t₂, Reached.next reached more fails, ?_⟩
    have between := after_acquires (aside_bare n).beside.framed bare_looked again bare
    have after := (keeps_conclude (aside_bare n).toNoted.framed (.error failure) :
      Keeps _ (conclude runner request plan n _)).after between
    have concluded : attempt runner request plan n t =
        conclude runner request plan n (.error failure) t₁ := attempt_of_acquires again
    rw [← concluded, fails] at after
    exact after

end Uncached

section Hits

variable {runner : CrawlerRunner σ} {request : CrawlRequest}

/-- The bundle was stored by an equal request; and where that asked for no rendering, no later
hit has given it one. -/
def Fits (request : CrawlRequest) (cached : CrawlResultBundle) : Prop :=
  cached.request = request ∧ (request.render = false → cached.rendered = none)

/-- The rendering a hit gives of a bundle that its own request stored. -/
theorem served_rendered {key : String} {cached : CrawlResultBundle}
    (stored : Stored runner key cached) (fits : Fits cached.request cached) :
    (served runner cached.request cached).rendered =
      rendering runner cached.request cached.docClean := by
  cases asked : cached.request.render with
  | true =>
    rw [served]
    split_ifs
    · rfl
    · exact stored.shown asked
  | false =>
    have bare := fits.2 asked
    rw [served, rendering, asked]
    simpa using bare

/-- A request equal to the one that stored the bundle, run without the cache. -/
theorem run_uncached (steady : Steady runner) {s₀ : Crawl σ} {n : ℕ} {plan : CrawlPlan}
    {s : Crawl σ} {cached : CrawlResultBundle} (reached : Reached runner request s₀ n plan s)
    (planned : Planned runner request plan)
    (stored : Stored runner (makeKey request plan) cached) (same : cached.request = request) :
    ∃ fresh s', run runner request (uncached s₀) = (.ok fresh, s') ∧
      fresh.rendered = rendering runner request cached.docClean := by
  subst same
  have parsed := parsed_of_reached reached
  obtain rfl : plan = cached.plan := plan_of_key planned stored.planned stored.key_eq
  obtain ⟨page, yields, doc⟩ := stored.page
  obtain ⟨t, again, bare⟩ := reached_uncached steady reached
  obtain ⟨t', got⟩ := acquires_of_bare (n := n) parsed yields bare
  obtain ⟨fresh, s', ended, trace, rfl⟩ := attempt_of_page parsed stored.written got
  refine ⟨_, s', run_of_returned again ended, ?_⟩
  rw [doc]
  rfl

/-- **Answers from the cache.** With steady parts, in every history of runs, an answer from the
cache is the one of a fresh run exactly when the cached bundle fits the request. -/
theorem cache_hit_iff {runner : CrawlerRunner σ} (steady : Steady runner) {s₀ : Crawl σ}
    (history : History runner s₀) (request : CrawlRequest) {cached : CrawlResultBundle}
    (answered : AnsweredFromCache runner request s₀ cached) :
    Indistinguishable runner request s₀ ↔ Fits request cached := by
  obtain ⟨n, plan, s, s', reached, hit, shown⟩ := answered
  obtain ⟨sound, planned⟩ := sound_of_reached steady (history_sound steady history) reached
  have stored := stored_of_hits sound hit
  obtain ⟨bundle, s₁, ended, trace, rfl⟩ := attempt_of_hit hit shown
  have ran := run_of_returned reached ended
  constructor
  · rintro ⟨bundle, s₂, fresh, s₃, returned, afresh, request_eq, rendered_eq⟩
    rw [ran] at returned
    cases returned
    have same : cached.request = request := request_eq
    refine ⟨same, fun unasked => ?_⟩
    obtain ⟨fresh', s₄, afresh', rendered⟩ := run_uncached steady reached planned stored same
    rw [afresh] at afresh'
    cases afresh'
    have bare : rendering runner request cached.docClean = none := by
      rw [rendering, unasked]
      rfl
    have kept : (served runner request cached).rendered = cached.rendered := by
      rw [served]
      exact if_neg (fun patch => by simp [unasked] at patch)
    calc cached.rendered = (served runner request cached).rendered := kept.symm
      _ = fresh.rendered := rendered_eq
      _ = none := rendered.trans bare
  · rintro ⟨same, bare⟩
    obtain ⟨fresh, s₂, afresh, rendered⟩ := run_uncached steady reached planned stored same
    refine ⟨_, s₁, fresh, s₂, ran, afresh, same, ?_⟩
    subst same
    exact (served_rendered stored ⟨rfl, bare⟩).trans rendered.symm

end Hits

section Example

/-- The first attempt of the run is answered from the cache. -/
def hitsFirst (runner : CrawlerRunner σ) (request : CrawlRequest) (s₀ : Crawl σ) : Bool :=
  match start runner request s₀ with
  | (.ok plan, s) =>
    match consult runner request plan 1 (cacheModeOf request) s with
    | (.ok (some cached), _) => cached.rendered.isSome
    | _ => false
  | _ => false

theorem answered_of_hitsFirst {runner : CrawlerRunner σ} {request : CrawlRequest} {s₀ : Crawl σ}
    (h : hitsFirst runner request s₀ = true) :
    ∃ cached, AnsweredFromCache runner request s₀ cached := by
  delta hitsFirst at h
  split at h
  · rename_i plan s started
    split at h
    · rename_i cached s' hit
      refine ⟨cached, 1, plan, s, s', Reached.first started, hit, ?_⟩
      rintro ⟨_, bare, _⟩
      rw [bare] at h
      exact Bool.false_ne_true h
    · exact absurd h Bool.false_ne_true
  · exact absurd h Bool.false_ne_true

theorem steady_sampleRunner : Steady sampleRunner where
  fetch _ _ _ := ⟨_, fun _ => Settles.pure _⟩
  universal _ _ := ⟨_, Settles.pure _⟩
  adapters _ mem := absurd mem List.not_mem_nil
  intelligent _ _ _ := ⟨_, Settles.lift (.error _)⟩
  rank _ _ := ⟨_, Settles.pure _⟩

def renderedRequest : CrawlRequest where
  url := "https://example.test/page"
  render := true
  renderMode := .structured

def plainRequest : CrawlRequest where
  url := "https://example.test/page"

/-- The runner after one run, which asked for a rendering. -/
def afterRendering : Crawl Unit := (run sampleRunner renderedRequest emptyCrawl).2

theorem history_afterRendering : History sampleRunner afterRendering :=
  History.run renderedRequest (History.fresh rfl)

theorem cache_hit_iff_again : ∃ cached,
    AnsweredFromCache sampleRunner renderedRequest afterRendering cached ∧
      (Indistinguishable sampleRunner renderedRequest afterRendering ↔
        Fits renderedRequest cached) := by
  have hits : hitsFirst sampleRunner renderedRequest afterRendering = true := by decide +kernel
  obtain ⟨cached, answered⟩ := answered_of_hitsFirst hits
  exact ⟨cached, answered,
    cache_hit_iff steady_sampleRunner history_afterRendering renderedRequest answered⟩

/-- The bundle the run returns is one of a request for a rendering. -/
def rendersForOther (outcome : Except RunFailure CrawlResultBundle) : Bool :=
  match outcome with
  | .ok bundle => bundle.request.render
  | .error _ => false

theorem distinguishable_of_rendersForOther {runner : CrawlerRunner σ} {request : CrawlRequest}
    {s₀ : Crawl σ} (unasked : request.render = false)
    (h : rendersForOther (run runner request s₀).1 = true) :
    ¬ Indistinguishable runner request s₀ := by
  rintro ⟨bundle, s', fresh, s'', returned, _, same, _⟩
  rw [returned] at h
  have asked : bundle.request.render = true := h
  rw [same, unasked] at asked
  exact Bool.false_ne_true asked

theorem hits_plainRequest : hitsFirst sampleRunner plainRequest afterRendering = true := by
  decide +kernel

theorem renders_plainRequest :
    rendersForOther (run sampleRunner plainRequest afterRendering).1 = true := by
  decide +kernel

/-- Who asks for no rendering gets that of the run before, in a bundle with its request. -/
theorem hit_of_other_request :
    (∃ cached, AnsweredFromCache sampleRunner plainRequest afterRendering cached) ∧
      ¬ Indistinguishable sampleRunner plainRequest afterRendering :=
  ⟨answered_of_hitsFirst hits_plainRequest,
    distinguishable_of_rendersForOther rfl renders_plainRequest⟩

end Example

end SthBoring.Crawler.CacheHits
