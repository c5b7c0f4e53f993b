/- Module: SthBoring/Crawler/AttemptFrames
   source: agent_crawler/loop/runner.py
   digest: What an attempt leaves as it is. -/

import SthBoring.Crawler.Attempts

set_option autoImplicit false
set_option relaxedAutoImplicit false

namespace SthBoring.Crawler.AttemptFrames

open SthBoring.Crawler.Attempts
open SthBoring.Crawler.Caching
open SthBoring.Crawler.Models
open SthBoring.Crawler.Policy
open SthBoring.Crawler.Runner
open SthBoring.Crawler.Session
open SthBoring.Lib.Effect (Computation Triple Keeps)
open SthBoring.Lib.PyValue (Fields PyExc)

variable {σ : Type} {runner : CrawlerRunner σ} {request : CrawlRequest} {plan : CrawlPlan} {n : ℕ}
  {I : Crawl σ → Prop}

def withCache (s : Crawl σ) (cache : ResultCache) : Crawl σ := { s with cache := cache }

/-- The records of an attempt cannot touch the property: it survives any change of the world and
the steps this attempt records. -/
structure Noted (n : ℕ) (I : Crawl σ → Prop) : Prop where
  world : ∀ s w, I s → I { s with world := w }
  addStep : ∀ s step, step.attempt = n → I s → I (s.addStep step)
  fallbacks : ∀ s k, I s →
    I { s with trace := { s.trace with fallbackCount := s.trace.fallbackCount + k } }

/-- It also survives any change of the sessions, and a further call. -/
structure Beside (n : ℕ) (I : Crawl σ → Prop) : Prop extends Noted n I where
  sessions : ∀ s store, I s → I { s with sessions := store }
  called : ∀ s call, call.attempt = n → I s → I { s with calls := s.calls ++ [call] }

/-- Reading a page in an attempt cannot touch it either: it survives any change of the sessions
and of the calls. -/
structure Aside (n : ℕ) (I : Crawl σ → Prop) : Prop extends Noted n I where
  sessions : ∀ s store, I s → I { s with sessions := store }
  calls : ∀ s calls, I s → I { s with calls := calls }

theorem Aside.beside (h : Aside n I) : Beside n I where
  toNoted := h.toNoted
  sessions := h.sessions
  called s call _ := h.calls s (s.calls ++ [call])

/-- The records of an attempt keep the property, and so do the parts of the runner but for the
fetcher. -/
structure Framed (runner : CrawlerRunner σ) (n : ℕ) (I : Crawl σ → Prop) : Prop where
  time : Keeps I (draw runner.time)
  read : ∀ request plan html, Keeps I (inWorld (extract runner request plan html))
  rank : ∀ chunks query, Keeps I (inWorld (runner.rank chunks query))
  addStep : ∀ s step, step.attempt = n → I s → I (s.addStep step)
  fallbacks : ∀ s k, I s →
    I { s with trace := { s.trace with fallbackCount := s.trace.fallbackCount + k } }

/-- And so does the fetcher, and a change of the sessions. -/
structure FramedCalls (runner : CrawlerRunner σ) (n : ℕ) (I : Crawl σ → Prop) : Prop
    extends Framed runner n I where
  sessions : ∀ s store, I s → I { s with sessions := store }
  called : ∀ request plan session options, Keeps I (callFetcher runner request plan n session options)

section Page

theorem keeps_inWorld {α : Type} (h : Noted n I) (m : Computation σ PyExc α) :
    Keeps I (inWorld m) :=
  Keeps.within m (fun world s hs => h.world s world hs)

theorem keeps_draw {α : Type} (h : Noted n I) (f : σ → α × σ) : Keeps I (draw f) :=
  keeps_inWorld h _

theorem Noted.framed (h : Noted n I) : Framed runner n I where
  time := keeps_draw h _
  read _ _ _ := keeps_inWorld h _
  rank _ _ := keeps_inWorld h _
  addStep := h.addStep
  fallbacks := h.fallbacks

theorem Beside.framed (h : Beside n I) : FramedCalls runner n I where
  toFramed := h.toNoted.framed
  sessions := h.sessions
  called request plan session options := by
    apply Keeps.bind (Keeps.outcome (keeps_inWorld h.toNoted _))
    intro outcome
    apply Keeps.bind (Keeps.modify (fun s hs => h.called s _ rfl hs))
    intro _
    exact Keeps.lift outcome

theorem keeps_record (h : Framed runner n I) (step : EventStep) (status : EventStatus) (message : String)
    (errorType : Option ErrorType) :
    Keeps I (record runner request plan n step status message errorType) := by
  apply Keeps.bind (Keeps.modify (fun s hs => h.addStep s _ rfl hs))
  intro _
  exact Keeps.bind (Keeps.lift _) (fun _ => Keeps.pure ())

theorem keeps_openSession (h : Framed runner n I)
    (sessions : ∀ s store, I s → I { s with sessions := store }) :
    Keeps I (openSession runner request plan) := by
  apply Keeps.bind (h.time)
  intro now
  apply Keeps.bind (Keeps.read _)
  intro store
  apply Keeps.bind (Keeps.lift _)
  intro opened
  apply Keeps.bind (Keeps.modify (fun s hs => sessions s _ hs))
  intro _
  exact Keeps.pure _

theorem keeps_fetchPage (h : FramedCalls runner n I) (session : CrawlSession) (options : Fields) :
    Keeps I (fetchPage runner request plan n session options) := by
  apply Keeps.bind (Keeps.outcome (h.called _ _ session (some options)))
  intro outcome
  cases outcome with
  | ok fetched => exact Keeps.pure fetched
  | error exc =>
    by_cases again : exc.isInstance "TypeError" = true
    · simp only [if_pos again]
      exact h.called _ _ session none
    · simp only [if_neg again]
      exact Keeps.raise exc

theorem keeps_fetchStage (h : FramedCalls runner n I) : Keeps I (fetchStage runner request plan n) := by
  apply Keeps.bind (keeps_openSession h.toFramed h.sessions)
  intro session
  apply Keeps.bind (keeps_record h.toFramed _ _ _ _)
  intro _
  refine Keeps.bind (Keeps.outcome ?_) ?_
  · apply Keeps.bind (keeps_fetchPage h session request.options)
    intro fetched
    exact Keeps.bind (keeps_record h.toFramed _ _ _ _) (fun _ => Keeps.pure fetched)
  · intro outcome
    cases outcome with
    | error exc => exact Keeps.bind (keeps_record h.toFramed _ _ _ _) (fun _ => Keeps.pure _)
    | ok fetched =>
      by_cases bad : 400 ≤ fetched.info.statusCode
      · simp only [if_pos bad]
        exact Keeps.bind (keeps_record h.toFramed _ _ _ _) (fun _ => Keeps.pure _)
      · simp only [if_neg bad]
        exact Keeps.pure _

theorem keeps_readPage (h : Framed runner n I) (fetched : FetchedPayload) :
    Keeps I (readPage runner request plan n fetched) := by
  apply Keeps.bind (h.read _ _ _)
  intro doc
  apply Keeps.bind (keeps_record h _ _ _ _)
  intro _
  apply Keeps.bind (h.rank _ _)
  intro chunks
  exact Keeps.bind (keeps_record h _ _ _ _) (fun _ => Keeps.pure _)

theorem keeps_readStage (h : Framed runner n I) (fetched : FetchedPayload) :
    Keeps I (readStage runner request plan n fetched) := by
  apply Keeps.bind (Keeps.outcome (keeps_readPage h fetched))
  intro outcome
  cases outcome with
  | error exc => exact Keeps.bind (keeps_record h _ _ _ _) (fun _ => Keeps.pure _)
  | ok doc =>
    apply Keeps.bind (keeps_record h _ _ _ _)
    intro _
    split_ifs <;> exact Keeps.pure _

theorem keeps_acquire (h : FramedCalls runner n I) : Keeps I (acquire runner request plan n) := by
  apply Keeps.bind (keeps_fetchStage h)
  intro outcome
  cases outcome with
  | error failure => exact Keeps.pure _
  | ok fetched => exact keeps_readStage h.toFramed fetched

theorem keeps_conclude (h : Framed runner n I) (ended : Except Failure CrawlResultBundle) :
    Keeps I (conclude runner request plan n ended) := by
  cases ended with
  | ok bundle => exact Keeps.pure _
  | error failure =>
    refine Keeps.bind ?_ (fun next => Keeps.pure _)
    apply Keeps.bind (Keeps.modify (fun s hs => h.fallbacks s _ hs))
    intro _
    exact Keeps.bind (keeps_record h _ _ _ _) (fun _ => Keeps.pure _)

end Page

section Cache

theorem keeps_consult (h : Framed runner n I) (cacheMode : String)
    (looked : ∀ s now key, I s → I (withCache s (s.cache.get now key).2)) :
    Keeps I (consult runner request plan n cacheMode) := by
  unfold consult
  split_ifs with asked
  · apply Keeps.bind (h.time)
    intro now
    apply Keeps.bind (Keeps.read _)
    intro cached
    apply Keeps.bind (Keeps.modify (fun s hs => looked s now _ hs))
    intro _
    split_ifs with taken
    · exact Keeps.bind (keeps_record h _ _ _ _) (fun _ => Keeps.pure _)
    · exact Keeps.bind (keeps_record h _ _ _ _) (fun _ => Keeps.pure _)
  · exact Keeps.pure none

/-- A hit writes the bundle with the trace, and perhaps with a rendering. -/
theorem keeps_serve {cached : CrawlResultBundle}
    (amended : ∀ s trace rendered, rendered = cached.rendered ∨
      rendered = (served runner request cached).rendered → I s →
      I (withCache s (s.cache.amend (makeKey request plan)
        { cached with trace := trace, rendered := rendered }))) :
    Keeps I (serve runner request plan cached) := by
  apply Keeps.bind (Keeps.read _)
  intro trace
  apply Keeps.bind (Keeps.modify (fun s hs => amended s (some trace) cached.rendered (Or.inl rfl) hs))
  intro _
  split_ifs with patch
  · apply Keeps.bind_lift
    intro text shown
    have rendered : some text = (served runner request cached).rendered := by
      rw [served, if_pos patch, rendering, if_pos patch.1, shown]
      rfl
    apply Keeps.bind (Keeps.modify (fun s hs => amended s (some trace) _ (Or.inr rendered) hs))
    intro _
    exact Keeps.pure _
  · exact Keeps.pure _

theorem keeps_storeBundle (h : Framed runner n I) {bundle : CrawlResultBundle}
    (stored : ∀ s now, I s → I (withCache s (s.cache.put now (makeKey bundle.request bundle.plan)
      bundle (some bundle.plan.resultCacheTtlS)))) :
    Keeps I (storeBundle runner bundle) := by
  unfold storeBundle
  split_ifs
  · exact Keeps.bind (h.time) (fun now => Keeps.modify (fun s hs => stored s now hs))
  · exact Keeps.pure ()

theorem keeps_noteRendering (h : Framed runner n I) : Keeps I (noteRendering runner request plan n) := by
  unfold noteRendering
  split_ifs
  · exact keeps_record h _ _ _ _
  · exact Keeps.pure ()

/-- A page that passes is stored with what a fresh run makes of it. -/
theorem keeps_deliver (h : Framed runner n I) (page : Page)
    (stored : ¬ Unwritten runner request plan → ∀ s now, I s →
      I (withCache s (s.cache.put now (makeKey request plan)
        (freshBundle runner request plan page) (some plan.resultCacheTtlS)))) :
    Keeps I (deliver runner request plan n page) := by
  by_cases gated : Gated request plan
  · obtain ⟨exc, raised⟩ := judge_of_gated gated
    apply Keeps.bind_lift
    intro relevance judged
    rw [raised] at judged
    cases judged
  · rw [deliver_of_not_gated gated page]
    refine Keeps.bind ?_ (fun _ => Keeps.pure _)
    apply Keeps.bind_lift
    intro rendered shown
    apply Keeps.bind (keeps_noteRendering h)
    intro _
    apply Keeps.bind_lift
    intro artifacts persisted
    have written : ¬ Unwritten runner request plan :=
      not_unwritten_of_ok gated shown persisted
    obtain rfl := renderFor_of_ok shown
    obtain rfl := persistFor_of_ok persisted
    have kept : Keeps I (storeBundle runner (freshBundle runner request plan page)) :=
      keeps_storeBundle h (stored written)
    apply Keeps.bind kept
    intro _
    apply Keeps.bind (keeps_record h _ _ _ _)
    intro _
    exact Keeps.bind (Keeps.read _) (fun _ => Keeps.pure _)

end Cache

section Turn

/-- Whatever does not depend on the cache is kept by a whole attempt. -/
theorem keeps_attempt (h : FramedCalls runner n I) (cached : ∀ s cache, I s → I (withCache s cache)) :
    Keeps I (attempt runner request plan n) := by
  apply Keeps.bind (keeps_consult h.toFramed _ (fun s _ _ hs => cached s _ hs))
  intro answer
  cases answer with
  | some found =>
    exact Keeps.bind (keeps_serve (fun s _ _ _ hs => cached s _ hs)) (fun _ => Keeps.pure _)
  | none =>
    apply Keeps.bind (keeps_acquire h)
    intro got
    cases got with
    | error failure => exact keeps_conclude h.toFramed _
    | ok page =>
      exact Keeps.bind (keeps_deliver h.toFramed page (fun _ s _ hs => cached s _ hs))
        (keeps_conclude h.toFramed)

/-- And by any number of attempts. -/
theorem keeps_attempts (h : ∀ m, FramedCalls runner m I)
    (cached : ∀ s cache, I s → I (withCache s cache)) (turns n : ℕ) (plan : CrawlPlan)
    (last : ErrorType) : Keeps I (attempts runner request turns n plan last) := by
  induction turns generalizing n plan last with
  | zero => exact Keeps.pure _
  | succ turns ih =>
    apply Keeps.bind (keeps_attempt (h n) cached)
    intro ended
    cases ended with
    | returned bundle => exact Keeps.pure _
    | failed errorType next => exact ih (n + 1) next errorType

variable {s s' : Crawl σ}

theorem after_hits (h : Framed runner n I)
    (looked : ∀ s now key, I s → I (withCache s (s.cache.get now key).2))
    {cached : CrawlResultBundle} (hit : Hits runner request plan n s cached s') (hs : I s) : I s' := by
  have consulted : Keeps I (consult runner request plan n (cacheModeOf request)) :=
    keeps_consult h _ looked
  have after := consulted.after hs
  rw [hit] at after
  exact after

theorem after_acquires (h : FramedCalls runner n I)
    (looked : ∀ s now key, I s → I (withCache s (s.cache.get now key).2))
    {got : Except Failure Page} (acquires : Acquires runner request plan n s got s') (hs : I s) :
    I s' := by
  obtain ⟨s₁, asked, acquired⟩ := acquires
  have consulted : Keeps I (consult runner request plan n (cacheModeOf request)) :=
    keeps_consult h.toFramed _ looked
  have acquiring : Keeps I (acquire runner request plan n) := keeps_acquire h
  have between := consulted.after hs
  rw [asked] at between
  have after := acquiring.after between
  rw [acquired] at after
  exact after

end Turn

section World

theorem mem_of_firstHandling {url : String} {adapters : List (SiteAdapter σ)}
    {adapter : SiteAdapter σ} (h : firstHandling url adapters = .ok (some adapter)) :
    adapter ∈ adapters := by
  induction adapters with
  | nil => cases h
  | cons first rest ih =>
    rw [firstHandling] at h
    cases handles : first.canHandle url with
    | error exc =>
      rw [handles] at h
      cases h
    | ok can =>
      rw [handles] at h
      cases can with
      | true =>
        obtain rfl : first = adapter := Option.some.inj (Except.ok.inj h)
        exact List.mem_cons_self
      | false => exact List.mem_cons_of_mem first (ih h)

theorem mem_of_resolveAdapter {url : String} {name : Option String}
    {adapters : List (SiteAdapter σ)} {adapter : SiteAdapter σ}
    (h : resolveAdapter adapters url name = .ok (some adapter)) : adapter ∈ adapters := by
  rw [resolveAdapter] at h
  split at h
  · rename_i found named
    obtain rfl : found = adapter := Option.some.inj (Except.ok.inj h)
    obtain ⟨name, _, found⟩ := Option.bind_eq_some_iff.mp named
    exact List.mem_of_find?_eq_some found
  · exact mem_of_firstHandling h

/-- The parts of the runner keep a property of the world. -/
structure WorldKept (runner : CrawlerRunner σ) (J : σ → Prop) : Prop where
  time : ∀ world, J world → J (runner.time world).2
  uuid4 : ∀ world, J world → J (runner.uuid4 world).2
  fetch : ∀ url plan session options, Keeps J (runner.fetch url plan session options)
  universal : ∀ html url, Keeps J (runner.universalExtractor html url)
  adapters : ∀ adapter ∈ runner.adapters, ∀ html url, Keeps J (adapter.extract html url)
  intelligent : ∀ html url query, Keeps J (runner.intelligentExtractor html url query)
  rank : ∀ chunks query, Keeps J (runner.rank chunks query)

variable {J : σ → Prop}

theorem world_inWorld {α : Type} {m : Computation σ PyExc α} (h : Keeps J m) :
    Keeps (fun s : Crawl σ => J s.world) (inWorld m) :=
  Keeps.part h fun _ _ => rfl

theorem world_draw {α : Type} {f : σ → α × σ} (h : ∀ world, J world → J (f world).2) :
    Keeps (fun s : Crawl σ => J s.world) (draw f) :=
  world_inWorld h

theorem world_extract (kept : WorldKept runner J) (request : CrawlRequest) (plan : CrawlPlan)
    (html : String) : Keeps J (extract runner request plan html) := by
  unfold extract
  cases plan.extractKind with
  | universal => exact kept.universal html request.url
  | intelligent => exact kept.intelligent html request.url request.query
  | adapter =>
    apply Keeps.bind_lift
    intro found resolved
    cases found with
    | none => exact kept.universal html request.url
    | some adapter => exact kept.adapters adapter (mem_of_resolveAdapter resolved) html request.url

/-- Nothing else of an attempt touches the world. -/
theorem framed_world (kept : WorldKept runner J) (n : ℕ) :
    FramedCalls runner n (fun s => J s.world) where
  time := world_draw kept.time
  read request plan html := world_inWorld (world_extract kept request plan html)
  rank chunks query := world_inWorld (kept.rank chunks query)
  addStep _ _ _ held := held
  fallbacks _ _ held := held
  sessions _ _ held := held
  called request plan session options := by
    apply Keeps.bind (Keeps.outcome (world_inWorld (kept.fetch request.url plan session options)))
    intro outcome
    refine Keeps.bind (Keeps.modify fun _ held => held) ?_
    intro _
    exact Keeps.lift outcome

theorem world_start (kept : WorldKept runner J) :
    Keeps (fun s : Crawl σ => J s.world) (start runner request) := by
  apply Keeps.bind (world_draw kept.uuid4)
  intro runId
  refine Keeps.bind (Keeps.modify fun _ held => held) ?_
  intro _
  apply Keeps.bind (Keeps.lift _)
  intro plan
  exact Keeps.bind (keeps_record (framed_world kept 0).toFramed _ _ _ _) (fun _ => Keeps.pure plan)

variable {s₀ s : Crawl σ}

theorem world_of_reached (kept : WorldKept runner J) (reached : Reached runner request s₀ n plan s)
    (first : J s₀.world) : J s.world := by
  induction reached with
  | first started => exact (world_start kept).after_ok started first
  | @next n plan plan' s s' errorType _ _ failed ih =>
    have turn : Keeps (fun s : Crawl σ => J s.world) (attempt runner request plan n) :=
      keeps_attempt (framed_world kept n) (fun _ _ held => held)
    exact turn.after_ok failed ih

theorem world_run (kept : WorldKept runner J) (first : J s₀.world) :
    J (run runner request s₀).2.world := by
  have loop : Keeps (fun s : Crawl σ => J s.world) (do
      let plan ← start runner request
      attempts runner request (budget request) 1 plan .maxAttemptsExceeded) := by
    apply Keeps.bind (world_start kept)
    intro plan
    exact keeps_attempts (framed_world kept) (fun _ _ held => held) _ _ plan _
  rw [run_eq_finish, finish_snd]
  exact loop.after first

end World

end SthBoring.Crawler.AttemptFrames
