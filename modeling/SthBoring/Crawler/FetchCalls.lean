/- Module: SthBoring/Crawler/FetchCalls
   source: agent_crawler/loop/runner.py
   digest: How often an attempt calls the fetcher, and with which options. -/

import SthBoring.Crawler.AttemptFrames

set_option autoImplicit false
set_option relaxedAutoImplicit false

namespace SthBoring.Crawler.FetchCalls

open SthBoring.Crawler.AttemptFrames
open SthBoring.Crawler.Attempts
open SthBoring.Crawler.Models
open SthBoring.Crawler.Policy (buildPlan)
open SthBoring.Crawler.Runner
open SthBoring.Crawler.Session
open SthBoring.Lib.Effect (Computation Triple Keeps Post)
open SthBoring.Lib.PyValue (Fields PyExc typeError)
open SthBoring.Lib.UrlParse (asciiInterpreter)

variable {σ : Type}

/-- No attempt calls the fetcher twice, and every call has the options of the request. -/
structure OncePerAttempt (request : CrawlRequest) (calls : List FetchCall) : Prop where
  once : (calls.map FetchCall.attempt).Nodup
  options : ∀ call ∈ calls, call.options = some request.options

/-- From its first state an attempt gets to this one, where it is about to call the fetcher. -/
def Arrives (runner : CrawlerRunner σ) (request : CrawlRequest) (n : ℕ) (plan : CrawlPlan)
    (s : Crawl σ) (session : CrawlSession) (t : Crawl σ) : Prop :=
  ∃ s₁ s₂, consult runner request plan n (cacheModeOf request) s = (.ok none, s₁) ∧
    openSession runner request plan s₁ = (.ok session, s₂) ∧
    record runner request plan n .session .ok "session ready" none s₂ = (.ok (), t)

/-- The run comes to this state, in which an attempt is about to call the fetcher. -/
def Asks (runner : CrawlerRunner σ) (request : CrawlRequest) (s₀ : Crawl σ) (n : ℕ)
    (plan : CrawlPlan) (session : CrawlSession) (t : Crawl σ) : Prop :=
  ∃ s, Reached runner request s₀ n plan s ∧ Arrives runner request n plan s session t

/-- The fetcher, called with the options of the request, raises a `TypeError`. -/
def RaisesTypeError (runner : CrawlerRunner σ) (request : CrawlRequest) (plan : CrawlPlan)
    (session : CrawlSession) (world : σ) : Prop :=
  ∃ exc world', runner.fetch request.url plan session (some request.options) world =
    (.error exc, world') ∧ exc.isInstance "TypeError" = true

variable {runner : CrawlerRunner σ} {request : CrawlRequest} {plan : CrawlPlan} {n : ℕ}
  {session : CrawlSession} {s t : Crawl σ}

section Page

/-- The state after a call of the fetcher. -/
def afterCall (runner : CrawlerRunner σ) (request : CrawlRequest) (plan : CrawlPlan) (n : ℕ)
    (session : CrawlSession) (options : Option Fields) (s : Crawl σ) : Crawl σ :=
  let fetched := runner.fetch request.url plan session options s.world
  { s with world := fetched.2, calls := s.calls ++ [⟨n, options, fetched.1⟩] }

theorem callFetcher_eq (options : Option Fields) (s : Crawl σ) :
    callFetcher runner request plan n session options s =
      ((runner.fetch request.url plan session options s.world).1,
        afterCall runner request plan n session options s) := by
  change Computation.lift (runner.fetch request.url plan session options s.world).1
    (afterCall runner request plan n session options s) = _
  cases (runner.fetch request.url plan session options s.world).1 <;> rfl

theorem fetchPage_eq (s : Crawl σ) :
    fetchPage runner request plan n session request.options s =
      match (runner.fetch request.url plan session (some request.options) s.world).1 with
      | .ok fetched =>
        (.ok fetched, afterCall runner request plan n session (some request.options) s)
      | .error exc =>
        (if exc.isInstance "TypeError" then callFetcher runner request plan n session none
          else Computation.raise exc) (afterCall runner request plan n session (some request.options) s) := by
  have called : (Computation.outcome
      (callFetcher runner request plan n session (some request.options)) : Crawling σ _) s =
      (.ok (runner.fetch request.url plan session (some request.options) s.world).1,
        afterCall runner request plan n session (some request.options) s) := by
    rw [Computation.outcome, callFetcher_eq]
  rw [fetchPage, Computation.bind_of_ok called]
  cases (runner.fetch request.url plan session (some request.options) s.world).1 <;> rfl

/-- Unless the fetcher raises a `TypeError` it is called once, with the options. -/
theorem calls_fetchPage_once (accepted : ¬ RaisesTypeError runner request plan session s.world) :
    ∃ outcome, (fetchPage runner request plan n session request.options s).2.calls =
      s.calls ++ [⟨n, some request.options, outcome⟩] := by
  refine ⟨(runner.fetch request.url plan session (some request.options) s.world).1, ?_⟩
  rw [fetchPage_eq]
  rcases fetched : runner.fetch request.url plan session (some request.options) s.world with
    ⟨exc | page, world⟩
  · have other : ¬ exc.isInstance "TypeError" = true := fun again =>
      accepted ⟨exc, world, fetched, again⟩
    simp only [if_neg other, Computation.raise, afterCall, fetched]
  · simp only [afterCall, fetched]

theorem calls_fetchPage_again (raised : RaisesTypeError runner request plan session s.world) :
    ∃ first second, (fetchPage runner request plan n session request.options s).2.calls =
      s.calls ++ [⟨n, some request.options, first⟩, ⟨n, none, second⟩] := by
  obtain ⟨exc, world, fetched, again⟩ := raised
  rw [fetchPage_eq, fetched]
  simp only [if_pos again, callFetcher_eq, afterCall, List.append_assoc, List.singleton_append]
  exact ⟨_, _, rfl⟩

end Page

section Turn

/-- Nothing but a fetch adds to the calls. -/
theorem noted_calls (m : ℕ) (calls : List FetchCall) :
    Noted m (fun t : Crawl σ => t.calls = calls) where
  world _ _ same := same
  addStep _ _ _ same := same
  fallbacks _ _ same := same

/-- The calls only grow. -/
theorem beside_grown (m : ℕ) (calls : List FetchCall) :
    Beside m (fun t : Crawl σ => calls <+: t.calls) where
  world _ _ grown := grown
  addStep _ _ _ grown := grown
  fallbacks _ _ grown := grown
  sessions _ _ grown := grown
  called _ _ _ grown := grown.trans (List.prefix_append _ _)

theorem prefix_attempts (calls : List FetchCall) (turns n : ℕ) (plan : CrawlPlan) (last : ErrorType) :
    Keeps (fun t : Crawl σ => calls <+: t.calls) (attempts runner request turns n plan last) :=
  keeps_attempts (fun m => (beside_grown m calls).framed) (fun _ _ grown => grown) turns n plan last

/-- An attempt that is answered from the cache calls nobody. -/
theorem calls_attempt_of_hits {cached : CrawlResultBundle} {s₂ : Crawl σ}
    (hit : Hits runner request plan n s cached s₂) :
    (attempt runner request plan n s).2.calls = s.calls := by
  have consulted := after_hits (noted_calls n s.calls).framed (fun _ _ _ same => same) hit rfl
  have given : Keeps (fun t : Crawl σ => t.calls = s.calls) (do
      return .returned (← serve runner request plan cached) : Crawling σ AttemptEnd) :=
    Keeps.bind (keeps_serve (fun _ _ _ _ same => same)) (fun _ => Keeps.pure _)
  rw [attempt_of_hits hit]
  exact given.after consulted

/-- An attempt that asks the fetcher adds the calls of that one page. -/
theorem calls_attempt_of_arrives (arrives : Arrives runner request n plan s session t) :
    (attempt runner request plan n s).2.calls =
      (fetchPage runner request plan n session request.options t).2.calls := by
  obtain ⟨s₁, s₂, consulted, opened, recorded⟩ := arrives
  generalize made : (fetchPage runner request plan n session request.options t).2.calls = calls
  have noted := noted_calls (σ := σ) n calls
  have fetched : Triple (fun u => u = t) (fetchPage runner request plan n session request.options)
      (fun _ t => t.calls = calls) (fun _ t => t.calls = calls) := Triple.endsIn made
  have noting (page : FetchedPayload) : Keeps (fun t : Crawl σ => t.calls = calls) (do
      record runner request plan n .fetch .ok "fetch complete"
      return page) := Keeps.bind (keeps_record noted.framed _ _ _ _) (fun _ => Keeps.pure page)
  have staged : Triple (fun t => t = s₁) (fetchStage runner request plan n)
      (fun _ t => t.calls = calls) (fun _ t => t.calls = calls) := by
    refine Triple.bind (Triple.exactly opened) ?_
    rintro session' u ⟨rfl, rfl⟩
    refine Triple.bind (Triple.exactly recorded) ?_ u rfl
    rintro _ u ⟨-, rfl⟩
    refine Triple.bind (Triple.outcome (Triple.bind fetched noting) _) ?_ u rfl
    intro outcome u post
    have same : u.calls = calls := Post.snd post
    cases outcome with
    | error exc =>
      exact Keeps.bind (keeps_record noted.framed _ _ _ _) (fun _ => Keeps.pure _) u same
    | ok page =>
      by_cases bad : 400 ≤ page.info.statusCode
      · simp only [if_pos bad]
        exact Keeps.bind (keeps_record noted.framed _ _ _ _) (fun _ => Keeps.pure _) u same
      · simp only [if_neg bad]
        exact same
  have acquired : Triple (fun t => t = s₁) (acquire runner request plan n)
      (fun _ t => t.calls = calls) (fun _ t => t.calls = calls) := by
    refine Triple.bind staged fun got => ?_
    cases got with
    | error failure => exact Keeps.pure _
    | ok page => exact keeps_readStage noted.framed page
  rw [attempt, Computation.bind_of_ok consulted]
  dsimp only
  refine Post.snd (I := fun t : Crawl σ => t.calls = calls) ?_
  refine Triple.bind acquired (fun got => ?_) s₁ rfl
  cases got with
  | error failure => exact keeps_conclude noted.framed _
  | ok page =>
    exact Keeps.bind (keeps_deliver noted.framed page (fun _ _ _ same => same)) (keeps_conclude noted.framed)

/-- What comes before the fetcher is asked looks into the cache and opens a session. -/
theorem after_arrives {I : Crawl σ → Prop} (h : Framed runner n I)
    (looked : ∀ s now key, I s → I (withCache s (s.cache.get now key).2))
    (sessions : ∀ s store, I s → I { s with sessions := store })
    (arrives : Arrives runner request n plan s session t) (hs : I s) : I t := by
  obtain ⟨s₁, s₂, consulted, opened, recorded⟩ := arrives
  have asked : Keeps I (consult runner request plan n (cacheModeOf request)) :=
    keeps_consult h _ looked
  have seated : Keeps I (openSession runner request plan) := keeps_openSession h sessions
  have told : Keeps I (record runner request plan n .session .ok "session ready") :=
    keeps_record h _ _ _ _
  exact told.after_ok recorded (seated.after_ok opened (asked.after_ok consulted hs))

theorem calls_of_arrives (arrives : Arrives runner request n plan s session t) :
    t.calls = s.calls := by
  have noted := noted_calls (σ := σ) n s.calls
  exact after_arrives noted.framed (fun _ _ _ same => same) (fun _ _ same => same) arrives rfl

/-- An attempt is answered from the cache, or it gets to ask the fetcher. -/
theorem hits_or_arrives (parsed : Parsed runner request) (plan : CrawlPlan) (n : ℕ) (s : Crawl σ) :
    (∃ cached s₁, Hits runner request plan n s cached s₁) ∨
      ∃ session t, Arrives runner request n plan s session t := by
  obtain ⟨answer, s₁, consulted⟩ := consult_total parsed (cacheModeOf request) s
  cases answer with
  | some cached => exact .inl ⟨cached, s₁, consulted⟩
  | none =>
    obtain ⟨session, s₂, opened⟩ := openSession_total parsed s₁
    obtain ⟨_, t, recorded⟩ : ∃ u t, record runner request plan n .session .ok "session ready" none s₂ =
        (.ok u, t) := record_total parsed _ _ _ _ s₂
    exact .inr ⟨session, t, s₁, s₂, consulted, opened, recorded⟩

end Turn

section Run

variable {s₀ : Crawl σ}

/-- So far no attempt has called twice, and none from this one on has called. -/
structure CallsBefore (request : CrawlRequest) (n : ℕ) (calls : List FetchCall) : Prop
    extends OncePerAttempt request calls where
  before : ∀ call ∈ calls, call.attempt < n

theorem CallsBefore.append {calls : List FetchCall} (sound : CallsBefore request n calls)
    (outcome : Except PyExc FetchedPayload) :
    CallsBefore request (n + 1) (calls ++ [⟨n, some request.options, outcome⟩]) where
  once := by
    have fresh : n ∉ calls.map FetchCall.attempt := by
      intro old
      obtain ⟨call, mem, same⟩ := List.mem_map.mp old
      have earlier := sound.before call mem
      omega
    rw [List.map_append]
    exact sound.once.append (List.nodup_singleton n) (List.disjoint_singleton.mpr fresh)
  options call mem := by
    rcases List.mem_append.mp mem with old | new
    · exact sound.options call old
    · rw [List.mem_singleton.mp new]
  before call mem := by
    rcases List.mem_append.mp mem with old | new
    · exact Nat.lt_succ_of_lt (sound.before call old)
    · rw [List.mem_singleton.mp new]
      exact Nat.lt_succ_self n

/-- The fetcher accepts the options whenever the run calls it with them. -/
def AcceptsOptions (runner : CrawlerRunner σ) (request : CrawlRequest) (s₀ : Crawl σ) : Prop :=
  ∀ n plan session t, Asks runner request s₀ n plan session t →
    ¬ RaisesTypeError runner request plan session t.world

theorem callsBefore_attempt (accepts : AcceptsOptions runner request s₀)
    (reached : Reached runner request s₀ n plan s) (sound : CallsBefore request n s.calls) :
    CallsBefore request (n + 1) (attempt runner request plan n s).2.calls := by
  rcases hits_or_arrives (parsed_of_reached reached) plan n s with
    ⟨cached, s₁, hit⟩ | ⟨session, t, arrives⟩
  · rw [calls_attempt_of_hits hit]
    exact ⟨sound.toOncePerAttempt, fun call mem => Nat.lt_succ_of_lt (sound.before call mem)⟩
  · obtain ⟨outcome, called⟩ :=
      calls_fetchPage_once (n := n) (accepts n plan session t ⟨s, reached, arrives⟩)
    rw [calls_attempt_of_arrives arrives, called, calls_of_arrives arrives]
    exact sound.append outcome

theorem start_calls (s₀ : Crawl σ) : (start runner request s₀).2.calls = [] := by
  obtain ⟨runId, s₁, drawn⟩ := draw_total runner.uuid4 s₀
  have planned : Keeps (fun t : Crawl σ => t.calls = []) (do
      let plan ← Computation.lift (buildPlan runner.py runner.domainRegistry request)
      record runner request plan 0 .policy .ok "plan built"
      return plan : Crawling σ CrawlPlan) := by
    apply Keeps.bind (Keeps.lift _)
    intro plan
    exact Keeps.bind (keeps_record (noted_calls 0 []).framed _ _ _ _) (fun _ => Keeps.pure plan)
  rw [start, Computation.bind_of_ok drawn]
  exact planned.after rfl

theorem callsBefore_of_reached (accepts : AcceptsOptions runner request s₀)
    (reached : Reached runner request s₀ n plan s) : CallsBefore request n s.calls := by
  induction reached with
  | first started =>
    have none : (start runner request s₀).2.calls = [] := start_calls s₀
    rw [started] at none
    rw [none]
    exact ⟨⟨List.nodup_nil, fun _ mem => nomatch mem⟩, fun _ mem => nomatch mem⟩
  | next reached _ failed ih =>
    have after := callsBefore_attempt accepts reached ih
    rwa [failed] at after

/-- A run ends where its last attempt does. -/
theorem run_ends (reached : Reached runner request s₀ n plan s) : ∃ n plan s,
    Reached runner request s₀ n plan s ∧
      (run runner request s₀).2 = (attempt runner request plan n s).2 := by
  obtain ⟨n, plan, s, reached, last⟩ := exists_last_attempt reached
  refine ⟨n, plan, s, reached, ?_⟩
  rcases ended : attempt runner request plan n s with ⟨exc | ⟨bundle | ⟨errorType, next⟩⟩, s'⟩
  · rw [run_of_raised reached ended]
  · rw [run_of_returned reached ended]
  · rw [run_of_failed reached (last errorType next s' ended) ended]

/-- Whatever an attempt calls stays among the calls of the run. -/
theorem attempt_prefix_run (reached : Reached runner request s₀ n plan s) :
    (attempt runner request plan n s).2.calls <+: (run runner request s₀).2.calls := by
  obtain ⟨_, _, last, same⟩ := run_of_reached reached
  rw [same, finish_snd]
  rcases ended : attempt runner request plan n s with ⟨exc | ⟨bundle | ⟨errorType, next⟩⟩, s'⟩
  · rw [attempts_of_raised ended]
  · rw [attempts_of_returned ended]
  · rw [attempts_of_failed ended]
    exact (prefix_attempts s'.calls _ _ _ _).after List.prefix_rfl

/-- Every attempt of a run calls the fetcher at most once, with the options of the request, if and
only if no call with the options raises a `TypeError`. -/
theorem once_per_attempt_iff (runner : CrawlerRunner σ) (request : CrawlRequest) (s₀ : Crawl σ) :
    OncePerAttempt request (run runner request s₀).2.calls ↔
      AcceptsOptions runner request s₀ := by
  constructor
  · rintro once n plan session t ⟨s, reached, arrives⟩ raised
    obtain ⟨first, second, called⟩ := calls_fetchPage_again (n := n) raised
    have mem : (⟨n, none, second⟩ : FetchCall) ∈ (run runner request s₀).2.calls := by
      refine (attempt_prefix_run reached).subset ?_
      rw [calls_attempt_of_arrives arrives, called]
      simp
    cases once.options _ mem
  · intro accepts
    by_cases parsed : Parsed runner request
    · obtain ⟨plan, s, started⟩ := start_total parsed s₀
      obtain ⟨n, plan, s, reached, ends⟩ := run_ends (.first started)
      rw [ends]
      exact (callsBefore_attempt accepts reached
        (callsBefore_of_reached accepts reached)).toOncePerAttempt
    · obtain ⟨exc, s, raised⟩ := start_raises parsed s₀
      have none : (start runner request s₀).2.calls = [] := start_calls s₀
      rw [run_eq_finish, Computation.bind_of_error raised, finish_snd]
      rw [raised] at none
      rw [none]
      exact ⟨List.nodup_nil, fun _ mem => nomatch mem⟩

end Run

section Sample

/-- A fetcher that counts its visits, and stumbles over every page it gets. -/
def stumblingRunner : CrawlerRunner ℕ where
  py := asciiInterpreter
  fetch _ _ _ _ := fun visits => (.error (typeError "unhashable type: 'list'"), visits + 1)
  universalExtractor html url := pure (takenAsIs html url)
  intelligentExtractor html url _ := pure (takenAsIs html url)
  rank chunks _ := pure chunks
  time world := (0, world)
  uuid4 world := ("run", world)

def loginRequest : CrawlRequest where
  url := "https://example.test/page"
  maxAttempts := 1
  options := [("interactive_login", .bool true)]

theorem options_dropped :
    ((run stumblingRunner loginRequest { world := 0 }).2.world = 2 ∧
      (run stumblingRunner loginRequest { world := 0 }).2.calls.map
        (fun call => (call.attempt, call.options.isSome)) = [(1, true), (1, false)]) ∧
      ¬ OncePerAttempt loginRequest (run stumblingRunner loginRequest { world := 0 }).2.calls := by
  have calls : (run stumblingRunner loginRequest { world := 0 }).2.calls.map
      (fun call => (call.attempt, call.options.isSome)) = [(1, true), (1, false)] := by
    decide +kernel
  refine ⟨⟨by decide +kernel, calls⟩, fun once => ?_⟩
  have attempts := once.once
  have same : (run stumblingRunner loginRequest { world := 0 }).2.calls.map FetchCall.attempt =
      [1, 1] := by
    have firsts := congrArg (List.map Prod.fst) calls
    rwa [List.map_map] at firsts
  rw [same] at attempts
  exact absurd attempts (by decide)

end Sample

end SthBoring.Crawler.FetchCalls
