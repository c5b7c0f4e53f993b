/- Module: SthBoring/Crawler/RunAccounts
   source: agent_crawler/tools/result_mapper.py, agent_crawler/loop/runner.py
   digest: What the result of the tool says of the run behind it. -/

import SthBoring.Crawler.AttemptFrames
import SthBoring.Crawler.WebReadPage

set_option autoImplicit false
set_option relaxedAutoImplicit false

namespace SthBoring.Crawler.RunAccounts

open SthBoring.Crawler.AttemptFrames
open SthBoring.Crawler.Attempts
open SthBoring.Crawler.Models
open SthBoring.Crawler.Policy (buildPlan)
open SthBoring.Crawler.Runner
open SthBoring.Crawler.WebReadPage
open SthBoring.Lib.Effect (Computation Triple Keeps Post)
open SthBoring.Lib.PyValue (bind_eq_ok typeError)

variable {σ : Type}

/-- The reason of the last fallback that was recorded. -/
def lastFallback (trace : TraceInfo) : Option String :=
  (trace.steps.filter (·.stepName = EventStep.fallback.value)).getLast?.map TraceStep.reason

/-- The result says how many attempts the run made, why it fell back last, and whether the bundle
is from the cache. -/
structure TrueAccount (runner : CrawlerRunner σ) (request : CrawlRequest) (s₀ : Crawl σ)
    (bundle : CrawlResultBundle) (result : WebReadPageResult) : Prop where
  attempts : ∀ n plan s s', Reached runner request s₀ n plan s →
    attempt runner request plan n s = (.ok (.returned bundle), s') → result.trace.attempts = n
  fallback : result.quality.fallbackReason = bundle.trace.bind lastFallback
  cache : result.cache.cacheHit = true ↔
    ∃ n plan s cached s', Reached runner request s₀ n plan s ∧
      Hits runner request plan n s cached s'

/-- So many steps are recorded. -/
def Steps (k : ℕ) (s : Crawl σ) : Prop := k ≤ s.trace.steps.length

/-- The bundle has a trace with so many steps. -/
def HasSteps (k : ℕ) (bundle : CrawlResultBundle) : Prop :=
  ∃ trace, bundle.trace = some trace ∧ k ≤ trace.steps.length

variable {runner : CrawlerRunner σ} {request : CrawlRequest} {plan : CrawlPlan} {n k : ℕ}

section Turn

theorem length_addStep (s : Crawl σ) (step : TraceStep) :
    (s.addStep step).trace.steps.length = s.trace.steps.length + 1 := by
  rw [Crawl.addStep, TraceInfo.addStep, List.length_append, List.length_singleton]

theorem beside_steps (m k : ℕ) : Beside m (Steps k (σ := σ)) where
  world _ _ many := many
  fallbacks _ _ many := many
  sessions _ _ many := many
  called _ _ _ many := many
  addStep s step _ many := by
    unfold Steps at many ⊢
    rw [length_addStep]
    omega

theorem record_steps (step : EventStep) (status : EventStatus) (message : String)
    (errorType : Option ErrorType) :
    Triple (Steps k) (record runner request plan n step status message errorType)
      (fun _ => Steps (k + 1)) (fun _ _ => True) := by
  refine Triple.bind (Q := fun _ => Steps (k + 1)) (Triple.modify ?_) ?_
  · intro s many
    unfold Steps at many ⊢
    rw [length_addStep]
    omega
  · intro _
    exact (Keeps.bind (Keeps.lift _) (fun _ => Keeps.pure ())).triple

/-- An answer from the cache is recorded. -/
theorem consult_steps (cacheMode : String) :
    Triple (Steps k) (consult runner request plan n cacheMode)
      (fun answer s => Steps k s ∧ (answer.isSome = true → Steps (k + 1) s)) (fun _ _ => True) := by
  have noted := (beside_steps (σ := σ) n k).toNoted
  unfold consult
  split_ifs with asked
  · apply Triple.bind (keeps_draw noted _).triple
    intro now
    apply Triple.bind (Keeps.read _).triple
    intro cached
    refine Triple.bind (Q := fun _ => Steps k) (Triple.modify fun _ many => many) ?_
    intro _
    split_ifs with taken
    · apply Triple.bind (record_steps _ _ _ _)
      intro _
      exact Triple.pure fun s many => ⟨Nat.le_of_succ_le many, fun _ => many⟩
    · apply Triple.bind (record_steps _ _ _ _)
      intro _
      exact Triple.pure fun s many => ⟨Nat.le_of_succ_le many, fun none => by cases none⟩
  · exact Triple.pure fun s many => ⟨many, fun none => by cases none⟩

theorem serve_steps (cached : CrawlResultBundle) :
    Triple (Steps k) (serve runner request plan cached) (fun bundle _ => HasSteps k bundle)
      (fun _ _ => True) := by
  refine Triple.bind (Q := fun trace _ => k ≤ trace.steps.length) (Triple.read fun _ many => many) ?_
  intro trace
  refine Triple.bind (Q := fun _ _ => k ≤ trace.steps.length) (Triple.modify fun _ many => many) ?_
  intro _
  split_ifs with patch
  · apply Triple.bind (Q := fun _ _ => k ≤ trace.steps.length)
      (Triple.lift (fun _ _ _ many => many) fun _ _ _ _ => trivial)
    intro text
    refine Triple.bind (Q := fun _ _ => k ≤ trace.steps.length) (Triple.modify fun _ many => many) ?_
    intro _
    exact Triple.pure fun _ many => ⟨trace, rfl, many⟩
  · exact Triple.pure fun _ many => ⟨trace, rfl, many⟩

theorem emitBundle_steps (page : Page) (relevance : Option RelevanceResult) :
    Triple (Steps k) (emitBundle runner request plan n page relevance)
      (fun bundle _ => HasSteps (k + 1) bundle) (fun _ _ => True) := by
  have noted := (beside_steps (σ := σ) n k).toNoted
  apply Triple.bind (Keeps.lift _).triple
  intro rendered
  apply Triple.bind (keeps_noteRendering noted.framed).triple
  intro _
  apply Triple.bind (Keeps.lift _).triple
  intro artifacts
  apply Triple.bind (keeps_storeBundle noted.framed (fun _ _ many => many)).triple
  intro _
  apply Triple.bind (record_steps _ _ _ _)
  intro _
  refine Triple.bind (Q := fun trace _ => k + 1 ≤ trace.steps.length)
    (Triple.read fun _ many => many) ?_
  intro trace
  exact Triple.pure fun _ many => ⟨trace, rfl, many⟩

theorem deliver_steps (page : Page) :
    Triple (Steps k) (deliver runner request plan n page)
      (fun got s => match got with
        | .ok bundle => HasSteps (k + 1) bundle
        | .error _ => Steps k s) (fun _ _ => True) := by
  apply Triple.bind (Keeps.lift _).triple
  intro relevance
  cases relevance.filter (fun relevance => !relevance.relevant) with
  | some rejected => exact Triple.pure fun _ many => many
  | none =>
    apply Triple.bind (emitBundle_steps page relevance)
    intro bundle
    exact Triple.pure fun _ many => many

/-- What an attempt ends in, with a step more than it began with. -/
def Grown (k : ℕ) (ended : AttemptEnd) (s : Crawl σ) : Prop :=
  match ended with
  | .returned bundle => HasSteps k bundle
  | .failed _ _ => Steps k s

theorem conclude_steps (failure : Failure) :
    Triple (Steps k) (conclude runner request plan n (.error failure)) (Grown (k + 1))
      (fun _ _ => True) := by
  have fell : Triple (Steps k) (fallback runner request plan n failure.2)
      (fun _ => Steps (k + 1)) (fun _ _ => True) := by
    refine Triple.bind (Q := fun _ => Steps k) (Triple.modify fun _ many => many) ?_
    intro _
    apply Triple.bind (record_steps _ _ _ _)
    intro _
    exact Triple.pure fun _ many => many
  apply Triple.bind fell
  intro next
  exact Triple.pure fun _ many => many

/-- Every attempt records a step. -/
theorem attempt_steps :
    Triple (Steps k) (attempt runner request plan n) (Grown (k + 1)) (fun _ _ => True) := by
  apply Triple.bind (consult_steps _)
  intro answer
  cases answer with
  | some cached =>
    intro s many
    refine Triple.bind (serve_steps cached) ?_ s (many.2 rfl)
    intro bundle
    exact Triple.pure fun _ has => has
  | none =>
    intro s many
    refine Triple.bind (keeps_acquire (beside_steps n k).framed).triple ?_ s many.1
    intro got
    cases got with
    | error failure => exact conclude_steps failure
    | ok page =>
      apply Triple.bind (deliver_steps page)
      intro delivered
      cases delivered with
      | error failure => exact conclude_steps failure
      | ok bundle => exact Triple.pure fun _ has => has

end Turn

section Run

variable {s₀ s s' : Crawl σ}

theorem start_steps : Triple (fun _ => True) (start runner request) (fun _ => Steps 1)
    (fun _ _ => True) := by
  have none : ∀ t : Crawl σ, Steps 0 t := fun t => Nat.zero_le _
  apply Triple.bind (Triple.any _ |>.imp (fun _ _ => trivial) (fun _ t _ => none t)
    fun _ _ _ => trivial)
  intro runId
  refine Triple.bind (Q := fun _ => Steps 0) (Triple.modify fun _ _ => none _) ?_
  intro _
  apply Triple.bind (Keeps.lift _).triple
  intro plan
  apply Triple.bind (record_steps _ _ _ _)
  intro _
  exact Triple.pure fun _ many => many

/-- When an attempt begins, at least as many steps are recorded as attempts were made with it. -/
theorem steps_of_reached (reached : Reached runner request s₀ n plan s) : Steps n s := by
  induction reached with
  | first started =>
    have many : Post _ _ (start runner request s₀) := start_steps s₀ trivial
    rwa [started] at many
  | @next n plan plan' s s' errorType reached before failed ih =>
    have many : Post _ _ (attempt runner request plan n s) := attempt_steps s ih
    rwa [failed] at many

/-- The attempt that a returned bundle is from. -/
theorem returned_by {bundle : CrawlResultBundle}
    (returned : run runner request s₀ = (.ok bundle, s')) :
    ∃ n plan s, Reached runner request s₀ n plan s ∧
      attempt runner request plan n s = (.ok (.returned bundle), s') := by
  have parsed : Parsed runner request := by
    by_contra unparsed
    obtain ⟨exc, s₁, raised⟩ := start_raises unparsed s₀
    rw [run_eq_finish, Computation.bind_of_error raised] at returned
    cases returned
  obtain ⟨plan, s, started⟩ := start_total parsed s₀
  obtain ⟨n, plan, s, reached, last⟩ := exists_last_attempt (Reached.first started)
  refine ⟨n, plan, s, reached, ?_⟩
  rcases ended : attempt runner request plan n s with ⟨exc | ⟨made | ⟨errorType, next⟩⟩, s₁⟩
  · rw [run_of_raised reached ended] at returned
    cases returned
  · rw [run_of_returned reached ended] at returned
    cases returned
    rfl
  · rw [run_of_failed reached (last errorType next s₁ ended) ended] at returned
    cases returned

theorem mapTrace_of_map {toolInput : WebReadPageToolInput} {bundle : CrawlResultBundle}
    {result : WebReadPageResult}
    (mapped : mapCrawlResultToWebResult runner.py toolInput bundle = .ok result) :
    result.trace = mapTrace bundle := by
  obtain ⟨auth, _, mapped⟩ := bind_eq_ok.mp mapped
  obtain ⟨browser, _, mapped⟩ := bind_eq_ok.mp mapped
  cases mapped
  rfl

/-- No result gives a true account of its run: the attempts it counts are the steps of the trace,
and there is one before the first attempt. -/
theorem account_false {toolInput : WebReadPageToolInput} {bundle : CrawlResultBundle}
    {result : WebReadPageResult} (returned : run runner request s₀ = (.ok bundle, s'))
    (mapped : mapCrawlResultToWebResult runner.py toolInput bundle = .ok result) :
    ¬ TrueAccount runner request s₀ bundle result := by
  intro account
  obtain ⟨n, plan, s, reached, ended⟩ := returned_by returned
  have many : Post _ _ (attempt runner request plan n s) :=
    attempt_steps s (steps_of_reached reached)
  rw [ended] at many
  obtain ⟨trace, traced, more⟩ := many
  have counted : result.trace.attempts = max 1 trace.steps.length := by
    rw [mapTrace_of_map mapped, mapTrace, traced]
    rfl
  have told := account.attempts n plan s s' reached ended
  omega

end Run

section Sample

def page : WebReadPageToolInput where
  url := "https://example.test/page"

/-- A site whose pages need a browser. -/
def browserOnly : CrawlerRunner Unit :=
  { sampleRunner with
    fetch := fun url plan _ _ => pure
      { info := { url := url, finalUrl := url, transport := plan.transport
                  statusCode := if plan.transport = .http then 500 else 200 }
        html := some "text" } }

/-- The account that is given of a run. -/
def account (r : WebReadPageResult) : ℕ × Option String × Bool :=
  (r.trace.attempts, r.quality.fallbackReason, r.cache.cacheHit)

/-- A first attempt that has an answer, and the result that is made of it. -/
def onlyAttempt : Crawling Unit WebReadPageResult := do
  let plan ← start sampleRunner (toCrawlRequest page)
  match ← attempt sampleRunner (toCrawlRequest page) plan 1 with
  | .returned bundle => Computation.lift (mapCrawlResultToWebResult sampleRunner.py page bundle)
  | .failed _ _ => Computation.raise (typeError "no answer")

theorem onlyAttempt_spec : ∃ plan s bundle s' result,
    start sampleRunner (toCrawlRequest page) emptyCrawl = (.ok plan, s) ∧
      attempt sampleRunner (toCrawlRequest page) plan 1 s = (.ok (.returned bundle), s') ∧
      mapCrawlResultToWebResult sampleRunner.py page bundle = .ok result ∧
      account result = (9, some "run complete", false) := by
  have told : (onlyAttempt emptyCrawl).1.toOption.map account =
      some (9, some "run complete", false) := by decide +kernel
  rcases ran : onlyAttempt emptyCrawl with ⟨exc | result, s''⟩
  · rw [ran] at told
    cases told
  · rw [ran] at told
    obtain ⟨plan, s, started, rest⟩ := Computation.ok_of_bind ran
    obtain ⟨bundle | ⟨errorType, next⟩, s', ended, rest⟩ := Computation.ok_of_bind rest
    · exact ⟨plan, s, bundle, s', result, started, ended, (Computation.ok_of_lift rest).1,
        Option.some.inj told⟩
    · cases rest

theorem account_false_sample : ∃ bundle result,
    ¬ TrueAccount sampleRunner (toCrawlRequest page) emptyCrawl bundle result := by
  obtain ⟨plan, s, bundle, s', result, started, ended, mapped, -⟩ := onlyAttempt_spec
  have returned := run_of_returned (.first started) ended
  exact ⟨bundle, result, account_false returned mapped⟩

theorem one_attempt_counted_as_nine :
    (∃ bundle s' result, run sampleRunner (toCrawlRequest page) emptyCrawl = (.ok bundle, s') ∧
      mapCrawlResultToWebResult sampleRunner.py page bundle = .ok result ∧
      account result = (9, some "run complete", false) ∧
      ¬ TrueAccount sampleRunner (toCrawlRequest page) emptyCrawl bundle result) ∧
    -- the same page again, from the cache; and a page that the second attempt gets
    (arun sampleRunner page (arun sampleRunner page emptyCrawl).2).1.toOption.map account =
      some (2, some "result cache hit", false) ∧
    (arun browserOnly page emptyCrawl).1.toOption.map account =
      some (14, some "run complete", false) := by
  refine ⟨?_, by decide +kernel, by decide +kernel⟩
  obtain ⟨plan, s, bundle, s', result, started, ended, mapped, told⟩ := onlyAttempt_spec
  refine ⟨bundle, s', result, run_of_returned (.first started) ended, mapped, told, ?_⟩
  intro trueAccount
  have one := trueAccount.attempts 1 plan s s' (.first started) ended
  have nine : result.trace.attempts = 9 := congrArg Prod.fst told
  omega

end Sample

end SthBoring.Crawler.RunAccounts
