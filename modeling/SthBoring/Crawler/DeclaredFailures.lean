/- Module: SthBoring/Crawler/DeclaredFailures
   source: agent_crawler/loop/runner.py
   digest: A run fails in the declared way exactly when it never comes to something unwritten. -/

import Mathlib.Data.Finset.Card
import Mathlib.Order.Interval.Finset.Nat
import SthBoring.Crawler.AttemptFrames

set_option autoImplicit false
set_option relaxedAutoImplicit false

namespace SthBoring.Crawler.DeclaredFailures

open SthBoring.Crawler.AttemptFrames
open SthBoring.Crawler.Attempts
open SthBoring.Crawler.Models
open SthBoring.Crawler.Policy
open SthBoring.Crawler.Runner
open SthBoring.Lib.Effect (Computation Triple Keeps Total Raises Post)
open SthBoring.Lib.PyValue (PyExc)

variable {σ : Type}

/-- How many different attempts a trace shows. -/
def attemptsMade (trace : TraceInfo) : ℕ :=
  ((trace.steps.map TraceStep.attempt).toFinset.erase 0).card

/-- The last attempt that the run is allowed fails with this error, and so ends the run. -/
def LastFailure (runner : CrawlerRunner σ) (request : CrawlRequest) (s₀ : Crawl σ)
    (errorType : ErrorType) (s' : Crawl σ) : Prop :=
  ∃ plan s plan', Reached runner request s₀ (budget request) plan s ∧
    attempt runner request plan (budget request) s = (.ok (.failed errorType plan'), s')

/-- The run returns a bundle, or raises a `CrawlFailedError` with its trace and the error type of
the last failed attempt, and in any case makes no more attempts than it may. -/
def Declared (runner : CrawlerRunner σ) (request : CrawlRequest) (s₀ : Crawl σ) : Prop :=
  (attemptsMade (run runner request s₀).2.trace : ℤ) ≤ max 1 request.maxAttempts ∧
    ((∃ bundle s', run runner request s₀ = (.ok bundle, s')) ∨
      ∃ errorType s', run runner request s₀ = (.error (.crawlFailed errorType s'.trace), s') ∧
        LastFailure runner request s₀ errorType s')

/-- The URL can be parsed, no attempt is answered from the cache with a bundle that a language
model would have to render, and none gets a page past the quality gate while something is asked
that is not written yet. -/
def StaysWritten (runner : CrawlerRunner σ) (request : CrawlRequest) (s₀ : Crawl σ) : Prop :=
  Parsed runner request ∧ ∀ n plan s, Reached runner request s₀ n plan s →
    (∀ cached s', Hits runner request plan n s cached s' → ¬ LlmPatch request cached) ∧
    ∀ page s', Acquires runner request plan n s (.ok page) s' → ¬ Unwritten runner request plan

section Attempts

variable {runner : CrawlerRunner σ} {request : CrawlRequest}

/-- No step is recorded for an attempt beyond so many. -/
def Bounded (most : ℕ) (s : Crawl σ) : Prop := ∀ step ∈ s.trace.steps, step.attempt ≤ most

theorem aside_bounded {n most : ℕ} (h : n ≤ most) : Aside n (Bounded most (σ := σ)) where
  world _ _ hs := hs
  sessions _ _ hs := hs
  calls _ _ hs := hs
  fallbacks _ _ hs := hs
  addStep s step numbered hs := by
    intro step' mem
    rcases List.mem_append.mp mem with old | new
    · exact hs step' old
    · obtain rfl := List.mem_singleton.mp new
      omega

theorem attempt_keeps_bounded {n most : ℕ} (h : n ≤ most) (plan : CrawlPlan) :
    Keeps (Bounded most) (attempt runner request plan n) := by
  have aside : Aside n (Bounded most (σ := σ)) := aside_bounded h
  exact keeps_attempt aside.beside.framed (fun _ _ hs => hs)

theorem attempts_keep_bounded {most : ℕ} (turns n : ℕ) (h : n + turns ≤ most + 1)
    (plan : CrawlPlan) (last : ErrorType) :
    Keeps (Bounded most) (attempts runner request turns n plan last) := by
  induction turns generalizing n plan last with
  | zero => exact Keeps.pure _
  | succ turns ih =>
    apply Keeps.bind (attempt_keeps_bounded (by omega) plan)
    intro ended
    cases ended with
    | returned bundle => exact Keeps.pure _
    | failed errorType next => exact ih (n + 1) (by omega) next errorType

/-- A run starts with an empty trace. -/
theorem start_bounded (most : ℕ) : Triple (fun _ => True) (start runner request)
    (fun _ => Bounded most) (fun _ => Bounded most) := by
  intro s _
  obtain ⟨runId, s₁, drawn⟩ := draw_total runner.uuid4 s
  have fresh : Bounded most { s₁ with trace := { runId := runId }, calls := [] } := by
    intro step mem
    exact absurd mem List.not_mem_nil
  have planned : Keeps (Bounded most) (do
      let plan ← Computation.lift (buildPlan runner.py runner.domainRegistry request)
      record runner request plan 0 .policy .ok "plan built"
      return plan : Crawling σ CrawlPlan) := by
    apply Keeps.bind (Keeps.lift _)
    intro plan
    exact Keeps.bind (keeps_record (aside_bounded (Nat.zero_le most)).toNoted.framed _ _ _ _)
      (fun _ => Keeps.pure plan)
  rw [start, Computation.bind_of_ok drawn]
  exact planned _ fresh

theorem attemptsMade_le {most : ℕ} {s : Crawl σ} (h : Bounded most s) :
    attemptsMade s.trace ≤ most := by
  have inside : (s.trace.steps.map TraceStep.attempt).toFinset.erase 0 ⊆ Finset.Icc 1 most := by
    intro k hk
    obtain ⟨positive, mem⟩ := Finset.mem_erase.mp hk
    obtain ⟨step, recorded, rfl⟩ := List.mem_map.mp (List.mem_toFinset.mp mem)
    have upper := h step recorded
    rw [Finset.mem_Icc]
    omega
  calc attemptsMade s.trace ≤ (Finset.Icc 1 most).card := Finset.card_le_card inside
    _ = most := by simp

theorem run_bounded (s₀ : Crawl σ) : Bounded (budget request) (run runner request s₀).2 := by
  have looped (plan : CrawlPlan) : Keeps (Bounded (budget request))
      (attempts runner request (budget request) 1 plan .maxAttemptsExceeded) :=
    attempts_keep_bounded _ 1 (by omega) plan _
  have begun : Triple (fun _ => True) (start runner request) (fun _ => Bounded (budget request))
      (fun _ => Bounded (budget request)) := start_bounded (budget request)
  rw [run_eq_finish, finish_snd]
  exact (Triple.bind begun looped s₀ trivial).snd

end Attempts

section Runs

variable {runner : CrawlerRunner σ} {request : CrawlRequest} {s₀ : Crawl σ}

theorem run_makes_no_more (runner : CrawlerRunner σ) (request : CrawlRequest) (s₀ : Crawl σ) :
    (attemptsMade (run runner request s₀).2.trace : ℤ) ≤ max 1 request.maxAttempts := by
  have bound : attemptsMade (run runner request s₀).2.trace ≤ budget request :=
    attemptsMade_le (run_bounded s₀)
  rw [budget] at bound
  omega

/-- What escapes is not what a run declares. -/
theorem not_declared_of_escaped {exc : PyExc} {s' : Crawl σ}
    (h : run runner request s₀ = (.error (.escaped exc), s')) : ¬ Declared runner request s₀ := by
  rintro ⟨_, ⟨bundle, s'', returned⟩ | ⟨errorType, s'', failed, _⟩⟩
  · rw [h] at returned
    cases returned
  · rw [h] at failed
    cases failed

theorem run_escapes_of_not_parsed (h : ¬ Parsed runner request) (s₀ : Crawl σ) :
    ∃ exc s', run runner request s₀ = (.error (.escaped exc), s') := by
  obtain ⟨exc, s', raised⟩ := start_raises h s₀
  refine ⟨exc, s', ?_⟩
  rw [run_eq_finish, Computation.bind_of_error raised]
  rfl

theorem staysWritten_of_declared (h : Declared runner request s₀) :
    StaysWritten runner request s₀ := by
  constructor
  · by_contra unparsed
    obtain ⟨exc, s', escaped⟩ := run_escapes_of_not_parsed unparsed s₀
    exact not_declared_of_escaped escaped h
  · intro n plan s reached
    constructor
    · intro cached s' hit patch
      obtain ⟨exc, s'', raised⟩ := attempt_raises_of_hit hit patch
      exact not_declared_of_escaped (run_of_raised reached raised) h
    · intro page s' passed asked
      obtain ⟨exc, s'', raised⟩ := attempt_raises_of_page asked passed
      exact not_declared_of_escaped (run_of_raised reached raised) h

theorem declared_of_staysWritten (h : StaysWritten runner request s₀) :
    Declared runner request s₀ := by
  obtain ⟨parsed, written⟩ := h
  refine ⟨run_makes_no_more runner request s₀, ?_⟩
  obtain ⟨plan, s, started⟩ := start_total parsed s₀
  obtain ⟨n, plan, s, reached, last⟩ := exists_last_attempt (Reached.first started)
  obtain ⟨noPatch, noAsk⟩ := written n plan s reached
  rcases hits_or_acquires parsed plan n s with ⟨cached, s', hit⟩ | ⟨failure | page, s', got⟩
  · obtain ⟨bundle, s'', returned, _⟩ := attempt_of_hit hit (noPatch cached s' hit)
    exact Or.inl ⟨bundle, s'', run_of_returned reached returned⟩
  · obtain ⟨s'', failed⟩ := attempt_of_failure parsed got
    have lastOne := last _ _ _ failed
    subst lastOne
    exact Or.inr ⟨failure.1, s'', run_of_failed reached rfl failed, plan, s, _, reached, failed⟩
  · obtain ⟨bundle, s'', returned, _⟩ := attempt_of_page parsed (noAsk page s' got) got
    exact Or.inl ⟨bundle, s'', run_of_returned reached returned⟩

end Runs

section Example

def llmRequest : CrawlRequest where
  url := "https://example.test/page"
  render := true
  renderMode := .llm

def isEscape : Except RunFailure CrawlResultBundle → Bool
  | .error (.escaped _) => true
  | _ => false

theorem not_declared_of_isEscape {runner : CrawlerRunner σ} {request : CrawlRequest}
    {s₀ : Crawl σ} (h : isEscape (run runner request s₀).1 = true) :
    ¬ Declared runner request s₀ := by
  rcases ended : run runner request s₀ with ⟨outcome, s'⟩
  rw [ended] at h
  cases outcome with
  | ok bundle => exact absurd h Bool.false_ne_true
  | error failure =>
    cases failure with
    | crawlFailed errorType trace => exact absurd h Bool.false_ne_true
    | escaped exc => exact not_declared_of_escaped ended

end Example

end SthBoring.Crawler.DeclaredFailures
