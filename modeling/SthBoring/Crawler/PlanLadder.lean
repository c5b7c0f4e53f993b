/- Module: SthBoring/Crawler/PlanLadder
   source: agent_crawler/policy/policy.py, agent_crawler/loop/runner.py
   digest: The plans of a run, attempt after attempt. -/

import Mathlib.Logic.Function.Iterate
import SthBoring.Crawler.Attempts

set_option autoImplicit false
set_option relaxedAutoImplicit false

namespace SthBoring.Crawler.PlanLadder

open SthBoring.Crawler.Attempts
open SthBoring.Crawler.Models
open SthBoring.Crawler.Policy
open SthBoring.Crawler.Runner
open SthBoring.Lib.Effect (Computation)
open SthBoring.Lib.PyValue (typeError)

variable {σ : Type} {runner : CrawlerRunner σ} {request : CrawlRequest} {s₀ s : Crawl σ} {n : ℕ}
  {plan : CrawlPlan}

section Ladder

/-- What a plan changes by. -/
def stage (plan : CrawlPlan) : TransportKind × ExtractKind := (plan.transport, plan.extractKind)

/-- The stages after each other. With an adapter to try they never settle. -/
def ladder (adapter : Bool) : ℕ → TransportKind × ExtractKind
  | 0 => (.http, .universal)
  | 1 => if adapter then (.http, .adapter) else (.browser, .universal)
  | 2 => (.browser, if adapter then .universal else .intelligent)
  | k + 3 => (.browser, if adapter ∧ k % 2 = 0 then .adapter else .intelligent)

/-- The rung that a plan falls from, whether it stands on the ladder or not. -/
def rung (plan : CrawlPlan) : ℕ :=
  match named plan.adapterName, plan.transport, plan.extractKind with
  | true, .http, .universal => 0
  | true, .http, _ => 1
  | true, .browser, .universal => 2
  | true, .browser, .adapter => 3
  | true, .browser, .intelligent => 4
  | false, .http, _ => 0
  | false, .browser, .intelligent => 2
  | false, .browser, _ => 1

/-- What `nextPlan` makes of a stage. -/
def nextStage (adapter : Bool) : TransportKind × ExtractKind → TransportKind × ExtractKind
  | (.http, .universal) => if adapter then (.http, .adapter) else (.browser, .universal)
  | (.http, _) => (.browser, .universal)
  | (.browser, .adapter) => (.browser, .intelligent)
  | (.browser, _) => (.browser, if adapter then .adapter else .intelligent)

theorem stage_nextPlan (plan : CrawlPlan) :
    stage (nextPlan plan) = nextStage (named plan.adapterName) (stage plan) := by
  obtain ⟨transport, extractKind, adapterName⟩ := plan
  cases hn : named adapterName <;> cases transport <;> cases extractKind <;>
    simp [stage, nextPlan, updatePlanOnFailure, nextStage, hn]

theorem nextStage_ladder (adapter : Bool) (k : ℕ) :
    nextStage adapter (ladder adapter k) = ladder adapter (k + 1) := by
  match k with
  | 0 => cases adapter <;> rfl
  | 1 => cases adapter <;> rfl
  | 2 => cases adapter <;> rfl
  | k + 3 =>
    cases adapter with
    | false => rfl
    | true =>
      obtain even | odd := Nat.mod_two_eq_zero_or_one k
      · have next : (k + 1) % 2 = 1 := by omega
        simp [ladder, nextStage, even, next]
      · have next : (k + 1) % 2 = 0 := by omega
        simp [ladder, nextStage, odd, next]

theorem nextStage_stage (plan : CrawlPlan) :
    nextStage (named plan.adapterName) (stage plan) =
      ladder (named plan.adapterName) (rung plan + 1) := by
  obtain ⟨transport, extractKind, adapterName⟩ := plan
  cases hn : named adapterName <;> cases transport <;> cases extractKind <;>
    simp [stage, rung, nextStage, ladder, hn]

theorem adapterName_of_sameTerms {p q : CrawlPlan} (same : SameTerms p q) :
    q.adapterName = p.adapterName := by
  rw [same]

/-- The ladder leads to the browser, and not back. -/
theorem ladder_browser (adapter : Bool) {k : ℕ} (high : 2 ≤ k) :
    (ladder adapter k).1 = .browser := by
  obtain ⟨k, rfl⟩ := Nat.exists_eq_add_of_le' high
  cases k <;> rfl

end Ladder

section Run

/-- The plan of an attempt, counted from the plan that the policy builds. -/
structure Climbs (runner : CrawlerRunner σ) (request : CrawlRequest) (n : ℕ) (plan first : CrawlPlan) :
    Prop where
  built : buildPlan runner.py runner.domainRegistry request = .ok first
  terms : SameTerms first plan
  start : n = 1 → plan = first
  stage : 2 ≤ n → stage plan = ladder (named first.adapterName) (rung first + (n - 1))
  browser : first.transport = .browser ∨ 3 ≤ n → plan.transport = .browser

theorem buildPlan_of_start {s' : Crawl σ} (started : Runner.start runner request s₀ = (.ok plan, s')) :
    buildPlan runner.py runner.domainRegistry request = .ok plan := by
  obtain ⟨runId, _, -, rest⟩ := Computation.ok_of_bind started
  obtain ⟨_, _, -, rest⟩ := Computation.ok_of_bind rest
  obtain ⟨built, _, lifted, rest⟩ := Computation.ok_of_bind rest
  obtain ⟨_, _, -, rest⟩ := Computation.ok_of_bind rest
  cases rest
  exact (Computation.ok_of_lift lifted).1

/-- A failed attempt is followed by the next plan. -/
theorem plan_of_failed {errorType : ErrorType} {next : CrawlPlan} {s' : Crawl σ}
    (failed : attempt runner request plan n s = (.ok (.failed errorType next), s')) :
    next = nextPlan plan := by
  have concluded : ∀ {failure : Failure} {t t' : Crawl σ},
      conclude runner request plan n (.error failure) t = (.ok (.failed errorType next), t') →
        next = nextPlan plan := by
    intro failure t t' ended
    obtain ⟨fallen, t'', fell, ended⟩ := Computation.ok_of_bind ended
    cases ended
    obtain ⟨_, _, -, fell⟩ := Computation.ok_of_bind fell
    obtain ⟨_, _, -, fell⟩ := Computation.ok_of_bind fell
    cases fell
    rfl
  obtain ⟨answer, s₁, -, rest⟩ := Computation.ok_of_bind failed
  cases answer with
  | some cached =>
    obtain ⟨bundle, _, -, rest⟩ := Computation.ok_of_bind rest
    cases rest
  | none =>
    obtain ⟨got, s₂, -, rest⟩ := Computation.ok_of_bind rest
    cases got with
    | error failure => exact concluded rest
    | ok page =>
      obtain ⟨delivered, s₃, -, rest⟩ := Computation.ok_of_bind rest
      cases delivered with
      | error failure => exact concluded rest
      | ok bundle => cases rest

/-- The plans of a run climb the ladder, one rung with each attempt, and keep the terms of the first:
from the third attempt on, or where the policy starts with it, the browser fetches. -/
theorem plans_climb (reached : Reached runner request s₀ n plan s) :
    ∃ first, Climbs runner request n plan first := by
  induction reached with
  | @first plan s started =>
    refine ⟨plan, buildPlan_of_start started, SameTerms.refl plan, fun _ => rfl, ?_, ?_⟩
    · intro later
      omega
    · rintro (browser | later)
      · exact browser
      · omega
  | @next n plan plan' s s' errorType before inside failed ih =>
    obtain ⟨first, climbs⟩ := ih
    obtain rfl := plan_of_failed failed
    have some := (run_of_reached before).1
    have climbed : stage (nextPlan plan) = ladder (named first.adapterName) (rung first + n) := by
      rw [stage_nextPlan, adapterName_of_sameTerms climbs.terms]
      by_cases second : n = 1
      · obtain rfl := climbs.start second
        rw [nextStage_stage, second]
      · rw [climbs.stage (by omega), nextStage_ladder, Nat.add_assoc, Nat.sub_add_cancel some]
    refine ⟨first, climbs.built, climbs.terms.trans (sameTerms_nextPlan plan), ?_, ?_, ?_⟩
    · intro start
      omega
    · intro _
      rw [climbed, Nat.add_sub_cancel]
    · intro high
      have second : 2 ≤ rung first + n := by
        rcases high with browser | later
        · have raised : 1 ≤ rung first := by
            unfold rung
            rw [browser]
            cases named first.adapterName <;> cases first.extractKind <;> decide
          omega
        · omega
      exact (congrArg Prod.fst climbed).trans (ladder_browser _ second)

end Run

section Sample

/-- A site that answers nothing. -/
def deadRunner : CrawlerRunner Unit :=
  { sampleRunner with
    fetch := fun url plan _ _ => pure
      { info := { url := url, finalUrl := url, transport := plan.transport, statusCode := 500 }
        html := none } }

def deadRequest : CrawlRequest := { url := "https://example.test/page" }

/-- A first attempt that fails. -/
def firstFailure : Crawling Unit CrawlPlan := do
  let plan ← start deadRunner deadRequest
  match ← attempt deadRunner deadRequest plan 1 with
  | .returned _ => Computation.raise (typeError "an answer")
  | .failed _ next => return next

theorem plans_climb_second : ∃ plan first, Climbs deadRunner deadRequest 2 plan first ∧
    stage plan = (.browser, .universal) := by
  have told : (firstFailure emptyCrawl).1.toOption.map stage = some (.browser, .universal) := by
    decide +kernel
  rcases ran : firstFailure emptyCrawl with ⟨exc | plan, s''⟩
  · rw [ran] at told
    cases told
  · rw [ran] at told
    obtain ⟨built, s, started, rest⟩ := Computation.ok_of_bind ran
    obtain ⟨bundle | ⟨errorType, next⟩, s', ended, rest⟩ := Computation.ok_of_bind rest
    · cases rest
    · cases rest
      obtain ⟨first, climbs⟩ := plans_climb (.next (.first started) (by decide) ended)
      exact ⟨plan, first, climbs, Option.some.inj told⟩

end Sample

end SthBoring.Crawler.PlanLadder
