/- Module: SthBoring/Crawler/BoundedLogin
   source: agent_crawler/fetch/browser_fetcher.py
   digest: The wait for a login ends and tells the truth, and the fetch that waits ends too. -/

import Mathlib.Data.Rat.Floor
import SthBoring.Crawler.LoginReports
import SthBoring.Lib.Fuel
import SthBoring.Lib.RoundingError

set_option autoImplicit false
set_option relaxedAutoImplicit false

namespace SthBoring.Crawler.BoundedLogin

open SthBoring.Crawler.BrowserFetch
open SthBoring.Crawler.BrowserFetch.BrowserFetcher
open SthBoring.Crawler.LoginDetection
open SthBoring.Crawler.LoginReports (loginCall loginSite shownFetcher)
open SthBoring.Lib
open SthBoring.Lib.Binary64 (half_le_round)
open SthBoring.Lib.Effect
open SthBoring.Lib.Fuel
open SthBoring.Lib.PyValue (PyExc)

variable {σ : Type} (fetcher : BrowserFetcher) (m : Machinery σ)

section Turn

/-- One turn of the loop of `_wait_for_interactive_login`, which ends it or goes on with what it has
seen. -/
def pollOnce (page : ℕ) (wait : LoginWait) (last : Sight) :
    Awaiting σ (LoginWaitResult ⊕ Sight) := do
  if deadlineMs fetcher wait ≤ (← nowMs m) then
    return .inl (← loginWaitResult m false "login_wait_timeout" wait last)
  else
    let currentUrl ← observe (m.pageUrl page)
    match ← safePageContent fetcher m page 300 5 with
    | none => do
      m.sleep (intervalS fetcher)
      return .inr last
    | some currentHtml => do
      let density := fetcher.authGate.computeTextDensityScore currentHtml
      let seen : Sight := ⟨currentUrl, density, currentHtml.length⟩
      match ← signOfLogin fetcher m page wait currentUrl currentHtml density with
      | some reason => return .inl (← loginWaitResult m true reason wait seen)
      | none => do
        m.sleep (intervalS fetcher)
        return .inr seen

theorem unrolls_pollLogin (page : ℕ) (wait : LoginWait) :
    Unrolls (fun last polls => pollLogin fetcher m page wait polls last)
      (pollOnce fetcher m page wait) := by
  intro last polls
  dsimp only
  rw [pollLogin, pollOnce, bind_assoc]
  congr 1
  funext now
  split
  · simp only [bind_assoc, pure_bind, Sum.elim_inl]
  · rw [bind_assoc]
    congr 1
    funext currentUrl
    rw [bind_assoc]
    congr 1
    funext content
    cases content with
    | none => simp only [bind_assoc, pure_bind, Sum.elim_inr]
    | some currentHtml =>
      dsimp only
      rw [bind_assoc]
      congr 1
      funext sign
      cases sign with
      | some reason => simp only [bind_assoc, pure_bind, Sum.elim_inl]
      | none => simp only [bind_assoc, pure_bind, Sum.elim_inr]

end Turn

section Clock

/-- The clock has come so far. -/
def Past (clock : σ → ℚ) (t : ℚ) (s : FetcherState σ) : Prop := t ≤ clock s.world

/-- The clock that is read never runs backwards, and a sleep between two polls moves it on. -/
structure Runs (interval : ℚ) (clock : σ → ℚ) (pace : ℚ) : Prop where
  positive : 0 < pace
  reads : ∀ w, (m.monotonic w).1 = clock w
  monotonic : ∀ w, clock w ≤ clock (m.monotonic w).2
  content : ∀ t page, Keeps (Past clock t) (m.content page)
  waitForLoadState : ∀ t page state timeoutMs,
    Keeps (Past clock t) (m.waitForLoadState page state timeoutMs)
  locatorCount : ∀ t page selector, Keeps (Past clock t) (m.locatorCount page selector)
  sleep : ∀ t seconds, Keeps (Past clock t) (m.sleep seconds)
  sleeps : ∀ t, Triple (Past clock t) (m.sleep interval) (fun _ => Past clock (t + pace))
    (fun _ _ => True)

variable {fetcher} {m} {clock : σ → ℚ} {pace t : ℚ}

theorem keeps_draw {α : Type} {f : σ → α × σ} (onward : ∀ w, clock w ≤ clock (f w).2) :
    Keeps (Past clock t) (draw f) :=
  fun s past => le_trans past (onward s.world)

theorem keeps_observe (f : σ → String) : Keeps (Past clock t) (observe f) := Keeps.read _

variable (runs : Runs m (intervalS fetcher) clock pace)

include runs

theorem keeps_nowMs : Keeps (Past clock t) (nowMs m) :=
  Keeps.bind (keeps_draw runs.monotonic) (fun _ => Keeps.pure _)

theorem keeps_loginWaitResult (success : Bool) (reason : String) (wait : LoginWait) (last : Sight) :
    Keeps (Past clock t) (loginWaitResult m success reason wait last) :=
  Keeps.bind (keeps_nowMs runs) (fun _ => Keeps.pure _)

theorem keeps_safePageContent (page retryIntervalMs left : ℕ) :
    Keeps (Past clock t) (safePageContent fetcher m page retryIntervalMs left) := by
  induction left with
  | zero => exact Keeps.pure _
  | succ left ih =>
    rw [safePageContent]
    refine Keeps.bind (Keeps.outcome (runs.content t page)) (fun r => ?_)
    cases r with
    | ok html => exact Keeps.pure _
    | error exc =>
      dsimp only
      split
      · exact Keeps.raise _
      · split
        · exact Keeps.pure _
        · refine Keeps.bind (Keeps.bind (Keeps.outcome ?_) (fun _ => Keeps.pure _)) (fun _ => ?_)
          · exact runs.waitForLoadState t page "domcontentloaded" 1000
          · exact Keeps.bind (runs.sleep t _) (fun _ => ih)

theorem keeps_successSelectorMatches (page : ℕ) (selectors : List String) :
    Keeps (Past clock t) (successSelectorMatches m page selectors) := by
  induction selectors with
  | nil => exact Keeps.pure _
  | cons selector selectors ih =>
    rw [successSelectorMatches]
    refine Keeps.bind (Keeps.outcome (runs.locatorCount t page selector)) (fun r => ?_)
    cases r with
    | ok count =>
      dsimp only
      split
      · exact Keeps.pure _
      · exact ih
    | error exc => exact ih

theorem keeps_signOfLogin (page : ℕ) (wait : LoginWait) (currentUrl currentHtml : String)
    (density : ℚ) :
    Keeps (Past clock t) (signOfLogin fetcher m page wait currentUrl currentHtml density) := by
  rw [signOfLogin]
  dsimp only
  split
  · exact Keeps.pure _
  · refine Keeps.bind (keeps_successSelectorMatches runs page _) (fun found => ?_)
    split
    · exact Keeps.pure _
    · split
      · exact Keeps.pure _
      · split <;> exact Keeps.pure _

/-- From here on the clock reads as past the deadline. -/
def overdue (deadline : ℚ) : ℚ := max 0 (deadline / 500)

/-- A reading is rounded twice, which costs it less than half. -/
theorem reads_overdue {deadline : ℚ} (late : overdue deadline ≤ t) :
    Triple (Past clock t) (nowMs m) (fun now s => deadline ≤ now ∧ Past clock t s)
      (fun _ _ => True) := by
  intro s past
  refine ⟨?_, le_trans past (runs.monotonic s.world)⟩
  rw [runs.reads]
  have reached : overdue deadline ≤ clock s.world := le_trans late past
  have started : 0 ≤ clock s.world := le_trans (le_max_left _ _) reached
  have due : deadline / 500 ≤ clock s.world := le_trans (le_max_right _ _) reached
  have half : clock s.world * 1000 / 2 ≤ Binary64.round (clock s.world * 1000) :=
    half_le_round (by positivity)
  linarith

/-- A turn that goes on began before the deadline, and the clock has moved on since. -/
theorem pollOnce_goes_on (page : ℕ) (wait : LoginWait) (last : Sight) (t : ℚ) :
    Triple (Past clock t) (pollOnce fetcher m page wait last)
      (fun r s => ∀ seen, r = .inr seen →
        t < overdue (deadlineMs fetcher wait) ∧ Past clock (t + pace) s) (fun _ _ => True) := by
  have left : ∀ (success : Bool) (reason : String) (last : Sight) (s : FetcherState σ),
      Post (fun (r : LoginWaitResult ⊕ Sight) s => ∀ seen, r = .inr seen →
        t < overdue (deadlineMs fetcher wait) ∧ Past clock (t + pace) s) (fun _ _ => True)
        ((loginWaitResult m success reason wait last >>= fun r => pure (.inl r)) s) := by
    intro success reason last s
    refine Triple.bind (Triple.any (P := fun _ => True) _) (fun r => Triple.pure ?_) s trivial
    intro _ _ seen other
    cases other
  rw [pollOnce]
  by_cases late : overdue (deadlineMs fetcher wait) ≤ t
  · refine Triple.bind (reads_overdue runs late) (fun now => ?_)
    rintro s ⟨due, -⟩
    rw [if_pos due]
    exact left _ _ _ s
  · have early := not_le.mp late
    refine Triple.bind (keeps_nowMs runs).triple (fun now => ?_)
    split
    · exact fun s _ => left _ _ _ s
    · refine Triple.bind (keeps_observe _).triple (fun currentUrl => ?_)
      refine Triple.bind (keeps_safePageContent runs page 300 5).triple (fun content => ?_)
      cases content with
      | none =>
        refine Triple.bind (runs.sleeps t) (fun _ => Triple.pure ?_)
        exact fun _ past _ _ => ⟨early, past⟩
      | some currentHtml =>
        refine Triple.bind (keeps_signOfLogin runs page wait currentUrl currentHtml _).triple
          (fun sign => ?_)
        cases sign with
        | some reason => exact fun s _ => left _ _ _ s
        | none =>
          refine Triple.bind (runs.sleeps t) (fun _ => Triple.pure ?_)
          exact fun _ past _ _ => ⟨early, past⟩

/-- How many polls there may still be. -/
noncomputable def pollsLeft (clock : σ → ℚ) (pace deadline : ℚ) (s : FetcherState σ) : ℕ :=
  ⌈(overdue deadline - clock s.world) / pace⌉₊

theorem pollsLeft_lt {deadline : ℚ} {s s' : FetcherState σ}
    (early : clock s.world < overdue deadline) (moved : Past clock (clock s.world + pace) s') :
    pollsLeft clock pace deadline s' < pollsLeft clock pace deadline s := by
  have positive := runs.positive
  have some : 0 < (overdue deadline - clock s.world) / pace := div_pos (sub_pos.mpr early) positive
  have less : (overdue deadline - clock s'.world) / pace + 1 ≤
      (overdue deadline - clock s.world) / pace := by
    rw [div_add_one positive.ne']
    have onward : clock s.world + pace ≤ clock s'.world := moved
    gcongr
    linarith
  rw [pollsLeft, pollsLeft, Nat.lt_ceil]
  rcases le_or_gt ((overdue deadline - clock s'.world) / pace) 0 with done | more
  · rw [Nat.ceil_eq_zero.mpr done]
    exact_mod_cast some
  · exact lt_of_lt_of_le (Nat.ceil_lt_add_one more.le) less

theorem halts_pollLogin (page : ℕ) (wait : LoginWait) (last : Sight) :
    Halts (fun polls => pollLogin fetcher m page wait polls last) := by
  refine halts_of_rank (unrolls_pollLogin fetcher m page wait)
    (pollsLeft clock pace (deadlineMs fetcher wait)) (fun last seen s s' turn => ?_) last
  have post := pollOnce_goes_on runs page wait last (clock s.world) s (le_refl _)
  rw [turn] at post
  obtain ⟨early, moved⟩ := post seen rfl
  exact pollsLeft_lt runs early moved

end Clock

section Verdict

/-- What a page shows that counts as logged in. -/
inductive SignOf (fetcher : BrowserFetcher) (wait : LoginWait) (url html : String) (density : ℚ) :
    String → Prop where
  | url (expected : fetcher.authGate.successUrlMatches url = true) :
      SignOf fetcher wait url html density "success_url_pattern"
  | selector : SignOf fetcher wait url html density "success_selector"
  | density (open_ : (fetcher.authGate.detect wait.sourceUrl url html []).loginRequired = false)
      (denser : Binary64.round (wait.beforeDensityScore + double 5 100) < density) :
      SignOf fetcher wait url html density "density_improved_not_login"
  | returned (open_ : (fetcher.authGate.detect wait.sourceUrl url html []).loginRequired = false)
      (back : containsUnquoted wait.sourceUrl url = true)
      (denser : wait.beforeDensityScore < density) :
      SignOf fetcher wait url html density "source_url_returned_not_login"

/-- What the result of a wait tells, in the state it ends in. -/
inductive Verdict (fetcher : BrowserFetcher) (clock : σ → ℚ) (wait : LoginWait) :
    LoginWaitResult → FetcherState σ → Prop where
  | timedOut {last : Sight} {waitedMs : ℚ} {s : FetcherState σ} {t : ℚ} (waited : 0 ≤ waitedMs)
      (late : deadlineMs fetcher wait ≤ Binary64.round (t * 1000)) (past : Past clock t s) :
      Verdict fetcher clock wait ⟨false, "login_wait_timeout", wait.beforeUrl, last.url,
        wait.beforeDensityScore, last.density, waitedMs, last.htmlLen⟩ s
  | loggedIn {url html reason : String} {waitedMs : ℚ} {s : FetcherState σ} (waited : 0 ≤ waitedMs)
      (sign : SignOf fetcher wait url html (fetcher.authGate.computeTextDensityScore html) reason) :
      Verdict fetcher clock wait ⟨true, reason, wait.beforeUrl, url, wait.beforeDensityScore,
        fetcher.authGate.computeTextDensityScore html, waitedMs, html.length⟩ s

variable {fetcher} {m} {clock : σ → ℚ} {pace : ℚ}

theorem signOfLogin_returns (page : ℕ) (wait : LoginWait) (url html : String) (density : ℚ) :
    Returns (fun sign => ∀ reason, sign = some reason → SignOf fetcher wait url html density reason)
      (signOfLogin fetcher m page wait url html density) := by
  rw [signOfLogin]
  dsimp only
  split
  · rename_i expected
    refine Returns.pure (fun reason same => ?_)
    cases same
    exact .url expected
  · refine Returns.bind (fun found => ?_)
    split
    · refine Returns.pure (fun reason same => ?_)
      cases same
      exact .selector
    · split
      · rename_i shown
        simp only [Bool.and_eq_true, Bool.not_eq_true', decide_eq_true_eq] at shown
        refine Returns.pure (fun reason same => ?_)
        cases same
        exact .density shown.1 shown.2
      · split
        · rename_i shown
          simp only [Bool.and_eq_true, Bool.not_eq_true', decide_eq_true_eq] at shown
          refine Returns.pure (fun reason same => ?_)
          cases same
          exact .returned shown.1.2 shown.1.1 shown.2
        · exact Returns.pure (fun reason none => nomatch none)

variable (runs : Runs m (intervalS fetcher) clock pace)

include runs

/-- The result of a wait is made with one more reading of the clock. -/
theorem loginWaitResult_made (success : Bool) (reason : String) (wait : LoginWait) (last : Sight)
    (t : ℚ) : Triple (Past clock t) (loginWaitResult m success reason wait last)
      (fun r s => Past clock t s ∧ ∃ waitedMs, 0 ≤ waitedMs ∧ r = ⟨success, reason, wait.beforeUrl,
        last.url, wait.beforeDensityScore, last.density, waitedMs, last.htmlLen⟩)
      (fun _ _ => True) := by
  rw [loginWaitResult]
  refine Triple.bind (keeps_nowMs runs).triple (fun now => Triple.pure (fun s past => ?_))
  exact ⟨past, _, le_max_left _ _, rfl⟩

theorem pollOnce_verdict (page : ℕ) (wait : LoginWait) (last : Sight) :
    Triple (fun _ => True) (pollOnce fetcher m page wait last)
      (fun r s => r.elim (Verdict fetcher clock wait · s) (fun _ => True)) (fun _ _ => True) := by
  intro s₀ _
  rw [pollOnce]
  have reading : Triple (· = s₀) (nowMs m) (fun now s =>
      now = Binary64.round (clock s₀.world * 1000) ∧ Past clock (clock s₀.world) s)
      (fun _ _ => True) := by
    rintro s rfl
    exact ⟨by rw [← runs.reads], runs.monotonic s.world⟩
  refine Triple.bind reading (fun now => ?_) s₀ rfl
  rintro s ⟨rfl, past⟩
  split
  · rename_i late
    refine Triple.bind (loginWaitResult_made runs false _ wait last _) (fun r => ?_) s past
    rintro s' ⟨past', waitedMs, waited, rfl⟩
    exact .timedOut waited late past'
  · refine Triple.bind (Triple.any (P := fun _ => True) _) (fun currentUrl => ?_) s trivial
    refine Triple.bind (Triple.any _) (fun content => ?_)
    cases content with
    | none =>
      exact Triple.bind (Triple.any (P := fun _ => True) _) (fun _ => Triple.pure (fun _ _ => trivial))
    | some html =>
      refine Triple.bind (signOfLogin_returns page wait currentUrl html _) (fun sign => ?_)
      cases sign with
      | some reason =>
        intro s₁ shown
        refine Triple.bind (loginWaitResult_made runs true reason wait _ (clock s₁.world))
          (fun r => ?_) s₁ (le_refl _)
        rintro s' ⟨-, waitedMs, waited, rfl⟩
        exact .loggedIn waited (shown reason rfl)
      | none =>
        exact Triple.bind (Triple.any _) (fun _ => Triple.pure (fun _ _ => trivial))

/-- Whatever the page does meanwhile, the wait for a login ends, and its result is true: a success
names what the page shows, and a failure comes when the deadline has passed. -/
theorem wait_ends (page : ℕ) (sourceUrl beforeUrl beforeHtml : String) (beforeDensityScore : ℚ)
    (s : FetcherState σ) : ∃ r s',
    Ends (fun polls => waitForInteractiveLogin fetcher m polls page sourceUrl beforeUrl beforeHtml
      beforeDensityScore) s r s' ∧
    ∀ told, r = .ok told → Verdict fetcher clock ⟨sourceUrl, beforeUrl, beforeDensityScore,
      Binary64.round (clock s.world * 1000)⟩ told s' := by
  set wait : LoginWait := ⟨sourceUrl, beforeUrl, beforeDensityScore,
    Binary64.round (clock s.world * 1000)⟩
  set first : Sight := ⟨beforeUrl, beforeDensityScore, beforeHtml.length⟩
  have started : nowMs m s = (.ok wait.startedMs, { s with world := (m.monotonic s.world).2 }) := by
    change (Except.ok (Binary64.round ((m.monotonic s.world).1 * 1000)), _) = _
    rw [runs.reads]
  obtain ⟨r, s', ends⟩ := halts_pollLogin runs page wait first
    { s with world := (m.monotonic s.world).2 }
  have told := ends.post (P := fun _ => True) (fun polls =>
    (unrolls_pollLogin fetcher m page wait).rule (fun _ => rfl) (pollOnce_verdict runs page wait)
      polls first) trivial
  refine ⟨r, s', ?_, told⟩
  obtain ⟨enough, ends⟩ := ends
  refine ⟨enough, fun polls some => ?_⟩
  exact (Computation.bind_of_ok started _).trans (ends polls some)

theorem halts_settleLogin (page : ℕ) (url : String) (asked : Bool) (arrival : Arrival) :
    Halts (fun polls => settleLogin fetcher m polls page url asked arrival) := by
  unfold settleLogin
  dsimp only
  split
  · refine Halts.bind (fun s => ?_) (fun told => ?_)
    · obtain ⟨r, s', ends, -⟩ := wait_ends runs page url arrival.finalUrl arrival.html
        (detect fetcher url arrival).textDensityScore s
      exact ⟨r, s', ends⟩
    · refine Halts.after _ (fun content => ?_)
      cases content with
      | none => exact halts_pure _
      | some html => exact Halts.after _ (fun _ => halts_pure _)
  · exact halts_pure _

theorem halts_visit (call : Call) (started : ℚ) (context page : ℕ) :
    Halts (fun polls => visit fetcher m polls call started context page) := by
  unfold visit
  refine Halts.after _ (fun arrival => Halts.after _ (fun _ => ?_))
  refine Halts.bind (halts_settleLogin runs page call.url _ arrival) (fun settled => ?_)
  refine Halts.after _ (fun used => Halts.after _ (fun unsaved => Halts.after _ (fun now => ?_)))
  exact Halts.after _ (fun response => halts_pure _)

/-- A fetch of the browser ends, however long its user takes to log in. -/
theorem fetch_ends (call : Call) (s : FetcherState σ) : ∃ r s',
    Ends (fun polls => fetch fetcher m polls call) s r s' := by
  revert s
  change Halts (fun polls => fetch fetcher m polls call)
  unfold fetch
  refine Halts.after _ (fun closed => Halts.after _ (fun _ => Halts.after _ (fun started => ?_)))
  refine Halts.after _ (fun _ => Halts.after _ (fun _ => Halts.after _ (fun opened => ?_)))
  obtain ⟨context, page⟩ := opened
  refine Halts.outcome (halts_visit runs call started context page) (fun r => ?_)
  cases r with
  | error exc => exact Halts.after _ (fun _ => halts_raise exc)
  | ok response => exact Halts.after _ (fun _ => halts_pure response)

end Verdict

section Example

/-- The number of waits, as a time. -/
def siteClock (world : ℕ) : ℚ := world

theorem runs_loginSite :
    Runs loginSite (intervalS shownFetcher) siteClock 1 where
  positive := one_pos
  reads := fun _ => rfl
  monotonic := fun _ => le_refl _
  content := fun _ _ => Keeps.read _
  waitForLoadState := fun _ _ _ _ => Keeps.pure _
  locatorCount := fun _ _ _ => Keeps.pure _
  sleep := fun t seconds => Keeps.modify (fun s past => by
    have onward : t ≤ (s.world : ℚ) := past
    change t ≤ ((s.world + 1 : ℕ) : ℚ)
    push_cast
    linarith)
  sleeps := fun t s past => by
    have onward : t ≤ (s.world : ℚ) := past
    change t + 1 ≤ ((s.world + 1 : ℕ) : ℚ)
    push_cast
    linarith

theorem wait_ends_loginSite : ∃ r s',
    Ends (fun polls => waitForInteractiveLogin shownFetcher loginSite polls 0 "https://a.test/"
      "https://a.test/login" "<input type=password>" 0) { world := 0 } r s' ∧
    ∀ told, r = .ok told → Verdict shownFetcher siteClock
      ⟨"https://a.test/", "https://a.test/login", 0,
        Binary64.round (siteClock 0 * 1000)⟩ told s' :=
  wait_ends runs_loginSite 0 "https://a.test/" "https://a.test/login" "<input type=password>" 0
    { world := 0 }

theorem fetch_ends_loginSite : ∃ r s',
    Ends (fun polls => fetch shownFetcher loginSite polls loginCall) { world := 0 } r s' :=
  fetch_ends runs_loginSite loginCall { world := 0 }

end Example

end SthBoring.Crawler.BoundedLogin
