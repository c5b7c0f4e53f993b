/- Module: SthBoring/Crawler/AcloseSafety
   source: agent_crawler/fetch/browser_fetcher.py, agent_crawler/fetch/browser_registry.py
   digest: What is left open when a fetcher is closed while it fetches. -/

import SthBoring.Crawler.FetcherTasks

set_option autoImplicit false
set_option relaxedAutoImplicit false

namespace SthBoring.Crawler.AcloseSafety

open SthBoring.Crawler.BrowserRegistry
open SthBoring.Crawler.FetcherTasks

section Timeliness

/-- `close_all` has emptied the registry. -/
def cleared : ClosePoint → Bool
  | .idle | .registryLock => false
  | _ => true

/-- `aclose` has looked for a browser. -/
def looked : ClosePoint → Bool
  | .idle | .registryLock | .closingPages _ _ => false
  | _ => true

/-- A browser that was launched is kept in the fetcher. -/
def launches (s : State) : Event → Bool
  | .resumeFetch task e =>
    match s.points task with
    | .launching _ => e.ok
    | _ => false
  | _ => false

/-- A page is put in the registry. -/
def stores (s : State) : Event → Bool
  | .resumeFetch task e =>
    match s.points task with
    | .registryLock _ => (s.shared.registry.expired e.now).isEmpty
    | .sweeping _ [_] true => true
    | _ => false
  | _ => false

/-- A browser is launched when `aclose` has looked for one, or a page is kept when it has emptied
the registry. -/
def late (s : State) (event : Event) : Bool :=
  (launches s event && looked s.aclose) || (stores s event && cleared s.aclose)

/-- The states of the runs in which no step is late. -/
inductive Timely (setup : Setup) : State → Prop
  | start : Timely setup (start setup)
  | step {s s' : State} {event : Event} : Timely setup s → late s event = false →
      step setup s event = some s' → Timely setup s'

end Timeliness

section Calm

/-- The browsers stay the same, and whatever else is opened is in one of them. -/
structure Calm (sh sh' : Shared) : Prop where
  browser : sh'.browser = sh.browser
  openBrowsers : sh'.openBrowsers = sh.openBrowsers
  contexts : ∀ c ∈ sh'.openContexts, c ∈ sh.openContexts ∨ c.2 ∈ sh.openBrowsers
  pages : ∀ p ∈ sh'.openPages, p ∈ sh.openPages ∨ p.2 ∈ sh.openBrowsers

variable {sh sh' sh'' : Shared}

theorem Calm.of_same (browser : sh'.browser = sh.browser)
    (openBrowsers : sh'.openBrowsers = sh.openBrowsers)
    (contexts : sh'.openContexts = sh.openContexts) (pages : sh'.openPages = sh.openPages) :
    Calm sh sh' where
  browser := browser
  openBrowsers := openBrowsers
  contexts _ hc := Or.inl (contexts ▸ hc)
  pages _ hp := Or.inl (pages ▸ hp)

theorem Calm.trans (h : Calm sh sh') (h' : Calm sh' sh'') : Calm sh sh'' where
  browser := h'.browser.trans h.browser
  openBrowsers := h'.openBrowsers.trans h.openBrowsers
  contexts c hc := by
    rcases h'.contexts c hc with old | inside
    · exact h.contexts c old
    · exact Or.inr (h.openBrowsers ▸ inside)
  pages p hp := by
    rcases h'.pages p hp with old | inside
    · exact h.pages p old
    · exact Or.inr (h.openBrowsers ▸ inside)

/-- What is calm from a state with the same browsers, contexts and pages. -/
theorem Calm.after (h : Calm sh' sh'') (browser : sh'.browser = sh.browser)
    (openBrowsers : sh'.openBrowsers = sh.openBrowsers)
    (contexts : sh'.openContexts = sh.openContexts) (pages : sh'.openPages = sh.openPages) :
    Calm sh sh'' :=
  Calm.trans (Calm.of_same browser openBrowsers contexts pages) h

theorem calm_closePage (sh : Shared) (page : ℕ) : Calm sh (sh.closePage page) :=
  ⟨rfl, rfl, fun _ => Or.inl, fun _ hp => Or.inl (List.mem_of_mem_filter hp)⟩

theorem calm_closeContext (sh : Shared) (context : ℕ) : Calm sh (sh.closeContext context) :=
  ⟨rfl, rfl, fun _ hc => Or.inl (List.mem_of_mem_filter hc), fun _ => Or.inl⟩

theorem calm_newContext {browser : ℕ} (h : browser ∈ sh.openBrowsers) :
    Calm sh (sh.newContext browser) where
  browser := rfl
  openBrowsers := rfl
  contexts c hc := by
    rcases List.mem_cons.mp hc with rfl | old
    · exact Or.inr h
    · exact Or.inl old
  pages _ := Or.inl

theorem calm_newPage {browser : ℕ} (h : browser ∈ sh.openBrowsers) :
    Calm sh (sh.newPage browser) where
  browser := rfl
  openBrowsers := rfl
  contexts _ := Or.inl
  pages p hp := by
    rcases List.mem_cons.mp hp with rfl | old
    · exact Or.inr h
    · exact Or.inl old

theorem calm_failLaunch (sh : Shared) : Calm sh (failLaunch sh).1 := by
  unfold failLaunch
  split_ifs
  · exact Calm.of_same rfl rfl rfl rfl
  · exact Calm.of_same rfl rfl rfl rfl

theorem calm_evictFrom (sh : Shared) (handles : List BrowserPageHandle) :
    Calm sh (evictFrom sh handles).1 := by
  cases handles <;> exact Calm.of_same rfl rfl rfl rfl

theorem calm_sweepFrom (sh : Shared) (registration : Registration) (e : Ending)
    (handles : List BrowserPageHandle) : Calm sh (sweepFrom sh registration e handles).1 := by
  cases handles with
  | nil =>
    exact (calm_evictFrom (store sh registration e) _).after rfl rfl rfl rfl
  | cons handle handles => exact Calm.of_same rfl rfl rfl rfl

end Calm

section Registry

/-- The registry holds no page. -/
def Barren (sh : Shared) : Prop := sh.registry.pages.entries = []

variable {sh : Shared}

theorem barren_remove (h : Barren sh) (pageRef : String) : Barren (sh.remove pageRef) := by
  have kept : (sh.remove pageRef).registry.pages.entries =
      sh.registry.pages.entries.filter (fun entry => entry.1 ≠ pageRef) := rfl
  rw [Barren, kept, h]
  rfl

theorem barren_failLaunch (sh : Shared) (h : Barren sh) : Barren (failLaunch sh).1 := by
  unfold failLaunch
  split_ifs <;> exact h

theorem barren_evictFrom (sh : Shared) (h : Barren sh) (handles : List BrowserPageHandle) :
    Barren (evictFrom sh handles).1 := by
  cases handles with
  | nil => exact h
  | cons handle handles => exact barren_remove h handle.pageRef

theorem barren_sweepFrom (h : Barren sh) (registration : Registration) (e : Ending)
    {handles : List BrowserPageHandle} (expired : handles ≠ []) :
    Barren (sweepFrom sh registration e handles).1 := by
  cases handles with
  | nil => exact absurd rfl expired
  | cons handle handles => exact barren_remove h handle.pageRef

end Registry

section Lock

/-- A fetch at this point holds the lock for the launch of a browser. -/
def holdsLock : Point → Bool
  | .starting _ | .launching _ | .stopping => true
  | _ => false

/-- Who holds the lock for the launch is known, and finds no browser. -/
def HolderOk (sh : Shared) (task : ℕ) (p : Point) : Prop :=
  holdsLock p = true → sh.initLock = some task ∧ sh.browser = none

variable {sh : Shared} {task : ℕ} {next : Shared × Point}

theorem holderOk_of_not {sh : Shared} {task : ℕ} {p : Point} (h : holdsLock p = false) :
    HolderOk sh task p := by
  intro holds
  rw [h] at holds
  exact absurd holds Bool.false_ne_true

theorem evictFrom_lock (sh : Shared) (handles : List BrowserPageHandle) :
    (evictFrom sh handles).1.initLock = sh.initLock ∧ holdsLock (evictFrom sh handles).2 = false := by
  cases handles <;> exact ⟨rfl, rfl⟩

theorem sweepFrom_lock (sh : Shared) (registration : Registration) (e : Ending)
    (handles : List BrowserPageHandle) :
    (sweepFrom sh registration e handles).1.initLock = sh.initLock ∧
      holdsLock (sweepFrom sh registration e handles).2 = false := by
  cases handles with
  | nil => exact evictFrom_lock (store sh registration e) _
  | cons handle handles => exact ⟨rfl, rfl⟩

/-- What a step of a fetch may do to the lock: nothing, take it when it is free, or release it. -/
def LockMoves (task : ℕ) (sh sh' : Shared) : Prop :=
  sh'.initLock = sh.initLock ∨ (sh.initLock = none ∧ sh'.initLock = some task) ∨
    (sh.initLock = some task ∧ sh'.initLock = none)

/-- The fetch does not hold the lock, and does not come to hold it. -/
theorem lock_of_not (unheld : holdsLock next.2 = false) (same : next.1.initLock = sh.initLock) :
    HolderOk next.1 task next.2 ∧ LockMoves task sh next.1 :=
  ⟨holderOk_of_not unheld, Or.inl same⟩

theorem lock_failLaunch (sh : Shared) (held : sh.initLock = some task) (none : sh.browser = none) :
    HolderOk (failLaunch sh).1 task (failLaunch sh).2 ∧ LockMoves task sh (failLaunch sh).1 := by
  unfold failLaunch
  split_ifs
  · exact ⟨fun _ => ⟨held, none⟩, Or.inl rfl⟩
  · exact ⟨holderOk_of_not rfl, Or.inr (Or.inr ⟨held, rfl⟩)⟩

/-- The step of one fetch leaves the lock with another fetch that holds it. -/
theorem LockMoves.other {sh' : Shared} {other : ℕ} (moves : LockMoves task sh sh')
    (ne : other ≠ task) (held : sh.initLock = some other) : sh'.initLock = some other := by
  rcases moves with same | ⟨free, -⟩ | ⟨own, -⟩
  · exact same.trans held
  · rw [held] at free
    cases free
  · rw [held] at own
    exact absurd (Option.some.inj own) ne

end Lock

section Step

/-- What one step of a fetch does to what the tasks share: it opens nothing outside a browser that
is open, unless it launches one, and puts no page in an empty registry, unless it stores one. -/
structure FetchStep (sh : Shared) (task : ℕ) (e : Ending) (p : Point) (next : Shared × Point) :
    Prop where
  calm : (∀ keep, p = .launching keep → e.ok = false) → Calm sh next.1
  barren : Barren sh →
    (∀ registration, p = .registryLock registration → sh.registry.expired e.now ≠ []) →
    (∀ registration handle, p ≠ .sweeping registration [handle] true) → Barren next.1
  lock : HolderOk sh task p → HolderOk next.1 task next.2 ∧ LockMoves task sh next.1

variable {sh : Shared} {setup : Setup} {task : ℕ} {e : Ending} {p : Point}
  {next : Shared × Point}

theorem fetchStep_of_calm (calm : Calm sh next.1) (registry : next.1.registry = sh.registry)
    (initLock : next.1.initLock = sh.initLock) (unheld : holdsLock next.2 = false) :
    FetchStep sh task e p next where
  calm _ := calm
  barren empty _ _ := by
    rw [Barren, registry]
    exact empty
  lock _ := lock_of_not unheld initLock

theorem fetchStep_quiet {sh' : Shared} {p' : Point} (browser : sh'.browser = sh.browser)
    (openBrowsers : sh'.openBrowsers = sh.openBrowsers)
    (contexts : sh'.openContexts = sh.openContexts) (pages : sh'.openPages = sh.openPages)
    (registry : sh'.registry = sh.registry) (initLock : sh'.initLock = sh.initLock)
    (unheld : holdsLock p' = false) : FetchStep sh task e p (sh', p') :=
  fetchStep_of_calm (Calm.of_same browser openBrowsers contexts pages) registry initLock unheld

theorem fetchStep_failLaunch (holds : holdsLock p = true) (started : Bool) :
    FetchStep sh task e p (failLaunch { sh with playwright := started }) where
  calm _ := (calm_failLaunch _).after rfl rfl rfl rfl
  barren empty _ _ := barren_failLaunch { sh with playwright := started } empty
  lock ok := lock_failLaunch { sh with playwright := started } (ok holds).1 (ok holds).2

theorem fetchStep_sweepFrom {sh' : Shared} (calm : Calm sh sh') (registry : sh'.registry = sh.registry)
    (initLock : sh'.initLock = sh.initLock) (registration : Registration)
    {handles : List BrowserPageHandle} (expired :
      (∀ registration, p = .registryLock registration → sh.registry.expired e.now ≠ []) →
      (∀ registration handle, p ≠ .sweeping registration [handle] true) → handles ≠ []) :
    FetchStep sh task e p (sweepFrom sh' registration e handles) where
  calm _ := calm.trans (calm_sweepFrom _ _ _ _)
  barren empty unlocked swept := by
    refine barren_sweepFrom ?_ registration e (expired unlocked swept)
    rw [Barren, registry]
    exact empty
  lock _ := by
    obtain ⟨same, unheld⟩ := sweepFrom_lock sh' registration e handles
    exact lock_of_not unheld (same.trans initLock)

theorem resume_step (h : resume setup sh task e p = some next) : FetchStep sh task e p next := by
  cases p with
  | idle | finished => cases h
  | semaphore keep =>
    simp only [resume] at h
    split_ifs at h
    split at h <;> cases h <;> exact fetchStep_quiet rfl rfl rfl rfl rfl rfl rfl
  | initLock keep =>
    simp only [resume] at h
    split_ifs at h with taken installed
    · have free : sh.initLock = none := not_not.mp taken
      split at h
      · cases h
        exact fetchStep_quiet rfl rfl rfl rfl rfl rfl rfl
      · rename_i none
        cases h
        exact
          { calm := fun _ => Calm.of_same rfl rfl rfl rfl
            barren := fun empty _ _ => empty
            lock := fun _ => ⟨fun _ => ⟨rfl, none⟩, Or.inr (Or.inl ⟨free, rfl⟩)⟩ }
    · split at h <;> cases h <;> exact fetchStep_quiet rfl rfl rfl rfl rfl rfl rfl
  | starting keep =>
    simp only [resume] at h
    split_ifs at h <;> cases h
    · exact fetchStep_failLaunch rfl sh.playwright
    · exact
        { calm := fun _ => Calm.of_same rfl rfl rfl rfl
          barren := fun empty _ _ => empty
          lock := fun ok => ⟨fun _ => ok rfl, Or.inl rfl⟩ }
    · exact fetchStep_failLaunch rfl true
  | launching keep =>
    simp only [resume] at h
    split_ifs at h with launched <;> cases h
    · exact
        { calm := fun unlaunched => absurd launched (by simp [unlaunched keep rfl])
          barren := fun empty _ _ => empty
          lock := fun ok => ⟨holderOk_of_not rfl, Or.inr (Or.inr ⟨(ok rfl).1, rfl⟩)⟩ }
    · exact fetchStep_failLaunch rfl sh.playwright
  | stopping =>
    cases h
    exact
      { calm := fun _ => Calm.of_same rfl rfl rfl rfl
        barren := fun empty _ _ => empty
        lock := fun ok => ⟨holderOk_of_not rfl, Or.inr (Or.inr ⟨(ok rfl).1, rfl⟩)⟩ }
  | creatingContext keep browser =>
    simp only [resume] at h
    split_ifs at h with failed inside bare <;> cases h
    · exact fetchStep_quiet rfl rfl rfl rfl rfl rfl rfl
    · exact fetchStep_of_calm (calm_newContext inside) rfl rfl rfl
    · exact fetchStep_of_calm (calm_newContext inside) rfl rfl rfl
  | routing keep browser context =>
    simp only [resume] at h
    split_ifs at h <;> cases h <;> exact fetchStep_quiet rfl rfl rfl rfl rfl rfl rfl
  | creatingPage keep browser context =>
    simp only [resume] at h
    split_ifs at h with failed inside <;> cases h
    · exact fetchStep_quiet rfl rfl rfl rfl rfl rfl rfl
    · exact fetchStep_of_calm (calm_newPage inside) rfl rfl rfl
  | abandoning context | closingContext context =>
    cases h
    have released : Calm sh (sh.closeContext context).release :=
      (calm_closeContext sh context).trans (Calm.of_same rfl rfl rfl rfl)
    exact fetchStep_of_calm released rfl rfl rfl
  | visiting keep page context =>
    simp only [resume] at h
    split_ifs at h <;> cases h <;> exact fetchStep_quiet rfl rfl rfl rfl rfl rfl rfl
  | registryLock registration =>
    simp only [resume] at h
    split_ifs at h
    cases h
    have locked : Calm sh { sh with registryLocked := true } := Calm.of_same rfl rfl rfl rfl
    exact fetchStep_sweepFrom locked rfl rfl registration
      fun unlocked _ => unlocked registration rfl
  | sweeping registration handles pageClosed =>
    rcases handles with _ | ⟨handle, handles⟩
    · cases h
    · cases pageClosed <;> cases h
      · exact fetchStep_of_calm (calm_closePage sh handle.page) rfl rfl rfl
      · refine fetchStep_sweepFrom (calm_closeContext sh handle.context) rfl rfl registration ?_
        rintro - swept rfl
        exact swept registration handle rfl
  | evicting handles pageClosed =>
    rcases handles with _ | ⟨handle, handles⟩
    · cases h
    · cases pageClosed <;> cases h
      · exact fetchStep_of_calm (calm_closePage sh handle.page) rfl rfl rfl
      · obtain ⟨same, unheld⟩ := evictFrom_lock (sh.closeContext handle.context) handles
        exact
          { calm := fun _ => Calm.trans (calm_closeContext sh handle.context) (calm_evictFrom _ _)
            barren := fun empty _ _ =>
              barren_evictFrom (sh.closeContext handle.context) empty handles
            lock := fun _ => lock_of_not unheld same }
  | closingPage page context =>
    cases h
    exact fetchStep_of_calm (calm_closePage sh page) rfl rfl rfl

end Step

section Invariant

/-- The browser that is open is the fetcher's, and every context and page is in one that is open. -/
structure Sound (sh : Shared) : Prop where
  current : ∀ b ∈ sh.openBrowsers, sh.browser = some b
  contexts : ∀ c ∈ sh.openContexts, c.2 ∈ sh.openBrowsers
  pages : ∀ p ∈ sh.openPages, p.2 ∈ sh.openBrowsers

/-- What `aclose` has already seen to, at each of its points. -/
def CloseOk (sh : Shared) : ClosePoint → Prop
  | .idle | .registryLock => True
  | .closingPages _ _ => Barren sh
  | .closingBrowser browser => Barren sh ∧ sh.browser = some browser
  | .stoppingPlaywright | .finished => Barren sh ∧ sh.browser = none

structure Invariant (s : State) : Prop where
  sound : Sound s.shared
  holders : ∀ task, HolderOk s.shared task (s.points task)
  aclose : CloseOk s.shared s.aclose

variable {sh sh' : Shared}

theorem Sound.calm (sound : Sound sh) (calm : Calm sh sh') : Sound sh' where
  current b hb := by
    rw [calm.openBrowsers] at hb
    exact calm.browser.trans (sound.current b hb)
  contexts c hc := by
    rw [calm.openBrowsers]
    rcases calm.contexts c hc with old | inside
    · exact sound.contexts c old
    · exact inside
  pages p hp := by
    rw [calm.openBrowsers]
    rcases calm.pages p hp with old | inside
    · exact sound.pages p old
    · exact inside

theorem Sound.no_browser (sound : Sound sh) (none : sh.browser = none) : sh.openBrowsers = [] := by
  apply List.eq_nil_iff_forall_not_mem.mpr
  intro b hb
  have current := sound.current b hb
  rw [none] at current
  cases current

theorem Sound.launch (sound : Sound sh) (none : sh.browser = none) : Sound sh.launch where
  current b hb := by
    have only : b ∈ sh.fresh :: sh.openBrowsers := hb
    rw [sound.no_browser none, List.mem_singleton] at only
    exact congrArg some only.symm
  contexts c hc := List.mem_cons_of_mem _ (sound.contexts c hc)
  pages p hp := List.mem_cons_of_mem _ (sound.pages p hp)

theorem Sound.closeBrowser {browser : ℕ} (sound : Sound sh) (own : sh.browser = some browser) :
    Sound { sh.closeBrowser browser with browser := none } where
  current b hb := by
    obtain ⟨isOpen, ne⟩ := List.mem_filter.mp hb
    have current := sound.current b isOpen
    rw [own] at current
    exact absurd (Option.some.inj current).symm (of_decide_eq_true ne)
  contexts c hc := by
    obtain ⟨isOpen, ne⟩ := List.mem_filter.mp hc
    exact List.mem_filter.mpr ⟨sound.contexts c isOpen, ne⟩
  pages p hp := by
    obtain ⟨isOpen, ne⟩ := List.mem_filter.mp hp
    exact List.mem_filter.mpr ⟨sound.pages p isOpen, ne⟩

theorem closeOk_lookForPlaywright (sh : Shared) (barren : Barren sh) (none : sh.browser = none) :
    CloseOk (lookForPlaywright sh).1 (lookForPlaywright sh).2 := by
  unfold lookForPlaywright
  split_ifs
  · exact ⟨barren, none⟩
  · exact ⟨barren, none⟩

theorem closeOk_lookForBrowser (sh : Shared) (barren : Barren sh) :
    CloseOk (lookForBrowser sh).1 (lookForBrowser sh).2 := by
  unfold lookForBrowser
  split
  · rename_i browser own
    exact ⟨barren, own⟩
  · rename_i none
    exact closeOk_lookForPlaywright sh barren none

theorem closeOk_closeFrom (sh : Shared) (barren : Barren sh) (handles : List BrowserPageHandle) :
    CloseOk (closeFrom sh handles).1 (closeFrom sh handles).2 := by
  cases handles with
  | nil => exact closeOk_lookForBrowser { sh with registryLocked := false } barren
  | cons handle handles => exact barren

theorem calm_lookForPlaywright (sh : Shared) : Calm sh (lookForPlaywright sh).1 := by
  unfold lookForPlaywright
  split_ifs <;> exact Calm.of_same rfl rfl rfl rfl

theorem calm_lookForBrowser (sh : Shared) : Calm sh (lookForBrowser sh).1 := by
  unfold lookForBrowser
  split
  · exact Calm.of_same rfl rfl rfl rfl
  · exact calm_lookForPlaywright sh

theorem calm_closeFrom (sh : Shared) (handles : List BrowserPageHandle) :
    Calm sh (closeFrom sh handles).1 := by
  cases handles with
  | nil =>
    exact (calm_lookForBrowser { sh with registryLocked := false }).after rfl rfl rfl rfl
  | cons handle handles => exact Calm.of_same rfl rfl rfl rfl

theorem initLock_lookForPlaywright (sh : Shared) :
    (lookForPlaywright sh).1.initLock = sh.initLock := by
  unfold lookForPlaywright
  split_ifs <;> rfl

theorem initLock_closeFrom (sh : Shared) (handles : List BrowserPageHandle) :
    (closeFrom sh handles).1.initLock = sh.initLock := by
  cases handles with
  | nil =>
    have same := initLock_lookForPlaywright { sh with registryLocked := false }
    simp only [closeFrom, lookForBrowser]
    split
    · rfl
    · exact same
  | cons handle handles => rfl

variable {ok : Bool} {c : ClosePoint} {next : Shared × ClosePoint}

/-- What one step of `aclose` keeps. -/
structure CloseStep (sh : Shared) (next : Shared × ClosePoint) : Prop where
  sound : Sound next.1
  aclose : CloseOk next.1 next.2
  initLock : next.1.initLock = sh.initLock
  browser : sh.browser = none → next.1.browser = none

theorem closeStep_of_calm (sound : Sound sh) (calm : Calm sh next.1) (aclose : CloseOk next.1 next.2)
    (initLock : next.1.initLock = sh.initLock) : CloseStep sh next where
  sound := sound.calm calm
  aclose := aclose
  initLock := initLock
  browser none := calm.browser.trans none

theorem resumeClose_step (h : resumeClose sh ok c = some next) (sound : Sound sh)
    (closing : CloseOk sh c) : CloseStep sh next := by
  cases c with
  | idle | finished => cases h
  | registryLock =>
    simp only [resumeClose] at h
    split_ifs at h
    cases h
    let emptied : Shared := { sh with registryLocked := true, registry := sh.registry.clear }
    have calm : Calm sh (closeFrom emptied sh.registry.pages.values).1 :=
      (calm_closeFrom emptied _).after rfl rfl rfl rfl
    exact closeStep_of_calm sound calm (closeOk_closeFrom emptied rfl _)
      (initLock_closeFrom emptied _)
  | closingPages handles pageClosed =>
    have barren : Barren sh := closing
    rcases handles with _ | ⟨handle, handles⟩
    · cases h
    · cases pageClosed <;> cases h
      · exact closeStep_of_calm sound (calm_closePage sh handle.page) barren rfl
      · have calm := (calm_closeContext sh handle.context).trans
          (calm_closeFrom (sh.closeContext handle.context) handles)
        exact closeStep_of_calm sound calm
          (closeOk_closeFrom (sh.closeContext handle.context) barren handles)
          (initLock_closeFrom (sh.closeContext handle.context) handles)
  | closingBrowser browser =>
    obtain ⟨barren, own⟩ := closing
    let emptied : Shared := { sh.closeBrowser browser with browser := none }
    have after : Sound emptied := sound.closeBrowser own
    simp only [resumeClose] at h
    split_ifs at h <;> cases h
    · exact
        { sound := after.calm (calm_lookForPlaywright emptied)
          aclose := closeOk_lookForPlaywright emptied barren rfl
          initLock := initLock_lookForPlaywright emptied
          browser := fun _ => (calm_lookForPlaywright emptied).browser }
    · exact { sound := after, aclose := ⟨barren, rfl⟩, initLock := rfl, browser := fun _ => rfl }
  | stoppingPlaywright =>
    cases h
    exact closeStep_of_calm sound (Calm.of_same rfl rfl rfl rfl) closing rfl

variable {setup : Setup} {s s' : State}

theorem invariant_start (setup : Setup) : Invariant (start setup) where
  sound := ⟨nofun, nofun, nofun⟩
  holders _ := holderOk_of_not rfl
  aclose := trivial

theorem invariant_withClose {next : Shared × ClosePoint} (inv : Invariant s)
    (step : CloseStep s.shared next) : Invariant (s.withClose next) where
  sound := step.sound
  holders task holds := by
    obtain ⟨held, none⟩ := inv.holders task holds
    exact ⟨step.initLock.trans held, step.browser none⟩
  aclose := step.aclose

/-- The step of one fetch keeps what holds of the others, if it launches no browser or holds the
lock itself. -/
theorem holders_withFetch {task : ℕ} {next : Shared × Point} (inv : Invariant s)
    (own : HolderOk next.1 task next.2) (moves : LockMoves task s.shared next.1)
    (browser : next.1.browser = s.shared.browser ∨ s.shared.initLock = some task) (other : ℕ) :
    HolderOk next.1 other ((s.withFetch task next).points other) := by
  have points : (s.withFetch task next).points = Function.update s.points task next.2 := rfl
  rw [points]
  by_cases same : other = task
  · subst same
    rw [Function.update_self]
    exact own
  · rw [Function.update_of_ne same]
    intro holds
    obtain ⟨held, none⟩ := inv.holders other holds
    refine ⟨moves.other same held, ?_⟩
    rcases browser with kept | locked
    · exact kept.trans none
    · rw [held] at locked
      exact absurd (Option.some.inj locked) same

theorem closeOk_of_not_cleared {sh : Shared} {c : ClosePoint} (h : cleared c = false) :
    CloseOk sh c := by
  cases c with
  | idle | registryLock => exact trivial
  | closingPages | closingBrowser | stoppingPlaywright | finished => cases h

theorem barren_of_cleared {sh : Shared} {c : ClosePoint} (closing : CloseOk sh c)
    (h : cleared c = true) : Barren sh := by
  cases c with
  | idle | registryLock => cases h
  | closingPages => exact closing
  | closingBrowser | stoppingPlaywright | finished => exact closing.1

theorem CloseOk.of_same {sh sh' : Shared} {c : ClosePoint} (closing : CloseOk sh c)
    (barren : Barren sh') (browser : sh'.browser = sh.browser) : CloseOk sh' c := by
  cases c with
  | idle | registryLock => exact trivial
  | closingPages => exact barren
  | closingBrowser | stoppingPlaywright | finished => exact ⟨barren, browser.trans closing.2⟩

theorem invariant_resumeFetch {task : ℕ} {e : Ending} {next : Shared × Point} (inv : Invariant s)
    (inTime : late s (.resumeFetch task e) = false)
    (resumed : resume setup s.shared task e (s.points task) = some next) :
    Invariant (s.withFetch task next) := by
  obtain ⟨launched, stored⟩ := Bool.or_eq_false_iff.mp inTime
  have stepped := resume_step resumed
  obtain ⟨own, moves⟩ := stepped.lock (inv.holders task)
  by_cases launches : ∃ keep, s.points task = .launching keep ∧ e.ok = true
  · obtain ⟨keep, here, ok⟩ := launches
    have unlooked : looked s.aclose = false := by
      simpa [FetcherTasks.step, AcloseSafety.launches, here, ok] using launched
    obtain ⟨held, none⟩ := inv.holders task (by rw [here]; rfl)
    rw [here] at resumed
    simp only [resume, ok, if_true, Option.some.injEq] at resumed
    subst resumed
    refine ⟨inv.sound.launch none, holders_withFetch inv own moves (Or.inr held), ?_⟩
    have closing := inv.aclose
    change CloseOk s.shared.launch s.aclose
    cases here' : s.aclose with
    | idle | registryLock => exact trivial
    | closingPages =>
      rw [here'] at closing
      exact closing
    | closingBrowser | stoppingPlaywright | finished =>
      rw [here'] at unlooked
      cases unlooked
  · have unlaunched : ∀ keep, s.points task = .launching keep → e.ok = false := by
      intro keep here
      exact Bool.eq_false_iff.mpr (fun ok => launches ⟨keep, here, ok⟩)
    have calm := stepped.calm unlaunched
    refine ⟨inv.sound.calm calm, holders_withFetch inv own moves (Or.inl calm.browser), ?_⟩
    change CloseOk next.1 s.aclose
    cases emptied : cleared s.aclose with
    | false => exact closeOk_of_not_cleared emptied
    | true =>
      rw [emptied, Bool.and_true] at stored
      have barren := stepped.barren (barren_of_cleared inv.aclose emptied)
        (fun registration here expired => by
          simp [stores, here, expired] at stored)
        (fun registration handle here => by
          simp [stores, here] at stored)
      exact inv.aclose.of_same barren calm.browser

theorem invariant_step {event : Event} (inv : Invariant s) (inTime : late s event = false)
    (h : step setup s event = some s') : Invariant s' := by
  cases event with
  | callFetch task keep =>
    simp only [step] at h
    split at h
    · cases h
      have unheld : holdsLock (if s.shared.closed = true then .finished else .semaphore keep) =
          false := by
        split_ifs <;> rfl
      have own : HolderOk s.shared task
          (if s.shared.closed = true then .finished else .semaphore keep) := holderOk_of_not unheld
      exact ⟨inv.sound, holders_withFetch inv own (Or.inl rfl) (Or.inl rfl), inv.aclose⟩
    · cases h
  | resumeFetch task e =>
    obtain ⟨next, resumed, rfl⟩ := Option.map_eq_some_iff.mp h
    exact invariant_resumeFetch inv inTime resumed
  | callClose =>
    simp only [step] at h
    split at h
    · cases h
      exact invariant_withClose inv
        { sound := ⟨inv.sound.current, inv.sound.contexts, inv.sound.pages⟩
          aclose := trivial
          initLock := rfl
          browser := id }
    · cases h
  | resumeClose ok =>
    obtain ⟨next, resumed, rfl⟩ := Option.map_eq_some_iff.mp h
    exact invariant_withClose inv (resumeClose_step resumed inv.sound inv.aclose)

theorem invariant_of_timely (h : Timely setup s) : Invariant s := by
  induction h with
  | start => exact invariant_start setup
  | step _ inTime stepped ih => exact invariant_step ih inTime stepped

end Invariant

section Example

/-- A run, unless a step of it is late. -/
def timelyRun (setup : Setup) : State → List Event → Option State
  | s, [] => some s
  | s, event :: events =>
    if late s event then none else (step setup s event).bind (timelyRun setup · events)

theorem timely_of_timelyRun {setup : Setup} {s s' : State} {events : List Event}
    (timely : Timely setup s) (h : timelyRun setup s events = some s') : Timely setup s' := by
  induction events generalizing s with
  | nil =>
    cases h
    exact timely
  | cons event events ih =>
    simp only [timelyRun] at h
    split_ifs at h with isLate
    obtain ⟨s₁, stepped, rest⟩ := Option.bind_eq_some_iff.mp h
    exact ih (timely.step (Bool.eq_false_iff.mpr isLate) stepped) rest

theorem run_of_timelyRun {setup : Setup} {s s' : State} {events : List Event}
    (h : timelyRun setup s events = some s') : run setup s events = some s' := by
  induction events generalizing s with
  | nil => exact h
  | cons event events ih =>
    simp only [timelyRun] at h
    split_ifs at h with isLate
    obtain ⟨s₁, stepped, rest⟩ := Option.bind_eq_some_iff.mp h
    exact Option.bind_eq_some_iff.mpr ⟨s₁, stepped, ih rest⟩

/-- An event of `aclose` or of the first fetch. -/
def ofFirst : Event → Bool
  | .callFetch task _ | .resumeFetch task _ => task = 0
  | .callClose | .resumeClose _ => true

theorem points_of_step {setup : Setup} {s s' : State} {event : Event} (first : ofFirst event = true)
    (h : step setup s event = some s') {other : ℕ} (ne : other ≠ 0) :
    s'.points other = s.points other := by
  cases event with
  | callFetch task keep =>
    obtain rfl : task = 0 := of_decide_eq_true first
    simp only [step] at h
    split at h <;> cases h
    exact Function.update_of_ne ne _ _
  | resumeFetch task e =>
    obtain rfl : task = 0 := of_decide_eq_true first
    obtain ⟨next, -, rfl⟩ := Option.map_eq_some_iff.mp h
    exact Function.update_of_ne ne _ _
  | callClose =>
    simp only [step] at h
    split at h <;> cases h
    rfl
  | resumeClose ok =>
    obtain ⟨next, -, rfl⟩ := Option.map_eq_some_iff.mp h
    rfl

theorem points_of_run {setup : Setup} {s s' : State} {events : List Event}
    (first : ∀ event ∈ events, ofFirst event = true) (h : run setup s events = some s') {other : ℕ}
    (ne : other ≠ 0) : s'.points other = s.points other := by
  induction events generalizing s with
  | nil =>
    cases h
    rfl
  | cons event events ih =>
    obtain ⟨s₁, stepped, rest⟩ := Option.bind_eq_some_iff.mp h
    have later := ih (fun e he => first e (List.mem_cons_of_mem _ he)) rest
    exact later.trans (points_of_step (first event List.mem_cons_self) stepped ne)

/-- `aclose` and the first fetch have come to their end. -/
def firstEnded (s : State) : Bool :=
  match s.aclose, s.points 0 with
  | .finished, .finished => true
  | _, _ => false

theorem quiet_of_firstEnded {setup : Setup} {s : State} {events : List Event}
    (first : ∀ event ∈ events, ofFirst event = true) (h : run setup (start setup) events = some s)
    (ended : firstEnded s = true) : Quiet s := by
  unfold firstEnded at ended
  split at ended
  · rename_i closed finished
    refine ⟨closed, fun task => ?_⟩
    by_cases ne : task = 0
    · subst ne
      exact Or.inr finished
    · exact Or.inl (points_of_run first h ne)
  · cases ended

/-- The first fetch, from its call to the launch of a browser. -/
def untilLaunch : List Event := [.callFetch 0 true, .resumeFetch 0 {}, .resumeFetch 0 {}]

/-- The launch, the context, the page, the visit and the registry. -/
def fromLaunch : List Event := List.replicate 7 (.resumeFetch 0 {})

/-- The fetcher is closed when the fetch is over. -/
def closedAfter : List Event :=
  untilLaunch ++ fromLaunch ++ .callClose :: List.replicate 5 (.resumeClose true)

/-- The fetcher is closed while the fetch waits for Playwright to start. -/
def closedBefore : List Event := untilLaunch ++ [.callClose, .resumeClose true] ++ fromLaunch

end Example

end SthBoring.Crawler.AcloseSafety
