/- Module: SthBoring/Crawler/FetcherTasks
   source: agent_crawler/fetch/browser_fetcher.py, agent_crawler/fetch/browser_registry.py
   digest: The tasks of a browser fetcher, from one await to the next. -/

import Mathlib.Logic.Function.Basic
import SthBoring.Crawler.BrowserFetch

set_option autoImplicit false
set_option relaxedAutoImplicit false

namespace SthBoring.Crawler.FetcherTasks

open SthBoring.Crawler.BrowserFetch (BrowserFetcherConfig)
open SthBoring.Crawler.BrowserRegistry

/-- The configuration, and what Playwright has to offer for it. -/
structure Setup where
  config : BrowserFetcherConfig := {}
  installed : Bool := true
  hasBrowserType : Bool := true

/-- The fetcher's fields, with the browsers, contexts and pages that are open. A context and a page
are kept with the browser they are in. -/
structure Shared where
  closed : Bool := false
  permits : ℕ
  initLock : Option ℕ := none
  playwright : Bool := false
  browser : Option ℕ := none
  registry : BrowserPageRegistry := {}
  registryLocked : Bool := false
  openBrowsers : List ℕ := []
  openContexts : List (ℕ × ℕ) := []
  openPages : List (ℕ × ℕ) := []
  fresh : ℕ := 0

namespace Shared

variable (sh : Shared)

def release : Shared := { sh with permits := sh.permits + 1 }

def closePage (page : ℕ) : Shared :=
  { sh with openPages := sh.openPages.filter (fun p => p.1 ≠ page) }

def closeContext (context : ℕ) : Shared :=
  { sh with openContexts := sh.openContexts.filter (fun c => c.1 ≠ context) }

/-- Closing a browser closes its contexts and pages. -/
def closeBrowser (browser : ℕ) : Shared :=
  { sh with
    openBrowsers := sh.openBrowsers.filter (· ≠ browser)
    openContexts := sh.openContexts.filter (fun c => c.2 ≠ browser)
    openPages := sh.openPages.filter (fun p => p.2 ≠ browser) }

/-- A browser is launched and kept in the fetcher. -/
def launch : Shared :=
  { sh with
    browser := some sh.fresh
    initLock := none
    openBrowsers := sh.fresh :: sh.openBrowsers
    fresh := sh.fresh + 1 }

def newContext (browser : ℕ) : Shared :=
  { sh with openContexts := (sh.fresh, browser) :: sh.openContexts, fresh := sh.fresh + 1 }

def newPage (browser : ℕ) : Shared :=
  { sh with openPages := (sh.fresh, browser) :: sh.openPages, fresh := sh.fresh + 1 }

def remove (pageRef : String) : Shared := { sh with registry := sh.registry.remove pageRef }

end Shared

/-- Where a fetch is suspended. -/
inductive Point where
  | idle
  | semaphore (keep : Bool)
  | initLock (keep : Bool)
  | starting (keep : Bool)
  | launching (keep : Bool)
  | stopping
  | creatingContext (keep : Bool) (browser : ℕ)
  | routing (keep : Bool) (browser context : ℕ)
  | creatingPage (keep : Bool) (browser context : ℕ)
  | abandoning (context : ℕ)
  | visiting (keep : Bool) (page context : ℕ)
  | registryLock (registration : Registration)
  | sweeping (registration : Registration) (handles : List BrowserPageHandle) (pageClosed : Bool)
  | evicting (handles : List BrowserPageHandle) (pageClosed : Bool)
  | closingPage (page context : ℕ)
  | closingContext (context : ℕ)
  | finished

/-- How what a task awaits comes to an end, with the time and the identifiers that the task sees
then, and what a visit has found. -/
structure Ending where
  ok : Bool := true
  now : ℚ := 0
  pageId : String := ""
  contextId : String := ""
  url : String := ""
  finalUrl : String := ""

section Fetch

variable (setup : Setup) (sh : Shared)

/-- The fetch ends, with a result or an exception. -/
def finish : Shared × Point := (sh.release, .finished)

/-- A launch that failed stops the Playwright it has started. -/
def failLaunch : Shared × Point :=
  if sh.playwright then (sh, .stopping) else finish { sh with initLock := none }

/-- `_evict_if_needed_locked` from a page on, and the end of the fetch. -/
def evictFrom : List BrowserPageHandle → Shared × Point
  | [] => finish { sh with registryLocked := false }
  | handle :: handles => (sh.remove handle.pageRef, .evicting (handle :: handles) false)

def store (registration : Registration) (e : Ending) : Shared :=
  let handle := registration.handle sh.registry.defaultTtlS e.pageId e.contextId e.now
  { sh with registry := sh.registry.store handle }

/-- `_sweep_expired_locked` from a page on, and what follows in `register`. -/
def sweepFrom (registration : Registration) (e : Ending) : List BrowserPageHandle → Shared × Point
  | [] => evictFrom (store sh registration e) (store sh registration e).registry.overflowing
  | handle :: handles =>
    (sh.remove handle.pageRef, .sweeping registration (handle :: handles) false)

/-- `fetch` of a task, from one await to the next. -/
def resume (task : ℕ) (e : Ending) : Point → Option (Shared × Point)
  | .idle | .finished => none
  | .semaphore keep =>
    if sh.permits = 0 then none
    else
      let sh := { sh with permits := sh.permits - 1 }
      match sh.browser with
      | some browser => some (sh, .creatingContext keep browser)
      | none => some (sh, .initLock keep)
  | .initLock keep =>
    if sh.initLock ≠ none then none
    else
      match sh.browser with
      | some browser => some (sh, .creatingContext keep browser)
      | none =>
        if setup.installed then some ({ sh with initLock := some task }, .starting keep)
        else some (finish sh)
  | .starting keep =>
    if !e.ok then some (failLaunch sh)
    else if setup.hasBrowserType then some ({ sh with playwright := true }, .launching keep)
    else some (failLaunch { sh with playwright := true })
  | .launching keep =>
    if e.ok then some (sh.launch, .creatingContext keep sh.fresh) else some (failLaunch sh)
  | .stopping => some (finish { sh with playwright := false, initLock := none })
  | .creatingContext keep browser =>
    if !e.ok then some (finish sh)
    -- a browser that is closed opens no context
    else if browser ∈ sh.openBrowsers then
      if setup.config.blockResourceTypes = [] then
        some (sh.newContext browser, .creatingPage keep browser sh.fresh)
      else some (sh.newContext browser, .routing keep browser sh.fresh)
    else none
  | .routing keep browser context =>
    if e.ok then some (sh, .creatingPage keep browser context) else some (sh, .abandoning context)
  | .creatingPage keep browser context =>
    if !e.ok then some (sh, .abandoning context)
    else if browser ∈ sh.openBrowsers then
      some (sh.newPage browser, .visiting keep sh.fresh context)
    else none
  | .abandoning context => some (finish (sh.closeContext context))
  | .visiting keep page context =>
    if e.ok && keep then
      some (sh, .registryLock
        { page := page, context := context, url := e.url, finalUrl := e.finalUrl,
          ttlS := some setup.config.pageTtlS })
    else some (sh, .closingPage page context)
  | .registryLock registration =>
    if sh.registryLocked then none
    else some (sweepFrom { sh with registryLocked := true } registration e
      (sh.registry.expired e.now))
  | .sweeping _ [] _ | .evicting [] _ => none
  | .sweeping registration (handle :: handles) false =>
    some (sh.closePage handle.page, .sweeping registration (handle :: handles) true)
  | .sweeping registration (handle :: handles) true =>
    some (sweepFrom (sh.closeContext handle.context) registration e handles)
  | .evicting (handle :: handles) false =>
    some (sh.closePage handle.page, .evicting (handle :: handles) true)
  | .evicting (handle :: handles) true =>
    some (evictFrom (sh.closeContext handle.context) handles)
  | .closingPage page context => some (sh.closePage page, .closingContext context)
  | .closingContext context => some (finish (sh.closeContext context))

end Fetch

/-- Where `aclose` is suspended. -/
inductive ClosePoint where
  | idle
  | registryLock
  | closingPages (handles : List BrowserPageHandle) (pageClosed : Bool)
  | closingBrowser (browser : ℕ)
  | stoppingPlaywright
  | finished

section Close

variable (sh : Shared)

def lookForPlaywright : Shared × ClosePoint :=
  if sh.playwright then (sh, .stoppingPlaywright) else (sh, .finished)

def lookForBrowser : Shared × ClosePoint :=
  match sh.browser with
  | some browser => (sh, .closingBrowser browser)
  | none => lookForPlaywright sh

/-- `close_all` from a page on, and what follows in `aclose`. -/
def closeFrom : List BrowserPageHandle → Shared × ClosePoint
  | [] => lookForBrowser { sh with registryLocked := false }
  | handle :: handles => (sh, .closingPages (handle :: handles) false)

/-- `aclose`, from one await to the next. -/
def resumeClose (ok : Bool) : ClosePoint → Option (Shared × ClosePoint)
  | .idle | .finished | .closingPages [] _ => none
  | .registryLock =>
    if sh.registryLocked then none
    else some (closeFrom { sh with registryLocked := true, registry := sh.registry.clear }
      sh.registry.pages.values)
  | .closingPages (handle :: handles) false =>
    some (sh.closePage handle.page, .closingPages (handle :: handles) true)
  | .closingPages (handle :: handles) true =>
    some (closeFrom (sh.closeContext handle.context) handles)
  | .closingBrowser browser =>
    let sh := { sh.closeBrowser browser with browser := none }
    if ok then some (lookForPlaywright sh) else some (sh, .finished)
  | .stoppingPlaywright => some ({ sh with playwright := false }, .finished)

end Close

/-- The tasks of a fetcher. Any number of fetches may have been called. -/
structure State where
  shared : Shared
  points : ℕ → Point := fun _ => .idle
  aclose : ClosePoint := .idle

/-- A task is called, or goes on. -/
inductive Event where
  | callFetch (task : ℕ) (keep : Bool)
  | resumeFetch (task : ℕ) (e : Ending)
  | callClose
  | resumeClose (ok : Bool)

namespace State

variable (s : State)

def withFetch (task : ℕ) (next : Shared × Point) : State :=
  { s with shared := next.1, points := Function.update s.points task next.2 }

def withClose (next : Shared × ClosePoint) : State :=
  { s with shared := next.1, aclose := next.2 }

end State

/-- Any waiting task may be the one that goes on. -/
def step (setup : Setup) (s : State) : Event → Option State
  | .callFetch task keep =>
    match s.points task with
    | .idle => some (s.withFetch task
        (s.shared, if s.shared.closed then .finished else .semaphore keep))
    | _ => none
  | .resumeFetch task e => (resume setup s.shared task e (s.points task)).map (s.withFetch task)
  | .callClose =>
    match s.aclose with
    | .idle => some (s.withClose ({ s.shared with closed := true }, .registryLock))
    | _ => none
  | .resumeClose ok => (resumeClose s.shared ok s.aclose).map s.withClose

def run (setup : Setup) : State → List Event → Option State
  | s, [] => some s
  | s, event :: events => (step setup s event).bind (run setup · events)

/-- A new fetcher. -/
def start (setup : Setup) : State where
  shared :=
    { permits := (max 1 setup.config.maxConcurrency).toNat
      registry :=
        { maxOpenPages := (max 1 setup.config.maxOpenPages).toNat
          roomForOne := by omega
          defaultTtlS := setup.config.pageTtlS } }

/-- `aclose` has been called, and all that was called has come to its end. -/
structure Quiet (s : State) : Prop where
  aclose : s.aclose = .finished
  fetches : ∀ task, s.points task = .idle ∨ s.points task = .finished

/-- Nothing is open, and the registry is empty. -/
structure Clean (s : State) : Prop where
  browsers : s.shared.openBrowsers = []
  contexts : s.shared.openContexts = []
  pages : s.shared.openPages = []
  registry : s.shared.registry.pages.entries = []

end SthBoring.Crawler.FetcherTasks
