/- Module: SthBoring/Crawler/RegistryHistory
   source: agent_crawler/fetch/browser_registry.py
   digest: What the page registry does over a whole history of calls. -/

import SthBoring.Crawler.BrowserRegistry
import SthBoring.Lib.KeyedDict

set_option autoImplicit false
set_option relaxedAutoImplicit false

namespace SthBoring.Crawler.RegistryHistory

open SthBoring.Crawler.BrowserRegistry
open SthBoring.Lib
open SthBoring.Lib.OrderedDict (PyDict assocGet)

/-- A call of the registry on an object of the browser. -/
inductive BrowserCall
  | closePage (page : ℕ)
  | closeContext (context : ℕ)
deriving DecidableEq

/-- What the registry uses: the clock, which does not go back, the ids drawn by `uuid4`, which
never repeat, and what a call on the browser gives after the calls before it. -/
structure Surroundings where
  time : ℕ → ℚ
  forward : Monotone time
  uuid4 : ℕ → String
  fresh : Function.Injective uuid4
  outcome : List BrowserCall → BrowserCall → Except String Unit

/-- Why a page was closed. -/
inductive Cause
  | expired
  | evicted
  | asked
  | all
deriving DecidableEq

structure Closing where
  handle : BrowserPageHandle
  cause : Cause

/-- The registry, how often the clock was read and an id was drawn, and what has happened: the
pages registered, their accesses with the latest first, the pages closed, and the calls made. -/
structure History where
  registry : BrowserPageRegistry
  readings : ℕ := 0
  drawn : ℕ := 0
  registered : List BrowserPageHandle := []
  accesses : List (String × ℚ) := []
  closings : List Closing := []
  browserCalls : List BrowserCall := []

inductive RegistryCall
  | register (registration : Registration)
  | get (pageRef : String)
  | close (pageRef : String)
  | sweepExpired
  | closeAll

/-- `BrowserPageRegistry(max_open_pages=…, default_ttl_s=…)`. -/
def newRegistry (maxOpenPages defaultTtlS : ℤ) : BrowserPageRegistry where
  maxOpenPages := (max 1 maxOpenPages).toNat
  roomForOne := by omega
  defaultTtlS := defaultTtlS

namespace History

/-- The pages held, in the order of the dict. -/
def held (s : History) : List BrowserPageHandle := s.registry.pages.values

def holds (s : History) (pageRef : String) : Prop := (s.registry.pages.get pageRef).isSome

/-- How often a page was closed. -/
def timesClosed (s : History) (pageRef : String) : ℕ :=
  (s.closings.map fun closing => closing.handle.pageRef).count pageRef

/-- When a page was last accessed: registered, or given by `get`. -/
def lastAccess (s : History) (pageRef : String) : Option ℚ := assocGet pageRef s.accesses

end History

section Calls

variable (py : Surroundings)

/-- `try: await x.close()`, `except Exception: pass`. -/
def attempt (call : BrowserCall) (s : History) : History :=
  let called := { s with browserCalls := s.browserCalls ++ [call] }
  match py.outcome s.browserCalls call with
  | .ok () => called
  | .error _ => called

/-- `_close_handle`. -/
def closeHandle (cause : Cause) (handle : BrowserPageHandle) (s : History) : History :=
  let s := { s with closings := s.closings ++ [⟨handle, cause⟩] }
  attempt py (.closeContext handle.context) (attempt py (.closePage handle.page) s)

/-- `_is_expired`. The clock is read only for a page that can expire. -/
def checkExpired (handle : BrowserPageHandle) (readings : ℕ) : Bool × ℕ :=
  if 0 < handle.ttlS then (isExpired (py.time readings) handle, readings + 1)
  else (false, readings)

/-- The keys of the expired pages. -/
def expiredRefs : List (String × BrowserPageHandle) → ℕ → List String × ℕ
  | [], readings => ([], readings)
  | (pageRef, handle) :: items, readings =>
    let (isOver, readings) := checkExpired py handle readings
    let (pageRefs, readings) := expiredRefs items readings
    (if isOver then pageRef :: pageRefs else pageRefs, readings)

/-- The page is taken out, and closed if there was one. -/
def takeOut (cause : Cause) (s : History) (pageRef : String) : History :=
  match s.registry.pages.get pageRef with
  | none => s
  | some handle => closeHandle py cause handle { s with registry := s.registry.remove pageRef }

def takeOutAll (cause : Cause) (pageRefs : List String) (s : History) : History :=
  pageRefs.foldl (takeOut py cause) s

/-- `_sweep_expired_locked`. -/
def sweepExpired (s : History) : ℕ × History :=
  let (pageRefs, readings) := expiredRefs py s.registry.pages.entries s.readings
  (pageRefs.length, takeOutAll py .expired pageRefs { s with readings := readings })

/-- `_evict_if_needed_locked`. -/
def evictIfNeeded (s : History) : History :=
  takeOutAll py .evicted (s.registry.overflowing.map BrowserPageHandle.pageRef) s

/-- A handle with two new ids; its two times are read one after the other. -/
def newHandle (registration : Registration) (s : History) : BrowserPageHandle :=
  let handle := registration.handle s.registry.defaultTtlS (py.uuid4 s.drawn)
    (py.uuid4 (s.drawn + 1)) (py.time (s.readings + 1))
  { handle with createdAt := py.time s.readings }

/-- `self._pages[handle.page_ref] = handle`. -/
def enter (registration : Registration) (s : History) : History :=
  let handle := newHandle py registration s
  { s with
    registry := s.registry.store handle
    readings := s.readings + 2
    drawn := s.drawn + 2
    registered := s.registered ++ [handle]
    accesses := (handle.pageRef, handle.lastAccessedAt) :: s.accesses }

def register (registration : Registration) (s : History) : BrowserPageHandle × History :=
  let swept := (sweepExpired py s).2
  (newHandle py registration swept, evictIfNeeded py (enter py registration swept))

/-- `handle.last_accessed_at = time.time()`. -/
def touch (handle : BrowserPageHandle) (s : History) : BrowserPageHandle × History :=
  let handle := { handle with lastAccessedAt := py.time s.readings }
  (handle, { s with
    registry := s.registry.store handle
    readings := s.readings + 1
    accesses := (handle.pageRef, handle.lastAccessedAt) :: s.accesses })

def get (pageRef : String) (s : History) : Option BrowserPageHandle × History :=
  match s.registry.pages.get pageRef with
  | none => (none, s)
  | some handle =>
    let (isOver, readings) := checkExpired py handle s.readings
    let s := { s with readings := readings }
    if isOver then (none, takeOut py .expired s pageRef)
    else
      let (handle, s) := touch py handle s
      (some handle, s)

def close (pageRef : String) (s : History) : Bool × History :=
  ((s.registry.pages.get pageRef).isSome, takeOut py .asked s pageRef)

def closeAll (s : History) : History :=
  s.held.foldl (fun s handle => closeHandle py .all handle s)
    { s with registry := s.registry.clear }

def step (s : History) : RegistryCall → History
  | .register registration => (register py registration s).2
  | .get pageRef => (get py pageRef s).2
  | .close pageRef => (close py pageRef s).2
  | .sweepExpired => (sweepExpired py s).2
  | .closeAll => closeAll py s

/-- The calls one after the other, on a new registry. -/
def run (maxOpenPages defaultTtlS : ℤ) (calls : List RegistryCall) : History :=
  calls.foldl (step py) { registry := newRegistry maxOpenPages defaultTtlS }

end Calls

end SthBoring.Crawler.RegistryHistory
