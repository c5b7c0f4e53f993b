/- Module: SthBoring/WebKit/HostGuard
   source: webkit/fetchers/http.py
   digest: Tasks at the guard of a host, step by step. -/

import Mathlib.Algebra.Order.Ring.Rat
import Mathlib.Tactic.Linarith
import SthBoring.Lib.OrderedDict
import SthBoring.Lib.Runs

set_option autoImplicit false
set_option relaxedAutoImplicit false

namespace SthBoring.WebKit.HostGuard

open SthBoring.Lib.OrderedDict (PyDict)

/-- `asyncio.Semaphore`: an acquisition waits while the counter is zero. -/
structure Semaphore where
  value : ℕ

def Semaphore.acquire (sem : Semaphore) : Option Semaphore :=
  if 0 < sem.value then some { value := sem.value - 1 } else none

def Semaphore.release (sem : Semaphore) : Semaphore := { value := sem.value + 1 }

/-- `asyncio.Lock`: an acquisition waits while it is locked. -/
structure Lock where
  locked : Bool := false

def Lock.acquire (lock : Lock) : Option Lock := if lock.locked then none else some { locked := true }

def Lock.release (_ : Lock) : Lock := { locked := false }

structure HostLimiter where
  maxConc : ℕ := 2
  minInterval : ℚ := 2 / 5

/-- The semaphore, the lock and the next start of one host. -/
structure HostEntry where
  semaphore : Semaphore
  lock : Lock := {}
  nextTime : ℚ := 0

/-- Where a task is in `async with limiter.guard(host)`. -/
inductive Phase where
  | acquiring
  | locking
  | locked
  | sleeping (until' : ℚ)
  | ready
  | inside
  | gone
  deriving DecidableEq

/-- What a task does next, or suffers: `cancel` raises `CancelledError` where the task waits. -/
inductive Action where
  | acquire | lock | check | wake | grant | leave | cancel
  deriving DecidableEq

structure Visit where
  host : String
  phase : Phase

inductive Event where
  | enter (host : String)
  | act (visit : ℕ) (action : Action)
  | passed (seconds : ℚ)

/-- The hosts of the limiter, the visits in the order of their arrival, the clock, and when each
host was granted to somebody. -/
structure State where
  hosts : PyDict String HostEntry := .empty
  visits : List Visit := []
  clock : ℚ
  grants : List (String × ℚ) := []

variable (limiter : HostLimiter)

def newEntry : HostEntry := { semaphore := { value := limiter.maxConc } }

/-- `_get`: what a host has, or gets where it has nothing yet. -/
def get (s : State) (host : String) : HostEntry := (s.hosts.get host).getD (newEntry limiter)

/-- One step of a task that holds what its phase says. The semaphore is released by
`__aexit__`, which a task that is cancelled inside `__aenter__` never reaches; the lock is
released by its own `async with`. -/
def act (clock : ℚ) (entry : HostEntry) : Phase → Action → Option (Phase × HostEntry)
  | .acquiring, .acquire => do
    let sem ← entry.semaphore.acquire
    return (.locking, { entry with semaphore := sem })
  | .locking, .lock => do
    let lock ← entry.lock.acquire
    return (.locked, { entry with lock := lock })
  | .locked, .check =>
    let wait := entry.nextTime - clock
    if 0 < wait then some (.sleeping (clock + wait), entry) else some (.ready, entry)
  | .sleeping until', .wake => if until' ≤ clock then some (.ready, entry) else none
  | .ready, .grant =>
    some (.inside, { entry with nextTime := clock + limiter.minInterval, lock := entry.lock.release })
  | .inside, .leave | .inside, .cancel =>
    some (.gone, { entry with semaphore := entry.semaphore.release })
  | .acquiring, .cancel | .locking, .cancel => some (.gone, entry)
  | .sleeping _, .cancel => some (.gone, { entry with lock := entry.lock.release })
  | _, _ => none

/-- The state once a visit has gone on to a phase and left the entry of its host so. -/
def moved (s : State) (i : ℕ) (visit : Visit) (action : Action) (phase : Phase)
    (entry : HostEntry) : State :=
  { s with
    hosts := s.hosts.set visit.host entry
    visits := s.visits.set i { visit with phase := phase }
    grants := if action = .grant then s.grants ++ [(visit.host, s.clock)] else s.grants }

def step (s : State) : Event → Option State
  | .enter host => some { s with
      hosts := s.hosts.set host (get limiter s host)
      visits := s.visits ++ [{ host := host, phase := .acquiring }] }
  | .act i action => do
    let visit ← s.visits[i]?
    let (phase, entry) ← act limiter s.clock (get limiter s visit.host) visit.phase action
    return moved s i visit action phase entry
  | .passed seconds => if 0 ≤ seconds then some { s with clock := s.clock + seconds } else none

/-- A new limiter, at any time. -/
def Initial (s : State) : Prop := ∃ clock : ℚ, s = { clock := clock }

/-- A run from a new limiter, with the state before each of its events. -/
abbrev Reaches (trace : List (State × Event)) (s : State) : Prop :=
  Lib.Runs.Reaches (step limiter) Initial trace s

section Phases

/-- The task has a permit of its host. -/
def Phase.holds : Phase → Bool
  | .locking | .locked | .sleeping _ | .ready | .inside => true
  | .acquiring | .gone => false

/-- The task has the lock of its host. -/
def Phase.hasLock : Phase → Bool
  | .locked | .sleeping _ | .ready => true
  | .acquiring | .locking | .inside | .gone => false

/-- The task is cancelled while it has a permit and is not inside yet. -/
def losesPermit : Phase → Action → Bool
  | .locking, .cancel | .sleeping _, .cancel => true
  | _, _ => false

def loses (host : String) (s : State) : Event → Bool
  | .act i action =>
    match s.visits[i]? with
    | some visit => visit.host == host && losesPermit visit.phase action
    | none => false
  | _ => false

def losses (host : String) (trace : List (State × Event)) : ℕ :=
  trace.countP fun e => loses host e.1 e.2

/-- How many visits of a host are in a phase of some kind. -/
def count (host : String) (kind : Phase → Bool) (s : State) : ℕ :=
  s.visits.countP fun visit => visit.host == host && kind visit.phase

def Phase.isInside : Phase → Bool
  | .inside => true
  | _ => false

/-- No task is inside or waiting for the host. -/
def Quiet (host : String) (s : State) : Prop := ∀ visit ∈ s.visits, visit.host = host → visit.phase = .gone

def available (s : State) (host : String) : ℕ := (get limiter s host).semaphore.value

def grantTimes (host : String) (s : State) : List ℚ :=
  (s.grants.filter fun g => g.1 == host).map Prod.snd

end Phases

section Entries

variable {limiter} {clock : ℚ} {entry entry' : HostEntry} {phase phase' : Phase} {action : Action}

/-- Everything that a step of a task can be. -/
inductive Moves (limiter : HostLimiter) (clock : ℚ) (entry : HostEntry) :
    Phase → Action → Phase → HostEntry → Prop
  | acquire : 0 < entry.semaphore.value →
      Moves limiter clock entry .acquiring .acquire .locking
        { entry with semaphore := { value := entry.semaphore.value - 1 } }
  | lock : entry.lock.locked = false →
      Moves limiter clock entry .locking .lock .locked { entry with lock := { locked := true } }
  | wait : Moves limiter clock entry .locked .check (.sleeping entry.nextTime) entry
  | due : entry.nextTime ≤ clock → Moves limiter clock entry .locked .check .ready entry
  | wake {until' : ℚ} : until' ≤ clock →
      Moves limiter clock entry (.sleeping until') .wake .ready entry
  | grant : Moves limiter clock entry .ready .grant .inside
      { entry with nextTime := clock + limiter.minInterval, lock := { locked := false } }
  | out {action : Action} : action = .leave ∨ action = .cancel →
      Moves limiter clock entry .inside action .gone
        { entry with semaphore := { value := entry.semaphore.value + 1 } }
  | cancelAcquiring : Moves limiter clock entry .acquiring .cancel .gone entry
  | cancelLocking : Moves limiter clock entry .locking .cancel .gone entry
  | cancelSleeping {until' : ℚ} : Moves limiter clock entry (.sleeping until') .cancel .gone
      { entry with lock := { locked := false } }

theorem moves_of_act (moves : act limiter clock entry phase action = some (phase', entry')) :
    Moves limiter clock entry phase action phase' entry' := by
  unfold act at moves
  split at moves
  · cases taken : entry.semaphore.acquire with
    | none => rw [taken] at moves; cases moves
    | some sem =>
      rw [taken] at moves
      cases moves
      unfold Semaphore.acquire at taken
      split at taken
      · next free =>
        cases taken
        exact .acquire free
      · cases taken
  · cases taken : entry.lock.acquire with
    | none => rw [taken] at moves; cases moves
    | some lock =>
      rw [taken] at moves
      cases moves
      unfold Lock.acquire at taken
      split at taken
      · cases taken
      · next free =>
        cases taken
        exact .lock (Bool.not_eq_true _ ▸ free)
  · dsimp only at moves
    split at moves
    · cases moves
      rw [add_sub_cancel]
      exact .wait
    · next due =>
      cases moves
      exact .due (by linarith)
  · split at moves
    · next due =>
      cases moves
      exact .wake due
    · cases moves
  · cases moves
    exact .grant
  · cases moves
    exact .out (.inl rfl)
  · cases moves
    exact .out (.inr rfl)
  · cases moves
    exact .cancelAcquiring
  · cases moves
    exact .cancelLocking
  · cases moves
    exact .cancelSleeping
  · cases moves

/-- A step takes a permit, gives it back, or loses it. -/
theorem Moves.permits (moves : Moves limiter clock entry phase action phase' entry') :
    entry'.semaphore.value + phase'.holds.toNat + (losesPermit phase action).toNat =
      entry.semaphore.value + phase.holds.toNat := by
  cases moves with
  | acquire free => simp [Phase.holds, losesPermit]; omega
  | out leaves => rcases leaves with rfl | rfl <;> simp [Phase.holds, losesPermit]
  | _ => simp [Phase.holds, losesPermit]

/-- The lock is with whoever took it until he gives it back. -/
theorem Moves.locks (moves : Moves limiter clock entry phase action phase' entry')
    (held : phase.hasLock = true → entry.lock.locked = true) :
    entry'.lock.locked.toNat + phase.hasLock.toNat =
      entry.lock.locked.toNat + phase'.hasLock.toNat := by
  cases moves with
  | lock free => simp [Phase.hasLock, free]
  | grant => simp [Phase.hasLock, held rfl]
  | cancelSleeping => simp [Phase.hasLock, held rfl]
  | _ => simp [Phase.hasLock]

/-- Only a grant sets the next start, and it is made by a task that is ready. -/
theorem Moves.nextTime (moves : Moves limiter clock entry phase action phase' entry') :
    (action ≠ .grant ∧ entry'.nextTime = entry.nextTime) ∨
      (action = .grant ∧ phase = .ready ∧ entry'.nextTime = clock + limiter.minInterval) := by
  cases moves with
  | grant => exact .inr ⟨rfl, rfl, rfl⟩
  | out leaves => rcases leaves with rfl | rfl <;> exact .inl ⟨nofun, rfl⟩
  | _ => exact .inl ⟨nofun, rfl⟩

theorem of_act {s s' : State} {i : ℕ} (stepped : step limiter s (.act i action) = some s') :
    ∃ visit phase' entry', s.visits[i]? = some visit ∧
      Moves limiter s.clock (get limiter s visit.host) visit.phase action phase' entry' ∧
      s' = moved s i visit action phase' entry' := by
  unfold step at stepped
  dsimp only at stepped
  cases found : s.visits[i]? with
  | none => rw [found] at stepped; cases stepped
  | some visit =>
    rw [found] at stepped
    change (do
      let (phase, entry) ← act limiter s.clock (get limiter s visit.host) visit.phase action
      pure (moved s i visit action phase entry)) = some s' at stepped
    cases moves : act limiter s.clock (get limiter s visit.host) visit.phase action with
    | none => rw [moves] at stepped; cases stepped
    | some next =>
      rw [moves] at stepped
      cases stepped
      exact ⟨visit, next.1, next.2, rfl, moves_of_act moves, rfl⟩

end Entries

end SthBoring.WebKit.HostGuard
