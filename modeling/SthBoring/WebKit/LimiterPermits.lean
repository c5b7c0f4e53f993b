/- Module: SthBoring/WebKit/LimiterPermits
   source: webkit/fetchers/http.py
   digest: What the limiter keeps over any interleaving, and which permits it loses. -/

import SthBoring.WebKit.HostGuard

set_option autoImplicit false
set_option relaxedAutoImplicit false

namespace SthBoring.WebKit.LimiterPermits

open SthBoring.Lib.OrderedDict (PyDict)
open SthBoring.Lib.Runs (run)
open SthBoring.WebKit.HostGuard

variable {limiter : HostLimiter} {s s' : State} {host : String} {i : ℕ} {visit : Visit}
  {action : Action} {phase : Phase} {entry : HostEntry} {trace : List (State × Event)}

section Frames

theorem get_moved : get limiter (moved s i visit action phase entry) host =
    if visit.host = host then entry else get limiter s host := by
  unfold HostGuard.get moved
  dsimp only
  rw [PyDict.get_set]
  split <;> rfl

/-- A host that is entered for the first time gets what it was taken to have. -/
theorem get_entered (visits : List Visit) (other : String) :
    get limiter { s with hosts := s.hosts.set other (get limiter s other), visits := visits } host =
      get limiter s host := by
  unfold HostGuard.get
  dsimp only
  rw [PyDict.get_set]
  split
  · next same =>
    subst same
    rfl
  · rfl

theorem count_entered (kind : Phase → Bool) (other : String) (hosts : PyDict String HostEntry) :
    count host kind { s with hosts := hosts, visits := s.visits ++ [⟨other, .acquiring⟩] } =
      count host kind s + (other == host && kind .acquiring).toNat := by
  unfold count
  rw [List.countP_append, List.countP_singleton]
  cases other == host && kind .acquiring <;> rfl

/-- One visit goes on, and the others stay. -/
theorem count_moved (kind : Phase → Bool) (found : s.visits[i]? = some visit) :
    count host kind (moved s i visit action phase entry) + (visit.host == host && kind visit.phase).toNat =
      count host kind s + (visit.host == host && kind phase).toNat := by
  obtain ⟨bound, here⟩ := List.getElem?_eq_some_iff.mp found
  unfold count moved
  dsimp only
  rw [List.countP_set bound, here]
  have counted : (visit.host == host && kind visit.phase).toNat ≤
      s.visits.countP (fun visit => visit.host == host && kind visit.phase) := by
    cases holds : visit.host == host && kind visit.phase with
    | false => exact Nat.zero_le _
    | true => exact List.countP_pos_iff.mpr ⟨visit, List.mem_of_getElem? found, holds⟩
  have one : ∀ b : Bool, (if b = true then 1 else 0) = b.toNat := fun b => by cases b <;> rfl
  rw [one, one]
  dsimp only
  omega

theorem losses_append (event : Event) :
    losses host (trace ++ [(s, event)]) = losses host trace + (loses host s event).toNat := by
  unfold losses
  rw [List.countP_append, List.countP_singleton]
  cases loses host s event <;> rfl

theorem grantTimes_moved : grantTimes host (moved s i visit action phase entry) =
    grantTimes host s ++ if action = .grant ∧ visit.host = host then [s.clock] else [] := by
  unfold grantTimes moved
  by_cases granted : action = .grant
  · by_cases same : visit.host = host <;> simp [granted, same]
  · simp [granted]

end Frames

section Invariant

/-- A task that is ready, or will be when it wakes, is not before the next start of its host. -/
def Timely (clock : ℚ) (entry : HostEntry) : Phase → Prop
  | .sleeping until' => entry.nextTime ≤ until'
  | .ready => entry.nextTime ≤ clock
  | _ => True

structure Sound (limiter : HostLimiter) (trace : List (State × Event)) (s : State) : Prop where
  permits : ∀ host, available limiter s host + count host Phase.holds s + losses host trace =
    limiter.maxConc
  locks : ∀ host, count host Phase.hasLock s = (get limiter s host).lock.locked.toNat
  timely : ∀ visit ∈ s.visits, Timely s.clock (get limiter s visit.host) visit.phase
  granted : ∀ host, ∀ t ∈ grantTimes host s,
    t ≤ s.clock ∧ t + limiter.minInterval ≤ (get limiter s host).nextTime
  apart : ∀ host, (grantTimes host s).Pairwise fun t t' => t + limiter.minInterval ≤ t'

theorem sound_start (clock : ℚ) : Sound limiter [] { clock := clock } where
  permits _ := rfl
  locks _ := rfl
  timely := by rintro _ ⟨⟩
  granted := by rintro _ _ ⟨⟩
  apart _ := List.Pairwise.nil

theorem sound_enter (sound : Sound limiter trace s) (other : String)
    (stepped : step limiter s (.enter other) = some s') :
    Sound limiter (trace ++ [(s, .enter other)]) s' := by
  cases stepped
  refine ⟨fun host => ?_, fun host => ?_, fun visit mem => ?_, fun host => ?_, sound.apart⟩
  · have before := sound.permits host
    unfold available at before ⊢
    rw [get_entered, count_entered, losses_append]
    simpa [Phase.holds, loses] using before
  · rw [get_entered, count_entered, ← sound.locks host]
    simp [Phase.hasLock]
  · rw [get_entered]
    rcases List.mem_append.mp mem with old | new
    · exact sound.timely visit old
    · rw [List.mem_singleton.mp new]
      trivial
  · intro t mem
    rw [get_entered]
    exact sound.granted host t mem

theorem sound_passed (sound : Sound limiter trace s) (seconds : ℚ)
    (stepped : step limiter s (.passed seconds) = some s') :
    Sound limiter (trace ++ [(s, .passed seconds)]) s' := by
  change (if 0 ≤ seconds then some { s with clock := s.clock + seconds } else none) = some s' at stepped
  split at stepped
  · next later =>
    cases stepped
    refine ⟨fun host => ?_, sound.locks, fun visit mem => ?_, fun host t mem => ?_, sound.apart⟩
    · rw [losses_append]
      exact sound.permits host
    · have before := sound.timely visit mem
      cases phase : visit.phase with
      | sleeping until' =>
        rw [phase] at before
        exact before
      | ready =>
        rw [phase] at before
        exact le_trans before (le_add_of_nonneg_right later)
      | _ => trivial
    · obtain ⟨past, next⟩ := sound.granted host t mem
      exact ⟨le_trans past (le_add_of_nonneg_right later), next⟩
  · cases stepped

theorem timely_of_not_hasLock {clock : ℚ} (free : phase.hasLock = false) :
    Timely clock entry phase := by
  cases phase with
  | sleeping until' => cases free
  | ready => cases free
  | _ => trivial

theorem Timely.moves {clock : ℚ} {phase' : Phase} {entry' : HostEntry}
    (timely : Timely clock entry phase)
    (moves : Moves limiter clock entry phase action phase' entry') : Timely clock entry' phase' := by
  cases moves with
  | wait => exact le_refl entry.nextTime
  | due early => exact early
  | wake early => exact le_trans timely early
  | _ => trivial

/-- The permits of a host are accounted for by its tasks and by those that lost theirs. -/
theorem permits_moved (permits : ∀ host, available limiter s host + count host Phase.holds s +
      losses host trace = limiter.maxConc)
    (found : s.visits[i]? = some visit)
    (moves : Moves limiter s.clock (HostGuard.get limiter s visit.host) visit.phase action phase entry)
    (host : String) :
    available limiter (moved s i visit action phase entry) host +
        count host Phase.holds (moved s i visit action phase entry) +
        losses host (trace ++ [(s, .act i action)]) = limiter.maxConc := by
  have before := permits host
  have balance := moves.permits
  have counted : count host Phase.holds (moved s i visit action phase entry) + _ =
      count host Phase.holds s + _ := count_moved Phase.holds found
  have lost : loses host s (.act i action) =
      (visit.host == host && losesPermit visit.phase action) := by
    rw [loses, found]
  rw [losses_append, lost]
  unfold available at before ⊢
  rw [get_moved]
  by_cases same : visit.host = host
  · subst same
    rw [if_pos rfl]
    simp only [beq_self_eq_true, Bool.true_and] at counted ⊢
    omega
  · rw [if_neg same]
    have other : (visit.host == host) = false := beq_eq_false_iff_ne.mpr same
    simp only [other, Bool.false_and, Bool.toNat_false] at counted ⊢
    omega

theorem locks_moved (locks : ∀ host, count host Phase.hasLock s =
      (HostGuard.get limiter s host).lock.locked.toNat)
    (found : s.visits[i]? = some visit)
    (moves : Moves limiter s.clock (HostGuard.get limiter s visit.host) visit.phase action phase entry)
    (host : String) :
    count host Phase.hasLock (moved s i visit action phase entry) =
      (HostGuard.get limiter (moved s i visit action phase entry) host).lock.locked.toNat := by
  have counted : count host Phase.hasLock (moved s i visit action phase entry) + _ =
      count host Phase.hasLock s + _ := count_moved Phase.hasLock found
  rw [get_moved]
  by_cases same : visit.host = host
  · subst same
    have held : visit.phase.hasLock = true →
        (HostGuard.get limiter s visit.host).lock.locked = true := by
      intro has
      have some' : 0 < count visit.host Phase.hasLock s :=
        List.countP_pos_iff.mpr ⟨visit, List.mem_of_getElem? found, by simp [has]⟩
      by_contra unlocked
      rw [locks visit.host, Bool.eq_false_iff.mpr unlocked] at some'
      exact absurd some' (Nat.lt_irrefl 0)
    have kept := moves.locks held
    have before := locks visit.host
    rw [if_pos rfl]
    simp only [beq_self_eq_true, Bool.true_and] at counted
    omega
  · rw [if_neg same, ← locks host]
    have other : (visit.host == host) = false := beq_eq_false_iff_ne.mpr same
    simp only [other, Bool.false_and, Bool.toNat_false] at counted
    omega

/-- Where nobody has the lock, nobody of that host is ready or asleep. -/
theorem free_of_unlocked (locks : count host Phase.hasLock s =
      (HostGuard.get limiter s host).lock.locked.toNat)
    (unlocked : (HostGuard.get limiter s host).lock.locked = false) {other : Visit}
    (mem : other ∈ s.visits) (here : other.host = host) : other.phase.hasLock = false := by
  rw [unlocked] at locks
  by_contra has
  rw [Bool.not_eq_false] at has
  have some' : 0 < count host Phase.hasLock s :=
    List.countP_pos_iff.mpr ⟨other, mem, by simp [here, has]⟩
  rw [locks] at some'
  exact absurd some' (Nat.lt_irrefl 0)

/-- The lock is given back with a grant, so no other task of the host waits with it. -/
theorem timely_moved (sound : Sound limiter trace s) (found : s.visits[i]? = some visit)
    (moves : Moves limiter s.clock (HostGuard.get limiter s visit.host) visit.phase action phase entry)
    {other : Visit} (mem : other ∈ (moved s i visit action phase entry).visits) :
    Timely (moved s i visit action phase entry).clock
      (HostGuard.get limiter (moved s i visit action phase entry) other.host) other.phase := by
  have own := sound.timely visit (List.mem_of_getElem? found)
  rw [get_moved]
  by_cases same : visit.host = other.host
  · rw [if_pos same]
    rcases List.mem_or_eq_of_mem_set mem with old | rfl
    · rcases moves.nextTime with ⟨-, kept⟩ | ⟨granted, ready, -⟩
      · have before := sound.timely other old
        rw [← same] at before
        unfold Timely at before ⊢
        rw [kept]
        exact before
      · have unlocked : (HostGuard.get limiter (moved s i visit action phase entry)
            other.host).lock.locked = false := by
          rw [get_moved, if_pos same]
          subst granted
          rw [ready] at moves
          cases moves
          rfl
        have locks := locks_moved sound.locks found moves other.host
        exact timely_of_not_hasLock (free_of_unlocked locks unlocked mem rfl)
    · exact own.moves moves
  · rw [if_neg same]
    rcases List.mem_or_eq_of_mem_set mem with old | rfl
    · exact sound.timely other old
    · exact absurd rfl same

theorem granted_moved (sound : Sound limiter trace s)
    (moves : Moves limiter s.clock (HostGuard.get limiter s visit.host) visit.phase action phase entry)
    {t : ℚ} (mem : t ∈ grantTimes host (moved s i visit action phase entry)) :
    t ≤ s.clock ∧ t + limiter.minInterval ≤
      (HostGuard.get limiter (moved s i visit action phase entry) host).nextTime := by
  rw [get_moved]
  rw [grantTimes_moved] at mem
  rcases List.mem_append.mp mem with old | new
  · obtain ⟨past, next⟩ := sound.granted host t old
    refine ⟨past, ?_⟩
    split
    · next same =>
      subst same
      rcases moves.nextTime with ⟨-, kept⟩ | ⟨-, -, set⟩
      · rw [kept]
        exact next
      · rw [set]
        exact add_le_add_left past _
    · exact next
  · split at new
    · next granted =>
      obtain ⟨granted, same⟩ := granted
      obtain rfl : t = s.clock := List.mem_singleton.mp new
      rw [if_pos same]
      rcases moves.nextTime with ⟨not, -⟩ | ⟨-, -, set⟩
      · exact absurd granted not
      · exact ⟨le_refl _, set.ge⟩
    · cases new

theorem sound_act (sound : Sound limiter trace s)
    (stepped : step limiter s (.act i action) = some s') :
    Sound limiter (trace ++ [(s, .act i action)]) s' := by
  obtain ⟨visit, phase, entry, found, moves, rfl⟩ := of_act stepped
  refine ⟨permits_moved sound.permits found moves, locks_moved sound.locks found moves,
    fun other mem => timely_moved sound found moves mem,
    fun host t mem => granted_moved sound moves mem, fun host => ?_⟩
  rw [grantTimes_moved]
  split
  · next granted =>
    obtain ⟨granted, rfl⟩ := granted
    rcases moves.nextTime with ⟨not, -⟩ | ⟨-, ready, -⟩
    · exact absurd granted not
    · have own := sound.timely visit (List.mem_of_getElem? found)
      rw [ready] at own
      refine List.pairwise_append.mpr ⟨sound.apart _, List.pairwise_singleton _ _, ?_⟩
      intro t old t' new
      rw [List.mem_singleton.mp new]
      exact le_trans (sound.granted _ t old).2 own
  · rw [List.append_nil]
    exact sound.apart host

/-- The limiter's account holds in every state that any run reaches. -/
theorem sound_of_reaches (reached : Reaches limiter trace s) : Sound limiter trace s := by
  refine reached.always ?_ fun trace s event s' sound stepped => ?_
  · rintro _ ⟨clock, rfl⟩
    exact sound_start clock
  · cases event with
    | enter host => exact sound_enter sound host stepped
    | act i action => exact sound_act sound stepped
    | passed seconds => exact sound_passed sound seconds stepped

end Invariant

section Permits

theorem count_inside_le (host : String) (s : State) :
    count host Phase.isInside s ≤ count host Phase.holds s := by
  unfold count
  refine List.countP_mono_left fun visit _ inside => ?_
  rw [Bool.and_eq_true] at inside ⊢
  refine ⟨inside.1, ?_⟩
  cases phase : visit.phase with
  | inside => rfl
  | _ =>
    rw [phase] at inside
    cases inside.2

theorem count_of_quiet (quiet : Quiet host s) : count host Phase.holds s = 0 := by
  unfold count
  rw [List.countP_eq_zero]
  intro visit mem counted
  rw [Bool.and_eq_true, beq_iff_eq] at counted
  rw [quiet visit mem counted.1] at counted
  cases counted.2

/-- One task goes in, and out again. -/
def visitEvents : List Event :=
  [.enter "example.org", .act 0 .acquire, .act 0 .lock, .act 0 .check, .act 0 .grant, .act 0 .leave]

/-- A second task that comes too early, and is cancelled while it waits for its turn. -/
def cancelledEvents : List Event :=
  [.enter "example.org", .act 1 .acquire, .act 1 .lock, .act 1 .check, .act 1 .cancel]

instance (host : String) (s : State) : Decidable (Quiet host s) :=
  inferInstanceAs (Decidable (∀ visit ∈ s.visits, _))

end Permits

end SthBoring.WebKit.LimiterPermits
