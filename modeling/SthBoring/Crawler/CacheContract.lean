/- Module: SthBoring/Crawler/CacheContract
   source: agent_crawler/fetch/result_cache.py
   digest: What the result cache gives, told from the history of its operations. -/

import SthBoring.Crawler.Caching
import SthBoring.Lib.RecentUse

set_option autoImplicit false
set_option relaxedAutoImplicit false

namespace SthBoring.Crawler.CacheContract

open SthBoring.Crawler.Caching
open SthBoring.Crawler.Models
open SthBoring.Lib
open SthBoring.Lib.OrderedDict (PyDict)
open SthBoring.Lib.RecentUse

/-- `time.time()` at operation after operation. -/
structure Clock where
  time : ℕ → ℚ
  forward : Monotone time

inductive Operation
  | put (key : String) (bundle : CrawlResultBundle) (ttlS : Option ℚ)
  | get (key : String)
  | clear

/-- A cache, how many operations it has seen, and what was put, read or cleared, the latest
first. -/
structure Trace where
  cache : ResultCache
  done : ℕ := 0
  past : List (Event String CacheEntry) := []

section Runs

variable (clock : Clock)

def step (s : Trace) : Operation → Trace
  | .put key bundle ttlS =>
    let now := clock.time s.done
    let entry := ⟨bundle, Binary64.round (now + ttlS.getD s.cache.ttlS)⟩
    { cache := s.cache.put now key bundle ttlS
      done := s.done + 1
      past := .put key entry :: s.past }
  | .get key =>
    let (reply, cache) := s.cache.get (clock.time s.done) key
    { cache := cache
      done := s.done + 1
      past := if reply.isSome then .used key :: s.past else s.past }
  | .clear =>
    { cache := s.cache.clear
      done := s.done + 1
      past := .cleared :: s.past }

/-- The operations one after the other, on a new cache. -/
def run (ttlS : ℚ) (maxEntries : ℕ) (operations : List Operation) : Trace :=
  operations.foldl (step clock) { cache := { ttlS := ttlS, maxEntries := maxEntries } }

end Runs

section Contract

variable {clock : Clock} {maxEntries : ℕ} {s : Trace}

/-- The invariant: the cache is in the order of use, and lacks only what is past its expiry or was
not used for too long. -/
structure Sound (clock : Clock) (maxEntries : ℕ) (s : Trace) : Prop where
  limit : s.cache.maxEntries = maxEntries
  reflects : Reflects (fun entry => entry.expiresAt < clock.time s.done) maxEntries
    s.cache.items s.past

/-- What is past its expiry stays so. -/
theorem Sound.next (sound : Sound clock maxEntries s) :
    Reflects (fun entry => entry.expiresAt < clock.time (s.done + 1)) maxEntries
      s.cache.items s.past :=
  sound.reflects.imp fun _ old => old.trans_le (clock.forward (Nat.le_succ s.done))

theorem get_cases (cache : ResultCache) (now : ℚ) (key : String) :
    (cache.items.get key = none ∧ cache.get now key = (none, cache)) ∨
      ∃ entry, cache.items.get key = some entry ∧
        ((entry.expiresAt < now ∧
            cache.get now key = (none, { cache with items := cache.items.pop key })) ∨
          (now ≤ entry.expiresAt ∧ cache.get now key =
            (some entry.bundle, { cache with items := cache.items.moveToEnd key }))) := by
  unfold ResultCache.get
  cases found : cache.items.get key with
  | none => exact Or.inl ⟨rfl, rfl⟩
  | some entry =>
    refine Or.inr ⟨entry, rfl, ?_⟩
    by_cases old : entry.expiresAt < now
    · exact Or.inl ⟨old, by simp only [if_pos old]⟩
    · exact Or.inr ⟨not_lt.mp old, by simp only [if_neg old]⟩

theorem sound_step (sound : Sound clock maxEntries s) (operation : Operation) :
    Sound clock maxEntries (step clock s operation) := by
  cases operation with
  | put key bundle ttlS =>
    refine ⟨sound.limit, ?_⟩
    have kept := sound.next.put key
      (⟨bundle, Binary64.round (clock.time s.done + ttlS.getD s.cache.ttlS)⟩ : CacheEntry)
    rw [← sound.limit] at kept ⊢
    exact kept
  | get key =>
    rcases get_cases s.cache (clock.time s.done) key with
      ⟨-, missed⟩ | ⟨entry, found, ⟨old, dropped⟩ | ⟨fresh, hit⟩⟩
    · simp only [step, missed]
      exact ⟨sound.limit, sound.next⟩
    · simp only [step, dropped]
      exact ⟨sound.limit, sound.next.pop found (old.trans_le (clock.forward (Nat.le_succ _)))⟩
    · simp only [step, hit]
      exact ⟨sound.limit, sound.next.used found⟩
  | clear => exact ⟨sound.limit, Reflects.cleared _ _ _⟩

theorem sound_run (clock : Clock) (ttlS : ℚ) (maxEntries : ℕ) (operations : List Operation) :
    Sound clock maxEntries (run clock ttlS maxEntries operations) := by
  induction operations using List.reverseRecOn with
  | nil => exact ⟨rfl, Reflects.empty _ _⟩
  | append_singleton operations operation ih =>
    rw [run, List.foldl_append]
    exact sound_step ih operation

end Contract

/-- **The result cache.** After any operations it holds no more than it may, a bundle it gives is
the one that was put last under the key, not cleared since and not past its expiry, and such a
bundle is given whenever fewer other keys than it may hold were put or read since. -/
theorem cache_contract (clock : Clock) (ttlS : ℚ) (maxEntries : ℕ)
    (operations : List Operation) :
    let s := run clock ttlS maxEntries operations
    let now := clock.time s.done
    s.cache.items.entries.length ≤ maxEntries ∧
    ∀ key,
      (∀ bundle, (s.cache.get now key).1 = some bundle →
        ∃ entry, standing key s.past = some entry ∧ entry.bundle = bundle ∧
          now ≤ entry.expiresAt) ∧
      ∀ entry, standing key s.past = some entry → now ≤ entry.expiresAt →
        (usedSince key s.past).card < maxEntries →
        (s.cache.get now key).1 = some entry.bundle := by
  intro s now
  have sound : Sound clock maxEntries s := sound_run clock ttlS maxEntries operations
  refine ⟨sound.reflects.room, fun key => ⟨?_, ?_⟩⟩
  · intro bundle given
    rcases get_cases s.cache now key with
      ⟨-, missed⟩ | ⟨entry, found, ⟨old, dropped⟩ | ⟨fresh, hit⟩⟩
    · rw [missed] at given
      cases given
    · rw [dropped] at given
      cases given
    · rw [hit] at given
      exact ⟨entry, sound.reflects.stands_of_get found, Option.some.inj given, fresh⟩
  · intro entry stands fresh few
    have found := sound.reflects.get_of_stands stands (not_lt.mpr fresh) few
    rcases get_cases s.cache now key with
      ⟨missing, -⟩ | ⟨other, found', ⟨old, -⟩ | ⟨-, hit⟩⟩
    · rw [found] at missing
      cases missing
    · obtain rfl : entry = other := Option.some.inj (found.symm.trans found')
      exact absurd fresh (not_le.mpr old)
    · obtain rfl : entry = other := Option.some.inj (found.symm.trans found')
      rw [hit]

end SthBoring.Crawler.CacheContract
