/- Module: SthBoring/Crawler/Caching
   source: agent_crawler/fetch/result_cache.py
   digest: The cache of finished bundles, and what its operations do to the bundles in it. -/

import SthBoring.Crawler.Models
import SthBoring.Lib.Binary64
import SthBoring.Lib.OrderedMoves

set_option autoImplicit false
set_option relaxedAutoImplicit false

namespace SthBoring.Crawler.Caching

open SthBoring.Crawler.Models
open SthBoring.Lib
open SthBoring.Lib.OrderedDict (PyDict)
open SthBoring.Lib.PyValue (joinWith)

structure CacheEntry where
  bundle : CrawlResultBundle
  expiresAt : ℚ

structure ResultCache where
  ttlS : ℚ := 600
  maxEntries : ℕ := 128
  items : PyDict String CacheEntry := PyDict.empty

def makeKey (request : CrawlRequest) (plan : CrawlPlan) : String :=
  joinWith "|" [request.url, request.query.getD "", request.authProfileId, plan.transport.value,
    plan.extractKind.value, plan.adapterName.getD ""]

namespace ResultCache

/-- `get(key)` at a time: the bundle, and the cache afterwards. -/
def get (cache : ResultCache) (now : ℚ) (key : String) : Option CrawlResultBundle × ResultCache :=
  match cache.items.get key with
  | none => (none, cache)
  | some entry =>
    if entry.expiresAt < now then (none, { cache with items := cache.items.pop key })
    else (some entry.bundle, { cache with items := cache.items.moveToEnd key })

def put (cache : ResultCache) (now : ℚ) (key : String) (bundle : CrawlResultBundle)
    (ttlS : Option ℚ) : ResultCache :=
  let entry := ⟨bundle, Binary64.round (now + ttlS.getD cache.ttlS)⟩
  { cache with items := ((cache.items.set key entry).moveToEnd key).shrink cache.maxEntries }

def clear (cache : ResultCache) : ResultCache := { cache with items := PyDict.empty }

/-- Write to the bundle under a key. The caller that got it shares it with the cache. -/
def amend (cache : ResultCache) (key : String) (bundle : CrawlResultBundle) : ResultCache :=
  match cache.items.get key with
  | none => cache
  | some entry => { cache with items := cache.items.set key { entry with bundle := bundle } }

/-- A property of every bundle and the key it is stored under. -/
def All (P : String → CrawlResultBundle → Prop) (cache : ResultCache) : Prop :=
  ∀ e ∈ cache.items.entries, P e.1 e.2.bundle

variable {P : String → CrawlResultBundle → Prop} {cache : ResultCache}

theorem All.get (h : All P cache) (now : ℚ) (key : String) : All P (cache.get now key).2 := by
  unfold ResultCache.get
  split
  · exact h
  · split_ifs
    · exact fun e he => h e (PyDict.mem_entries_pop.mp he).1
    · exact fun e he => h e (PyDict.mem_entries_of_mem_moveToEnd he)

/-- A hit has the property, and is stored under the key it was asked for. -/
theorem All.of_hit (h : All P cache) {now : ℚ} {key : String} {bundle : CrawlResultBundle}
    (hit : (cache.get now key).1 = some bundle) : P key bundle := by
  unfold ResultCache.get at hit
  split at hit
  · cases hit
  · rename_i entry found
    split_ifs at hit with expired
    obtain rfl : entry.bundle = bundle := by simpa using hit
    exact h (key, entry) ((PyDict.get_eq_some_iff _ _ _).mp found)

theorem All.put (h : All P cache) (now : ℚ) {key : String} {bundle : CrawlResultBundle}
    (new : P key bundle) (ttlS : Option ℚ) : All P (cache.put now key bundle ttlS) := by
  intro e he
  have moved := PyDict.mem_entries_of_mem_moveToEnd (PyDict.mem_entries_of_mem_shrink he)
  rcases PyDict.mem_entries_of_mem_set moved with rfl | old
  · exact new
  · exact h e old

theorem All.amend (h : All P cache) {key : String} {bundle : CrawlResultBundle}
    (new : P key bundle) : All P (cache.amend key bundle) := by
  unfold ResultCache.amend
  split
  · exact h
  · intro e he
    rcases PyDict.mem_entries_of_mem_set he with rfl | old
    · exact new
    · exact h e old

end ResultCache

end SthBoring.Crawler.Caching
