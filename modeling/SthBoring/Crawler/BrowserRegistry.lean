/- Module: SthBoring/Crawler/BrowserRegistry
   source: agent_crawler/fetch/browser_registry.py
   digest: The pages that a browser fetcher keeps open. -/

import Mathlib.Data.List.Sort
import SthBoring.Lib.Binary64
import SthBoring.Lib.OrderedMoves

set_option autoImplicit false
set_option relaxedAutoImplicit false

namespace SthBoring.Crawler.BrowserRegistry

open SthBoring.Lib
open SthBoring.Lib.OrderedDict (PyDict)

/-- A page and its context, with what is known of them. Objects of the browser are numbers. -/
structure BrowserPageHandle where
  pageRef : String
  contextRef : String
  page : ℕ
  context : ℕ
  url : String
  finalUrl : String
  domain : Option String := none
  authProfileId : Option String := none
  ownerRunId : Option String := none
  createdAt : ℚ
  lastAccessedAt : ℚ
  ttlS : ℤ := 600

structure BrowserPageRegistry where
  maxOpenPages : ℕ := 8
  roomForOne : 0 < maxOpenPages := by decide
  defaultTtlS : ℤ := 600
  pages : PyDict String BrowserPageHandle := PyDict.empty

/-- What `register` is called with. -/
structure Registration where
  page : ℕ
  context : ℕ
  url : String
  finalUrl : String
  domain : Option String := none
  authProfileId : Option String := none
  ownerRunId : Option String := none
  ttlS : Option ℤ := none

def isExpired (now : ℚ) (handle : BrowserPageHandle) : Bool :=
  0 < handle.ttlS && handle.ttlS < Binary64.round (now - handle.lastAccessedAt)

def Registration.handle (registration : Registration) (defaultTtlS : ℤ)
    (pageId contextId : String) (now : ℚ) : BrowserPageHandle where
  pageRef := "page_" ++ pageId
  contextRef := "ctx_" ++ contextId
  page := registration.page
  context := registration.context
  url := registration.url
  finalUrl := registration.finalUrl
  domain := registration.domain
  authProfileId := registration.authProfileId
  ownerRunId := registration.ownerRunId
  createdAt := now
  lastAccessedAt := now
  ttlS := registration.ttlS.getD defaultTtlS

namespace BrowserPageRegistry

def expired (registry : BrowserPageRegistry) (now : ℚ) : List BrowserPageHandle :=
  registry.pages.values.filter (isExpired now)

/-- The pages that are too many, the longest unused first. -/
def overflowing (registry : BrowserPageRegistry) : List BrowserPageHandle :=
  (registry.pages.values.insertionSort
    (fun a b => a.lastAccessedAt ≤ b.lastAccessedAt)).take
      (registry.pages.values.length - registry.maxOpenPages)

/-- `self._pages.pop(page_ref, None)`. -/
def remove (registry : BrowserPageRegistry) (pageRef : String) : BrowserPageRegistry :=
  { registry with pages := registry.pages.pop pageRef }

def store (registry : BrowserPageRegistry) (handle : BrowserPageHandle) : BrowserPageRegistry :=
  { registry with pages := registry.pages.set handle.pageRef handle }

/-- `self._pages.clear()`. -/
def clear (registry : BrowserPageRegistry) : BrowserPageRegistry :=
  { registry with pages := PyDict.empty }

end BrowserPageRegistry

end SthBoring.Crawler.BrowserRegistry
