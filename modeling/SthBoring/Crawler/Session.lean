/- Module: SthBoring/Crawler/Session
   source: agent_crawler/session/*.py
   digest: The sessions a crawler keeps for its domains. -/

import SthBoring.Crawler.Models
import SthBoring.Lib.OrderedMoves
import SthBoring.Lib.UrlParse

set_option autoImplicit false
set_option relaxedAutoImplicit false

namespace SthBoring.Crawler.Session

open SthBoring.Crawler.Models (TransportKind)
open SthBoring.Lib.OrderedDict (PyDict)
open SthBoring.Lib.PyValue (PyExc)
open SthBoring.Lib.UrlParse (Interpreter netloc)

structure AuthProfile where
  profileId : String := "anonymous"
  storageStatePath : Option String := none

structure CrawlSession where
  domain : String
  authProfile : AuthProfile
  transport : TransportKind
  createdAtEpoch : ℚ
  lastUsedEpoch : ℚ

abbrev SessionKey := String × String × TransportKind

structure SessionStore where
  ttlS : ℚ := 1800
  sessions : PyDict SessionKey CrawlSession := PyDict.empty

def SessionStore.domainOf (py : Interpreter) (urlOrDomain : String) : Except PyExc String := do
  let host := py.lower (← netloc py urlOrDomain)
  return if host = "" then py.lower urlOrDomain else host

/-- `SessionStore.get`, with one reading of the clock: the session, and the store afterwards. -/
def SessionStore.get (py : Interpreter) (store : SessionStore) (now : ℚ)
    (urlOrDomain authProfileId : String) (transport : TransportKind) :
    Except PyExc (CrawlSession × SessionStore) := do
  let domain ← SessionStore.domainOf py urlOrDomain
  let key := (domain, authProfileId, transport)
  let found := store.sessions.get key
  let expired := found.any (fun session =>
    0 < store.ttlS && store.ttlS < now - session.createdAtEpoch)
  let sessions := if expired then store.sessions.pop key else store.sessions
  let session := (if expired then none else found).getD
    { domain := domain, authProfile := { profileId := authProfileId }, transport := transport,
      createdAtEpoch := now, lastUsedEpoch := now }
  let touched := { session with lastUsedEpoch := now }
  return (touched, { store with sessions := sessions.set key touched })

end SthBoring.Crawler.Session
