/- Module: SthBoring/Crawler/SessionHistory
   source: agent_crawler/session/session_store.py
   digest: Which session a crawl is served with, after any history of the store. -/

import Mathlib.Algebra.Order.Field.Rat
import SthBoring.Crawler.Session
import SthBoring.Lib.History

set_option autoImplicit false
set_option relaxedAutoImplicit false

namespace SthBoring.Crawler.SessionHistory

open SthBoring.Crawler.Models (TransportKind)
open SthBoring.Crawler.Session
open SthBoring.Lib.History
open SthBoring.Lib.OrderedDict (PyDict)
open SthBoring.Lib.PyValue (PyExc)
open SthBoring.Lib.UrlParse (Interpreter asciiInterpreter)

section Calls

/-- The keys that `invalidate` drops. -/
def named (domain : String) (authProfileId : Option String) (transport : Option TransportKind)
    (key : SessionKey) : Bool :=
  key.1 == domain && authProfileId.all (· == key.2.1) && transport.all (· == key.2.2)

def invalidate (store : SessionStore) (domain : String) (authProfileId : Option String)
    (transport : Option TransportKind) : SessionStore :=
  { store with
    sessions := (store.sessions.keys.filter (named domain authProfileId transport)).foldl
      PyDict.pop store.sessions }

/-- One use of a store. -/
inductive SessionCall where
  | get (now : ℚ) (urlOrDomain authProfileId : String) (transport : TransportKind)
  | invalidate (domain : String) (authProfileId : Option String) (transport : Option TransportKind)

def SessionCall.run (py : Interpreter) (store : SessionStore) : SessionCall → SessionStore
  | .get now urlOrDomain authProfileId transport =>
    match store.get py now urlOrDomain authProfileId transport with
    | .ok (_, store') => store'
    | .error _ => store
  | .invalidate domain authProfileId transport =>
    SessionHistory.invalidate store domain authProfileId transport

/-- A store behind a history. -/
def after (py : Interpreter) (ttlS : ℚ) (history : List SessionCall) : SessionStore :=
  history.foldl (SessionCall.run py) { ttlS := ttlS }

end Calls

section Lives

variable (py : Interpreter) (ttlS : ℚ) (key : SessionKey) (made : ℚ)

/-- Too old at some time. -/
def Outlived (now : ℚ) : Prop := 0 < ttlS ∧ ttlS < now - made

/-- The call asks for the session of the key, when it was made. -/
inductive Opens : SessionCall → Prop where
  | get {urlOrDomain : String} (domain : SessionStore.domainOf py urlOrDomain = .ok key.1) :
      Opens (.get made urlOrDomain key.2.1 key.2.2)

/-- The call drops the session of the key, or asks for it when it is too old. -/
inductive Drops : SessionCall → Prop where
  | get {now : ℚ} {urlOrDomain : String} (domain : SessionStore.domainOf py urlOrDomain = .ok key.1)
      (old : Outlived ttlS made now) : Drops (.get now urlOrDomain key.2.1 key.2.2)
  | invalidate {domain : String} {authProfileId : Option String} {transport : Option TransportKind}
      (matching : named domain authProfileId transport key = true) :
      Drops (.invalidate domain authProfileId transport)

end Lives

section Steps

variable {py : Interpreter} {ttlS : ℚ} {store : SessionStore}

/-- The session that a store serves for a key. -/
inductive Served (store : SessionStore) (key : SessionKey) (now : ℚ) : CrawlSession → Prop where
  | kept {old : CrawlSession} (found : store.sessions.get key = some old)
      (young : ¬ Outlived store.ttlS old.createdAtEpoch now) :
      Served store key now { old with lastUsedEpoch := now }
  | made (gone : ∀ old, store.sessions.get key = some old →
      Outlived store.ttlS old.createdAtEpoch now) :
      Served store key now
        { domain := key.1, authProfile := { profileId := key.2.1 }, transport := key.2.2,
          createdAtEpoch := now, lastUsedEpoch := now }

theorem get_eq (store : SessionStore) {key : SessionKey} {urlOrDomain : String}
    (domain : SessionStore.domainOf py urlOrDomain = .ok key.1) (now : ℚ) :
    store.get py now urlOrDomain key.2.1 key.2.2 =
      let found := store.sessions.get key
      let expired := found.any (fun session =>
        decide (0 < store.ttlS) && decide (store.ttlS < now - session.createdAtEpoch))
      let touched := { (if expired then none else found).getD
        { domain := key.1, authProfile := { profileId := key.2.1 }, transport := key.2.2,
          createdAtEpoch := now, lastUsedEpoch := now } with lastUsedEpoch := now }
      .ok (touched, { store with sessions :=
        (if expired then store.sessions.pop key else store.sessions).set key touched }) := by
  rw [SessionStore.get, domain]
  rfl

/-- A call of `get` whose URL has a host. -/
theorem get_ok (py : Interpreter) (key : SessionKey) {urlOrDomain : String}
    (domain : SessionStore.domainOf py urlOrDomain = .ok key.1) (store : SessionStore) (now : ℚ) :
    ∃ session store', store.get py now urlOrDomain key.2.1 key.2.2 = .ok (session, store') ∧
      Served store key now session ∧ store'.ttlS = store.ttlS ∧
      ∀ j, store'.sessions.get j = if key = j then some session else store.sessions.get j := by
  have unfolded := get_eq store domain now
  cases found : store.sessions.get key with
  | none =>
    rw [found] at unfolded
    refine ⟨_, _, unfolded, .made (fun old held => nomatch found.symm.trans held), rfl, fun j => ?_⟩
    exact PyDict.get_set store.sessions key j _
  | some old =>
    rw [found] at unfolded
    by_cases outlived : Outlived store.ttlS old.createdAtEpoch now
    · have expired : (some old).any (fun session =>
          decide (0 < store.ttlS) && decide (store.ttlS < now - session.createdAtEpoch)) = true := by
        simpa [Outlived] using outlived
      simp only [expired, if_true] at unfolded
      refine ⟨_, _, unfolded, .made (fun other held => ?_), rfl, fun j => ?_⟩
      · rwa [Option.some.inj (found.symm.trans held)] at outlived
      · rw [PyDict.get_set, PyDict.get_pop]
        split <;> rfl
    · have young : (some old).any (fun session =>
          decide (0 < store.ttlS) && decide (store.ttlS < now - session.createdAtEpoch)) = false := by
        simpa [Outlived] using outlived
      simp only [young, Bool.false_eq_true, if_false] at unfolded
      refine ⟨_, _, unfolded, .kept found outlived, rfl, fun j => ?_⟩
      exact PyDict.get_set store.sessions key j _

theorem get_invalidate (store : SessionStore) (domain : String) (authProfileId : Option String)
    (transport : Option TransportKind) (key : SessionKey) :
    (invalidate store domain authProfileId transport).sessions.get key =
      if named domain authProfileId transport key then none else store.sessions.get key := by
  rw [invalidate, PyDict.get_foldl_pop]
  by_cases matching : named domain authProfileId transport key = true
  · rw [if_pos matching]
    split
    · rfl
    · rename_i absent
      rw [PyDict.get_eq_none_iff]
      exact fun held => absent (List.mem_filter.mpr ⟨held, matching⟩)
  · rw [if_neg matching, if_neg (fun held => matching (List.mem_filter.mp held).2)]

/-- `get` drops a session that is too old as `invalidate` does. -/
theorem invalidate_key (store : SessionStore) (key : SessionKey) (j : SessionKey) :
    (invalidate store key.1 (some key.2.1) (some key.2.2)).sessions.get j =
      (store.sessions.pop key).get j := by
  have matching : named key.1 (some key.2.1) (some key.2.2) j = true ↔ key = j := by
    obtain ⟨domain, profile, transport⟩ := key
    obtain ⟨domain', profile', transport'⟩ := j
    simp only [named, Option.all_some, Bool.and_eq_true, beq_iff_eq, Prod.mk.injEq]
    exact ⟨fun ⟨⟨host, user⟩, way⟩ => ⟨host.symm, user, way⟩,
      fun ⟨host, user, way⟩ => ⟨⟨host.symm, user⟩, way⟩⟩
  rw [get_invalidate, PyDict.get_pop]
  exact if_congr matching rfl rfl

/-- What a call does to the session of a key: it leaves it, serves it, makes it or drops it. -/
inductive Moves (py : Interpreter) (store store' : SessionStore) (key : SessionKey) :
    SessionCall → Prop where
  | apart {call : SessionCall} (same : store'.sessions.get key = store.sessions.get key)
      (opens : ∀ made, ¬ Opens py key made call)
      (drops : ∀ made, ¬ Drops py store.ttlS key made call) : Moves py store store' key call
  | asked {now : ℚ} {urlOrDomain : String} {session : CrawlSession}
      (domain : SessionStore.domainOf py urlOrDomain = .ok key.1)
      (served : Served store key now session) (held : store'.sessions.get key = some session) :
      Moves py store store' key (.get now urlOrDomain key.2.1 key.2.2)
  | dropped {domain : String} {authProfileId : Option String} {transport : Option TransportKind}
      (matching : named domain authProfileId transport key = true)
      (gone : store'.sessions.get key = none) :
      Moves py store store' key (.invalidate domain authProfileId transport)

theorem moves (py : Interpreter) (store : SessionStore) (key : SessionKey) (call : SessionCall) :
    Moves py store (call.run py store) key call ∧ (call.run py store).ttlS = store.ttlS := by
  cases call with
  | get now urlOrDomain authProfileId transport =>
    cases domain : SessionStore.domainOf py urlOrDomain with
    | error exc =>
      have unchanged : (SessionCall.get now urlOrDomain authProfileId transport).run py store =
          store := by
        simp [SessionCall.run, SessionStore.get, domain]
      rw [unchanged]
      refine ⟨.apart rfl (fun made opens => ?_) (fun made drops => ?_), rfl⟩
      · cases opens with
        | get host => cases domain.symm.trans host
      · cases drops with
        | get host => cases domain.symm.trans host
    | ok host =>
      obtain ⟨session, store', asked, served, ttl, held⟩ :=
        get_ok py (host, authProfileId, transport) domain store now
      have ran : (SessionCall.get now urlOrDomain authProfileId transport).run py store =
          store' := by
        simp [SessionCall.run, asked]
      rw [ran]
      refine ⟨?_, ttl⟩
      by_cases own : (host, authProfileId, transport) = key
      · subst own
        exact .asked domain served ((held _).trans (if_pos rfl))
      · have other : ∀ {name}, SessionStore.domainOf py urlOrDomain = .ok name → name = host :=
          fun found => Except.ok.inj (found.symm.trans domain)
        refine .apart ((held key).trans (if_neg own)) (fun made opens => ?_) (fun made drops => ?_)
        · cases opens with
          | get found => exact own (by rw [← other found])
        · cases drops with
          | get found => exact own (by rw [← other found])
  | invalidate domain authProfileId transport =>
    refine ⟨?_, rfl⟩
    have left := get_invalidate store domain authProfileId transport key
    by_cases matching : named domain authProfileId transport key = true
    · exact .dropped matching (left.trans (if_pos matching))
    · refine .apart (left.trans (if_neg matching)) (fun made opens => ?_) (fun made drops => ?_)
      · cases opens
      · cases drops with
        | invalidate names => exact matching names

end Steps

section Histories

variable {py : Interpreter} {ttlS : ℚ}

theorem after_concat (history : List SessionCall) (call : SessionCall) :
    after py ttlS (history ++ [call]) = call.run py (after py ttlS history) := by
  rw [after, List.foldl_append]
  rfl

theorem ttlS_after (py : Interpreter) (ttlS : ℚ) (history : List SessionCall) : (after py ttlS history).ttlS = ttlS := by
  induction history using List.reverseRecOn with
  | nil => rfl
  | append_singleton history call ih => rw [after_concat, (moves py _ ("", "", .http) call).2, ih]

/-- The session of a key: its own, and made by a call behind which none has dropped it. -/
structure Lives (py : Interpreter) (ttlS : ℚ) (key : SessionKey) (history : List SessionCall)
    (session : CrawlSession) : Prop where
  domain : session.domain = key.1
  profile : session.authProfile.profileId = key.2.1
  transport : session.transport = key.2.2
  since : Since (Opens py key session.createdAtEpoch) (Drops py ttlS key session.createdAtEpoch)
    history

theorem Lives.concat {key : SessionKey} {history : List SessionCall} {session : CrawlSession}
    {call : SessionCall} (lives : Lives py ttlS key history session)
    (stays : ¬ Drops py ttlS key session.createdAtEpoch call) :
    Lives py ttlS key (history ++ [call]) session :=
  { lives with since := since_append_singleton.mpr (.inr ⟨lives.since, stays⟩) }

/-- What is served lives, if what the store held did. -/
theorem lives_of_served {key : SessionKey} {history : List SessionCall} {store : SessionStore}
    (ttl : store.ttlS = ttlS)
    (held : ∀ session, store.sessions.get key = some session → Lives py ttlS key history session)
    {now : ℚ} {urlOrDomain : String} (domain : SessionStore.domainOf py urlOrDomain = .ok key.1)
    {session : CrawlSession} (served : Served store key now session) :
    Lives py ttlS key (history ++ [.get now urlOrDomain key.2.1 key.2.2]) session := by
  cases served with
  | @kept old found young =>
    have lived := held old found
    refine { lived with since := since_append_singleton.mpr (.inr ⟨lived.since, fun drops => ?_⟩) }
    cases drops with
    | get _ outlived => exact young (ttl ▸ outlived)
  | made gone =>
    exact ⟨rfl, rfl, rfl, since_append_singleton.mpr (.inl (.get domain))⟩

theorem lives_after {key : SessionKey} {history : List SessionCall} {session : CrawlSession}
    (held : (after py ttlS history).sessions.get key = some session) :
    Lives py ttlS key history session := by
  induction history using List.reverseRecOn generalizing session with
  | nil => cases held
  | append_singleton history call ih =>
    rw [after_concat] at held
    have ttl := ttlS_after py ttlS history
    cases (moves py (after py ttlS history) key call).1 with
    | apart same opens drops =>
      exact (ih (same ▸ held)).concat (ttl ▸ drops _)
    | asked domain served holds =>
      obtain rfl := Option.some.inj (holds.symm.trans held)
      exact lives_of_served ttl (fun _ => ih) domain served
    | dropped matching gone => cases gone.symm.trans held

/-- A session stays until a call drops it. -/
theorem held_after {key : SessionKey} {history : List SessionCall} {session : CrawlSession}
    (held : (after py ttlS history).sessions.get key = some session) (since : List SessionCall)
    (stays : ∀ call ∈ since, ¬ Drops py ttlS key session.createdAtEpoch call) :
    ∃ session', (after py ttlS (history ++ since)).sessions.get key = some session' ∧
      session'.createdAtEpoch = session.createdAtEpoch := by
  induction since using List.reverseRecOn with
  | nil => exact ⟨session, by rw [List.append_nil, held], rfl⟩
  | append_singleton since call ih =>
    obtain ⟨before, last⟩ := List.forall_mem_append.mp stays
    have stay := List.forall_mem_singleton.mp last
    obtain ⟨old, found, made⟩ := ih before
    have ttl := ttlS_after py ttlS (history ++ since)
    rw [← List.append_assoc, after_concat]
    cases (moves py (after py ttlS (history ++ since)) key call).1 with
    | apart same opens drops => exact ⟨old, same.trans found, made⟩
    | @asked now _ served' domain served holds =>
      cases served with
      | @kept old' found' young =>
        obtain rfl := Option.some.inj (found.symm.trans found')
        exact ⟨_, holds, made⟩
      | made gone =>
        have outlived := gone old found
        rw [ttl, made] at outlived
        exact absurd (.get domain outlived) stay
    | dropped matching gone => exact absurd (.invalidate matching) stay

/-- What a crawl that asks for a session is served with. -/
structure Serves (py : Interpreter) (ttlS : ℚ) (history : List SessionCall) (key : SessionKey)
    (now : ℚ) (urlOrDomain : String) (session : CrawlSession) : Prop where
  lives : Lives py ttlS key (history ++ [.get now urlOrDomain key.2.1 key.2.2]) session
  used : session.lastUsedEpoch = now
  young : ¬ Outlived ttlS session.createdAtEpoch now
  again : ∀ since : List SessionCall,
    (∀ call ∈ since, ¬ Drops py ttlS key session.createdAtEpoch call) →
      ∀ later urlOrDomain', SessionStore.domainOf py urlOrDomain' = .ok key.1 →
        ¬ Outlived ttlS session.createdAtEpoch later → ∃ session' store',
          (after py ttlS (history ++ [.get now urlOrDomain key.2.1 key.2.2] ++ since)).get py later
            urlOrDomain' key.2.1 key.2.2 = .ok (session', store') ∧
              session'.createdAtEpoch = session.createdAtEpoch

theorem Served.used {store : SessionStore} {key : SessionKey} {now : ℚ} {session : CrawlSession}
    (served : Served store key now session) : session.lastUsedEpoch = now := by
  cases served <;> rfl

theorem Served.young {store : SessionStore} {key : SessionKey} {now : ℚ} {session : CrawlSession}
    (served : Served store key now session) : ¬ Outlived store.ttlS session.createdAtEpoch now := by
  cases served with
  | kept _ young => exact young
  | made _ =>
    rintro ⟨positive, old⟩
    rw [sub_self] at old
    exact lt_asymm positive old

def sampleHistory : List SessionCall :=
  [.get 0 "https://a.test/x" "anonymous" .http, .invalidate "b.test" none none]

end Histories

end SthBoring.Crawler.SessionHistory
