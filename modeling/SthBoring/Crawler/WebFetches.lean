/- Module: SthBoring/Crawler/WebFetches
   source: agent_crawler/fetch/hybrid_fetcher.py, webkit/fetchers/http.py
   digest: Fetches of the hybrid fetcher, with the disk cache of its HTTP fetcher. -/

import SthBoring.Crawler.Runner
import SthBoring.WebKit.CachedFetch

set_option autoImplicit false
set_option relaxedAutoImplicit false

namespace SthBoring.Crawler.WebFetches

open SthBoring.Crawler.Models
open SthBoring.Crawler.Runner
open SthBoring.Crawler.Session (CrawlSession)
open SthBoring.Lib
open SthBoring.Lib.Effect (Computation Triple Keeps Post)
open SthBoring.Lib.OrderedDict (PyDict)
open SthBoring.Lib.PyValue (Fields PyExc textOr)
open SthBoring.Lib.UrlParse (Interpreter)
open SthBoring.WebKit.CachedFetch

/-- The world with the cache directory, and how many answers the server gave. An entry is marked
with the number of the answer that it is from, or that confirmed it last; for each page that was
fetched that number is kept. No code reads the numbers. -/
structure Web (σ : Type) where
  inner : σ
  disk : Entries ℕ := .empty
  answers : ℕ := 0
  pages : List ℕ := []

/-- `HybridFetcher`, and what it uses: the clocks, a request that waits for its turn, the wait
before the next one, a decoder of octets, and a browser. -/
structure HybridFetcher (σ : Type) where
  httpFetcher : HttpFetcher
  time : σ → ℚ × σ
  monotonic : σ → ℚ × σ
  get : Request → Computation σ PyExc HttpResponse
  sleep : ℕ → Computation σ PyExc Unit
  decode : List UInt8 → String → Except PyExc String
  browse : String → CrawlSession → Option Fields → Computation σ PyExc FetchedPayload

/-- `HttpFetcher(cache=None)`. Its cache is one that is made for it. -/
def defaultHttpFetcher (py : Interpreter) (sha256Hex : ByteArray → String) : HttpFetcher where
  py := py
  headers := (PyDict.empty.set "User-Agent" "web-agent-mvp/0.1 (+https://example.invalid)").set
    "Accept" "text/html,application/xhtml+xml,application/xml;q=0.9,*/*;q=0.8"
  cache := ⟨sha256Hex, 3600⟩

variable {σ α : Type}

/-- A step that knows nothing of the cache. -/
def inside (m : Computation σ PyExc α) : Computation (Web σ) PyExc α :=
  Computation.within Web.inner (fun inner web => { web with inner := inner }) m

def tell (f : σ → α × σ) : Computation (Web σ) PyExc α :=
  inside (fun inner => (.ok (f inner).1, (f inner).2))

/-- One more answer, and its number. -/
def receive : Computation (Web σ) PyExc ℕ := do
  let answer ← Computation.read Web.answers
  Computation.modify fun web => { web with answers := answer + 1 }
  return answer

/-- The page of this answer is given to the runner. -/
def give (answer : ℕ) : Computation (Web σ) PyExc Unit :=
  Computation.modify fun web => { web with pages := web.pages ++ [answer] }

variable (hybrid : HybridFetcher σ)

/-- One turn of the loop of `HttpFetcher.fetch`. -/
def turn (url : String) (attempt : ℕ) (cached : Option (Entry ℕ)) :
    Computation (Web σ) PyExc (Phase ℕ) := do
  match ← Computation.outcome (inside (hybrid.get (requestFor hybrid.httpFetcher url .empty cached)))
    with
  | .error exc => return fail hybrid.httpFetcher url attempt cached exc
  | .ok resp => do
    let answer ← receive
    let now ← tell hybrid.time
    let ended := settle hybrid.httpFetcher now url attempt cached answer (fun _ => answer) resp
    Computation.modify fun web =>
      { web with disk := store hybrid.httpFetcher web.disk url ended.2 }
    return ended.1

/-- So many turns, the next of them numbered. -/
def turns (url : String) (cached : Option (Entry ℕ)) :
    ℕ → ℕ → Computation (Web σ) PyExc (FetchResponse ℕ)
  | 0, _ => Computation.raise (fetchFailed url "None")
  | left + 1, attempt => do
    match ← turn hybrid url attempt cached with
    | .returned resp => return resp
    | .raised exc => Computation.raise exc
    | .asking _ _ | .backingOff _ _ => do
      inside (hybrid.sleep attempt)
      turns url cached left (attempt + 1)

/-- `HttpFetcher.fetch`, as the hybrid fetcher calls it. -/
def httpFetch (url : String) : Computation (Web σ) PyExc (FetchResponse ℕ) := do
  let now ← tell hybrid.time
  let disk ← Computation.read Web.disk
  match openFetch hybrid.httpFetcher disk now "GET" url with
  | .returned resp => return resp
  | .raised exc => Computation.raise exc
  | .asking _ cached | .backingOff _ cached =>
    turns hybrid url cached hybrid.httpFetcher.retry.maxAttempts 1

/-- `HybridFetcher.fetch`. The options are for the browser alone. -/
def HybridFetcher.fetch (url : String) (plan : CrawlPlan) (session : CrawlSession)
    (options : Option Fields) : Computation (Web σ) PyExc FetchedPayload := do
  match plan.transport with
  | .http => do
    let started ← tell hybrid.monotonic
    let resp ← httpFetch hybrid url
    let now ← tell hybrid.monotonic
    let text ← Computation.lift (hybrid.decode resp.content (textOr resp.encoding "utf-8"))
    give resp.mark
    return { info := { url := resp.url
                       finalUrl := resp.finalUrl
                       statusCode := resp.statusCode
                       headers := resp.headers.entries
                       elapsedMs := Binary64.round (Binary64.round (now - started) * 1000)
                       transport := .http }
             html := some text }
  | .browser => do
    let payload ← inside (hybrid.browse url session options)
    -- A browser has no pages of earlier fetches.
    let answer ← receive
    give answer
    return payload

/-- The runner with the hybrid fetcher. No other part knows of the cache directory. -/
def withHybrid (parts : CrawlerRunner σ) : CrawlerRunner (Web σ) where
  py := parts.py
  domainRegistry := parts.domainRegistry
  fetch := hybrid.fetch
  universalExtractor html url := inside (parts.universalExtractor html url)
  adapters := parts.adapters.map fun adapter =>
    { name := adapter.name
      canHandle := adapter.canHandle
      extract := fun html url => inside (adapter.extract html url) }
  intelligentExtractor html url query := inside (parts.intelligentExtractor html url query)
  cleaner := parts.cleaner
  rank chunks query := inside (parts.rank chunks query)
  qualityAssessor := parts.qualityAssessor
  renderer := parts.renderer
  artifactAdapter := parts.artifactAdapter
  time web := ((parts.time web.inner).1, { web with inner := (parts.time web.inner).2 })
  uuid4 web := ((parts.uuid4 web.inner).1, { web with inner := (parts.uuid4 web.inner).2 })

/-- Every mark is the number of an answer, and there were so many answers. -/
structure Counted (since : ℕ) (web : Web σ) : Prop where
  marked : ∀ key entry, web.disk.get key = some entry → entry.mark < web.answers
  since : since ≤ web.answers

/-- The answer came after so many others. -/
def Since (since answer : ℕ) (web : Web σ) : Prop := since ≤ answer ∧ answer < web.answers

/-- Under the key of the URL there is an entry which is fresh at this time, and older than so many
answers. -/
def FindsOld (since : ℕ) (url : String) (now : ℚ) (web : Web σ) : Prop :=
  ∃ entry, web.disk.get (hybrid.httpFetcher.cache.key url) = some entry ∧
    entry.isStale hybrid.httpFetcher.cache now = false ∧ entry.mark < since

/-- When a fetch that begins here looks into the cache. -/
def lookupTime (web : Web σ) : ℚ := (hybrid.time (hybrid.monotonic web.inner).2).1

/-- The last page that was given to the runner is from a later answer. -/
def GaveSince (since : ℕ) (web : Web σ) : Prop :=
  ∃ answer, web.pages.getLast? = some answer ∧ Since since answer web

section Specs

variable {hybrid} {since attempt : ℕ} {url : String} {cached : Option (Entry ℕ)} {web : Web σ}

theorem keeps_inside (m : Computation σ PyExc α) : Keeps (Counted since) (inside m) :=
  Keeps.within m fun _ _ counted => ⟨counted.marked, counted.since⟩

theorem receive_since : Triple (Counted since) (receive (σ := σ))
    (fun answer web => Counted since web ∧ Since since answer web) (fun _ => Counted since) := by
  refine Triple.bind (Q := fun answer web => Counted since web ∧ answer = web.answers)
    (Triple.read fun _ counted => ⟨counted, rfl⟩) ?_
  intro answer
  refine Triple.bind (Q := fun _ web => Counted since web ∧ Since since answer web)
    (Triple.modify ?_) fun _ => Triple.pure fun _ post => post
  rintro web ⟨counted, rfl⟩
  have more : web.answers < web.answers + 1 := Nat.lt_succ_self _
  refine ⟨⟨fun key entry found => ?_, ?_⟩, counted.since, more⟩
  · exact (counted.marked key entry found).trans more
  · exact counted.since.trans more.le

/-- What an answer leaves in the cache, and what a turn returns, is marked with the answer. -/
theorem turn_since : Triple (Counted since) (turn hybrid url attempt cached)
    (fun phase web => Counted since web ∧
      ∀ resp, phase = .returned resp → Since since resp.mark web)
    (fun _ => Counted since) := by
  refine Triple.bind (Q := fun _ => Counted since) (Keeps.outcome (keeps_inside _)) ?_
  intro got
  cases got with
  | error exc =>
    refine Triple.pure fun web counted => ⟨counted, fun resp returned => ?_⟩
    obtain waits | ⟨raised, failed⟩ := fail_cases hybrid.httpFetcher url attempt cached exc
    · rw [waits] at returned
      cases returned
    · rw [failed] at returned
      cases returned
  | ok resp =>
    apply Triple.bind receive_since
    intro answer
    refine Triple.bind (Q := fun _ web => Counted since web ∧ Since since answer web) ?_ ?_
    · exact fun web post => ⟨⟨post.1.marked, post.1.since⟩, post.2⟩
    intro now
    obtain ⟨phase, new, settled, returned, stored⟩ : ∃ phase new,
        settle hybrid.httpFetcher now url attempt cached answer (fun _ => answer) resp =
          (phase, new) ∧ (∀ page, phase = .returned page → page.mark = answer) ∧
        ∀ entry, new = some entry → entry.mark = answer := by
      obtain ⟨entry, -, -, settled⟩ | settled | ⟨new, made, settled⟩ :=
        settle_cases hybrid.httpFetcher now url attempt cached answer (fun _ => answer) resp
      · refine ⟨_, _, settled, ?_, ?_⟩
        · rintro _ ⟨⟩
          rfl
        · rintro _ ⟨⟩
          rfl
      · exact ⟨_, _, settled, nofun, nofun⟩
      · refine ⟨_, _, settled, ?_, fun entry same => ?_⟩
        · rintro _ ⟨⟩
          rfl
        · rw [made entry same]
          rfl
    rw [settled]
    refine Triple.bind (Q := fun _ web => Counted since web ∧ Since since answer web)
      (Triple.modify ?_) ?_
    · rintro web ⟨counted, latest⟩
      refine ⟨⟨fun key entry found => ?_, counted.since⟩, latest⟩
      obtain same | old := get_store hybrid.httpFetcher found
      · rw [stored entry same]
        exact latest.2
      · exact counted.marked key entry old
    · intro _
      refine Triple.pure fun web post => ⟨post.1, fun page same => ?_⟩
      rw [returned page same]
      exact post.2

theorem turns_since (left attempt : ℕ) : Triple (Counted since) (turns hybrid url cached left attempt)
    (fun resp web => Counted since web ∧ Since since resp.mark web) (fun _ => Counted since) := by
  induction left generalizing attempt with
  | zero => exact Triple.raise fun _ counted => counted
  | succ left ih =>
    apply Triple.bind turn_since
    intro phase
    cases phase with
    | returned resp => exact Triple.pure fun web post => ⟨post.1, post.2 resp rfl⟩
    | raised exc => exact Triple.raise fun _ post => post.1
    | asking _ _ | backingOff _ _ =>
      have again : Triple (Counted since) (do
          inside (hybrid.sleep attempt)
          turns hybrid url cached left (attempt + 1)) _ _ :=
        Triple.bind (keeps_inside _) fun _ => ih (attempt + 1)
      exact fun web post => again web post.1

/-- A fetch finds an old entry, or its page is from a later answer. -/
theorem httpFetch_since (web₀ : Web σ) :
    Triple (fun web => Counted since web ∧ web = web₀) (httpFetch hybrid url)
      (fun resp web => Counted since web ∧
        (FindsOld hybrid since url (hybrid.time web₀.inner).1 web₀ ∨ Since since resp.mark web))
      (fun _ => Counted since) := by
  refine Triple.bind (Q := fun now web => Counted since web ∧ now = (hybrid.time web₀.inner).1 ∧
    web.disk = web₀.disk) ?_ ?_
  · rintro web ⟨counted, rfl⟩
    exact ⟨⟨counted.marked, counted.since⟩, rfl, rfl⟩
  intro now
  refine Triple.bind (Q := fun disk web => Counted since web ∧ now = (hybrid.time web₀.inner).1 ∧
    disk = web₀.disk ∧ web.disk = web₀.disk) (Triple.read ?_) ?_
  · exact fun web post => ⟨post.1, post.2.1, post.2.2, post.2.2⟩
  intro disk
  rintro web ⟨counted, rfl, rfl, same⟩
  obtain ⟨exc, opened⟩ | ⟨entry, -, found, fresh, opened⟩ | ⟨cached, -, opened⟩ :=
    openFetch_cases hybrid.httpFetcher web₀.disk (hybrid.time web₀.inner).1 "GET" url
  · rw [opened]
    exact counted
  · rw [opened]
    refine ⟨counted, ?_⟩
    by_cases old : entry.mark < since
    · exact .inl ⟨entry, found, fresh, old⟩
    · have kept : web.disk.get (hybrid.httpFetcher.cache.key url) = some entry := by
        rw [same]
        exact found
      exact .inr ⟨not_lt.mp old, counted.marked _ entry kept⟩
  · rw [opened]
    have asked : Triple (Counted since) (turns hybrid url cached _ 1) _ _ :=
      turns_since hybrid.httpFetcher.retry.maxAttempts 1
    exact asked.imp (fun _ held => held) (fun _ _ post => ⟨post.1, .inr post.2⟩)
      (fun _ _ held => held) web counted

/-- An HTTP fetch finds an old entry, or the page that it gives is from a later answer; and so is
every page that a browser has. -/
theorem fetch_since (plan : CrawlPlan) (session : CrawlSession) (options : Option Fields)
    (web₀ : Web σ) :
    Triple (fun web => Counted since web ∧ web = web₀) (hybrid.fetch url plan session options)
      (fun _ web => Counted since web ∧
        ((plan.transport = .http ∧ FindsOld hybrid since url (lookupTime hybrid web₀) web₀) ∨
          GaveSince since web))
      (fun _ => Counted since) := by
  unfold HybridFetcher.fetch
  cases plan.transport with
  | http =>
    let begun : Web σ := { web₀ with inner := (hybrid.monotonic web₀.inner).2 }
    refine Triple.bind (Q := fun _ web => Counted since web ∧ web = begun) ?_ ?_
    · rintro web ⟨counted, rfl⟩
      exact ⟨⟨counted.marked, counted.since⟩, rfl⟩
    intro started
    apply Triple.bind (httpFetch_since begun)
    intro resp
    let found := FindsOld hybrid since url (lookupTime hybrid web₀) web₀
    refine Triple.bind
      (Q := fun _ web => Counted since web ∧ (found ∨ Since since resp.mark web)) ?_ ?_
    · exact fun web post => ⟨⟨post.1.marked, post.1.since⟩, post.2⟩
    intro now
    refine Triple.bind
      (Q := fun _ web => Counted since web ∧ (found ∨ Since since resp.mark web))
      (Triple.lift (fun _ _ _ post => post) (fun _ _ _ post => post.1)) ?_
    intro text
    refine Triple.bind (Q := fun _ web => Counted since web ∧ (found ∨ GaveSince since web))
      (Triple.modify ?_) ?_
    · rintro web ⟨counted, outcome⟩
      refine ⟨⟨counted.marked, counted.since⟩, outcome.imp id fun latest => ?_⟩
      exact ⟨resp.mark, List.getLast?_concat, latest⟩
    · intro _
      exact Triple.pure fun web post => ⟨post.1, post.2.imp (fun old => ⟨rfl, old⟩) id⟩
  | browser =>
    refine Triple.bind (Q := fun _ => Counted since) ?_ ?_
    · exact fun web post => keeps_inside _ web post.1
    intro payload
    apply Triple.bind receive_since
    intro answer
    refine Triple.bind (Q := fun _ web => Counted since web ∧ GaveSince since web)
      (Triple.modify ?_) ?_
    · rintro web ⟨counted, latest⟩
      exact ⟨⟨counted.marked, counted.since⟩, answer, List.getLast?_concat, latest⟩
    · intro _
      exact Triple.pure fun web post => ⟨post.1, .inr post.2⟩

theorem keeps_fetch (plan : CrawlPlan) (session : CrawlSession) (options : Option Fields) :
    Keeps (Counted since) (hybrid.fetch url plan session options) := by
  intro web counted
  have ended : Triple _ (hybrid.fetch url plan session options) _ (fun _ => Counted since) :=
    fetch_since plan session options web
  exact ended.imp (fun _ here => here) (fun _ _ post => post.1) (fun _ _ held => held) web
    ⟨counted, rfl⟩

end Specs

end SthBoring.Crawler.WebFetches
