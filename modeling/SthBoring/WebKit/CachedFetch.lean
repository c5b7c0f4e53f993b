/- Module: SthBoring/WebKit/CachedFetch
   source: webkit/fetchers/http.py
   digest: A GET request behind the disk cache, from one await to the next. -/

import SthBoring.Lib.Binary64
import SthBoring.Lib.OrderedMoves
import SthBoring.Lib.UrlParse

set_option autoImplicit false
set_option relaxedAutoImplicit false

namespace SthBoring.WebKit.CachedFetch

open SthBoring.Lib
open SthBoring.Lib.OrderedDict (PyDict)
open SthBoring.Lib.PyValue (PyExc valueError)
open SthBoring.Lib.UrlParse (Interpreter netloc)

abbrev Headers := PyDict String String

/-- What a client sends: its own headers, and those of the call. -/
structure Request where
  url : String
  defaults : Headers
  headers : Headers

/-- `httpx.Response`. -/
structure HttpResponse where
  url : String
  statusCode : ℤ
  headers : List (String × String) := []
  content : List UInt8
  encoding : Option String := none

/-- An entry of the disk cache: its body and its metadata. The mark tells where the body came from,
and no code reads it. -/
structure Entry (γ : Type) where
  body : List UInt8
  finalUrl : String
  statusCode : ℤ
  headers : Headers
  encoding : Option String
  fetchedAtEpoch : ℚ
  mark : γ

structure FetchResponse (γ : Type) where
  url : String
  finalUrl : String
  statusCode : ℤ
  headers : Headers
  content : List UInt8
  encoding : Option String
  mark : γ

structure RetryPolicy where
  maxAttempts : ℕ := 4

structure DiskCache where
  sha256Hex : ByteArray → String
  ttlS : ℚ := 3600

/-- `_key`. -/
def DiskCache.key (cache : DiskCache) (url : String) : String := cache.sha256Hex url.toUTF8

structure HttpFetcher where
  py : Interpreter
  headers : Headers
  cache : DiskCache
  retry : RetryPolicy := {}

/-- The files of a cache directory. -/
abbrev Entries (γ : Type) := PyDict String (Entry γ)

/-- Where a fetch is: it waits for the answer to an attempt, it waits before the next one, or it has
ended. The entry it found is stale. -/
inductive Phase (γ : Type) where
  | asking (attempt : ℕ) (cached : Option (Entry γ))
  | backingOff (attempt : ℕ) (cached : Option (Entry γ))
  | returned (response : FetchResponse γ)
  | raised (exc : PyExc)

def retryableStatuses : List ℤ := [429, 500, 502, 503, 504]

/-- `(httpx.TimeoutException, httpx.ConnectError, httpx.RemoteProtocolError)`. -/
def isRetryable (exc : PyExc) : Bool :=
  ["TimeoutException", "ConnectError", "RemoteProtocolError"].any exc.isInstance

def fetchFailed (url lastExc : String) : PyExc :=
  ⟨"RuntimeError", ["Exception"], s!"Fetch failed for {url}: {lastExc}"⟩

variable {γ : Type}

/-- The age of the entry is beyond the time to live. -/
def Entry.isStale (entry : Entry γ) (cache : DiskCache) (now : ℚ) : Bool :=
  0 < cache.ttlS && cache.ttlS < Binary64.round (now - entry.fetchedAtEpoch)

/-- A header that is neither missing nor empty. -/
def named (headers : Headers) (name : String) : Option String :=
  (headers.get name).filter (· ≠ "")

/-- `conditional_headers`, for the stale entry that was found. -/
def conditionalHeaders : Option (Entry γ) → Headers
  | none => .empty
  | some entry =>
    let etag := match named entry.headers "etag" with
      | some etag => PyDict.empty.set "If-None-Match" etag
      | none => .empty
    match named entry.headers "last-modified" with
    | some lastMod => etag.set "If-Modified-Since" lastMod
    | none => etag

/-- `{k.lower(): v for k, v in headers.items()}`. -/
def lowered (py : Interpreter) (headers : List (String × String)) : Headers :=
  headers.foldl (fun d header => d.set (py.lower header.1) header.2) .empty

/-- The headers that the metadata keeps. -/
def keptHeaders (headers : Headers) : Headers :=
  ["content-type", "etag", "last-modified"].foldl (fun d name =>
    match named headers name with
    | some value => d.set name value
    | none => d) .empty

/-- The answer that a fresh entry gives. -/
def Entry.hit (entry : Entry γ) (url : String) : FetchResponse γ where
  url := url
  finalUrl := entry.finalUrl
  statusCode := entry.statusCode
  headers := entry.headers
  content := entry.body
  encoding := entry.encoding
  mark := entry.mark

variable (fetcher : HttpFetcher)

/-- The first turn of the loop, unless it has none. -/
def firstAttempt (url : String) (cached : Option (Entry γ)) : Phase γ :=
  if fetcher.retry.maxAttempts = 0 then .raised (fetchFailed url "None") else .asking 1 cached

/-- `fetch` up to its first await. -/
def openFetch (entries : Entries γ) (now : ℚ) (method url : String) : Phase γ :=
  if method.toUpper ≠ "GET" then
    .raised (valueError "MVP cache/revalidation only supports GET")
  else
    match netloc fetcher.py url with
    | .error exc => .raised exc
    | .ok _ =>
      match entries.get (fetcher.cache.key url) with
      | none => firstAttempt fetcher url none
      | some entry =>
        if entry.isStale fetcher.cache now then firstAttempt fetcher url (some entry)
        else .returned (entry.hit url)

/-- The request of an attempt. -/
def requestFor (url : String) (headers : Headers) (cached : Option (Entry γ)) : Request where
  url := url
  defaults := fetcher.headers
  headers := headers.update (conditionalHeaders cached)

/-- The answer was not modified: what is stored again, and returned. -/
def revalidated (now : ℚ) (url : String) (entry : Entry γ) (mark : γ) (resp : HttpResponse) :
    Entry γ × FetchResponse γ :=
  ({ entry with fetchedAtEpoch := now, mark := mark },
    { url := url
      finalUrl := resp.url
      statusCode := 200
      headers := lowered fetcher.py entry.headers.entries
      content := entry.body
      encoding := entry.encoding
      mark := mark })

/-- Any other answer: what may be stored of it, and what is returned. -/
def received (now : ℚ) (url : String) (mark : γ) (resp : HttpResponse) :
    Entry γ × FetchResponse γ :=
  let headers := lowered fetcher.py resp.headers
  ({ body := resp.content
     finalUrl := resp.url
     statusCode := resp.statusCode
     headers := keptHeaders headers
     encoding := resp.encoding
     fetchedAtEpoch := now
     mark := mark },
    { url := url
      finalUrl := resp.url
      statusCode := resp.statusCode
      headers := headers
      content := resp.content
      encoding := resp.encoding
      mark := mark })

/-- From an answer to the next await or the end, with the entry to store. The mark of an answer and
that of an entry which it leaves valid are given. -/
def settle (now : ℚ) (url : String) (attempt : ℕ) (cached : Option (Entry γ)) (fresh : γ)
    (renewed : γ → γ) (resp : HttpResponse) : Phase γ × Option (Entry γ) :=
  match cached, decide (resp.statusCode = 304) with
  | some entry, true =>
    let kept := revalidated fetcher now url entry (renewed entry.mark) resp
    (.returned kept.2, some kept.1)
  | _, _ =>
    if resp.statusCode ∈ retryableStatuses ∧ attempt < fetcher.retry.maxAttempts then
      (.backingOff attempt cached, none)
    else
      let taken := received fetcher now url fresh resp
      (.returned taken.2,
        if resp.statusCode = 200 ∧ resp.content ≠ [] then some taken.1 else none)

/-- From an exception of an attempt to the next await or the end. -/
def fail (url : String) (attempt : ℕ) (cached : Option (Entry γ)) (exc : PyExc) : Phase γ :=
  if isRetryable exc && attempt < fetcher.retry.maxAttempts then .backingOff attempt cached
  else .raised (fetchFailed url exc.message)

/-- `save`, for the entry that there is to store. -/
def store (entries : Entries γ) (url : String) : Option (Entry γ) → Entries γ
  | some entry => entries.set (fetcher.cache.key url) entry
  | none => entries

section Cases

variable (entries : Entries γ) (now : ℚ) (method url : String) (attempt : ℕ)
  (cached : Option (Entry γ)) (fresh : γ) (renewed : γ → γ) (resp : HttpResponse)

theorem firstAttempt_cases :
    (∃ exc, firstAttempt fetcher url cached = .raised exc) ∨
      firstAttempt fetcher url cached = .asking 1 cached := by
  unfold firstAttempt
  split
  · exact .inl ⟨_, rfl⟩
  · exact .inr rfl

/-- A fetch is over at once, with an entry that is fresh or without a page, or it asks. -/
theorem openFetch_cases :
    (∃ exc, openFetch fetcher entries now method url = .raised exc) ∨
      (∃ entry, method.toUpper = "GET" ∧ entries.get (fetcher.cache.key url) = some entry ∧
        entry.isStale fetcher.cache now = false ∧
        openFetch fetcher entries now method url = .returned (entry.hit url)) ∨
      ∃ cached, (∀ entry, cached = some entry →
          entries.get (fetcher.cache.key url) = some entry) ∧
        openFetch fetcher entries now method url = .asking 1 cached := by
  unfold openFetch
  split
  · exact .inl ⟨_, rfl⟩
  · next get =>
    split
    · exact .inl ⟨_, rfl⟩
    · split
      · obtain raised | asking := firstAttempt_cases fetcher url (none : Option (Entry γ))
        · exact .inl raised
        · exact .inr (.inr ⟨none, fun _ none => (by cases none), asking⟩)
      · next entry found =>
        split
        · obtain raised | asking := firstAttempt_cases fetcher url (some entry)
          · exact .inl raised
          · refine .inr (.inr ⟨some entry, ?_, asking⟩)
            rintro _ ⟨⟩
            exact found
        · next fresh =>
          exact .inr (.inl ⟨entry, not_not.mp get, found, Bool.eq_false_iff.mpr fresh, rfl⟩)

/-- An answer leaves the entry valid, or is not the last, or is the page. -/
theorem settle_cases :
    (∃ entry, cached = some entry ∧ resp.statusCode = 304 ∧
      let kept := revalidated fetcher now url entry (renewed entry.mark) resp
      settle fetcher now url attempt cached fresh renewed resp = (.returned kept.2, some kept.1)) ∨
    settle fetcher now url attempt cached fresh renewed resp = (.backingOff attempt cached, none) ∨
    ∃ new, (∀ entry, new = some entry → entry = (received fetcher now url fresh resp).1) ∧
      settle fetcher now url attempt cached fresh renewed resp =
        (.returned (received fetcher now url fresh resp).2, new) := by
  unfold settle
  split
  · next entry valid => exact .inl ⟨entry, rfl, of_decide_eq_true valid, rfl⟩
  · split
    · exact .inr (.inl rfl)
    · refine .inr (.inr ⟨_, ?_, rfl⟩)
      intro entry made
      split at made
      · exact (Option.some.inj made).symm
      · cases made

theorem fail_cases (exc : PyExc) :
    fail fetcher url attempt cached exc = .backingOff attempt cached ∨
      ∃ raised, fail fetcher url attempt cached exc = .raised raised := by
  unfold fail
  split
  · exact .inl rfl
  · exact .inr ⟨_, rfl⟩

end Cases

section Entries

variable {entries : Entries γ} {url : String}

theorem get_store {key : String} {entry : Entry γ} {new : Option (Entry γ)}
    (found : (store fetcher entries url new).get key = some entry) :
    new = some entry ∨ entries.get key = some entry := by
  cases new with
  | none => exact .inr found
  | some made =>
    rw [store, PyDict.get_set] at found
    split at found
    · exact .inl found
    · exact .inr found

end Entries

end SthBoring.WebKit.CachedFetch
