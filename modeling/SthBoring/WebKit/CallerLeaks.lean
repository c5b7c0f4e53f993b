/- Module: SthBoring/WebKit/CallerLeaks
   source: webkit/fetchers/http.py
   digest: Whose page a caller gets who shares a cache directory with others. -/

import SthBoring.Lib.Runs
import SthBoring.WebKit.CachedFetch

set_option autoImplicit false
set_option relaxedAutoImplicit false

namespace SthBoring.WebKit.CallerLeaks

open SthBoring.Lib.OrderedDict (PyDict)
open SthBoring.Lib.PyValue (PyExc)
open SthBoring.Lib.Runs (run)
open SthBoring.Lib.UrlParse (asciiInterpreter)
open SthBoring.WebKit.CachedFetch

/-- A call of `fetch`. -/
structure Call where
  fetcher : HttpFetcher
  url : String
  headers : Headers
  phase : Phase Request

/-- What the caller asks for. -/
def Call.request (call : Call) : Request := ⟨call.url, call.fetcher.headers, call.headers⟩

/-- The cache, whose entries are marked with what their caller asked for, the calls in the order of
their arrival, and what the server serves, with what it served before. -/
structure State (V : Type) where
  entries : Entries Request := .empty
  calls : List Call := []
  version : V
  past : List V := []

def State.versions {V : Type} (s : State V) : List V := s.past ++ [s.version]

/-- What happens at a call, or elsewhere: the server changes what it serves, a caller calls, and a
call gets its answer, an exception or its next turn, or is cancelled. -/
inductive Event (V : Type) where
  | change (version : V)
  | call (fetcher : HttpFetcher) (method url : String) (headers : Headers) (now : ℚ)
  | answer (i : ℕ) (now : ℚ)
  | failure (i : ℕ) (exc : PyExc)
  | wake (i : ℕ)
  | cancel (i : ℕ)

def cancelledError : PyExc := ⟨"CancelledError", ["BaseException"], ""⟩

variable {V : Type} (server : V → Request → HttpResponse)

def move (s : State V) (i : ℕ) (call : Call) (phase : Phase Request) : State V :=
  { s with calls := s.calls.set i { call with phase := phase } }

/-- A call that waits goes on. -/
def act (s : State V) (i : ℕ) (call : Call) : Event V → Phase Request → Option (State V)
  | .answer _ now, .asking attempt cached =>
    let sent := requestFor call.fetcher call.url call.headers cached
    let ended := settle call.fetcher now call.url attempt cached call.request id
      (server s.version sent)
    some (move { s with entries := store call.fetcher s.entries call.url ended.2 } i call ended.1)
  | .failure _ exc, .asking attempt cached =>
    some (move s i call (fail call.fetcher call.url attempt cached exc))
  | .wake _, .backingOff attempt cached => some (move s i call (.asking (attempt + 1) cached))
  | .cancel _, .asking _ _ | .cancel _, .backingOff _ _ =>
    some (move s i call (.raised cancelledError))
  | _, _ => none

def actAt (s : State V) (event : Event V) (i : ℕ) : Option (State V) := do
  let call ← s.calls[i]?
  act server s i call event call.phase

def step (s : State V) (event : Event V) : Option (State V) :=
  match event with
  | .change version => some { s with version := version, past := s.versions }
  | .call fetcher method url headers now =>
    some { s with calls := s.calls ++
      [⟨fetcher, url, headers, openFetch fetcher s.entries now method url⟩] }
  | .answer i _ | .failure i _ | .wake i | .cancel i => actAt server s event i

/-- A history of calls on an empty cache, with the state before each of its events. -/
abbrev Reaches (trace : List (State V × Event V)) (s : State V) : Prop :=
  Lib.Runs.Reaches (step server) (fun s => ∃ version, s = { version := version }) trace s

/-- The request, with what a fetcher adds to revalidate an entry. -/
def revalidating (request : Request) (added : Headers) : Request :=
  { request with headers := request.headers.update added }

/-- Headers that a fetcher may add. -/
def IsConditional (added : Headers) : Prop :=
  ∀ name ∈ added.keys, name ∈ ["If-None-Match", "If-Modified-Since"]

/-- The server gives the body to one who asks so, or gave it in one of these versions. -/
def Gives (versions : List V) (request : Request) (body : List UInt8) : Prop :=
  ∃ version ∈ versions, ∃ added, IsConditional added ∧
    (server version (revalidating request added)).content = body

/-- The server does not tell the two apart. -/
def AnswersAlike (request request' : Request) : Prop :=
  ∀ version added, IsConditional added →
    (server version (revalidating request added)).content =
      (server version (revalidating request' added)).content

/-- An entry that is given to a caller, at once or because the server calls it valid, was stored for
one whom the server answers alike. -/
def GetsOwn (s : State V) : Event V → Prop
  | .call fetcher method url headers now => method.toUpper = "GET" → ∀ entry,
    s.entries.get (fetcher.cache.key url) = some entry →
      entry.isStale fetcher.cache now = false →
        AnswersAlike server ⟨url, fetcher.headers, headers⟩ entry.mark
  | .answer i _ => ∀ call attempt entry, s.calls[i]? = some call →
    call.phase = .asking attempt (some entry) →
      (server s.version
        (requestFor call.fetcher call.url call.headers (some entry))).statusCode = 304 →
        AnswersAlike server call.request entry.mark
  | _ => True

/-- What a call holds, and what it returned. -/
def Fits (versions : List V) (call : Call) : Prop :=
  match call.phase with
  | .asking _ cached | .backingOff _ cached =>
    ∀ entry, cached = some entry → Gives server versions entry.mark entry.body
  | .returned resp => Gives server versions call.request resp.content
  | .raised _ => True

structure Sound (s : State V) : Prop where
  stored : ∀ key entry, s.entries.get key = some entry →
    Gives server s.versions entry.mark entry.body
  called : ∀ call ∈ s.calls, Fits server s.versions call

section Bodies

variable {server} {versions versions' : List V} {request request' : Request} {body : List UInt8}
  {call : Call} {cached : Option (Entry Request)}

theorem Gives.mono (gives : Gives server versions request body)
    (more : versions ⊆ versions') : Gives server versions' request body := by
  obtain ⟨version, mem, given⟩ := gives
  exact ⟨version, more mem, given⟩

theorem Gives.alike (gives : Gives server versions request' body)
    (alike : AnswersAlike server request request') : Gives server versions request body := by
  obtain ⟨version, mem, added, conditional, given⟩ := gives
  exact ⟨version, mem, added, conditional, (alike version added conditional).trans given⟩

theorem Fits.mono (fits : Fits server versions call) (more : versions ⊆ versions') :
    Fits server versions' call := by
  unfold Fits at fits ⊢
  split at fits
  · exact fun entry held => (fits entry held).mono more
  · exact fun entry held => (fits entry held).mono more
  · exact fits.mono more
  · trivial

theorem isConditional_empty : IsConditional .empty := nofun

theorem IsConditional.set {added : Headers} {name : String} (conditional : IsConditional added)
    (known : name ∈ ["If-None-Match", "If-Modified-Since"]) (value : String) :
    IsConditional (added.set name value) := by
  intro other mem
  obtain rfl | old := (PyDict.mem_keys_set added name other value).mp mem
  · exact known
  · exact conditional other old

theorem isConditional_conditionalHeaders (cached : Option (Entry Request)) :
    IsConditional (conditionalHeaders cached) := by
  cases cached with
  | none => exact isConditional_empty
  | some entry =>
    have etag (text : String) : IsConditional (PyDict.empty.set "If-None-Match" text) :=
      isConditional_empty.set (by simp) text
    unfold conditionalHeaders
    dsimp only
    split <;> split
    · exact (etag _).set (by simp) _
    · exact isConditional_empty.set (by simp) _
    · exact etag _
    · exact isConditional_empty

theorem gives_sent (call : Call) (cached : Option (Entry Request)) (s : State V) :
    Gives server s.versions call.request
      (server s.version (requestFor call.fetcher call.url call.headers cached)).content :=
  ⟨s.version, List.mem_append_right _ List.mem_cons_self, conditionalHeaders cached,
    isConditional_conditionalHeaders cached, rfl⟩

end Bodies

section Steps

variable {server} {s s' : State V} {event : Event V} {trace : List (State V × Event V)}

/-- A call waits on with what it holds, or has ended without a page. -/
theorem Sound.moved {i : ℕ} {call : Call} {phase : Phase Request} {entries : Entries Request}
    (sound : Sound server s)
    (stored : ∀ key entry, entries.get key = some entry →
      Gives server s.versions entry.mark entry.body)
    (fits : Fits server s.versions { call with phase := phase }) :
    Sound server (move { s with entries := entries } i call phase) where
  stored := stored
  called other mem := by
    obtain old | rfl := List.mem_or_eq_of_mem_set mem
    · exact sound.called other old
    · exact fits

/-- An answer is stored and returned for the one who asked. -/
theorem Sound.answered {i attempt : ℕ} {now : ℚ} {call : Call} {cached : Option (Entry Request)}
    (sound : Sound server s) (own : GetsOwn server s (.answer i now))
    (here : s.calls[i]? = some call) (asking : call.phase = .asking attempt cached)
    (acted : act server s i call (.answer i now) call.phase = some s') : Sound server s' := by
  have held : Fits server s.versions call := sound.called call (List.mem_of_getElem? here)
  rw [Fits, asking] at held
  rw [asking, act] at acted
  cases acted
  have given : Gives server _ _ _ := gives_sent call cached s
  set resp := server s.version (requestFor call.fetcher call.url call.headers cached) with answer
  obtain ⟨entry, rfl, valid, settled⟩ | settled | ⟨new, made, settled⟩ := settle_cases
    call.fetcher now call.url attempt cached call.request id resp
  · rw [settled]
    refine sound.moved (fun key other found => ?_)
      ((held entry rfl).alike (own call attempt entry here asking valid))
    obtain same | old := get_store call.fetcher found
    · cases same
      exact held entry rfl
    · exact sound.stored key other old
  · rw [settled]
    exact sound.moved sound.stored held
  · rw [settled]
    refine sound.moved (fun key other found => ?_) given
    obtain same | old := get_store call.fetcher found
    · rw [made other same]
      exact given
    · exact sound.stored key other old

/-- A call that waits keeps what it holds, and one that failed holds nothing. -/
theorem Sound.act {i : ℕ} {call : Call} (sound : Sound server s)
    (own : GetsOwn server s event) (here : s.calls[i]? = some call)
    (mine : ∀ j now, event = .answer j now → j = i)
    (acted : act server s i call event call.phase = some s') : Sound server s' := by
  have held : Fits server s.versions call := sound.called call (List.mem_of_getElem? here)
  cases phase : call.phase with
  | asking attempt cached =>
    cases event with
    | answer j now =>
      obtain rfl := mine j now rfl
      exact sound.answered own here phase acted
    | failure j exc =>
      rw [phase, CallerLeaks.act] at acted
      cases acted
      obtain waits | ⟨raised, failed⟩ := fail_cases call.fetcher call.url attempt cached exc
      · rw [waits]
        rw [Fits, phase] at held
        exact sound.moved sound.stored held
      · rw [failed]
        exact sound.moved sound.stored trivial
    | cancel j =>
      rw [phase, CallerLeaks.act] at acted
      cases acted
      exact sound.moved sound.stored trivial
    | change | call | wake => rw [phase] at acted; cases acted
  | backingOff attempt cached =>
    cases event with
    | wake j =>
      rw [phase, CallerLeaks.act] at acted
      cases acted
      rw [Fits, phase] at held
      exact sound.moved sound.stored held
    | cancel j =>
      rw [phase, CallerLeaks.act] at acted
      cases acted
      exact sound.moved sound.stored trivial
    | change | call | answer | failure => rw [phase] at acted; cases acted
  | returned | raised => rw [phase] at acted; cases event <;> cases acted

theorem Sound.actAt {i : ℕ} (sound : Sound server s) (own : GetsOwn server s event)
    (mine : ∀ j now, event = .answer j now → j = i)
    (acted : actAt server s event i = some s') : Sound server s' := by
  unfold CallerLeaks.actAt at acted
  cases here : s.calls[i]? with
  | none =>
    rw [here] at acted
    cases acted
  | some call =>
    rw [here] at acted
    exact sound.act own here mine acted

/-- One more call, with what it found. -/
theorem Sound.call {fetcher : HttpFetcher} {method url : String} {headers : Headers} {now : ℚ}
    (sound : Sound server s) (own : GetsOwn server s (.call fetcher method url headers now)) :
    Fits server s.versions
      ⟨fetcher, url, headers, openFetch fetcher s.entries now method url⟩ := by
  obtain ⟨exc, opened⟩ | ⟨entry, get, found, fresh, opened⟩ | ⟨cached, found, opened⟩ :=
    openFetch_cases fetcher s.entries now method url
  · rw [opened]
    trivial
  · rw [opened]
    exact (sound.stored _ entry found).alike (own get entry found fresh)
  · rw [opened]
    exact fun entry held => sound.stored _ entry (found entry held)

theorem Sound.step (sound : Sound server s) (own : GetsOwn server s event)
    (stepped : step server s event = some s') : Sound server s' := by
  cases event with
  | change version =>
    cases stepped
    have more : s.versions ⊆ s.versions ++ [version] := List.subset_append_left _ _
    exact ⟨fun key entry found => (sound.stored key entry found).mono more,
      fun call mem => (sound.called call mem).mono more⟩
  | call fetcher method url headers now =>
    cases stepped
    refine ⟨sound.stored, fun call mem => ?_⟩
    obtain old | new := List.mem_append.mp mem
    · exact sound.called call old
    · rw [List.mem_singleton.mp new]
      exact sound.call own
  | answer i now =>
    exact sound.actAt own (by rintro _ _ ⟨⟩; rfl) stepped
  | failure | wake | cancel => exact sound.actAt own nofun stepped

theorem sound_initial (version : V) : Sound server { version := version } :=
  ⟨nofun, nofun⟩

end Steps

section Samples

def sampleUrl : String := "https://a.example/"

/-- With the digest of the one URL. -/
def sampleFetcher : HttpFetcher where
  py := asciiInterpreter
  headers := PyDict.empty.set "User-Agent" "web-agent-mvp/0.1"
  cache := ⟨fun _ => "befde498a45b6c82084a07709548fe6ff7cad85ae6f76a971ad9afaa83f20595", 3600⟩

def alice : Headers := PyDict.empty.set "Authorization" "alice"

/-- The page of who asks. -/
def sampleServer (_ : Unit) (request : Request) : HttpResponse where
  url := request.url
  statusCode := 200
  content := if request.headers.get "Authorization" = some "alice" then [65] else [66]

/-- A fetch with the headers of one caller, and within the time to live another. -/
def twoFetches (headers : Headers) : List (Event Unit) :=
  [.call sampleFetcher "GET" sampleUrl alice 0, .answer 0 1,
    .call sampleFetcher "GET" sampleUrl headers 2]

/-- What the second fetch returned. -/
def secondBody (s : State Unit) : Option (List UInt8) :=
  match (s.calls[1]? : Option Call) with
  | some ⟨_, _, _, .returned resp⟩ => some resp.content
  | _ => none

theorem returned_of_secondBody {s : State Unit} {body : List UInt8}
    (second : secondBody s = some body) :
    ∃ call, s.calls[1]? = some call ∧ ∃ resp, call.phase = .returned resp ∧ resp.content = body := by
  unfold secondBody at second
  split at second
  · next fetcher url headers resp here => exact ⟨_, here, resp, rfl, Option.some.inj second⟩
  · cases second

/-- What is found was stored for the same request, and nobody waits with an entry. -/
def sameAsker (s : State Unit) : Event Unit → Bool
  | .call fetcher _ url headers _ =>
    (s.entries.get (fetcher.cache.key url)).all fun entry =>
      decide (entry.mark.url = url ∧ entry.mark.defaults.entries = fetcher.headers.entries ∧
        entry.mark.headers.entries = headers.entries)
  | .answer i _ =>
    match (s.calls[i]? : Option Call) with
    | some ⟨_, _, _, .asking _ (some _)⟩ => false
    | _ => true
  | _ => true

theorem getsOwn_of_sameAsker {s : State Unit} {event : Event Unit}
    (same : sameAsker s event = true) : GetsOwn sampleServer s event := by
  cases event with
  | call fetcher method url headers now =>
    intro get entry found fresh version added conditional
    dsimp only [sameAsker] at same
    rw [found, Option.all_some, decide_eq_true_eq] at same
    obtain ⟨url', defaults, headers'⟩ := same
    have mark : entry.mark = ⟨url, fetcher.headers, headers⟩ := by
      rw [← url', ← PyDict.ext defaults, ← PyDict.ext headers']
    rw [mark]
  | answer i now =>
    intro call attempt entry here asking
    obtain ⟨fetcher, url, headers, phase⟩ := call
    cases asking
    dsimp only [sameAsker] at same
    rw [here] at same
    cases same
  | change | failure | wake | cancel => trivial

end Samples

end SthBoring.WebKit.CallerLeaks
