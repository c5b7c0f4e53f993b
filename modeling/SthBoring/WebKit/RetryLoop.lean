/- Module: SthBoring/WebKit/RetryLoop
   source: webkit/fetchers/http.py
   digest: The attempts of one fetch, and how far the backoff lets them go. -/

import SthBoring.WebKit.CachedFetch

set_option autoImplicit false
set_option relaxedAutoImplicit false

namespace SthBoring.WebKit.RetryLoop

open SthBoring.Lib
open SthBoring.Lib.PyValue (PyExc)
open SthBoring.Lib.UrlParse (asciiInterpreter netloc)
open SthBoring.WebKit.CachedFetch

/-- The other fields of `RetryPolicy`. -/
structure BackoffPolicy where
  baseBackoffS : ℚ := Binary64.round (6 / 10)
  maxBackoffS : ℚ := 8
  jitterS : ℚ := 1 / 4

def overflowError : PyExc :=
  ⟨"OverflowError", ["ArithmeticError", "Exception"], "int too large to convert to float"⟩

/-- Natural numbers from here on are no floats. -/
@[irreducible] def floatLimit : ℕ := 2 ^ 1024 - 2 ^ 970

/-- A natural number as the other factor of a float. -/
def toFloat (n : ℕ) : Except PyExc ℚ :=
  if n < floatLimit then .ok (Binary64.round n) else .error overflowError

/-- `backoff`, when `random.uniform` draws this. -/
def BackoffPolicy.backoff (policy : BackoffPolicy) (attempt : ℕ) (draw : ℚ) : Except PyExc ℚ :=
  match toFloat (2 ^ (attempt - 1)) with
  | .error exc => .error exc
  | .ok power =>
    let exp := min policy.maxBackoffS (Binary64.round (policy.baseBackoffS * power))
    .ok (Binary64.round (exp + draw))

/-- What an attempt meets outside: what its request ends in, the time, and what `random.uniform`
draws. -/
structure Outside where
  outcome : ℕ → Except PyExc HttpResponse
  time : ℕ → ℚ := fun _ => 0
  uniform : ℕ → ℚ → ℚ := fun _ _ => 0

/-- The cache directory, and the requests that were sent. -/
structure Traffic where
  entries : Entries Unit := .empty
  sent : List Request := []

abbrev Ended := Except PyExc (FetchResponse Unit) × Traffic

def Traffic.ask (traffic : Traffic) (request : Request) : Traffic :=
  { traffic with sent := traffic.sent ++ [request] }

variable (fetcher : HttpFetcher) (policy : BackoffPolicy) (outside : Outside) (url : String)
  (headers : Headers)

/-- So many turns of the loop, the next of them numbered. -/
def attempts (cached : Option (Entry Unit)) : ℕ → ℕ → Traffic → Ended
  | 0, _, traffic => (.error (fetchFailed url "None"), traffic)
  | left + 1, attempt, traffic =>
    let asked := traffic.ask (requestFor fetcher url headers cached)
    let waited := policy.backoff attempt (outside.uniform attempt policy.jitterS)
    match outside.outcome attempt with
    | .ok resp =>
      match settle fetcher (outside.time attempt) url attempt cached () id resp with
      | (.returned page, new) =>
        (.ok page, { asked with entries := store fetcher asked.entries url new })
      | (.raised exc, _) => (.error exc, asked)
      | (.asking _ _, _) | (.backingOff _ _, _) =>
        match waited with
        | .ok _ => attempts cached left (attempt + 1) asked
        -- The wait is inside the `try`.
        | .error exc => (.error (fetchFailed url exc.message), asked)
    | .error exc =>
      match fail fetcher url attempt cached exc with
      | .returned page => (.ok page, asked)
      | .raised exc => (.error exc, asked)
      | .asking _ _ | .backingOff _ _ =>
        match waited with
        | .ok _ => attempts cached left (attempt + 1) asked
        | .error exc => (.error exc, asked)

/-- `HttpFetcher.fetch`. -/
def fetch (entries : Entries Unit) (now : ℚ) (method : String) : Ended :=
  match openFetch fetcher entries now method url with
  | .returned page => (.ok page, { entries := entries })
  | .raised exc => (.error exc, { entries := entries })
  | .asking _ cached | .backingOff _ cached =>
    attempts fetcher policy outside url headers cached fetcher.retry.maxAttempts 1
      { entries := entries }

/-- No further request follows this outcome. -/
def isFinal : Except PyExc HttpResponse → Bool
  | .ok resp => decide (resp.statusCode ∉ retryableStatuses)
  | .error exc => !isRetryable exc

/-- The last attempt is the first with a final outcome, or the last that is allowed. -/
structure IsLast (last : ℕ) : Prop where
  positive : 1 ≤ last
  allowed : last ≤ fetcher.retry.maxAttempts
  before : ∀ i, 1 ≤ i → i < last → isFinal (outside.outcome i) = false
  ends : isFinal (outside.outcome last) = true ∨ last = fetcher.retry.maxAttempts

/-- What is stored of a response: nothing, or a page. -/
def kept (now : ℚ) (resp : HttpResponse) : Option (Entry Unit) :=
  if resp.statusCode = 200 ∧ resp.content ≠ [] then some (received fetcher now url () resp).1
  else none

/-- How a fetch ends with the outcome of its last attempt. -/
def endedWith (last : ℕ) (entries : Entries Unit) (sent : List Request) : Ended :=
  match outside.outcome last with
  | .ok resp => (.ok (received fetcher (outside.time last) url () resp).2,
      ⟨store fetcher entries url (kept fetcher url (outside.time last) resp), sent⟩)
  | .error exc => (.error (fetchFailed url exc.message), ⟨entries, sent⟩)

/-- The requests go out up to the last attempt, and its outcome is what the fetch ends with. -/
def Specified (entries : Entries Unit) (ended : Ended) : Prop :=
  ∃ last, IsLast fetcher outside last ∧ ended = endedWith fetcher outside url last entries
    (List.replicate last (requestFor fetcher url headers (none : Option (Entry Unit))))

/-- The attempt behind which the power of two is no float. -/
def lastBackoff : ℕ := 1025

section Turns

variable {fetcher policy outside url headers} {attempt left : ℕ} {traffic : Traffic}

theorem pow_lt_sub_iff (m n k : ℕ) (far : m + 1 < n) : 2 ^ k < 2 ^ n - 2 ^ m ↔ k < n := by
  obtain ⟨half, rfl⟩ := Nat.exists_eq_add_of_lt (Nat.zero_lt_of_lt far)
  rw [Nat.zero_add] at far ⊢
  have double : 2 ^ (half + 1) = 2 ^ half + 2 ^ half := by rw [pow_succ', two_mul]
  have less : 2 ^ m < 2 ^ half := Nat.pow_lt_pow_right (by omega) (by omega)
  constructor
  · intro below
    by_contra large
    have above : 2 ^ (half + 1) ≤ 2 ^ k := Nat.pow_le_pow_right (by omega) (not_lt.mp large)
    exact absurd (below.trans_le (Nat.sub_le _ _)) (not_lt.mpr above)
  · intro below
    have most : 2 ^ k ≤ 2 ^ half := Nat.pow_le_pow_right (by omega) (Nat.le_of_lt_succ below)
    omega

theorem pow_lt_floatLimit_iff (k : ℕ) : 2 ^ k < floatLimit ↔ k < 1024 := by
  unfold floatLimit
  exact pow_lt_sub_iff 970 1024 k (by decide)

theorem backoff_ok (before : attempt < lastBackoff) (draw : ℚ) :
    ∃ delay, policy.backoff attempt draw = .ok delay := by
  have below : 2 ^ (attempt - 1) < floatLimit := by
    rw [pow_lt_floatLimit_iff]
    unfold lastBackoff at before
    omega
  unfold BackoffPolicy.backoff toFloat
  rw [if_pos below]
  exact ⟨_, rfl⟩

theorem backoff_overflows (draw : ℚ) :
    policy.backoff lastBackoff draw = .error overflowError := by
  have above : ¬ 2 ^ (lastBackoff - 1) < floatLimit := by
    rw [pow_lt_floatLimit_iff, lastBackoff]
    exact lt_irrefl _
  unfold BackoffPolicy.backoff toFloat
  rw [if_neg above]

/-- Neither a response nor an exception ends the fetch before the last attempt, if it is not
final. -/
theorem attempts_waits (again : isFinal (outside.outcome attempt) = false)
    (more : attempt < fetcher.retry.maxAttempts) (before : attempt < lastBackoff) :
    attempts fetcher policy outside url headers none (left + 1) attempt traffic =
      attempts fetcher policy outside url headers none left (attempt + 1)
        (traffic.ask (requestFor fetcher url headers (none : Option (Entry Unit)))) := by
  obtain ⟨delay, waited⟩ : ∃ delay, policy.backoff attempt _ = .ok delay :=
    backoff_ok before (outside.uniform attempt policy.jitterS)
  cases got : outside.outcome attempt with
  | ok resp =>
    have retryable : resp.statusCode ∈ retryableStatuses := by simpa [got, isFinal] using again
    simp [attempts, got, settle, retryable, more, waited]
  | error exc =>
    have retryable : isRetryable exc = true := by simpa [got, isFinal] using again
    simp [attempts, got, fail, retryable, more, waited]

theorem attempts_ends
    (ends : isFinal (outside.outcome attempt) = true ∨ attempt = fetcher.retry.maxAttempts) :
    attempts fetcher policy outside url headers none (left + 1) attempt traffic =
      endedWith fetcher outside url attempt traffic.entries
        (traffic.sent ++ [requestFor fetcher url headers (none : Option (Entry Unit))]) := by
  cases got : outside.outcome attempt with
  | ok resp =>
    have last : ¬ (resp.statusCode ∈ retryableStatuses ∧ attempt < fetcher.retry.maxAttempts) := by
      rintro ⟨retryable, more⟩
      obtain final | same := ends
      · simp [got, isFinal, retryable] at final
      · omega
    simp [attempts, got, settle, last, endedWith, kept, Traffic.ask]
  | error exc =>
    have last : ¬ (isRetryable exc = true ∧ attempt < fetcher.retry.maxAttempts) := by
      rintro ⟨retryable, more⟩
      obtain final | same := ends
      · simp [got, isFinal, retryable] at final
      · omega
    simp only [attempts, got, fail, Bool.and_eq_true, decide_eq_true_eq, if_neg last, endedWith,
      Traffic.ask]

/-- At that attempt the wait raises: in the `try`, or in its handler. -/
theorem attempts_overflows (again : isFinal (outside.outcome lastBackoff) = false)
    (more : lastBackoff < fetcher.retry.maxAttempts) :
    (attempts fetcher policy outside url headers none (left + 1) lastBackoff traffic).2.sent =
      traffic.sent ++ [requestFor fetcher url headers (none : Option (Entry Unit))] := by
  have waited : policy.backoff lastBackoff _ = .error overflowError :=
    backoff_overflows (outside.uniform lastBackoff policy.jitterS)
  cases got : outside.outcome lastBackoff with
  | ok resp =>
    have retryable : resp.statusCode ∈ retryableStatuses := by simpa [got, isFinal] using again
    simp [attempts, got, settle, retryable, more, waited, Traffic.ask]
  | error exc =>
    have retryable : isRetryable exc = true := by simpa [got, isFinal] using again
    simp [attempts, got, fail, retryable, more, waited, Traffic.ask]

/-- So many attempts wait, one after the other. -/
theorem attempts_skip (n : ℕ) (allowed : attempt + n ≤ fetcher.retry.maxAttempts)
    (within : attempt + n ≤ lastBackoff)
    (again : ∀ i, attempt ≤ i → i < attempt + n → isFinal (outside.outcome i) = false) :
    attempts fetcher policy outside url headers none (left + n) attempt traffic =
      attempts fetcher policy outside url headers none left (attempt + n)
        { traffic with sent := traffic.sent ++
            List.replicate n (requestFor fetcher url headers (none : Option (Entry Unit))) } := by
  induction n generalizing attempt traffic with
  | zero => simp
  | succ n ih =>
    have first : isFinal (outside.outcome attempt) = false :=
      again attempt le_rfl (Nat.lt_add_of_pos_right n.succ_pos)
    have rest : ∀ i, attempt + 1 ≤ i → i < attempt + 1 + n →
        isFinal (outside.outcome i) = false :=
      fun i above below => again i (by omega) (by omega)
    rw [← Nat.add_assoc, attempts_waits first (by omega) (by omega), ih (by omega) (by omega) rest]
    simp [Traffic.ask, List.replicate_succ, Nat.add_comm 1 n, Nat.add_assoc]

end Turns

section Runs

variable {fetcher policy outside url headers} {entries : Entries Unit}

theorem exists_isLast (allowed : 1 ≤ fetcher.retry.maxAttempts) :
    ∃ last, IsLast fetcher outside last := by
  let ends (i : ℕ) : Prop :=
    1 ≤ i ∧ (isFinal (outside.outcome i) = true ∨ i = fetcher.retry.maxAttempts)
  have some_ends : ∃ i, ends i := ⟨_, allowed, .inr rfl⟩
  have found : ends (Nat.find some_ends) := Nat.find_spec some_ends
  refine ⟨Nat.find some_ends, found.1, Nat.find_min' some_ends ⟨allowed, .inr rfl⟩, ?_, found.2⟩
  intro i positive earlier
  have not_yet : ¬ ends i := Nat.find_min some_ends earlier
  exact Bool.eq_false_iff.mpr fun final => not_yet ⟨positive, .inl final⟩

theorem attempts_of_isLast {last : ℕ} (isLast : IsLast fetcher outside last)
    (within : last ≤ lastBackoff) :
    attempts fetcher policy outside url headers none fetcher.retry.maxAttempts 1
        { entries := entries } =
      endedWith fetcher outside url last entries
        (List.replicate last (requestFor fetcher url headers (none : Option (Entry Unit)))) := by
  obtain ⟨before, rfl⟩ := Nat.exists_eq_add_of_le' isLast.positive
  obtain ⟨left, total⟩ := Nat.exists_eq_add_of_le' isLast.allowed
  have again : ∀ i, 1 ≤ i → i < 1 + before → isFinal (outside.outcome i) = false :=
    fun i positive earlier => isLast.before i positive (by omega)
  have turns : fetcher.retry.maxAttempts = (left + 1) + before := by omega
  have here : 1 + before = before + 1 := Nat.add_comm _ _
  rw [turns, attempts_skip before (by omega) (by omega) again, here, attempts_ends isLast.ends,
    List.replicate_succ', List.nil_append]

theorem sent_of_overflows (more : lastBackoff < fetcher.retry.maxAttempts)
    (again : ∀ i, 1 ≤ i → i ≤ lastBackoff → isFinal (outside.outcome i) = false) :
    (attempts fetcher policy outside url headers none fetcher.retry.maxAttempts 1
      { entries := entries }).2.sent.length = lastBackoff := by
  obtain ⟨left, total⟩ := Nat.exists_eq_add_of_lt more
  have turns : fetcher.retry.maxAttempts = (left + 1 + 1) + 1024 := by
    unfold lastBackoff at total
    omega
  have waits : ∀ i, 1 ≤ i → i < 1 + 1024 → isFinal (outside.outcome i) = false :=
    fun i positive below => again i positive (Nat.le_of_lt_succ (by unfold lastBackoff; omega))
  have last : isFinal (outside.outcome lastBackoff) = false :=
    again lastBackoff (by simp [lastBackoff]) le_rfl
  rw [turns, attempts_skip 1024 (by omega) (by simp [lastBackoff]) waits,
    show 1 + 1024 = lastBackoff from rfl, attempts_overflows last more, List.length_append,
    List.nil_append, List.length_replicate, List.length_singleton]
  rfl

theorem length_of_specified {ended : Ended}
    (specified : Specified fetcher outside url headers entries ended) :
    IsLast fetcher outside ended.2.sent.length := by
  obtain ⟨last, isLast, rfl⟩ := specified
  have sent : (endedWith fetcher outside url last entries (List.replicate last
      (requestFor fetcher url headers (none : Option (Entry Unit))))).2.sent.length = last := by
    unfold endedWith
    split <;> simp
  rw [sent]
  exact isLast

theorem not_specified_of_overflows (more : lastBackoff < fetcher.retry.maxAttempts)
    (again : ∀ i, 1 ≤ i → i ≤ lastBackoff → isFinal (outside.outcome i) = false) :
    ¬ Specified fetcher outside url headers entries
      (attempts fetcher policy outside url headers none fetcher.retry.maxAttempts 1
        { entries := entries }) := by
  intro specified
  have isLast := length_of_specified specified
  rw [sent_of_overflows more again] at isLast
  obtain final | same := isLast.ends
  · rw [again lastBackoff isLast.positive le_rfl] at final
    cases final
  · exact absurd same more.ne

variable {now : ℚ} {method host : String}

theorem fetch_of_uncached (get : method.toUpper = "GET")
    (isUrl : netloc fetcher.py url = .ok host)
    (uncached : entries.get (fetcher.cache.key url) = none)
    (allowed : 1 ≤ fetcher.retry.maxAttempts) :
    fetch fetcher policy outside url headers entries now method =
      attempts fetcher policy outside url headers none fetcher.retry.maxAttempts 1
        { entries := entries } := by
  have some_turn : fetcher.retry.maxAttempts ≠ 0 := Nat.one_le_iff_ne_zero.mp allowed
  simp [fetch, openFetch, firstAttempt, get, isUrl, uncached, some_turn]

end Runs

section Sample

def sampleFetcher (maxAttempts : ℕ) : HttpFetcher where
  py := asciiInterpreter
  headers := .empty
  cache := ⟨fun _ => "k", 3600⟩
  retry := ⟨maxAttempts⟩

def sampleUrl : String := "https://a.test/b"

def timeout : PyExc := ⟨"ReadTimeout", ["TimeoutException", "Exception"], "timed out"⟩

/-- A busy server, then a timeout, then the page. -/
def recovers : Outside where
  outcome
    | 1 => .ok { url := sampleUrl, statusCode := 503, content := [] }
    | 2 => .error timeout
    | _ => .ok { url := sampleUrl, statusCode := 200, content := [104, 105] }

/-- A server that is always busy. -/
def busy : Outside where
  outcome _ := .ok { url := sampleUrl, statusCode := 503, content := [] }

theorem netloc_sampleUrl : netloc asciiInterpreter sampleUrl = .ok "a.test" := by
  rfl

end Sample

end SthBoring.WebKit.RetryLoop
