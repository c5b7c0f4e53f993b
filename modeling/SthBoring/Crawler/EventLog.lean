/- Module: SthBoring/Crawler/EventLog
   source: agent_crawler/emit/logger.py, models/events.py
   digest: The events of a crawl as lines of JSON, and what can be read back of them. -/

import SthBoring.Crawler.Models
import SthBoring.Lib.Effect
import SthBoring.Lib.JsonReadBack

set_option autoImplicit false
set_option relaxedAutoImplicit false

namespace SthBoring.Crawler.EventLog

open SthBoring.Crawler.Models
open SthBoring.Lib.CanonicalJson (canon)
open SthBoring.Lib.Effect (Computation)
open SthBoring.Lib.JsonLoads (loads)
open SthBoring.Lib.JsonReadBack
open SthBoring.Lib.PyJson
open SthBoring.Lib.PyValue (Value Fields PyExc PyFloat)

variable {σ : Type}

section Events

def errorTypeValue : ErrorType → String
  | .fetchError => "fetch_error"
  | .extractError => "extract_error"
  | .qualityTooLow => "quality_too_low"
  | .relevanceRejected => "relevance_rejected"
  | .unsupportedTransport => "unsupported_transport"
  | .unsupportedExtractor => "unsupported_extractor"
  | .maxAttemptsExceeded => "max_attempts_exceeded"

/-- A label is a member of an enumeration or any text. The date is as `isoformat` writes it. -/
structure CrawlEvent where
  runId : String
  attempt : ℤ
  stepName : EventStep ⊕ String
  status : EventStatus ⊕ String
  url : String
  finalUrl : Option String := none
  domain : Option String := none
  transport : Option (TransportKind ⊕ String) := none
  extractor : Option (ExtractKind ⊕ String) := none
  adapter : Option String := none
  statusCode : Option ℤ := none
  elapsedMs : Option PyFloat := none
  retries : ℤ := 0
  qualityScore : Option PyFloat := none
  chunkCount : Option ℤ := none
  fallbackReason : Option String := none
  errorType : Option (ErrorType ⊕ String) := none
  message : String := ""
  eventMeta : Fields := []
  createdAt : String

def label {α : Type} (value : α → String) (labelled : α ⊕ String) : Value :=
  .str (labelled.elim value id)

def orNull {α : Type} (write : α → Value) (field : Option α) : Value := (field.map write).getD .null

/-- `CrawlEvent.to_dict`. -/
def CrawlEvent.toDict (event : CrawlEvent) : Fields :=
  [("run_id", .str event.runId), ("attempt", .int event.attempt),
    ("step_name", label EventStep.value event.stepName),
    ("status", label EventStatus.value event.status), ("url", .str event.url),
    ("final_url", orNull .str event.finalUrl), ("domain", orNull .str event.domain),
    ("transport", orNull (label TransportKind.value) event.transport),
    ("extractor", orNull (label ExtractKind.value) event.extractor),
    ("adapter", orNull .str event.adapter), ("status_code", orNull .int event.statusCode),
    ("elapsed_ms", orNull .float event.elapsedMs), ("retries", .int event.retries),
    ("quality_score", orNull .float event.qualityScore),
    ("chunk_count", orNull .int event.chunkCount),
    ("fallback_reason", orNull .str event.fallbackReason),
    ("error_type", orNull (label errorTypeValue) event.errorType),
    ("message", .str event.message), ("meta", .dict event.eventMeta),
    ("created_at", .str event.createdAt)]

end Events

section Logger

/-- Where events go: a file, a stream that may be given, or else the standard output. -/
structure EventLogger where
  jsonlPath : Option String := none
  hasStream : Bool := false
  echoStdout : Bool := false

/-- What has been written so far. -/
structure Sinks (σ : Type) where
  world : σ
  jsonl : List Char := []
  stream : List Char := []
  stdout : List Char := []

def line (payload : String) : List Char := payload.toList ++ ['\n']

/-- The file is opened for appending, once there is a directory for it. -/
def appendJsonl (opening : String → Computation σ PyExc Unit) (payload : String) :
    Option String → Computation (Sinks σ) PyExc Unit
  | none => pure ()
  | some path => do
    if path = "" then return ()
    Computation.within Sinks.world (fun world s => { s with world := world }) (opening path)
    Computation.modify fun s => { s with jsonl := s.jsonl ++ line payload }

/-- `EventLogger.emit`. Making the directory and opening the file may raise. -/
def emit (logger : EventLogger) (opening : String → Computation σ PyExc Unit) (event : CrawlEvent) :
    Computation (Sinks σ) PyExc Unit := do
  let payload ← Computation.lift (dumpsStrict .unicode (.dict event.toDict))
  appendJsonl opening payload logger.jsonlPath
  if logger.hasStream then
    Computation.modify fun s => { s with stream := s.stream ++ line payload }
  else if logger.echoStdout then
    Computation.modify fun s => { s with stdout := s.stdout ++ line payload }

/-- Event after event, each with how its logging ended. -/
def emitAll (logger : EventLogger) (opening : String → Computation σ PyExc Unit) :
    List CrawlEvent → Sinks σ → List (CrawlEvent × Except PyExc Unit) × Sinks σ
  | [], s => ([], s)
  | event :: events, s =>
    let ended := emit logger opening event s
    let rest := emitAll logger opening events ended.2
    ((event, ended.1) :: rest.1, rest.2)

/-- The events whose logging returned. -/
def logged (history : List (CrawlEvent × Except PyExc Unit)) : List CrawlEvent :=
  history.filterMap fun entry => if entry.2.isOk then some entry.1 else none

/-- The text that an event has in the log. -/
def payloadOf (event : CrawlEvent) : String := dumps .unicode (.dict event.toDict)

end Logger

section Emit

variable {logger : EventLogger} {opening : String → Computation σ PyExc Unit}

/-- The streams are written to behind the file. -/
theorem echo_keeps (logger : EventLogger) (payload : String) (s : Sinks σ) : ∃ s', (if logger.hasStream then
    Computation.modify fun s => { s with stream := s.stream ++ line payload }
    else if logger.echoStdout then
      Computation.modify fun s => { s with stdout := s.stdout ++ line payload }
    else pure () : Computation (Sinks σ) PyExc Unit) s = (.ok (), s') ∧ s'.jsonl = s.jsonl := by
  split
  · exact ⟨_, rfl, rfl⟩
  split
  · exact ⟨_, rfl, rfl⟩
  · exact ⟨s, rfl, rfl⟩

theorem appendJsonl_jsonl {path : String} (nonempty : path ≠ "") (payload : String) (s : Sinks σ) :
    (∃ exc s', appendJsonl opening payload (some path) s = (.error exc, s') ∧
        s'.jsonl = s.jsonl) ∨
      ∃ s', appendJsonl opening payload (some path) s = (.ok (), s') ∧
        s'.jsonl = s.jsonl ++ line payload := by
  rw [appendJsonl, if_neg nonempty]
  rcases opened : opening path s.world with ⟨exc | ⟨⟩, world⟩
  · have raised : Computation.within Sinks.world (fun world s => { s with world := world })
        (opening path) s = (.error exc, { s with world := world }) := by
      rw [Computation.within, opened]
    exact Or.inl ⟨exc, _, Computation.bind_of_error raised _, rfl⟩
  · have returned : Computation.within Sinks.world (fun world s => { s with world := world })
        (opening path) s = (.ok (), { s with world := world }) := by
      rw [Computation.within, opened]
    exact Or.inr ⟨_, Computation.bind_of_ok returned _, rfl⟩

/-- An event is logged whole or not at all. -/
theorem emit_jsonl {path : String} (named : logger.jsonlPath = some path) (nonempty : path ≠ "")
    (event : CrawlEvent) (s : Sinks σ) :
    (∃ exc s', emit logger opening event s = (.error exc, s') ∧ s'.jsonl = s.jsonl) ∨
      ∃ s', emit logger opening event s = (.ok (), s') ∧
        unserializable (.dict event.toDict) = none ∧
        s'.jsonl = s.jsonl ++ line (payloadOf event) := by
  rw [emit, named]
  cases written : unserializable (.dict event.toDict) with
  | some cls =>
    rw [dumpsStrict, written]
    exact Or.inl ⟨_, s, rfl, rfl⟩
  | none =>
    have payload : dumpsStrict .unicode (.dict event.toDict) = .ok (payloadOf event) := by
      rw [dumpsStrict, written]
      rfl
    rw [Computation.lift_bind payload]
    rcases appendJsonl_jsonl nonempty (payloadOf event) s with ⟨exc, s', raised, kept⟩ |
      ⟨s', returned, kept⟩
    · exact Or.inl ⟨exc, s', Computation.bind_of_error raised _, kept⟩
    · obtain ⟨s'', echoed, same⟩ := echo_keeps logger (payloadOf event) s'
      refine Or.inr ⟨s'', (Computation.bind_of_ok returned _).trans echoed, rfl, ?_⟩
      rw [same, kept]

end Emit

section History

variable {logger : EventLogger} (opening : String → Computation σ PyExc Unit)

/-- The log grows by the lines of the events whose logging returned. -/
theorem emitAll_jsonl {path : String} (named : logger.jsonlPath = some path) (nonempty : path ≠ "")
    (events : List CrawlEvent) (s : Sinks σ) :
    (emitAll logger opening events s).2.jsonl = s.jsonl ++
        (logged (emitAll logger opening events s).1).flatMap (fun event => line (payloadOf event)) ∧
      ∀ event ∈ logged (emitAll logger opening events s).1,
        event ∈ events ∧ unserializable (.dict event.toDict) = none := by
  induction events generalizing s with
  | nil => exact ⟨(List.append_nil s.jsonl).symm, List.forall_mem_nil _⟩
  | cons event events ih =>
    obtain ⟨grown, all⟩ := ih (emit logger opening event s).2
    rw [emitAll]
    rcases emit_jsonl named nonempty event s with ⟨exc, s', raised, kept⟩ |
      ⟨s', returned, fine, kept⟩
    · rw [raised] at grown all ⊢
      refine ⟨grown.trans (by rw [kept]; rfl), fun other mem => ?_⟩
      exact ⟨List.mem_cons_of_mem event (all other mem).1, (all other mem).2⟩
    · rw [returned] at grown all ⊢
      refine ⟨grown.trans ?_, fun other mem => ?_⟩
      · rw [kept, List.append_assoc]
        rfl
      · rcases List.mem_cons.mp mem with rfl | later
        · exact ⟨List.mem_cons_self, fine⟩
        · exact ⟨List.mem_cons_of_mem event (all other later).1, (all other later).2⟩

/-- Lines without line breaks inside are found again. -/
theorem splitOn_lines (payloads : List String) (whole : ∀ p ∈ payloads, '\n' ∉ p.toList) :
    (payloads.flatMap line).splitOn '\n' = payloads.map String.toList ++ [[]] := by
  induction payloads with
  | nil => rfl
  | cons p payloads ih =>
    have rest := ih fun q mem => whole q (List.mem_cons_of_mem p mem)
    have first : p.toList.splitOn '\n' = [p.toList] :=
      List.splitOn_eq_singleton (whole p List.mem_cons_self)
    rw [List.flatMap_cons, line, List.append_assoc, List.singleton_append,
      List.splitOn_append_cons_self, first, rest]
    rfl

end History

section Sample

/-- The start of a run, and a page that was fetched. -/
def sampleEvents : List CrawlEvent :=
  [{ runId := "run", attempt := 0, stepName := .inl .policy, status := .inl .ok,
     url := "https://example.test/page", message := "plan\nbuilt", createdAt := "2024-01-01T00:00:00" },
   { runId := "run", attempt := 1, stepName := .inr "custom", status := .inr "done",
     url := "https://example.test/page", elapsedMs := some ⟨3 / 2, "1.5"⟩,
     eventMeta := [("raw", .bytes .empty)], createdAt := "2024-01-01T00:00:01" }]

theorem json_sampleEvents : ∀ event ∈ sampleEvents, unserializable (.dict event.toDict) = none →
    Loadable floatOf (.dict event.toDict) := by
  intro event mem
  rcases List.mem_pair.mp mem with rfl | rfl
  · intro _
    simp [Loadable, MembersLoadable, CrawlEvent.toDict, label, orNull]
  · intro fine
    exact absurd fine (by decide +kernel)

end Sample

end SthBoring.Crawler.EventLog
