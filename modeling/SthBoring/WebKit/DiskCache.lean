/- Module: SthBoring/WebKit/DiskCache
   source: webkit/fetchers/http.py
   digest: Saves and loads of one cache entry, one file operation at a time. -/

import SthBoring.Lib.Inodes
import SthBoring.Lib.PyObject
import SthBoring.Lib.Runs

set_option autoImplicit false
set_option relaxedAutoImplicit false

namespace SthBoring.WebKit.DiskCache

open SthBoring.Lib.Inodes (Disk)
open SthBoring.Lib.OrderedDict (PyDict assocSet)
open SthBoring.Lib.PyValue (Value Fields PyExc PyFloat)

abbrev Meta := PyDict String Value

/-- `json.dump` and `json.load`: the octets that a dict is written as, with the exception that
stopped the writing, and the value that octets are read as. -/
structure Json where
  dump : Meta → List UInt8 × Option PyExc
  load : List UInt8 → Except PyExc Value
  lossless : ∀ metadata text, dump metadata = (text, none) → load text = .ok (.dict metadata.entries)

/-- The two files of an entry. -/
inductive Part where
  | body | metadata
  deriving DecidableEq

/-- `<key>.bin` and `<key>.json`, and either with `.tmp` behind it. -/
structure FileName where
  part : Part
  tmp : Bool
  deriving DecidableEq

abbrev CacheDir := Disk FileName UInt8

/-- A call of `save`, with the time that it reads. -/
structure SaveCall where
  body : List UInt8
  metadata : Meta
  now : PyFloat

def stamped (call : SaveCall) : Meta := call.metadata.set "fetched_at_epoch" (.float call.now)

def contentOf (json : Json) (call : SaveCall) : Part → List UInt8
  | .body => call.body
  | .metadata => (json.dump (stamped call)).1

/-- Where a `save` is: before opening, writing or replacing one of its files. -/
inductive SaveStage where
  | opening (part : Part)
  | writing (part : Part) (file offset : ℕ)
  | replacing (part : Part)
  | saved
  | stopped

/-- A call of `load`, with the time to live of its cache and the time that it reads. -/
structure LoadCall where
  ttl : ℚ
  now : ℚ

inductive LoadStage where
  | checking (part : Part)
  | openingMeta
  | readingMeta (file : ℕ) (acc : List UInt8)
  | openingBody (metadata : Fields)
  | readingBody (file : ℕ) (acc : List UInt8) (metadata : Fields)
  | returned (result : Option (List UInt8 × Fields))
  | stopped

/-- A process at one of its calls. -/
inductive Agent where
  | save (call : SaveCall) (stage : SaveStage)
  | load (call : LoadCall) (stage : LoadStage)

structure State where
  disk : CacheDir := .empty
  agents : List Agent := []

inductive Event where
  | save (call : SaveCall)
  | load (call : LoadCall)
  /-- The next file operation of a process, which moves at most so many octets and one. -/
  | act (agent size : ℕ)
  /-- A process crashes, or an operation raises. -/
  | stop (agent : ℕ)

variable (json : Json)

section Saving

/-- A file that was closed: a dict that could not be written to its end raises. -/
def closed (call : SaveCall) : Part → SaveStage
  | .body => .opening .metadata
  | .metadata => if (json.dump (stamped call)).2.isNone then .replacing .body else .stopped

def replaced : Part → SaveStage
  | .body => .replacing .metadata
  | .metadata => .saved

def actSave (disk : CacheDir) (size : ℕ) (call : SaveCall) : SaveStage → Option (SaveStage × CacheDir)
  | .opening part =>
    let opened := disk.openWrite ⟨part, true⟩
    some (.writing part opened.1 0, opened.2)
  | .writing part file offset =>
    let chunk := ((contentOf json call part).drop offset).take (size + 1)
    if chunk.isEmpty then some (closed json call part, disk)
    else some (.writing part file (offset + chunk.length), disk.writeAt 0 file offset chunk)
  | .replacing part =>
    match disk.replace ⟨part, true⟩ ⟨part, false⟩ with
    | some disk' => some (replaced part, disk')
    | none => some (.stopped, disk)
  | .saved | .stopped => none

end Saving

section Loading

/-- What `load` makes of the text of the metadata. -/
def readBack (call : LoadCall) (text : List UInt8) : Option Fields :=
  match json.load text with
  | .ok (.dict metadata) =>
    if 0 < call.ttl then
      match ((Fields.get metadata "fetched_at_epoch").getD (.float ⟨0, "0.0"⟩)).number with
      | some fetchedAt =>
        if call.ttl < call.now - fetchedAt then some (assocSet "_stale" (.bool true) metadata)
        else some metadata
      | none => none
    else some metadata
  | _ => none

/-- The octets behind those that were read, at most so many and one. -/
def nextChunk (disk : CacheDir) (size file : ℕ) (acc : List UInt8) : List UInt8 :=
  ((disk.content file).drop acc.length).take (size + 1)

/-- Every exception inside the `try` becomes `None`. -/
def actLoad (disk : CacheDir) (size : ℕ) (call : LoadCall) : LoadStage → Option LoadStage
  | .checking .body =>
    some (if (disk.names ⟨.body, false⟩).isSome then .checking .metadata else .returned none)
  | .checking .metadata =>
    some (if (disk.names ⟨.metadata, false⟩).isSome then .openingMeta else .returned none)
  | .openingMeta =>
    match disk.names ⟨.metadata, false⟩ with
    | some file => some (.readingMeta file [])
    | none => some (.returned none)
  | .readingMeta file acc =>
    let chunk := nextChunk disk size file acc
    if chunk.isEmpty then
      match readBack json call acc with
      | some metadata => some (.openingBody metadata)
      | none => some (.returned none)
    else some (.readingMeta file (acc ++ chunk))
  | .openingBody metadata =>
    match disk.names ⟨.body, false⟩ with
    | some file => some (.readingBody file [] metadata)
    | none => some (.returned none)
  | .readingBody file acc metadata =>
    let chunk := nextChunk disk size file acc
    if chunk.isEmpty then some (.returned (some (acc, metadata)))
    else some (.readingBody file (acc ++ chunk) metadata)
  | .returned _ | .stopped => none

end Loading

def actAgent (disk : CacheDir) (size : ℕ) : Agent → Option (Agent × CacheDir)
  | .save call stage => (actSave json disk size call stage).map fun r => (.save call r.1, r.2)
  | .load call stage => (actLoad json disk size call stage).map fun r => (.load call r, disk)

def stopAgent : Agent → Agent
  | .save call .saved => .save call .saved
  | .save call _ => .save call .stopped
  | .load call (.returned result) => .load call (.returned result)
  | .load call _ => .load call .stopped

def step (s : State) : Event → Option State
  | .save call => some { s with agents := s.agents ++ [.save call (.opening .body)] }
  | .load call => some { s with agents := s.agents ++ [.load call (.checking .body)] }
  | .act i size => do
    let agent ← s.agents[i]?
    let (agent', disk) ← actAgent json s.disk size agent
    return { disk := disk, agents := s.agents.set i agent' }
  | .stop i => do
    let agent ← s.agents[i]?
    return { s with agents := s.agents.set i (stopAgent agent) }

/-- A run from an empty directory, with the state before each of its events. -/
abbrev Reaches (trace : List (State × Event)) (s : State) : Prop :=
  Lib.Runs.Reaches (step json) (· = {}) trace s

section Conditions

/-- Between its first file operation and its last. -/
def Agent.isSaving : Agent → Bool
  | .save _ (.opening .metadata) | .save _ (.writing _ _ _) | .save _ (.replacing _) => true
  | _ => false

/-- Between its two replacements. -/
def Agent.isReplacing : Agent → Bool
  | .save _ (.replacing .metadata) => true
  | _ => false

/-- Between opening the metadata and opening the body. -/
def Agent.isBetween : Agent → Bool
  | .load _ (.readingMeta _ _) | .load _ (.openingBody _) => true
  | _ => false

/-- A save begins with the files while no other one is at them, does not crash between its two
replacements, and does not replace the body while a load has only the metadata open; a load does
not open the metadata between the two replacements of a save. -/
def undisturbed (s : State) : Event → Bool
  | .act i _ =>
    match s.agents[i]? with
    | some (.save _ (.opening .body)) => s.agents.all fun agent => !agent.isSaving
    | some (.save _ (.replacing .body)) => s.agents.all fun agent => !agent.isBetween
    | some (.load _ .openingMeta) => s.agents.all fun agent => !agent.isReplacing
    | _ => true
  | .stop i =>
    match s.agents[i]? with
    | some agent => !agent.isReplacing
    | none => true
  | _ => true

end Conditions

end SthBoring.WebKit.DiskCache
