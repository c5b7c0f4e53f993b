/- Module: SthBoring/WebKit/Clean
   source: webkit/models.py, webkit/pipeline/clean.py
   digest: Documents, their normalized text, and its cut into chunks. -/

import SthBoring.Lib.PyValue
import SthBoring.Lib.WhiteSpace

set_option autoImplicit false
set_option relaxedAutoImplicit false

namespace SthBoring.WebKit.Clean

open SthBoring.Lib.PyValue (Fields PyFloat isSpace)
open SthBoring.Lib.WhiteSpace

structure Chunk where
  text : String
  order : ℕ
  sourceUrl : String
  title : Option String := none
  chunkMeta : Fields := []
  score : PyFloat := ⟨0, "0.0"⟩
  features : Fields := []

structure Document where
  url : String
  title : Option String
  text : String
  links : List String := []
  chunks : List Chunk := []
  docMeta : Fields := []

structure Cleaner where
  maxChunkChars : ℕ := 1200
  minChunkChars : ℕ := 200

section CleanText

/-- `text.replace("\\r\\n", "\\n").replace("\\r", "\\n")`. -/
def normalizeNewlines : List Char → List Char
  | [] => []
  | '\r' :: '\n' :: cs => '\n' :: normalizeNewlines cs
  | c :: cs => (if c = '\r' then '\n' else c) :: normalizeNewlines cs

/-- `re.sub(r"[ \\t]+", " ", text)`, inside a run or not. -/
def collapseSpaces (inRun : Bool) : List Char → List Char
  | [] => []
  | c :: cs =>
    if c = ' ' ∨ c = '\t' then
      if inRun then collapseSpaces true cs else ' ' :: collapseSpaces true cs
    else c :: collapseSpaces false cs

/-- The loop over the lines: of a streak of empty ones the first is kept. -/
def dropBlankStreaks (blank : Bool) : List (List Char) → List (List Char)
  | [] => []
  | line :: lines =>
    if line = [] then
      if blank then dropBlankStreaks true lines else [] :: dropBlankStreaks true lines
    else line :: dropBlankStreaks false lines

/-- `re.sub(r"\\n{3,}", "\\n\\n", text)`, behind so many newlines. -/
def collapseNewlines (run : ℕ) : List Char → List Char
  | [] => []
  | c :: cs =>
    if c = '\n' then
      if run < 2 then '\n' :: collapseNewlines (run + 1) cs else collapseNewlines run cs
    else c :: collapseNewlines 0 cs

/-- Python's characters. -/
def chars : Alphabet Char where
  isSpace := isSpace
  isNewline := (· == '\n')
  newline := '\n'
  newline_isNewline := rfl
  isSpace_of_isNewline := by
    intro c h
    rw [eq_of_beq h]
    decide

def cleanText (text : List Char) : List Char :=
  let text := collapseSpaces false (normalizeNewlines text)
  let lines := (text.splitOn '\n').map (strip chars)
  collapseNewlines 0 (strip chars (['\n'].intercalate (dropBlankStreaks false lines)))

end CleanText

section Chunks

/-- A chunk while it is made, over any characters. -/
structure Piece (α : Type) where
  text : List α
  order : ℕ

variable {α : Type} (A : Alphabet α)

/-- The paragraphs of a cleaned text. -/
def paragraphs (cleaned : List α) : List (List α) :=
  ((splitBlankLines A cleaned).map (strip A)).filter (fun p => !p.isEmpty)

/-- The slices of a paragraph from `start` on; `fuel` bounds how many. -/
def slices (size : ℕ) (p : List α) : ℕ → ℕ → List (List α)
  | 0, _ => []
  | fuel + 1, start =>
    if start < p.length then (p.drop start).take size :: slices size p fuel (start + size) else []

/-- The chunks made so far, the paragraphs that wait for a chunk, and the next number. -/
structure Packing (α : Type) where
  pieces : List (Piece α) := []
  buf : List α := []
  order : ℕ := 0

def Packing.emit (s : Packing α) (text : List α) : Packing α :=
  { s with pieces := s.pieces ++ [⟨text, s.order⟩], order := s.order + 1 }

def flushBuf (s : Packing α) : Packing α :=
  if (strip A s.buf).isEmpty then s else { s.emit (strip A s.buf) with buf := [] }

/-- One paragraph. The paragraphs in the buffer are not flushed before a paragraph is split. -/
def pack (size : ℕ) (s : Packing α) (p : List α) : Packing α :=
  if size < p.length then
    (slices size p p.length 0).foldl (fun s part => s.emit (strip A part)) s
  else if s.buf = [] then { s with buf := p }
  else if s.buf.length + 2 + p.length ≤ size then { s with buf := s.buf ++ blankLine A ++ p }
  else { flushBuf A s with buf := p }

def packAll (size : ℕ) (paras : List (List α)) : Packing α :=
  flushBuf A (paras.foldl (pack A size) {})

/-- Merged chunks, and the tiny ones that wait to be merged. -/
structure Merging (α : Type) where
  merged : List (Piece α) := []
  tmp : List α := []
  tmpOrder : ℕ := 0

def Merging.flush (m : Merging α) : Merging α :=
  if m.tmp = [] then m
  else { m with merged := m.merged ++ [⟨strip A m.tmp, m.tmpOrder⟩], tmp := [] }

def mergeStep (least : ℕ) (m : Merging α) (ch : Piece α) : Merging α :=
  if ch.text.length < least then
    if m.tmp = [] then { m with tmp := ch.text, tmpOrder := ch.order }
    else { m with tmp := m.tmp ++ blankLine A ++ ch.text }
  else { m.flush A with merged := (m.flush A).merged ++ [ch] }

def mergeTiny (least : ℕ) (pieces : List (Piece α)) : List (Piece α) :=
  ((pieces.foldl (mergeStep A least) {}).flush A).merged

/-- The chunks of a cleaned text, before they are numbered again. -/
def chunkPieces (cleaner : Cleaner) (cleaned : List α) : List (Piece α) :=
  mergeTiny A cleaner.minChunkChars
    (packAll A cleaner.maxChunkChars (paragraphs A cleaned)).pieces

end Chunks

def toChunk (doc : Document) (piece : Piece Char × ℕ) : Chunk where
  text := String.ofList piece.1.text
  order := piece.2
  sourceUrl := doc.url
  title := doc.title

/-- `Cleaner.chunk`, which updates the document. -/
def chunk (cleaner : Cleaner) (doc : Document) : Document :=
  let cleaned := cleanText doc.text.toList
  { doc with
    text := String.ofList cleaned
    chunks := (chunkPieces chars cleaner cleaned).zipIdx.map (toChunk doc) }

example : ((chunk ⟨5, 0⟩ ⟨"u", none, "ab \r\n\r\n\r\n cd\n\ne f", [], [], []⟩).chunks.map
    (fun c => (c.text, c.order))) = [("ab", 0), ("cd", 1), ("e f", 2)] := by decide +kernel

end SthBoring.WebKit.Clean
