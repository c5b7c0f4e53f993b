/- Module: SthBoring/Crawler/Assess
   source: agent_crawler/assess/*.py, agent_crawler/render/renderer.py,
     agent_crawler/emit/artifact_adapter.py
   digest: How an extracted document is judged, shown and stored. -/

import SthBoring.Crawler.Models
import SthBoring.Lib.Binary64

set_option autoImplicit false
set_option relaxedAutoImplicit false

namespace SthBoring.Crawler.Assess

open SthBoring.Crawler.Models
open SthBoring.Lib
open SthBoring.Lib.PyValue (PyExc isSpace joinWith splitLines strip textOr)
open SthBoring.WebKit.Clean (Chunk Document)

section Quality

structure QualityThresholds where
  minTextChars : ℕ := 200
  minChunks : ℕ := 1
  maxLinkDensity : ℚ := Binary64.round (4 / 5)

structure QualityAssessor where
  thresholds : QualityThresholds := {}

/-- `len(s.split())`. -/
def wordCount (s : String) : ℕ :=
  ((s.toList.splitOnP isSpace).filter (fun word => !word.isEmpty)).length

/-- `_unique_line_ratio`. -/
def uniqueLineRatio (text : String) : ℚ :=
  let lines := ((splitLines text).map strip).filter (· ≠ "")
  if lines = [] then 0 else Binary64.round (lines.dedup.length / lines.length)

def metricsOf (doc : Document) : QualityMetrics where
  textChars := (strip doc.text).length
  chunkCount := doc.chunks.length
  linkCount := doc.links.length
  linkDensity := Binary64.round (doc.links.length / (max 1 (wordCount doc.text) : ℕ))
  uniqueLineRatio := uniqueLineRatio doc.text

/-- The complaints in order: whether each applies, its name, and what it takes off the score. -/
def complaints (thresholds : QualityThresholds) (metrics : QualityMetrics) :
    List (Bool × String × ℚ) :=
  [(metrics.textChars < thresholds.minTextChars, "text_too_short", 45 / 100),
   (metrics.chunkCount < thresholds.minChunks, "no_chunks", 25 / 100),
   (thresholds.maxLinkDensity < metrics.linkDensity, "link_density_high", 20 / 100),
   (metrics.uniqueLineRatio < Binary64.round (35 / 100) && 0 < metrics.textChars,
     "repeated_lines", 10 / 100)]

/-- `QualityAssessor.score`. -/
def QualityAssessor.score (assessor : QualityAssessor) (doc : Document) : QualityScore :=
  let metrics := metricsOf doc
  let applying := (complaints assessor.thresholds metrics).filter (fun complaint => complaint.1)
  let score := applying.foldl
    (fun score complaint => Binary64.round (score - Binary64.round complaint.2.2)) 1
  { score := max 0 (min 1 score)
    ok := applying.isEmpty
    reasons := applying.map (fun complaint => complaint.2.1)
    metrics := metrics }

/-- A document that passes has the full score, and nothing to complain of. -/
theorem score_of_ok {assessor : QualityAssessor} {doc : Document}
    (h : (assessor.score doc).ok = true) :
    (assessor.score doc).score = 1 ∧ (assessor.score doc).reasons = [] := by
  have none : (complaints assessor.thresholds (metricsOf doc)).filter
      (fun complaint => complaint.1) = [] := List.isEmpty_iff.mp h
  rw [QualityAssessor.score, none]
  exact ⟨by simp, rfl⟩

end Quality

/-- `RelevanceGate.check`. -/
def relevanceGateCheck (query : Option String) : Except PyExc (Option RelevanceResult) :=
  if textOr query "" = "" then .ok none
  else .error (notImplementedError
    "LLM relevance gate is a placeholder and is disabled by default.")

section Render

structure Renderer where
  maxLinks : ℕ := 20
  maxChunks : ℕ := 8

/-- `_plain`. -/
def Renderer.plain (renderer : Renderer) (doc : Document) : String :=
  let title := if textOr doc.title "" = "" then [] else ["# " ++ textOr doc.title ""]
  let links := if doc.links = [] then []
    else ["\nLinks:\n" ++ joinWith "\n" ((doc.links.take renderer.maxLinks).map ("- " ++ ·))]
  joinWith "\n\n" ((title ++ [strip doc.text] ++ links).filter (fun part => strip part ≠ ""))

def renderChunk (chunk : Chunk × ℕ) : String :=
  s!"\n### Chunk {chunk.2} score={Binary64.fixed 4 chunk.1.score}\n{strip chunk.1.text}"

/-- `_structured`. -/
def Renderer.structured (renderer : Renderer) (doc : Document) : String :=
  let chunks := doc.chunks.take renderer.maxChunks
  let body := if chunks = [] then [strip doc.text] else (chunks.zipIdx 1).map renderChunk
  let links := if doc.links = [] then []
    else "\n## Links" :: (doc.links.take renderer.maxLinks).map ("- " ++ ·)
  strip (joinWith "\n" (["# " ++ textOr doc.title doc.url, "", "## Key chunks"] ++ body ++ links))

def Renderer.render (renderer : Renderer) (doc : Document) (mode : RenderMode) :
    Except PyExc String :=
  match mode with
  | .plain => .ok (renderer.plain doc)
  | .structured | .adapter => .ok (renderer.structured doc)
  | .llm => .error (notImplementedError
      "LLM rendering is a placeholder for a later implementation.")

theorem render_isOk_iff (renderer : Renderer) (doc : Document) (mode : RenderMode) :
    (∃ text, renderer.render doc mode = .ok text) ↔ mode ≠ .llm := by
  cases mode <;> simp [Renderer.render]

end Render

/-- Whether an artifact manager is configured; its integration is not written yet. -/
structure ArtifactAdapterForCrawler where
  hasManager : Bool := false

def ArtifactAdapterForCrawler.persist (adapter : ArtifactAdapterForCrawler) :
    Except PyExc ArtifactRefs :=
  if adapter.hasManager then .error (notImplementedError
    "Project-level artifact_manager integration will be added in a later iteration.")
  else .ok {}

end SthBoring.Crawler.Assess
