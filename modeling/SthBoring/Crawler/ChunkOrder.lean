/- Module: SthBoring/Crawler/ChunkOrder
   source: agent_crawler/tools/result_mapper.py, webkit/pipeline/rerank.py
   digest: Where the chunks of a result stand in the document that they are from. -/

import SthBoring.Crawler.ReadPageOutcomes

set_option autoImplicit false
set_option relaxedAutoImplicit false

namespace SthBoring.Crawler.ChunkOrder

open SthBoring.Crawler.Assess (QualityAssessor)
open SthBoring.Crawler.Models
open SthBoring.Crawler.ReadPageOutcomes (mapper_returns_iff parts_of_map)
open SthBoring.Crawler.WebReadPage
open SthBoring.Lib.PyValue (Fields PyExc PyFloat)
open SthBoring.Lib.UrlParse (Interpreter asciiInterpreter)
open SthBoring.WebKit.Clean (Chunk Cleaner Document chunk toChunk)

/-- `SimpleReranker.rank`, whatever the scores and features are: the highest score comes first. -/
def rank (scored : List Chunk → Option String → Chunk → PyFloat × Fields) (chunks : List Chunk)
    (query : Option String) : List Chunk :=
  let rescored := chunks.map fun c =>
    { c with score := (scored chunks query c).1, features := (scored chunks query c).2 }
  rescored.insertionSort (fun a b => b.score.value ≤ a.score.value)

/-- A chunk without what a ranking gives it. -/
def unscored (c : Chunk) : Chunk := { c with score := ⟨0, "0.0"⟩, features := [] }

/-- The same chunks in any order, with any scores. -/
def IsRanking (chunks ranked : List Chunk) : Prop :=
  (ranked.map unscored).Perm (chunks.map unscored)

/-- The chunk has this position in the document. -/
def StandsAt (chunks : List Chunk) (c : Chunk) (position : ℕ) : Prop :=
  chunks[position]?.map unscored = some (unscored c)

/-- The entry with this rank, and the chunk that it was made of. -/
structure MadeOf (ranked : List Chunk) (entries : List WebChunk) (rank : ℕ) (entry : WebChunk)
    (source : Chunk) : Prop where
  entry_eq : entries[rank]? = some entry
  source_eq : ranked[rank]? = some source

/-- The orders of the entries are the positions of their chunks: no two are equal, and to sort by
them is to sort by the positions. -/
structure InDocumentOrder (chunks ranked : List Chunk) (entries : List WebChunk) : Prop where
  position : ∀ {i entry source}, MadeOf ranked entries i entry source →
    StandsAt chunks source entry.order
  distinct : (entries.map WebChunk.order).Nodup
  restored : ∀ {i j entry entry' source source' p p'}, MadeOf ranked entries i entry source →
    MadeOf ranked entries j entry' source' → StandsAt chunks source p →
    StandsAt chunks source' p' → (entry.order < entry'.order ↔ p < p')

/-- Chunks are given at all. -/
def givesChunks (toolInput : WebReadPageToolInput) : Bool :=
  decide (toolInput.renderMode ∈ [.chunks, .both, .agentText])

/-- The first chunk of the document is ranked first, or it is not given. -/
def FirstStaysFirst (toolInput : WebReadPageToolInput) (ranked : List Chunk) : Prop :=
  givesChunks toolInput = true → ∀ i source, i < toolInput.maxChunks.toNat →
    ranked[i]? = some source → source.order = 0 → i = 0

section Ranking

variable {cleaner : Cleaner} {doc : Document} {chunks ranked : List Chunk} {c : Chunk} {p : ℕ}

theorem isRanking_rank (scored : List Chunk → Option String → Chunk → PyFloat × Fields)
    (chunks : List Chunk) (query : Option String) :
    IsRanking chunks (rank scored chunks query) := by
  have sorted := (List.perm_insertionSort (fun a b : Chunk => b.score.value ≤ a.score.value)
    (chunks.map fun c =>
      { c with score := (scored chunks query c).1, features := (scored chunks query c).2 })).map
        unscored
  rw [List.map_map] at sorted
  exact sorted

/-- The chunks of a document are numbered by their positions. -/
theorem map_order_chunk :
    (chunk cleaner doc).chunks.map Chunk.order = List.range (chunk cleaner doc).chunks.length := by
  simp only [chunk, List.map_map, List.length_map, List.length_zipIdx]
  exact List.zipIdx_map_snd 0 _ |>.trans (List.range_eq_range'.symm)

theorem StandsAt.order_eq (stands : StandsAt (chunk cleaner doc).chunks c p) : c.order = p := by
  obtain ⟨d, found, same⟩ := Option.map_eq_some_iff.mp stands
  have numbered : ((chunk cleaner doc).chunks.map Chunk.order)[p]? = some d.order := by
    rw [List.getElem?_map, found, Option.map_some]
  have inside : p < (chunk cleaner doc).chunks.length := (List.getElem?_eq_some_iff.mp found).1
  rw [map_order_chunk, List.getElem?_range inside] at numbered
  have equal : (unscored d).order = (unscored c).order := congrArg Chunk.order same
  calc c.order = d.order := equal.symm
    _ = p := (Option.some.inj numbered).symm

/-- A ranked chunk stands where its number says. -/
theorem standsAt_order (ranking : IsRanking (chunk cleaner doc).chunks ranked) (mem : c ∈ ranked) :
    StandsAt (chunk cleaner doc).chunks c c.order := by
  have inside : unscored c ∈ (chunk cleaner doc).chunks.map unscored :=
    ranking.mem_iff.mp (List.mem_map_of_mem mem)
  obtain ⟨p, found⟩ := List.mem_iff_getElem?.mp inside
  rw [List.getElem?_map] at found
  have stands : StandsAt (chunk cleaner doc).chunks c p := found
  rw [stands.order_eq]
  exact stands

theorem nodup_order (ranking : IsRanking (chunk cleaner doc).chunks ranked) :
    (ranked.map Chunk.order).Nodup := by
  have orders := ranking.map Chunk.order
  rw [List.map_map, List.map_map] at orders
  have document : ((chunk cleaner doc).chunks.map Chunk.order).Nodup := by
    rw [map_order_chunk]
    exact List.nodup_range
  exact orders.nodup_iff.mpr document

end Ranking

section Entries

variable {cleaner : Cleaner} {doc : Document} {ranked : List Chunk} {py : Interpreter}
  {toolInput : WebReadPageToolInput} {bundle : CrawlResultBundle} {result : WebReadPageResult}
  {i : ℕ} {entry : WebChunk} {source : Chunk}

theorem mapContent_chunks : (mapContent toolInput bundle).chunks =
    if givesChunks toolInput then
      (bundle.docClean.chunks.take toolInput.maxChunks.toNat).zipIdx.map (mapChunk toolInput)
    else [] := by
  simp [mapContent, givesChunks]

/-- The entry of a rank is the chunk of that rank, if chunks are given and so many. -/
theorem getElem?_mapContent : (mapContent toolInput bundle).chunks[i]? =
    if givesChunks toolInput = true ∧ i < toolInput.maxChunks.toNat then
      bundle.docClean.chunks[i]?.map fun c => mapChunk toolInput (c, i)
    else none := by
  rw [mapContent_chunks]
  by_cases given : givesChunks toolInput = true
  · by_cases inside : i < toolInput.maxChunks.toNat
    · rw [if_pos given, if_pos ⟨given, inside⟩, List.getElem?_map, List.getElem?_zipIdx,
        List.getElem?_take_of_lt inside, Option.map_map, Nat.zero_add]
      rfl
    · rw [if_pos given, if_neg fun both => inside both.2, List.getElem?_map, List.getElem?_zipIdx,
        List.getElem?_take_eq_none (not_lt.mp inside)]
      rfl
  · rw [if_neg given, if_neg fun both => given both.1]
    rfl

theorem madeOf_iff (same : bundle.docClean.chunks = ranked) :
    MadeOf ranked (mapContent toolInput bundle).chunks i entry source ↔
      givesChunks toolInput = true ∧ i < toolInput.maxChunks.toNat ∧ ranked[i]? = some source ∧
        entry = mapChunk toolInput (source, i) := by
  constructor
  · rintro ⟨found, sourced⟩
    rw [getElem?_mapContent] at found
    split at found
    case isTrue given =>
      rw [same, sourced, Option.map_some] at found
      exact ⟨given.1, given.2, sourced, (Option.some.inj found).symm⟩
    case isFalse => simp at found
  · rintro ⟨given, inside, sourced, rfl⟩
    refine ⟨?_, sourced⟩
    rw [getElem?_mapContent, if_pos ⟨given, inside⟩, same, sourced, Option.map_some]

/-- Any chunk but the first of the document keeps its number as the order of its entry. -/
theorem order_mapChunk (entered : source.order = 0 → i = 0) :
    (mapChunk toolInput (source, i)).order = source.order := by
  by_cases first : source.order = 0
  · simp [mapChunk, first, entered first]
  · simp [mapChunk, first]

/-- The entry of a chunk of the document carries its position, if its rank is given by one that
stays first. -/
theorem order_of_firstStaysFirst (same : bundle.docClean.chunks = ranked)
    (stays : FirstStaysFirst toolInput ranked)
    (made : MadeOf ranked (mapContent toolInput bundle).chunks i entry source) :
    entry.order = source.order := by
  obtain ⟨given, inside, sourced, rfl⟩ := (madeOf_iff same).mp made
  exact order_mapChunk (stays given i source inside sourced)

theorem position_of_firstStaysFirst (ranking : IsRanking (chunk cleaner doc).chunks ranked)
    (same : bundle.docClean.chunks = ranked) (stays : FirstStaysFirst toolInput ranked)
    (made : MadeOf ranked (mapContent toolInput bundle).chunks i entry source) :
    StandsAt (chunk cleaner doc).chunks source entry.order := by
  rw [order_of_firstStaysFirst same stays made]
  exact standsAt_order ranking (List.mem_of_getElem? made.source_eq)

/-- Then the orders are among the numbers of the ranked chunks, in the order of the ranks. -/
theorem map_order_mapContent (same : bundle.docClean.chunks = ranked)
    (stays : FirstStaysFirst toolInput ranked) (given : givesChunks toolInput = true) :
    (mapContent toolInput bundle).chunks.map WebChunk.order =
      (ranked.map Chunk.order).take toolInput.maxChunks.toNat := by
  apply List.ext_getElem?
  intro i
  rw [List.getElem?_map, getElem?_mapContent, same]
  by_cases inside : i < toolInput.maxChunks.toNat
  · rw [if_pos ⟨given, inside⟩, List.getElem?_take_of_lt inside, List.getElem?_map,
      Option.map_map]
    cases sourced : ranked[i]? with
    | none => rfl
    | some source => exact congrArg some (order_mapChunk (stays given i source inside sourced))
  · rw [if_neg fun both => inside both.2, List.getElem?_take_eq_none (not_lt.mp inside)]
    rfl

theorem nodup_of_firstStaysFirst (ranking : IsRanking (chunk cleaner doc).chunks ranked)
    (same : bundle.docClean.chunks = ranked) (stays : FirstStaysFirst toolInput ranked) :
    ((mapContent toolInput bundle).chunks.map WebChunk.order).Nodup := by
  by_cases given : givesChunks toolInput = true
  · rw [map_order_mapContent same stays given]
    exact (nodup_order ranking).sublist (List.take_sublist _ _)
  · simp [mapContent_chunks, given]

/-- An entry carries no position where the first chunk of the document comes later. -/
theorem firstStaysFirst_of_position (same : bundle.docClean.chunks = ranked)
    (positions : ∀ {i entry source}, MadeOf ranked (mapContent toolInput bundle).chunks i entry
      source → StandsAt (chunk cleaner doc).chunks source entry.order) :
    FirstStaysFirst toolInput ranked := by
  intro given i source inside sourced first
  have made := (madeOf_iff same).mpr ⟨given, inside, sourced, rfl⟩
  have number : source.order = (mapChunk toolInput (source, i)).order := (positions made).order_eq
  simpa [mapChunk, first, eq_comm] using number

/-- The entries carry the positions of their chunks in the document exactly when its first chunk
is ranked first, or is not given: at any later rank it has the rank for its order, and the chunk
with that number may have it too. -/
theorem inDocumentOrder_iff (ranking : IsRanking (chunk cleaner doc).chunks ranked)
    (same : bundle.docClean.chunks = ranked)
    (mapped : mapCrawlResultToWebResult py toolInput bundle = .ok result) :
    InDocumentOrder (chunk cleaner doc).chunks ranked result.content.chunks ↔
      FirstStaysFirst toolInput ranked := by
  rw [(parts_of_map mapped).2]
  constructor
  · intro inOrder
    exact firstStaysFirst_of_position same inOrder.position
  · intro stays
    refine ⟨position_of_firstStaysFirst ranking same stays,
      nodup_of_firstStaysFirst ranking same stays, ?_⟩
    intro i j entry entry' source source' p p' made made' stands stands'
    have order := order_of_firstStaysFirst same stays made
    have order' := order_of_firstStaysFirst same stays made'
    rw [order, order', stands.order_eq, stands'.order_eq]

end Entries

section Sample

def smallChunks : Cleaner where
  maxChunkChars := 20
  minChunkChars := 2

/-- A heading, and a paragraph that fills a chunk. -/
def article : Document where
  url := "https://example.test/page"
  title := none
  text := "Heading\n\nThe paragraph here."

/-- Longer chunks are denser, as without a query. -/
def density (_chunks : List Chunk) (_query : Option String) (c : Chunk) : PyFloat × Fields :=
  (⟨c.text.length, ""⟩, [])

/-- The article in chunks, the densest first. -/
def rankedArticle : Document :=
  { chunk smallChunks article with
    chunks := rank density (chunk smallChunks article).chunks none }

/-- The bundle of a run that fetched the article. -/
def bundle : CrawlResultBundle where
  request := { url := article.url }
  plan := { transport := .http, extractKind := .universal }
  fetched := { url := article.url, finalUrl := article.url, statusCode := 200 }
  rawHtml := none
  docClean := rankedArticle
  quality := ({} : QualityAssessor).score rankedArticle

def page (maxChunks : ℤ) : WebReadPageToolInput where
  url := article.url
  maxChunks := maxChunks

theorem returned_bundle (py : Interpreter) (maxChunks : ℤ) :
    ∃ result, mapCrawlResultToWebResult py (page maxChunks) bundle = .ok result :=
  mapper_returns_iff.mpr ⟨⟨_, rfl⟩, _, rfl⟩

theorem isRanking_article : IsRanking (chunk smallChunks article).chunks bundle.docClean.chunks :=
  isRanking_rank density _ none

theorem firstStaysFirst_one : FirstStaysFirst (page 1) rankedArticle.chunks := by
  intro _ i source inside _ _
  have one : i < 1 := inside
  omega

theorem best_chunk_in_order :
    ∃ result, mapCrawlResultToWebResult asciiInterpreter (page 1) bundle = .ok result ∧
      InDocumentOrder (chunk smallChunks article).chunks rankedArticle.chunks
        result.content.chunks := by
  obtain ⟨result, mapped⟩ := returned_bundle asciiInterpreter 1
  exact ⟨result, mapped,
    (inDocumentOrder_iff isRanking_article rfl mapped).mpr firstStaysFirst_one⟩

/-- Ranked last, the heading is given the order of the paragraph. -/
theorem heading_loses_its_place :
    ∃ result, mapCrawlResultToWebResult asciiInterpreter (page 8) bundle = .ok result ∧
      rankedArticle.chunks.map Chunk.order = [1, 0] ∧
      result.content.chunks.map WebChunk.order = [1, 1] ∧
      ¬ InDocumentOrder (chunk smallChunks article).chunks rankedArticle.chunks
        result.content.chunks := by
  obtain ⟨result, mapped⟩ := returned_bundle asciiInterpreter 8
  have orders : (mapContent (page 8) bundle).chunks.map WebChunk.order = [1, 1] := by
    decide +kernel
  rw [← (parts_of_map mapped).2] at orders
  refine ⟨result, mapped, by decide +kernel, orders, fun inOrder => ?_⟩
  have distinct := inOrder.distinct
  rw [orders] at distinct
  simp at distinct

end Sample

end SthBoring.Crawler.ChunkOrder
