/- Module: SthBoring/WebKit/ChunkBounds
   source: webkit/pipeline/clean.py
   digest: How long the chunks of a document can be. -/

import Mathlib.Data.List.Chain
import SthBoring.WebKit.ChunkContent

set_option autoImplicit false
set_option relaxedAutoImplicit false

namespace SthBoring.WebKit.ChunkBounds

open SthBoring.Lib.WhiteSpace
open SthBoring.WebKit.Clean
open SthBoring.WebKit.ChunkContent

variable {α : Type} {A : Alphabet α}

section Pieces

/-- The pieces into which paragraphs fall behind those that wait: paragraphs are gathered as long
as they fit, and an oversized one is cut on its own. -/
def pieces (A : Alphabet α) (size : ℕ) : List α → List (List α) → List (List α)
  | buf, [] => if buf = [] then [] else [buf]
  | buf, p :: paras =>
    if size < p.length then (slices size p p.length 0).map (strip A) ++ pieces A size buf paras
    else if buf = [] then pieces A size p paras
    else if buf.length + 2 + p.length ≤ size then pieces A size (joined A [buf, p]) paras
    else buf :: pieces A size p paras

variable {size : ℕ} {paras : List (List α)}

theorem joined_pair (s t : List α) : joined A [s, t] = s ++ blankLine A ++ t := by
  rw [joined, List.intercalate_cons_cons, List.intercalate_singleton]

theorem texts_flushBuf {s : Packing α} (ready : Ready A s) :
    (flushBuf A s).pieces.map Piece.text =
      s.pieces.map Piece.text ++ if s.buf = [] then [] else [s.buf] := by
  rcases ready with empty | stripped
  · rw [flushBuf_of_empty empty, if_pos empty, List.append_nil]
  · rw [flushBuf_of_stripped stripped, if_neg stripped.ne_nil, List.map_append]
    rfl

theorem texts_emitAll (parts : List (List α)) (s : Packing α) :
    (parts.foldl (fun s part => s.emit (strip A part)) s).pieces.map Piece.text =
      s.pieces.map Piece.text ++ parts.map (strip A) := by
  induction parts generalizing s with
  | nil => simp
  | cons part parts ih =>
    rw [List.foldl_cons, ih, Packing.emit, List.map_append, List.append_assoc]
    rfl

/-- The first loop cuts the paragraphs into these pieces. -/
theorem texts_foldl (positive : 0 < size) (s : Packing α) (ready : Ready A s)
    (stripped : ∀ p ∈ paras, Stripped A p) :
    (flushBuf A (paras.foldl (pack A size) s)).pieces.map Piece.text =
      s.pieces.map Piece.text ++ pieces A size s.buf paras := by
  induction paras generalizing s with
  | nil => exact texts_flushBuf ready
  | cons p paras ih =>
    have packed := pack_packed (A := A) positive s p
    have visible := stripped p List.mem_cons_self
    rw [List.foldl_cons, ih _ (packed.ready ready visible)
      fun q hq => stripped q (List.mem_cons_of_mem p hq)]
    by_cases oversized : size < p.length
    · have texts : (pack A size s p).pieces.map Piece.text =
          s.pieces.map Piece.text ++ (slices size p p.length 0).map (strip A) := by
        rw [pack, if_pos oversized, texts_emitAll]
      rw [packed.buf_of_oversized oversized, texts, pieces, if_pos oversized, List.append_assoc]
    · rw [pieces, if_neg oversized]
      by_cases empty : s.buf = []
      · rw [pack, if_neg oversized, if_pos empty, if_pos empty]
      · rw [if_neg empty]
        by_cases fits : s.buf.length + 2 + p.length ≤ size
        · rw [pack, if_neg oversized, if_neg empty, if_pos fits, if_pos fits, joined_pair]
        · have flushed := texts_flushBuf ready
          rw [if_neg empty] at flushed
          rw [pack, if_neg oversized, if_neg empty, if_neg fits, if_neg fits]
          change (flushBuf A s).pieces.map Piece.text ++ pieces A size p paras = _
          rw [flushed, List.append_assoc]
          rfl

theorem texts_packAll (positive : 0 < size) (stripped : ∀ p ∈ paras, Stripped A p) :
    (packAll A size paras).pieces.map Piece.text = pieces A size [] paras :=
  texts_foldl positive {} (.inl rfl) stripped

theorem length_le_of_mem_slices {p part : List α} {fuel start : ℕ}
    (h : part ∈ slices size p fuel start) : part.length ≤ size := by
  induction fuel generalizing start with
  | zero => cases h
  | succ fuel ih =>
    rw [slices] at h
    split at h
    · rcases List.mem_cons.mp h with rfl | later
      · exact List.length_take_le _ _
      · exact ih later
    · cases h

/-- A piece begins and ends visibly, unless it is empty, and fits into a chunk. -/
structure IsPiece (A : Alphabet α) (size : ℕ) (t : List α) : Prop where
  visible : t = [] ∨ Stripped A t
  fits : t.length ≤ size

theorem isPiece_of_mem_pieces (stripped : ∀ p ∈ paras, Stripped A p) {buf t : List α}
    (waits : IsPiece A size buf) (h : t ∈ pieces A size buf paras) : IsPiece A size t := by
  induction paras generalizing buf with
  | nil =>
    rw [pieces] at h
    split at h
    · cases h
    · exact List.mem_singleton.mp h ▸ waits
  | cons p paras ih =>
    have stripped' : ∀ q ∈ paras, Stripped A q := fun q hq => stripped q (List.mem_cons_of_mem p hq)
    have visible := stripped p List.mem_cons_self
    rw [pieces] at h
    split at h
    · rcases List.mem_append.mp h with cut | later
      · obtain ⟨part, mem, rfl⟩ := List.mem_map.mp cut
        exact ⟨strip_eq_nil_or_stripped part,
          (length_strip_le part).trans (length_le_of_mem_slices mem)⟩
      · exact ih stripped' waits later
    · rename_i regular
      have alone : IsPiece A size p := ⟨.inr visible, by omega⟩
      split at h
      · exact ih stripped' alone h
      · rename_i pending
        split at h
        · rename_i room
          refine ih stripped' ⟨.inr ?_, ?_⟩ h
          · rw [joined_pair]
            exact (waits.visible.resolve_left pending).append visible _
          · rw [joined_pair, List.length_append, List.length_append, length_blankLine]
            exact room
        · rcases List.mem_cons.mp h with rfl | later
          · exact waits
          · exact ih stripped' alone later

/-- What waits is the beginning of the first piece. -/
theorem length_head_pieces (regular : ∀ p ∈ paras, p.length ≤ size) (buf : List α) :
    ∀ t ∈ (pieces A size buf paras).head?, buf.length ≤ t.length := by
  induction paras generalizing buf with
  | nil =>
    intro t h
    rw [pieces] at h
    split at h
    · cases h
    · cases h
      exact le_rfl
  | cons p paras ih =>
    intro t h
    have next := ih fun q hq => regular q (List.mem_cons_of_mem p hq)
    rw [pieces, if_neg (Nat.not_lt.mpr (regular p List.mem_cons_self))] at h
    split at h
    · rename_i empty
      rw [empty]
      exact Nat.zero_le _
    · split at h
      · have longer : buf.length ≤ (joined A [buf, p]).length := by
          rw [joined_pair, List.length_append, List.length_append]
          omega
        exact longer.trans (next _ t h)
      · cases h
        exact le_rfl

/-- Where no paragraph is cut, two pieces that follow one another do not fit into one chunk. -/
theorem isChain_pieces (regular : ∀ p ∈ paras, p.length ≤ size) (buf : List α) :
    (pieces A size buf paras).IsChain fun s t => size < s.length + 2 + t.length := by
  induction paras generalizing buf with
  | nil =>
    rw [pieces]
    split
    · exact .nil
    · exact .singleton buf
  | cons p paras ih =>
    have regular' : ∀ q ∈ paras, q.length ≤ size := fun q hq => regular q (List.mem_cons_of_mem p hq)
    rw [pieces, if_neg (Nat.not_lt.mpr (regular p List.mem_cons_self))]
    split
    · exact ih regular' p
    · split
      · exact ih regular' _
      · rename_i full
        refine List.isChain_cons.mpr ⟨?_, ih regular' p⟩
        intro t h
        have longer := length_head_pieces regular' p t h
        omega

end Pieces

section Merge

variable {least size : ℕ} {texts run : List (List α)}

/-- The tiny texts at the end. -/
def tinyEnd (least : ℕ) (texts : List (List α)) : List (List α) :=
  texts.rtakeWhile (fun t => decide (t.length < least))

theorem tinyEnd_append_of_tiny {t : List α} (tiny : t.length < least) :
    tinyEnd least (texts ++ [t]) = tinyEnd least texts ++ [t] :=
  List.rtakeWhile_concat_pos _ _ _ (decide_eq_true tiny)

theorem tinyEnd_append_of_large {t : List α} (large : least ≤ t.length) :
    tinyEnd least (texts ++ [t]) = [] :=
  List.rtakeWhile_concat_neg _ _ _ (by simpa using large)

theorem suffix_tinyEnd (tiny : ∀ t ∈ run, t.length < least) (h : run <:+ texts) :
    run <:+ tinyEnd least texts := by
  induction texts using List.reverseRecOn generalizing run with
  | nil => exact h
  | append_singleton texts t ih =>
    rcases List.suffix_concat_iff.mp h with rfl | ⟨front, rfl, before⟩
    · exact List.nil_suffix
    · rw [tinyEnd_append_of_tiny (tiny t (by simp))]
      obtain ⟨skipped, split⟩ := ih (fun q hq => tiny q (List.mem_append_left _ hq)) before
      exact ⟨skipped, by rw [← split, List.append_assoc]⟩

theorem tiny_of_mem_tinyEnd {t : List α} (h : t ∈ tinyEnd least texts) : t.length < least :=
  of_decide_eq_true (List.mem_rtakeWhile_imp (p := fun t : List α => decide (t.length < least)) h)

/-- A run of tiny pieces, where one follows the other, fits into a chunk when it is joined. -/
def TinyRunsFit (A : Alphabet α) (least size : ℕ) (texts : List (List α)) : Prop :=
  ∀ run, run <:+: texts → (∀ t ∈ run, t.length < least) → (strip A (joined A run)).length ≤ size

/-- What is visible of a joined run is in a merged chunk. -/
def Found (A : Alphabet α) (run : List (List α)) (merged : List (Piece α)) : Prop :=
  strip A (joined A run) = [] ∨ ∃ piece ∈ merged, strip A (joined A run) <:+: piece.text

theorem Found.grows {merged merged' : List (Piece α)} (found : Found A run merged)
    (grows : merged <+: merged') : Found A run merged' :=
  found.imp id fun ⟨piece, mem, occurs⟩ => ⟨piece, grows.subset mem, occurs⟩

/-- Where a merged chunk comes from: it is large enough by itself, or a joined run. -/
def Made (A : Alphabet α) (least : ℕ) (texts : List (List α)) (piece : Piece α) : Prop :=
  (piece.text ∈ texts ∧ least ≤ piece.text.length) ∨
    ∃ run, run <:+: texts ∧ (∀ t ∈ run, t.length < least) ∧ piece.text = strip A (joined A run) ∧
      piece.text ≠ []

theorem Made.grows {texts' : List (List α)} {piece : Piece α} (made : Made A least texts piece)
    (grows : texts <+: texts') : Made A least texts' piece :=
  made.imp (And.imp_left fun mem => grows.subset mem) fun ⟨run, occurs, rest⟩ =>
    ⟨run, occurs.trans grows.isInfix, rest⟩

/-- The merging of these texts so far: the tiny ones at the end wait. -/
structure Follows (A : Alphabet α) (least : ℕ) (texts : List (List α)) (m : Merging α) : Prop where
  tmp : m.tmp = (joined A (tinyEnd least texts)).dropWhile A.isSpace
  made : ∀ piece ∈ m.merged, Made A least texts piece
  found : ∀ run, run <:+: texts → (∀ t ∈ run, t.length < least) →
    run <:+: tinyEnd least texts ∨ Found A run m.merged

variable {m : Merging α}

theorem strip_tmp (follows : Follows A least texts m) :
    strip A m.tmp = strip A (joined A (tinyEnd least texts)) := by
  rw [follows.tmp, strip_dropWhile]

theorem flush_grows (m : Merging α) : m.merged <+: (m.flush A).merged := by
  unfold Merging.flush
  split
  · exact List.prefix_rfl
  · exact List.prefix_append _ _

theorem Follows.made_flush (follows : Follows A least texts m) :
    ∀ piece ∈ (m.flush A).merged, Made A least texts piece := by
  intro piece mem
  unfold Merging.flush at mem
  split at mem
  · exact follows.made piece mem
  · rename_i waits
    rcases List.mem_append.mp mem with before | last
    · exact follows.made piece before
    · right
      obtain rfl := List.mem_singleton.mp last
      refine ⟨tinyEnd least texts, List.rtakeWhile_suffix _ _ |>.isInfix,
        fun t => tiny_of_mem_tinyEnd, strip_tmp follows, ?_⟩
      -- what waits begins visibly
      intro none
      have unseen : m.tmp.dropWhile A.isSpace = [] := by
        rw [List.dropWhile_eq_nil_iff]
        have spaces := List.filter_eq_nil_iff.mp (ink_eq_nil_iff.mpr none)
        intro a ha
        simpa using spaces a ha
      rw [follows.tmp, List.dropWhile_idempotent, ← follows.tmp] at unseen
      exact waits unseen

theorem Follows.found_flush (follows : Follows A least texts m) (occurs : run <:+: texts)
    (tiny : ∀ t ∈ run, t.length < least) : Found A run (m.flush A).merged := by
  rcases follows.found run occurs tiny with waits | found
  · have inside := strip_occurs (A := A) (infix_joined (A := A) waits)
    rw [← strip_tmp follows] at inside
    unfold Merging.flush
    split
    · rename_i empty
      rw [empty] at inside
      exact .inl (List.infix_nil.mp inside)
    · exact .inr ⟨_, List.mem_append_right _ List.mem_cons_self, inside⟩
  · exact found.grows (flush_grows m)

theorem tmp_append (before : List (List α)) {t : List α} (visible : t = [] ∨ Stripped A t) :
    (joined A (before ++ [t])).dropWhile A.isSpace =
      if (joined A before).dropWhile A.isSpace = [] then t
      else (joined A before).dropWhile A.isSpace ++ blankLine A ++ t := by
  have alone : joined A [t] = t := List.intercalate_singleton
  by_cases none : before = []
  · rw [none, List.nil_append, alone, dropWhile_of_stripped visible]
    exact (if_pos rfl).symm
  · have spaces : ∀ a ∈ blankLine A, A.isSpace a = true := by
      intro a ha
      rcases List.mem_cons.mp ha with rfl | ha
      · exact A.newline_isSpace
      · rw [List.mem_singleton.mp ha]
        exact A.newline_isSpace
    have dropped : (blankLine A ++ t).dropWhile A.isSpace = t := by
      rw [List.dropWhile_append_of_pos spaces, dropWhile_of_stripped visible]
    rw [joined_append none (List.cons_ne_nil t []), alone, List.append_assoc, List.dropWhile_append,
      dropped, List.append_assoc]
    simp only [List.isEmpty_iff]

theorem Follows.step {ch : Piece α} (follows : Follows A least texts m)
    (visible : ch.text = [] ∨ Stripped A ch.text) :
    Follows A least (texts ++ [ch.text]) (mergeStep A least m ch) := by
  have longer : texts <+: texts ++ [ch.text] := List.prefix_append _ _
  unfold mergeStep
  by_cases tiny : ch.text.length < least
  · have ending : tinyEnd least (texts ++ [ch.text]) = tinyEnd least texts ++ [ch.text] :=
      tinyEnd_append_of_tiny tiny
    have found : ∀ run, run <:+: texts ++ [ch.text] → (∀ t ∈ run, t.length < least) →
        run <:+: tinyEnd least (texts ++ [ch.text]) ∨ Found A run m.merged := by
      intro run occurs small
      rcases List.infix_concat_iff.mp occurs with atEnd | before
      · exact .inl (suffix_tinyEnd small atEnd).isInfix
      · rw [ending]
        exact (follows.found run before small).imp
          (fun waits => waits.trans (List.prefix_append _ _).isInfix) id
    have tmp := tmp_append (tinyEnd least texts) visible
    rw [← follows.tmp, ← ending] at tmp
    rw [if_pos tiny]
    by_cases empty : m.tmp = []
    · rw [if_pos empty] at tmp ⊢
      exact ⟨tmp.symm, fun piece mem => (follows.made piece mem).grows longer, found⟩
    · rw [if_neg empty] at tmp ⊢
      exact ⟨tmp.symm, fun piece mem => (follows.made piece mem).grows longer, found⟩
  · have ending : tinyEnd least (texts ++ [ch.text]) = [] :=
      tinyEnd_append_of_large (Nat.le_of_not_lt tiny)
    rw [if_neg tiny]
    refine ⟨?_, ?_, ?_⟩
    · rw [ending]
      exact tmp_flush m
    · intro piece mem
      rcases List.mem_append.mp mem with before | last
      · exact (follows.made_flush piece before).grows longer
      · rw [List.mem_singleton.mp last]
        exact .inl ⟨by simp, Nat.le_of_not_lt tiny⟩
    · intro run occurs small
      have grows : (m.flush A).merged <+: (m.flush A).merged ++ [ch] := List.prefix_append _ _
      rcases List.infix_concat_iff.mp occurs with atEnd | before
      · have none := suffix_tinyEnd small atEnd
        rw [ending] at none ⊢
        exact .inl none.isInfix
      · exact .inr ((follows.found_flush before small).grows grows)

theorem follows_foldl {chunks : List (Piece α)}
    (visible : ∀ ch ∈ chunks, ch.text = [] ∨ Stripped A ch.text) :
    Follows A least (chunks.map Piece.text) (chunks.foldl (mergeStep A least) {}) := by
  induction chunks using List.reverseRecOn with
  | nil =>
    refine ⟨rfl, fun piece mem => (by cases mem), fun run occurs tiny => ?_⟩
    rw [List.infix_nil.mp occurs]
    exact .inl List.nil_infix
  | append_singleton chunks ch ih =>
    rw [List.map_append, List.foldl_append]
    exact (ih fun q hq => visible q (List.mem_append_left _ hq)).step (visible ch (by simp))

/-- The second loop keeps within the bound exactly where no run it joins is too long. -/
theorem mergeTiny_within_iff {chunks : List (Piece α)} (least_pos : 1 ≤ least)
    (isPiece : ∀ ch ∈ chunks, IsPiece A size ch.text) :
    (∀ piece ∈ mergeTiny A least chunks, piece.text ≠ [] ∧ piece.text.length ≤ size) ↔
      TinyRunsFit A least size (chunks.map Piece.text) := by
  have follows : Follows A least _ _ := follows_foldl fun ch hch => (isPiece ch hch).visible
  constructor
  · intro within run occurs tiny
    rcases follows.found_flush occurs tiny with none | ⟨piece, mem, inside⟩
    · rw [none]
      exact Nat.zero_le size
    · exact inside.length_le.trans (within piece mem).2
  · intro fit piece mem
    rcases follows.made_flush piece mem with ⟨whole, large⟩ | ⟨run, occurs, tiny, rfl', some⟩
    · obtain ⟨ch, hch, same⟩ := List.mem_map.mp whole
      refine ⟨fun none => ?_, same ▸ (isPiece ch hch).fits⟩
      rw [none, List.length_nil] at large
      omega
    · exact ⟨some, rfl' ▸ fit run occurs tiny⟩

end Merge

section Bounds

/-- Every chunk has some text and not too much of it. -/
def Within (cleaner : Cleaner) (doc : Document) : Prop :=
  ∀ c ∈ (chunk cleaner doc).chunks, c.text ≠ "" ∧ c.text.length ≤ cleaner.maxChunkChars

/-- The pieces into which the paragraphs of a document fall. -/
def documentPieces (cleaner : Cleaner) (doc : Document) : List (List Char) :=
  pieces chars cleaner.maxChunkChars [] (paragraphs chars (cleaned doc))

theorem within_iff_chunkPieces (cleaner : Cleaner) (doc : Document) : Within cleaner doc ↔
    ∀ piece ∈ chunkPieces chars cleaner (cleaned doc),
      piece.text ≠ [] ∧ piece.text.length ≤ cleaner.maxChunkChars := by
  have texts := chunkTexts_eq cleaner doc
  have within : Within cleaner doc ↔ ∀ t ∈ chunkTexts cleaner doc,
      t ≠ [] ∧ t.length ≤ cleaner.maxChunkChars := by
    rw [chunkTexts, List.forall_mem_map]
    refine forall₂_congr fun c _ => and_congr ?_ Iff.rfl
    rw [ne_eq, ne_eq, String.toList_eq_nil_iff]
  rw [within, texts, List.forall_mem_map]

/-- Chunks are never empty, and they are never too long if and only if the tiny pieces that
follow one another still fit when they are joined. -/
theorem chunks_within_iff {cleaner : Cleaner} (least : 1 ≤ cleaner.minChunkChars)
    (ordered : cleaner.minChunkChars ≤ cleaner.maxChunkChars) (doc : Document) :
    Within cleaner doc ↔
      TinyRunsFit chars cleaner.minChunkChars cleaner.maxChunkChars (documentPieces cleaner doc) := by
  have positive : 0 < cleaner.maxChunkChars := by omega
  have stripped : ∀ p ∈ paragraphs chars (cleaned doc), Stripped chars p :=
    fun p h => stripped_of_mem_paragraphs h
  have texts := texts_packAll positive stripped
  have isPiece : ∀ ch ∈ (packAll chars cleaner.maxChunkChars (paragraphs chars (cleaned doc))).pieces,
      IsPiece chars cleaner.maxChunkChars ch.text := by
    intro ch hch
    have mem := List.mem_map_of_mem (f := Piece.text) hch
    rw [texts] at mem
    exact isPiece_of_mem_pieces stripped ⟨.inl rfl, Nat.zero_le _⟩ mem
  rw [within_iff_chunkPieces, chunkPieces, mergeTiny_within_iff least isPiece, texts]
  rfl

/-- With room for two tiny pieces in a chunk, only the parts of an oversized paragraph can be joined
beyond the bound. -/
theorem within_of_regular {cleaner : Cleaner} (least : 1 ≤ cleaner.minChunkChars)
    (room : 2 * cleaner.minChunkChars ≤ cleaner.maxChunkChars) {doc : Document}
    (regular : ∀ p ∈ paragraphs chars (cleaned doc), p.length ≤ cleaner.maxChunkChars) :
    Within cleaner doc := by
  refine (chunks_within_iff least (by omega) doc).mpr ?_
  intro run occurs tiny
  have chain : run.IsChain fun s t => cleaner.maxChunkChars < s.length + 2 + t.length := by
    obtain ⟨before, after, split⟩ := occurs
    have whole := isChain_pieces (A := chars) regular []
    rw [documentPieces] at split
    rw [← split] at whole
    exact whole.left_of_append.right_of_append
  refine (length_strip_le _).trans ?_
  match run, tiny, chain with
  | [], _, _ => exact Nat.zero_le _
  | [t], tiny, _ =>
    have short := tiny t List.mem_cons_self
    rw [joined, List.intercalate_singleton]
    omega
  | s :: t :: _, tiny, chain =>
    have overfull := (List.isChain_cons_cons.mp chain).1
    have shortFirst := tiny s List.mem_cons_self
    have shortSecond := tiny t (List.mem_cons_of_mem s List.mem_cons_self)
    omega

/-- Two paragraphs that do not fit into a chunk of five characters together. -/
def twoShort : Document where
  url := "https://example.com"
  title := none
  text := "abc\n\ndef"

theorem tinyRunsFit_longThenShort :
    TinyRunsFit chars 2 5 (documentPieces ⟨5, 2⟩ longThenShort) := by
  have least : 1 ≤ (⟨5, 2⟩ : Cleaner).minChunkChars := by decide
  have ordered : (⟨5, 2⟩ : Cleaner).minChunkChars ≤ (⟨5, 2⟩ : Cleaner).maxChunkChars := by decide
  have within : Within ⟨5, 2⟩ longThenShort := by
    unfold Within
    decide +kernel
  exact (chunks_within_iff least ordered longThenShort).mp within

theorem joined_beyond_bound :
    chunkTexts ⟨5, 4⟩ twoShort = ["abc\n\ndef".toList] ∧ ¬ Within ⟨5, 4⟩ twoShort := by
  unfold Within
  constructor <;> decide +kernel

end Bounds

end SthBoring.WebKit.ChunkBounds
