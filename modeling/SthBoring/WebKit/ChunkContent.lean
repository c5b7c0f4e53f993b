/- Module: SthBoring/WebKit/ChunkContent
   source: webkit/pipeline/clean.py
   digest: What the chunks hold of the cleaned text, and in which order. -/

import SthBoring.WebKit.Clean

set_option autoImplicit false
set_option relaxedAutoImplicit false

namespace SthBoring.WebKit.ChunkContent

open SthBoring.Lib.WhiteSpace
open SthBoring.WebKit.Clean

variable {α β : Type} {A : Alphabet α}

/-- Everything visible in the pieces, read one after the other. -/
def inkOf (A : Alphabet α) (pieces : List (Piece α)) : List α :=
  ink A (pieces.map Piece.text).flatten

@[simp] theorem inkOf_nil : inkOf A [] = [] := rfl

@[simp] theorem inkOf_append (ps qs : List (Piece α)) :
    inkOf A (ps ++ qs) = inkOf A ps ++ inkOf A qs := by
  simp [inkOf]

@[simp] theorem inkOf_singleton (piece : Piece α) : inkOf A [piece] = ink A piece.text := by
  simp [inkOf]

section Paragraphs

theorem stripped_of_mem_paragraphs {cleaned p : List α} (h : p ∈ paragraphs A cleaned) :
    Stripped A p := by
  obtain ⟨stripped, nonempty⟩ := List.mem_filter.mp h
  obtain ⟨raw, -, rfl⟩ := List.mem_map.mp stripped
  exact stripped_strip (by simpa using nonempty)

theorem ink_paragraphs (cleaned : List α) : ink A (paragraphs A cleaned).flatten = ink A cleaned := by
  have kept : (paragraphs A cleaned).flatten =
      ((splitBlankLines A cleaned).map (strip A)).flatten :=
    List.flatten_filter_not_isEmpty
  rw [kept, ink_flatten, List.map_map, ← ink_splitBlankLines cleaned, ink_flatten]
  congr 1
  exact List.map_congr_left (fun t _ => ink_strip t)

end Paragraphs

section Slices

/-- With enough turns the slices are the whole rest of the paragraph. -/
theorem flatten_slices {size : ℕ} (positive : 0 < size) (p : List α) :
    ∀ fuel start, p.length ≤ start + fuel → (slices size p fuel start).flatten = p.drop start := by
  intro fuel
  induction fuel with
  | zero =>
    intro start enough
    rw [List.drop_eq_nil_of_le (by omega)]
    rfl
  | succ fuel ih =>
    intro start enough
    rw [slices]
    split
    · rw [List.flatten_cons, ih (start + size) (by omega), ← List.drop_drop,
        List.take_append_drop]
    · rw [List.drop_eq_nil_of_le (by omega)]
      rfl

theorem inkOf_emit (s : Packing α) (t : List α) :
    inkOf A (s.emit t).pieces = inkOf A s.pieces ++ ink A t := by
  rw [Packing.emit, inkOf_append, inkOf_singleton]

theorem emitAll (parts : List (List α)) (s : Packing α) :
    inkOf A (parts.foldl (fun s part => s.emit (strip A part)) s).pieces =
        inkOf A s.pieces ++ ink A parts.flatten ∧
      (parts.foldl (fun s part => s.emit (strip A part)) s).buf = s.buf ∧
      s.pieces <+: (parts.foldl (fun s part => s.emit (strip A part)) s).pieces := by
  induction parts generalizing s with
  | nil => exact ⟨by simp, rfl, List.prefix_rfl⟩
  | cons part parts ih =>
    obtain ⟨inks, buf, grows⟩ := ih (s.emit (strip A part))
    rw [List.foldl_cons]
    refine ⟨?_, buf, (List.prefix_append _ _).trans grows⟩
    rw [inks, inkOf_emit, ink_strip, List.flatten_cons, ink_append, List.append_assoc]

end Slices

section Packing

variable {size : ℕ}

/-- Everything one paragraph can do to the packing. -/
inductive Packed (A : Alphabet α) (size : ℕ) (s : Packing α) (p : List α) (s' : Packing α) : Prop where
  | split (oversized : size < p.length) (inks : inkOf A s'.pieces = inkOf A s.pieces ++ ink A p)
      (buf : s'.buf = s.buf) (grows : s.pieces <+: s'.pieces)
  | started (fits : p.length ≤ size) (empty : s.buf = []) (pieces : s'.pieces = s.pieces)
      (buf : s'.buf = p)
  | joined (fits : p.length ≤ size) (pending : s.buf ≠ []) (pieces : s'.pieces = s.pieces)
      (buf : s'.buf = s.buf ++ blankLine A ++ p)
  | flushed (fits : p.length ≤ size) (pending : s.buf ≠ [])
      (pieces : s'.pieces = (flushBuf A s).pieces) (buf : s'.buf = p)

theorem pack_packed (positive : 0 < size) (s : Packing α) (p : List α) :
    Packed A size s p (pack A size s p) := by
  unfold pack
  split
  · rename_i oversized
    obtain ⟨inks, buf, grows⟩ := emitAll (A := A) (slices size p p.length 0) s
    rw [flatten_slices positive p p.length 0 (by omega), List.drop_zero] at inks
    exact .split oversized inks buf grows
  · rename_i fits
    split
    · rename_i empty
      exact .started (by omega) empty rfl rfl
    · rename_i pending
      split
      · exact .joined (by omega) pending rfl rfl
      · exact .flushed (by omega) pending rfl rfl

/-- The buffer is empty, or what it holds needs no stripping. -/
def Ready (A : Alphabet α) (s : Packing α) : Prop := s.buf = [] ∨ Stripped A s.buf

theorem flushBuf_of_empty {s : Packing α} (empty : s.buf = []) : flushBuf A s = s := by
  rw [flushBuf, empty]
  rfl

theorem flushBuf_of_stripped {s : Packing α} (h : Stripped A s.buf) :
    (flushBuf A s).pieces = s.pieces ++ [⟨s.buf, s.order⟩] := by
  have some : ¬ s.buf.isEmpty = true := by simpa using h.ne_nil
  rw [flushBuf, h.strip_eq, if_neg some]
  rfl

theorem inkOf_flushBuf {s : Packing α} (ready : Ready A s) :
    inkOf A (flushBuf A s).pieces = inkOf A s.pieces ++ ink A s.buf := by
  rcases ready with empty | stripped
  · rw [flushBuf_of_empty empty, empty, ink_nil, List.append_nil]
  · rw [flushBuf_of_stripped stripped, inkOf_append, inkOf_singleton]

theorem flushBuf_grows {s : Packing α} (ready : Ready A s) : s.pieces <+: (flushBuf A s).pieces := by
  rcases ready with empty | stripped
  · rw [flushBuf_of_empty empty]
  · rw [flushBuf_of_stripped stripped]
    exact List.prefix_append _ _

variable {s s' : Packing α} {p q : List α}

theorem Packed.ready (h : Packed A size s p s') (ready : Ready A s) (stripped : Stripped A p) :
    Ready A s' := by
  cases h with
  | split oversized inks buf grows => rwa [Ready, buf]
  | started fits empty pieces buf => exact .inr (buf ▸ stripped)
  | joined fits pending pieces buf =>
    have before : Stripped A s.buf := ready.resolve_left pending
    exact .inr (buf ▸ before.append stripped _)
  | flushed fits pending pieces buf => exact .inr (buf ▸ stripped)

theorem Packed.grows (h : Packed A size s p s') (ready : Ready A s) : s.pieces <+: s'.pieces := by
  cases h with
  | split oversized inks buf grows => exact grows
  | started fits empty pieces buf => rw [pieces]
  | joined fits pending pieces buf => rw [pieces]
  | flushed fits pending pieces buf => exact pieces ▸ flushBuf_grows ready

/-- What a packing holds, read chunk by chunk and then from the buffer. -/
def held (A : Alphabet α) (s : Packing α) : List α := inkOf A s.pieces ++ ink A s.buf

/-- Only a paragraph that is split gets before the paragraphs in the buffer. -/
theorem Packed.held (h : Packed A size s p s') (ready : Ready A s)
    (inOrder : p.length ≤ size ∨ s.buf = []) : held A s' = held A s ++ ink A p := by
  unfold ChunkContent.held
  cases h with
  | split oversized inks buf grows =>
    have empty : s.buf = [] := inOrder.resolve_left (by omega)
    rw [inks, buf, empty, ink_nil, List.append_nil, List.append_nil]
  | started fits empty pieces buf =>
    rw [pieces, buf, empty, ink_nil, List.append_nil]
  | joined fits pending pieces buf =>
    rw [pieces, buf, ink_append, ink_append, ink_blankLine, List.append_nil, List.append_assoc]
  | flushed fits pending pieces buf =>
    rw [pieces, buf, inkOf_flushBuf ready]

theorem Packed.held_perm (h : Packed A size s p s') (ready : Ready A s) :
    (ChunkContent.held A s').Perm (ChunkContent.held A s ++ ink A p) := by
  by_cases inOrder : p.length ≤ size ∨ s.buf = []
  · rw [h.held ready inOrder]
  · cases h with
    | split oversized inks buf grows =>
      unfold ChunkContent.held
      rw [inks, buf, List.append_assoc, List.append_assoc]
      exact List.Perm.append_left _ List.perm_append_comm
    | started fits => exact absurd (.inl fits) inOrder
    | joined fits => exact absurd (.inl fits) inOrder
    | flushed fits => exact absurd (.inl fits) inOrder

/-- The text occurs unbroken in a chunk or in the buffer. -/
def Unbroken (q : List α) (s : Packing α) : Prop :=
  (∃ piece ∈ s.pieces, q <:+: piece.text) ∨ q <:+: s.buf

theorem Packed.unbroken (h : Packed A size s p s') (ready : Ready A s) (kept : Unbroken q s) :
    Unbroken q s' := by
  rcases kept with ⟨piece, mem, occurs⟩ | pending'
  · exact .inl ⟨piece, (h.grows ready).subset mem, occurs⟩
  · cases h with
    | split oversized inks buf grows => exact .inr (buf ▸ pending')
    | started fits empty pieces buf =>
      have none : q = [] := List.infix_nil.mp (empty ▸ pending')
      exact .inr (none ▸ List.nil_infix)
    | joined fits pending pieces buf =>
      rw [Unbroken, buf, List.append_assoc]
      exact .inr (pending'.trans (List.prefix_append _ _).isInfix)
    | flushed fits pending pieces buf =>
      have stripped : Stripped A s.buf := ready.resolve_left pending
      refine .inl ⟨⟨s.buf, s.order⟩, ?_, pending'⟩
      rw [pieces, flushBuf_of_stripped stripped]
      simp

theorem Packed.unbroken_self (h : Packed A size s p s') (fits : p.length ≤ size) :
    Unbroken p s' := by
  cases h with
  | split oversized => omega
  | started fits empty pieces buf => exact .inr (buf ▸ List.infix_rfl)
  | joined fits pending pieces buf => exact .inr (buf ▸ (List.suffix_append _ _).isInfix)
  | flushed fits pending pieces buf => exact .inr (buf ▸ List.infix_rfl)

end Packing

section PackAll

variable {size : ℕ} {paras : List (List α)}

private theorem foldl_append_singleton (done : List (List α)) (p : List α) (s : Packing α) :
    (done ++ [p]).foldl (pack A size) s = pack A size (done.foldl (pack A size) s) p := by
  rw [List.foldl_append]
  rfl

/-- The packing of all paragraphs before the last flush, with what it has made of them. -/
theorem packed_all (positive : 0 < size) (stripped : ∀ p ∈ paras, Stripped A p) :
    Ready A (paras.foldl (pack A size) {}) ∧
      (held A (paras.foldl (pack A size) {})).Perm (ink A paras.flatten) ∧
      ∀ p ∈ paras, p.length ≤ size → Unbroken p (paras.foldl (pack A size) {}) := by
  induction paras using List.reverseRecOn with
  | nil => exact ⟨.inl rfl, List.Perm.refl _, fun p h => nomatch h⟩
  | append_singleton done p ih =>
    obtain ⟨ready, perm, unbroken⟩ := ih (fun q hq => stripped q (List.mem_append_left _ hq))
    have packed := pack_packed (A := A) positive (done.foldl (pack A size) {}) p
    rw [foldl_append_singleton]
    refine ⟨packed.ready ready (stripped p (by simp)), ?_, ?_⟩
    · rw [List.flatten_append, ink_append, List.flatten_singleton]
      exact (packed.held_perm ready).trans (perm.append_right _)
    · intro q hq fits
      rcases List.mem_append.mp hq with before | last
      · exact packed.unbroken ready (unbroken q before fits)
      · rw [List.mem_singleton.mp last] at fits ⊢
        exact packed.unbroken_self fits

theorem inkOf_packAll (positive : 0 < size) (stripped : ∀ p ∈ paras, Stripped A p) :
    inkOf A (packAll A size paras).pieces = held A (paras.foldl (pack A size) {}) :=
  inkOf_flushBuf (packed_all positive stripped).1

theorem packAll_unbroken (positive : 0 < size) (stripped : ∀ p ∈ paras, Stripped A p) {p : List α}
    (h : p ∈ paras) (fits : p.length ≤ size) :
    ∃ piece ∈ (packAll A size paras).pieces, p <:+: piece.text := by
  obtain ⟨ready, -, unbroken⟩ := packed_all positive stripped
  rcases unbroken p h fits with ⟨piece, mem, occurs⟩ | pending
  · exact ⟨piece, (flushBuf_grows ready).subset mem, occurs⟩
  · rcases ready with empty | whole
    · rw [empty] at pending
      exact absurd (List.infix_nil.mp pending) (stripped p h).ne_nil
    · refine ⟨⟨_, (paras.foldl (pack A size) {}).order⟩, ?_, pending⟩
      rw [packAll, flushBuf_of_stripped whole]
      exact List.mem_append_right _ List.mem_cons_self

end PackAll

section Order

variable {size : ℕ}

/-- No paragraph that has to be split comes after one that has not. -/
def OversizedFirst (size : ℕ) (paras : List (List α)) : Prop :=
  paras.Pairwise (fun p q => size < q.length → size < p.length)

instance (size : ℕ) (paras : List (List α)) : Decidable (OversizedFirst size paras) :=
  inferInstanceAs (Decidable (paras.Pairwise _))

variable {paras : List (List α)}

theorem Packed.buf_of_oversized {s s' : Packing α} {p : List α} (h : Packed A size s p s')
    (oversized : size < p.length) : s'.buf = s.buf := by
  cases h with
  | split _ inks buf grows => exact buf
  | started fits => omega
  | joined fits => omega
  | flushed fits => omega

theorem Packed.buf_ne_nil {s s' : Packing α} {p : List α} (h : Packed A size s p s')
    (fits : p.length ≤ size) (stripped : Stripped A p) : s'.buf ≠ [] := by
  cases h with
  | split oversized => omega
  | started _ empty pieces buf => exact buf ▸ stripped.ne_nil
  | joined _ pending pieces buf =>
    rw [buf]
    exact List.append_ne_nil_of_right_ne_nil _ stripped.ne_nil
  | flushed _ pending pieces buf => exact buf ▸ stripped.ne_nil

theorem held_foldl (positive : 0 < size) (s : Packing α) (ready : Ready A s)
    (stripped : ∀ p ∈ paras, Stripped A p) (ordered : OversizedFirst size paras)
    (free : s.buf = [] ∨ ∀ p ∈ paras, p.length ≤ size) :
    held A (paras.foldl (pack A size) s) = held A s ++ ink A paras.flatten := by
  induction paras generalizing s with
  | nil => simp
  | cons p paras ih =>
    obtain ⟨leads, later⟩ := List.pairwise_cons.mp ordered
    have packed := pack_packed (A := A) positive s p
    have inOrder : p.length ≤ size ∨ s.buf = [] :=
      free.symm.imp (fun fits => fits p List.mem_cons_self) id
    have next := packed.ready ready (stripped p List.mem_cons_self)
    have free' : (pack A size s p).buf = [] ∨ ∀ q ∈ paras, q.length ≤ size := by
      by_cases oversized : size < p.length
      · left
        rw [packed.buf_of_oversized oversized]
        exact inOrder.resolve_left (by omega)
      · right
        intro q hq
        by_contra long
        exact oversized (leads q hq (by omega))
    rw [List.foldl_cons, ih _ next (fun q hq => stripped q (List.mem_cons_of_mem p hq)) later free',
      packed.held ready inOrder, List.flatten_cons, ink_append, List.append_assoc]

/-- What is in chunks stays in front of all that is packed later. -/
theorem inkOf_prefix_held (positive : 0 < size) (s : Packing α) (ready : Ready A s)
    (stripped : ∀ p ∈ paras, Stripped A p) :
    inkOf A s.pieces <+: held A (paras.foldl (pack A size) s) := by
  induction paras generalizing s with
  | nil => exact List.prefix_append _ _
  | cons p paras ih =>
    have packed := pack_packed (A := A) positive s p
    have next := packed.ready ready (stripped p List.mem_cons_self)
    obtain ⟨more, grown⟩ := packed.grows ready
    have first : inkOf A s.pieces <+: inkOf A (pack A size s p).pieces := by
      rw [← grown, inkOf_append]
      exact List.prefix_append _ _
    exact first.trans (ih _ next (fun q hq => stripped q (List.mem_cons_of_mem p hq)))

private theorem not_nodup_of_swap {u v x y : List α} (hu : u ≠ []) (hv : v ≠ [])
    (equal : u ++ x = v ++ (u ++ y)) : ¬ (v ++ (u ++ y)).Nodup := by
  obtain ⟨a, u, rfl⟩ := List.exists_cons_of_ne_nil hu
  obtain ⟨b, v, rfl⟩ := List.exists_cons_of_ne_nil hv
  have same : a = b := (List.cons_eq_cons.mp equal).1
  intro nodup
  rw [List.cons_append, List.nodup_cons] at nodup
  exact nodup.1 (by simp [same])

/-- A paragraph that is split while others wait in the buffer gets before them, and stays there. -/
theorem held_foldl_ne (positive : 0 < size) (s : Packing α) (ready : Ready A s)
    (stripped : ∀ p ∈ paras, Stripped A p)
    (late : (s.buf ≠ [] ∧ ∃ p ∈ paras, size < p.length) ∨ ¬ OversizedFirst size paras)
    (nodup : (held A s ++ ink A paras.flatten).Nodup) :
    held A (paras.foldl (pack A size) s) ≠ held A s ++ ink A paras.flatten := by
  induction paras generalizing s with
  | nil =>
    rcases late with ⟨-, p, mem, -⟩ | disordered
    · cases mem
    · exact absurd List.Pairwise.nil disordered
  | cons p paras ih =>
    have packed := pack_packed (A := A) positive s p
    have visible := stripped p List.mem_cons_self
    have stripped' : ∀ q ∈ paras, Stripped A q := fun q hq => stripped q (List.mem_cons_of_mem p hq)
    have next := packed.ready ready visible
    rw [List.foldl_cons]
    by_cases inOrder : p.length ≤ size ∨ s.buf = []
    · have same : held A s ++ ink A (p :: paras).flatten =
          held A (pack A size s p) ++ ink A paras.flatten := by
        rw [packed.held ready inOrder, List.flatten_cons, ink_append, List.append_assoc]
      rw [same] at nodup ⊢
      refine ih _ next stripped' ?_ nodup
      by_cases oversized : size < p.length
      · -- nothing waits, and what is out of order is among the paragraphs that follow
        have empty : s.buf = [] := inOrder.resolve_left (by omega)
        have disordered := late.resolve_left (fun pending => pending.1 empty)
        refine .inr (fun ordered => disordered ?_)
        exact List.pairwise_cons.mpr ⟨fun _ _ _ => oversized, ordered⟩
      · have waits := packed.buf_ne_nil (by omega) visible
        by_cases split : ∃ q ∈ paras, size < q.length
        · exact .inl ⟨waits, split⟩
        · right
          intro ordered
          rcases late with ⟨-, q, hq, long⟩ | disordered
          · rcases List.mem_cons.mp hq with rfl | hq
            · exact oversized long
            · exact split ⟨q, hq, long⟩
          · refine disordered (List.pairwise_cons.mpr ⟨?_, ordered⟩)
            intro q hq long
            exact absurd ⟨q, hq, long⟩ split
    · rw [not_or, not_le] at inOrder
      obtain ⟨oversized, pending⟩ := inOrder
      have waiting : Stripped A s.buf := ready.resolve_left pending
      have front : inkOf A (pack A size s p).pieces = inkOf A s.pieces ++ ink A p := by
        cases packed with
        | split _ inks buf grows => exact inks
        | started fits => omega
        | joined fits => omega
        | flushed fits => omega
      obtain ⟨more, read⟩ := inkOf_prefix_held positive _ next stripped'
      intro equal
      rw [front, List.append_assoc] at read
      rw [← read, held, List.flatten_cons, ink_append, List.append_assoc] at equal
      rw [held, List.flatten_cons, ink_append, List.append_assoc] at nodup
      have swapped := List.append_cancel_left equal
      exact not_nodup_of_swap visible.ink_ne_nil waiting.ink_ne_nil swapped
        (List.nodup_append.mp nodup).2.1

end Order

section Merge

variable {least : ℕ}

/-- What a merging holds, read chunk by chunk and then from the tiny ones that wait. -/
def heldTiny (A : Alphabet α) (m : Merging α) : List α := inkOf A m.merged ++ ink A m.tmp

theorem heldTiny_flush (m : Merging α) : heldTiny A (m.flush A) = heldTiny A m := by
  unfold Merging.flush heldTiny
  split
  · rfl
  · rw [inkOf_append, inkOf_singleton, ink_strip, ink_nil, List.append_nil]

theorem tmp_flush (m : Merging α) : (m.flush A).tmp = [] := by
  unfold Merging.flush
  split
  · assumption
  · rfl

theorem heldTiny_mergeStep (m : Merging α) (ch : Piece α) :
    heldTiny A (mergeStep A least m ch) = heldTiny A m ++ ink A ch.text := by
  unfold mergeStep
  split
  · split
    · rename_i empty
      rw [heldTiny, heldTiny, empty, ink_nil, List.append_nil]
    · change inkOf A m.merged ++ ink A (m.tmp ++ blankLine A ++ ch.text) = _
      rw [heldTiny, ink_append, ink_append, ink_blankLine, List.append_nil, List.append_assoc]
  · change inkOf A ((m.flush A).merged ++ [ch]) ++ ink A (m.flush A).tmp = _
    have flushed := heldTiny_flush (A := A) m
    rw [heldTiny, tmp_flush, ink_nil, List.append_nil] at flushed
    rw [inkOf_append, inkOf_singleton, tmp_flush, ink_nil, List.append_nil, flushed]

/-- Merging keeps what is visible, and its order. -/
theorem inkOf_mergeTiny (pieces : List (Piece α)) :
    inkOf A (mergeTiny A least pieces) = inkOf A pieces := by
  have run : heldTiny A (pieces.foldl (mergeStep A least) {}) = inkOf A pieces := by
    induction pieces using List.reverseRecOn with
    | nil => rfl
    | append_singleton pieces ch ih =>
      rw [List.foldl_append]
      change heldTiny A (mergeStep A least _ ch) = _
      rw [heldTiny_mergeStep, ih, inkOf_append, inkOf_singleton]
  have flushed := heldTiny_flush (A := A) (pieces.foldl (mergeStep A least) {})
  rw [run, heldTiny, tmp_flush, ink_nil, List.append_nil] at flushed
  exact flushed

/-- The text occurs unbroken in a merged chunk or among the tiny ones that wait. -/
def UnbrokenTiny (q : List α) (m : Merging α) : Prop :=
  (∃ piece ∈ m.merged, q <:+: piece.text) ∨ q <:+: m.tmp

theorem unbrokenTiny_flush {q : List α} (visible : Stripped A q) {m : Merging α}
    (kept : UnbrokenTiny q m) : ∃ piece ∈ (m.flush A).merged, q <:+: piece.text := by
  unfold Merging.flush
  split
  · rename_i empty
    rcases kept with merged | waiting
    · exact merged
    · rw [empty] at waiting
      exact absurd (List.infix_nil.mp waiting) visible.ne_nil
  · rcases kept with ⟨piece, mem, occurs⟩ | waiting
    · exact ⟨piece, List.mem_append_left _ mem, occurs⟩
    · exact ⟨⟨strip A m.tmp, m.tmpOrder⟩, List.mem_append_right _ List.mem_cons_self,
        visible.infix_strip waiting⟩

theorem unbrokenTiny_mergeStep {q : List α} (visible : Stripped A q) {m : Merging α} {ch : Piece α}
    (kept : UnbrokenTiny q m ∨ q <:+: ch.text) : UnbrokenTiny q (mergeStep A least m ch) := by
  unfold mergeStep
  split
  · split
    · rename_i empty
      rcases kept with (merged | waiting) | occurs
      · exact .inl merged
      · rw [empty] at waiting
        exact absurd (List.infix_nil.mp waiting) visible.ne_nil
      · exact .inr occurs
    · rcases kept with (merged | waiting) | occurs
      · exact .inl merged
      · right
        change q <:+: m.tmp ++ blankLine A ++ ch.text
        rw [List.append_assoc]
        exact waiting.trans (List.prefix_append _ _).isInfix
      · exact .inr (occurs.trans (List.suffix_append _ _).isInfix)
  · left
    rcases kept with before | occurs
    · obtain ⟨piece, mem, occurs⟩ := unbrokenTiny_flush visible before
      exact ⟨piece, List.mem_append_left _ mem, occurs⟩
    · exact ⟨ch, List.mem_append_right _ List.mem_cons_self, occurs⟩

/-- Merging breaks no text that begins and ends visibly. -/
theorem mergeTiny_unbroken {q : List α} (visible : Stripped A q) {pieces : List (Piece α)}
    {piece : Piece α} (mem : piece ∈ pieces) (occurs : q <:+: piece.text) :
    ∃ merged ∈ mergeTiny A least pieces, q <:+: merged.text := by
  have run : UnbrokenTiny q (pieces.foldl (mergeStep A least) {}) := by
    induction pieces using List.reverseRecOn with
    | nil => cases mem
    | append_singleton pieces ch ih =>
      rw [List.foldl_append]
      refine unbrokenTiny_mergeStep visible ?_
      rcases List.mem_append.mp mem with before | last
      · exact .inl (ih before)
      · exact .inr (List.mem_singleton.mp last ▸ occurs)
  exact unbrokenTiny_flush visible run

end Merge

/-- Where no visible character occurs twice, the chunks keep their order if and only if no
paragraph that has to be split comes after one that has not. -/
theorem inkOf_chunkPieces_eq_iff {cleaner : Cleaner} (positive : 0 < cleaner.maxChunkChars)
    {t : List α} (nodup : (ink A t).Nodup) :
    inkOf A (chunkPieces A cleaner t) = ink A t ↔
      OversizedFirst cleaner.maxChunkChars (paragraphs A t) := by
  have stripped : ∀ p ∈ paragraphs A t, Stripped A p := fun p h => stripped_of_mem_paragraphs h
  have empty : held A ({} : Packing α) = [] := rfl
  have ready : Ready A ({} : Packing α) := .inl rfl
  rw [chunkPieces, inkOf_mergeTiny, inkOf_packAll positive stripped, ← ink_paragraphs t]
  constructor
  · intro reads
    by_contra disordered
    refine held_foldl_ne positive {} ready stripped (.inr disordered) ?_ ?_
    · rwa [empty, List.nil_append, ink_paragraphs]
    · rwa [empty, List.nil_append]
  · intro ordered
    rw [held_foldl positive {} ready stripped ordered (.inl rfl), empty, List.nil_append]

section Relabel

variable {B : Alphabet β} {f : α → β}

def Piece.map (f : α → β) (piece : Piece α) : Piece β := ⟨piece.text.map f, piece.order⟩

def Packing.map (f : α → β) (s : Packing α) : Packing β :=
  ⟨s.pieces.map (Piece.map f), s.buf.map f, s.order⟩

def Merging.map (f : α → β) (m : Merging α) : Merging β :=
  ⟨m.merged.map (Piece.map f), m.tmp.map f, m.tmpOrder⟩

theorem slices_map (size : ℕ) (p : List α) (fuel start : ℕ) :
    slices size (p.map f) fuel start = (slices size p fuel start).map (List.map f) := by
  induction fuel generalizing start with
  | zero => rfl
  | succ fuel ih =>
    rw [slices, slices, List.length_map]
    split
    · rw [ih, ← List.map_drop, ← List.map_take, List.map_cons]
    · rfl

theorem blankLine_map (h : Relabels A B f) : (blankLine A).map f = blankLine B := by
  rw [blankLine, List.map_cons, List.map_singleton, h.newline]
  rfl

theorem paragraphs_map (h : Relabels A B f) (t : List α) :
    paragraphs B (t.map f) = (paragraphs A t).map (List.map f) := by
  simp [paragraphs, h.splitBlankLines_map, List.filter_map, Function.comp_def, h.strip_map]

theorem emit_map (h : Relabels A B f) (s : Packing α) (t : List α) :
    (Packing.map f s).emit (strip B (t.map f)) = Packing.map f (s.emit (strip A t)) := by
  rw [h.strip_map, Packing.emit, Packing.emit, Packing.map, Packing.map, List.map_append]
  rfl

theorem flushBuf_map (h : Relabels A B f) (s : Packing α) :
    flushBuf B (Packing.map f s) = Packing.map f (flushBuf A s) := by
  have stripped : strip B (Packing.map f s).buf = (strip A s.buf).map f := h.strip_map s.buf
  have emitted : (Packing.map f s).emit (strip B (Packing.map f s).buf) =
      Packing.map f (s.emit (strip A s.buf)) := emit_map h s s.buf
  rw [stripped] at emitted
  unfold flushBuf
  rw [stripped, List.isEmpty_map, emitted]
  split <;> rfl

theorem emitAll_map (h : Relabels A B f) (parts : List (List α)) (s : Packing α) :
    (parts.map (List.map f)).foldl (fun s part => s.emit (strip B part)) (Packing.map f s) =
      Packing.map f (parts.foldl (fun s part => s.emit (strip A part)) s) := by
  induction parts generalizing s with
  | nil => rfl
  | cons part parts ih => rw [List.map_cons, List.foldl_cons, emit_map h, ih, List.foldl_cons]

theorem pack_map (h : Relabels A B f) (size : ℕ) (s : Packing α) (p : List α) :
    pack B size (Packing.map f s) (p.map f) = Packing.map f (pack A size s p) := by
  have buf : (Packing.map f s).buf = s.buf.map f := rfl
  unfold pack
  rw [List.length_map, buf, List.length_map, slices_map, emitAll_map h, flushBuf_map h]
  split
  · rfl
  · by_cases empty : s.buf = []
    · rw [if_pos empty, if_pos (by rw [empty]; rfl)]
      rfl
    · rw [if_neg empty, if_neg (by simpa using empty)]
      split
      · rw [← blankLine_map h, ← List.map_append, ← List.map_append]
        rfl
      · rfl

theorem packAll_map (h : Relabels A B f) (size : ℕ) (paras : List (List α)) :
    packAll B size (paras.map (List.map f)) = Packing.map f (packAll A size paras) := by
  have run : (paras.map (List.map f)).foldl (pack B size) {} =
      Packing.map f (paras.foldl (pack A size) {}) := by
    rw [List.foldl_map, show ({} : Packing β) = Packing.map f {} from rfl]
    exact List.foldl_hom (Packing.map f) fun s p => pack_map h size s p
  rw [packAll, run, flushBuf_map h]
  rfl

theorem mergingFlush_map (h : Relabels A B f) (m : Merging α) :
    (Merging.map f m).flush B = Merging.map f (m.flush A) := by
  have tmp : (Merging.map f m).tmp = m.tmp.map f := rfl
  unfold Merging.flush
  rw [tmp, h.strip_map]
  by_cases empty : m.tmp = []
  · rw [if_pos empty, if_pos (by rw [empty]; rfl)]
  · rw [if_neg empty, if_neg (by simpa using empty)]
    simp [Merging.map, Piece.map]

theorem mergeStep_map (h : Relabels A B f) (least : ℕ) (m : Merging α) (ch : Piece α) :
    mergeStep B least (Merging.map f m) (Piece.map f ch) = Merging.map f (mergeStep A least m ch) := by
  have tmp : (Merging.map f m).tmp = m.tmp.map f := rfl
  have text : (Piece.map f ch).text = ch.text.map f := rfl
  unfold mergeStep
  rw [text, List.length_map, tmp, mergingFlush_map h]
  split
  · by_cases empty : m.tmp = []
    · rw [if_pos empty, if_pos (by rw [empty]; rfl)]
      rfl
    · rw [if_neg empty, if_neg (by simpa using empty), ← blankLine_map h, ← List.map_append,
        ← List.map_append]
      rfl
  · simp [Merging.map]

/-- Chunks are cut by the kinds of the characters alone. -/
theorem chunkPieces_map (h : Relabels A B f) (cleaner : Cleaner) (t : List α) :
    chunkPieces B cleaner (t.map f) = (chunkPieces A cleaner t).map (Piece.map f) := by
  have merges : ∀ pieces : List (Piece α), mergeTiny B cleaner.minChunkChars
      (pieces.map (Piece.map f)) = (mergeTiny A cleaner.minChunkChars pieces).map (Piece.map f) := by
    intro pieces
    have run : (pieces.map (Piece.map f)).foldl (mergeStep B cleaner.minChunkChars) {} =
        Merging.map f (pieces.foldl (mergeStep A cleaner.minChunkChars) {}) := by
      rw [List.foldl_map, show ({} : Merging β) = Merging.map f {} from rfl]
      exact List.foldl_hom (Merging.map f) fun m ch => mergeStep_map h _ m ch
    rw [mergeTiny, run, mergingFlush_map h]
    rfl
  rw [chunkPieces, paragraphs_map h, packAll_map h]
  exact merges _

end Relabel

section Content

variable (cleaner : Cleaner) (doc : Document)

/-- The cleaned text of a document. -/
def cleaned (doc : Document) : List Char := cleanText doc.text.toList

def chunkTexts (cleaner : Cleaner) (doc : Document) : List (List Char) :=
  (chunk cleaner doc).chunks.map (·.text.toList)

theorem chunkTexts_eq : chunkTexts cleaner doc =
    (chunkPieces chars cleaner (cleaned doc)).map Piece.text := by
  have texts : ∀ piece : Piece Char × ℕ, (toChunk doc piece).text.toList = piece.1.text :=
    fun piece => String.toList_ofList
  rw [chunkTexts, chunk, List.map_map]
  calc (chunkPieces chars cleaner (cleaned doc)).zipIdx.map
        ((·.text.toList) ∘ toChunk doc)
      = (chunkPieces chars cleaner (cleaned doc)).zipIdx.map (Piece.text ∘ Prod.fst) :=
        List.map_congr_left (fun piece _ => texts piece)
    _ = (chunkPieces chars cleaner (cleaned doc)).map Piece.text := by
        rw [← List.map_map, List.zipIdx_map_fst]

/-- The chunks hold what is visible in the cleaned text and nothing else, no paragraph that fits
into a chunk is broken, and the chunks are numbered from zero. -/
structure Conserves (cleaner : Cleaner) (doc : Document) : Prop where
  ink : (ink chars (chunkTexts cleaner doc).flatten).Perm (ink chars (cleaned doc))
  unbroken : ∀ p ∈ paragraphs chars (cleaned doc), p.length ≤ cleaner.maxChunkChars →
    ∃ text ∈ chunkTexts cleaner doc, p <:+: text
  numbered : (chunk cleaner doc).chunks.map Chunk.order =
    List.range (chunk cleaner doc).chunks.length

theorem chunks_conserve {cleaner : Cleaner} (positive : 0 < cleaner.maxChunkChars)
    (doc : Document) : Conserves cleaner doc := by
  have stripped : ∀ p ∈ paragraphs chars (cleaned doc), Stripped chars p :=
    fun p h => stripped_of_mem_paragraphs h
  constructor
  · have packed := (packed_all positive stripped).2.1
    rw [← inkOf_packAll positive stripped, ink_paragraphs] at packed
    rw [chunkTexts_eq]
    change (inkOf chars (mergeTiny _ _ _)).Perm _
    rw [inkOf_mergeTiny]
    exact packed
  · intro p mem fits
    obtain ⟨piece, made, occurs⟩ := packAll_unbroken positive stripped mem fits
    obtain ⟨merged, kept, occurs'⟩ := mergeTiny_unbroken (stripped p mem) made occurs
    rw [chunkTexts_eq]
    exact ⟨merged.text, List.mem_map_of_mem kept, occurs'⟩
  · have orders : Chunk.order ∘ toChunk doc = Prod.snd := rfl
    rw [chunk, List.map_map, orders, List.zipIdx_map_snd, List.length_map, List.length_zipIdx,
      List.range_eq_range']

/-- Two paragraphs, the first too long for a chunk. -/
def longThenShort : Document where
  url := "https://example.com"
  title := none
  text := "cdefgh\n\nab"

theorem chunks_conserve_long : Conserves ⟨5, 0⟩ longThenShort := by
  have positive : 0 < (⟨5, 0⟩ : Cleaner).maxChunkChars := by decide
  exact chunks_conserve positive longThenShort

end Content

section Located

/-- Characters with their places in a text; a newline that is put in has none of its own. -/
def located : Alphabet (Char × ℕ) where
  isSpace c := chars.isSpace c.1
  isNewline c := chars.isNewline c.1
  newline := (chars.newline, 0)
  newline_isNewline := chars.newline_isNewline
  isSpace_of_isNewline c h := chars.isSpace_of_isNewline c.1 h

theorem relabels_located : Relabels located chars Prod.fst := ⟨fun _ => rfl, fun _ => rfl, rfl⟩

/-- The chunks of a document, each character with its place in the cleaned text. -/
def locatedChunks (cleaner : Cleaner) (doc : Document) : List (Piece (Char × ℕ)) :=
  chunkPieces located cleaner (cleaned doc).zipIdx

theorem chunkTexts_located (cleaner : Cleaner) (doc : Document) :
    chunkTexts cleaner doc = (locatedChunks cleaner doc).map (fun piece => piece.text.map Prod.fst) := by
  have same := chunkPieces_map relabels_located cleaner (cleaned doc).zipIdx
  rw [List.zipIdx_map_fst] at same
  rw [chunkTexts_eq, same, List.map_map]
  rfl

/-- Reading the chunks one after the other yields the visible text, every character of it at its
place, and so whatever is in an earlier chunk is before whatever is in a later one. -/
structure ReadsInOrder (cleaner : Cleaner) (doc : Document) : Prop where
  text : ink chars (chunkTexts cleaner doc).flatten = ink chars (cleaned doc)
  places : inkOf located (locatedChunks cleaner doc) = ink located (cleaned doc).zipIdx
  precedes : (locatedChunks cleaner doc).Pairwise (fun earlier later =>
    ∀ a ∈ ink located earlier.text, ∀ b ∈ ink located later.text, a.2 < b.2)

theorem pairwise_places (doc : Document) :
    (ink located (cleaned doc).zipIdx).Pairwise (fun a b => a.2 < b.2) := by
  have places : ((cleaned doc).zipIdx.map Prod.snd).Pairwise (· < ·) := by
    rw [List.zipIdx_map_snd]
    exact List.pairwise_lt_range'
  exact (List.pairwise_map.mp places).filter _

theorem readsInOrder_of_places {cleaner : Cleaner} {doc : Document}
    (places : inkOf located (locatedChunks cleaner doc) = ink located (cleaned doc).zipIdx) :
    ReadsInOrder cleaner doc := by
  refine ⟨?_, places, ?_⟩
  · have read : (chunkTexts cleaner doc).flatten =
        ((locatedChunks cleaner doc).map Piece.text).flatten.map Prod.fst := by
      rw [chunkTexts_located, List.map_flatten, List.map_map]
      rfl
    have text : ink chars (cleaned doc) = (ink located (cleaned doc).zipIdx).map Prod.fst := by
      rw [← relabels_located.ink_map, List.zipIdx_map_fst]
    rw [read, relabels_located.ink_map, text, ← places]
    rfl
  · have ordered := pairwise_places doc
    rw [← places, inkOf, ink_flatten, List.pairwise_flatten, List.pairwise_map,
      List.pairwise_map] at ordered
    exact ordered.2

/-- The chunks keep the order of the document if and only if no paragraph that has to be split
comes after one that has not. -/
theorem chunk_order_iff {cleaner : Cleaner} (positive : 0 < cleaner.maxChunkChars)
    (doc : Document) : ReadsInOrder cleaner doc ↔
      OversizedFirst cleaner.maxChunkChars (paragraphs chars (cleaned doc)) := by
  have paras : paragraphs chars (cleaned doc) =
      (paragraphs located (cleaned doc).zipIdx).map (List.map Prod.fst) := by
    rw [← paragraphs_map relabels_located, List.zipIdx_map_fst]
  have lengths : OversizedFirst cleaner.maxChunkChars (paragraphs chars (cleaned doc)) ↔
      OversizedFirst cleaner.maxChunkChars (paragraphs located (cleaned doc).zipIdx) := by
    rw [paras, OversizedFirst, List.pairwise_map]
    simp only [List.length_map]
    exact Iff.rfl
  have nodup : (ink located (cleaned doc).zipIdx).Nodup :=
    (pairwise_places doc).imp (fun less same => by rw [same] at less; exact lt_irrefl _ less)
  rw [lengths, ← inkOf_chunkPieces_eq_iff positive nodup]
  exact ⟨fun reads => reads.places, readsInOrder_of_places⟩

/-- The same paragraphs the other way round. -/
def shortThenLong : Document where
  url := "https://example.com"
  title := none
  text := "ab\n\ncdefgh"

theorem chunk_order_long_first : ReadsInOrder ⟨5, 0⟩ longThenShort := by
  have positive : 0 < (⟨5, 0⟩ : Cleaner).maxChunkChars := by decide
  exact (chunk_order_iff positive longThenShort).mpr (by decide +kernel)

theorem chunks_swapped :
    chunkTexts ⟨5, 0⟩ shortThenLong = ["cdefg".toList, "h".toList, "ab".toList] ∧
      ¬ ReadsInOrder ⟨5, 0⟩ shortThenLong := by
  have texts : chunkTexts ⟨5, 0⟩ shortThenLong = ["cdefg".toList, "h".toList, "ab".toList] := by
    decide +kernel
  refine ⟨texts, fun reads => ?_⟩
  have text := reads.text
  rw [texts] at text
  exact absurd text (by decide +kernel)

end Located

end SthBoring.WebKit.ChunkContent
