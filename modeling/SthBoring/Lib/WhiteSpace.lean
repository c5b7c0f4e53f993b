/- Module: SthBoring/Lib/WhiteSpace
   source: str.strip and str.split of the standard library, over any alphabet
   digest: Stripping and splitting texts, and what is left of a text without its white space. -/

import Mathlib.Data.List.Chain
import Mathlib.Data.List.DropRight
import Mathlib.Data.List.Infix
import Mathlib.Data.List.Nodup

set_option autoImplicit false
set_option relaxedAutoImplicit false

namespace SthBoring.Lib.WhiteSpace

/-- Characters, some of which are white space, and some of these line ends. -/
structure Alphabet (α : Type) where
  isSpace : α → Bool
  isNewline : α → Bool
  newline : α
  newline_isNewline : isNewline newline = true
  isSpace_of_isNewline : ∀ a, isNewline a = true → isSpace a = true

variable {α β : Type} (A : Alphabet α)

theorem Alphabet.newline_isSpace : A.isSpace A.newline = true :=
  A.isSpace_of_isNewline A.newline A.newline_isNewline

/-- `text.strip()`. -/
def strip (text : List α) : List α :=
  ((text.dropWhile A.isSpace).reverse.dropWhile A.isSpace).reverse

/-- `text.split("\n\n")`. -/
def splitBlankLines : List α → List (List α)
  | [] => [[]]
  | [a] => [[a]]
  | a :: b :: rest =>
    if A.isNewline a && A.isNewline b then [] :: splitBlankLines rest
    else (splitBlankLines (b :: rest)).modifyHead (a :: ·)

/-- The text with its white space dropped. -/
def ink (text : List α) : List α := text.filter (fun a => !A.isSpace a)

def blankLine : List α := [A.newline, A.newline]

section Ink

variable {A}

@[simp] theorem ink_nil : ink A [] = [] := rfl

@[simp] theorem ink_append (s t : List α) : ink A (s ++ t) = ink A s ++ ink A t :=
  List.filter_append s t

@[simp] theorem ink_flatten (ts : List (List α)) : ink A ts.flatten = (ts.map (ink A)).flatten := by
  induction ts with
  | nil => rfl
  | cons t ts ih => rw [List.flatten_cons, ink_append, ih]; rfl

theorem ink_cons_of_space {a : α} (h : A.isSpace a = true) (t : List α) : ink A (a :: t) = ink A t :=
  List.filter_cons_of_neg (by simp [h])

theorem ink_cons_of_not_space {a : α} (h : A.isSpace a = false) (t : List α) :
    ink A (a :: t) = a :: ink A t :=
  List.filter_cons_of_pos (by simp [h])

@[simp] theorem ink_blankLine : ink A (blankLine A) = [] := by
  rw [blankLine, ink_cons_of_space A.newline_isSpace, ink_cons_of_space A.newline_isSpace, ink_nil]

theorem ink_reverse (t : List α) : ink A t.reverse = (ink A t).reverse :=
  List.filter_reverse ..

theorem ink_dropWhile (t : List α) : ink A (t.dropWhile A.isSpace) = ink A t := by
  induction t with
  | nil => rfl
  | cons a t ih =>
    cases space : A.isSpace a with
    | true => rw [List.dropWhile_cons_of_pos space, ih, ink_cons_of_space space]
    | false => rw [List.dropWhile_cons_of_neg (by simp [space])]

@[simp] theorem ink_strip (t : List α) : ink A (strip A t) = ink A t := by
  rw [strip, ink_reverse, ink_dropWhile, ink_reverse, List.reverse_reverse, ink_dropWhile]

theorem splitBlankLines_ne_nil (t : List α) : splitBlankLines A t ≠ [] := by
  fun_induction splitBlankLines A t with
  | case1 => exact List.cons_ne_nil _ _
  | case2 a => exact List.cons_ne_nil _ _
  | case3 a b rest both ih => exact List.cons_ne_nil _ _
  | case4 a b rest _ ih =>
    obtain ⟨head, tail, parts⟩ := List.exists_cons_of_ne_nil ih
    rw [parts, List.modifyHead_cons]
    exact List.cons_ne_nil _ _

@[simp] theorem ink_splitBlankLines (t : List α) : ink A (splitBlankLines A t).flatten = ink A t := by
  fun_induction splitBlankLines A t with
  | case1 => rfl
  | case2 a => rfl
  | case3 a b rest both ih =>
    obtain ⟨first, second⟩ := Bool.and_eq_true_iff.mp both
    rw [List.flatten_cons, List.nil_append, ih, ink_cons_of_space (A.isSpace_of_isNewline a first),
      ink_cons_of_space (A.isSpace_of_isNewline b second)]
  | case4 a b rest _ ih =>
    obtain ⟨head, tail, parts⟩ := List.exists_cons_of_ne_nil (splitBlankLines_ne_nil (b :: rest))
    rw [parts] at ih
    rw [parts, List.modifyHead_cons, List.flatten_cons, List.cons_append, ← List.flatten_cons]
    change ink A ([a] ++ (head :: tail).flatten) = ink A ([a] ++ b :: rest)
    rw [ink_append, ink_append, ih]

end Ink

section Stripped

variable {A}

/-- Nothing to strip: the text begins and ends with a character that is no white space. -/
structure Stripped (A : Alphabet α) (t : List α) : Prop where
  head : ∃ a, t.head? = some a ∧ A.isSpace a = false
  last : ∃ a, t.getLast? = some a ∧ A.isSpace a = false

theorem Stripped.ne_nil {t : List α} (h : Stripped A t) : t ≠ [] := by
  rintro rfl
  obtain ⟨a, ha, -⟩ := h.head
  cases ha

theorem Stripped.reverse {t : List α} (h : Stripped A t) : Stripped A t.reverse := by
  obtain ⟨a, ha, visible⟩ := h.head
  obtain ⟨b, hb, visible'⟩ := h.last
  exact ⟨⟨b, by rw [List.head?_reverse, hb], visible'⟩, ⟨a, by rw [List.getLast?_reverse, ha], visible⟩⟩

theorem Stripped.ink_ne_nil {t : List α} (h : Stripped A t) : ink A t ≠ [] := by
  obtain ⟨a, ha, visible⟩ := h.head
  obtain ⟨rest, rfl⟩ := List.head?_eq_some_iff.mp ha
  rw [ink_cons_of_not_space visible]
  exact List.cons_ne_nil _ _

theorem Stripped.append {s t : List α} (hs : Stripped A s) (ht : Stripped A t) (between : List α) :
    Stripped A (s ++ between ++ t) := by
  obtain ⟨a, ha, visible⟩ := hs.head
  obtain ⟨b, hb, visible'⟩ := ht.last
  refine ⟨⟨a, ?_, visible⟩, ⟨b, ?_, visible'⟩⟩
  · rw [List.append_assoc, List.head?_append, ha]
    rfl
  · rw [List.getLast?_append, hb]
    rfl

private theorem dropWhile_of_head {t : List α} {a : α} (first : t.head? = some a)
    (visible : A.isSpace a = false) : t.dropWhile A.isSpace = t := by
  obtain ⟨rest, rfl⟩ := List.head?_eq_some_iff.mp first
  exact List.dropWhile_cons_of_neg (by simp [visible])

theorem Stripped.strip_eq {t : List α} (h : Stripped A t) : strip A t = t := by
  obtain ⟨a, ha, visible⟩ := h.head
  obtain ⟨b, hb, visible'⟩ := h.last
  have first : t.reverse.head? = some b := by rw [List.head?_reverse, hb]
  rw [strip, dropWhile_of_head ha visible, dropWhile_of_head first visible', List.reverse_reverse]

private theorem head_dropWhile {t : List α} (h : t.dropWhile A.isSpace ≠ []) :
    ∃ a, (t.dropWhile A.isSpace).head? = some a ∧ A.isSpace a = false := by
  obtain ⟨a, rest, split⟩ := List.exists_cons_of_ne_nil h
  refine ⟨a, by rw [split]; rfl, ?_⟩
  have visible := List.head_dropWhile_not A.isSpace h
  simpa [split] using visible

private theorem getLast_dropWhile {t : List α} (h : t.dropWhile A.isSpace ≠ []) :
    (t.dropWhile A.isSpace).getLast? = t.getLast? := by
  obtain ⟨front, split⟩ := List.dropWhile_suffix (l := t) A.isSpace
  conv_rhs => rw [← split]
  rw [List.getLast?_append_of_ne_nil _ h]

/-- What stripping leaves, unless it leaves nothing. -/
theorem stripped_strip {t : List α} (h : strip A t ≠ []) : Stripped A (strip A t) := by
  have left : (t.dropWhile A.isSpace).reverse.dropWhile A.isSpace ≠ [] := by
    intro none
    exact h (by rw [strip, none]; rfl)
  obtain ⟨b, hb, visible'⟩ := head_dropWhile left
  have inner : t.dropWhile A.isSpace ≠ [] := by
    intro none
    rw [none] at left
    exact left rfl
  obtain ⟨a, ha, visible⟩ := head_dropWhile inner
  refine ⟨⟨a, ?_, visible⟩, ⟨b, ?_, visible'⟩⟩
  · rw [strip, List.head?_reverse, getLast_dropWhile left, List.getLast?_reverse]
    exact ha
  · rw [strip, List.getLast?_reverse]
    exact hb

theorem ink_eq_nil_iff {t : List α} : ink A t = [] ↔ strip A t = [] := by
  constructor
  · intro none
    by_contra some
    exact (stripped_strip some).ink_ne_nil (by rw [ink_strip, none])
  · intro none
    rw [← ink_strip, none, ink_nil]

private theorem Stripped.infix_dropWhile {p t : List α} (h : Stripped A p) (occurs : p <:+: t) :
    p <:+: t.dropWhile A.isSpace := by
  obtain ⟨a, ha, visible⟩ := h.head
  obtain ⟨before, after, rfl⟩ := occurs
  induction before with
  | nil =>
    have first : (p ++ after).head? = some a := by
      rw [List.head?_append, ha]
      rfl
    rw [List.nil_append, dropWhile_of_head first visible]
    exact ⟨[], after, rfl⟩
  | cons c before ih =>
    rw [List.cons_append, List.cons_append, List.dropWhile_cons]
    split
    · exact ih
    · exact ⟨c :: before, after, rfl⟩

/-- A stripped text that occurs in another still occurs there when that is stripped. -/
theorem Stripped.infix_strip {p t : List α} (h : Stripped A p) (occurs : p <:+: t) :
    p <:+: strip A t := by
  have right := h.infix_dropWhile occurs
  have left := h.reverse.infix_dropWhile (List.reverse_infix.mpr right)
  rw [strip, ← List.reverse_infix, List.reverse_reverse]
  exact left

theorem strip_inside (t : List α) : strip A t <:+: t := by
  have left : t.dropWhile A.isSpace <:+ t := List.dropWhile_suffix _
  have right : ((t.dropWhile A.isSpace).reverse.dropWhile A.isSpace).reverse <+:
      t.dropWhile A.isSpace := by
    rw [← List.reverse_suffix, List.reverse_reverse]
    exact List.dropWhile_suffix _
  exact right.isInfix.trans left.isInfix

theorem length_strip_le (t : List α) : (strip A t).length ≤ t.length :=
  (strip_inside t).length_le

theorem strip_eq_nil_or_stripped (t : List α) : strip A t = [] ∨ Stripped A (strip A t) := by
  by_cases none : strip A t = []
  · exact .inl none
  · exact .inr (stripped_strip none)

/-- What stripping leaves of a text occurs in what it leaves of a longer one. -/
theorem strip_occurs {s t : List α} (occurs : s <:+: t) : strip A s <:+: strip A t := by
  rcases strip_eq_nil_or_stripped (A := A) s with none | visible
  · rw [none]
    exact List.nil_infix
  · exact visible.infix_strip ((strip_inside s).trans occurs)

theorem strip_dropWhile (t : List α) : strip A (t.dropWhile A.isSpace) = strip A t := by
  rw [strip, strip, List.dropWhile_idempotent]

theorem dropWhile_of_stripped {t : List α} (h : t = [] ∨ Stripped A t) :
    t.dropWhile A.isSpace = t := by
  rcases h with rfl | stripped
  · rfl
  · obtain ⟨a, ha, visible⟩ := stripped.head
    exact dropWhile_of_head ha visible

/-- White space on both sides of a stripped text goes. -/
theorem strip_between {s t u : List α} (front : ∀ a ∈ s, A.isSpace a = true)
    (stripped : Stripped A t) (back : ∀ a ∈ u, A.isSpace a = true) : strip A (s ++ t ++ u) = t := by
  obtain ⟨a, ha, visible⟩ := stripped.head
  have first : (t ++ u).head? = some a := by rw [List.head?_append, ha, Option.some_or]
  have last := dropWhile_of_stripped (.inr stripped.reverse)
  rw [strip, List.append_assoc, List.dropWhile_append_of_pos front, dropWhile_of_head first visible,
    List.reverse_append, List.dropWhile_append_of_pos, last, List.reverse_reverse]
  intro b hb
  exact back b (List.mem_reverse.mp hb)

/-- White space behind a text goes first. -/
theorem strip_append_of_spaces (s : List α) {u : List α} (back : ∀ a ∈ u, A.isSpace a = true) :
    strip A (s ++ u) = strip A s := by
  by_cases blank : ∀ a ∈ s, A.isSpace a = true
  · have both : ∀ a ∈ s ++ u, A.isSpace a = true := fun a ha =>
      (List.mem_append.mp ha).elim (blank a) (back a)
    rw [strip, strip, List.dropWhile_eq_nil_iff.mpr both, List.dropWhile_eq_nil_iff.mpr blank]
  · have some_left : s.dropWhile A.isSpace ≠ [] := by
      rw [Ne, List.dropWhile_eq_nil_iff]
      exact blank
    have kept : (s ++ u).dropWhile A.isSpace = s.dropWhile A.isSpace ++ u := by
      rw [List.dropWhile_append, if_neg]
      rw [List.isEmpty_iff]
      exact some_left
    rw [strip, strip, kept, List.reverse_append, List.dropWhile_append_of_pos]
    intro b hb
    exact back b (List.mem_reverse.mp hb)

/-- A text is what stripping leaves, with white space behind it, once it begins with it. -/
theorem dropWhile_eq_strip_append (t : List α) :
    ∃ back, (∀ a ∈ back, A.isSpace a = true) ∧ t.dropWhile A.isSpace = strip A t ++ back := by
  refine ⟨((t.dropWhile A.isSpace).reverse.takeWhile A.isSpace).reverse, ?_, ?_⟩
  · intro a ha
    exact List.mem_takeWhile_imp (List.mem_reverse.mp ha)
  · rw [strip, ← List.reverse_append, List.takeWhile_append_dropWhile, List.reverse_reverse]

end Stripped

section Joined

variable {A}

/-- Texts with a blank line between each and the next. -/
def joined (A : Alphabet α) (texts : List (List α)) : List α := (blankLine A).intercalate texts

theorem length_blankLine : (blankLine A).length = 2 := rfl

theorem intercalate_append (sep : List α) {s t : List (List α)} (hs : s ≠ []) (ht : t ≠ []) :
    sep.intercalate (s ++ t) = sep.intercalate s ++ sep ++ sep.intercalate t := by
  induction s with
  | nil => exact absurd rfl hs
  | cons first s ih =>
    rw [List.cons_append]
    by_cases last : s = []
    · rw [last, List.nil_append, List.intercalate_cons_of_ne_nil ht, List.intercalate_singleton]
    · have more : s ++ t ≠ [] := by simp [last]
      rw [List.intercalate_cons_of_ne_nil more, List.intercalate_cons_of_ne_nil last, ih last]
      simp only [List.append_assoc]

theorem joined_append {s t : List (List α)} (hs : s ≠ []) (ht : t ≠ []) :
    joined A (s ++ t) = joined A s ++ blankLine A ++ joined A t :=
  intercalate_append (blankLine A) hs ht

theorem infix_joined {s t : List (List α)} (occurs : s <:+: t) : joined A s <:+: joined A t := by
  obtain ⟨before, after, rfl⟩ := occurs
  by_cases none : s = []
  · rw [none]
    exact List.nil_infix
  · have front : joined A s <:+: joined A (before ++ s) := by
      by_cases first : before = []
      · rw [first, List.nil_append]
      · rw [joined_append first none]
        exact (List.suffix_append _ _).isInfix
    refine front.trans ?_
    by_cases last : after = []
    · rw [last, List.append_nil]
    · have some : before ++ s ≠ [] := by simp [none]
      rw [joined_append some last, List.append_assoc]
      exact (List.prefix_append _ _).isInfix

end Joined

section Lines

variable {A}

/-- Lines with a newline between each and the next. -/
def unlines (A : Alphabet α) (lines : List (List α)) : List α := [A.newline].intercalate lines

@[simp] theorem unlines_nil : unlines A [] = [] := rfl

@[simp] theorem unlines_singleton (line : List α) : unlines A [line] = line :=
  List.intercalate_singleton

theorem unlines_cons (line : List α) {lines : List (List α)} (more : lines ≠ []) :
    unlines A (line :: lines) = line ++ A.newline :: unlines A lines := by
  rw [unlines, List.intercalate_cons_of_ne_nil more, List.append_assoc, List.singleton_append]
  rfl

theorem infix_unlines {line : List α} {lines : List (List α)} (h : line ∈ lines) :
    line <:+: unlines A lines := by
  induction lines with
  | nil => cases h
  | cons first lines ih =>
    by_cases more : lines = []
    · obtain rfl : line = first := by simpa [more] using h
      rw [more, unlines_singleton]
    · rw [unlines_cons first more]
      rcases List.mem_cons.mp h with rfl | later
      · exact (List.prefix_append _ _).isInfix
      · have behind : unlines A lines <:+ first ++ A.newline :: unlines A lines :=
          (List.suffix_cons _ _).trans (List.suffix_append _ _)
        exact (ih later).trans behind.isInfix

theorem eq_newline_or_mem {a : α} {lines : List (List α)} (h : a ∈ unlines A lines) :
    a = A.newline ∨ ∃ line ∈ lines, a ∈ line := by
  induction lines with
  | nil => cases h
  | cons first lines ih =>
    by_cases more : lines = []
    · rw [more, unlines_singleton] at h
      exact .inr ⟨first, List.mem_cons_self, h⟩
    · rw [unlines_cons first more] at h
      rcases List.mem_append.mp h with here | behind
      · exact .inr ⟨first, List.mem_cons_self, here⟩
      · rcases List.mem_cons.mp behind with newline | later
        · exact .inl newline
        · obtain newline | ⟨line, mem, inside⟩ := ih later
          · exact .inl newline
          · exact .inr ⟨line, List.mem_cons_of_mem first mem, inside⟩

/-- What holds between neighbours in each line, and beside a newline, holds in the text. -/
theorem isChain_unlines {R : α → α → Prop} {lines : List (List α)}
    (inside : ∀ line ∈ lines, line.IsChain R) (before : ∀ a, R a A.newline)
    (after : ∀ a, R A.newline a) : (unlines A lines).IsChain R := by
  induction lines with
  | nil => exact List.IsChain.nil
  | cons first lines ih =>
    obtain ⟨here, later⟩ := List.forall_mem_cons.mp inside
    by_cases more : lines = []
    · rw [more, unlines_singleton]
      exact here
    · rw [unlines_cons first more, List.isChain_append]
      refine ⟨here, List.isChain_cons.mpr ⟨fun a _ => after a, ih later⟩, ?_⟩
      intro a _ b hb
      obtain rfl : A.newline = b := by simpa using hb
      exact before a

theorem reverse_unlines (lines : List (List α)) :
    (unlines A lines).reverse = unlines A (lines.map List.reverse).reverse := by
  induction lines with
  | nil => rfl
  | cons first lines ih =>
    by_cases more : lines = []
    · rw [more, unlines_singleton, List.map_singleton, List.reverse_singleton, unlines_singleton]
    · have reversed : (lines.map List.reverse).reverse ≠ [] := by simp [more]
      rw [unlines_cons first more, List.reverse_append, List.reverse_cons, ih, List.map_cons,
        List.reverse_cons, unlines, unlines,
        intercalate_append [A.newline] reversed (List.cons_ne_nil _ _), List.intercalate_singleton]

/-- Among stripped lines, the white space that a text begins with is its first empty lines. -/
theorem dropWhile_unlines {lines : List (List α)}
    (stripped : ∀ line ∈ lines, line = [] ∨ Stripped A line) :
    (unlines A lines).dropWhile A.isSpace = unlines A (lines.dropWhile List.isEmpty) := by
  induction lines with
  | nil => rfl
  | cons first lines ih =>
    obtain ⟨here, later⟩ := List.forall_mem_cons.mp stripped
    rcases here with rfl | visible
    · rw [List.dropWhile_cons_of_pos List.isEmpty_nil, ← ih later]
      by_cases more : lines = []
      · rw [more, unlines_singleton, unlines_nil]
      · rw [unlines_cons _ more, List.nil_append, List.dropWhile_cons_of_pos A.newline_isSpace]
    · obtain ⟨a, ha, shown⟩ := visible.head
      have begins : (unlines A (first :: lines)).head? = some a := by
        by_cases more : lines = []
        · rw [more, unlines_singleton, ha]
        · rw [unlines_cons first more, List.head?_append, ha, Option.some_or]
      rw [List.dropWhile_cons_of_neg (by simpa using visible.ne_nil), dropWhile_of_head begins shown]

/-- A text of stripped lines is stripped by dropping its first and its last empty lines. -/
theorem strip_unlines {lines : List (List α)}
    (stripped : ∀ line ∈ lines, line = [] ∨ Stripped A line) :
    ∃ inner, inner <:+: lines ∧ strip A (unlines A lines) = unlines A inner := by
  set front := lines.dropWhile List.isEmpty
  have inFront : front <:+ lines := List.dropWhile_suffix _
  have reversed : ∀ line ∈ (front.map List.reverse).reverse, line = [] ∨ Stripped A line := by
    intro line mem
    obtain ⟨kept, hkept, rfl⟩ := List.mem_map.mp (List.mem_reverse.mp mem)
    rcases stripped kept (inFront.subset hkept) with rfl | visible
    · exact .inl rfl
    · exact .inr visible.reverse
  refine ⟨(front.reverse.dropWhile List.isEmpty).reverse, ?_, ?_⟩
  · have inBack : (front.reverse.dropWhile List.isEmpty).reverse <+: front := by
      rw [← List.reverse_suffix, List.reverse_reverse]
      exact List.dropWhile_suffix _
    exact inBack.isInfix.trans inFront.isInfix
  · have emptied : List.isEmpty ∘ List.reverse = (List.isEmpty : List α → Bool) :=
      funext fun line => List.isEmpty_reverse
    rw [strip, dropWhile_unlines stripped, reverse_unlines, dropWhile_unlines reversed,
      ← List.map_reverse, List.dropWhile_map, emptied, reverse_unlines, List.map_map,
      List.reverse_involutive.comp_self, List.map_id]

end Lines

section Relabel

/-- A map between characters that keeps what is white space. -/
structure Relabels (A : Alphabet α) (B : Alphabet β) (f : α → β) : Prop where
  isSpace : ∀ a, B.isSpace (f a) = A.isSpace a
  isNewline : ∀ a, B.isNewline (f a) = A.isNewline a
  newline : f A.newline = B.newline

variable {A} {B : Alphabet β} {f : α → β}

theorem Relabels.ink_map (h : Relabels A B f) (t : List α) : ink B (t.map f) = (ink A t).map f := by
  rw [ink, List.filter_map, ink]
  congr 1
  exact List.filter_congr (fun a _ => by simp [h.isSpace])

theorem Relabels.dropWhile_map (h : Relabels A B f) (t : List α) :
    (t.map f).dropWhile B.isSpace = (t.dropWhile A.isSpace).map f := by
  induction t with
  | nil => rfl
  | cons a t ih =>
    rw [List.map_cons, List.dropWhile_cons, List.dropWhile_cons, h.isSpace]
    split
    · exact ih
    · rfl

theorem Relabels.strip_map (h : Relabels A B f) (t : List α) : strip B (t.map f) = (strip A t).map f := by
  rw [strip, h.dropWhile_map, ← List.map_reverse, h.dropWhile_map, ← List.map_reverse, strip]

theorem Relabels.splitBlankLines_map (h : Relabels A B f) (t : List α) :
    splitBlankLines B (t.map f) = (splitBlankLines A t).map (List.map f) := by
  fun_induction splitBlankLines A t with
  | case1 => rfl
  | case2 a => rfl
  | case3 a b rest both ih =>
    rw [List.map_cons, List.map_cons, splitBlankLines, h.isNewline, h.isNewline, if_pos both, ih]
    rfl
  | case4 a b rest other ih =>
    rw [List.map_cons] at ih
    rw [List.map_cons, List.map_cons, splitBlankLines, h.isNewline, h.isNewline, if_neg other, ih]
    obtain ⟨head, tail, parts⟩ := List.exists_cons_of_ne_nil (splitBlankLines_ne_nil (b :: rest))
    rw [parts]
    rfl

end Relabel

end SthBoring.Lib.WhiteSpace
