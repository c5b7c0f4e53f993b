/- Module: SthBoring/WebKit/CleanText
   source: webkit/pipeline/clean.py
   digest: What a cleaned text looks like, and that cleaning it again changes nothing. -/

import SthBoring.Lib.Segments
import SthBoring.WebKit.Clean

set_option autoImplicit false
set_option relaxedAutoImplicit false

namespace SthBoring.WebKit.CleanText

open SthBoring.Lib.PyValue (isSpace)
open SthBoring.Lib.Segments (plain_of_mem_splitOn)
open SthBoring.Lib.WhiteSpace
open SthBoring.WebKit.Clean

section Texts

/-- Not two spaces. -/
def Apart (a b : Char) : Prop := ¬(a = ' ' ∧ b = ' ')

/-- A text as it should be: lines end in one way, and no white space is where none is needed. -/
structure Tidy (text : List Char) : Prop where
  noReturn : '\r' ∉ text
  noTab : '\t' ∉ text
  spaced : text.IsChain Apart
  stripped : ∀ line ∈ text.splitOn '\n', strip chars line = line
  spread : (text.splitOn '\n').IsChain fun a b => ¬(strip chars a = [] ∧ strip chars b = [])
  trimmed : strip chars text = text

/-- Lines of a tidy text, apart from the empty ones at its ends. -/
structure TidyLines (lines : List (List Char)) : Prop where
  plain : ∀ line ∈ lines, ∀ c ∈ line, c ≠ '\r' ∧ c ≠ '\t' ∧ c ≠ '\n'
  spaced : ∀ line ∈ lines, line.IsChain Apart
  stripped : ∀ line ∈ lines, line = [] ∨ Stripped chars line
  spread : lines.IsChain fun a b => ¬(a = [] ∧ b = [])

theorem TidyLines.within {inner lines : List (List Char)} (tidy : TidyLines lines)
    (inside : inner <:+: lines) : TidyLines inner where
  plain := fun line mem => tidy.plain line (inside.subset mem)
  spaced := fun line mem => tidy.spaced line (inside.subset mem)
  stripped := fun line mem => tidy.stripped line (inside.subset mem)
  spread := List.IsChain.infix tidy.spread inside

theorem TidyLines.plain_newline {lines : List (List Char)} (tidy : TidyLines lines) :
    ∀ line ∈ lines, '\n' ∉ line := by
  intro line mem newline
  obtain ⟨-, -, other⟩ := tidy.plain line mem _ newline
  exact other rfl

end Texts

section Passes

theorem noReturn_normalizeNewlines (text : List Char) : '\r' ∉ normalizeNewlines text := by
  fun_induction normalizeNewlines text with
  | case1 => exact List.not_mem_nil
  | case2 cs ih => exact List.not_mem_cons_of_ne_of_not_mem (by decide) ih
  | case3 c cs _ ih =>
    refine List.not_mem_cons_of_ne_of_not_mem ?_ ih
    split
    · decide
    · rename_i other
      exact Ne.symm other

theorem normalizeNewlines_of_noReturn {text : List Char} (h : '\r' ∉ text) :
    normalizeNewlines text = text := by
  fun_induction normalizeNewlines text with
  | case1 => rfl
  | case2 cs ih => exact absurd List.mem_cons_self h
  | case3 c cs _ ih =>
    obtain ⟨here, later⟩ := List.ne_and_not_mem_of_not_mem_cons h
    rw [if_neg (Ne.symm here), ih later]

theorem mem_collapseSpaces {inRun : Bool} {text : List Char} {c : Char}
    (h : c ∈ collapseSpaces inRun text) : c = ' ' ∨ c ∈ text ∧ c ≠ '\t' := by
  fun_induction collapseSpaces inRun text with
  | case1 => cases h
  | case2 a cs _ ih =>
    rcases ih h with space | ⟨mem, other⟩
    · exact .inl space
    · exact .inr ⟨List.mem_cons_of_mem a mem, other⟩
  | case3 inRun a cs _ _ ih =>
    rcases List.mem_cons.mp h with space | later
    · exact .inl space
    · rcases ih later with space | ⟨mem, other⟩
      · exact .inl space
      · exact .inr ⟨List.mem_cons_of_mem a mem, other⟩
  | case4 inRun a cs visible ih =>
    rcases List.mem_cons.mp h with rfl | later
    · exact .inr ⟨List.mem_cons_self, fun tab => visible (.inr tab)⟩
    · rcases ih later with space | ⟨mem, other⟩
      · exact .inl space
      · exact .inr ⟨List.mem_cons_of_mem a mem, other⟩

/-- Within a run of spaces, the one that stands for them has been written already. -/
theorem spaced_collapseSpaces (inRun : Bool) (text : List Char) :
    (collapseSpaces inRun text).IsChain Apart ∧
      (inRun = true → (collapseSpaces inRun text).head? ≠ some ' ') := by
  fun_induction collapseSpaces inRun text with
  | case1 => exact ⟨List.IsChain.nil, fun _ => nofun⟩
  | case2 a cs _ ih => exact ih
  | case3 inRun a cs _ outside ih =>
    obtain ⟨chain, next⟩ := ih
    refine ⟨List.isChain_cons.mpr ⟨?_, chain⟩, fun inside => absurd inside outside⟩
    rintro b hb ⟨-, rfl⟩
    exact next rfl hb
  | case4 inRun a cs visible ih =>
    refine ⟨List.isChain_cons.mpr ⟨?_, ih.1⟩, ?_⟩
    · rintro b - ⟨rfl, -⟩
      exact visible (.inl rfl)
    · intro _ first
      exact visible (.inl (Option.some.inj first))

theorem collapseSpaces_of_spaced {inRun : Bool} {text : List Char} (noTab : '\t' ∉ text)
    (spaced : text.IsChain Apart) (first : inRun = true → text.head? ≠ some ' ') :
    collapseSpaces inRun text = text := by
  fun_induction collapseSpaces inRun text with
  | case1 => rfl
  | case2 a cs space ih =>
    obtain ⟨here, -⟩ := List.ne_and_not_mem_of_not_mem_cons noTab
    rcases space with rfl | rfl
    · exact absurd rfl (first rfl)
    · exact absurd rfl here
  | case3 inRun a cs space _ ih =>
    obtain ⟨here, later⟩ := List.ne_and_not_mem_of_not_mem_cons noTab
    obtain rfl : a = ' ' := space.resolve_right (Ne.symm here)
    obtain ⟨beside, chain⟩ := List.isChain_cons.mp spaced
    rw [ih later chain (fun _ next => beside ' ' next ⟨rfl, rfl⟩)]
  | case4 inRun a cs _ ih =>
    rw [ih (List.ne_and_not_mem_of_not_mem_cons noTab).2 (List.isChain_cons.mp spaced).2 nofun]

theorem dropBlankStreaks_sublist (blank : Bool) (lines : List (List Char)) :
    (dropBlankStreaks blank lines).Sublist lines := by
  fun_induction dropBlankStreaks blank lines with
  | case1 => exact List.Sublist.refl _
  | case2 lines ih => exact ih.cons _
  | case3 blank lines _ ih => exact ih.cons_cons _
  | case4 blank line lines _ ih => exact ih.cons_cons _

/-- Behind an empty line, the next one kept is not empty. -/
theorem spread_dropBlankStreaks (blank : Bool) (lines : List (List Char)) :
    (dropBlankStreaks blank lines).IsChain (fun a b => ¬(a = [] ∧ b = [])) ∧
      (blank = true → (dropBlankStreaks blank lines).head? ≠ some []) := by
  fun_induction dropBlankStreaks blank lines with
  | case1 => exact ⟨List.IsChain.nil, fun _ => nofun⟩
  | case2 lines ih => exact ih
  | case3 blank lines outside ih =>
    obtain ⟨chain, next⟩ := ih
    refine ⟨List.isChain_cons.mpr ⟨?_, chain⟩, fun inside => absurd inside outside⟩
    rintro b hb ⟨-, rfl⟩
    exact next rfl hb
  | case4 blank line lines visible ih =>
    refine ⟨List.isChain_cons.mpr ⟨?_, ih.1⟩, ?_⟩
    · rintro b - ⟨rfl, -⟩
      exact visible rfl
    · intro _ first
      exact visible (Option.some.inj first)

theorem dropBlankStreaks_of_spread {blank : Bool} {lines : List (List Char)}
    (spread : lines.IsChain fun a b => ¬(a = [] ∧ b = []))
    (first : blank = true → lines.head? ≠ some []) : dropBlankStreaks blank lines = lines := by
  fun_induction dropBlankStreaks blank lines with
  | case1 => rfl
  | case2 lines ih => exact absurd rfl (first rfl)
  | case3 blank lines _ ih =>
    obtain ⟨beside, chain⟩ := List.isChain_cons.mp spread
    rw [ih chain (fun _ next => beside [] next ⟨rfl, rfl⟩)]
  | case4 blank line lines _ ih => rw [ih (List.isChain_cons.mp spread).2 nofun]

end Passes

section Newlines

/-- A line resets the count of the newlines in a row. -/
theorem collapseNewlines_append {line : List Char} (plain : '\n' ∉ line) (visible : line ≠ [])
    (run : ℕ) (rest : List Char) :
    collapseNewlines run (line ++ rest) = line ++ collapseNewlines 0 rest := by
  induction line generalizing run with
  | nil => exact absurd rfl visible
  | cons c line ih =>
    obtain ⟨here, later⟩ := List.ne_and_not_mem_of_not_mem_cons plain
    rw [List.cons_append, collapseNewlines, if_neg (Ne.symm here), List.cons_append]
    by_cases last : line = []
    · rw [last, List.nil_append, List.nil_append]
    · rw [ih later last]

/-- With at most one newline before an empty line, there are never three in a row. -/
theorem collapseNewlines_unlines {lines : List (List Char)} {run : ℕ}
    (plain : ∀ line ∈ lines, '\n' ∉ line) (spread : lines.IsChain fun a b => ¬(a = [] ∧ b = []))
    (before : run ≤ 1 ∨ lines.head? ≠ some []) :
    collapseNewlines run (unlines chars lines) = unlines chars lines := by
  induction lines generalizing run with
  | nil => rfl
  | cons first lines ih =>
    obtain ⟨here, later⟩ := List.forall_mem_cons.mp plain
    obtain ⟨beside, chain⟩ := List.isChain_cons.mp spread
    by_cases more : lines = []
    · rw [more, unlines_singleton]
      by_cases empty : first = []
      · rw [empty, collapseNewlines]
      · have alone := collapseNewlines_append here empty run []
        rwa [List.append_nil, collapseNewlines, List.append_nil] at alone
    · rw [unlines_cons first more]
      change collapseNewlines run (first ++ '\n' :: unlines chars lines) = _
      by_cases empty : first = []
      · have few : run ≤ 1 := before.resolve_right (fun other => other (by rw [empty]; rfl))
        have next : lines.head? ≠ some [] := fun same => beside [] same ⟨empty, rfl⟩
        rw [empty, List.nil_append, collapseNewlines, if_pos rfl, if_pos (by omega),
          ih later chain (.inr next)]
        rfl
      · rw [collapseNewlines_append here empty, collapseNewlines, if_pos rfl, if_pos (by omega),
          ih later chain (.inl le_rfl)]
        rfl

end Newlines

section Cleaned

/-- The lines that a text keeps. -/
def kept (text : List Char) : List (List Char) :=
  dropBlankStreaks false
    (((collapseSpaces false (normalizeNewlines text)).splitOn '\n').map (strip chars))

theorem cleanText_eq (text : List Char) :
    cleanText text = collapseNewlines 0 (strip chars (unlines chars (kept text))) := rfl

theorem unlines_splitOn (text : List Char) : unlines chars (text.splitOn '\n') = text :=
  List.intercalate_splitOn '\n'

theorem infix_of_mem_splitOn {text line : List Char} (mem : line ∈ text.splitOn '\n') :
    line <:+: text := by
  have occurs : line <:+: unlines chars (text.splitOn '\n') := infix_unlines mem
  rwa [unlines_splitOn] at occurs

theorem tidyLines_kept (text : List Char) : TidyLines (kept text) := by
  set spaced := collapseSpaces false (normalizeNewlines text) with hspaced
  have source : ∀ line ∈ kept text, ∃ raw ∈ spaced.splitOn '\n', strip chars raw = line := by
    intro line mem
    exact List.mem_map.mp ((dropBlankStreaks_sublist _ _).subset mem)
  refine ⟨?_, ?_, ?_, (spread_dropBlankStreaks _ _).1⟩
  · rintro line mem c hc
    obtain ⟨raw, hraw, rfl⟩ := source line mem
    have inRaw : c ∈ raw := (strip_inside raw).subset hc
    obtain ⟨noNewline, inside⟩ := plain_of_mem_splitOn hraw
    refine ⟨?_, ?_, ?_⟩
    · rintro rfl
      rcases mem_collapseSpaces (inside inRaw) with space | ⟨mem, -⟩
      · exact absurd space (by decide)
      · exact noReturn_normalizeNewlines text mem
    · rintro rfl
      rcases mem_collapseSpaces (inside inRaw) with space | ⟨-, other⟩
      · exact absurd space (by decide)
      · exact other rfl
    · rintro rfl
      exact noNewline inRaw
  · intro line mem
    obtain ⟨raw, hraw, rfl⟩ := source line mem
    have inside : strip chars raw <:+: spaced :=
      (strip_inside raw).trans (infix_of_mem_splitOn hraw)
    exact List.IsChain.infix (spaced_collapseSpaces _ _).1 inside
  · intro line mem
    obtain ⟨raw, -, rfl⟩ := source line mem
    exact strip_eq_nil_or_stripped raw

/-- A cleaned text is a text of tidy lines. -/
theorem cleanText_lines (text : List Char) :
    ∃ lines, TidyLines lines ∧ lines ≠ [] ∧ cleanText text = unlines chars lines ∧
      strip chars (unlines chars lines) = unlines chars lines := by
  have tidy := tidyLines_kept text
  obtain ⟨inner, inside, stripped⟩ := strip_unlines tidy.stripped
  have again : strip chars (unlines chars inner) = unlines chars inner := by
    rw [← stripped]
    rcases strip_eq_nil_or_stripped (A := chars) (unlines chars (kept text)) with none | visible
    · rw [none]
      rfl
    · exact visible.strip_eq
  have tidyInner := tidy.within inside
  have folded : cleanText text = unlines chars inner := by
    rw [cleanText_eq, stripped]
    exact collapseNewlines_unlines tidyInner.plain_newline tidyInner.spread (.inl (Nat.zero_le 1))
  by_cases none : inner = []
  · rw [none] at folded
    refine ⟨[[]], ⟨?_, ?_, ?_, List.IsChain.singleton _⟩, List.cons_ne_nil _ _, folded, rfl⟩
    · simp
    · simp
    · simp
  · exact ⟨inner, tidyInner, none, folded, again⟩

theorem TidyLines.splitOn {lines : List (List Char)} (tidy : TidyLines lines) (some : lines ≠ []) :
    (unlines chars lines).splitOn '\n' = lines :=
  List.splitOn_intercalate '\n' tidy.plain_newline some

theorem TidyLines.strip_eq {lines : List (List Char)} (tidy : TidyLines lines) {line : List Char}
    (mem : line ∈ lines) : strip chars line = line := by
  rcases tidy.stripped line mem with rfl | visible
  · rfl
  · exact visible.strip_eq

theorem TidyLines.isChain {lines : List (List Char)} (tidy : TidyLines lines) :
    (unlines chars lines).IsChain Apart := by
  refine isChain_unlines tidy.spaced ?_ ?_
  · rintro a ⟨-, newline⟩
    exact absurd newline (by decide)
  · rintro a ⟨newline, -⟩
    exact absurd newline (by decide)

theorem TidyLines.tidy {lines : List (List Char)} (tidy : TidyLines lines) (some : lines ≠ [])
    (trimmed : strip chars (unlines chars lines) = unlines chars lines) :
    Tidy (unlines chars lines) where
  noReturn := by
    intro mem
    obtain newline | ⟨line, hline, inside⟩ := eq_newline_or_mem mem
    · exact absurd newline (by decide)
    · exact (tidy.plain line hline _ inside).1 rfl
  noTab := by
    intro mem
    obtain newline | ⟨line, hline, inside⟩ := eq_newline_or_mem mem
    · exact absurd newline (by decide)
    · exact (tidy.plain line hline _ inside).2.1 rfl
  spaced := tidy.isChain
  stripped := by
    rw [tidy.splitOn some]
    intro line mem
    exact tidy.strip_eq mem
  spread := by
    rw [tidy.splitOn some]
    refine tidy.spread.imp_of_mem_imp ?_
    intro a b ha hb apart
    rw [tidy.strip_eq ha, tidy.strip_eq hb]
    exact apart
  trimmed := trimmed

theorem Tidy.lines {text : List Char} (tidy : Tidy text) : TidyLines (text.splitOn '\n') where
  plain := by
    intro line mem c hc
    obtain ⟨noNewline, inside⟩ := plain_of_mem_splitOn mem
    refine ⟨?_, ?_, ?_⟩
    · rintro rfl
      exact tidy.noReturn (inside hc)
    · rintro rfl
      exact tidy.noTab (inside hc)
    · rintro rfl
      exact noNewline hc
  spaced := fun line mem => List.IsChain.infix tidy.spaced (infix_of_mem_splitOn mem)
  stripped := by
    intro line mem
    rw [← tidy.stripped line mem]
    exact strip_eq_nil_or_stripped line
  spread := by
    refine tidy.spread.imp_of_mem_imp ?_
    rintro a b - - apart ⟨rfl, rfl⟩
    exact apart ⟨rfl, rfl⟩

/-- On a tidy text no pass of the cleaner changes anything. -/
theorem cleanText_of_tidy {text : List Char} (tidy : Tidy text) : cleanText text = text := by
  have lines := tidy.lines
  have unstripped : (text.splitOn '\n').map (strip chars) = text.splitOn '\n' := by
    conv_rhs => rw [← List.map_id (text.splitOn '\n')]
    exact List.map_congr_left tidy.stripped
  have spaced : collapseSpaces false text = text :=
    collapseSpaces_of_spaced tidy.noTab tidy.spaced (fun inRun => absurd inRun Bool.false_ne_true)
  have spread : dropBlankStreaks false (text.splitOn '\n') = text.splitOn '\n' :=
    dropBlankStreaks_of_spread lines.spread (fun blank => absurd blank Bool.false_ne_true)
  have whole : kept text = text.splitOn '\n' := by
    rw [kept, normalizeNewlines_of_noReturn tidy.noReturn, spaced, unstripped, spread]
  have folded := collapseNewlines_unlines (lines.plain_newline) lines.spread (.inl (Nat.zero_le 1))
  rw [cleanText_eq, whole, unlines_splitOn, tidy.trimmed]
  rwa [unlines_splitOn] at folded

theorem tidy_cleanText (text : List Char) : Tidy (cleanText text) := by
  obtain ⟨lines, tidy, some, whole, trimmed⟩ := cleanText_lines text
  rw [whole]
  exact tidy.tidy some trimmed

/-- The tidy texts are those that cleaning keeps. -/
theorem cleanText_eq_self_iff {text : List Char} : cleanText text = text ↔ Tidy text := by
  constructor
  · intro same
    rw [← same]
    exact tidy_cleanText text
  · exact cleanText_of_tidy

/-- Cleaning a text makes it tidy, and cleaning it twice is cleaning it once. -/
theorem cleanText_idempotent (text : List Char) :
    cleanText (cleanText text) = cleanText text ∧ Tidy (cleanText text) :=
  ⟨cleanText_of_tidy (tidy_cleanText text), tidy_cleanText text⟩

end Cleaned

end SthBoring.WebKit.CleanText
