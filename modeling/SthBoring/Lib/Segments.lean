/- Module: SthBoring/Lib/Segments
   source: none; a vocabulary for texts joined by a separator
   digest: The segments of a text between its separators. -/

import Mathlib.Data.List.Basic

set_option autoImplicit false
set_option relaxedAutoImplicit false

namespace SthBoring.Lib.Segments

/-- The segments of a text: one more than it has separators. -/
def segments (sep : Char) (s : String) : List (List Char) := s.toList.splitOn sep

/-- The text of these segments. -/
def ofSegments (sep : Char) (parts : List (List Char)) : String :=
  String.ofList ([sep].intercalate parts)

variable {sep : Char}

theorem segments_ne_nil (s : String) : segments sep s ≠ [] := List.splitOn_ne_nil sep s.toList

theorem segments_injective {s t : String} (h : segments sep s = segments sep t) : s = t := by
  have joined := congrArg [sep].intercalate h
  rw [segments, segments, List.intercalate_splitOn, List.intercalate_splitOn] at joined
  exact String.toList_inj.mp joined

theorem segments_join {s t r : String} (h : s.toList = t.toList ++ sep :: r.toList) :
    segments sep s = segments sep t ++ segments sep r := by
  rw [segments, h]
  exact List.splitOn_append_cons_self t.toList r.toList

/-- A segment has no separator, and nothing that the text does not have. -/
theorem plain_of_mem_splitOn {cs part : List Char} (h : part ∈ cs.splitOn sep) :
    sep ∉ part ∧ part ⊆ cs := by
  induction cs generalizing part with
  | nil =>
    obtain rfl : part = [] := by simpa using h
    exact ⟨List.not_mem_nil, List.nil_subset _⟩
  | cons c cs ih =>
    rw [List.splitOn_cons_eq_if_modifyHead] at h
    split_ifs at h with same
    · rcases List.mem_cons.mp h with rfl | later
      · exact ⟨List.not_mem_nil, List.nil_subset _⟩
      · obtain ⟨absent, inside⟩ := ih later
        exact ⟨absent, List.subset_cons_of_subset c inside⟩
    · obtain ⟨first, rest, split⟩ := List.exists_cons_of_ne_nil (List.splitOn_ne_nil sep cs)
      rw [split] at h ih
      rcases List.mem_cons.mp h with rfl | later
      · obtain ⟨absent, inside⟩ := ih List.mem_cons_self
        refine ⟨?_, List.cons_subset_cons c inside⟩
        intro mem
        rcases List.mem_cons.mp mem with here | there
        · exact same (beq_iff_eq.mpr here.symm)
        · exact absent there
      · obtain ⟨absent, inside⟩ := ih (List.mem_cons_of_mem _ later)
        exact ⟨absent, List.subset_cons_of_subset c inside⟩

theorem notMem_of_mem_segments {s : String} {part : List Char} (h : part ∈ segments sep s) :
    sep ∉ part :=
  (plain_of_mem_splitOn h).1

theorem segments_ofSegments {parts : List (List Char)} (nonempty : parts ≠ [])
    (plain : ∀ part ∈ parts, sep ∉ part) : segments sep (ofSegments sep parts) = parts := by
  rw [segments, ofSegments, String.toList_ofList]
  exact List.splitOn_intercalate sep plain nonempty

/-- A text without separators is one segment. -/
theorem segments_of_notMem {s : String} (h : sep ∉ s.toList) : segments sep s = [s.toList] :=
  List.splitOn_eq_singleton h

theorem two_segments_of_mem {s : String} (h : sep ∈ s.toList) :
    ∃ first second rest, segments sep s = first :: second :: rest := by
  rcases split : segments sep s with _ | ⟨first, _ | ⟨second, rest⟩⟩
  · exact absurd split (segments_ne_nil s)
  · have joined := congrArg [sep].intercalate split
    rw [segments, List.intercalate_splitOn] at joined
    have plain : sep ∉ first := by
      apply notMem_of_mem_segments (s := s)
      rw [split]
      exact List.mem_cons_self
    rw [joined] at h
    exact absurd (by simpa using h) plain
  · exact ⟨first, second, rest, rfl⟩

end SthBoring.Lib.Segments
