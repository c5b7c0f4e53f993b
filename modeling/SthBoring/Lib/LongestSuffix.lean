/- Module: SthBoring/Lib/LongestSuffix
   source: none
   digest: The longest suffix of a list that a lookup knows. -/

import Mathlib.Data.List.Basic
import Mathlib.Data.List.Infix

set_option autoImplicit false
set_option relaxedAutoImplicit false

namespace SthBoring.Lib.LongestSuffix

variable {α β : Type} {least : ℕ} {l suffix other : List α} {f : List α → Option β} {b : β}

/-- The suffixes of a list that leave something out and keep at least so much, longest first. -/
def properSuffixes (least : ℕ) (l : List α) : List (List α) :=
  (List.range (l.length + 1 - least)).tail.map l.drop

structure ProperSuffix (least : ℕ) (l suffix : List α) : Prop where
  isSuffix : suffix <:+ l
  proper : suffix.length < l.length
  least_le : least ≤ suffix.length

/-- The value that the lookup has for the longest suffix that it knows. -/
inductive LongestMatch (least : ℕ) (f : List α → Option β) (l : List α) (b : β) : Prop
  | intro (suffix : List α) (properSuffix : ProperSuffix least l suffix) (found : f suffix = some b)
    (longest : ∀ other, ProperSuffix least l other → suffix.length < other.length →
      f other = none) : LongestMatch least f l b

theorem mem_properSuffixes_iff (positive : 0 < least) :
    suffix ∈ properSuffixes least l ↔ ProperSuffix least l suffix := by
  rw [properSuffixes, List.mem_map]
  constructor
  · rintro ⟨n, mem, rfl⟩
    rw [List.range_eq_range', List.tail_range', List.mem_range'_1] at mem
    refine ⟨List.drop_suffix n l, ?_, ?_⟩
    · rw [List.length_drop]
      omega
    · rw [List.length_drop]
      omega
  · rintro ⟨⟨front, rfl⟩, proper, least_le⟩
    rw [List.length_append] at proper
    refine ⟨front.length, ?_, List.drop_left⟩
    rw [List.range_eq_range', List.tail_range', List.mem_range'_1, List.length_append]
    omega

theorem pairwise_properSuffixes (positive : 0 < least) :
    (properSuffixes least l).Pairwise fun s t => t.length < s.length := by
  rw [properSuffixes, List.pairwise_map, List.range_eq_range', List.tail_range']
  refine List.Pairwise.imp_of_mem ?_ (List.pairwise_lt_range' _)
  intro m n mem mem' lt
  rw [List.mem_range'_1] at mem mem'
  rw [List.length_drop, List.length_drop]
  omega

/-- The first suffix that is known is the longest that is. -/
theorem longestMatch_of_findSome? (positive : 0 < least)
    (found : (properSuffixes least l).findSome? f = some b) : LongestMatch least f l b := by
  obtain ⟨before, suffix, after, split, known, unknown⟩ := List.findSome?_eq_some_iff.mp found
  have mem : suffix ∈ properSuffixes least l := by
    rw [split]
    exact List.mem_append_right before List.mem_cons_self
  refine .intro suffix ((mem_properSuffixes_iff positive).mp mem) known ?_
  intro other properSuffix longer
  have inside := (mem_properSuffixes_iff positive).mpr properSuffix
  have decreasing := pairwise_properSuffixes (l := l) positive
  rw [split] at inside decreasing
  obtain ⟨-, below, -⟩ := List.pairwise_append.mp decreasing
  rcases List.mem_append.mp inside with earlier | later
  · exact unknown other earlier
  · rcases List.mem_cons.mp later with rfl | later
    · exact absurd longer (lt_irrefl _)
    · have shorter := (List.pairwise_cons.mp (List.pairwise_append.mp decreasing).2.1).1 other later
      omega

theorem unknown_of_findSome? (positive : 0 < least)
    (missing : (properSuffixes least l).findSome? f = none)
    (properSuffix : ProperSuffix least l suffix) : f suffix = none :=
  List.findSome?_eq_none_iff.mp missing suffix ((mem_properSuffixes_iff positive).mpr properSuffix)

end SthBoring.Lib.LongestSuffix
