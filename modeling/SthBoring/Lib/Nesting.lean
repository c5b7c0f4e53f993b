/- Module: SthBoring/Lib/Nesting
   source: general facts about brackets in a sequence that need not match
   digest: How many brackets stand open behind a sequence, read off its ends. -/

import Mathlib.Data.List.Infix

set_option autoImplicit false
set_option relaxedAutoImplicit false

namespace SthBoring.Lib.Nesting

/-- Which members of a sequence open a bracket, and which close one. -/
structure Brackets (α : Type) where
  opens : α → Bool
  closes : α → Bool
  apart : ∀ a, opens a = true → closes a = false

variable {α : Type} (B : Brackets α)

/-- One member more. What closes where nothing stands open closes nothing. -/
def Brackets.next (depth : ℕ) (a : α) : ℕ :=
  if B.opens a then depth + 1 else if B.closes a then depth - 1 else depth

def Brackets.depth (as : List α) : ℕ := as.foldl B.next 0

/-- More is opened than closed. -/
def Brackets.Outweighs (k : ℕ) (s : List α) : Prop := s.countP B.closes + k ≤ s.countP B.opens

/-- Some end of the sequence opens more than it closes. -/
def Brackets.unclosed (as : List α) : Bool :=
  as.tails.any (fun s => s.countP B.closes < s.countP B.opens)

/-- What leaves every depth as it was. -/
def Brackets.Level (as : List α) : Prop := ∀ d, as.foldl B.next d = d

section Depth

variable {B}

theorem depth_append (as bs : List α) : B.depth (as ++ bs) = bs.foldl B.next (B.depth as) :=
  List.foldl_append

theorem depth_concat (as : List α) (a : α) : B.depth (as ++ [a]) = B.next (B.depth as) a :=
  depth_append as [a]

theorem outweighs_concat {k : ℕ} {s : List α} {a : α} : B.Outweighs k (s ++ [a]) ↔
    s.countP B.closes + (if B.closes a then 1 else 0) + k ≤
      s.countP B.opens + if B.opens a then 1 else 0 := by
  rw [Brackets.Outweighs, List.countP_append, List.countP_append, List.countP_singleton,
    List.countP_singleton]

/-- An end of a longer sequence is empty, or an end of the shorter one with the last member. -/
theorem exists_outweighs_concat {k : ℕ} {as : List α} {a : α} :
    (∃ s, s <:+ as ++ [a] ∧ B.Outweighs k s) ↔
      k = 0 ∨ ∃ s, s <:+ as ∧ B.Outweighs k (s ++ [a]) := by
  constructor
  · rintro ⟨s, behind, more⟩
    rcases List.suffix_concat_iff.mp behind with rfl | ⟨t, rfl, inside⟩
    · simp only [Brackets.Outweighs, List.countP_nil] at more
      exact .inl (by omega)
    · exact .inr ⟨t, inside, more⟩
  · rintro (rfl | ⟨s, inside, more⟩)
    · exact ⟨[], List.nil_suffix, le_rfl⟩
    · exact ⟨s ++ [a], List.suffix_concat_iff.mpr (.inr ⟨s, rfl, inside⟩), more⟩

/-- So many brackets stand open as some end of the sequence opens more than it closes. -/
theorem le_depth_iff {k : ℕ} {as : List α} :
    k ≤ B.depth as ↔ ∃ s, s <:+ as ∧ B.Outweighs k s := by
  induction as using List.reverseRecOn generalizing k with
  | nil =>
    constructor
    · intro none
      exact ⟨[], List.nil_suffix, by simpa [Brackets.Outweighs, Brackets.depth] using none⟩
    · rintro ⟨s, behind, more⟩
      obtain rfl := List.suffix_nil.mp behind
      simpa [Brackets.Outweighs, Brackets.depth] using more
  | append_singleton as a ih =>
    rw [exists_outweighs_concat, depth_concat, Brackets.next]
    simp only [outweighs_concat]
    cases opening : B.opens a with
    | true =>
      have shut := B.apart a opening
      cases k with
      | zero => simp
      | succ k => simpa [shut, Brackets.Outweighs, ← Nat.add_assoc] using ih (k := k)
    | false =>
      cases closing : B.closes a with
      | true =>
        have deeper := ih (k := 1 + k)
        simp only [Brackets.Outweighs, ← Nat.add_assoc] at deeper
        simp only [Bool.false_eq_true, if_false, if_true, Nat.add_zero]
        rw [← deeper]
        omega
      | false =>
        have same := ih (k := k)
        simp only [Brackets.Outweighs] at same
        simp only [Bool.false_eq_true, if_false, Nat.add_zero]
        rw [← same]
        omega

theorem unclosed_iff {as : List α} : B.unclosed as = true ↔ 0 < B.depth as := by
  rw [Nat.lt_iff_add_one_le, Nat.zero_add, le_depth_iff, Brackets.unclosed, List.any_eq_true]
  simp only [List.mem_tails, Brackets.Outweighs, decide_eq_true_eq, Nat.add_one_le_iff]

end Depth

section Level

variable {B}

theorem level_nil : B.Level [] := fun _ => rfl

theorem Brackets.Level.append {as bs : List α} (first : B.Level as) (second : B.Level bs) :
    B.Level (as ++ bs) := by
  intro d
  rw [List.foldl_append, first, second]

theorem level_plain {a : α} (opening : B.opens a = false) (closing : B.closes a = false) :
    B.Level [a] := by
  intro d
  simp [Brackets.next, opening, closing]

/-- A bracket around what is level. -/
theorem Brackets.Level.enclosed {a b : α} {inner : List α} (level : B.Level inner)
    (opening : B.opens a = true) (closing : B.closes b = true) : B.Level (a :: inner ++ [b]) := by
  have shut : B.opens b = false := by
    cases both : B.opens b with
    | false => rfl
    | true => exact absurd closing (by simp [B.apart b both])
  intro d
  rw [List.cons_append, List.foldl_cons, List.foldl_append, level]
  simp [Brackets.next, opening, closing, shut]

theorem Brackets.Level.depth_append {as bs : List α} (level : B.Level bs) :
    B.depth (as ++ bs) = B.depth as := by
  rw [Nesting.depth_append, level]

end Level

end SthBoring.Lib.Nesting
