/- Module: SthBoring/Lib/BestFirst
   source: sorted(xs, key=key, reverse=True) of the standard library, over any keys
   digest: The best items of a list, the best first, and among equal ones the earliest. -/

import Mathlib.Data.List.Sort

set_option autoImplicit false
set_option relaxedAutoImplicit false

namespace SthBoring.Lib.BestFirst

universe u v w

variable {α : Type u} {β : Type v} {κ : Type w} [LinearOrder κ]

/-- `sorted(xs, key=key, reverse=True)`: items with equal keys stay in their order. -/
def bestFirst (key : α → κ) (xs : List α) : List α := xs.insertionSort fun a b => key b ≤ key a

/-- Of two numbered items, the one with the greater key, or the earlier one of two equals. -/
def Better (key : α → κ) (a b : α × ℕ) : Prop :=
  key b.1 < key a.1 ∨ key b.1 = key a.1 ∧ a.2 < b.2

/-- These are the best so many of the numbered items, in the order of preference. -/
structure Best (key : α → κ) (n : ℕ) (items picked : List (α × ℕ)) : Prop where
  ordered : picked.Pairwise (Better key)
  among : picked ⊆ items
  length : picked.length = min n items.length
  left : ∀ a ∈ picked, ∀ b ∈ items, b ∉ picked → Better key a b

variable {key : α → κ}

section Preference

theorem Better.irrefl (a : α × ℕ) : ¬Better key a a := by
  rintro (less | ⟨-, less⟩)
  · exact lt_irrefl _ less
  · exact lt_irrefl _ less

/-- Nothing is picked twice. -/
theorem Best.nodup {n : ℕ} {items picked : List (α × ℕ)} (best : Best key n items picked) :
    picked.Nodup := by
  refine best.ordered.imp ?_
  rintro a b better rfl
  exact Better.irrefl a better

/-- A later item that is no better than one is worse than it. -/
theorem better_of_le {a b : α × ℕ} (le : key b.1 ≤ key a.1) (earlier : a.2 < b.2) :
    Better key a b := by
  rcases lt_or_eq_of_le le with less | same
  · exact .inl less
  · exact .inr ⟨same, earlier⟩

theorem Better.le {a b : α × ℕ} (better : Better key a b) : key b.1 ≤ key a.1 := by
  rcases better with less | ⟨same, -⟩
  · exact less.le
  · exact same.le

end Preference

section Sorting

variable (key)

theorem perm_bestFirst (xs : List α) : (bestFirst key xs).Perm xs := List.perm_insertionSort _ xs

variable {key}

/-- An item that comes before all others finds its place among them. -/
theorem pairwise_orderedInsert {a : α × ℕ} {sorted : List (α × ℕ)}
    (ordered : sorted.Pairwise (Better key)) (first : ∀ b ∈ sorted, a.2 < b.2) :
    (sorted.orderedInsert (fun a b => key b.1 ≤ key a.1) a).Pairwise (Better key) := by
  induction sorted with
  | nil => exact List.pairwise_singleton _ _
  | cons b sorted ih =>
    obtain ⟨above, rest⟩ := List.pairwise_cons.mp ordered
    obtain ⟨earlier, later⟩ := List.forall_mem_cons.mp first
    by_cases le : key b.1 ≤ key a.1
    · rw [List.orderedInsert_cons_of_le _ sorted le]
      refine List.pairwise_cons.mpr ⟨?_, ordered⟩
      intro c hc
      rcases List.mem_cons.mp hc with rfl | behind
      · exact better_of_le le earlier
      · exact better_of_le ((above c behind).le.trans le) (later c behind)
    · rw [List.orderedInsert_of_not_le _ sorted le]
      refine List.pairwise_cons.mpr ⟨?_, ih rest later⟩
      intro c hc
      rcases (List.mem_orderedInsert _).mp hc with rfl | behind
      · exact .inl (not_le.mp le)
      · exact above c behind

variable (key)

/-- Numbered items are put in the order of preference. -/
theorem pairwise_bestFirst {items : List (α × ℕ)} (numbered : items.Pairwise fun a b => a.2 < b.2) :
    (bestFirst (fun a => key a.1) items).Pairwise (Better key) := by
  induction items with
  | nil => exact List.Pairwise.nil
  | cons a items ih =>
    obtain ⟨first, rest⟩ := List.pairwise_cons.mp numbered
    refine pairwise_orderedInsert (ih rest) ?_
    intro b hb
    exact first b ((List.mem_insertionSort _).mp hb)

/-- The first ones in the order of preference are the best. -/
theorem best_take {items : List (α × ℕ)} (numbered : items.Pairwise fun a b => a.2 < b.2) (n : ℕ) :
    Best key n items ((bestFirst (fun a => key a.1) items).take n) := by
  set sorted := bestFirst (fun a => key a.1) items
  have ordered : sorted.Pairwise (Better key) := pairwise_bestFirst key numbered
  have perm : sorted.Perm items := perm_bestFirst _ items
  constructor
  · exact ordered.sublist (List.take_sublist n sorted)
  · intro a ha
    exact perm.subset (List.mem_of_mem_take ha)
  · rw [List.length_take, perm.length_eq]
  · intro a ha b hb other
    rw [← List.take_append_drop n sorted, List.pairwise_append] at ordered
    have inside : b ∈ sorted.take n ++ sorted.drop n := by
      rw [List.take_append_drop]
      exact perm.symm.subset hb
    exact ordered.2.2 a ha b ((List.mem_append.mp inside).resolve_left other)

/-- Sorting what items are shown as is showing the sorted items. -/
theorem bestFirst_map (shown : β → α) (items : List β) :
    bestFirst key (items.map shown) = (bestFirst (fun a => key (shown a)) items).map shown :=
  (List.map_insertionSort _ _ shown items fun _ _ _ _ => Iff.rfl).symm

theorem numbered_zipIdx (xs : List α) (n : ℕ) :
    (xs.zipIdx n).Pairwise fun a b => a.2 < b.2 := by
  induction xs generalizing n with
  | nil => exact List.Pairwise.nil
  | cons x xs ih =>
    rw [List.zipIdx_cons]
    refine List.pairwise_cons.mpr ⟨?_, ih (n + 1)⟩
    intro b hb
    exact List.le_snd_of_mem_zipIdx hb

end Sorting

end SthBoring.Lib.BestFirst
