/- Module: SthBoring/Lib/History
   source: none; a vocabulary for histories that are read backwards
   digest: Something happened, and nothing has undone it since. -/

import Mathlib.Data.List.Basic
import Mathlib.Data.List.Induction

set_option autoImplicit false
set_option relaxedAutoImplicit false

namespace SthBoring.Lib.History

universe u

variable {α : Type u} {p q : α → Prop} {l : List α} {x : α}

/-- Some event has `p`, and none behind it has `q`. -/
def Since (p q : α → Prop) (l : List α) : Prop :=
  ∃ before x after, l = before ++ x :: after ∧ p x ∧ ∀ y ∈ after, ¬ q y

@[simp] theorem since_nil : ¬ Since p q [] := by
  rintro ⟨before, x, after, split, -⟩
  cases before <;> cases split

/-- The last event makes it so, or does not undo it. -/
theorem since_append_singleton : Since p q (l ++ [x]) ↔ p x ∨ (Since p q l ∧ ¬ q x) := by
  constructor
  · rintro ⟨before, y, after, split, made, since⟩
    rcases List.eq_nil_or_concat after with rfl | ⟨after', last, rfl⟩
    · obtain ⟨-, same⟩ := List.append_inj' split rfl
      obtain rfl : x = y := by simpa using same
      exact .inl made
    · rw [List.concat_eq_append, ← List.cons_append, ← List.append_assoc] at split
      obtain ⟨front, same⟩ := List.append_inj' split rfl
      obtain rfl : x = last := by simpa using same
      refine .inr ⟨⟨before, y, after', front, made, fun z hz => ?_⟩, ?_⟩
      · exact since z (by simp [hz])
      · exact since x (by simp)
  · rintro (made | ⟨⟨before, y, after, rfl, made, since⟩, stays⟩)
    · exact ⟨l, x, [], rfl, made, fun _ none => nomatch none⟩
    · refine ⟨before, y, after ++ [x], by simp, made, fun z hz => ?_⟩
      rcases List.mem_append.mp hz with old | new
      · exact since z old
      · rw [List.mem_singleton.mp new]
        exact stays

end SthBoring.Lib.History
