/- Module: SthBoring/Lib/Walk
   source: none; a vocabulary for graphs that are walked node by node
   digest: Deterministic walks: what holds along them, how often they visit, when they end. -/

import Mathlib.Data.Nat.Basic
import Mathlib.Tactic.Common

set_option autoImplicit false
set_option relaxedAutoImplicit false

namespace SthBoring.Lib.Walk

universe u

variable {C : Type u} (next : C → Option C)

/-- Where the walk from `c` stands after some steps, unless it has ended before. -/
def walk (c : C) : ℕ → Option C
  | 0 => some c
  | n + 1 => (walk c n).bind next

/-- How many of the first `n` states of the walk have the property. -/
def visits (p : C → Bool) (c : C) : ℕ → ℕ
  | 0 => 0
  | n + 1 => visits p c n + if (walk next c n).any p then 1 else 0

/-- The walk reaches a last state, and it is one of these. -/
def EndsIn (P : C → Prop) (c : C) : Prop :=
  ∃ n d, walk next c n = some d ∧ next d = none ∧ P d

variable {next} {c d d' : C} {p : C → Bool} {n : ℕ}

theorem walk_succ (h : walk next c n = some d) : walk next c (n + 1) = next d := by
  rw [walk, h, Option.bind_some]

theorem walk_succ_eq_some (h : walk next c (n + 1) = some d') :
    ∃ d, walk next c n = some d ∧ next d = some d' := by
  rw [walk] at h
  exact Option.bind_eq_some_iff.mp h

theorem visits_succ_of_visited (h : walk next c n = some d) (hp : p d = true) :
    visits next p c (n + 1) = visits next p c n + 1 := by
  rw [visits, h, Option.any_some, hp, if_pos rfl]

theorem visits_succ_of_not_visited (h : walk next c n = some d) (hp : p d = false) :
    visits next p c (n + 1) = visits next p c n := by
  rw [visits, h, Option.any_some, hp, if_neg Bool.false_ne_true, Nat.add_zero]

theorem walk_eq_none_of_le {m : ℕ} (h : walk next c n = none) (le : n ≤ m) :
    walk next c m = none := by
  induction le with
  | refl => exact h
  | step _ ih => rw [walk, ih, Option.bind_none]

/-- A walk has one last state. -/
theorem last_unique {m : ℕ} (hd : walk next c n = some d) (last : next d = none)
    (hd' : walk next c m = some d') (last' : next d' = none) : d = d' := by
  have same : n = m := by
    by_contra ne
    rcases Nat.lt_or_gt_of_ne ne with lt | gt
    · have past := walk_eq_none_of_le (walk_succ hd ▸ last) lt
      exact absurd (past.symm.trans hd') nofun
    · have past := walk_eq_none_of_le (walk_succ hd' ▸ last') gt
      exact absurd (past.symm.trans hd) nofun
  subst same
  exact Option.some.inj (hd.symm.trans hd')

/-- The invariant rule, for invariants that may speak of the visits so far. -/
theorem walk_rule (p : C → Bool) (I : ℕ → C → Prop) (start : I 0 c)
    (step : ∀ k d d', I k d → next d = some d' → I (if p d then k + 1 else k) d') :
    ∀ n d, walk next c n = some d → I (visits next p c n) d := by
  intro n
  induction n with
  | zero =>
    intro d h
    cases h
    exact start
  | succ n ih =>
    intro d' h
    obtain ⟨d, hd, hn⟩ := walk_succ_eq_some h
    have stepped := step _ d d' (ih d hd) hn
    cases hp : p d with
    | false =>
      rw [visits_succ_of_not_visited hd hp]
      rw [hp, if_neg Bool.false_ne_true] at stepped
      exact stepped
    | true =>
      rw [visits_succ_of_visited hd hp]
      rw [hp, if_pos rfl] at stepped
      exact stepped

/-- The visits stay within a bound exactly when none is paid from a used up bound. -/
theorem visits_le_iff (b : ℕ) :
    (∀ n, visits next p c n ≤ b) ↔
      ∀ n d, walk next c n = some d → p d = true → visits next p c n < b := by
  constructor
  · intro bounded n d hd hp
    have more := bounded (n + 1)
    rw [visits_succ_of_visited hd hp] at more
    omega
  · intro paid n
    induction n with
    | zero => exact Nat.zero_le b
    | succ n ih =>
      cases hd : walk next c n with
      | none =>
        rw [visits, hd, Option.any_none, if_neg Bool.false_ne_true]
        exact ih
      | some d =>
        cases hp : p d with
        | false =>
          rw [visits_succ_of_not_visited hd hp]
          exact ih
        | true =>
          have room := paid n d hd hp
          rw [visits_succ_of_visited hd hp]
          omega

/-- A measure that falls with every step, as long as the walk keeps an invariant, ends it. -/
theorem endsIn_of_measure (μ : C → ℕ) (I : C → Prop) (start : I c)
    (keeps : ∀ d d', I d → next d = some d' → I d')
    (falls : ∀ d d', I d → next d = some d' → μ d' < μ d) : EndsIn next I c := by
  -- induction on the measure of the state the walk starts from
  induction hm : μ c using Nat.strong_induction_on generalizing c with
  | _ m ih =>
    cases hn : next c with
    | none => exact ⟨0, c, rfl, hn, start⟩
    | some d =>
      have less : μ d < m := hm ▸ falls c d start hn
      obtain ⟨n, last, reached, ended, inv⟩ := ih (μ d) less (keeps c d start hn) rfl
      refine ⟨n + 1, last, ?_, ended, inv⟩
      have shift : ∀ k, walk next c (k + 1) = walk next d k := by
        intro k
        induction k with
        | zero => rw [walk_succ rfl, hn, walk]
        | succ k shifted => rw [walk, shifted, ← walk]
      rw [shift, reached]

end SthBoring.Lib.Walk
