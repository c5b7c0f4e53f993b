/- Module: SthBoring/Lib/RoundingError
   source: the built-in float type
   digest: How far a number rounded to binary64 is from the number. -/

import Mathlib.Tactic.Linarith
import Mathlib.Tactic.Positivity
import Mathlib.Tactic.FieldSimp
import SthBoring.Lib.Binary64

set_option autoImplicit false
set_option relaxedAutoImplicit false

namespace SthBoring.Lib.Binary64

theorem pow2_eq (e : ℤ) : pow2 e = (2 : ℚ) ^ e := by
  cases e with
  | ofNat n => simp [pow2]
  | negSucc n => simp [pow2, zpow_negSucc]

theorem pow2_pos (e : ℤ) : 0 < pow2 e := by
  rw [pow2_eq]
  exact zpow_pos two_pos e

theorem pow2_sub (e k : ℤ) : pow2 (e - k) = pow2 e / pow2 k := by
  rw [pow2_eq, pow2_eq, pow2_eq, zpow_sub₀ two_ne_zero]

/-- The leading digit of a number is part of it. -/
theorem pow2_binaryExponent_le {q : ℚ} (positive : 0 < q) : pow2 (binaryExponent q) ≤ q := by
  rw [binaryExponent]
  split
  · have num : (2 : ℚ) ^ Nat.log2 q.num.natAbs ≤ q.num := by
      have some : q.num.natAbs ≠ 0 := by
        rw [Int.natAbs_ne_zero]
        exact (Rat.num_pos.mpr positive).ne'
      have low := Nat.log2_self_le some
      have same : (q.num.natAbs : ℚ) = q.num := by
        rw [← Int.cast_natCast, Int.natAbs_of_nonneg (Rat.num_pos.mpr positive).le]
      rw [← same]
      exact_mod_cast low
    have den : (q.den : ℚ) ≤ 2 ^ (Nat.log2 q.den + 1) := by
      exact_mod_cast (Nat.lt_log2_self).le
    rw [pow2_sub, pow2_sub, pow2_eq, pow2_eq, pow2_eq, zpow_natCast, zpow_natCast, zpow_one,
      div_div, ← pow_succ]
    calc (2 : ℚ) ^ Nat.log2 q.num.natAbs / 2 ^ (Nat.log2 q.den + 1)
        ≤ q.num / q.den := by
          have shown : (0 : ℚ) < q.den := by exact_mod_cast q.den_pos
          gcongr
      _ = q := Rat.num_div_den q
  · rename_i above
    exact not_lt.mp above

theorem abs_nearest_sub_le (x : ℚ) : |(nearest x : ℚ) - x| ≤ 1 / 2 := by
  have below : (x.floor : ℚ) ≤ x := Rat.floor_le x
  have above : x < x.floor + 1 := by exact_mod_cast Rat.lt_floor_add_one x
  rw [nearest, abs_le]
  split_ifs <;> push_cast <;> constructor <;> linarith

/-- Half a unit in the last of 53 binary digits. -/
theorem abs_round_sub_le (q : ℚ) : |round q - q| ≤ |q| / 2 ^ 53 := by
  rw [round]
  split_ifs with zero
  · simp [zero]
  · have size : 0 < |q| := abs_pos.mpr zero
    set unit := pow2 (binaryExponent |q| - 52)
    have positive : 0 < unit := pow2_pos _
    have small : unit ≤ |q| / 2 ^ 52 := by
      change pow2 (binaryExponent |q| - 52) ≤ _
      rw [pow2_sub]
      have digits : pow2 52 = 2 ^ 52 := by rw [pow2_eq]; norm_num
      rw [digits]
      have leading := pow2_binaryExponent_le size
      gcongr
    have scaled : (nearest (q / unit) : ℚ) * unit - q = (nearest (q / unit) - q / unit) * unit := by
      field_simp
    rw [scaled, abs_mul, abs_of_pos positive]
    have near := abs_nearest_sub_le (q / unit)
    calc |(nearest (q / unit) : ℚ) - q / unit| * unit ≤ 1 / 2 * (|q| / 2 ^ 52) := by gcongr
      _ = |q| / 2 ^ 53 := by ring

theorem half_le_round {q : ℚ} (positive : 0 ≤ q) : q / 2 ≤ round q := by
  have near := (abs_le.mp (abs_round_sub_le q)).1
  rw [abs_of_nonneg positive] at near
  have digits : q / 2 ^ 53 ≤ q / 2 := by
    gcongr
    norm_num
  linarith

end SthBoring.Lib.Binary64
