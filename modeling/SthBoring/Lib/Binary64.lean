/- Module: SthBoring/Lib/Binary64
   source: the built-in float type
   digest: Rational numbers rounded to binary64, and written with a fixed number of decimals. -/

import Mathlib.Data.Rat.Floor
import Mathlib.Algebra.Order.Field.Rat
import SthBoring.Lib.PyValue

set_option autoImplicit false
set_option relaxedAutoImplicit false

namespace SthBoring.Lib.Binary64

open SthBoring.Lib.PyValue (PyFloat)

/-- The nearest integer, the even one of two. -/
def nearest (q : ℚ) : ℤ :=
  let below := q.floor
  let rest := q - below
  if rest < 1 / 2 then below
  else if 1 / 2 < rest then below + 1
  else if below % 2 = 0 then below else below + 1

/-- A power of two. -/
def pow2 : ℤ → ℚ
  | .ofNat n => (2 ^ n : ℕ)
  | .negSucc n => 1 / (2 ^ (n + 1) : ℕ)

/-- The exponent of the leading binary digit of a positive number. -/
def binaryExponent (q : ℚ) : ℤ :=
  let guess := (Nat.log2 q.num.natAbs : ℤ) - Nat.log2 q.den
  if q < pow2 guess then guess - 1 else guess

/-- The nearest number with 53 binary digits. Numbers too large or too small for binary64 are
out of its range. -/
def round (q : ℚ) : ℚ :=
  if q = 0 then 0
  else
    let unit := pow2 (binaryExponent |q| - 52)
    nearest (q / unit) * unit

/-- `f"{x:.4f}"` and the like. -/
def fixed (decimals : ℕ) (x : PyFloat) : String :=
  let scaled := (nearest (|x.value| * (10 ^ decimals : ℕ))).natAbs
  let fraction := toString (scaled % 10 ^ decimals)
  (if x.value < 0 || x.repr == "-0.0" then "-" else "") ++ toString (scaled / 10 ^ decimals) ++
    "." ++ String.ofList (List.replicate (decimals - fraction.length) '0') ++ fraction

@[simp] theorem round_zero : round 0 = 0 := rfl

-- the sum that a reader expects to be 0.45
example : round (round (35 / 100) + round (10 / 100)) < round (45 / 100) := by decide +kernel

example : fixed 4 ⟨1 / 8, "0.125"⟩ = "0.1250" := by decide +kernel

end SthBoring.Lib.Binary64
