import Mathlib.Data.Rat.Floor

/-! # Go's `int` and `int64` on amd64

Integers are `Int`; where the code can leave the 64-bit range, the model applies what amd64 does:
a float converted to an integer that does not fit gives `MinInt64`, and a product that does not
fit wraps. -/

namespace Ecco9

/-- A float converted to `int` or `int64` (`int(x)`, `time.Duration(x)`): truncation toward zero,
and, when that does not fit, the `MinInt64` that amd64's CVTTSD2SQ returns. -/
def floatToInt64 (x : ℚ) : Int :=
  let t := x.num.tdiv x.den
  if -2 ^ 63 ≤ t ∧ t < 2 ^ 63 then t else -2 ^ 63

/-- The `int64` result of an exact value: two's-complement wrap onto `[-2^63, 2^63)`. -/
def wrapInt64 (x : Int) : Int := (x + 2 ^ 63) % 2 ^ 64 - 2 ^ 63

/-- A nonnegative float that fits converts to its floor. -/
theorem floatToInt64_of_nonneg {x : ℚ} (h₀ : 0 ≤ x) (h₁ : x < 2 ^ 63) :
    floatToInt64 x = ⌊x⌋ := by
  have ht : x.num.tdiv x.den = ⌊x⌋ := by
    rw [Int.tdiv_eq_ediv (Rat.num_nonneg.mpr h₀) (Int.natCast_nonneg _), Rat.floor_def]
  have hlo : 0 ≤ ⌊x⌋ := Int.floor_nonneg.mpr h₀
  have hhi : ⌊x⌋ < 2 ^ 63 := Int.floor_lt.mpr (by exact_mod_cast h₁)
  simp only [floatToInt64, ht]
  exact if_pos ⟨by omega, hhi⟩

end Ecco9
