import Mathlib.Algebra.Order.BigOperators.Group.List
import Mathlib.Algebra.Order.Field.Basic
import Mathlib.Tactic.Linarith
import Mathlib.Tactic.Positivity
import Mathlib.Tactic.Ring

/-! Quotients rounded to the nearest integer.

A quotient of naturals rounded half up is within a half of the exact one in any
ordered field (`halfUp_near`) and grows with its numerator (`halfUp_mono`). The error of
a product and of a mixture of two values is bounded by those of its parts
(`mul_near`, `mix_near`). -/
namespace RelayPool.Rounding

/-- The quotient, rounded half up. -/
def halfUp (numerator denominator : Nat) : Nat := (numerator + denominator / 2) / denominator

theorem halfUp_mono {a b : Nat} (denominator : Nat) (le : a ≤ b) :
    halfUp a denominator ≤ halfUp b denominator :=
  Nat.div_le_div_right (Nat.add_le_add_right le _)

theorem halfUp_le {a denominator bound : Nat} (positive : 0 < denominator)
    (le : a ≤ bound * denominator) : halfUp a denominator ≤ bound := by
  refine Nat.lt_succ_iff.mp ((Nat.div_lt_iff_lt_mul positive).mpr ?_)
  rw [Nat.succ_mul]
  have := Nat.div_lt_self positive (Nat.lt_succ_self 1)
  omega

section Field
variable {K : Type*} [Field K] [LinearOrder K] [IsStrictOrderedRing K]

theorem halfUp_near (a : Nat) {denominator : Nat} (positive : 0 < denominator) :
    |(halfUp a denominator : K) - a / denominator| ≤ 1 / 2 := by
  have division := Nat.div_add_mod (a + denominator / 2) denominator
  have less := Nat.mod_lt (a + denominator / 2) positive
  have field : (0 : K) < denominator := by exact_mod_cast positive
  change denominator * halfUp a denominator + _ = _ at division
  have upper : 2 * (denominator * halfUp a denominator) ≤ 2 * a + denominator := by omega
  have lower : 2 * a ≤ 2 * (denominator * halfUp a denominator) + denominator := by omega
  have upper' : 2 * ((denominator : K) * halfUp a denominator) ≤ 2 * a + denominator := by
    exact_mod_cast upper
  have lower' : 2 * (a : K) ≤ 2 * (denominator * halfUp a denominator) + denominator := by
    exact_mod_cast lower
  have above : (a : K) / denominator ≤ halfUp a denominator + 1 / 2 :=
    (div_le_iff₀ field).mpr (by linarith)
  have below : (halfUp a denominator : K) - 1 / 2 ≤ a / denominator :=
    (le_div_iff₀ field).mpr (by linarith)
  rw [abs_le]
  constructor <;> linarith

/-- The error of a product of values from zero to one, and near it. -/
theorem mul_near {a b a' b' errorA errorB : K} (nearA : |a' - a| ≤ errorA)
    (nearB : |b' - b| ≤ errorB) : |a' * b' - a * b| ≤ |a'| * errorB + |b| * errorA := by
  calc |a' * b' - a * b| = |a' * (b' - b) + b * (a' - a)| := by ring_nf
    _ ≤ |a' * (b' - b)| + |b * (a' - a)| := abs_add_le _ _
    _ = |a'| * |b' - b| + |b| * |a' - a| := by rw [abs_mul, abs_mul]
    _ ≤ |a'| * errorB + |b| * errorA :=
      add_le_add (mul_le_mul_of_nonneg_left nearB (abs_nonneg _))
        (mul_le_mul_of_nonneg_left nearA (abs_nonneg _))

/-- The error of a mixture: that of its parts, and what an error of the share moves
between them. -/
theorem mix_near {a b a' b' share share' error errorShare : K} (nearA : |a' - a| ≤ error)
    (nearB : |b' - b| ≤ error) (nearShare : |share' - share| ≤ errorShare) (nonneg : 0 ≤ share')
    (le : share' ≤ 1) :
    |(a' * share' + b' * (1 - share')) - (a * share + b * (1 - share))| ≤
      error + |a - b| * errorShare := by
  have rest : 0 ≤ 1 - share' := sub_nonneg.mpr le
  calc |(a' * share' + b' * (1 - share')) - (a * share + b * (1 - share))|
      = |((a' - a) * share' + (b' - b) * (1 - share')) + (a - b) * (share' - share)| := by ring_nf
    _ ≤ |(a' - a) * share' + (b' - b) * (1 - share')| + |(a - b) * (share' - share)| :=
      abs_add_le _ _
    _ ≤ (|(a' - a) * share'| + |(b' - b) * (1 - share')|) + |(a - b) * (share' - share)| :=
      add_le_add_left (abs_add_le _ _) _
    _ = (|a' - a| * share' + |b' - b| * (1 - share')) + |a - b| * |share' - share| := by
      rw [abs_mul, abs_mul, abs_mul, abs_of_nonneg nonneg, abs_of_nonneg rest]
    _ ≤ (error * share' + error * (1 - share')) + |a - b| * errorShare :=
      add_le_add (add_le_add (mul_le_mul_of_nonneg_right nearA nonneg)
        (mul_le_mul_of_nonneg_right nearB rest))
        (mul_le_mul_of_nonneg_left nearShare (abs_nonneg _))
    _ = error + |a - b| * errorShare := by ring

end Field

end RelayPool.Rounding
