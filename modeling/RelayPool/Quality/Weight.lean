import Mathlib.Algebra.Order.Floor.Semifield
import Mathlib.Analysis.Complex.ExponentialBounds
import Mathlib.Analysis.SpecialFunctions.Pow.Real
import Mathlib.Data.Nat.Bitwise
import RelayPool.Rounding

/-! The weight of an observation by its age.

Evidence loses a half of its weight in 72 hours while it is at most a day old, and in
24 hours from then on. The power of two is a product of tabulated factors, one for each
bit of the exponent's binary fraction, each rounded. What it is off by is small against
the unit the weight is given in (`exp2NegRatioQ32_near`), so that the weight is within
one unit of the exact one, and older evidence weighs at most one unit more than newer
(`qualityWeightFixed_near`); that unit does occur (`qualityWeightFixed_rises`). -/
namespace RelayPool.Quality
open Rounding

/-! ### Fixed point -/

def qualityWeightScale : Nat := 1000000

def qualityRecentWindowMs : Nat := 24 * 60 * 60 * 1000

def qualityHistoryWindowMs : Nat := 30 * 24 * 60 * 60 * 1000

def q32 : Nat := 2 ^ 32

/-- `2^(-1/2^k)` in units of `2^-32`, for `k` from 0 on. -/
def exp2NegBinaryQ32 : List Nat :=
  [2147483648, 3037000500, 3611622603, 3938502376, 4112874773, 4202935003, 4248701965,
    4271771996, 4283353945, 4289156690, 4292061010, 4293513907, 4294240540, 4294603903,
    4294785595, 4294876445, 4294921870, 4294944583, 4294955939, 4294961618, 4294964457,
    4294965876, 4294966586, 4294966941, 4294967119, 4294967207, 4294967252, 4294967274,
    4294967285, 4294967290, 4294967293, 4294967295, 4294967295]

/-- A product of 128 bits. -/
def saturatingMul128 (a b : Nat) : Nat := min (a * b) (2 ^ 128 - 1)

def mulQ32 (left right : Nat) : Nat := (saturatingMul128 left right + q32 / 2) / q32

/-- The factor of one bit of the fraction, from the highest on. -/
def exp2Factor (fraction result : Nat) (entry : Nat × Nat) : Nat :=
  if fraction.testBit (31 - entry.2) then mulQ32 result entry.1 else result

def exp2NegRatioQ32 (ageMs halfLifeMs : Nat) : Nat :=
  if halfLifeMs = 0 then 0
  else
    let ratio := ageMs <<< 32 / halfLifeMs
    let integer := ratio >>> 32
    if 128 ≤ integer then 0
    else
      let fraction := ratio &&& (q32 - 1)
      exp2NegBinaryQ32.tail.zipIdx.foldl (exp2Factor fraction) (q32 >>> integer)

/-- The weight of an age that is not negative, in units of `2^-32`. -/
def weightQ32 (ageMs : Nat) : Nat :=
  if ageMs ≤ qualityRecentWindowMs then exp2NegRatioQ32 ageMs (72 * 60 * 60 * 1000)
  else
    let boundary := exp2NegRatioQ32 qualityRecentWindowMs (72 * 60 * 60 * 1000)
    let history := exp2NegRatioQ32 (ageMs - qualityRecentWindowMs) (24 * 60 * 60 * 1000)
    mulQ32 boundary history

def qualityWeightFixed (ageMs : Int64) : Nat :=
  let q := weightQ32 (max ageMs.toInt 0).toNat
  let quantized := (q * qualityWeightScale + 2 ^ 31) >>> 32
  if q = 0 then 0 else min (max quantized 1) qualityWeightScale

example : [0, 24, 48, 72].map (fun hours => qualityWeightFixed (hours * 3600000)) =
    [1000000, 793701, 396850, 198425] := by decide +kernel

/-! ### The exact weight -/

/-- The share of weight left after this part of the half-lives. -/
noncomputable def decay (halfLives : ℝ) : ℝ := 2 ^ (-halfLives)

theorem decay_pos (x : ℝ) : 0 < decay x := Real.rpow_pos_of_pos two_pos _

theorem decay_add (x y : ℝ) : decay (x + y) = decay x * decay y := by
  rw [decay, neg_add, Real.rpow_add two_pos]
  rfl

theorem decay_zero : decay 0 = 1 := by
  rw [decay, neg_zero, Real.rpow_zero]

theorem decay_le_one {x : ℝ} (nonneg : 0 ≤ x) : decay x ≤ 1 :=
  Real.rpow_le_one_of_one_le_of_nonpos one_le_two (neg_nonpos.mpr nonneg)

theorem decay_anti {x y : ℝ} (le : x ≤ y) : decay y ≤ decay x :=
  Real.rpow_le_rpow_of_exponent_le one_le_two (neg_le_neg le)

theorem decay_nat (n : Nat) : decay n = 1 / 2 ^ n := by
  rw [decay, Real.rpow_neg two_pos.le, Real.rpow_natCast, one_div]

/-- Over a short part of a half-life no more is lost than that part. -/
theorem one_sub_le_decay {x : ℝ} (nonneg : 0 ≤ x) : 1 - x ≤ decay x := by
  have log : Real.log 2 ≤ 1 := Real.log_two_lt_d9.le.trans (by norm_num)
  have exponential := Real.add_one_le_exp (Real.log 2 * -x)
  rw [decay, Real.rpow_def_of_pos two_pos]
  nlinarith [mul_le_mul_of_nonneg_right log nonneg]

/-- The weight by the two half-lives, in units of the scale. -/
noncomputable def qualityWeight (ageMs : Nat) : ℝ :=
  if ageMs ≤ qualityRecentWindowMs then 1000000 * decay (ageMs / (72 * 60 * 60 * 1000))
  else
    1000000 * (decay (1 / 3) *
      decay ((ageMs - qualityRecentWindowMs : Nat) / (24 * 60 * 60 * 1000)))

/-! ### The table -/

theorem decay_half_sq (k : Nat) : decay (1 / 2 ^ (k + 1)) ^ 2 = decay (1 / 2 ^ k) := by
  rw [sq, ← decay_add]
  congr 1
  rw [pow_succ]
  ring

/-- Two neighbours of the table, by the squares of what lies two units around them. -/
theorem table_step (k : Nat) (small : k < 32) :
    (exp2NegBinaryQ32.getD (k + 1) 0 - 2) ^ 2 ≤ q32 * (exp2NegBinaryQ32.getD k 0 - 2) ∧
      q32 * (exp2NegBinaryQ32.getD k 0 + 2) ≤ (exp2NegBinaryQ32.getD (k + 1) 0 + 2) ^ 2 ∧
      2 ≤ exp2NegBinaryQ32.getD k 0 ∧ 2 ≤ exp2NegBinaryQ32.getD (k + 1) 0 ∧
      exp2NegBinaryQ32.getD (k + 1) 0 ≤ q32 := by
  revert k
  decide +kernel

theorem table_half (k : Nat) (small : k < 32) : q32 / 2 ≤ exp2NegBinaryQ32.getD (k + 1) 0 := by
  revert k
  decide +kernel

/-- The table is right to two units. -/
theorem table_near {k : Nat} (small : k ≤ 32) :
    |(exp2NegBinaryQ32.getD k 0 : ℝ) - q32 * decay (1 / 2 ^ k)| ≤ 2 := by
  induction k with
  | zero =>
    have half : decay (1 / 2 ^ 0) = 1 / 2 := by
      have := decay_nat 1
      norm_num at this ⊢
      exact this
    rw [half]
    norm_num [exp2NegBinaryQ32, q32]
  | succ k ih =>
    have ih := abs_le.mp (ih (by omega))
    obtain ⟨lower, upper, two, two', -⟩ := table_step k (by omega)
    have square := decay_half_sq k
    have positive := decay_pos (1 / 2 ^ (k + 1))
    have scale : (0 : ℝ) < q32 := by norm_num [q32]
    have lower : ((exp2NegBinaryQ32.getD (k + 1) 0 : ℝ) - 2) ^ 2 ≤
        q32 * ((exp2NegBinaryQ32.getD k 0 : ℝ) - 2) := by
      have cast : ((exp2NegBinaryQ32.getD (k + 1) 0 - 2 : Nat) : ℝ) ^ 2 ≤
        q32 * ((exp2NegBinaryQ32.getD k 0 - 2 : Nat) : ℝ) := by exact_mod_cast lower
      rwa [Nat.cast_sub two, Nat.cast_sub two'] at cast
    have upper : (q32 : ℝ) * ((exp2NegBinaryQ32.getD k 0 : ℝ) + 2) ≤
        ((exp2NegBinaryQ32.getD (k + 1) 0 : ℝ) + 2) ^ 2 := by exact_mod_cast upper
    have exact : ((q32 : ℝ) * decay (1 / 2 ^ (k + 1))) ^ 2 = q32 * (q32 * decay (1 / 2 ^ k)) := by
      rw [mul_pow, square]
      ring
    have below : (exp2NegBinaryQ32.getD (k + 1) 0 : ℝ) - 2 ≤ q32 * decay (1 / 2 ^ (k + 1)) := by
      refine le_of_sq_le_sq ?_ (mul_pos scale positive).le
      rw [exact]
      exact lower.trans (mul_le_mul_of_nonneg_left (by linarith) scale.le)
    have above : (q32 : ℝ) * decay (1 / 2 ^ (k + 1)) ≤ exp2NegBinaryQ32.getD (k + 1) 0 + 2 := by
      refine le_of_sq_le_sq ?_ (by positivity)
      rw [exact]
      exact (mul_le_mul_of_nonneg_left (by linarith) scale.le).trans upper
    rw [abs_le]
    constructor <;> linarith

/-! ### The product -/

/-- A product of values of at most one has no saturation, and is rounded once. -/
theorem mulQ32_eq {left right : Nat} (le : left ≤ q32) (le' : right ≤ q32) :
    mulQ32 left right = halfUp (left * right) q32 := by
  have product : left * right ≤ q32 * q32 := Nat.mul_le_mul le le'
  have range : q32 * q32 ≤ 2 ^ 128 - 1 := by decide
  rw [mulQ32, saturatingMul128, Nat.min_eq_left (product.trans range)]
  rfl

theorem q32_pos : 0 < q32 := by decide

theorem mulQ32_le {left right : Nat} (le : left ≤ q32) (le' : right ≤ q32) :
    mulQ32 left right ≤ q32 := by
  rw [mulQ32_eq le le']
  exact halfUp_le q32_pos (Nat.mul_le_mul le le')

/-- The error of a product of two values in units of `2^-32`. -/
theorem mulQ32_near {left right : Nat} (le : left ≤ q32) (le' : right ≤ q32) {x y error error' : ℝ}
    (near : |left - q32 * x| ≤ error) (near' : |right - q32 * y| ≤ error') (nonneg : 0 ≤ y)
    (most : y ≤ 1) : |mulQ32 left right - q32 * (x * y)| ≤ error + error' + 1 / 2 := by
  have scale : (0 : ℝ) < q32 := by exact_mod_cast q32_pos
  have rounded := halfUp_near (K := ℝ) (left * right) q32_pos
  rw [← mulQ32_eq le le', Nat.cast_mul] at rounded
  have share : |(right : ℝ) / q32 - y| ≤ error' / q32 := by
    have : (right : ℝ) / q32 - y = (right - q32 * y) / q32 := by
      field_simp
    rw [this, abs_div, abs_of_pos scale]
    exact div_le_div_of_nonneg_right near' scale.le
  have product := mul_near near share
  have fraction : |(left : ℝ)| * (error' / q32) ≤ error' := by
    have small : (left : ℝ) ≤ q32 := by exact_mod_cast le
    have error'_nonneg : 0 ≤ error' := (abs_nonneg _).trans near'
    rw [abs_of_nonneg (Nat.cast_nonneg _), ← mul_div_assoc, div_le_iff₀ scale, mul_comm]
    exact mul_le_mul_of_nonneg_left small error'_nonneg
  have rest : |y| * error ≤ error := by
    rw [abs_of_nonneg nonneg]
    exact mul_le_of_le_one_left ((abs_nonneg _).trans near) most
  calc |(mulQ32 left right : ℝ) - q32 * (x * y)|
      = |((mulQ32 left right : ℝ) - left * right / q32) +
          (left * (right / q32) - q32 * x * y)| := by ring_nf
    _ ≤ |(mulQ32 left right : ℝ) - left * right / q32| +
          |left * (right / q32) - q32 * x * y| := abs_add_le _ _
    _ ≤ error + error' + 1 / 2 := by linarith

/-- The factors of the first bits of a fraction. -/
def exp2Factors (fraction start : Nat) (bits : Nat) : Nat :=
  (exp2NegBinaryQ32.tail.zipIdx.take bits).foldl (exp2Factor fraction) start

theorem exp2Factors_succ (fraction start : Nat) {bits : Nat} (more : bits < 32) :
    exp2Factors fraction start (bits + 1) =
      exp2Factor fraction (exp2Factors fraction start bits)
        (exp2NegBinaryQ32.getD (bits + 1) 0, bits) := by
  have entry : exp2NegBinaryQ32.tail.zipIdx[bits]? =
      some (exp2NegBinaryQ32.getD (bits + 1) 0, bits) := by
    revert bits
    decide
  rw [exp2Factors, List.take_add_one, entry, List.foldl_append]
  rfl

/-- The exponent that the first bits of a fraction make. -/
noncomputable def exponent (integer fraction bits : Nat) : ℝ :=
  integer + (fraction >>> (32 - bits) : Nat) / 2 ^ bits

theorem exponent_succ (integer fraction : Nat) {bits : Nat} (more : bits < 32) :
    exponent integer fraction (bits + 1) = exponent integer fraction bits +
      if fraction.testBit (31 - bits) then 1 / 2 ^ (bits + 1) else 0 := by
  have shift : fraction >>> (32 - (bits + 1)) =
      2 * (fraction >>> (32 - bits)) + (fraction.testBit (31 - bits)).toNat := by
    have parts := Nat.div_add_mod (fraction >>> (32 - (bits + 1))) 2
    have bit : fraction >>> (32 - (bits + 1)) % 2 = (fraction.testBit (31 - bits)).toNat := by
      rw [Nat.testBit_eq_decide_div_mod_eq, Nat.shiftRight_eq_div_pow,
        show 32 - (bits + 1) = 31 - bits by omega]
      rcases Nat.mod_two_eq_zero_or_one (fraction / 2 ^ (31 - bits)) with even | odd
      · simp [even]
      · simp [odd]
    have half : fraction >>> (32 - (bits + 1)) / 2 = fraction >>> (32 - bits) := by
      rw [← Nat.shiftRight_succ]
      congr 1
      omega
    omega
  rw [exponent, exponent, shift]
  cases fraction.testBit (31 - bits) with
  | false =>
    simp only [Bool.toNat_false, Nat.add_zero, Nat.cast_mul, Nat.cast_ofNat, pow_succ]
    field_simp
    simp
  | true =>
    simp only [Bool.toNat_true, Nat.cast_add, Nat.cast_mul, Nat.cast_ofNat, Nat.cast_one, pow_succ,
      if_true]
    field_simp
    ring

/-- Each factor adds at most five halves of a unit to the error. -/
theorem exp2Factors_near (integer fraction : Nat) (small : fraction < q32) {bits : Nat}
    (le : bits ≤ 32) :
    exp2Factors fraction (q32 >>> integer) bits ≤ q32 ∧
      |exp2Factors fraction (q32 >>> integer) bits - q32 * decay (exponent integer fraction bits)| ≤
        1 + 5 / 2 * bits := by
  induction bits with
  | zero =>
    have start : exponent integer fraction 0 = integer := by
      have gone : fraction >>> 32 = 0 := Nat.shiftRight_eq_zero _ _ small
      simp [exponent, gone]
    have whole : exp2Factors fraction (q32 >>> integer) 0 = q32 / 2 ^ integer :=
      Nat.shiftRight_eq_div_pow ..
    have floor : (⌊(q32 : ℝ) / 2 ^ integer⌋₊ : Nat) = q32 / 2 ^ integer := by
      rw [← Nat.floor_div_eq_div (K := ℝ)]
      push_cast
      rfl
    have below := Nat.floor_le (show (0 : ℝ) ≤ (q32 : ℝ) / 2 ^ integer by positivity)
    have above := Nat.lt_floor_add_one ((q32 : ℝ) / 2 ^ integer)
    rw [floor] at below above
    rw [start, whole, decay_nat, ← mul_div_assoc, mul_one, abs_le]
    refine ⟨Nat.div_le_self _ _, ?_, ?_⟩
    · linarith
    · linarith
  | succ bits ih =>
    have more : bits < 32 := by omega
    obtain ⟨most, near⟩ := ih more.le
    have table := table_near (show bits + 1 ≤ 32 by omega)
    have factor := (table_step bits more).2.2.2.2
    rw [exp2Factors_succ _ _ more, exponent_succ _ _ more, exp2Factor]
    cases fraction.testBit (31 - bits) with
    | false =>
      refine ⟨most, ?_⟩
      simp only [Bool.false_eq_true, if_false, add_zero, Nat.cast_add, Nat.cast_one]
      linarith
    | true =>
      simp only [if_true]
      refine ⟨mulQ32_le most factor, ?_⟩
      have product := mulQ32_near most factor near table (decay_pos _).le
        (decay_le_one (by positivity))
      rw [decay_add]
      push_cast
      linarith

/-! ### The ratio -/

/-- The exponent is the ratio, rounded down to `2^-32`. -/
theorem ratio_near (age : Nat) {halfLife : Nat} (positive : 0 < halfLife) :
    let ratio : ℝ := (age <<< 32 / halfLife : Nat) / 2 ^ 32
    ratio ≤ age / halfLife ∧ (age : ℝ) / halfLife ≤ ratio + 1 / 2 ^ 32 := by
  intro ratio
  have field : (0 : ℝ) < halfLife := by exact_mod_cast positive
  have division := Nat.div_add_mod (age <<< 32) halfLife
  have less := Nat.mod_lt (age <<< 32) positive
  have shift : age <<< 32 = age * 2 ^ 32 := Nat.shiftLeft_eq ..
  have lower : halfLife * (age <<< 32 / halfLife) ≤ age * 2 ^ 32 := by omega
  have upper : age * 2 ^ 32 ≤ halfLife * (age <<< 32 / halfLife + 1) := by
    rw [Nat.mul_add]
    omega
  have lower : (halfLife : ℝ) * (age <<< 32 / halfLife : Nat) ≤ age * 2 ^ 32 := by
    exact_mod_cast lower
  have upper : (age : ℝ) * 2 ^ 32 ≤ halfLife * ((age <<< 32 / halfLife : Nat) + 1) := by
    exact_mod_cast upper
  constructor
  · rw [le_div_iff₀ field, div_mul_eq_mul_div, div_le_iff₀ (by positivity), mul_comm]
    exact lower
  · rw [← add_div, div_le_div_iff₀ field (by positivity), mul_comm _ (halfLife : ℝ)]
    exact upper

theorem exponent_all {ratio : Nat} :
    exponent (ratio >>> 32) (ratio &&& (q32 - 1)) 32 = ratio / 2 ^ 32 := by
  have parts := Nat.div_add_mod ratio (2 ^ 32)
  have fraction : ratio &&& (q32 - 1) = ratio % 2 ^ 32 := Nat.and_two_pow_sub_one_eq_mod ..
  have whole : ((2 ^ 32 * (ratio / 2 ^ 32) + ratio % 2 ^ 32 : Nat) : ℝ) = ratio := by rw [parts]
  rw [Nat.cast_add, Nat.cast_mul, Nat.cast_pow, Nat.cast_ofNat] at whole
  rw [exponent, fraction, Nat.sub_self, Nat.shiftRight_zero, Nat.shiftRight_eq_div_pow, ← whole]
  ring

/-- The computed power of two, against the exact one. -/
theorem exp2NegRatioQ32_near (age : Nat) {halfLife : Nat} (positive : 0 < halfLife) :
    exp2NegRatioQ32 age halfLife ≤ q32 ∧
      |exp2NegRatioQ32 age halfLife - q32 * decay (age / halfLife)| ≤ 82 := by
  obtain ⟨lower, upper⟩ := ratio_near age positive
  have scale : (q32 : ℝ) = 2 ^ 32 := by norm_num [q32]
  rw [exp2NegRatioQ32, if_neg positive.ne']
  dsimp only
  split
  · -- so little is left that nothing is computed
    rename_i old
    have old : 128 * 2 ^ 32 ≤ age <<< 32 / halfLife := by
      rw [Nat.shiftRight_eq_div_pow] at old
      exact (Nat.le_div_iff_mul_le (by decide)).mp old
    have old : (128 : ℝ) ≤ (age <<< 32 / halfLife : Nat) / 2 ^ 32 := by
      rw [le_div_iff₀ (by positivity)]
      exact_mod_cast old
    have little : decay (age / halfLife) ≤ 1 / 2 ^ 128 :=
      (decay_anti (old.trans lower)).trans (decay_nat 128).le
    have positive := decay_pos (age / halfLife)
    refine ⟨Nat.zero_le _, ?_⟩
    rw [scale, abs_le]
    push_cast
    constructor <;> nlinarith
  · have less : (age <<< 32 / halfLife) &&& (q32 - 1) < q32 := Nat.and_lt_two_pow _ (by decide)
    obtain ⟨most, near⟩ := exp2Factors_near ((age <<< 32 / halfLife) >>> 32) _ less (le_refl 32)
    have whole : exp2Factors ((age <<< 32 / halfLife) &&& (q32 - 1))
        (q32 >>> ((age <<< 32 / halfLife) >>> 32)) 32 = exp2NegBinaryQ32.tail.zipIdx.foldl
          (exp2Factor ((age <<< 32 / halfLife) &&& (q32 - 1)))
          (q32 >>> ((age <<< 32 / halfLife) >>> 32)) := rfl
    rw [exponent_all, whole] at near
    refine ⟨most, ?_⟩
    have earlier := decay_anti lower
    have short := one_sub_le_decay (show (0 : ℝ) ≤ 1 / 2 ^ 32 by positivity)
    have later := decay_anti upper
    rw [decay_add] at later
    have some := decay_pos ((age <<< 32 / halfLife : Nat) / 2 ^ 32)
    have all := decay_le_one (show (0 : ℝ) ≤ (age <<< 32 / halfLife : Nat) / 2 ^ 32 by positivity)
    have gap : decay ((age <<< 32 / halfLife : Nat) / 2 ^ 32) - 1 / 2 ^ 32 ≤
        decay (age / halfLife) := by nlinarith
    have near := abs_le.mp near
    rw [scale] at near ⊢
    rw [abs_le]
    constructor <;> norm_num at near gap ⊢ <;> linarith

/-- Nothing that is left is rounded away, since every factor is over a half. -/
theorem exp2Factors_pos (fraction : Nat) {start : Nat} (some : 0 < start) (range : start ≤ q32)
    {bits : Nat} (le : bits ≤ 32) :
    0 < exp2Factors fraction start bits ∧ exp2Factors fraction start bits ≤ q32 := by
  induction bits with
  | zero => exact ⟨some, range⟩
  | succ bits ih =>
    have more : bits < 32 := by omega
    obtain ⟨positive, most⟩ := ih more.le
    have factor := (table_step bits more).2.2.2.2
    have half := table_half bits more
    rw [exp2Factors_succ _ _ more, exp2Factor]
    split
    · refine ⟨?_, mulQ32_le most factor⟩
      rw [mulQ32_eq most factor]
      refine Nat.div_pos ?_ q32_pos
      have product := Nat.le_mul_of_pos_left (exp2NegBinaryQ32.getD (bits + 1) 0) positive
      have : q32 = q32 / 2 + q32 / 2 := by decide
      omega
    · exact ⟨positive, most⟩

theorem exp2NegRatioQ32_pos {age halfLife : Nat} (positive : 0 < halfLife)
    (young : age < 33 * halfLife) : 0 < exp2NegRatioQ32 age halfLife := by
  have integer : (age <<< 32 / halfLife) >>> 32 < 33 := by
    rw [Nat.shiftRight_eq_div_pow, Nat.div_lt_iff_lt_mul (by decide),
      Nat.div_lt_iff_lt_mul positive, Nat.shiftLeft_eq]
    have := Nat.mul_lt_mul_of_pos_right young (show 0 < 2 ^ 32 by decide)
    rw [Nat.mul_right_comm] at this
    exact this
  have start : 0 < q32 >>> ((age <<< 32 / halfLife) >>> 32) := by
    rw [Nat.shiftRight_eq_div_pow]
    exact Nat.div_pos (Nat.pow_le_pow_right (by decide) (by omega)) (Nat.two_pow_pos _)
  rw [exp2NegRatioQ32, if_neg positive.ne']
  dsimp only
  rw [if_neg (by omega)]
  exact (exp2Factors_pos _ start (Nat.shiftRight_le ..) (le_refl 32)).1

/-! ### The weight -/

theorem exp2NegRatioQ32_le (age : Nat) {halfLife : Nat} (positive : 0 < halfLife) :
    exp2NegRatioQ32 age halfLife ≤ q32 := (exp2NegRatioQ32_near age positive).1

theorem recent_near (age : Nat) :
    |(exp2NegRatioQ32 age (72 * 60 * 60 * 1000) : ℝ) -
      q32 * decay (age / (72 * 60 * 60 * 1000))| ≤ 82 := by
  have near := (exp2NegRatioQ32_near age (show 0 < 72 * 60 * 60 * 1000 by decide)).2
  rwa [Nat.cast_mul, Nat.cast_mul, Nat.cast_mul, Nat.cast_ofNat, Nat.cast_ofNat,
    Nat.cast_ofNat] at near

theorem history_near (age : Nat) :
    |(exp2NegRatioQ32 age (24 * 60 * 60 * 1000) : ℝ) -
      q32 * decay (age / (24 * 60 * 60 * 1000))| ≤ 82 := by
  have near := (exp2NegRatioQ32_near age (show 0 < 24 * 60 * 60 * 1000 by decide)).2
  rwa [Nat.cast_mul, Nat.cast_mul, Nat.cast_mul, Nat.cast_ofNat, Nat.cast_ofNat,
    Nat.cast_ofNat] at near

theorem boundary_near :
    |(exp2NegRatioQ32 qualityRecentWindowMs (72 * 60 * 60 * 1000) : ℝ) - q32 * decay (1 / 3)| ≤
      82 := by
  have near := recent_near qualityRecentWindowMs
  have third : (qualityRecentWindowMs : ℝ) / (72 * 60 * 60 * 1000) = 1 / 3 := by
    norm_num [qualityRecentWindowMs]
  rwa [third] at near

theorem days_nonneg (age : Nat) : (0 : ℝ) ≤ age / (24 * 60 * 60 * 1000) :=
  div_nonneg (Nat.cast_nonneg _) (by norm_num)

/-- The weight in units of `2^-32`, against the exact one. -/
theorem weightQ32_near (age : Nat) :
    |(weightQ32 age : ℝ) * 1000000 / q32 - qualityWeight age| ≤ 1 / 25 := by
  have scale : (q32 : ℝ) = 2 ^ 32 := by norm_num [q32]
  have near : |(weightQ32 age : ℝ) - q32 * (qualityWeight age / 1000000)| ≤ 165 := by
    unfold weightQ32 qualityWeight
    split
    · rw [mul_div_cancel_left₀ _ (by norm_num)]
      exact (recent_near age).trans (by norm_num)
    · rw [mul_div_cancel_left₀ _ (by norm_num)]
      have positive := decay_pos ((age - qualityRecentWindowMs : Nat) / (24 * 60 * 60 * 1000))
      have most := decay_le_one (days_nonneg (age - qualityRecentWindowMs))
      exact (mulQ32_near (exp2NegRatioQ32_le _ (by decide)) (exp2NegRatioQ32_le _ (by decide))
        boundary_near (history_near _) positive.le most).trans (by norm_num)
  have near := abs_le.mp near
  rw [scale] at near ⊢
  rw [abs_le]
  constructor <;> norm_num at near ⊢ <;> linarith

/-- The exact weight does not grow with the age. -/
theorem qualityWeight_anti {a b : Nat} (le : a ≤ b) : qualityWeight b ≤ qualityWeight a := by
  have le' : (a : ℝ) ≤ b := by exact_mod_cast le
  unfold qualityWeight
  split
  · rename_i recent
    rw [if_pos (le.trans recent)]
    refine mul_le_mul_of_nonneg_left (decay_anti ?_) (by norm_num)
    exact div_le_div_of_nonneg_right le' (by norm_num)
  · split
    · rename_i recent
      have recent : (a : ℝ) ≤ qualityRecentWindowMs := by exact_mod_cast recent
      have boundary : decay (1 / 3) ≤ decay (a / (72 * 60 * 60 * 1000)) := by
        have third : (a : ℝ) / (72 * 60 * 60 * 1000) ≤ 1 / 3 := by
          rw [div_le_iff₀ (by norm_num)]
          norm_num [qualityRecentWindowMs] at recent ⊢
          exact recent
        exact decay_anti third
      have history := decay_le_one (days_nonneg (b - qualityRecentWindowMs))
      exact mul_le_mul_of_nonneg_left
        ((mul_le_of_le_one_right (decay_pos _).le history).trans boundary) (by norm_num)
    · refine mul_le_mul_of_nonneg_left (mul_le_mul_of_nonneg_left (decay_anti ?_)
        (decay_pos _).le) (by norm_num)
      refine div_le_div_of_nonneg_right ?_ (by norm_num)
      exact_mod_cast Nat.sub_le_sub_right le _

theorem qualityWeight_pos (age : Nat) : 0 < qualityWeight age := by
  unfold qualityWeight
  split
  · exact mul_pos (by norm_num) (decay_pos _)
  · exact mul_pos (by norm_num) (mul_pos (decay_pos _) (decay_pos _))

/-- The age that counts: none is negative. -/
def countedAge (ageMs : Int64) : Nat := (max ageMs.toInt 0).toNat

theorem qualityWeightFixed_cases (ageMs : Int64) :
    (weightQ32 (countedAge ageMs) = 0 ∧ qualityWeightFixed ageMs = 0) ∨
    0 < weightQ32 (countedAge ageMs) ∧ qualityWeightFixed ageMs =
      min (max (halfUp (weightQ32 (countedAge ageMs) * 1000000) q32) 1) 1000000 := by
  have quantized : (weightQ32 (countedAge ageMs) * qualityWeightScale + 2 ^ 31) >>> 32 =
      halfUp (weightQ32 (countedAge ageMs) * 1000000) q32 := Nat.shiftRight_eq_div_pow ..
  rcases Nat.eq_zero_or_pos (weightQ32 (countedAge ageMs)) with none | some
  · exact .inl ⟨none, if_pos none⟩
  · exact .inr ⟨some, (if_neg some.ne').trans (by rw [← quantized]; rfl)⟩

/-- The weight is at most a unit off. -/
theorem qualityWeightFixed_error (ageMs : Int64) :
    |(qualityWeightFixed ageMs : ℝ) - qualityWeight (countedAge ageMs)| ≤ 1 := by
  have near := abs_le.mp (weightQ32_near (countedAge ageMs))
  have some := qualityWeight_pos (countedAge ageMs)
  have most : qualityWeight (countedAge ageMs) ≤ 1000000 := by
    have := qualityWeight_anti (Nat.zero_le (countedAge ageMs))
    refine this.trans ?_
    rw [qualityWeight, if_pos (Nat.zero_le _), Nat.cast_zero, zero_div, decay_zero, mul_one]
  rw [abs_le]
  rcases qualityWeightFixed_cases ageMs with ⟨none, zero⟩ | ⟨positive, weight⟩
  · rw [none] at near
    rw [zero]
    norm_num at near ⊢
    constructor <;> linarith
  · have rounded := abs_le.mp (halfUp_near (K := ℝ) (weightQ32 (countedAge ageMs) * 1000000) q32_pos)
    rw [Nat.cast_mul, Nat.cast_ofNat] at rounded
    rw [weight]
    rcases Nat.lt_or_ge (halfUp (weightQ32 (countedAge ageMs) * 1000000) q32) 1 with little | enough
    · have zero : halfUp (weightQ32 (countedAge ageMs) * 1000000) q32 = 0 := by omega
      rw [zero] at rounded ⊢
      norm_num at rounded ⊢
      constructor <;> linarith
    · rw [Nat.max_eq_left enough]
      rcases Nat.le_total (halfUp (weightQ32 (countedAge ageMs) * 1000000) q32) 1000000 with
        within | above
      · rw [Nat.min_eq_left within]
        constructor <;> linarith
      · rw [Nat.min_eq_right above]
        have above : (1000000 : ℝ) ≤ halfUp (weightQ32 (countedAge ageMs) * 1000000) q32 := by
          exact_mod_cast above
        push_cast
        constructor <;> linarith

/-- An older weight is at most a unit more. -/
theorem qualityWeightFixed_le_succ {a b : Int64} (le : a ≤ b) :
    qualityWeightFixed b ≤ qualityWeightFixed a + 1 := by
  have ages : countedAge a ≤ countedAge b := by
    have := Int64.le_iff_toInt_le.mp le
    unfold countedAge
    omega
  have scale : (q32 : ℝ) = 2 ^ 32 := by norm_num [q32]
  have older := qualityWeight_anti ages
  have nearA := abs_le.mp (weightQ32_near (countedAge a))
  have nearB := abs_le.mp (weightQ32_near (countedAge b))
  have close : weightQ32 (countedAge b) * 1000000 ≤ weightQ32 (countedAge a) * 1000000 + q32 := by
    have : (weightQ32 (countedAge b) : ℝ) * 1000000 ≤
        weightQ32 (countedAge a) * 1000000 + q32 := by
      rw [scale] at nearA nearB ⊢
      norm_num at nearA nearB ⊢
      linarith
    exact_mod_cast this
  have rounded : halfUp (weightQ32 (countedAge b) * 1000000) q32 ≤
      halfUp (weightQ32 (countedAge a) * 1000000) q32 + 1 := by
    rw [halfUp, halfUp, ← Nat.add_div_right _ q32_pos, Nat.add_right_comm]
    exact Nat.div_le_div_right (Nat.add_le_add_right close _)
  rcases qualityWeightFixed_cases b with ⟨-, zero⟩ | ⟨-, weight⟩
  · rw [zero]
    exact Nat.zero_le _
  rw [weight]
  rcases qualityWeightFixed_cases a with ⟨none, zero'⟩ | ⟨-, weight'⟩
  · have little : halfUp (weightQ32 (countedAge a) * 1000000) q32 = 0 := by
      rw [none, Nat.zero_mul]
      exact Nat.div_eq_of_lt (by decide)
    rw [little] at rounded
    rw [zero']
    exact (Nat.min_le_left _ _).trans (Nat.max_le.mpr ⟨rounded, le_refl 1⟩)
  · rw [weight', ← Nat.add_min_add_right]
    exact le_min ((Nat.min_le_left _ _).trans (Nat.max_le.mpr ⟨rounded.trans
      (Nat.add_le_add_right (Nat.le_max_left _ _) 1), Nat.le_add_left _ _⟩))
      ((Nat.min_le_right _ _).trans (Nat.le_succ _))

theorem boundary_half : q32 / 2 ≤ exp2NegRatioQ32 qualityRecentWindowMs (72 * 60 * 60 * 1000) := by
  have boundary : exp2NegRatioQ32 qualityRecentWindowMs (72 * 60 * 60 * 1000) = 3408917802 := by
    decide +kernel
  rw [boundary]
  decide

/-- A product with more than a half is not rounded away. -/
theorem mulQ32_pos {left right : Nat} (half : q32 / 2 ≤ left) (le : left ≤ q32)
    (some : 0 < right) (le' : right ≤ q32) : 0 < mulQ32 left right := by
  rw [mulQ32_eq le le']
  refine Nat.div_pos ?_ q32_pos
  calc q32 = q32 / 2 + q32 / 2 := by decide
    _ ≤ left + q32 / 2 := Nat.add_le_add_right half _
    _ ≤ left * right + q32 / 2 := Nat.add_le_add_right (Nat.le_mul_of_pos_right _ some) _

theorem weightQ32_pos {age : Nat} (inside : age ≤ qualityHistoryWindowMs) : 0 < weightQ32 age := by
  unfold weightQ32
  split
  · rename_i recent
    have young : qualityRecentWindowMs < 33 * (72 * 60 * 60 * 1000) := by decide
    exact exp2NegRatioQ32_pos (by decide) (recent.trans_lt young)
  · have young : qualityHistoryWindowMs - qualityRecentWindowMs < 33 * (24 * 60 * 60 * 1000) := by
      decide
    have history : 0 < exp2NegRatioQ32 (age - qualityRecentWindowMs) (24 * 60 * 60 * 1000) :=
      exp2NegRatioQ32_pos (by decide) ((Nat.sub_le_sub_right inside _).trans_lt young)
    exact mulQ32_pos boundary_half (exp2NegRatioQ32_le _ (by decide)) history
      (exp2NegRatioQ32_le _ (by decide))

/-- No age inside the history window is weightless. -/
theorem qualityWeightFixed_pos {ageMs : Int64} (inside : ageMs.toInt ≤ qualityHistoryWindowMs) :
    1 ≤ qualityWeightFixed ageMs := by
  have age : countedAge ageMs ≤ qualityHistoryWindowMs :=
    Int.toNat_le.mpr (max_le inside (Int.natCast_nonneg _))
  rcases qualityWeightFixed_cases ageMs with ⟨none, -⟩ | ⟨-, weight⟩
  · exact absurd none (weightQ32_pos age).ne'
  · rw [weight]
    exact le_min (Nat.le_max_right _ _) (by decide)

theorem qualityWeightFixed_le (ageMs : Int64) : qualityWeightFixed ageMs ≤ 1000000 := by
  rcases qualityWeightFixed_cases ageMs with ⟨-, zero⟩ | ⟨-, weight⟩
  · rw [zero]
    exact Nat.zero_le _
  · rw [weight]
    exact Nat.min_le_right _ _

/-- The weight stays in its range, has something left throughout the history window, is
within a unit of the exact weight, and an older one is at most a unit more. -/
theorem qualityWeightFixed_near (a : Int64) :
    qualityWeightFixed a ≤ 1000000 ∧
      (a.toInt ≤ qualityHistoryWindowMs → 1 ≤ qualityWeightFixed a) ∧
      |(qualityWeightFixed a : ℝ) - qualityWeight (countedAge a)| ≤ 1 ∧
      ∀ b, a ≤ b → qualityWeightFixed b ≤ qualityWeightFixed a + 1 :=
  ⟨qualityWeightFixed_le a, qualityWeightFixed_pos, qualityWeightFixed_error a,
    fun _ le => qualityWeightFixed_le_succ le⟩

/-- A day, and a day and an hour. -/
theorem qualityWeightFixed_near_day :
    1 ≤ qualityWeightFixed 86400000 ∧
      qualityWeightFixed 90000000 ≤ qualityWeightFixed 86400000 + 1 := by
  obtain ⟨-, some, -, older⟩ := qualityWeightFixed_near 86400000
  exact ⟨some (by decide), older 90000000 (by decide)⟩

/-- One millisecond more of age, and a unit more of weight. -/
theorem qualityWeightFixed_rises :
    ¬ ∀ a b : Int64, a ≤ b → qualityWeightFixed b ≤ qualityWeightFixed a := by
  intro anti
  have newer : qualityWeightFixed 489490356 = 31277 := by decide +kernel
  have older : qualityWeightFixed 489490357 = 31278 := by decide +kernel
  have le := anti 489490356 489490357 (by decide)
  rw [newer, older] at le
  exact absurd le (by decide)

end RelayPool.Quality
