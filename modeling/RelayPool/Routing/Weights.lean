import Mathlib.Algebra.Order.Floor.Semifield
import Mathlib.Data.Finset.Max
import Mathlib.Data.Rat.Floor
import Mathlib.Tactic.IntervalCases
import Mathlib.Tactic.Ring
import RelayPool.Routing.Score

/-! The weights of the factors that have evidence, and the score they are shown with.

Any weights of 16 bits are scaled to 10000 without an error, whatever factors are
missing: each share is its exact value rounded down or up, and a larger weight has no
smaller share (`normalizedAvailableWeights_apportions`). The units left over are fewer
than the shares that rounding cut (`awarded_cut`). A candidate's utility is rounded
once from the configured weights, its contributions each from the scaled ones; they
differ by three hundredths of a percent at most (`contributions_near_total`), since the
scaled weights are off by no more than one unit on either side (`above_le`). -/
namespace RelayPool.Routing

/-! ### The units left over -/

section Shares
variable {configured : Factor → Nat} {available : Factor → Bool} {awarded : List Factor}

/-- What rounding down cuts off a share, in units of the sum of the weights. -/
def cut (configured : Factor → Nat) (available : Factor → Bool) (i : Factor) : Nat :=
  configured i * 10000 % availableSum available configured

/-- The shares that stay rounded down. -/
def unawarded (configured : Factor → Nat) (available : Factor → Bool) (awarded : List Factor) :
    List Factor := (shares configured available).filter (· ∉ awarded)

theorem mem_unawarded {i : Factor} : i ∈ unawarded configured available awarded ↔
    i ∈ shares configured available ∧ i ∉ awarded := by
  simp [unawarded]

theorem unawarded_nodup : (unawarded configured available awarded).Nodup :=
  (shares_nodup configured available).filter _

/-- An award of the units that rounding down left over. -/
abbrev Settles (configured : Factor → Nat) (available : Factor → Bool) (awarded : List Factor) :
    Prop :=
  Awards (cut configured available) (shares configured available) (leftover configured available)
    awarded

theorem awarded_perm (awards : Settles configured available awarded) :
    (awarded ++ unawarded configured available awarded).Perm (shares configured available) := by
  refine (List.perm_ext_iff_of_nodup (List.nodup_append.mpr ⟨awards.once, unawarded_nodup, ?_⟩)
    (shares_nodup ..)).mpr fun i => ?_
  · rintro i hi j hj rfl
    exact (mem_unawarded.mp hj).2 hi
  · rw [List.mem_append, mem_unawarded]
    constructor
    · rintro (hi | ⟨hi, -⟩)
      · exact awards.among hi
      · exact hi
    · intro hi
      by_cases mem : i ∈ awarded
      · exact .inl mem
      · exact .inr ⟨hi, mem⟩

/-- The units left over are what was cut off, of awarded and other shares. -/
theorem leftover_eq (positive : 0 < availableSum available configured)
    (awards : Settles configured available awarded) :
    availableSum available configured * awarded.length =
      (awarded.map (cut configured available)).sum +
        ((unawarded configured available awarded).map (cut configured available)).sum := by
  have division := quotients_add_remainders configured (availableSum available configured)
    (shares configured available)
  have parts := ((awarded_perm awards).map (cut configured available)).sum_eq
  rw [List.map_append, List.sum_append] at parts
  rw [sum_shares] at division
  have allocated := (units_le_shares configured available positive).1
  have cuts : ((shares configured available).map fun i =>
      configured i * 10000 % availableSum available configured).sum =
        ((shares configured available).map (cut configured available)).sum := rfl
  rw [awards.all, leftover, Nat.mul_sub, parts, ← cuts]
  omega

theorem cut_lt (positive : 0 < availableSum available configured) (i : Factor) :
    cut configured available i < availableSum available configured := Nat.mod_lt _ positive

theorem sum_map_le {f : Factor → Nat} {l : List Factor} {bound : Nat} (le : ∀ i ∈ l, f i ≤ bound) :
    (l.map f).sum ≤ l.length * bound := by
  simpa using (l.map f).sum_le_card_nsmul bound (by simpa using le)

/-- Only a share that was cut gets a unit. -/
theorem awarded_cut (positive : 0 < availableSum available configured)
    (awards : Settles configured available awarded) {i : Factor} (hi : i ∈ awarded) :
    0 < cut configured available i := by
  by_contra whole
  -- then all that was cut off is in the other awarded shares, and less than a unit of each
  have rest : ((unawarded configured available awarded).map (cut configured available)).sum ≤
      (unawarded configured available awarded).length * 0 := sum_map_le fun j hj => by
    obtain ⟨mem, out⟩ := mem_unawarded.mp hj
    have := awards.largest i hi j mem out
    omega
  have others : ((awarded.erase i).map (cut configured available)).sum ≤
      (awarded.erase i).length * availableSum available configured :=
    sum_map_le fun j _ => (cut_lt positive j).le
  have all := ((List.perm_cons_erase hi).map (cut configured available)).sum_eq
  rw [List.map_cons, List.sum_cons] at all
  have units := leftover_eq positive awards
  have fewer := List.length_erase_of_mem hi
  have one := List.length_pos_of_mem hi
  have product : availableSum available configured * awarded.length =
      (awarded.erase i).length * availableSum available configured +
        availableSum available configured := by
    rw [fewer, Nat.mul_comm, ← Nat.succ_mul, Nat.succ_eq_add_one, Nat.sub_add_cancel one]
  omega

end Shares

/-! ### Shares of any weights -/

theorem ceil_share {a b : Nat} (positive : 0 < b) (inexact : 0 < a % b) :
    ⌈(a : ℚ) / b⌉₊ = a / b + 1 := by
  have division := Nat.div_add_mod a b
  have less := Nat.mod_lt a positive
  have denominator : (0 : ℚ) < b := by exact_mod_cast positive
  have below : b * (a / b) < a := by omega
  have above : a ≤ b * (a / b + 1) := by
    rw [Nat.mul_add]
    omega
  rw [Nat.ceil_eq_iff (Nat.succ_ne_zero _), Nat.succ_sub_one, lt_div_iff₀ denominator,
    div_le_iff₀ denominator, mul_comm, mul_comm ((Nat.succ (a / b) : Nat) : ℚ)]
  exact ⟨by exact_mod_cast below, by exact_mod_cast above⟩

/-- Whatever the four weights and whichever factors are missing, the available weights
share 10000 without an error: the missing factors and those without weight get nothing,
every other one its exact share rounded down or up, and the larger weight not less. -/
theorem normalizedAvailableWeights_apportions (configured : Factor → UInt16)
    (available : Factor → Bool) :
    let weight := fun i => (configured i).toNat
    let exact := fun i => (10000 * weight i : ℚ) / availableSum available weight
    ∃ effective, normalizedAvailableWeights weight available = some effective ∧
      ((∃ i, available i = true ∧ 0 < configured i) → (Factor.all.map effective).sum = 10000) ∧
      (∀ i, available i = false ∨ configured i = 0 → effective i = 0) ∧
      (∀ i, available i = true → 0 < configured i →
        effective i = ⌊exact i⌋₊ ∨ effective i = ⌈exact i⌉₊) ∧
      (∀ i j, available j = true → configured i < configured j → effective i ≤ effective j) := by
  intro weight exact
  have member {i : Factor} (here : available i = true) (weighs : 0 < configured i) :
      i ∈ shares weight available := by
    have weighs : 0 < (configured i).toNat := UInt16.lt_iff_toNat_lt.mp weighs
    exact mem_shares.mpr ⟨here, weighs.ne'⟩
  rcases normalizedAvailableWeights_spec weight available
    (fun i => (configured i).toNat_lt) with ⟨nothing, done⟩ | ⟨positive, awarded, awards, done⟩
  · -- no available factor has a weight
    have absent {i : Factor} (here : available i = true) : ¬ 0 < configured i := fun weighs => by
      have le := shares_le weight (member here weighs)
      have weighs : 0 < (configured i).toNat := UInt16.lt_iff_toNat_lt.mp weighs
      exact absurd (le.trans nothing.le) (Nat.not_le.mpr weighs)
    exact ⟨_, done, fun ⟨i, here, weighs⟩ => absurd weighs (absent here), fun _ _ => rfl,
      fun i here weighs => absurd weighs (absent here), fun _ _ _ _ => Nat.le_refl _⟩
  have numerator (i : Factor) : exact i =
      ((configured i).toNat * 10000 : Nat) / (availableSum available weight : ℚ) := by
    show (10000 * ((configured i).toNat : ℚ)) / _ = _
    rw [Nat.cast_mul, mul_comm, Nat.cast_ofNat]
  have outside {i : Factor} (out : i ∉ shares weight available) :
      apportioned weight available awarded i = 0 := by
    rw [apportioned, if_neg out, if_neg fun mem => out (awards.among mem)]
  refine ⟨_, done, fun _ => sum_apportioned positive awards, ?_, ?_, ?_⟩
  · intro i missing
    refine outside fun mem => ?_
    obtain ⟨here, weighs⟩ := mem_shares.mp mem
    rcases missing with away | zero
    · rw [here] at away
      cases away
    · exact weighs (congrArg UInt16.toNat zero)
  · intro i here weighs
    rw [numerator, Nat.floor_div_eq_div, apportioned, if_pos (member here weighs)]
    by_cases mem : i ∈ awarded
    · rw [ceil_share positive (awarded_cut positive awards mem), if_pos mem]
      exact .inr rfl
    · rw [if_neg mem]
      exact .inl rfl
  · intro i j here less
    have less : (configured i).toNat < (configured j).toNat := UInt16.lt_iff_toNat_lt.mp less
    have mem : j ∈ shares weight available := mem_shares.mpr ⟨here, by
      show (configured j).toNat ≠ 0
      omega⟩
    by_cases own : i ∈ shares weight available
    · have division (i : Factor) : availableSum available weight *
          (weight i * 10000 / availableSum available weight) + cut weight available i =
            weight i * 10000 := Nat.div_add_mod ..
      have quotients : weight i * 10000 / availableSum available weight ≤
          weight j * 10000 / availableSum available weight :=
        Nat.div_le_div_right (Nat.mul_le_mul_right _ less.le)
      rw [apportioned, apportioned, if_pos own, if_pos mem]
      rcases quotients.lt_or_eq with lower | level
      · split <;> omega
      · -- equal quotients leave the larger weight more cut off
        have more : cut weight available i < cut weight available j := by
          have first := division i
          have second := division j
          rw [← level] at second
          have : weight i < weight j := less
          omega
        by_cases first : i ∈ awarded
        · have second : j ∈ awarded := by
            by_contra out
            exact absurd (awards.largest i first j mem out) (Nat.not_le.mpr more)
          rw [if_pos first, if_pos second]
          omega
        · rw [if_neg first]
          omega
    · rw [outside own]
      exact Nat.zero_le _

/-! ### The scaled weights against the configured ones -/

section Deviation
variable {configured : Factor → Nat} {available : Factor → Bool} {awarded : List Factor}

/-- What a unit adds to a share above its exact value. -/
def above (configured : Factor → Nat) (available : Factor → Bool) (i : Factor) : Nat :=
  availableSum available configured - cut configured available i

/-- The shares are above their exact values by as much as they are below. -/
theorem sum_above (positive : 0 < availableSum available configured)
    (awards : Settles configured available awarded) :
    (awarded.map (above configured available)).sum =
      ((unawarded configured available awarded).map (cut configured available)).sum := by
  have units := leftover_eq positive awards
  have split : ∀ l : List Factor, (l.map (above configured available)).sum +
      (l.map (cut configured available)).sum =
        availableSum available configured * l.length := by
    intro l
    induction l with
    | nil => rfl
    | cons i l ih =>
      have less := cut_lt positive i
      simp only [List.map_cons, List.sum_cons, List.length_cons, Nat.mul_add, above] at ih ⊢
      omega
  have := split awarded
  omega

theorem le_add_of_parts {k n up down sum : Nat} (few : k + n ≤ 4) (one : 0 < k)
    (ups : sum ≤ k * up) (downs : sum ≤ n * down) : sum ≤ up + down := by
  have product : k * n ≤ k + n := by
    have : k ≤ 4 := by omega
    interval_cases k <;> omega
  refine Nat.le_of_mul_le_mul_left ?_ (show 0 < k + n by omega)
  calc (k + n) * sum = n * sum + k * sum := by ring
    _ ≤ n * (k * up) + k * (n * down) :=
      Nat.add_le_add (Nat.mul_le_mul_left n ups) (Nat.mul_le_mul_left k downs)
    _ = k * n * (up + down) := by ring
    _ ≤ (k + n) * (up + down) := Nat.mul_le_mul_right _ product

/-- Four shares are at most one unit above their exact values, taken together. -/
theorem above_le (positive : 0 < availableSum available configured)
    (awards : Settles configured available awarded) :
    (awarded.map (above configured available)).sum ≤ availableSum available configured := by
  cases awarded with
  | nil => exact Nat.zero_le _
  | cons first rest =>
    -- with a smallest award `m`, each of the awarded is above by `W - m` at most, and each of
    -- the others below by `m` at most
    obtain ⟨i, hi, least⟩ := (first :: rest).toFinset.exists_min_image (cut configured available)
      ⟨first, by simp⟩
    have hi := List.mem_toFinset.mp hi
    have ups : ((first :: rest).map (above configured available)).sum ≤
        (first :: rest).length * above configured available i := sum_map_le fun j hj =>
      Nat.sub_le_sub_left (least j (List.mem_toFinset.mpr hj)) _
    have downs : ((unawarded configured available (first :: rest)).map
        (cut configured available)).sum ≤
          (unawarded configured available (first :: rest)).length * cut configured available i :=
      sum_map_le fun j hj => by
        obtain ⟨mem, out⟩ := mem_unawarded.mp hj
        exact awards.largest i hi j mem out
    have balance := sum_above positive awards
    have few := (awarded_perm awards).length_eq.trans_le (List.length_filter_le ..)
    have whole : above configured available i + cut configured available i =
        availableSum available configured := Nat.sub_add_cancel (cut_lt positive i).le
    rw [← balance] at downs
    rw [List.length_append] at few
    rw [← whole]
    exact le_add_of_parts few (Nat.succ_pos _) ups downs

/-- Each share against its exact value. -/
theorem apportioned_mul (positive : 0 < availableSum available configured)
    (awards : Settles configured available awarded) (i : Factor) :
    availableSum available configured * apportioned configured available awarded i +
        (if i ∈ unawarded configured available awarded then cut configured available i else 0) =
      10000 * (if i ∈ shares configured available then configured i else 0) +
        if i ∈ awarded then above configured available i else 0 := by
  have division : availableSum available configured *
      (configured i * 10000 / availableSum available configured) + cut configured available i =
        configured i * 10000 := Nat.div_add_mod ..
  have whole : above configured available i + cut configured available i =
      availableSum available configured := Nat.sub_add_cancel (cut_lt positive i).le
  unfold apportioned
  by_cases own : i ∈ shares configured available
  · by_cases mem : i ∈ awarded
    · rw [if_pos own, if_pos own, if_pos mem, if_pos mem,
        if_neg fun h => (mem_unawarded.mp h).2 mem, Nat.mul_add, Nat.mul_one]
      omega
    · rw [if_pos own, if_pos own, if_neg mem, if_neg mem, if_pos (mem_unawarded.mpr ⟨own, mem⟩),
        Nat.mul_add, Nat.mul_zero]
      omega
  · have out : i ∉ awarded := fun h => own (awards.among h)
    rw [if_neg own, if_neg own, if_neg out, if_neg out,
      if_neg fun h => own (mem_unawarded.mp h).1, Nat.mul_zero, Nat.mul_zero]

/-- The shares of scores against their exact values. -/
theorem weighted_apportioned (positive : 0 < availableSum available configured)
    (awards : Settles configured available awarded) (score : Factor → Nat) :
    availableSum available configured *
          (Factor.all.map fun i => apportioned configured available awarded i * score i).sum +
        ((unawarded configured available awarded).map fun i =>
          cut configured available i * score i).sum =
      10000 * availableSum available (fun i => score i * configured i) +
        (awarded.map fun i => above configured available i * score i).sum := by
  have products := sum_map_shares configured available
    (f := fun i => score i * configured i) fun i zero => by simp [zero]
  rw [← products, ← sum_map_mem _ unawarded_nodup,
    ← sum_map_mem (fun i => score i * configured i) (shares_nodup ..),
    ← sum_map_mem _ awards.once, ← List.sum_map_mul_left, ← List.sum_map_mul_left,
    ← List.sum_map_add, ← List.sum_map_add]
  congr 1
  refine List.map_congr_left fun i _ => ?_
  have each := congrArg (· * score i) (apportioned_mul positive awards i)
  simp only [Nat.add_mul, ite_mul, Nat.zero_mul, Nat.mul_assoc] at each
  rw [each, mul_ite, mul_ite, Nat.mul_comm (configured i)]

/-- Scores of the scale under the shares and under the exact weights, `10000 * 10000`
for each unit of the scale. -/
theorem weighted_near (positive : 0 < availableSum available configured)
    (awards : Settles configured available awarded) {score : Factor → Nat}
    (scale : ∀ i, score i ≤ 10000) :
    let shared := availableSum available configured *
      (Factor.all.map fun i => apportioned configured available awarded i * score i).sum
    let exact := 10000 * availableSum available (fun i => score i * configured i)
    shared ≤ exact + 10000 * availableSum available configured ∧
      exact ≤ shared + 10000 * availableSum available configured := by
  intro shared exact
  have same : shared + _ = exact + _ := weighted_apportioned positive awards score
  have most (f : Factor → Nat) (l : List Factor) :
      (l.map fun i => f i * score i).sum ≤ 10000 * (l.map f).sum := by
    rw [← List.sum_map_mul_left]
    exact List.sum_le_sum fun i _ => by
      rw [Nat.mul_comm 10000]
      exact Nat.mul_le_mul_left _ (scale i)
  have ups := most (above configured available) awarded
  have downs := most (cut configured available) (unawarded configured available awarded)
  have bound := above_le positive awards
  rw [← sum_above positive awards] at downs
  omega

end Deviation

/-! ### The score -/

theorem foldlM_checkedAdd64_some {f : Factor → Nat} {l : List Factor} {start n : Nat}
    (done : l.foldlM (fun sum i => checkedAdd64 sum (f i)) start = some n) :
    n = start + (l.map f).sum := by
  induction l generalizing start with
  | nil => exact (Option.some.inj done).symm
  | cons i l ih =>
    rw [List.foldlM_cons] at done
    obtain ⟨sum, added, done⟩ := Option.bind_eq_some_iff.mp done
    unfold checkedAdd64 at added
    split at added
    · cases added
      rw [ih done, List.map_cons, List.sum_cons, Nat.add_assoc]
    · cases added

theorem checkedSum_some {available : Factor → Bool} {f : Factor → Nat} {n : Nat}
    (done : checkedSum available f = some n) : n = availableSum available f := by
  rw [foldlM_checkedAdd64_some done, Nat.zero_add]
  rfl

/-- The rounded mean of the available factors. -/
def meanScore (c : CandidateSnapshot) (policy : RoutingPolicyConfigV2) (cost : Option BasisPoints) :
    Nat :=
  let weights := availableSum (Factor.available c cost) (Factor.weight policy)
  min ((availableSum (Factor.available c cost)
    (fun i => Factor.score c cost i * Factor.weight policy i) + weights / 2) / weights) 10000

theorem score_total {c : CandidateSnapshot} {policy : RoutingPolicyConfigV2}
    {override : Option Nat} {reference : Option Binary64} {score : ScoreComponents}
    (done : weightedScoreComponents c policy override reference = some score) :
    score.total.get = meanScore c policy (costScore (override.or (costBasis c reference))) := by
  unfold weightedScoreComponents at done
  generalize costScore (override.or (costBasis c reference)) = cost at done ⊢
  simp only [Option.bind_eq_bind, Option.pure_def, Option.bind_eq_some_iff] at done
  obtain ⟨effective, -, weights, weightsSum, done⟩ := done
  rw [checkedSum_some weightsSum] at done
  split at done
  · rename_i zero
    cases done
    simp [meanScore, zero, BasisPoints.zero]
  · simp only [Option.bind_eq_some_iff] at done
    obtain ⟨numerator, sum, rounded, added, total, made, done⟩ := done
    cases done
    unfold checkedAdd64 at added
    split at added
    · cases added
      rw [checkedSum_some sum, BasisPoints.new_of_le (Nat.min_le_right ..)] at made
      cases made
      rfl
    · cases added

theorem score_contributions {c : CandidateSnapshot} {policy : RoutingPolicyConfigV2}
    {override : Option Nat} {reference : Option Binary64} {score : ScoreComponents}
    (done : weightedScoreComponents c policy override reference = some score) :
    let cost := costScore (override.or (costBasis c reference))
    ∃ effective, normalizedAvailableWeights (Factor.weight policy) (Factor.available c cost) =
        some effective ∧
      score.contributions =
        Factor.all.map fun i => contribution (effective i) (Factor.score c cost i) := by
  unfold weightedScoreComponents at done
  generalize costScore (override.or (costBasis c reference)) = cost at done ⊢
  simp only [Option.bind_eq_bind, Option.pure_def, Option.bind_eq_some_iff] at done
  obtain ⟨effective, shared, weights, -, done⟩ := done
  refine ⟨effective, shared, ?_⟩
  split at done
  · cases done
    rfl
  · simp only [Option.bind_eq_some_iff] at done
    obtain ⟨numerator, -, rounded, -, total, -, done⟩ := done
    cases done
    rfl

/-- A contribution is the rounded product, at most the weight. -/
theorem contribution_get {weight score : Nat} (weightLe : weight ≤ 10000) (scoreLe : score ≤ 10000) :
    (contribution weight score).weight.get = weight ∧
      (contribution weight score).contribution.get = (weight * score + 5000) / 10000 ∧
      (contribution weight score).contribution.get ≤ weight := by
  have product : weight * score ≤ weight * 10000 := Nat.mul_le_mul_left _ scoreLe
  have inRange : (weight * score + 5000) / 10000 ≤ weight := by omega
  have capped : min ((weight * score + 5000) / 10000) 10000 = (weight * score + 5000) / 10000 :=
    Nat.min_eq_left (inRange.trans weightLe)
  have value : (contribution weight score).contribution.get = (weight * score + 5000) / 10000 := by
    simp only [contribution, expectBasisPoints, BasisPoints.new_of_le weightLe,
      BasisPoints.new_of_le scoreLe, Option.getD_some, capped,
      BasisPoints.new_of_le (inRange.trans weightLe)]
  refine ⟨?_, value, value.trans_le inRange⟩
  simp only [contribution, expectBasisPoints, BasisPoints.new_of_le weightLe, Option.getD_some]

/-- Four products rounded one by one. -/
theorem sum_rounded (f : Factor → Nat) :
    let rounded := (Factor.all.map fun i => (f i + 5000) / 10000).sum
    10000 * rounded ≤ (Factor.all.map f).sum + 20000 ∧
      (Factor.all.map f).sum < 10000 * rounded + 20000 := by
  simp only [Factor.all, List.map_cons, List.map_nil, List.sum_cons, List.sum_nil]
  omega

/-- A mean rounded once, against a sum that is near it and rounded in four parts. -/
theorem rounded_near {weights products total shared parts : Nat} (positive : 0 < weights)
    (mean : total = (products + weights / 2) / weights)
    (near : weights * shared ≤ 10000 * products + 10000 * weights ∧
      10000 * products ≤ weights * shared + 10000 * weights)
    (rounded : 10000 * parts ≤ shared + 20000 ∧ shared < 10000 * parts + 20000) :
    parts ≤ total + 3 ∧ total ≤ parts + 3 := by
  have division := Nat.div_add_mod (products + weights / 2) weights
  have less := Nat.mod_lt (products + weights / 2) positive
  rw [← mean] at division
  have upper := Nat.mul_le_mul_left weights rounded.1
  have lower := Nat.mul_le_mul_left weights rounded.2.le
  rw [Nat.mul_add] at upper lower
  rw [Nat.mul_left_comm] at upper lower
  constructor
  · by_contra more
    have := Nat.mul_le_mul_left weights (show total + 4 ≤ parts by omega)
    rw [Nat.mul_add] at this
    omega
  · by_contra more
    have := Nat.mul_le_mul_left weights (show parts + 4 ≤ total by omega)
    rw [Nat.mul_add] at this
    omega

/-- Under a valid policy, a valid candidate's contributions add up to its utility but for
three hundredths of a percent, and none is more than the weight it is shown with. -/
theorem contributions_near_total (c : CandidateSnapshot) (policy : RoutingPolicyConfigV2)
    (validPolicy : policy.validate = .ok ()) (valid : c.invalid = false) (override : Option Nat)
    (reference : Option Binary64) :
    ∃ score effective, weightedScoreComponents c policy override reference = some score ∧
      normalizedAvailableWeights (Factor.weight policy)
        (Factor.available c (costScore (override.or (costBasis c reference)))) = some effective ∧
      score.contributions.map (·.weight.get) = Factor.all.map effective ∧
      (∀ factor ∈ score.contributions, factor.contribution.get ≤ factor.weight.get) ∧
      (score.contributions.map (·.contribution.get)).sum ≤ score.total.get + 3 ∧
      score.total.get ≤ (score.contributions.map (·.contribution.get)).sum + 3 ∧
      score.total.get ≤ 10000 := by
  obtain ⟨score, done⟩ := weightedScoreComponents_isSome validPolicy valid override reference
  obtain ⟨effective, shared, contributions⟩ := score_contributions done
  have total := score_total done
  generalize costScore (override.or (costBasis c reference)) = cost at shared contributions total
  have sum := weights_sum validPolicy
  obtain ⟨effective', shared', range⟩ := normalizedAvailableWeights_isSome (Factor.weight policy)
    (Factor.available c cost) sum.le
  rw [shared] at shared'
  cases shared'
  have each (i : Factor) := contribution_get (range i) (score_le valid cost i)
  have parts : (score.contributions.map (·.contribution.get)).sum =
      (Factor.all.map fun i => (effective i * Factor.score c cost i + 5000) / 10000).sum := by
    rw [contributions, List.map_map]
    exact congrArg List.sum (List.map_congr_left fun i _ => (each i).2.1)
  have near : (score.contributions.map (·.contribution.get)).sum ≤ score.total.get + 3 ∧
      score.total.get ≤ (score.contributions.map (·.contribution.get)).sum + 3 := by
    rw [parts, total]
    have rounded := sum_rounded fun i => effective i * Factor.score c cost i
    rcases normalizedAvailableWeights_spec (Factor.weight policy) (Factor.available c cost)
        (fun i => by
          have := List.le_sum_of_mem (List.mem_map_of_mem (f := Factor.weight policy) (mem_all i))
          omega) with ⟨zero, done⟩ | ⟨positive, awarded, awards, done⟩
    · rw [shared] at done
      cases done
      simp [meanScore, zero, Factor.all]
    · rw [shared] at done
      cases done
      have near := weighted_near positive awards (score_le valid cost)
      refine rounded_near positive ?_ near rounded
      have most : availableSum (Factor.available c cost)
          (fun i => Factor.score c cost i * Factor.weight policy i) ≤
            10000 * availableSum (Factor.available c cost) (Factor.weight policy) := by
        unfold availableSum
        rw [← List.sum_map_mul_left]
        exact List.sum_le_sum fun i _ => Nat.mul_le_mul_right _ (score_le valid cost i)
      refine Nat.min_eq_left (Nat.lt_succ_iff.mp (Nat.div_lt_of_lt_mul ?_))
      rw [Nat.succ_eq_add_one, Nat.mul_add]
      omega
  refine ⟨score, effective, done, shared, ?_, ?_, near.1, near.2, score.total.le⟩
  · rw [contributions, List.map_map]
    exact List.map_congr_left fun i _ => (each i).1
  · intro factor mem
    rw [contributions] at mem
    obtain ⟨i, -, rfl⟩ := List.mem_map.mp mem
    rw [(each i).1]
    exact (each i).2.2

/-- A key without prices, whose three contributions are each rounded up. -/
theorem contributions_near_total_plain :
    let c := { plainKey "a" [] with
      reliabilityBasisPoints := 1, responsivenessBasisPoints := 2, preferenceBasisPoints := 4 }
    ∃ score, weightedScoreComponents c (plainSnapshot none []).policy none none = some score ∧
      (score.contributions.map (·.contribution.get)).sum ≤ score.total.get + 3 := by
  intro c
  obtain ⟨score, -, done, -, -, -, near, -⟩ := contributions_near_total c
    (plainSnapshot none []).policy rfl (by decide) none none
  exact ⟨score, done, near⟩

end RelayPool.Routing
