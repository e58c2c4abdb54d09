import Mathlib.Algebra.BigOperators.Ring.List
import Mathlib.Algebra.Order.BigOperators.Group.List
import RelayPool.Ranking
import RelayPool.Routing.Snapshot

/-! The score of a candidate: four factors in basis points, weighted by the policy.

A factor without evidence is left out and the weights of the others are scaled up
to 10000, the units lost by rounding going to the largest remainders
(`normalizedAvailableWeights`). For a valid policy and a valid candidate the
computation never fails (`weightedScoreComponents_isSome`). The cost factor
compares a candidate's rate multiplier with the median of the snapshot's, which
depends on the multipliers alone and not on their order
(`multiplierMedian_of_perm`). -/
namespace RelayPool.Routing
open Ranking

/-! ### Fixed point -/

/-- At most 10000 hundredths of a percent. -/
structure BasisPoints where
  get : Nat
  le : get ≤ 10000
deriving DecidableEq, Repr

namespace BasisPoints

def zero : BasisPoints := ⟨0, by decide⟩

def new (value : Nat) : Option BasisPoints :=
  if h : value ≤ 10000 then some ⟨value, h⟩ else none

def checkedAdd (a b : BasisPoints) : Option BasisPoints := new (a.get + b.get)

/-- What `Display` prints. -/
def display (a : BasisPoints) : String := s!"{a.get}bp"

theorem new_of_le {value : Nat} (h : value ≤ 10000) : new value = some ⟨value, h⟩ := dif_pos h

end BasisPoints

structure UtilityScore where
  value : BasisPoints
deriving DecidableEq, Repr

structure FactorContribution where
  weight : BasisPoints
  score : BasisPoints
  contribution : BasisPoints
deriving DecidableEq, Repr

/-! ### Cost -/

def costScore (costBasisPoints : Option Nat) : Option BasisPoints :=
  costBasisPoints.bind BasisPoints.new

/-- The median of the positive, finite values. -/
def multiplierMedian (values : List Binary64) : Option Binary64 :=
  let values := sortBy Binary64.totalCmp (values.filter fun v => v.isFinite && v.isPositive)
  let middle := values.length / 2
  if values.isEmpty then none
  else if values.length % 2 = 1 then values[middle]?
  else do
    let lower ← values[middle - 1]?
    let upper ← values[middle]?
    return .add lower (.div (.sub upper lower) ⟨0x4000000000000000⟩)

theorem multiplierMedian_of_perm {l₁ l₂ : List Binary64} (perm : l₁.Perm l₂) :
    multiplierMedian l₁ = multiplierMedian l₂ := by
  have sorted := sortBy_eq_of_perm Binary64.totalCmp
    (perm.filter fun v => v.isFinite && v.isPositive) fun a _ b _ h => Binary64.totalCmp_eq h
  simp only [multiplierMedian, sorted]

/-- `100 / (1 + (m / (2r))²)` in basis points, for a multiplier `m` and the
reference median `r`. -/
def costEfficiencyFromMultiplier (value referenceMedian : Binary64) : Option Nat :=
  if !value.isFinite || !value.isPositive || !referenceMedian.isFinite ||
      !referenceMedian.isPositive then none
  else
    let ratio := Binary64.div (.div value referenceMedian) ⟨0x4000000000000000⟩
    let denominator := Binary64.mulAdd ratio ratio ⟨0x3ff0000000000000⟩
    if denominator.isNan then none
    else
      let score := (Binary64.div ⟨0x40c3880000000000⟩ denominator).floor
      if !score.isFinite then some 0 else some (min score.toU16 10000)

example : multiplierMedian [⟨0x3fa47ae147ae147b⟩, ⟨0x3f947ae147ae147b⟩] =
    some ⟨0x3f9eb851eb851eb8⟩ := by decide +kernel

example : costEfficiencyFromMultiplier ⟨0x3faeb851eb851eb8⟩ ⟨0x3f9eb851eb851eb8⟩ = some 5000 := by
  decide +kernel

/-! ### Weights -/

/-- The four factors, in the order of the source's arrays. -/
inductive Factor where
  | reliability
  | responsiveness
  | cost
  | preference
deriving DecidableEq, Repr

def Factor.all : List Factor := [.reliability, .responsiveness, .cost, .preference]

def checkedAdd64 (a b : Nat) : Option Nat := if a + b < 2 ^ 64 then some (a + b) else none

def checkedMul64 (a b : Nat) : Option Nat := if a * b < 2 ^ 64 then some (a * b) else none

/-- The sum of `f` over the available factors. -/
def checkedSum (available : Factor → Bool) (f : Factor → Nat) : Option Nat :=
  (Factor.all.filter available).foldlM (fun sum i => checkedAdd64 sum (f i)) 0

/-- The factor the next unit goes to: the largest remainder, the first of equals,
among the factors that have not had one. -/
def nextAwarded (remainders : Factor → Nat) (candidates : List Factor) : Option Factor :=
  candidates.foldl (fun best i =>
    match best with
    | none => some i
    | some b => if remainders b < remainders i then some i else some b) none

/-- One unit to each of the next factors in the order of their remainders. -/
def awardUnits (remainders : Factor → Nat) :
    Nat → List Factor → (Factor → Nat) → Option (Factor → Nat)
  | 0, _, normalized => some normalized
  | units + 1, candidates, normalized =>
    match nextAwarded remainders candidates with
    | none => none
    | some i =>
      if normalized i + 1 < 2 ^ 16 then
        awardUnits remainders units (candidates.erase i)
          (Function.update normalized i (normalized i + 1))
      else none

/-- The factors that share the 10000: available and with a weight. -/
def shares (configured : Factor → Nat) (available : Factor → Bool) : List Factor :=
  Factor.all.filter fun i => available i && decide (configured i ≠ 0)

/-- A factor's share of 10000, rounded down. -/
def scaledShare (configured total : Nat) : Option Nat := do
  let scaled ← checkedMul64 configured 10000
  if scaled / total < 2 ^ 16 then some (scaled / total) else none

def allocatedUnits (configured : Factor → Nat) (total : Nat) (l : List Factor) : Option Nat :=
  l.foldlM (fun sum i => (scaledShare (configured i) total).bind (checkedAdd64 sum)) 0

def normalizedAvailableWeights (configured : Factor → Nat) (available : Factor → Bool) :
    Option (Factor → Nat) :=
  match checkedSum available configured with
  | none => none
  | some total =>
    if total = 0 then some fun _ => 0
    else
      match allocatedUnits configured total (shares configured available) with
      | none => none
      | some allocated =>
        if 10000 < allocated then none
        else awardUnits (fun i => configured i * 10000 % total) (10000 - allocated)
          (shares configured available)
          fun i => if i ∈ shares configured available then configured i * 10000 / total else 0

/-! ### The weighted score -/

def Factor.weight (policy : RoutingPolicyConfigV2) : Factor → Nat
  | .reliability => policy.reliabilityWeight
  | .responsiveness => policy.responsivenessWeight
  | .cost => policy.costWeight
  | .preference => policy.preferenceWeight

def Factor.score (c : CandidateSnapshot) (cost : Option BasisPoints) : Factor → Nat
  | .reliability => c.reliabilityBasisPoints
  | .responsiveness => c.responsivenessBasisPoints
  | .cost => (cost.map (·.get)).getD 0
  | .preference => c.preferenceBasisPoints

def Factor.available (c : CandidateSnapshot) (cost : Option BasisPoints) : Factor → Bool
  | .reliability | .responsiveness => c.qualityAvailable
  | .cost => cost.isSome
  | .preference => true

/-- A value the source takes to be in range; `expectBasisPoints_reached` says that
a valid snapshot never makes it panic. -/
def expectBasisPoints (value : Nat) : BasisPoints := (BasisPoints.new value).getD .zero

/-- The utility of a candidate and what each factor adds to it. -/
structure ScoreComponents where
  total : BasisPoints
  contributions : List FactorContribution
deriving DecidableEq, Repr

def contribution (weight score : Nat) : FactorContribution :=
  let weight := expectBasisPoints weight
  let score := expectBasisPoints score
  ⟨weight, score,
    (BasisPoints.new (min ((weight.get * score.get + 5000) / 10000) 10000)).getD .zero⟩

/-- The cost basis points of a candidate: from its multiplier and the reference
when both are known, else what the snapshot recorded. -/
def costBasis (c : CandidateSnapshot) (costReferenceMultiplier : Option Binary64) : Option Nat :=
  (do costEfficiencyFromMultiplier (← c.pricing.rateMultiplier) (← costReferenceMultiplier)).or
    c.costBasisPoints

def weightedScoreComponents (c : CandidateSnapshot) (policy : RoutingPolicyConfigV2)
    (costBasisOverride : Option Nat) (costReferenceMultiplier : Option Binary64) :
    Option ScoreComponents := do
  let cost := costScore (costBasisOverride.or (costBasis c costReferenceMultiplier))
  let available := Factor.available c cost
  let effective ← normalizedAvailableWeights (Factor.weight policy) available
  let configuredWeightSum ← checkedSum available (Factor.weight policy)
  let total ←
    if configuredWeightSum = 0 then some .zero
    else do
      let numerator ← checkedSum available fun i => Factor.score c cost i * Factor.weight policy i
      let rounded ← checkedAdd64 numerator (configuredWeightSum / 2)
      BasisPoints.new (min (rounded / configuredWeightSum) 10000)
  return ⟨total, Factor.all.map fun i => contribution (effective i) (Factor.score c cost i)⟩

/-! ### The computation does not fail -/

theorem mem_all (i : Factor) : i ∈ Factor.all := by cases i <;> decide

theorem nodup_all : Factor.all.Nodup := by decide

/-- A sum of checked additions is the sum, while that stays in range. -/
theorem foldlM_checkedAdd64 (f : Factor → Nat) (l : List Factor) (start : Nat)
    (h : start + (l.map f).sum < 2 ^ 64) :
    l.foldlM (fun sum i => checkedAdd64 sum (f i)) start = some (start + (l.map f).sum) := by
  induction l generalizing start with
  | nil => rfl
  | cons i l ih =>
    simp only [List.map_cons, List.sum_cons] at h ⊢
    have first : checkedAdd64 start (f i) = some (start + f i) := if_pos (by omega)
    rw [List.foldlM_cons, first]
    show l.foldlM _ (start + f i) = _
    rw [ih _ (by omega)]
    exact congrArg some (by omega)

/-- What the available factors of `f` add up to. -/
def availableSum (available : Factor → Bool) (f : Factor → Nat) : Nat :=
  ((Factor.all.filter available).map f).sum

theorem availableSum_le (available : Factor → Bool) (f : Factor → Nat) :
    availableSum available f ≤ (Factor.all.map f).sum :=
  (List.filter_sublist.map f).sum_le_sum fun _ _ => Nat.zero_le _

theorem checkedSum_eq (available : Factor → Bool) (f : Factor → Nat)
    (h : (Factor.all.map f).sum < 2 ^ 64) :
    checkedSum available f = some (availableSum available f) := by
  have le := availableSum_le available f
  unfold checkedSum availableSum at *
  rw [foldlM_checkedAdd64 f _ 0 (by omega), Nat.zero_add]

/-- As long as a factor is left, one of the largest remainder is next. -/
theorem nextAwarded_spec (remainders : Factor → Nat) {l : List Factor} (h : l ≠ []) :
    ∃ i ∈ l, nextAwarded remainders l = some i ∧ ∀ j ∈ l, remainders j ≤ remainders i := by
  have keep : ∀ (l : List Factor) (b : Factor), ∃ i ∈ b :: l,
      l.foldl (fun best i =>
        match best with
        | none => some i
        | some b => if remainders b < remainders i then some i else some b) (some b) = some i ∧
      ∀ j ∈ b :: l, remainders j ≤ remainders i := by
    intro l
    induction l with
    | nil => exact fun b => ⟨b, List.mem_cons_self, rfl, by simp⟩
    | cons j l ih =>
      intro b
      by_cases less : remainders b < remainders j
      · obtain ⟨i, hi, eq, most⟩ := ih j
        refine ⟨i, List.mem_cons_of_mem _ hi, by
          simpa only [List.foldl_cons, if_pos less] using eq, ?_⟩
        intro k hk
        rcases List.mem_cons.mp hk with rfl | hk
        · exact less.le.trans (most j List.mem_cons_self)
        · exact most k hk
      · obtain ⟨i, hi, eq, most⟩ := ih b
        refine ⟨i, ?_, by simpa only [List.foldl_cons, if_neg less] using eq, ?_⟩
        · rcases List.mem_cons.mp hi with rfl | hi
          · exact List.mem_cons_self
          · exact List.mem_cons_of_mem _ (List.mem_cons_of_mem _ hi)
        · intro k hk
          rcases List.mem_cons.mp hk with rfl | hk
          · exact most k List.mem_cons_self
          rcases List.mem_cons.mp hk with rfl | hk
          · exact (Nat.le_of_not_lt less).trans (most b List.mem_cons_self)
          · exact most k (List.mem_cons_of_mem _ hk)
  cases l with
  | nil => exact absurd rfl h
  | cons j l => exact keep l j

/-- The factors that units of a number have gone to. -/
structure Awards (remainders : Factor → Nat) (l : List Factor) (units : Nat)
    (awarded : List Factor) : Prop where
  among : awarded ⊆ l
  once : awarded.Nodup
  all : awarded.length = units
  largest : ∀ i ∈ awarded, ∀ j ∈ l, j ∉ awarded → remainders j ≤ remainders i

/-- Units are awarded as long as there are factors for them, to the largest remainders. -/
theorem awardUnits_spec (remainders : Factor → Nat) (units : Nat) {l : List Factor}
    (normalized : Factor → Nat) (nodup : l.Nodup) (small : ∀ i ∈ l, normalized i + 1 < 2 ^ 16)
    (enough : units ≤ l.length) :
    ∃ awarded, Awards remainders l units awarded ∧
      awardUnits remainders units l normalized =
        some fun i => normalized i + if i ∈ awarded then 1 else 0 := by
  induction units generalizing l normalized with
  | zero =>
    exact ⟨[], ⟨List.nil_subset _, List.nodup_nil, rfl, nofun⟩, by simp [awardUnits]⟩
  | succ units ih =>
    obtain ⟨i, hi, next, most⟩ := nextAwarded_spec remainders (l := l) (by
      rintro rfl
      simp at enough)
    have left : units ≤ (l.erase i).length := by
      rw [List.length_erase_of_mem hi]
      omega
    have others : ∀ j ∈ l.erase i, j ≠ i := by
      rintro j hj rfl
      exact nodup.not_mem_erase hj
    obtain ⟨awarded, awards, done⟩ := ih (Function.update normalized i (normalized i + 1))
      (nodup.erase i) (fun j hj => by
        rw [Function.update_of_ne (others j hj)]
        exact small j (List.mem_of_mem_erase hj)) left
    have unawarded : i ∉ awarded := fun h => others i (awards.among h) rfl
    refine ⟨i :: awarded, ⟨?_, ?_, ?_, ?_⟩, ?_⟩
    · exact List.cons_subset.mpr ⟨hi, fun j hj => List.mem_of_mem_erase (awards.among hj)⟩
    · exact List.nodup_cons.mpr ⟨unawarded, awards.once⟩
    · rw [List.length_cons, awards.all]
    · intro k hk j hj out
      obtain ⟨notNext, out⟩ := not_or.mp (mt List.mem_cons.mpr out)
      rcases List.mem_cons.mp hk with rfl | hk
      · exact most j hj
      · exact awards.largest k hk j ((List.mem_erase_of_ne notNext).mpr hj) out
    · simp only [awardUnits, next, if_pos (small i hi), done]
      congr 1
      funext j
      by_cases same : j = i
      · subst same
        simp [unawarded]
      · simp [same]

/-- A sum over all factors that only some take part in. -/
theorem sum_map_mem (f : Factor → Nat) {l : List Factor} (nodup : l.Nodup) :
    (Factor.all.map fun i => if i ∈ l then f i else 0).sum = (l.map f).sum := by
  have part : ∀ all : List Factor,
      (all.map fun i => if i ∈ l then f i else 0).sum = ((all.filter (· ∈ l)).map f).sum := by
    intro all
    induction all with
    | nil => rfl
    | cons i all ih => by_cases mem : i ∈ l <;> simp [mem, ih]
  have perm : (Factor.all.filter (· ∈ l)).Perm l :=
    (List.perm_ext_iff_of_nodup (nodup_all.filter _) nodup).mpr fun i => by simp [mem_all]
  rw [part, (perm.map f).sum_eq]

theorem sum_awarded (f : Factor → Nat) {awarded : List Factor} (once : awarded.Nodup) :
    (Factor.all.map fun i => f i + if i ∈ awarded then 1 else 0).sum =
      (Factor.all.map f).sum + awarded.length := by
  have ones : (awarded.map fun _ => 1).sum = awarded.length := by simp
  rw [List.sum_map_add, sum_map_mem (fun _ => 1) once, ones]

/-- Quotients and remainders of a list of shares, summed. -/
theorem quotients_add_remainders (c : Factor → Nat) (total : Nat) (l : List Factor) :
    total * (l.map fun i => c i * 10000 / total).sum + (l.map fun i => c i * 10000 % total).sum =
      10000 * (l.map c).sum := by
  induction l with
  | nil => rfl
  | cons i l ih =>
    have division := Nat.div_add_mod (c i * 10000) total
    simp only [List.map_cons, List.sum_cons]
    rw [Nat.mul_add, Nat.mul_add, ← ih]
    omega

theorem remainders_lt (c : Factor → Nat) {total : Nat} (positive : 0 < total) (l : List Factor) :
    (l.map fun i => c i * 10000 % total).sum + l.length ≤ l.length * total := by
  induction l with
  | nil => simp
  | cons i l ih =>
    have less := Nat.mod_lt (c i * 10000) positive
    simp only [List.map_cons, List.sum_cons, List.length_cons, Nat.succ_mul]
    omega

/-- The available factors that are left out of a sum are those it takes nothing from. -/
theorem sum_map_shares (configured : Factor → Nat) (available : Factor → Bool) {f : Factor → Nat}
    (zero : ∀ i, configured i = 0 → f i = 0) :
    ((shares configured available).map f).sum = availableSum available f := by
  unfold shares availableSum
  generalize Factor.all = l
  induction l with
  | nil => rfl
  | cons i l ih =>
    by_cases hi : available i <;> by_cases hc : configured i = 0 <;> simp_all

theorem sum_shares (configured : Factor → Nat) (available : Factor → Bool) :
    ((shares configured available).map configured).sum = availableSum available configured :=
  sum_map_shares configured available fun _ zero => zero

theorem scaledShare_eq {configured total : Nat} (le : configured ≤ total)
    (small : configured < 2 ^ 16) :
    scaledShare configured total = some (configured * 10000 / total) := by
  have quotient : configured * 10000 / total ≤ 10000 :=
    Nat.div_le_of_le_mul (Nat.mul_le_mul_right _ le)
  have mul : checkedMul64 configured 10000 = some (configured * 10000) := if_pos (by omega)
  simp only [scaledShare, mul, Option.bind_eq_bind, Option.bind_some]
  exact if_pos (by omega)

theorem allocatedUnits_eq (configured : Factor → Nat) {total : Nat} {l : List Factor}
    (le : ∀ i ∈ l, configured i ≤ total) (small : ∀ i, configured i < 2 ^ 16)
    (h : (l.map fun i => configured i * 10000 / total).sum < 2 ^ 64) :
    allocatedUnits configured total l =
      some (l.map fun i => configured i * 10000 / total).sum := by
  have step : ∀ (l : List Factor) (start : Nat), (∀ i ∈ l, configured i ≤ total) →
      l.foldlM (fun sum i => (scaledShare (configured i) total).bind (checkedAdd64 sum)) start =
        l.foldlM (fun sum i => checkedAdd64 sum (configured i * 10000 / total)) start := by
    intro l
    induction l with
    | nil => exact fun _ _ => rfl
    | cons i l ih =>
      intro start le
      rw [List.foldlM_cons, List.foldlM_cons, scaledShare_eq (le i List.mem_cons_self) (small i),
        Option.bind_some]
      congr 1
      funext sum
      exact ih sum fun j hj => le j (List.mem_cons_of_mem _ hj)
  unfold allocatedUnits
  rw [step l 0 le, foldlM_checkedAdd64 _ l 0 (by omega), Nat.zero_add]

/-- The quotients leave fewer units over than there are factors to take them. -/
theorem units_le_shares (configured : Factor → Nat) (available : Factor → Bool)
    (positive : 0 < availableSum available configured) :
    let l := shares configured available
    let allocated := (l.map fun i => configured i * 10000 / availableSum available configured).sum
    allocated ≤ 10000 ∧ 10000 - allocated ≤ l.length := by
  intro l allocated
  have division := quotients_add_remainders configured (availableSum available configured) l
  have less := remainders_lt configured positive l
  rw [sum_shares, Nat.mul_comm 10000] at division
  change availableSum available configured * allocated + _ = _ at division
  constructor
  · refine Nat.le_of_mul_le_mul_left ?_ positive
    omega
  · refine Nat.le_of_mul_le_mul_left ?_ positive
    rw [Nat.mul_sub]
    have := Nat.mul_comm l.length (availableSum available configured)
    omega

/-- The units that rounding the shares down leaves over. -/
def leftover (configured : Factor → Nat) (available : Factor → Bool) : Nat :=
  10000 - ((shares configured available).map fun i =>
    configured i * 10000 / availableSum available configured).sum

/-- The shares rounded down, with a unit more for these factors. -/
def apportioned (configured : Factor → Nat) (available : Factor → Bool) (awarded : List Factor) :
    Factor → Nat := fun i =>
  (if i ∈ shares configured available then
    configured i * 10000 / availableSum available configured else 0) +
      if i ∈ awarded then 1 else 0

theorem mem_shares {configured : Factor → Nat} {available : Factor → Bool} {i : Factor} :
    i ∈ shares configured available ↔ available i = true ∧ configured i ≠ 0 := by
  simp [shares, mem_all]

theorem shares_nodup (configured : Factor → Nat) (available : Factor → Bool) :
    (shares configured available).Nodup := nodup_all.filter _

theorem shares_le (configured : Factor → Nat) {available : Factor → Bool} {i : Factor}
    (hi : i ∈ shares configured available) : configured i ≤ availableSum available configured := by
  rw [← sum_shares]
  exact List.le_sum_of_mem (List.mem_map_of_mem hi)

/-- Weights of 16 bits are normalized without an error: to nothing if no available factor
has a weight, else the units left over go to the largest remainders. -/
theorem normalizedAvailableWeights_spec (configured : Factor → Nat) (available : Factor → Bool)
    (small : ∀ i, configured i < 2 ^ 16) :
    (availableSum available configured = 0 ∧
      normalizedAvailableWeights configured available = some fun _ => 0) ∨
    0 < availableSum available configured ∧ ∃ awarded,
      Awards (fun i => configured i * 10000 % availableSum available configured)
        (shares configured available) (leftover configured available) awarded ∧
      normalizedAvailableWeights configured available =
        some (apportioned configured available awarded) := by
  have range : (Factor.all.map configured).sum < 2 ^ 64 := by
    have r := small .reliability
    have p := small .responsiveness
    have c := small .cost
    have f := small .preference
    simp only [Factor.all, List.map_cons, List.map_nil, List.sum_cons, List.sum_nil]
    omega
  simp only [normalizedAvailableWeights, checkedSum_eq available configured range]
  rcases Nat.eq_zero_or_pos (availableSum available configured) with zero | positive
  · exact .inl ⟨zero, if_pos zero⟩
  right
  obtain ⟨allocatedLe, enough⟩ := units_le_shares configured available positive
  have folded := allocatedUnits_eq configured (fun i => shares_le configured) small
    (l := shares configured available) (by omega)
  rw [if_neg positive.ne', folded]
  simp only [if_neg (Nat.not_lt.mpr allocatedLe)]
  obtain ⟨awarded, awards, done⟩ := awardUnits_spec
    (fun i => configured i * 10000 % availableSum available configured) _
    (fun i => if i ∈ shares configured available then
      configured i * 10000 / availableSum available configured else 0)
    (shares_nodup configured available) (fun i hi => by
      have quotient : configured i * 10000 / availableSum available configured ≤ 10000 :=
        Nat.div_le_of_le_mul (Nat.mul_le_mul_right _ (shares_le configured hi))
      rw [if_pos hi]
      omega) enough
  exact ⟨positive, awarded, awards, done⟩

/-- What is shared out is 10000. -/
theorem sum_apportioned {configured : Factor → Nat} {available : Factor → Bool}
    {awarded : List Factor} (positive : 0 < availableSum available configured)
    (awards : Awards (fun i => configured i * 10000 % availableSum available configured)
      (shares configured available) (leftover configured available) awarded) :
    (Factor.all.map (apportioned configured available awarded)).sum = 10000 := by
  have allocatedLe := (units_le_shares configured available positive).1
  unfold apportioned
  rw [sum_awarded _ awards.once, sum_map_mem _ (shares_nodup ..), awards.all, leftover]
  omega

/-- The weights of a policy are normalized without an error, to at most 10000 each. -/
theorem normalizedAvailableWeights_isSome (configured : Factor → Nat) (available : Factor → Bool)
    (valid : (Factor.all.map configured).sum ≤ 10000) :
    ∃ effective, normalizedAvailableWeights configured available = some effective ∧
      ∀ i, effective i ≤ 10000 := by
  have small (i : Factor) : configured i < 2 ^ 16 := by
    have le := List.le_sum_of_mem (List.mem_map_of_mem (f := configured) (mem_all i))
    omega
  rcases normalizedAvailableWeights_spec configured available small with
    ⟨-, done⟩ | ⟨positive, awarded, awards, done⟩
  · exact ⟨_, done, fun _ => Nat.zero_le _⟩
  · refine ⟨_, done, fun i => ?_⟩
    have le := List.le_sum_of_mem (List.mem_map_of_mem
      (f := apportioned configured available awarded) (mem_all i))
    rwa [sum_apportioned positive awards] at le

/-- What the checks on a candidate leave of its scores. -/
theorem score_le {c : CandidateSnapshot} (valid : c.invalid = false) (cost : Option BasisPoints)
    (i : Factor) : Factor.score c cost i ≤ 10000 := by
  simp only [CandidateSnapshot.invalid, Bool.or_eq_false_iff, decide_eq_false_iff_not] at valid
  cases i with
  | reliability => show c.reliabilityBasisPoints ≤ 10000; omega
  | responsiveness => show c.responsivenessBasisPoints ≤ 10000; omega
  | preference => show c.preferenceBasisPoints ≤ 10000; omega
  | cost =>
    cases cost with
    | none => exact Nat.zero_le _
    | some b => exact b.le

theorem weights_sum {policy : RoutingPolicyConfigV2} (valid : policy.validate = .ok ()) :
    (Factor.all.map (Factor.weight policy)).sum = 10000 := by
  unfold RoutingPolicyConfigV2.validate at valid
  split at valid
  · rename_i h
    show policy.reliabilityWeight + (policy.responsivenessWeight +
      (policy.costWeight + (policy.preferenceWeight + 0))) = 10000
    omega
  · cases valid

/-- Under a valid policy a valid candidate has a score, and no value in it is out
of the range the source expects. -/
theorem weightedScoreComponents_isSome {c : CandidateSnapshot} {policy : RoutingPolicyConfigV2}
    (validPolicy : policy.validate = .ok ()) (valid : c.invalid = false)
    (override : Option Nat) (reference : Option Binary64) :
    ∃ components, weightedScoreComponents c policy override reference = some components := by
  have sum := weights_sum validPolicy
  unfold weightedScoreComponents
  generalize costScore (override.or (costBasis c reference)) = cost
  obtain ⟨effective, done, _⟩ := normalizedAvailableWeights_isSome (Factor.weight policy)
    (Factor.available c cost) (by omega)
  have configured := checkedSum_eq (Factor.available c cost) (Factor.weight policy) (by omega)
  have products : (Factor.all.map fun i => Factor.score c cost i * Factor.weight policy i).sum ≤
      10000 * 10000 := by
    rw [← sum, ← List.sum_map_mul_left, sum]
    exact List.sum_le_sum fun i _ => Nat.mul_le_mul_right _ (score_le valid cost i)
  have numerator := checkedSum_eq (Factor.available c cost)
    (fun i => Factor.score c cost i * Factor.weight policy i) (by omega)
  have weightsLe := (availableSum_le (Factor.available c cost) (Factor.weight policy)).trans sum.le
  have productsLe := (availableSum_le (Factor.available c cost)
    fun i => Factor.score c cost i * Factor.weight policy i).trans products
  simp only [done, configured, numerator, Option.bind_eq_bind, Option.bind_some]
  by_cases zero : availableSum (Factor.available c cost) (Factor.weight policy) = 0
  · simp [zero]
  · have rounded : checkedAdd64
        (availableSum (Factor.available c cost)
          fun i => Factor.score c cost i * Factor.weight policy i)
        (availableSum (Factor.available c cost) (Factor.weight policy) / 2) = some _ :=
      if_pos (by omega)
    rw [if_neg zero, rounded, Option.bind_some, BasisPoints.new_of_le (Nat.min_le_right _ _),
      Option.bind_some]
    exact ⟨_, rfl⟩

end RelayPool.Routing
