import RelayPool.Collection.Plan
import RelayPool.Fallible
import RelayPool.Runs

/-! The authorization of a station from the evidence about it (`reduce_authorization`).

A projection holds a verdict (`AuthorizationVerdict`) and the revision up to which evidence has
been taken. Evidence that is accepted either moves the revision and leaves the verdict, or
puts its own in its place (`record_cases`); all that holds of a history follows from that
(`reduceAuthorization_lawful`). -/
namespace RelayPool.Collection
open Fallible Runs
open Protocol (trim)

inductive AuthorizationStatus
  | unknown
  | verifying
  | valid
  | reauthorizationRequired
  | indeterminate
deriving DecidableEq, Repr

inductive EvidenceAuthority
  | driverProbe
  | authenticatedResponse
  | webViewCapture
  | credentialStore
  | unknown
deriving DecidableEq, Repr

def EvidenceAuthority.precedence : EvidenceAuthority → Nat
  | .driverProbe => 4
  | .authenticatedResponse => 3
  | .webViewCapture => 2
  | .credentialStore => 1
  | .unknown => 0

structure AuthorizationRevision where
  credentialRevision : Int
  intentSequence : Int
deriving DecidableEq, Repr

namespace AuthorizationRevision

def staleAxesAgainst (revision current : AuthorizationRevision) : List RevisionAxis :=
  (if revision.credentialRevision < current.credentialRevision then [.credential] else []) ++
    (if revision.credentialRevision = current.credentialRevision ∧
        revision.intentSequence < current.intentSequence then [.intent] else [])

/-- The lexicographic order. -/
instance : LE AuthorizationRevision where
  le a b := a.credentialRevision < b.credentialRevision ∨
    a.credentialRevision = b.credentialRevision ∧ a.intentSequence ≤ b.intentSequence

variable {a b c : AuthorizationRevision}

theorem le_iff : a ≤ b ↔ a.credentialRevision < b.credentialRevision ∨
    a.credentialRevision = b.credentialRevision ∧ a.intentSequence ≤ b.intentSequence := Iff.rfl

theorem le_rfl : a ≤ a := .inr ⟨rfl, le_refl _⟩

theorem le_trans (h : a ≤ b) (h' : b ≤ c) : a ≤ c := by
  rw [le_iff] at h h' ⊢
  omega

theorem staleAxesAgainst_nil : a.staleAxesAgainst b = [] ↔ b ≤ a := by
  rw [staleAxesAgainst, List.append_eq_nil_iff, le_iff]
  split <;> split <;> simp <;> omega

end AuthorizationRevision

structure AuthorizationEvidence where
  operationId : String
  revision : AuthorizationRevision
  effect : AuthEffect
  authority : EvidenceAuthority
  reason : ReasonCode
  observedAtMs : Int
deriving DecidableEq, Repr

structure AuthorizationProjection where
  status : AuthorizationStatus
  revision : AuthorizationRevision
  authority : EvidenceAuthority
  reason : ReasonCode
  operationId : String
  sourceOperationId : String
  observedAtMs : Int
deriving DecidableEq, Repr

inductive AuthorizationReduction
  | applied (projection : AuthorizationProjection)
  | stale (axes : List RevisionAxis)
deriving DecidableEq, Repr

inductive AuthorizationReducerError
  | emptyOperationId
  | negativeObservedAt
  | watermarkConflict
  | insufficientAuthority (effect : AuthEffect) (authority : EvidenceAuthority)
deriving DecidableEq, Repr

/-! ### The reduction -/

def AuthEffect.definitive (effect : AuthEffect) : Bool :=
  effect = .confirmsValid ∨ effect = .requiresReauthorization

def AuthEffect.inconclusive (effect : AuthEffect) : Bool :=
  effect = .none ∨ effect = .startsVerification ∨ effect = .indeterminate

def AuthorizationStatus.definitive (status : AuthorizationStatus) : Bool :=
  status = .valid ∨ status = .reauthorizationRequired

/-- The status that an effect leads to, and the reason when the evidence gives none. -/
def AuthEffect.verdict : AuthEffect → AuthorizationStatus × ReasonCode
  | .startsVerification => (.verifying, .authorizationVerifying)
  | .confirmsValid => (.valid, .none)
  | .requiresReauthorization => (.reauthorizationRequired, .authorizationRequired)
  | .indeterminate => (.indeterminate, .authIndeterminate)
  | .none => (.unknown, .none)

namespace AuthorizationEvidence
variable (evidence : AuthorizationEvidence)

/-- Whether the authority may say what the evidence says. -/
def definitiveAuthority : Bool :=
  (evidence.authority = .driverProbe ∨ evidence.authority = .authenticatedResponse) ∨
    evidence.effect = .requiresReauthorization ∧ evidence.authority = .credentialStore

/-- The projection that the evidence establishes. -/
def establishes : AuthorizationProjection where
  status := evidence.effect.verdict.1
  revision := evidence.revision
  authority := evidence.authority
  reason := if evidence.reason = .none then evidence.effect.verdict.2 else evidence.reason
  operationId := trim evidence.operationId
  sourceOperationId := trim evidence.operationId
  observedAtMs := evidence.observedAtMs

end AuthorizationEvidence

namespace AuthorizationProjection
variable (current : AuthorizationProjection) (evidence : AuthorizationEvidence)

def sameCredential : Bool :=
  current.revision.credentialRevision = evidence.revision.credentialRevision

def preservesDefinitiveVerdict : Bool :=
  current.status.definitive ∧ (evidence.effect.inconclusive ∨
    evidence.authority.precedence < current.authority.precedence)

end AuthorizationProjection

/-- The axes on which the evidence is behind the previous projection. -/
def authorizationWatermark (previous : Option AuthorizationProjection)
    (evidence : AuthorizationEvidence) : Except AuthorizationReducerError (List RevisionAxis) :=
  match previous with
  | none => .ok []
  | some current =>
    if evidence.revision.staleAxesAgainst current.revision ≠ [] then
      .ok (evidence.revision.staleAxesAgainst current.revision)
    else if evidence.revision = current.revision ∧ trim evidence.operationId ≠ current.operationId
    then .error .watermarkConflict
    else .ok []

def reduceAuthorization (previous : Option AuthorizationProjection)
    (evidence : AuthorizationEvidence) : Except AuthorizationReducerError AuthorizationReduction :=
  if trim evidence.operationId = "" then .error .emptyOperationId
  else if evidence.observedAtMs < 0 then .error .negativeObservedAt
  else if evidence.effect.definitive ∧ ¬ evidence.definitiveAuthority then
    .error (.insufficientAuthority evidence.effect evidence.authority)
  else do
    let staleAxes ← authorizationWatermark previous evidence
    if staleAxes ≠ [] then .ok (.stale staleAxes)
    else
      let sameCredential := previous.filter (·.sameCredential evidence)
      match sameCredential.filter (·.preservesDefinitiveVerdict evidence) with
      | some current => .ok (.applied { current with
          revision := evidence.revision
          operationId := trim evidence.operationId })
      | none => .ok (.applied evidence.establishes)

/-- What is stored after the evidence. -/
def record (stored : Option AuthorizationProjection) (evidence : AuthorizationEvidence) :
    Option AuthorizationProjection :=
  match reduceAuthorization stored evidence with
  | .ok (.applied projection) => some projection
  | _ => stored

/-! ### Verdicts -/

structure AuthorizationVerdict where
  status : AuthorizationStatus
  authority : EvidenceAuthority
  reason : ReasonCode
  sourceOperationId : String
  observedAtMs : Int

def AuthorizationProjection.verdict (projection : AuthorizationProjection) :
    AuthorizationVerdict where
  status := projection.status
  authority := projection.authority
  reason := projection.reason
  sourceOperationId := projection.sourceOperationId
  observedAtMs := projection.observedAtMs

variable {stored : Option AuthorizationProjection} {evidence : AuthorizationEvidence}

theorem AuthEffect.inconclusive_iff {effect : AuthEffect} :
    effect.inconclusive ↔ effect.definitive = false := by
  cases effect <;> decide

theorem authorizationWatermark_nil (marked : authorizationWatermark stored evidence = .ok []) :
    ∀ current ∈ stored, current.revision ≤ evidence.revision := by
  rintro current rfl
  unfold authorizationWatermark at marked
  dsimp only at marked
  split at marked
  · exact absurd (Except.ok.inj marked) ‹_›
  · exact AuthorizationRevision.staleAxesAgainst_nil.mp (not_not.mp ‹_›)

/-- Evidence for the credential of a definitive verdict that may not overturn it. -/
def Preserved (stored : Option AuthorizationProjection) (evidence : AuthorizationEvidence)
    (current : AuthorizationProjection) : Prop :=
  current ∈ stored ∧ current.sameCredential evidence ∧ current.preservesDefinitiveVerdict evidence

/-- Evidence is not taken, or it moves the revision of a verdict that it may not overturn, or
it establishes its own. -/
theorem record_cases (stored : Option AuthorizationProjection) (evidence : AuthorizationEvidence) :
    record stored evidence = stored ∨
      (∀ current ∈ stored, current.revision ≤ evidence.revision) ∧
        ((∃ current, Preserved stored evidence current ∧ record stored evidence = some
            { current with
              revision := evidence.revision, operationId := trim evidence.operationId }) ∨
          (∀ current, ¬ Preserved stored evidence current) ∧
            record stored evidence = some evidence.establishes) := by
  unfold record
  cases reduced : reduceAuthorization stored evidence with
  | error e => exact .inl rfl
  | ok reduction =>
    cases reduction with
    | stale axes => exact .inl rfl
    | applied projection =>
      obtain ⟨-, reduced⟩ := check_ok.mp reduced
      obtain ⟨-, reduced⟩ := check_ok.mp reduced
      obtain ⟨-, reduced⟩ := check_ok.mp reduced
      obtain ⟨axes, marked, reduced⟩ := bind_ok.mp reduced
      split at reduced
      · cases reduced
      rename_i upToDate
      obtain rfl := not_not.mp upToDate
      refine .inr ⟨authorizationWatermark_nil marked, ?_⟩
      dsimp only at reduced
      split at reduced
      · rename_i current preserved
        cases reduced
        obtain ⟨preserved, preserves⟩ := Option.filter_eq_some_iff.mp preserved
        obtain ⟨rfl, same⟩ := Option.filter_eq_some_iff.mp preserved
        exact .inl ⟨current, ⟨rfl, same, preserves⟩, rfl⟩
      · rename_i overturned
        cases reduced
        refine .inr ⟨?_, rfl⟩
        rintro current ⟨rfl, same, preserves⟩
        simp [same, preserves] at overturned

/-! ### One piece of evidence -/

theorem record_le (current : AuthorizationProjection) (is : current ∈ stored) :
    ∃ later ∈ record stored evidence, current.revision ≤ later.revision := by
  rcases record_cases stored evidence with kept | ⟨upToDate, moved⟩
  · exact ⟨current, kept.symm ▸ is, AuthorizationRevision.le_rfl⟩
  · rcases moved with ⟨_, -, moved⟩ | ⟨-, moved⟩
    · exact ⟨_, moved, upToDate current is⟩
    · exact ⟨_, moved, upToDate current is⟩

/-- The verdict stays, or the evidence establishes its own. -/
theorem record_verdict (stored : Option AuthorizationProjection)
    (evidence : AuthorizationEvidence) :
    (record stored evidence).map (·.verdict) = stored.map (·.verdict) ∨
      record stored evidence = some evidence.establishes := by
  rcases record_cases stored evidence with kept | ⟨-, ⟨current, preserved, moved⟩ | ⟨-, moved⟩⟩
  · exact .inl (by rw [kept])
  · refine .inl ?_
    rw [moved, show stored = some current from preserved.1]
    rfl
  · exact .inr moved

/-- A definitive verdict goes with a newer credential, or before definitive evidence of at
least its authority. -/
theorem overturns {current later : AuthorizationProjection} (is : current ∈ stored)
    (definitive : current.status.definitive) (after : later ∈ record stored evidence)
    (changed : later.verdict ≠ current.verdict) :
    current.revision.credentialRevision < evidence.revision.credentialRevision ∨
      evidence.effect.definitive ∧
        current.authority.precedence ≤ evidence.authority.precedence := by
  obtain rfl : stored = some current := is
  rcases record_cases (some current) evidence with
    kept | ⟨upToDate, ⟨other, preserved, moved⟩ | ⟨overturned, moved⟩⟩
  · rw [kept] at after
    cases after
    exact absurd rfl changed
  · obtain rfl := Option.some.inj preserved.1
    rw [moved] at after
    cases after
    exact absurd rfl changed
  · refine or_iff_not_imp_left.mpr fun older => ?_
    have same : current.sameCredential evidence := by
      have := AuthorizationRevision.le_iff.mp (upToDate current rfl)
      exact decide_eq_true (by omega)
    have weak : ¬ current.preservesDefinitiveVerdict evidence := fun preserves =>
      overturned current ⟨rfl, same, preserves⟩
    simpa only [AuthorizationProjection.preservesDefinitiveVerdict, definitive, true_and,
      decide_eq_true_eq, not_or, not_lt, AuthEffect.inconclusive_iff, Bool.not_eq_false] using weak

/-- Evidence that says nothing definite about the same credential moves the revision. -/
theorem inconclusive_moves {current : AuthorizationProjection} (is : current ∈ stored)
    (definitive : current.status.definitive) (same : current.sameCredential evidence)
    (inconclusive : evidence.effect.definitive = false) :
    record stored evidence = stored ∨ record stored evidence = some
      { current with revision := evidence.revision, operationId := trim evidence.operationId } := by
  obtain rfl : stored = some current := is
  rcases record_cases (some current) evidence with
    kept | ⟨-, ⟨other, preserved, moved⟩ | ⟨overturned, -⟩⟩
  · exact .inl kept
  · obtain rfl := Option.some.inj preserved.1
    exact .inr moved
  · refine absurd ⟨rfl, same, ?_⟩ (overturned current)
    exact decide_eq_true ⟨definitive, .inl (AuthEffect.inconclusive_iff.mpr inconclusive)⟩

/-- What is behind the stored revision is not taken. -/
theorem record_stale {current : AuthorizationProjection} (is : current ∈ stored)
    (behind : ¬ current.revision ≤ evidence.revision) : record stored evidence = stored := by
  rcases record_cases stored evidence with kept | ⟨upToDate, -⟩
  · exact kept
  · exact absurd (upToDate current is) behind

/-! ### Histories -/

/-- The evidence that the verdict is from: it was established then, and has stood since. -/
def Established (initial : Option AuthorizationProjection) (history : List AuthorizationEvidence)
    (verdict : AuthorizationVerdict) : Prop :=
  ∃ before evidence after, history = before ++ evidence :: after ∧
    run record initial (before ++ [evidence]) = some evidence.establishes ∧
    evidence.establishes.verdict = verdict ∧
    ∀ since, since <+: after →
      (run record initial (before ++ evidence :: since)).map (·.verdict) = some verdict

/-- The verdict of the beginning, which has stood all along. -/
def Initial (initial : Option AuthorizationProjection) (history : List AuthorizationEvidence)
    (verdict : AuthorizationVerdict) : Prop :=
  ∀ since, since <+: history → (run record initial since).map (·.verdict) = some verdict

variable {initial : Option AuthorizationProjection} {history : List AuthorizationEvidence}

theorem established_run {verdict : AuthorizationVerdict}
    (holds : (run record initial history).map (·.verdict) = some verdict) :
    Initial initial history verdict ∨ Established initial history verdict := by
  induction history using List.reverseRecOn generalizing verdict with
  | nil =>
    refine .inl fun since begins => ?_
    rw [List.prefix_nil.mp begins]
    exact holds
  | append_singleton history evidence ih =>
    have step := holds
    rw [run_concat] at step
    rcases record_verdict (run record initial history) evidence with kept | moved
    · rw [kept] at step
      rcases ih step with stands | ⟨before, source, after, rfl, was, is, stands⟩
      · refine .inl fun since begins => ?_
        rcases List.prefix_concat_iff.mp begins with rfl | begins
        · exact holds
        · exact stands since begins
      · refine .inr ⟨before, source, after ++ [evidence], by simp, was, is, fun since begins => ?_⟩
        rcases List.prefix_concat_iff.mp begins with rfl | begins
        · simpa using holds
        · exact stands since begins
    · rw [moved] at step
      have now : run record initial (history ++ [evidence]) = some evidence.establishes := by
        rw [run_concat, moved]
      refine .inr ⟨history, evidence, [], rfl, now, Option.some.inj step, fun since begins => ?_⟩
      rw [List.prefix_nil.mp begins]
      exact holds

theorem run_le (current : AuthorizationProjection) (is : current ∈ initial) :
    ∃ later ∈ run record initial history, current.revision ≤ later.revision := by
  induction history generalizing initial current with
  | nil => exact ⟨current, is, AuthorizationRevision.le_rfl⟩
  | cons evidence rest ih =>
    obtain ⟨next, isNext, le⟩ := @record_le initial evidence current is
    obtain ⟨later, isLater, le'⟩ := ih next isNext
    exact ⟨later, isLater, AuthorizationRevision.le_trans le le'⟩

/-- Whatever evidence has been recorded and is recorded next: the revision never goes back, a
definitive verdict yields only as `overturns` says, what is not applied changes nothing, what
is not definitive moves a definitive verdict's revision alone, and the source of the verdict
is the operation of the evidence that it is from. -/
theorem reduceAuthorization_lawful (initial : Option AuthorizationProjection)
    (history : List AuthorizationEvidence) :
    let stored := run record initial history
    (∀ current ∈ stored, ∀ more, ∃ later ∈ run record stored more,
      current.revision ≤ later.revision) ∧
    (∀ current ∈ stored, current.status.definitive → ∀ evidence,
      ∀ later ∈ record stored evidence, later.verdict ≠ current.verdict →
        current.revision.credentialRevision < evidence.revision.credentialRevision ∨
          evidence.effect.definitive ∧
            current.authority.precedence ≤ evidence.authority.precedence) ∧
    (∀ evidence, (∀ projection, reduceAuthorization stored evidence ≠ .ok (.applied projection)) →
      record stored evidence = stored) ∧
    (∀ current ∈ stored, ∀ evidence, ¬ current.revision ≤ evidence.revision →
      record stored evidence = stored) ∧
    (∀ current ∈ stored, current.status.definitive → ∀ evidence,
      current.sameCredential evidence → evidence.effect.definitive = false →
        record stored evidence = stored ∨ record stored evidence = some
          { current with
            revision := evidence.revision, operationId := trim evidence.operationId }) ∧
    ∀ current ∈ stored, Initial initial history current.verdict ∨
      Established initial history current.verdict := by
  refine ⟨fun current is more => run_le current is, ?_, ?_, ?_, ?_, ?_⟩
  · exact fun current is definitive evidence later after => overturns is definitive after
  · intro evidence refused
    unfold record
    split
    · exact absurd ‹_› (refused _)
    · rfl
  · exact fun current is evidence => record_stale is
  · exact fun current is definitive evidence => inconclusive_moves is definitive
  · exact fun current is => established_run (congrArg (Option.map _) is)

end RelayPool.Collection
