import RelayPool.Alerting.Reconciled
import RelayPool.Runs

/-! What a pass does after observations only.

Ingress and reconcile derive the fingerprint of a policy in two ways: the one writes the
id and the revision with a colon between them, the other a digest in hexadecimal digits.
No incident that was last written by an observation has the fingerprint a pass compares
with (`Unreconciled`), so the first incident of the page is rewritten whether its policy
has changed or not (`pass_keeps_iff`). -/
namespace RelayPool.Alerting
open Runs Table
open IncidentStore AlertingReconciler

/-! ### The two fingerprints -/

theorem colon_not_mem_hex (bytes : List UInt8) : ':' ∉ (hex bytes).toList := by
  have digit : ∀ n < 16, ':' ≠ hexDigit n := by decide
  rw [hex, String.toList_ofList, List.mem_flatMap]
  rintro ⟨byte, -, h⟩
  have bound := byte.toNat_lt
  rcases List.mem_pair.mp h with high | low
  · exact digit _ (by omega) high
  · exact digit _ (by omega) low

theorem colon_mem_fingerprint (p : AlertPolicy) : ':' ∈ (AlertingIngress.fingerprint p).toList := by
  unfold AlertingIngress.fingerprint
  rw [String.toList_append, String.toList_append]
  exact List.mem_append_left _ (List.mem_append_right _ (List.mem_singleton_self _))

/-- No incident was last written by a pass. -/
def Unreconciled (db : AlertingDb) : Prop :=
  ∀ i ∈ db.incidents, ':' ∈ i.lifecyclePolicyFingerprint.toList

section Recording
variable {env : AlertingEnv} {db : AlertingDb}

theorem Unreconciled.recordStep (wf : WellFormed db) (h : Unreconciled db)
    (input : ObservationIngress) : Unreconciled (recordStep env db input) := by
  rcases @recordStep_cases env _ wf input with same | ⟨-, -, t, i, moved⟩
  · rw [same]
    exact h
  · intro r mem
    have found : incident _ r.conditionKey = some r := moved.wf.keyed.lookup mem
    rw [moved.incident] at found
    split_ifs at found
    · obtain rfl := Option.some.inj found
      have frame := frame_of_apply moved.applied
      have is : i.lifecyclePolicyFingerprint = AlertingIngress.fingerprint (policyOf db input) :=
        Incident.field_of_frame frame (·.lifecyclePolicyFingerprint) fun _ => rfl
      rw [is]
      exact colon_mem_fingerprint _
    · exact h r (lookup_some found).1

end Recording

theorem Unreconciled.stale {db : AlertingDb} (h : Unreconciled db) (e : Encodings)
    (policies : List AlertPolicy) {i : Incident} (mem : i ∈ db.incidents) :
    shouldUpdate e policies i := by
  have changed : fingerprintChanged e policies i :=
    decide_eq_true fun same => colon_not_mem_hex _ (same ▸ h i mem)
  unfold shouldUpdate
  simp [changed]

/-! ### A pass -/

section Passes
variable {e : Encodings} {policies : List AlertPolicy} {settings : AlertingSettings} {nowMs : Int}
  {cursor : Option ReconcileCursor} {db : AlertingDb}

/-- Where every listed incident is stale, a pass leaves them alone only if it fails at once. -/
theorem reconcilePage_keeps_iff (wf : WellFormed db)
    (stale : ∀ i ∈ db.incidents, shouldUpdate e policies i) :
    ((reconcilePage e policies settings nowMs cursor db).1.incidents = db.incidents ∧
        (reconcilePage e policies settings nowMs cursor db).1.deliveries = db.deliveries) ↔
      nowMs < 0 ∨ ∀ i, (listActivePage db cursor pageSize).head? = some i →
        ¬ Backed e db policies i := by
  rcases lt_or_ge nowMs 0 with early | on_time
  · simp [reconcilePage_of_neg early, early]
  · rw [or_iff_right (not_lt.mpr on_time), reconcilePage_db on_time]
    obtain ⟨current, distinct⟩ := listActivePage_current wf cursor pageSize
    have current i (mem : i ∈ listActivePage db cursor pageSize) := (current i mem).1
    cases listed : listActivePage db cursor pageSize with
    | nil => simp [writePage]
    | cons i rest =>
      rw [listed] at current distinct
      have mem := current i (List.mem_cons_self ..)
      rw [List.head?_cons]
      constructor
      · rintro ⟨same, -⟩ j is backed
        obtain rfl := Option.some.inj is
        obtain ⟨before, after, split_, -, passed, ending⟩ :=
          @writePage_cases e policies settings nowMs db wf _ current distinct
        have first : i ∈ before := by
          cases before with
          | cons j before => exact (List.cons.inj split_).1 ▸ List.mem_cons_self ..
          | nil =>
            rcases ending with ⟨rfl, -⟩ | ⟨j, rest', rfl, -, unbacked, -⟩
            · exact (nomatch split_)
            · exact absurd ((List.cons.inj split_).1 ▸ backed) unbacked
        have kept := passed.incident i.conditionKey
        have found : incident db i.conditionKey = some i := wf.keyed.lookup mem
        rw [incident, same, ← incident, found, Option.map_some,
          if_pos ⟨first, stale i mem⟩] at kept
        exact rewritten_ne i (Option.some.inj kept).symm
      · intro unbacked
        unfold writePage
        rw [if_neg (by simp [stale i mem]), write_of_not_backed wf mem (unbacked i rfl)]
        exact ⟨rfl, rfl⟩

end Passes

/-- What observations alone lead to. -/
theorem recorded (env : AlertingEnv) (policies : List AlertPolicy) (settings : AlertingSettings)
    (stations stationKeys : List String) (inputs : List ObservationIngress) :
    WellFormed (run (recordStep env) (.start policies settings stations stationKeys) inputs) ∧
      Unreconciled (run (recordStep env) (.start policies settings stations stationKeys) inputs) := by
  have preserved : ∀ (db : AlertingDb) (input : ObservationIngress),
      WellFormed db ∧ Unreconciled db →
        WellFormed (recordStep env db input) ∧ Unreconciled (recordStep env db input) :=
    fun _ input h => ⟨h.1.recordStep input, h.2.recordStep h.1 input⟩
  exact run_invariant preserved ⟨.start .., List.forall_mem_nil _⟩ inputs

/-- After observations only, a pass under the same policies and settings leaves the incidents
and the deliveries as they are if and only if it does nothing at all: it is refused for its
time, there is nothing on its page, or its first write fails. -/
theorem pass_keeps_iff (env : AlertingEnv) (policies : List AlertPolicy)
    (settings : AlertingSettings) (stations stationKeys : List String)
    (inputs : List ObservationIngress) (cursor : Option ReconcileCursor) (nowMs : Int) :
    let db := run (recordStep env) (.start policies settings stations stationKeys) inputs
    let passed := reconcilePage env.toEncodings policies settings nowMs cursor db
    (passed.1.incidents = db.incidents ∧ passed.1.deliveries = db.deliveries) ↔
      nowMs < 0 ∨ ∀ i, (listActivePage db cursor pageSize).head? = some i →
        ¬ Backed env.toEncodings db policies i := by
  obtain ⟨wf, unreconciled⟩ := recorded env policies settings stations stationKeys inputs
  exact reconcilePage_keeps_iff wf fun i mem => unreconciled.stale _ _ mem

/-! ### A pending incident that starts over -/

def samplePolicy : AlertPolicy where
  id := "policy-1"
  name := "Station down"
  enabled := true
  state := .active
  scopeKind := .global
  eventType := none
  stationId := none
  stationKeyId := none
  minimumSeverity := none
  severityOffset := 0
  triggerMode := .consecutiveOccurrences
  triggerCount := some 3
  triggerDurationSeconds := none
  recoveryMode := .consecutiveHealthy
  recoveryCount := some 1
  recoveryDurationSeconds := none
  inAppEnabled := true
  desktopEnabled := false
  repeatMode := .never
  repeatIntervalSeconds := none
  cooldownSeconds := 1800
  recoveryNotificationEnabled := true
  quietHoursPolicy := .inherit
  priority := 100
  revision := 1
  createdAtMs := 10
  updatedAtMs := 10

def samplePolicyJson : String :=
  "\x7b\"id\":\"policy-1\",\"name\":\"Station down\",\"enabled\":true,\"state\":\"active\"," ++
  "\"scopeKind\":\"global\",\"eventType\":null,\"stationId\":null,\"stationKeyId\":null," ++
  "\"minimumSeverity\":null,\"severityOffset\":0,\"triggerMode\":\"consecutive_occurrences\"," ++
  "\"triggerCount\":3,\"triggerDurationSeconds\":null," ++
  "\"recoveryMode\":\"consecutive_healthy\",\"recoveryCount\":1," ++
  "\"recoveryDurationSeconds\":null,\"inAppEnabled\":true,\"desktopEnabled\":false," ++
  "\"repeatMode\":\"never\",\"repeatIntervalSeconds\":null,\"cooldownSeconds\":1800," ++
  "\"recoveryNotificationEnabled\":true,\"quietHoursPolicy\":\"inherit\",\"priority\":100," ++
  "\"revision\":1,\"createdAtMs\":10,\"updatedAtMs\":10\x7d"

def systemDefaultJson : String :=
  "\x7b\"id\":\"system_default\",\"name\":\"System default\",\"enabled\":true," ++
  "\"state\":\"active\",\"scopeKind\":\"global\",\"eventType\":null,\"stationId\":null," ++
  "\"stationKeyId\":null,\"minimumSeverity\":null,\"severityOffset\":0," ++
  "\"triggerMode\":\"consecutive_occurrences\",\"triggerCount\":2," ++
  "\"triggerDurationSeconds\":null,\"recoveryMode\":\"consecutive_healthy\"," ++
  "\"recoveryCount\":1,\"recoveryDurationSeconds\":null,\"inAppEnabled\":true," ++
  "\"desktopEnabled\":false,\"repeatMode\":\"never\",\"repeatIntervalSeconds\":null," ++
  "\"cooldownSeconds\":1800,\"recoveryNotificationEnabled\":true," ++
  "\"quietHoursPolicy\":\"inherit\",\"priority\":4294967295,\"revision\":1," ++
  "\"createdAtMs\":0,\"updatedAtMs\":0\x7d"

/-- SHA-256 of the texts of the samples. -/
def sampleDigests : List (String × List UInt8) :=
  [(samplePolicyJson,
      [203, 198, 16, 77, 228, 48, 162, 9, 75, 84, 90, 54, 116, 110, 223, 163,
      60, 241, 104, 151, 35, 42, 255, 56, 67, 106, 17, 132, 198, 38, 23, 255]),
    (systemDefaultJson,
      [180, 103, 222, 218, 250, 46, 162, 89, 132, 17, 119, 52, 130, 251, 182, 28,
      198, 227, 133, 94, 173, 237, 32, 12, 127, 50, 110, 164, 78, 97, 99, 157]),
    ("incident-station:1:1:in_app:opened:1",
      [95, 156, 134, 227, 230, 68, 242, 171, 223, 68, 69, 235, 158, 51, 136, 78,
      223, 54, 160, 217, 143, 205, 66, 201, 173, 202, 84, 15, 173, 138, 64, 57]),
    ("incident-station:1:1:desktop:opened:1",
      [11, 251, 66, 187, 19, 25, 130, 117, 218, 24, 138, 10, 64, 222, 178, 114,
      139, 100, 86, 209, 35, 133, 85, 245, 5, 40, 228, 7, 155, 62, 21, 2]),
    ("incident-station:1:1:in_app:recovered:1",
      [201, 123, 113, 129, 252, 227, 208, 161, 101, 230, 137, 10, 57, 12, 25, 230,
      24, 96, 204, 80, 109, 13, 201, 69, 7, 39, 54, 51, 188, 147, 242, 195]),
    ("incident-station:1:1:desktop:recovered:1",
      [125, 2, 102, 118, 97, 248, 209, 241, 114, 66, 43, 127, 169, 98, 191, 191,
      105, 122, 66, 12, 228, 26, 245, 186, 224, 180, 13, 36, 55, 239, 47, 232])]

/-- The libraries on the texts of the samples. -/
def sampleEnv : AlertingEnv where
  policyJson := fun p =>
    if p = samplePolicy then samplePolicyJson
    else if p = .systemDefaultForEvent (some .stationDown) .warning then systemDefaultJson
    else ""
  sha256 := fun text => (sampleDigests.lookup text).getD []
  fromStr := fun text => if text = "\x7b\x7d" then .ok (.object []) else .error "not a sample"

def sampleKey : ConditionKey := ⟨"station:1", by decide⟩

def sampleObservation (id : String) (kind : ObservationKind) (observedAtMs : Int) :
    ObservationIngress where
  sourceObservationKey := id
  eventType := .stationDown
  conditionKey := sampleKey
  kind := kind
  severity := .warning
  objectType := "station"
  objectId := some "1"
  stationId := none
  stationKeyId := none
  source := "probe"
  reasonCode := none
  summaryJson := "\x7b\x7d"
  observedAtMs := observedAtMs
  factFreshUntilMs := observedAtMs + 60000

/-- One of the three occurrences that open the incident is forgotten, though no policy and no
setting has changed. -/
theorem pass_restarts_count :
    let db := run (recordStep sampleEnv) (.start [samplePolicy] .default [] [])
      [sampleObservation "observation-1" .abnormal 1000]
    let passed := reconcilePage sampleEnv.toEncodings [samplePolicy] .default 1060 none db
    (incident db sampleKey).map (·.consecutiveAbnormalCount) = some 1 ∧
      (incident passed.1 sampleKey).map (·.consecutiveAbnormalCount) = some 0 := by
  decide +kernel

end RelayPool.Alerting
