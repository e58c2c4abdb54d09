import RelayPool.Alerting.Deliveries
import RelayPool.Fallible
import RelayPool.Runs

/-! The delivery ledger is safe under any interleaving.

Every update is a transaction of its own, so what any number of workers do is a list
of updates in the order they commit; a failed update leaves the ledger as it is. One
row goes its own way (`rowStep`), whatever the others do. A token is valid for a row
from the claim that wins under it until the row leaves the claim, and never again
(`valid_of_step`): that a claim brings a token of its own is all that is asked of the
workers. `ledger_safe` puts the properties together. -/
namespace RelayPool.Alerting
open Table Runs
open Circuit (PersistenceError)

/-! ### Updates -/

/-- What a worker reports on a claim. -/
inductive Report
  | delivered (nowMs : Int)
  | failed (errorCode : String) (nowMs : Int)
  | retry (errorCode : String) (retryNotBeforeMs nowMs : Int)

open DeliveryStore DeliveryWorker

def Report.send (ledger : Ledger) (id token : String) : Report → Except PersistenceError Ledger
  | .delivered nowMs => markDelivered ledger id token nowMs
  | .failed errorCode nowMs => markFailed ledger id token errorCode nowMs
  | .retry errorCode retryNotBeforeMs nowMs =>
    releaseForRetry ledger id token errorCode retryNotBeforeMs nowMs maxAttempts

/-- A new delivery is scheduled, or suppressed from the start. -/
inductive LedgerUpdate
  | schedule (delivery : NotificationDelivery)
    (planned : delivery.status = .scheduled ∨ delivery.status = .suppressed)
  | claimDue (id token : String) (nowMs leaseMs : Int)
  | report (id token : String) (report : Report)
  | expireClaims (nowMs retryNotBeforeMs : Int) (limit : Nat)
  | suppressScheduled (incidentId : String) (episodeNumber : Nat) (reason : SuppressionReason)
    (nowMs : Int) (limit : Nat)
  | suppressForIncidents (episode : String → Nat → Bool) (nowMs : Int)

/-- The transaction of an update, with whether it inserted or claimed a row. -/
def LedgerUpdate.execute (ledger : Ledger) : LedgerUpdate → Except PersistenceError (Bool × Ledger)
  | schedule delivery _ => DeliveryStore.schedule ledger delivery
  | claimDue id token nowMs leaseMs => DeliveryStore.claimDue ledger id token nowMs leaseMs
  | report id token r => (r.send ledger id token).map (false, ·)
  | expireClaims nowMs retryNotBeforeMs limit =>
    .ok (false, (DeliveryStore.expireClaims ledger nowMs retryNotBeforeMs maxAttempts limit).2)
  | suppressScheduled incidentId episodeNumber reason nowMs limit =>
    .ok (false, (suppressScheduledForIncident ledger incidentId episodeNumber reason nowMs limit).2)
  | suppressForIncidents episode nowMs =>
    .ok (false, DeliveryStore.suppressForIncidents ledger episode nowMs)

/-- A failed transaction is rolled back. -/
def ledgerStep (ledger : Ledger) (update : LedgerUpdate) : Ledger :=
  match update.execute ledger with
  | .ok (_, ledger) => ledger
  | .error _ => ledger

/-- The update claims the row. -/
def LedgerUpdate.claims (ledger : Ledger) (id : String) (update : LedgerUpdate) : Bool :=
  match update with
  | claimDue id' _ _ _ => id' = id ∧ (update.execute ledger).toOption.any (·.1)
  | _ => false

def claimToken : LedgerUpdate → Option String
  | .claimDue _ token _ _ => some token
  | _ => none

/-- The claims of a row that were successful. -/
def claimCount (id : String) (updates : List LedgerUpdate) : Nat :=
  record ledgerStep (fun ledger update _ count =>
    if update.claims ledger id then count + 1 else count) [] 0 updates

def NotificationDelivery.isTerminal (d : NotificationDelivery) : Bool :=
  d.status ∈ [.delivered, .failed, .suppressed]

/-! ### One row -/

abbrev row (ledger : Ledger) (id : String) : Option NotificationDelivery := lookup (·.id) ledger id

abbrev Rows (ledger : Ledger) : Prop := Keyed NotificationDelivery.id ledger

def Report.apply (d : NotificationDelivery) : Report → NotificationDelivery
  | .delivered nowMs => d.delivered nowMs
  | .failed errorCode nowMs => d.failed errorCode nowMs
  | .retry errorCode retryNotBeforeMs nowMs =>
    d.retried errorCode retryNotBeforeMs retryNotBeforeMs nowMs maxAttempts

/-- What an update makes of a row that is there. -/
def rowStep (ledger : Ledger) (d : NotificationDelivery) : LedgerUpdate → NotificationDelivery
  | .schedule _ _ => d
  | .claimDue id token nowMs leaseMs =>
    if 0 < leaseMs ∧ d.id = id ∧ d.isDue nowMs then d.claimed token nowMs leaseMs else d
  | .report id token report => if d.id = id ∧ d.heldBy token then report.apply d else d
  | .expireClaims nowMs retryNotBeforeMs limit =>
    if d.isExpired nowMs ∧ d.id ∈ (page (fun d d' => d.leaseExpiresAtMs.getD 0 <
          d'.leaseExpiresAtMs.getD 0 ∨ (d.leaseExpiresAtMs.getD 0 = d'.leaseExpiresAtMs.getD 0 ∧
          d.id ≤ d'.id)) (clampLimit limit) (·.isExpired nowMs) ledger).map (·.id) then
      d.retried "retry_exhausted" nowMs retryNotBeforeMs nowMs maxAttempts
    else d
  | .suppressScheduled incidentId episodeNumber reason nowMs limit =>
    if d.status = .scheduled ∧ d.id ∈ (page (fun d d' => d.scheduledAtMs < d'.scheduledAtMs ∨
          (d.scheduledAtMs = d'.scheduledAtMs ∧ d.id ≤ d'.id)) (clampLimit limit)
        (fun d => d.incidentId = incidentId ∧ d.episodeNumber = episodeNumber ∧
          d.status = .scheduled) ledger).map (·.id) then
      d.muted reason nowMs
    else d
  | .suppressForIncidents episode nowMs =>
    if episode d.incidentId d.episodeNumber ∧ d.isUnsettled then d.outdated nowMs else d

section Rows
variable {ledger : Ledger} {id token : String} {d : NotificationDelivery}

theorem report_ok_iff (rows : Rows ledger) {f : NotificationDelivery → NotificationDelivery}
    {ledger' : Ledger} : DeliveryStore.report ledger id token f = .ok ledger' ↔
      (∃ d, row ledger id = some d ∧ d.heldBy token) ∧
        updateWhere (fun d => d.id = id ∧ d.heldBy token) f ledger = ledger' := by
  unfold DeliveryStore.report
  by_cases valid : ∃ d, row ledger id = some d ∧ d.heldBy token
  · rw [if_pos ((rows.affected (·.heldBy token)).mpr valid), Except.ok.injEq, and_iff_right valid]
  · rw [if_neg (mt (rows.affected (·.heldBy token)).mp valid)]
    exact iff_of_false nofun fun h => valid h.1

theorem send_eq (report : Report) : report.send ledger id token =
    DeliveryStore.report ledger id token (report.apply ·) := by
  cases report <;> rfl

theorem retried_id (errorCode : String) (unknownAt retryAt now : Int) (n : Nat) :
    (d.retried errorCode unknownAt retryAt now n).id = d.id := by
  unfold NotificationDelivery.retried
  split <;> rfl

theorem apply_id (report : Report) (d : NotificationDelivery) : (report.apply d).id = d.id := by
  cases report with
  | delivered => rfl
  | failed => rfl
  | retry => exact retried_id ..

theorem row_updateWhere {p : NotificationDelivery → Bool}
    {f : NotificationDelivery → NotificationDelivery} (same : ∀ d, (f d).id = d.id)
    (found : row ledger id = some d) :
    row (updateWhere p f ledger) id = some (if p d then f d else d) := by
  rw [row, lookup_updateWhere same]
  exact congrArg (Option.map _) found

/-- The row after the update, where it was there before. -/
theorem row_step (rows : Rows ledger) (found : row ledger id = some d) (update : LedgerUpdate) :
    row (ledgerStep ledger update) id = some (rowStep ledger d update) := by
  obtain ⟨mem, rfl⟩ := lookup_some found
  unfold ledgerStep
  cases update with
  | schedule delivery planned =>
    rw [LedgerUpdate.execute, DeliveryStore.schedule]
    split_ifs with _ clash
    · exact found
    · exact found
    · refine (lookup_concat (lookup_none.mpr fun d' mem' same => clash ?_)).trans ?_
      · exact List.any_eq_true.mpr ⟨d', mem', decide_eq_true (.inl same)⟩
      · refine (if_neg fun same => clash ?_).trans found
        exact List.any_eq_true.mpr ⟨d, mem, decide_eq_true (.inl same.symm)⟩
  | claimDue id token now lease =>
    rw [LedgerUpdate.execute, DeliveryStore.claimDue, rowStep]
    by_cases bad : lease ≤ 0
    · rw [if_pos bad, if_neg fun due => absurd due.1 (by omega)]
      exact found
    · rw [if_neg bad]
      refine (row_updateWhere (f := (·.claimed token now lease)) (fun _ => rfl) found).trans ?_
      simp only [decide_eq_true_eq, show 0 < lease by omega, true_and]
  | report id token r =>
    rw [LedgerUpdate.execute, send_eq, rowStep]
    cases sent : DeliveryStore.report ledger id token (r.apply ·) with
    | error e =>
      refine found.trans (congrArg some (if_neg ?_).symm)
      rintro ⟨rfl, held⟩
      have accepted := (report_ok_iff (f := (r.apply ·)) rows).mpr ⟨⟨d, found, held⟩, rfl⟩
      rw [sent] at accepted
      exact (nomatch accepted)
    | ok ledger' =>
      obtain ⟨-, rfl⟩ := (report_ok_iff rows).mp sent
      refine (row_updateWhere (apply_id r) found).trans ?_
      simp only [decide_eq_true_eq]
  | expireClaims now retryAt limit =>
    refine (row_updateWhere (fun d => retried_id ..) found).trans ?_
    rw [rowStep]
    refine congrArg some (if_congr ?_ rfl rfl)
    rw [decide_eq_true_eq]
    exact ⟨fun chosen => ⟨rows.of_mem_page mem chosen, chosen⟩, And.right⟩
  | suppressScheduled incidentId episode reason now limit =>
    refine (row_updateWhere (f := (·.muted reason now)) (fun _ => rfl) found).trans ?_
    rw [rowStep]
    refine congrArg some (if_congr ?_ rfl rfl)
    rw [decide_eq_true_eq]
    refine ⟨fun chosen => ⟨?_, chosen⟩, And.right⟩
    have holds := rows.of_mem_page mem chosen
    exact (of_decide_eq_true holds).2.2
  | suppressForIncidents episode now =>
    refine (row_updateWhere (f := (·.outdated now)) (fun _ => rfl) found).trans ?_
    simp only [rowStep, decide_eq_true_eq]

/-- An update leaves the ledger, adds a row or rewrites rows in place. -/
theorem ledgerStep_cases (rows : Rows ledger) (update : LedgerUpdate) :
    ledgerStep ledger update = ledger ∨
      (∃ delivery planned, update = .schedule delivery planned ∧ row ledger delivery.id = none ∧
        ledgerStep ledger update = ledger ++ [delivery.inserted]) ∨
      ∃ p f, (∀ d, NotificationDelivery.id (f d) = d.id) ∧
        ledgerStep ledger update = updateWhere p f ledger := by
  unfold ledgerStep
  cases update with
  | schedule delivery planned =>
    rw [LedgerUpdate.execute, DeliveryStore.schedule]
    split_ifs with _ clash
    · exact .inl rfl
    · exact .inl rfl
    · refine .inr (.inl ⟨delivery, planned, rfl, lookup_none.mpr fun d mem same => clash ?_, rfl⟩)
      exact List.any_eq_true.mpr ⟨d, mem, decide_eq_true (.inl same)⟩
  | claimDue id token now lease =>
    rw [LedgerUpdate.execute, DeliveryStore.claimDue]
    split_ifs
    · exact .inl rfl
    · exact .inr (.inr ⟨_, (·.claimed token now lease), fun _ => rfl, rfl⟩)
  | report id token r =>
    rw [LedgerUpdate.execute, send_eq]
    cases sent : DeliveryStore.report ledger id token (r.apply ·) with
    | error e => exact .inl rfl
    | ok ledger' =>
      obtain ⟨-, rfl⟩ := (report_ok_iff rows).mp sent
      exact .inr (.inr ⟨_, _, apply_id r, rfl⟩)
  | expireClaims now retryAt limit => exact .inr (.inr ⟨_, _, fun d => retried_id .., rfl⟩)
  | suppressScheduled incidentId episode reason now limit =>
    exact .inr (.inr ⟨_, (·.muted reason now), fun _ => rfl, rfl⟩)
  | suppressForIncidents episode now =>
    exact .inr (.inr ⟨_, (·.outdated now), fun _ => rfl, rfl⟩)

theorem rows_step (rows : Rows ledger) (update : LedgerUpdate) :
    Rows (ledgerStep ledger update) := by
  rcases ledgerStep_cases rows update with same | ⟨delivery, -, -, fresh, added⟩ | ⟨p, f, same, is⟩
  · rwa [same]
  · rw [added]
    exact rows.concat fresh
  · rw [is]
    exact rows.updateWhere same

/-- A row that was not there before is new. -/
theorem row_step_new (rows : Rows ledger) (absent : row ledger id = none) {update : LedgerUpdate}
    (found : row (ledgerStep ledger update) id = some d) :
    ∃ delivery planned, update = .schedule delivery planned ∧ d = delivery.inserted := by
  rcases ledgerStep_cases rows update with
    same | ⟨delivery, planned, is, fresh, added⟩ | ⟨p, f, same, is⟩
  · rw [same, absent] at found
    exact (nomatch found)
  · have new := lookup_concat (r := delivery.inserted) (k := id) fresh
    rw [added, row, new] at found
    split_ifs at found
    · exact ⟨delivery, planned, is, (Option.some.inj found).symm⟩
    · exact (nomatch absent.symm.trans found)
  · rw [is, row, lookup_updateWhere same] at found
    obtain ⟨d', was, -⟩ := Option.map_eq_some_iff.mp found
    exact (nomatch absent.symm.trans was)

/-- A row that an update takes out of the queue or out of its claim. -/
structure Leaves (d d' : NotificationDelivery) : Prop where
  unsettled : d.isUnsettled
  /-- A scheduled row has no token to give back. -/
  token : d'.claimToken = none ∨ (d.status = .scheduled ∧ d'.claimToken = d.claimToken)
  attempts : d'.attemptCount = d.attemptCount
  left : d'.status ≠ .claimed ∧ d'.status ≠ .scheduled
  waiting : d'.status = .outcomeUnknown → d.attemptCount < maxAttempts

theorem isUnsettled_of_claimed (h : d.status = .claimed) : d.isUnsettled := by
  simp [NotificationDelivery.isUnsettled, h]

theorem leaves_retried (h : d.status = .claimed) (errorCode : String) (unknownAt retryAt now : Int) :
    Leaves d (d.retried errorCode unknownAt retryAt now maxAttempts) := by
  unfold NotificationDelivery.retried
  split_ifs with exhausted
  · exact ⟨isUnsettled_of_claimed h, .inl rfl, rfl, ⟨nofun, nofun⟩, nofun⟩
  · exact ⟨isUnsettled_of_claimed h, .inl rfl, rfl, ⟨nofun, nofun⟩,
      fun _ => not_le.mp exhausted⟩

theorem leaves_apply (h : d.status = .claimed) (report : Report) : Leaves d (report.apply d) := by
  cases report with
  | delivered => exact ⟨isUnsettled_of_claimed h, .inl rfl, rfl, ⟨nofun, nofun⟩, nofun⟩
  | failed => exact ⟨isUnsettled_of_claimed h, .inl rfl, rfl, ⟨nofun, nofun⟩, nofun⟩
  | retry => exact leaves_retried h ..

/-- All that an update can do to a row. -/
theorem rowStep_cases (ledger : Ledger) (d : NotificationDelivery) (update : LedgerUpdate) :
    rowStep ledger d update = d ∨
      (∃ token now lease, update = .claimDue d.id token now lease ∧ 0 < lease ∧ d.isDue now ∧
        rowStep ledger d update = d.claimed token now lease) ∨
      Leaves d (rowStep ledger d update) := by
  cases update with
  | schedule delivery planned => exact .inl rfl
  | claimDue id token now lease =>
    rw [rowStep]
    split_ifs with due
    · obtain ⟨room, rfl, due⟩ := due
      exact .inr (.inl ⟨token, now, lease, rfl, room, due, rfl⟩)
    · exact .inl rfl
  | report id token r =>
    rw [rowStep]
    split_ifs with held
    · exact .inr (.inr (leaves_apply (of_decide_eq_true held.2).1 r))
    · exact .inl rfl
  | expireClaims now retryAt limit =>
    rw [rowStep]
    split_ifs with chosen
    · exact .inr (.inr (leaves_retried (of_decide_eq_true chosen.1).1 ..))
    · exact .inl rfl
  | suppressScheduled incidentId episode reason now limit =>
    rw [rowStep]
    split_ifs with chosen
    · refine .inr (.inr ⟨?_, .inr ⟨chosen.1, rfl⟩, rfl, ⟨nofun, nofun⟩, nofun⟩)
      simp [NotificationDelivery.isUnsettled, chosen.1]
    · exact .inl rfl
  | suppressForIncidents episode now =>
    rw [rowStep]
    split_ifs with chosen
    · exact .inr (.inr ⟨chosen.2, .inl rfl, rfl, ⟨nofun, nofun⟩, nofun⟩)
    · exact .inl rfl

/-! ### What holds of every row -/

structure Sound (d : NotificationDelivery) : Prop where
  token : d.status = .claimed ↔ d.claimToken.isSome
  fresh : d.status = .scheduled → d.attemptCount = 0
  waiting : d.status = .outcomeUnknown → d.attemptCount < maxAttempts
  bounded : d.attemptCount ≤ maxAttempts

theorem status_of_due {now : Int} (due : d.isDue now) :
    d.status = .scheduled ∨ d.status = .outcomeUnknown := by
  simpa using (of_decide_eq_true due).1

theorem Sound.attempts_of_due (sound : Sound d) {now : Int} (due : d.isDue now) :
    d.attemptCount < maxAttempts := by
  rcases status_of_due due with scheduled | unknown
  · rw [sound.fresh scheduled]
    exact (by decide : 0 < maxAttempts)
  · exact sound.waiting unknown

theorem Sound.leaves {d' : NotificationDelivery} (sound : Sound d) (leaves : Leaves d d') :
    Sound d' where
  token := by
    refine iff_of_false leaves.left.1 ?_
    rcases leaves.token with none_ | ⟨scheduled, same⟩
    · simp [none_]
    · rw [same, ← sound.token, scheduled]
      exact nofun
  fresh h := absurd h leaves.left.2
  waiting h := leaves.attempts ▸ leaves.waiting h
  bounded := leaves.attempts ▸ sound.bounded

theorem sound_rowStep (sound : Sound d) (update : LedgerUpdate) :
    Sound (rowStep ledger d update) := by
  rcases rowStep_cases ledger d update with
    same | ⟨token, now, lease, -, -, due, is⟩ | leaves
  · rwa [same]
  · rw [is]
    exact ⟨iff_of_true rfl rfl, nofun, nofun, sound.attempts_of_due due⟩
  · exact sound.leaves leaves

theorem sound_inserted {delivery : NotificationDelivery}
    (planned : delivery.status = .scheduled ∨ delivery.status = .suppressed) :
    Sound delivery.inserted where
  token := by
    refine iff_of_false ?_ (by simp [NotificationDelivery.inserted])
    show delivery.status ≠ .claimed
    rcases planned with is | is <;> rw [is] <;> exact nofun
  fresh _ := rfl
  waiting _ := (by decide : 0 < maxAttempts)
  bounded := Nat.zero_le _

/-- A settled row stays as it is. -/
theorem rowStep_terminal (terminal : d.isTerminal) (update : LedgerUpdate) :
    rowStep ledger d update = d := by
  have settled : ¬ d.isUnsettled := by
    unfold NotificationDelivery.isTerminal at terminal
    unfold NotificationDelivery.isUnsettled
    revert terminal
    cases d.status <;> decide
  rcases rowStep_cases ledger d update with
    same | ⟨token, now, lease, -, -, due, -⟩ | leaves
  · exact same
  · refine absurd ?_ settled
    rcases status_of_due due with is | is <;> simp [NotificationDelivery.isUnsettled, is]
  · exact absurd leaves.unsettled settled

/-! ### Claims -/

theorem claims_iff (rows : Rows ledger) {update : LedgerUpdate} : update.claims ledger id ↔
    ∃ token now lease d, update = .claimDue id token now lease ∧ 0 < lease ∧
      row ledger id = some d ∧ d.isDue now := by
  constructor
  · intro won
    cases update with
    | claimDue id' token now lease =>
      simp only [LedgerUpdate.claims, LedgerUpdate.execute, DeliveryStore.claimDue] at won
      obtain ⟨rfl, counted⟩ := of_decide_eq_true won
      split_ifs at counted with bad
      · exact absurd counted Bool.false_ne_true
      · have affected : ledger.countP (fun d => d.id = id' ∧ d.isDue now) = 1 :=
          of_decide_eq_true counted
        obtain ⟨d, found, due⟩ := (rows.affected (·.isDue now)).mp affected
        exact ⟨token, now, lease, d, rfl, by omega, found, due⟩
    | schedule => exact (nomatch won)
    | report => exact (nomatch won)
    | expireClaims => exact (nomatch won)
    | suppressScheduled => exact (nomatch won)
    | suppressForIncidents => exact (nomatch won)
  · rintro ⟨token, now, lease, d, rfl, room, found, due⟩
    have affected := (rows.affected (·.isDue now)).mpr ⟨d, found, due⟩
    simp only [LedgerUpdate.claims, LedgerUpdate.execute, DeliveryStore.claimDue,
      if_neg (not_le.mpr room), affected]
    rfl

theorem attemptCount_rowStep (rows : Rows ledger) (found : row ledger id = some d)
    (update : LedgerUpdate) : (rowStep ledger d update).attemptCount =
      if update.claims ledger id then d.attemptCount + 1 else d.attemptCount := by
  obtain ⟨-, rfl⟩ := lookup_some found
  split_ifs with won
  · obtain ⟨token, now, lease, d', rfl, room, found', due⟩ := (claims_iff rows).mp won
    obtain rfl := Option.some.inj (found.symm.trans found')
    rw [rowStep, if_pos ⟨room, rfl, due⟩]
    rfl
  · rcases rowStep_cases ledger d update with
      same | ⟨token, now, lease, rfl, room, due, -⟩ | leaves
    · rw [same]
    · exact absurd ((claims_iff rows).mpr ⟨token, now, lease, d, rfl, room, found, due⟩) won
    · exact leaves.attempts

/-! ### Tokens -/

/-- A report under the token is accepted. -/
def Valid (ledger : Ledger) (id token : String) : Prop :=
  ∃ d, row ledger id = some d ∧ d.heldBy token

theorem isOk_send_iff (rows : Rows ledger) (report : Report) :
    (report.send ledger id token).isOk ↔ Valid ledger id token := by
  rw [send_eq, Fallible.isOk_iff]
  exact ⟨fun ⟨_, sent⟩ => ((report_ok_iff rows).mp sent).1,
    fun valid => ⟨_, (report_ok_iff rows).mpr ⟨valid, rfl⟩⟩⟩

theorem Valid.unique {token' : String} (valid : Valid ledger id token)
    (valid' : Valid ledger id token') : token = token' := by
  obtain ⟨d, found, held⟩ := valid
  obtain ⟨d', found', held'⟩ := valid'
  obtain rfl := Option.some.inj (found.symm.trans found')
  exact Option.some.inj ((of_decide_eq_true held).2.symm.trans (of_decide_eq_true held').2)

/-- A token becomes valid by a claim under it alone. -/
theorem valid_of_step (rows : Rows ledger) {update : LedgerUpdate}
    (valid : Valid (ledgerStep ledger update) id token) :
    Valid ledger id token ∨ claimToken update = some token := by
  obtain ⟨d', found', held⟩ := valid
  obtain ⟨claimed, under⟩ := of_decide_eq_true held
  cases found : row ledger id with
  | none =>
    obtain ⟨delivery, planned, rfl, rfl⟩ := row_step_new rows found found'
    exact (nomatch under)
  | some d =>
    obtain rfl := Option.some.inj ((row_step rows found update).symm.trans found')
    rcases rowStep_cases ledger d update with
      same | ⟨token', now, lease, rfl, -, -, is⟩ | leaves
    · exact .inl ⟨d, found, same ▸ held⟩
    · rw [is] at under
      exact .inr under
    · exact absurd claimed leaves.left.1

end Rows

/-! ### Runs -/

section Runs
variable {updates : List LedgerUpdate} {id token : String} {d : NotificationDelivery}

/-- The ledger that the updates leave, in the order they commit. -/
def ledgerAfter (updates : List LedgerUpdate) : Ledger := run ledgerStep [] updates

theorem ledgerAfter_append (before after : List LedgerUpdate) :
    ledgerAfter (before ++ after) = run ledgerStep (ledgerAfter before) after :=
  run_append ledgerStep [] before after

theorem rows_after (updates : List LedgerUpdate) : Rows (ledgerAfter updates) := by
  have preserved : ∀ ledger update, Rows ledger → Rows (ledgerStep ledger update) :=
    fun _ update rows => rows_step rows update
  exact run_invariant preserved (s := []) List.nodup_nil updates

/-- Every row is sound and has been claimed as often as it counts; a row that is not there
has never been claimed. -/
def Counted (id : String) (ledger : Ledger) (count : Nat) : Prop :=
  Rows ledger ∧ match row ledger id with
    | some d => Sound d ∧ d.attemptCount = count
    | none => count = 0

theorem counted_after (id : String) (updates : List LedgerUpdate) :
    Counted id (ledgerAfter updates) (claimCount id updates) := by
  refine record_invariant (fun ledger update count ⟨rows, counted⟩ => ⟨rows_step rows update, ?_⟩)
    ⟨List.nodup_nil, rfl⟩ updates
  cases found : row ledger id with
  | some d =>
    rw [found] at counted
    rw [row_step rows found]
    exact ⟨sound_rowStep counted.1 update, by rw [attemptCount_rowStep rows found, counted.2]⟩
  | none =>
    rw [found] at counted
    have idle : ¬ update.claims ledger id := by
      intro won
      obtain ⟨-, -, -, d, -, -, found', -⟩ := (claims_iff rows).mp won
      exact (nomatch found.symm.trans found')
    rw [if_neg idle]
    cases found' : row (ledgerStep ledger update) id with
    | none => exact counted
    | some d =>
      obtain ⟨delivery, planned, -, rfl⟩ := row_step_new rows found found'
      exact ⟨sound_inserted planned, counted.symm⟩

theorem sound_after (found : row (ledgerAfter updates) id = some d) :
    Sound d ∧ d.attemptCount = claimCount id updates := by
  have counted := (counted_after id updates).2
  rwa [found] at counted

/-- A settled row stays as it is, whatever comes later. -/
theorem row_run_terminal {ledger : Ledger} (rows : Rows ledger) (found : row ledger id = some d)
    (terminal : d.isTerminal) (updates : List LedgerUpdate) :
    row (run ledgerStep ledger updates) id = some d := by
  have preserved : ∀ ledger update, Rows ledger ∧ row ledger id = some d →
      Rows (ledgerStep ledger update) ∧ row (ledgerStep ledger update) id = some d := by
    rintro ledger update ⟨rows, found⟩
    exact ⟨rows_step rows update, by rw [row_step rows found, rowStep_terminal terminal]⟩
  exact (run_invariant preserved ⟨rows, found⟩ updates).2

/-- A token that is not valid any more stays invalid while no claim brings it again. -/
theorem invalid_run {ledger : Ledger} (rows : Rows ledger) (invalid : ¬ Valid ledger id token)
    {updates : List LedgerUpdate} (unused : ∀ u ∈ updates, claimToken u ≠ some token) :
    ¬ Valid (run ledgerStep ledger updates) id token := by
  have preserved : ∀ ledger update, claimToken update ≠ some token →
      Rows ledger ∧ ¬ Valid ledger id token →
      Rows (ledgerStep ledger update) ∧ ¬ Valid (ledgerStep ledger update) id token := by
    rintro ledger update unused ⟨rows, invalid⟩
    exact ⟨rows_step rows update, fun valid => (valid_of_step rows valid).elim invalid unused⟩
  exact (run_invariant_of preserved ⟨rows, invalid⟩ unused).2

/-- A claim that wins finds no token valid for the row. -/
theorem invalid_of_claims {ledger : Ledger} (rows : Rows ledger) {update : LedgerUpdate}
    (won : update.claims ledger id) : ¬ Valid ledger id token := by
  rintro ⟨d, found, held⟩
  obtain ⟨-, now, -, d', -, -, found', due⟩ := (claims_iff rows).mp won
  obtain rfl := Option.some.inj (found.symm.trans found')
  have claimed := (of_decide_eq_true held).1
  rcases status_of_due due with is | is <;> rw [is] at claimed <;> exact (nomatch claimed)

end Runs

/-! ### The ledger is safe -/

/-- What the ledger promises about a history of updates. -/
structure LedgerSafe (updates : List LedgerUpdate) : Prop where
  /-- Reports under two tokens are not both accepted. -/
  oneToken : ∀ id token token' (report report' : Report),
    (report.send (ledgerAfter updates) id token).isOk →
    (report'.send (ledgerAfter updates) id token').isOk → token = token'
  /-- After a later claim of the row a report under the token of an earlier one fails. -/
  staleReport : ∀ id token before middle after now lease (claim : LedgerUpdate) (report : Report),
    updates = before ++ .claimDue id token now lease :: (middle ++ claim :: after) →
    claim.claims (ledgerAfter (before ++ .claimDue id token now lease :: middle)) id →
    ¬ (report.send (ledgerAfter updates) id token).isOk ∧
      ledgerStep (ledgerAfter updates) (.report id token report) = ledgerAfter updates
  /-- What was delivered, failed or suppressed stays so. -/
  terminal : ∀ before after id d, updates = before ++ after →
    row (ledgerAfter before) id = some d → d.isTerminal →
    row (ledgerAfter updates) id = some d
  attempts : ∀ id d, row (ledgerAfter updates) id = some d →
    d.attemptCount = claimCount id updates ∧ d.attemptCount ≤ maxAttempts
  /-- A row that waits can be claimed once its time has come. -/
  claimable : ∀ id d, row (ledgerAfter updates) id = some d → ¬ d.isTerminal →
    d.status ≠ .claimed → ∀ token now lease, 0 < lease → d.scheduledAtMs ≤ now →
    (∀ retryAt, d.retryNotBeforeMs = some retryAt → retryAt ≤ now) →
    (LedgerUpdate.claimDue id token now lease).claims (ledgerAfter updates) id

/-- **Delivery ledger safety.** Updates of any number of workers, in any order and at any
times, whose claims bring tokens of their own. -/
theorem ledger_safe (updates : List LedgerUpdate)
    (distinct : (updates.filterMap claimToken).Nodup) : LedgerSafe updates where
  oneToken id token token' report report' accepted accepted' := by
    have rows := rows_after updates
    exact ((isOk_send_iff rows report).mp accepted).unique ((isOk_send_iff rows report').mp accepted')
  staleReport id token before middle after now lease claim report is won := by
    subst is
    have fresh : ∀ u ∈ claim :: after, claimToken u ≠ some token := by
      intro u mem same
      have used : token ∈ (middle ++ claim :: after).filterMap claimToken :=
        List.mem_filterMap.mpr ⟨u, List.mem_append_right middle mem, same⟩
      rw [List.filterMap_append, List.nodup_append] at distinct
      exact (List.nodup_cons.mp distinct.2.1).1 used
    have invalid := invalid_run (rows_after _)
      (invalid_of_claims (rows_after _) won) fresh
    rw [← ledgerAfter_append, List.append_assoc, List.cons_append] at invalid
    have refused := mt (isOk_send_iff (rows_after _) report).mp invalid
    refine ⟨refused, ?_⟩
    unfold ledgerStep
    rw [LedgerUpdate.execute]
    cases sent : report.send _ id token with
    | error e => rfl
    | ok ledger => exact absurd (Fallible.isOk_iff.mpr ⟨ledger, sent⟩) refused
  terminal before after id d is found terminal := by
    subst is
    rw [ledgerAfter_append]
    exact row_run_terminal (rows_after before) found terminal after
  attempts id d found := by
    obtain ⟨sound, counted⟩ := sound_after found
    exact ⟨counted, sound.bounded⟩
  claimable id d found live free token now lease room due retry := by
    refine (claims_iff (rows_after updates)).mpr ⟨token, now, lease, d, rfl, room, found, ?_⟩
    refine decide_eq_true ⟨?_, due, ?_⟩
    · revert live free
      unfold NotificationDelivery.isTerminal
      cases d.status <;> decide
    · cases waits : d.retryNotBeforeMs with
      | none => rfl
      | some retryAt => exact decide_eq_true (retry retryAt waits)

/-- A delivery whose first claim runs out of its lease and whose second is delivered. -/
def sampleUpdates : List LedgerUpdate :=
  let opened := NotificationDelivery.new "delivery-1" "incident-station:1" 1 1 .inApp .opened 100 ""
  [.schedule opened (.inl rfl), .claimDue "delivery-1" "claim-1" 100 30000,
    .expireClaims 30100 31100 50, .claimDue "delivery-1" "claim-2" 31100 30000,
    .report "delivery-1" "claim-1" (.delivered 31200),
    .report "delivery-1" "claim-2" (.delivered 31300)]

theorem ledger_safe_expired : LedgerSafe sampleUpdates ∧
    (row (ledgerAfter sampleUpdates) "delivery-1").map (fun d => (d.status, d.attemptCount)) =
      some (.delivered, 2) :=
  ⟨ledger_safe sampleUpdates (by decide +kernel), by decide +kernel⟩

/-- A retry reported by a worker whose clock is behind is due before the delivery is. -/
def earlyRetry : List LedgerUpdate :=
  let opened :=
    NotificationDelivery.new "delivery-1" "incident-station:1" 1 1 .inApp .opened 100000 ""
  [.schedule opened (.inl rfl), .claimDue "delivery-1" "claim-1" 100000 30000,
    .report "delivery-1" "claim-1" (.retry "delivery_adapter_failed" 51000 50000)]

/-- The retry time alone does not make a row claimable. -/
theorem early_retry_refused : ¬ ∀ updates : List LedgerUpdate,
    (updates.filterMap claimToken).Nodup → ∀ id d, row (ledgerAfter updates) id = some d →
    ¬ d.isTerminal → d.status ≠ .claimed → ∀ token now lease, 0 < lease →
    (∀ retryAt, d.retryNotBeforeMs = some retryAt → retryAt ≤ now) →
    (LedgerUpdate.claimDue id token now lease).claims (ledgerAfter updates) id := by
  intro claimable
  have waits : (row (ledgerAfter earlyRetry) "delivery-1").any (fun d =>
      ¬ d.isTerminal ∧ d.status ≠ .claimed ∧ d.retryNotBeforeMs = some 51000) := by decide +kernel
  have refused : ¬ (LedgerUpdate.claimDue "delivery-1" "claim-2" 60000 30000).claims
      (ledgerAfter earlyRetry) "delivery-1" := by decide +kernel
  obtain ⟨d, found, waits⟩ := (Option.any_eq_true _ _).mp waits
  obtain ⟨live, free, retry⟩ := of_decide_eq_true waits
  refine refused (claimable earlyRetry (by decide +kernel) _ d found live free _ _ _ (by decide) ?_)
  rintro retryAt at_
  cases retry.symm.trans at_
  decide

end RelayPool.Alerting
