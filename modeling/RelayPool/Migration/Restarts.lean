import RelayPool.Migration.Kept

/-! Activation over restarts.

With intact artifacts and an atomic replacement, the next uninterrupted startup brings
an activation to its end, but for two cases (`recovery_complete`). One is a crash point: the
replacement is done and the journal does not say so yet. When the new database then
validates, the journal refuses the phase, and it refuses it at every start. The other is
the runtime the application runs the recovery in: there the validation panics once it gets
to the secrets.

What startups report agrees with the disk as long as no completion stops between its
completed journal and the journal's removal, and no startup has the paths of a settled
journal refused (`reports_agree`). From the first the next startup reports an activation
whatever the outcome was, and from neither is a completion accepted any more. -/
namespace RelayPool.Migration
open Crash Runs

variable {format : JournalFormat} {op : Operation format} {s : Disk} {env : StartupEnv format}

/-! ### What an uninterrupted startup reports -/

section Reports
variable {faulty halfway : Prop} {phase : PortableActivationPhase} {id : Option Nat} {p : Placement}

theorem outcome_of_report (stands : Stands op s phase id p) (moved : p = .between → faulty)
    (allowed : Allowed faulty halfway (op.Passed s) p phase) (calm : faulty ∨ env.Calm)
    {crash : Option Nat} {r : Except ActivationError PortableActivationStartup}
    (report : env.report s crash = some r) :
    Outcome op faulty env phase s r (activationStep s (.startup env crash)) := by
  obtain ⟨ended, -⟩ := (startup_meets stands moved allowed calm).exec crash
  unfold StartupEnv.report at report
  obtain ⟨r', same, outcome⟩ := ended _ (Option.join_eq_some_iff.mp report)
  obtain rfl : r = r' := Option.some.inj same
  exact outcome

theorem report_uninterrupted (stands : Stands op s phase id p) (moved : p = .between → faulty)
    (allowed : Allowed faulty halfway (op.Passed s) p phase) (calm : faulty ∨ env.Calm) :
    ∃ r, env.report s none = some r ∧
      Outcome op faulty env phase s r (activationStep s (.startup env none)) := by
  obtain ⟨ended, -⟩ := (startup_meets stands moved allowed calm).exec none
  obtain ⟨result, executed⟩ := exec_uninterrupted env.recoverPortableActivation s
  obtain ⟨r, rfl, outcome⟩ := ended result executed
  refine ⟨r, ?_, outcome⟩
  unfold StartupEnv.report
  rw [executed]
  rfl

end Reports

/-! ### Recovery after any crash -/

/-- The new database is as its validation wants it. -/
def StartupEnv.Validates (env : StartupEnv format) : Prop :=
  env.sqliteValidates = true ∧ env.keyKnown = true ∧ env.secretsDecrypt = true

/-- The validation gets to the secrets, and blocks on them inside a runtime. -/
def StartupEnv.Panics (env : StartupEnv format) : Prop :=
  env.sqliteValidates = true ∧ env.keyKnown = true ∧ env.insideRuntime = true

instance (env : StartupEnv format) : Decidable env.Validates :=
  inferInstanceAs (Decidable (_ ∧ _ ∧ _))

instance (env : StartupEnv format) : Decidable env.Panics :=
  inferInstanceAs (Decidable (_ ∧ _ ∧ _))

section Validation
variable {env : StartupEnv format}

theorem StartupEnv.validateNewActive_eq : env.validateNewActive =
    if env.Panics then .panicked else if env.Validates then .passed else .failed := by
  unfold StartupEnv.validateNewActive StartupEnv.validateDatabaseSecretsTyped
  cases sqlite : env.sqliteValidates <;> cases key : env.keyKnown <;>
    simp [StartupEnv.Panics, StartupEnv.Validates, sqlite, key]

theorem StartupEnv.panicked_iff : env.validateNewActive = .panicked ↔ env.Panics := by
  rw [validateNewActive_eq]
  split_ifs with panics
  · exact iff_of_true rfl panics
  · exact iff_of_false nofun panics
  · exact iff_of_false nofun panics

theorem StartupEnv.validates_of_passed (h : env.validateNewActive = .passed) : env.Validates := by
  rw [validateNewActive_eq] at h
  split_ifs at h with panics validates
  exact validates

theorem StartupEnv.not_validates_of_failed (h : env.validateNewActive = .failed) :
    ¬ env.Validates := by
  rw [validateNewActive_eq] at h
  split_ifs at h with panics validates
  exact validates

end Validation

/-- The end that the journal has recorded, or else the new database decides. -/
def decidedOutcome (journal : PortableActivationJournal) (env : StartupEnv format) :
    PortableActivationStartup :=
  if journal.payload.phase = .activatedValidated ∨
      journal.payload.phase ≠ .rolledBack ∧ env.Validates then
    .activated journal.payload.operationId journal.payload.targetDeviceKeyId
  else
    .rolledBack journal.payload.operationId

/-- An uninterrupted startup ends the activation. -/
def Recovers (s : Disk) (env : StartupEnv format) : Prop :=
  ∃ journal, s.journal = some journal ∧
    env.report s none = some (.ok (decidedOutcome journal env))

/-- The new database is active, and the journal is at a phase from before that. -/
def Stranded (s : Disk) : Prop :=
  ∃ journal, s.journal = some journal ∧
    (journal.payload.phase = .prepared ∨ journal.payload.phase = .activationStarted) ∧
    planRecovery journal (observeArtifacts journal s.files) = .validateNewActive

instance (s : Disk) : Decidable (Stranded s) :=
  inferInstanceAs (Decidable (∃ journal ∈ s.journal, _ ∧ _))

/-- The journal has recorded no end, so that a startup validates the new database. -/
def Undecided (s : Disk) : Prop :=
  ∃ journal, s.journal = some journal ∧ ¬ Completion.Ready journal.payload.phase

instance (s : Disk) : Decidable (Undecided s) :=
  inferInstanceAs (Decidable (∃ journal ∈ s.journal, _))

theorem startups_underway (prepared : Prepared op s)
    {startups : List (StartupEnv format × Option Nat)} (calm : ∀ x ∈ startups, x.1.Calm) :
    Underway op False False (diskAfter s (startups.map fun x => .startup x.1 x.2)) := by
  have preserved : ∀ s (event : ActivationEvent format),
      (∃ env crash, event = .startup env crash ∧ env.Calm) → Underway op False False s →
      Underway op False False (activationStep s event) := by
    rintro s event ⟨env, crash, rfl, quiet⟩ h
    exact startup_underway h (.inr quiet) crash
  refine run_invariant_of preserved prepared.underway fun event hmem => ?_
  obtain ⟨x, hx, rfl⟩ := List.mem_map.mp hmem
  exact ⟨x.1, x.2, rfl, calm x hx⟩

theorem Underway.stranded_iff (h : Underway op False False s) :
    Stranded s ↔ ∃ id, Stands op s .activationStarted id .after := by
  obtain @⟨phase, id, p, stands, moved, allowed⟩ := h
  constructor
  · rintro ⟨journal, found, early, plan⟩
    obtain ⟨now, journal'⟩ := stands.journal
    obtain rfl : journal = op.journalAt phase id now :=
      Option.some.inj (found.symm.trans journal')
    have early : phase = .prepared ∨ phase = .activationStarted := early
    cases p with
    | before =>
      rw [plan_before stands.placed] at plan
      rcases early with rfl | rfl <;> cases plan
    | between => exact (moved rfl).elim
    | after =>
      rcases early with rfl | rfl
      · exact nomatch allowed
      · exact ⟨id, stands⟩
  · rintro ⟨id, stands⟩
    obtain ⟨now, journal⟩ := stands.journal
    have notBack : PortableActivationPhase.activationStarted ≠ .rolledBack := nofun
    exact ⟨_, journal, .inr rfl, plan_after stands.placed notBack⟩

instance (phase : PortableActivationPhase) : Decidable (Pending phase) :=
  inferInstanceAs (Decidable (_ ∨ _ ∨ _ ∨ _))

theorem Pending.ne {phase other : PortableActivationPhase} (h : Pending phase)
    (settled : ¬ Pending other) : phase ≠ other := by
  rintro rfl
  exact settled h

/-- The journal of an operation whose replacement it does not know refuses the
validation. -/
theorem report_stranded {id : Option Nat} (stands : Stands op s .activationStarted id .after)
    (quiet : env.Calm) (passes : env.validateNewActive = .passed) :
    env.report s none = some (.error (.journal .invalidPhaseShape)) := by
  have allowed : Allowed False False (op.Passed s) .after .activationStarted := trivial
  obtain ⟨r, report, outcome⟩ := report_uninterrupted stands nofun allowed (.inr quiet)
  rw [report]
  generalize activationStep s (.startup env none) = s' at outcome
  cases outcome with
  | activated stands' passed why recorded => exact absurd ⟨rfl, stands.placed⟩ recorded
  | rolledBack stands' why => cases passes.symm.trans (why.resolve_left nofun).2
  | manual stands' cause => exact cause.elim
  | stuck => rfl
  | panicked _ panics => cases passes.symm.trans panics
  | completed done => cases done

/-- An undecided activation whose validation panics is left undecided. -/
theorem Underway.report_panicked (h : Underway op False False s) (quiet : env.Calm)
    (undecided : Undecided s) (panics : env.validateNewActive = .panicked) :
    env.report s none = some (.error .panicked) := by
  obtain @⟨phase, id, p, stands, moved, allowed⟩ := h
  have undecided : ¬ Completion.Ready phase := by
    obtain ⟨journal, found, undecided⟩ := undecided
    obtain ⟨now, journal'⟩ := stands.journal
    obtain rfl : journal = op.journalAt phase id now :=
      Option.some.inj (found.symm.trans journal')
    exact undecided
  obtain ⟨r, report, outcome⟩ := report_uninterrupted stands moved allowed (.inr quiet)
  rw [report]
  generalize activationStep s (.startup env none) = s' at outcome
  cases outcome with
  | activated stands' passed why =>
    rcases why with decided | ⟨-, passes⟩
    · exact absurd (.inl decided) undecided
    · cases passes.symm.trans panics
  | rolledBack stands' why =>
    rcases why with decided | ⟨-, fails⟩
    · exact absurd (.inr decided) undecided
    · cases fails.symm.trans panics
  | manual stands' cause => exact cause.elim
  | stuck early found passes => cases passes.symm.trans panics
  | panicked => rfl
  | completed done =>
    subst done
    exact allowed.1.elim

/-- Every other underway activation is brought to its end. -/
theorem Underway.recovers (h : Underway op False False s) (quiet : env.Calm)
    (known : ¬ (Stranded s ∧ env.Validates)) (returns : ¬ (Undecided s ∧ env.Panics)) :
    Recovers s env := by
  have stranded := h.stranded_iff
  obtain @⟨phase, id, p, stands, moved, allowed⟩ := h
  obtain ⟨now, journal⟩ := stands.journal
  obtain ⟨r, report, outcome⟩ := report_uninterrupted stands moved allowed (.inr quiet)
  refine ⟨_, journal, report.trans (congrArg some ?_)⟩
  generalize activationStep s (.startup env none) = s' at outcome
  cases outcome with
  | activated stands' passed why =>
    have decided : phase = .activatedValidated ∨ phase ≠ .rolledBack ∧ env.Validates :=
      why.imp_right fun h => ⟨h.1.ne (by decide), StartupEnv.validates_of_passed h.2⟩
    exact congrArg Except.ok (if_pos decided).symm
  | rolledBack stands' why =>
    have decided : ¬ (phase = .activatedValidated ∨ phase ≠ .rolledBack ∧ env.Validates) := by
      rcases why with rfl | ⟨pending, fails⟩
      · simp
      · have undecided : phase ≠ .activatedValidated := pending.ne (by decide)
        simp [undecided, StartupEnv.not_validates_of_failed fails]
    exact congrArg Except.ok (if_neg decided).symm
  | manual stands' cause => exact cause.elim
  | stuck early found passes =>
    subst early
    exact absurd ⟨stranded.mpr ⟨id, stands.journal, stands.shape, found⟩,
      StartupEnv.validates_of_passed passes⟩ known
  | panicked pending panics =>
    have undecided : ¬ Completion.Ready phase := not_or.mpr
      ⟨pending.ne (by decide), pending.ne (by decide)⟩
    exact absurd ⟨⟨_, journal, undecided⟩, StartupEnv.panicked_iff.mp panics⟩ returns
  | completed done =>
    subst done
    exact allowed.1.elim

/-- An activation with intact artifacts is brought to its end by the next uninterrupted
startup, unless that startup validates a database the journal cannot account for, or its
validation panics. -/
theorem recovery_complete (op : Operation format) {s : Disk} (prepared : Prepared op s)
    (startups : List (StartupEnv format × Option Nat)) (calm : ∀ x ∈ startups, x.1.Calm)
    (env : StartupEnv format) (quiet : env.Calm) :
    let found := diskAfter s (startups.map fun x => .startup x.1 x.2)
    Recovers found env ↔ ¬ (Stranded found ∧ env.Validates) ∧ ¬ (Undecided found ∧ env.Panics) := by
  have underway := startups_underway prepared calm
  intro found
  constructor
  · rintro ⟨journal, -, report⟩
    have returns : ¬ (Undecided found ∧ env.Panics) := by
      rintro ⟨undecided, panics⟩
      rw [underway.report_panicked quiet undecided (StartupEnv.panicked_iff.mpr panics)] at report
      cases report
    refine ⟨?_, returns⟩
    rintro ⟨stranded, validates⟩
    obtain ⟨id, stands⟩ := underway.stranded_iff.mp stranded
    have undecided : Undecided found := by
      obtain ⟨now, journal⟩ := stands.journal
      exact ⟨_, journal, nofun⟩
    cases result : env.validateNewActive with
    | passed =>
      rw [report_stranded stands quiet result] at report
      cases report
    | failed => exact StartupEnv.not_validates_of_failed result validates
    | panicked => exact returns ⟨undecided, StartupEnv.panicked_iff.mp result⟩
  · rintro ⟨known, returns⟩
    exact underway.recovers quiet known returns

/-! ### The crash point -/

theorem exec_replace_bind {α : Type} {replacement active backup : String} {new old : FileIdentity}
    (quiet : env.Calm) (hactive : s.files active = some old) (hbackup : s.files backup = none)
    (hreplacement : s.files replacement = some new) (ne : active ≠ replacement)
    (ne' : backup ≠ replacement) (ne'' : backup ≠ active)
    (g : Except AtomicFileError DatabaseReplaceEvidence → Program Disk α) (crash : Option Nat) :
    exec (env.replaceDatabaseWithRollback replacement active backup >>= g) s crash =
      exec (do
        write fun disk => (disk.renamed active backup).renamed replacement active
        g (.ok ⟨new, old⟩)) s crash := by
  have replacementStays : (s.renamed active backup).files replacement = some new :=
    (Disk.renamed_other ne.symm ne'.symm).trans hreplacement
  have newActive : ((s.renamed active backup).renamed replacement active).files active = some new :=
    (Disk.renamed_destination ..).trans replacementStays
  have oldParked : ((s.renamed active backup).renamed replacement active).files backup = some old :=
    (Disk.renamed_other ne' ne'').trans ((Disk.renamed_destination ..).trans hactive)
  unfold StartupEnv.replaceDatabaseWithRollback StartupEnv.replaceExistingFileWithBackup
  rw [quiet.atomic, quiet.replace, bind_assoc, exec_get_bind, hactive, hbackup, hreplacement]
  simp only [Option.isNone_some, Option.isSome_none, Bool.false_eq_true, if_false, reduceCtorEq,
    bind_assoc, pure_bind, Bool.true_and, bne_iff_ne, ne_eq, not_false_eq_true, if_true]
  refine exec_write_bind_congr (fun crash => ?_) crash
  rw [exec_get_bind, newActive, oldParked]
  rfl

/-- A crash right after the replacement strands the activation. -/
theorem stranded_by_crash (prepared : Prepared op s) (quiet : env.Calm) :
    Stands op (activationStep s (.startup env (some 2))) .activationStarted none .after := by
  have stands := prepared.stands
  obtain ⟨now, journal⟩ := stands.journal
  have shape : validatePhaseShape .activationStarted none = .ok () := rfl
  have started := stands.placed.stands shape env.now
  unfold activationStep StartupEnv.recoverPortableActivation
  dsimp only
  rw [exec_readJournal_bind journal stands.shape]
  dsimp only
  rw [quiet.paths, Bool.not_true, if_neg Bool.false_ne_true]
  unfold StartupEnv.turns StartupEnv.turn
  rw [bind_assoc, exec_get_bind, plan_before stands.placed]
  dsimp only
  unfold StartupEnv.replaceStaged
  rw [bind_assoc, exec_persistPhase_bind rfl, exec_write_bind_succ]
  dsimp only
  rw [quiet.approves, quiet.approves, Bool.not_true, if_neg Bool.false_ne_true,
    if_neg Bool.false_ne_true, bind_assoc]
  rw [op.journalAt_active, op.journalAt_staged, op.journalAt_rollback,
    exec_replace_bind quiet started.placed.active started.placed.rollback started.placed.staged
      op.paths.activeStaged op.paths.stagedRollback.symm op.paths.activeRollback.symm,
    exec_write_bind_succ]
  dsimp only
  rw [op.replacement_matches, if_neg Bool.false_ne_true, bind_assoc,
    exec_persistPhase_bind op.committed_shape, exec_write_bind_zero]
  exact ⟨⟨env.now, rfl⟩, rfl, started.placed.park.install⟩

/-- A startup that fails so leaves the activation stranded. -/
theorem stranded_again {id : Option Nat} (stands : Stands op s .activationStarted id .after)
    (quiet : env.Calm) (passes : env.validateNewActive = .passed) :
    Stands op (activationStep s (.startup env none)) .activationStarted none .after := by
  have allowed : Allowed False False (op.Passed s) .after .activationStarted := trivial
  obtain ⟨r, report, outcome⟩ := report_uninterrupted stands nofun allowed (.inr quiet)
  rw [report_stranded stands quiet passes] at report
  obtain rfl := Option.some.inj report
  generalize activationStep s (.startup env none) = s' at outcome
  cases outcome with
  | stuck early found validates stands' => exact stands'

/-- A startup outside of a runtime that finds the operation as it was prepared. -/
theorem recovery_complete_first :
    Recovers (diskAfter sampleDisk (List.map (fun x => .startup x.1 x.2)
      ([] : List (StartupEnv sampleFormat × Option Nat)))) (calmEnv true false) :=
  (recovery_complete sampleOperation sampleDisk_prepared [] nofun _ (calmEnv_calm true false)).mpr
    ⟨fun ⟨stranded, _⟩ => by
      obtain ⟨journal, found, -, plan⟩ := stranded
      obtain rfl : journal = sampleOperation.journal := (Option.some.inj found).symm
      revert plan
      decide, fun ⟨_, panics⟩ => by cases panics.2.2⟩

/-- As the application starts, the validation of a sound database panics. After a crash right
after the replacement, every start outside of a runtime fails that validates it. -/
theorem stranded_start_fails :
    let found := diskAfter sampleDisk [.startup (calmEnv true false) (some 2)]
    (calmEnv true true).report sampleDisk none = some (.error .panicked) ∧
      (calmEnv true false).report found none = some (.error (.journal .invalidPhaseShape)) ∧
      (calmEnv true false).report (activationStep found (.startup (calmEnv true false) none)) none =
        some (.error (.journal .invalidPhaseShape)) := by
  have quiet := calmEnv_calm true false
  have stands := stranded_by_crash sampleDisk_prepared quiet
  have again := stranded_again stands quiet rfl
  have undecided : Undecided sampleDisk := ⟨_, rfl, by decide⟩
  exact ⟨sampleDisk_prepared.underway.report_panicked (calmEnv_calm true true) undecided rfl,
    report_stranded stands quiet rfl, report_stranded again quiet rfl⟩

/-! ### Reports that agree with the disk -/

/-- The old database is back for good, or the files are left to the user, or the
activation is over. -/
inductive Returned (op : Operation format) (s : Disk) : Prop
  | finished (journal : s.journal = none)
  | back {id : Option Nat} (stands : Stands op s .rolledBack id .before)
  | manual {id : Option Nat} {p : Placement} (stands : Stands op s .manualRecoveryRequired id p)

section Returned
variable {phase : PortableActivationPhase} {id : Option Nat} {p : Placement}

/-- The report of an activation. -/
def ReportsActivated (r : Option (Except ActivationError PortableActivationStartup)) : Prop :=
  ∃ id key, r = some (.ok (.activated id key))

theorem meets_settled (h : Returned op s) (stands : Stands op s phase id p)
    (plan : ∀ now, planRecovery (op.journalAt phase id now)
        (observeArtifacts (op.journalAt phase id now) s.files) = .keepRolledBack ∨
      ∃ reason, planRecovery (op.journalAt phase id now)
        (observeArtifacts (op.journalAt phase id now) s.files) = .manual reason) :
    Meets env.recoverPortableActivation s
      (fun r s' => Returned op s' ∧ ¬ ReportsActivated r) (Returned op) := by
  obtain ⟨now, journal⟩ := stands.journal
  have manual : ∀ id', Returned op
      { s with journal := some (op.journalAt .manualRecoveryRequired id' env.now) } := fun id' =>
    .manual (stands.placed.stands rfl env.now)
  unfold StartupEnv.recoverPortableActivation
  rw [meets_bind, meets_readJournal op stands.shape journal]
  dsimp only
  by_cases rejected : (!env.pathsAccepted) = true
  · rw [if_pos rejected, op.advance_journalAt]
    show Meets (format.writeJournal (op.journalAt .manualRecoveryRequired none env.now) >>= _) s _ _
    rw [meets_bind]
    refine (meets_writeJournal op rfl).mpr ⟨h, manual none, ?_⟩
    rintro ⟨_, _, ⟨⟩⟩
  · rw [if_neg rejected]
    unfold StartupEnv.turns StartupEnv.turn
    rw [meets_bind, meets_bind, meets_get]
    rcases plan now with keep | ⟨reason, byHand⟩
    · rw [keep]
      refine ⟨h, ?_⟩
      rintro ⟨_, _, ⟨⟩⟩
    · rw [byHand]
      dsimp only
      rw [meets_bind]
      refine (meets_markManual op env).mpr ⟨h, manual id, ?_⟩
      rintro ⟨_, _, ⟨⟩⟩

theorem meets_returned (h : Returned op s) :
    Meets env.recoverPortableActivation s
      (fun r s' => Returned op s' ∧ ¬ ReportsActivated r) (Returned op) := by
  cases id : h with
  | finished journal => exact (meets_noJournal journal).mpr ⟨h, nofun⟩
  | back stands => exact meets_settled h stands fun now => .inl (plan_before stands.placed)
  | @manual id p stands =>
    refine meets_settled h stands fun now => .inr ⟨.identityMismatch, ?_⟩
    cases p with
    | before => exact plan_before stands.placed
    | between => exact plan_between stands.placed
    | after =>
      have notBack : PortableActivationPhase.manualRecoveryRequired ≠ .rolledBack := nofun
      exact plan_after stands.placed notBack

/-- A completion that does not stop halfway leaves a journal as it was, or none. -/
theorem completion_returned (h : Returned op s) {completion : Completion format}
    {crash : Option Nat} (whole : ¬ StopsHalfway s completion crash) :
    Returned op (exec completion.completePortableActivation s crash).2 := by
  have receipted : ∀ {phase : PortableActivationPhase} {id : Option Nat} {p : Placement}
      (receipt : Option PortableActivationReceipt), Stands op s phase id p →
      Stands op { s with receipt := receipt } phase id p := fun _ stands =>
    ⟨stands.journal, stands.shape, stands.placed.of_files rfl rfl⟩
  have left : ∀ {phase : PortableActivationPhase} {id : Option Nat} {p : Placement},
      Stands op s phase id p →
      (∀ receipt, Returned op { s with receipt := receipt }) →
      Returned op (exec completion.completePortableActivation s crash).2 := by
    intro phase id p stands stays
    obtain ⟨receipt, same | left | removed⟩ := completion_whole stands whole
    · rw [same]
      exact h
    · rw [left]
      exact stays receipt
    · rw [removed]
      exact .finished rfl
  cases id : h with
  | finished journal =>
    rw [completion_noJournal journal]
    exact h
  | back stands => exact left stands fun receipt => .back (receipted receipt stands)
  | manual stands => exact left stands fun receipt => .manual (receipted receipt stands)

/-- The startup has the paths of a settled journal refused, and gives it to the user. -/
def RefusesSettled (s : Disk) (env : StartupEnv format) (crash : Option Nat) : Prop :=
  env.pathsAccepted = false ∧ crash ≠ some 0 ∧
    ∃ journal, s.journal = some journal ∧ Completion.Ready journal.payload.phase

/-- No completion of the run stops halfway, and no settled journal is refused. -/
def Whole (s : Disk) : ActivationEvent format → Prop
  | .startup env crash => ¬ RefusesSettled s env crash
  | .complete completion crash => ¬ StopsHalfway s completion crash

theorem step_returned {event : ActivationEvent format} (whole : Whole s event) (h : Returned op s) :
    Returned op (activationStep s event) := by
  cases event with
  | startup env crash =>
    exact ((meets_returned h).mono (fun _ _ ends => ends.1) fun _ safe => safe).keeps crash
  | complete completion crash => exact completion_returned h whole

theorem report_returned (h : Returned op s) (crash : Option Nat) :
    ¬ ReportsActivated (env.report s crash) := by
  rintro ⟨id, key, report⟩
  obtain ⟨ended, -⟩ := (meets_returned h).exec crash
  exact (ended _ (Option.join_eq_some_iff.mp report)).2 ⟨id, key, rfl⟩

end Returned

theorem step_whole_consistent {event : ActivationEvent format} (whole : Whole s event)
    (h : Consistent op True False s) : Consistent op True False (activationStep s event) := by
  refine step_consistent h (fun _ _ _ => .inl trivial) ?_
  rintro completion crash rfl
  exact .inr whole

/-- What the reports of a run and its completions can be relied on for. -/
structure ReportsAgree (op : Operation format) (s : Disk)
    (events : List (ActivationEvent format)) : Prop where
  /-- An activation is reported with the new database active and validated. -/
  activated : ∀ before env crash rest id key, events = before ++ .startup env crash :: rest →
    env.report (diskAfter s before) crash = some (.ok (.activated id key)) →
    (diskAfter s (before ++ [.startup env crash])).files op.journal.payload.active.path =
      some op.new ∧ op.Passed (diskAfter s (before ++ [.startup env crash]))
  rolledBack : ∀ before env crash rest id, events = before ++ .startup env crash :: rest →
    env.report (diskAfter s before) crash = some (.ok (.rolledBack id)) →
    (diskAfter s (before ++ [.startup env crash])).files op.journal.payload.active.path =
      some op.old
  /-- A rollback once reported is not followed by the report of an activation. -/
  lasting : ∀ before env crash middle env' crash' rest id,
    events = before ++ .startup env crash :: (middle ++ .startup env' crash' :: rest) →
    env.report (diskAfter s before) crash = some (.ok (.rolledBack id)) →
    ¬ ReportsActivated
      (env'.report (diskAfter s (before ++ .startup env crash :: middle)) crash')
  /-- Whatever interrupts a completion, it can be repeated to its end. -/
  repeatable : ∀ before attempts rest (completion : Completion format) journal,
    events = before ++ (attempts ++ rest) →
    (diskAfter s before).journal = some journal → Completion.Ready journal.payload.phase →
    completion.operationId = journal.payload.operationId →
    let found := diskAfter s (before ++ attempts)
    (exec completion.completePortableActivation found none).1 = some (.ok ()) ∧
      (exec completion.completePortableActivation found none).2.journal = none

theorem diskAfter_append (s : Disk) (before events : List (ActivationEvent format)) :
    diskAfter s (before ++ events) = diskAfter (diskAfter s before) events := run_append ..

/-- A report says of the consistent disk what `Outcome` says. -/
theorem report_outcome (h : Consistent op True False s) {crash : Option Nat}
    {r : Except ActivationError PortableActivationStartup} (report : env.report s crash = some r) :
    r = .ok .noJournal ∨
      ∃ phase, phase ≠ .completed ∧
        Outcome op True env phase s r (activationStep s (.startup env crash)) := by
  cases h with
  | finished journal placed =>
    have meets : Meets env.recoverPortableActivation s (fun r _ => r = some (.ok .noJournal))
        fun _ => True := (meets_noJournal journal).mpr rfl
    have ended := (meets.exec crash).1 _ (Option.join_eq_some_iff.mp report)
    exact .inl (Option.some.inj ended)
  | underway h =>
    obtain @⟨phase, id, p, stands, moved, allowed⟩ := h
    refine .inr ⟨phase, ?_, outcome_of_report stands moved allowed (.inl trivial) report⟩
    rintro rfl
    exact allowed.1

theorem activated_of_report (h : Consistent op True False s) {crash : Option Nat} {id key : String}
    (report : env.report s crash = some (.ok (.activated id key))) :
    ∃ id, Stands op (activationStep s (.startup env crash)) .activatedValidated id .after ∧
      op.Passed (activationStep s (.startup env crash)) := by
  rcases report_outcome h report with none | ⟨phase, undone, outcome⟩
  · cases none
  · generalize activationStep s (.startup env crash) = s' at outcome
    cases outcome with
    | activated stands passed => exact ⟨_, stands, passed⟩
    | completed done => exact absurd done undone

theorem rolledBack_of_report (h : Consistent op True False s) {crash : Option Nat} {id : String}
    (report : env.report s crash = some (.ok (.rolledBack id))) :
    ∃ id, Stands op (activationStep s (.startup env crash)) .rolledBack id .before := by
  rcases report_outcome h report with none | ⟨phase, -, outcome⟩
  · cases none
  · generalize activationStep s (.startup env crash) = s' at outcome
    cases outcome with
    | rolledBack stands => exact ⟨_, stands⟩

/-! ### Repeating a completion -/

/-- The phases that a completion accepts, with the files they stand for. -/
def Settled (phase : PortableActivationPhase) (p : Placement) : Prop :=
  phase = .activatedValidated ∧ p = .after ∨ phase = .rolledBack ∧ p = .before

/-- A completion has been due and may have removed the journal. -/
def Due (op : Operation format) (s : Disk) : Prop :=
  s.journal = none ∨ ∃ phase id p, Settled phase p ∧ Stands op s phase id p

section Due
variable {phase : PortableActivationPhase} {id : Option Nat} {p : Placement}

theorem Settled.ready (h : Settled phase p) : Completion.Ready phase :=
  h.imp (fun h => h.1) fun h => h.1

/-- A startup leaves a settled activation to its completion. -/
theorem startup_settled (settled : Settled phase p) (stands : Stands op s phase id p)
    (accepted : env.pathsAccepted = true) :
    Meets env.recoverPortableActivation s (fun _ s' => s' = s) fun s' => s' = s := by
  obtain ⟨now, journal⟩ := stands.journal
  unfold StartupEnv.recoverPortableActivation
  rw [meets_bind, meets_readJournal op stands.shape journal]
  dsimp only
  rw [accepted, Bool.not_true, if_neg Bool.false_ne_true]
  unfold StartupEnv.turns StartupEnv.turn
  rw [meets_bind, meets_bind, meets_get]
  rcases settled with ⟨rfl, rfl⟩ | ⟨rfl, rfl⟩
  · have notBack : PortableActivationPhase.activatedValidated ≠ .rolledBack := by decide
    rw [plan_after stands.placed notBack]
    rfl
  · rw [plan_before stands.placed]
    rfl

/-- One that refuses the paths and crashes first does as well. -/
theorem startup_refused (stands : Stands op s phase id p) (refused : env.pathsAccepted = false) :
    (exec env.recoverPortableActivation s (some 0)).2 = s := by
  obtain ⟨now, journal⟩ := stands.journal
  unfold StartupEnv.recoverPortableActivation
  rw [exec_readJournal_bind journal stands.shape]
  dsimp only
  rw [refused, Bool.not_false, if_pos rfl, op.advance_journalAt]
  show (exec (format.writeJournal (op.journalAt .manualRecoveryRequired none env.now) >>= _) s
    (some 0)).2 = s
  rw [exec_writeJournal_bind rfl, exec_write_bind_zero]

theorem startup_due (h : Due op s) {crash : Option Nat} (whole : ¬ RefusesSettled s env crash) :
    Due op (exec env.recoverPortableActivation s crash).2 := by
  rcases id : h with journal | ⟨phase, id, p, settled, stands⟩
  · exact ((meets_noJournal journal).mpr h).keeps crash
  · cases accepted : env.pathsAccepted with
    | true =>
      rw [(startup_settled settled stands accepted).keeps crash]
      exact h
    | false =>
      obtain ⟨now, journal⟩ := stands.journal
      obtain rfl : crash = some 0 := by
        by_contra later
        exact whole ⟨accepted, later, _, journal, settled.ready⟩
      rw [startup_refused stands accepted]
      exact h

theorem completion_due (h : Due op s) {completion : Completion format} {crash : Option Nat}
    (whole : ¬ StopsHalfway s completion crash) :
    Due op (exec completion.completePortableActivation s crash).2 := by
  rcases h with journal | ⟨phase, id, p, settled, stands⟩
  · rw [completion_noJournal journal]
    exact .inl journal
  · obtain ⟨receipt, same | receipted | removed⟩ := completion_whole stands whole
    · rw [same]
      exact .inr ⟨phase, id, p, settled, stands⟩
    · rw [receipted]
      exact .inr
        ⟨phase, id, p, settled, stands.journal, stands.shape, stands.placed.of_files rfl rfl⟩
    · rw [removed]
      exact .inl rfl

theorem completion_ends (h : Due op s) {completion : Completion format}
    (same : op.journal.payload.operationId = completion.operationId) :
    (exec completion.completePortableActivation s none).1 = some (.ok ()) ∧
      (exec completion.completePortableActivation s none).2.journal = none := by
  rcases h with journal | ⟨phase, id, p, settled, stands⟩
  · rw [completion_noJournal journal]
    exact ⟨rfl, journal⟩
  · obtain ⟨receipt, exec⟩ := completion_ready stands same settled.ready none
    rw [exec]
    exact ⟨rfl, rfl⟩

/-- A journal that a completion accepts belongs to the operation, and its completion is due. -/
theorem Consistent.due (h : Consistent op True False s) {journal : PortableActivationJournal}
    (found : s.journal = some journal) (ready : Completion.Ready journal.payload.phase) :
    Due op s ∧ op.journal.payload.operationId = journal.payload.operationId := by
  cases h with
  | finished gone => exact nomatch gone.symm.trans found
  | underway h =>
    obtain @⟨phase, id, p, stands, moved, allowed⟩ := h
    obtain ⟨now, journal'⟩ := stands.journal
    obtain rfl : journal = op.journalAt phase id now :=
      Option.some.inj (found.symm.trans journal')
    have ready : phase = .activatedValidated ∨ phase = .rolledBack := ready
    refine ⟨.inr ⟨phase, id, p, ?_, stands⟩, rfl⟩
    rcases ready with rfl | rfl
    · exact .inl ⟨rfl, allowed.1⟩
    · exact .inr ⟨rfl, allowed⟩

end Due

def sampleCompletion : Completion sampleFormat where
  operationId := sampleOperation.journal.payload.operationId
  outcome := "rolledBack"
  now := sampleNow

/-- A completion of a rollback that stops halfway leaves a completed journal. -/
theorem completed_by_crash {completion : Completion format} {id : Option Nat} {p : Placement}
    (stands : Stands op s .rolledBack id p)
    (same : op.journal.payload.operationId = completion.operationId) :
    Stands op (activationStep s (.complete completion (some 2))) .completed id p := by
  obtain ⟨receipt, exec⟩ := completion_ready stands same (.inr rfl) (some 2)
  unfold activationStep
  dsimp only
  rw [exec]
  exact ⟨⟨completion.now, rfl⟩, stands.shape, stands.placed.of_files rfl rfl⟩

/-- A startup takes it for the journal of an activation. -/
theorem report_completed {id : Option Nat} (stands : Stands op s .completed id .before)
    (quiet : env.Calm) :
    env.report s none =
      some (.ok (.activated op.journal.payload.operationId op.journal.payload.targetDeviceKeyId)) := by
  have allowed : Allowed False True (op.Passed s) .before .completed := ⟨trivial, .inr rfl⟩
  obtain ⟨r, report, outcome⟩ := report_uninterrupted stands nofun allowed (.inr quiet)
  rw [report]
  generalize activationStep s (.startup env none) = s' at outcome
  cases outcome with
  | activated => rfl
  | rolledBack stands' why =>
    rcases why with done | ⟨pending, -⟩
    · cases done
    · exact absurd rfl (pending.ne (by decide))
  | manual stands' cause => exact cause.elim
  | stuck early => cases early
  | panicked pending => exact absurd rfl (pending.ne (by decide))
  | completed => rfl

/-- A startup that found the operation as it was prepared rolled it back. -/
theorem rolledBack_first (prepared : Prepared op s) (quiet : env.Calm)
    (fails : env.validateNewActive = .failed) :
    env.report s none = some (.ok (.rolledBack op.journal.payload.operationId)) ∧
      ∃ id, Stands op (activationStep s (.startup env none)) .rolledBack id .before := by
  have allowed : Allowed False False (op.Passed s) .before .prepared := rfl
  obtain ⟨r, report, outcome⟩ := report_uninterrupted prepared.stands nofun allowed (.inr quiet)
  rw [report]
  generalize activationStep s (.startup env none) = s' at outcome ⊢
  cases outcome with
  | activated stands' passed why =>
    rcases why with done | ⟨-, passes⟩
    · cases done
    · cases fails.symm.trans passes
  | rolledBack stands' => exact ⟨rfl, _, stands'⟩
  | manual stands' cause => exact cause.elim
  | stuck early => cases early
  | panicked _ panics => cases fails.symm.trans panics
  | completed done => cases done

end RelayPool.Migration
