import RelayPool.Migration.Placement

/-! What a startup leaves and reports.

The phase of the journal bounds where the files can be (`Allowed`), and a startup,
wherever it stops, leaves a phase and files that belong together (`Underway`). One
that is not interrupted ends as `Outcome` says: with the new database validated and
active, with the old one back, with manual recovery where the environment gave cause
for it, with an error of the journal or in a panic. The error has one source: a journal
that knows no file for the old database, of an operation whose replacement is done. The
panic is the validation's, of a startup that runs inside an async runtime. -/
namespace RelayPool.Migration
open Crash

section
variable {format : JournalFormat}

/-- The environment gives no cause for manual recovery. -/
structure StartupEnv.Calm (env : StartupEnv format) : Prop where
  paths : env.pathsAccepted = true
  approves : ∀ path, env.approves path = true
  atomic : env.atomicReplace = true
  replace : env.replaceFault = none

/-- The journal at a phase and the files at a placement. -/
structure Stands (op : Operation format) (s : Disk) (phase : PortableActivationPhase)
    (id : Option Nat) (p : Placement) : Prop where
  journal : ∃ now, s.journal = some (op.journalAt phase id now)
  shape : validatePhaseShape phase id = .ok ()
  placed : Placed op p s

/-- Where the files can be at a phase; `faulty` says that the run has had cause for
manual recovery, `halfway` that a completion may have stopped before it removed the
journal, and `passed` that the new database has passed validation. -/
def Allowed (faulty halfway passed : Prop) (p : Placement) : PortableActivationPhase → Prop
  | .prepared => p = .before
  | .activationStarted | .rollbackStarted => True
  | .replacementCommitted => p = .after
  | .activatedValidated => p = .after ∧ passed
  | .rolledBack => p = .before
  | .manualRecoveryRequired => faulty
  | .completed => halfway ∧ ((p = .after ∧ passed) ∨ p = .before)

/-- The new database has passed validation as the active one. -/
def Operation.Passed (op : Operation format) (s : Disk) : Prop := op.new ∈ s.validated

/-- The activation has a journal, at a phase that fits the files. -/
inductive Underway (op : Operation format) (faulty halfway : Prop) (s : Disk) : Prop
  | intro {phase : PortableActivationPhase} {id : Option Nat} {p : Placement}
      (stands : Stands op s phase id p) (moved : p = .between → faulty)
      (allowed : Allowed faulty halfway (op.Passed s) p phase)

/-- The phases in which the activation is still to be decided. -/
def Pending (phase : PortableActivationPhase) : Prop :=
  phase = .prepared ∨ phase = .activationStarted ∨ phase = .replacementCommitted ∨
    phase = .rollbackStarted

/-- The pending phases that allow the new database to be active. -/
def Unsettled (phase : PortableActivationPhase) : Prop :=
  phase = .activationStarted ∨ phase = .replacementCommitted ∨ phase = .rollbackStarted

/-- How an uninterrupted startup ends that found the journal at `phase`. -/
inductive Outcome (op : Operation format) (faulty : Prop) (env : StartupEnv format)
    (phase : PortableActivationPhase) (s : Disk) :
    Except ActivationError PortableActivationStartup → Disk → Prop
  | activated {s' : Disk} {id : Option Nat} (stands : Stands op s' .activatedValidated id .after)
      (passed : op.Passed s')
      (why : phase = .activatedValidated ∨ Pending phase ∧ env.validateNewActive = .passed)
      (recorded : ¬ (phase = .activationStarted ∧ Placed op .after s)) :
      Outcome op faulty env phase s
        (.ok (.activated op.journal.payload.operationId op.journal.payload.targetDeviceKeyId)) s'
  | rolledBack {s' : Disk} {id : Option Nat} (stands : Stands op s' .rolledBack id .before)
      (why : phase = .rolledBack ∨ Pending phase ∧ env.validateNewActive = .failed) :
      Outcome op faulty env phase s (.ok (.rolledBack op.journal.payload.operationId)) s'
  | manual {s' : Disk} {id : Option Nat} {p : Placement} {reason : PortableActivationManualReason}
      (stands : Stands op s' .manualRecoveryRequired id p) (cause : faulty) :
      Outcome op faulty env phase s (.ok (.manualRecoveryRequired reason)) s'
  /-- The new database is active and validates, and the journal cannot say so. -/
  | stuck {s' : Disk} (early : phase = .activationStarted) (found : Placed op .after s)
      (validates : env.validateNewActive = .passed)
      (stands : Stands op s' .activationStarted none .after) :
      Outcome op faulty env phase s (.error (.journal .invalidPhaseShape)) s'
  /-- The new database is active, and its validation does not return. -/
  | panicked {s' : Disk} {late : PortableActivationPhase} {id : Option Nat}
      (pending : Pending phase) (panics : env.validateNewActive = .panicked)
      (unsettled : Unsettled late) (stands : Stands op s' late id .after) :
      Outcome op faulty env phase s (.error .panicked) s'
  /-- A completed journal is taken for an activation. -/
  | completed (done : phase = .completed) :
      Outcome op faulty env phase s
        (.ok (.activated op.journal.payload.operationId op.journal.payload.targetDeviceKeyId)) s

variable {op : Operation format} {faulty halfway : Prop} {env : StartupEnv format} {s : Disk}
  {phase : PortableActivationPhase} {id : Option Nat} {now : format.Timestamp} {p : Placement}

theorem Placed.journaled (h : Placed op p s) (journal : Option PortableActivationJournal) :
    Placed op p { s with journal := journal } := h.of_files rfl rfl

theorem Placed.stands (h : Placed op p s) {phase : PortableActivationPhase} {id : Option Nat}
    (shape : validatePhaseShape phase id = .ok ()) (now : format.Timestamp) :
    Stands op { s with journal := some (op.journalAt phase id now) } phase id p :=
  ⟨⟨now, rfl⟩, shape, h.journaled _⟩

/-! ### Manual recovery -/

theorem meets_manual {reason : PortableActivationManualReason} (h : Underway op faulty halfway s)
    (placed : Placed op p s) (cause : faulty) {origin : Disk} {first : PortableActivationPhase} :
    Meets (env.markManual (op.journalAt phase id now) reason) s
      (fun r => Outcome op faulty env first origin (.ok r)) (Underway op faulty halfway) :=
  (meets_markManual op env).mpr ⟨h, .manual (placed.stands rfl env.now) cause⟩

/-! ### Replacing the active database -/

/-- How a turn goes on. -/
def TurnEnds (op : Operation format) (faulty : Prop) (env : StartupEnv format)
    (first : PortableActivationPhase) (origin : Disk) : StartupEnv.Turn → Disk → Prop
  | .ended result, s' => Outcome op faulty env first origin result s'
  | .again journal, s' => Pending first ∧ Placed op .before origin ∧
      ∃ id now, journal = op.journalAt .replacementCommitted id now ∧
        s'.journal = some journal ∧ Stands op s' .replacementCommitted id .after

theorem Operation.replacement_matches (op : Operation format) :
    (!op.journal.payload.staged.matchesIdentity op.new ||
      !op.journal.payload.rollback.matchesIdentity op.old) = false := by
  rw [op.staged_new, op.rollback_old]
  rfl

theorem Operation.committed_shape (op : Operation format) :
    validatePhaseShape .replacementCommitted (op.old.fileId.or (some op.old.length)) = .ok () := by
  cases op.old.fileId <;> rfl

/-- A path is refused only where a startup may be disturbed. -/
theorem faulty_of_refused (calm : faulty ∨ env.Calm) {path : String}
    (refused : (!env.approves path) = true) : faulty :=
  calm.resolve_right fun quiet => by simp [quiet.approves] at refused

theorem meets_replaceStaged (h : Underway op faulty halfway s) (placed : Placed op .before s)
    (calm : faulty ∨ env.Calm) {origin : Disk} {first : PortableActivationPhase}
    (pending : Pending first) (start : Placed op .before origin) :
    Meets (env.replaceStaged (op.journalAt phase id now)) s
      (TurnEnds op faulty env first origin) (Underway op faulty halfway) := by
  have shape : validatePhaseShape .activationStarted none = .ok () := rfl
  have started := placed.stands shape env.now
  have parked := started.placed.park
  have installed := parked.install
  have underway : ∀ {s' : Disk} {p : Placement}, Placed op p s' → (p = .between → faulty) →
      s'.journal = some (op.journalAt .activationStarted none env.now) →
      Underway op faulty halfway s' :=
    fun placed moved journal => .intro ⟨⟨env.now, journal⟩, rfl, placed⟩ moved trivial
  have unmoved := underway started.placed nofun rfl
  unfold StartupEnv.replaceStaged
  rw [meets_bind, meets_persistPhase op env rfl]
  refine ⟨h, ?_⟩
  dsimp only
  by_cases active : (!env.approves (op.journalAt .activationStarted none env.now).payload.active.path)
      = true
  · rw [if_pos active, meets_bind]
    exact meets_manual unmoved started.placed (faulty_of_refused calm active)
  rw [if_neg active]
  by_cases rollback :
      (!env.approves (op.journalAt .activationStarted none env.now).payload.rollback.path) = true
  · rw [if_pos rollback, meets_bind]
    exact meets_manual unmoved started.placed (faulty_of_refused calm rollback)
  rw [if_neg rollback, meets_bind]
  refine meets_replace env started.placed.active started.placed.rollback started.placed.staged
    op.paths.activeStaged op.paths.stagedRollback.symm op.paths.activeRollback.symm unmoved
    (fun twoMoves => ?_) (fun fault e => ?_) ?_
  · have cause := calm.resolve_right fun quiet => by simp [quiet.atomic] at twoMoves
    exact underway parked (fun _ => cause) rfl
  · have cause := calm.resolve_right fun quiet => fault quiet.replace
    dsimp only
    rw [meets_bind, meets_bind, meets_bind]
    exact ⟨meets_manual unmoved started.placed cause,
      meets_manual (underway parked (fun _ => cause) rfl) parked cause,
      meets_manual (underway installed nofun rfl) installed cause⟩
  · have shape := op.committed_shape
    dsimp only
    rw [op.journalAt_staged, op.journalAt_rollback, op.replacement_matches,
      if_neg Bool.false_ne_true, meets_bind, meets_persistPhase op env shape]
    exact ⟨underway installed nofun rfl, pending, start, _, env.now, rfl, rfl,
      installed.stands shape env.now⟩

/-! ### Validating the new database, and the way back -/

theorem meets_rollbackOrManual (h : Underway op faulty halfway s) (placed : Placed op .after s)
    (calm : faulty ∨ env.Calm) {origin : Disk} {first : PortableActivationPhase}
    (fails : Pending first ∧ env.validateNewActive = .failed) :
    Meets (env.rollbackOrManual (op.journalAt phase id now)) s
      (Outcome op faulty env first origin) (Underway op faulty halfway) := by
  have shape : validatePhaseShape .rollbackStarted (id.or (some 0)) = .ok () := by
    cases id <;> rfl
  have shape' : validatePhaseShape .rolledBack (id.or (some 0)) = .ok () := by
    cases id <;> rfl
  have started := placed.stands shape env.now
  have unparked := started.placed.unpark
  have restored := unparked.restore
  have underway : ∀ {s' : Disk} {p : Placement}, Placed op p s' → (p = .between → faulty) →
      s'.journal = some (op.journalAt .rollbackStarted (id.or (some 0)) env.now) →
      Underway op faulty halfway s' :=
    fun placed moved journal => .intro ⟨⟨env.now, journal⟩, shape, placed⟩ moved trivial
  have unmoved := underway started.placed nofun rfl
  have inPlace : (!(op.journal.payload.staged.isAt (s.files op.journal.payload.active.path) &&
      op.journal.payload.rollback.isAt (s.files op.journal.payload.rollback.path))) = false := by
    rw [placed.active, placed.rollback]
    show (!(op.journal.payload.staged.matchesIdentity op.new &&
      op.journal.payload.rollback.matchesIdentity op.old)) = false
    rw [op.staged_new, op.rollback_old]
    rfl
  unfold StartupEnv.rollbackOrManual
  rw [meets_bind, meets_get]
  dsimp only [observeArtifacts]
  rw [op.journalAt_active, op.journalAt_staged, op.journalAt_rollback, inPlace,
    if_neg Bool.false_ne_true, meets_bind]
  refine (meets_persistPhase op env shape).mpr ⟨h, ?_⟩
  dsimp only
  by_cases active :
      (!env.approves (op.journalAt .rollbackStarted (id.or (some 0)) env.now).payload.active.path)
        = true
  · rw [if_pos active, meets_bind]
    exact meets_manual unmoved started.placed (faulty_of_refused calm active)
  rw [if_neg active]
  by_cases staged :
      (!env.approves (op.journalAt .rollbackStarted (id.or (some 0)) env.now).payload.staged.path)
        = true
  · rw [if_pos staged, meets_bind]
    exact meets_manual unmoved started.placed (faulty_of_refused calm staged)
  rw [if_neg staged, meets_bind]
  refine meets_replace env started.placed.active started.placed.staged started.placed.rollback
    op.paths.activeRollback op.paths.stagedRollback op.paths.activeStaged.symm unmoved
    (fun twoMoves => ?_) (fun fault e => ?_) ?_
  · have cause := calm.resolve_right fun quiet => by simp [quiet.atomic] at twoMoves
    exact underway unparked (fun _ => cause) rfl
  · have cause := calm.resolve_right fun quiet => fault quiet.replace
    dsimp only
    rw [meets_bind, meets_bind, meets_bind]
    exact ⟨meets_manual unmoved started.placed cause,
      meets_manual (underway unparked (fun _ => cause) rfl) unparked cause,
      meets_manual (underway restored nofun rfl) restored cause⟩
  · dsimp only
    rw [op.journalAt_active, op.active_old, Bool.not_true, if_neg Bool.false_ne_true, meets_bind]
    refine (meets_persistPhase op env shape').mpr ⟨underway restored nofun rfl, ?_⟩
    exact .rolledBack (restored.stands shape' env.now) (.inr fails)

theorem Unsettled.allowed {faulty halfway passed : Prop} (unsettled : Unsettled phase) :
    Allowed faulty halfway passed .after phase := by
  rcases unsettled with rfl | rfl | rfl
  · exact trivial
  · exact rfl
  · exact trivial

theorem meets_settleNewActive (h : Underway op faulty halfway s)
    (stands : Stands op s phase id .after) (unsettled : Unsettled phase)
    (calm : faulty ∨ env.Calm) :
    Meets (env.settleNewActive (op.journalAt phase id now)) s
      (Outcome op faulty env phase s) (Underway op faulty halfway) := by
  unfold StartupEnv.settleNewActive
  cases validates : env.validateNewActive with
  | panicked => exact .panicked (.inr unsettled) validates unsettled stands
  | failed => exact meets_rollbackOrManual h stands.placed calm ⟨.inr unsettled, validates⟩
  | passed =>
  dsimp only
  rw [meets_bind, meets_note, meets_bind]
  have passed : op.new ∈ s.validated ++
      (s.files (op.journalAt phase id now).payload.active.path).toList := by
    show op.new ∈ s.validated ++ (s.files op.journal.payload.active.path).toList
    rw [stands.placed.active]
    exact List.mem_append_right _ (List.mem_singleton_self _)
  generalize s.validated ++ (s.files (op.journalAt phase id now).payload.active.path).toList =
    validated at passed ⊢
  have noted : Placed op .after { s with validated := validated } := stands.placed.of_files rfl rfl
  rcases unsettled with rfl | committed
  · -- before the commit is recorded, there is no id to record the validation with
    obtain rfl : id = none := by
      cases id with
      | none => rfl
      | some _ => exact nomatch stands.shape
    exact (meets_persistPhase_refused op env rfl).mpr
      (.stuck rfl stands.placed validates ⟨stands.journal, rfl, noted⟩)
  · obtain ⟨known, rfl⟩ : ∃ known, id = some known := by
      cases id with
      | some known => exact ⟨known, rfl⟩
      | none => rcases committed with rfl | rfl <;> exact nomatch stands.shape
    have underway : Underway op faulty halfway { s with validated := validated } := by
      refine .intro ⟨stands.journal, stands.shape, noted⟩ nofun ?_
      rcases committed with rfl | rfl
      · exact rfl
      · exact trivial
    refine (meets_persistPhase op env rfl).mpr ⟨underway, ?_⟩
    refine .activated (noted.stands rfl env.now) passed (.inr ⟨.inr (.inr committed), validates⟩) ?_
    rintro ⟨rfl, -⟩
    rcases committed with early | early <;> cases early

/-! ### One turn, and a whole startup -/

section Plans
variable {found : Option FileIdentity}

theorem isAt_some (artifact : PortableActivationArtifact) (identity : FileIdentity) :
    artifact.isAt (some identity) = artifact.matchesIdentity identity := rfl

theorem isAt_none (artifact : PortableActivationArtifact) : artifact.isAt none = false := rfl

/-- The plan, with the operation's own artifacts. -/
theorem plan_eq (phase : PortableActivationPhase) (id : Option Nat) (now : format.Timestamp)
    (placed : Placed op p s) :
    planRecovery (op.journalAt phase id now) (observeArtifacts (op.journalAt phase id now) s.files) =
      planRecovery { op.journal with payload := { op.journal.payload with phase := phase } }
        ⟨(op.files p).1, (op.files p).2.1, (op.files p).2.2, some op.kept⟩ := by
  rw [← placed.active, ← placed.staged, ← placed.rollback, ← placed.backup]
  rfl

theorem plan_before (placed : Placed op .before s) :
    planRecovery (op.journalAt phase id now) (observeArtifacts (op.journalAt phase id now) s.files) =
      match phase with
      | .prepared | .activationStarted | .replacementCommitted | .rollbackStarted => .replaceStaged
      | .activatedValidated | .manualRecoveryRequired => .manual .identityMismatch
      | .rolledBack => .keepRolledBack
      | .completed => .completeAlreadyValidated := by
  rw [plan_eq phase id now placed]
  cases phase <;>
    simp [planRecovery, Operation.files, isAt_some, isAt_none, op.active_old, op.staged_new,
      op.backup_kept]

theorem plan_between (placed : Placed op .between s) :
    planRecovery (op.journalAt phase id now) (observeArtifacts (op.journalAt phase id now) s.files) =
      if phase = .completed then .completeAlreadyValidated else .manual .identityMismatch := by
  rw [plan_eq phase id now placed]
  cases phase <;> simp [planRecovery, Operation.files, isAt_some, isAt_none, op.backup_kept]

theorem plan_after (placed : Placed op .after s) (notBack : phase ≠ .rolledBack) :
    planRecovery (op.journalAt phase id now) (observeArtifacts (op.journalAt phase id now) s.files) =
      match phase with
      | .prepared | .activationStarted | .replacementCommitted | .rollbackStarted =>
        .validateNewActive
      | .activatedValidated | .completed => .completeAlreadyValidated
      | .manualRecoveryRequired | .rolledBack => .manual .identityMismatch := by
  rw [plan_eq phase id now placed]
  cases phase with
  | rolledBack => exact absurd rfl notBack
  | _ =>
    simp [planRecovery, Operation.files, isAt_some, isAt_none, op.staged_new, op.rollback_old,
      op.backup_kept]

end Plans

theorem meets_turn (stands : Stands op s phase id p) (moved : p = .between → faulty)
    (allowed : Allowed faulty halfway (op.Passed s) p phase) (calm : faulty ∨ env.Calm)
    (journal : s.journal = some (op.journalAt phase id now)) :
    Meets (env.turn (op.journalAt phase id now)) s (TurnEnds op faulty env phase s)
      (Underway op faulty halfway) := by
  have underway : Underway op faulty halfway s := .intro stands moved allowed
  have placed := stands.placed
  have again : Stands op s phase id p := ⟨⟨now, journal⟩, stands.shape, placed⟩
  have manual : ∀ reason, faulty →
      Meets (do return .ended (.ok (← env.markManual (op.journalAt phase id now) reason))) s
        (TurnEnds op faulty env phase s) (Underway op faulty halfway) := by
    intro reason cause
    rw [meets_bind]
    exact meets_manual underway placed cause
  unfold StartupEnv.turn
  rw [meets_bind, meets_get]
  cases p with
  | before =>
    rw [plan_before placed]
    cases phase with
    | prepared => exact meets_replaceStaged underway placed calm (.inl rfl) placed
    | activationStarted => exact meets_replaceStaged underway placed calm (.inr (.inl rfl)) placed
    | rollbackStarted =>
      exact meets_replaceStaged underway placed calm (.inr (.inr (.inr rfl))) placed
    | replacementCommitted => exact nomatch allowed
    | activatedValidated => exact nomatch allowed.1
    | rolledBack => exact .rolledBack again (.inl rfl)
    | manualRecoveryRequired => exact manual _ allowed
    | completed => exact .completed rfl
  | between =>
    rw [plan_between placed]
    by_cases done : phase = .completed
    · rw [if_pos done]
      exact .completed done
    · rw [if_neg done]
      exact manual _ (moved rfl)
  | after =>
    have notBack : phase ≠ .rolledBack := by
      rintro rfl
      exact nomatch allowed
    have validate (unsettled : Unsettled phase) :
        Meets (do return .ended (← env.settleNewActive (op.journalAt phase id now))) s
          (TurnEnds op faulty env phase s) (Underway op faulty halfway) := by
      rw [meets_bind]
      exact meets_settleNewActive underway again unsettled calm
    rw [plan_after placed notBack]
    cases phase with
    | prepared => exact nomatch allowed
    | activationStarted => exact validate (.inl rfl)
    | replacementCommitted => exact validate (.inr (.inl rfl))
    | rollbackStarted => exact validate (.inr (.inr rfl))
    | activatedValidated => exact .activated again allowed.2 (.inl rfl) nofun
    | rolledBack => exact absurd rfl notBack
    | manualRecoveryRequired => exact manual _ allowed
    | completed => exact .completed rfl

/-- After the replacement, the recovery ends in its next turn. -/
theorem meets_turn_committed (stands : Stands op s .replacementCommitted id .after)
    (calm : faulty ∨ env.Calm) :
    Meets (env.turn (op.journalAt .replacementCommitted id now)) s
      (fun t s' => ∃ r, t = .ended r ∧ Outcome op faulty env .replacementCommitted s r s')
      (Underway op faulty halfway) := by
  have allowed : Allowed faulty halfway (op.Passed s) .after .replacementCommitted := rfl
  have notBack : PortableActivationPhase.replacementCommitted ≠ .rolledBack := nofun
  unfold StartupEnv.turn
  rw [meets_bind, meets_get, plan_after stands.placed notBack]
  dsimp only
  rw [meets_bind]
  refine (meets_settleNewActive (.intro stands nofun allowed) stands (.inr (.inl rfl))
    calm).mono (fun r s' ends => ?_) fun _ h => h
  exact ⟨r, rfl, ends⟩

/-- What the turn after a replacement ends with, the startup ends with. -/
theorem Outcome.of_committed {s' s'' : Disk} {r : Except ActivationError PortableActivationStartup}
    (h : Outcome op faulty env .replacementCommitted s' r s'') (pending : Pending phase)
    (start : Placed op .before s) : Outcome op faulty env phase s r s'' := by
  cases h with
  | activated stands passed why =>
    exact .activated stands passed (.inr ⟨pending, (why.resolve_left nofun).2⟩) fun early =>
      nomatch start.staged.symm.trans early.2.staged
  | rolledBack stands why =>
    exact .rolledBack stands (.inr ⟨pending, (why.resolve_left nofun).2⟩)
  | manual stands cause => exact .manual stands cause
  | stuck early => cases early
  | panicked _ panics unsettled stands => exact .panicked pending panics unsettled stands
  | completed done => cases done

/-- A startup on the operation's journal, wherever it stops and however it ends. -/
theorem startup_meets (stands : Stands op s phase id p) (moved : p = .between → faulty)
    (allowed : Allowed faulty halfway (op.Passed s) p phase) (calm : faulty ∨ env.Calm) :
    Meets env.recoverPortableActivation s
      (fun result s' => ∃ r, result = some r ∧ Outcome op faulty env phase s r s')
      (Underway op faulty halfway) := by
  have underway : Underway op faulty halfway s := .intro stands moved allowed
  obtain ⟨now, journal⟩ := stands.journal
  unfold StartupEnv.recoverPortableActivation
  rw [meets_bind, meets_readJournal op stands.shape journal]
  dsimp only
  by_cases rejected : (!env.pathsAccepted) = true
  · have cause := calm.resolve_right fun quiet => by simp [quiet.paths] at rejected
    have manual : Outcome op faulty env phase s
        (.ok (.manualRecoveryRequired .pathRejected))
        { s with journal := some (op.journalAt .manualRecoveryRequired none env.now) } :=
      .manual (stands.placed.stands rfl env.now) cause
    rw [if_pos rejected, op.advance_journalAt]
    show Meets (format.writeJournal (op.journalAt .manualRecoveryRequired none env.now) >>= _) s _ _
    rw [meets_bind]
    exact (meets_writeJournal op rfl).mpr ⟨underway, _, rfl, manual⟩
  · rw [if_neg rejected]
    unfold StartupEnv.turns
    rw [meets_bind]
    refine (meets_turn stands moved allowed calm journal).mono (fun t s' ends => ?_) fun _ h => h
    cases t with
    | ended r => exact ⟨r, rfl, ends⟩
    | again next =>
      -- the replacement is done, and the second turn validates or rolls back
      obtain ⟨pending, start, id', now', rfl, -, committed⟩ := ends
      dsimp only
      unfold StartupEnv.turns
      rw [meets_bind]
      refine (meets_turn_committed committed calm).mono (fun t s'' ends => ?_) fun _ h => h
      obtain ⟨r, rfl, outcome⟩ := ends
      exact ⟨r, rfl, outcome.of_committed pending start⟩

end

end RelayPool.Migration
