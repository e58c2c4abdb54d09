import Mathlib.Algebra.Ring.Nat
import Mathlib.Tactic.Common

/-! Runs of a step function.

A system is a function `step : σ → α → σ`; a run applies it to a list of inputs.
What one step preserves, a run preserves (`run_invariant`), also when the
preservation may assume a rule on the inputs (`run_invariant_of`) or on the
states they are taken in (`run_invariant_along`). A history variable is a value
`record`ed along the run without being part of the state. A stamp that every
change of the state raises tells whether the state has changed (`run_eq_of_stamp`). -/
namespace RelayPool.Runs

variable {σ α β : Type*}

def run (step : σ → α → σ) (s : σ) : List α → σ
  | [] => s
  | a :: rest => run step (step s a) rest

@[simp] theorem run_nil (step : σ → α → σ) (s : σ) : run step s [] = s := rfl

@[simp] theorem run_cons (step : σ → α → σ) (s : σ) (a : α) (rest : List α) :
    run step s (a :: rest) = run step (step s a) rest := rfl

theorem run_append (step : σ → α → σ) (s : σ) (as bs : List α) :
    run step s (as ++ bs) = run step (run step s as) bs := by
  induction as generalizing s with
  | nil => rfl
  | cons a rest ih => exact ih _

theorem run_concat (step : σ → α → σ) (s : σ) (as : List α) (a : α) :
    run step s (as ++ [a]) = step (run step s as) a := by
  rw [run_append]
  rfl

section Invariants
variable {step : σ → α → σ} {Inv : σ → Prop}

/-- What every allowed input preserves, a run of allowed inputs preserves. -/
theorem run_invariant_of {Rule : α → Prop}
    (preserved : ∀ s a, Rule a → Inv s → Inv (step s a)) {s : σ} (h : Inv s) :
    ∀ {as : List α}, (∀ a ∈ as, Rule a) → Inv (run step s as)
  | [], _ => h
  | a :: _, hr => run_invariant_of preserved (preserved s a (hr a (List.mem_cons_self ..)) h)
      fun b hb => hr b (List.mem_cons_of_mem a hb)

theorem run_invariant (preserved : ∀ s a, Inv s → Inv (step s a)) {s : σ} (h : Inv s)
    (as : List α) : Inv (run step s as) :=
  have allowed : ∀ a ∈ as, (fun _ : α => True) a := fun _ _ => trivial
  run_invariant_of (fun s a _ => preserved s a) h allowed

end Invariants

/-! ### Conditions on the steps of a run -/

/-- Every step of the run satisfies `P`, which may look at the state it is taken in. -/
def Along (step : σ → α → σ) (P : σ → α → Prop) : σ → List α → Prop
  | _, [] => True
  | s, a :: rest => P s a ∧ Along step P (step s a) rest

instance decidableAlong (step : σ → α → σ) (P : σ → α → Prop) [∀ s a, Decidable (P s a)] :
    (s : σ) → (as : List α) → Decidable (Along step P s as)
  | _, [] => isTrue trivial
  | s, a :: rest =>
    have := decidableAlong step P (step s a) rest
    inferInstanceAs (Decidable (P s a ∧ Along step P (step s a) rest))

/-- A condition that holds of the inputs in every state. -/
theorem along_of_forall {step : σ → α → σ} {P : σ → α → Prop} {as : List α}
    (h : ∀ a ∈ as, ∀ s, P s a) (s : σ) : Along step P s as := by
  induction as generalizing s with
  | nil => trivial
  | cons a rest ih =>
    exact ⟨h a (List.mem_cons_self ..) s, ih (fun b hb => h b (List.mem_cons_of_mem a hb)) _⟩

/-- A rule on the inputs may stand with the condition. -/
theorem Along.and_rule {step : σ → α → σ} {P : σ → α → Prop} {Rule : α → Prop} {s : σ}
    {as : List α} (along : Along step P s as) (hr : ∀ a ∈ as, Rule a) :
    Along step (fun s a => P s a ∧ Rule a) s as := by
  induction as generalizing s with
  | nil => trivial
  | cons a rest ih =>
    exact ⟨⟨along.1, hr a (List.mem_cons_self ..)⟩,
      ih along.2 fun b hb => hr b (List.mem_cons_of_mem a hb)⟩

theorem along_append {step : σ → α → σ} {P : σ → α → Prop} {s : σ} {as bs : List α} :
    Along step P s (as ++ bs) ↔ Along step P s as ∧ Along step P (run step s as) bs := by
  induction as generalizing s with
  | nil => exact (and_iff_right trivial).symm
  | cons a rest ih =>
    show (P s a ∧ Along step P (step s a) (rest ++ bs)) ↔
      (P s a ∧ Along step P (step s a) rest) ∧ Along step P (run step (step s a) rest) bs
    rw [ih, and_assoc]

theorem along_and {step : σ → α → σ} {P Q : σ → α → Prop} {s : σ} {as : List α} :
    Along step (fun s a => P s a ∧ Q s a) s as ↔ Along step P s as ∧ Along step Q s as := by
  induction as generalizing s with
  | nil => exact (and_iff_right trivial).symm
  | cons a rest ih =>
    show (P s a ∧ Q s a) ∧ Along step (fun s a => P s a ∧ Q s a) (step s a) rest ↔
      (P s a ∧ Along step P (step s a) rest) ∧ Q s a ∧ Along step Q (step s a) rest
    rw [ih, and_and_and_comm]

theorem Along.mono {step : σ → α → σ} {P Q : σ → α → Prop} (imp : ∀ s a, P s a → Q s a) {s : σ}
    {as : List α} (along : Along step P s as) : Along step Q s as := by
  induction as generalizing s with
  | nil => trivial
  | cons a rest ih => exact ⟨imp s a along.1, ih along.2⟩

/-- A condition on the steps gives another one wherever an invariant holds that the
first condition preserves. -/
theorem Along.imp_invariant {step : σ → α → σ} {Inv : σ → Prop} {P Q : σ → α → Prop}
    (preserved : ∀ s a, P s a → Inv s → Q s a ∧ Inv (step s a)) {s : σ} {as : List α} (h : Inv s)
    (along : Along step P s as) : Along step Q s as := by
  induction as generalizing s with
  | nil => trivial
  | cons a rest ih =>
    obtain ⟨now, next⟩ := preserved s a along.1 h
    exact ⟨now, ih next along.2⟩

theorem run_invariant_along {step : σ → α → σ} {Inv : σ → Prop} {P : σ → α → Prop}
    (preserved : ∀ s a, P s a → Inv s → Inv (step s a)) {s : σ} {as : List α} (h : Inv s)
    (along : Along step P s as) : Inv (run step s as) := by
  induction as generalizing s with
  | nil => exact h
  | cons a rest ih => exact ih (preserved s a along.1 h) along.2

/-- Two conditions hold along the same runs if they agree wherever an invariant holds that
they preserve. -/
theorem along_iff {step : σ → α → σ} {Inv : σ → Prop} {Rule : α → Prop} {P Q : σ → α → Prop}
    (agree : ∀ s a, Rule a → Inv s → (P s a ↔ Q s a))
    (preserved : ∀ s a, Rule a → Inv s → Q s a → Inv (step s a)) {s : σ} {as : List α}
    (h : Inv s) (rule : ∀ a ∈ as, Rule a) : Along step P s as ↔ Along step Q s as := by
  induction as generalizing s with
  | nil => exact Iff.rfl
  | cons a rest ih =>
    obtain ⟨now, later⟩ := List.forall_mem_cons.mp rule
    have rest_iff : Q s a → (Along step P (step s a) rest ↔ Along step Q (step s a) rest) :=
      fun holds => ih (preserved s a now h holds) later
    show P s a ∧ Along step P (step s a) rest ↔ Q s a ∧ Along step Q (step s a) rest
    rw [agree s a now h]
    exact and_congr_right rest_iff

/-! ### Stamped states -/

/-- An allowed step that changes the state raises its stamp. -/
def Stamped (step : σ → α → σ) (stamp : σ → Nat) (P : σ → α → Prop) : Prop :=
  ∀ s a, P s a → step s a = s ∨ stamp s < stamp (step s a)

section Stamps
variable {step : σ → α → σ} {stamp : σ → Nat} {P : σ → α → Prop} {s : σ} {as : List α}

theorem Stamped.le_step (stamped : Stamped step stamp P) {a : α} (h : P s a) :
    stamp s ≤ stamp (step s a) := by
  rcases stamped s a h with same | raised
  · exact Nat.le_of_eq (congrArg stamp same.symm)
  · exact Nat.le_of_lt raised

theorem Stamped.le_run (stamped : Stamped step stamp P) (along : Along step P s as) :
    stamp s ≤ stamp (run step s as) := by
  induction as generalizing s with
  | nil => exact Nat.le_refl _
  | cons a rest ih => exact Nat.le_trans (stamped.le_step along.1) (ih along.2)

/-- A state with the stamp of an earlier one is that state. -/
theorem Stamped.run_eq_of_stamp (stamped : Stamped step stamp P) (along : Along step P s as)
    (same : stamp (run step s as) = stamp s) : run step s as = s := by
  induction as generalizing s with
  | nil => rfl
  | cons a rest ih =>
    have later : stamp (step s a) ≤ stamp (run step (step s a) rest) := stamped.le_run along.2
    rw [run_cons] at same ⊢
    rcases stamped s a along.1 with stays | raised
    · rw [stays] at same later ⊢
      exact ih (stays ▸ along.2) same
    · omega

end Stamps

/-! ### Runs that go on -/

section Live
variable {step : σ → α → σ} {Live : σ → Prop}

/-- A run that still goes on was live at every step, and each of its inputs is one
that a live step takes. -/
theorem inputs_of_live {Q : α → Prop} (alive : ∀ s a, Live (step s a) → Live s ∧ Q a) {s : σ}
    {as : List α} (h : Live (run step s as)) : Live s ∧ ∀ a ∈ as, Q a := by
  induction as generalizing s with
  | nil => exact ⟨h, List.forall_mem_nil _⟩
  | cons a rest ih =>
    obtain ⟨next, later⟩ := ih h
    obtain ⟨now, first⟩ := alive s a next
    exact ⟨now, List.forall_mem_cons.mpr ⟨first, later⟩⟩

/-- A measure that every step of a live run raises by the weight of its input. -/
theorem weights_le_measure {measure : σ → Nat} {weight : α → Nat}
    (raised : ∀ s a, Live (step s a) → Live s ∧ measure s + weight a ≤ measure (step s a))
    {s : σ} {as : List α} (h : Live (run step s as)) :
    measure s + (as.map weight).sum ≤ measure (run step s as) := by
  induction as generalizing s with
  | nil => exact Nat.le_refl _
  | cons a rest ih =>
    have later := ih h
    have alive : ∀ s a, Live (step s a) → Live s ∧ True := fun s a live =>
      ⟨(raised s a live).1, trivial⟩
    have next : Live (run step (step s a) rest) := h
    have now := (raised s a (inputs_of_live alive next).1).2
    rw [List.map_cons, List.sum_cons, run_cons]
    omega

end Live

/-! ### History variables -/

/-- A value kept alongside a run; `update` sees each step with the states around it. -/
def record (step : σ → α → σ) (update : σ → α → σ → β → β) : σ → β → List α → β
  | _, b, [] => b
  | s, b, a :: rest => record step update (step s a) (update s a (step s a) b) rest

theorem record_concat (step : σ → α → σ) (update : σ → α → σ → β → β) (s : σ) (b : β)
    (as : List α) (a : α) :
    record step update s b (as ++ [a]) =
      update (run step s as) a (step (run step s as) a) (record step update s b as) := by
  induction as generalizing s b with
  | nil => rfl
  | cons a' rest ih => exact ih _ _

/-- A link between the state and a history variable that every step preserves. -/
theorem record_invariant {step : σ → α → σ} {update : σ → α → σ → β → β} {Inv : σ → β → Prop}
    (preserved : ∀ s a b, Inv s b → Inv (step s a) (update s a (step s a) b)) {s : σ} {b : β}
    (h : Inv s b) (as : List α) : Inv (run step s as) (record step update s b as) := by
  induction as generalizing s b with
  | nil => exact h
  | cons a rest ih => exact ih (preserved s a b h)

theorem record_invariant_along {step : σ → α → σ} {update : σ → α → σ → β → β}
    {R : σ → β → Prop} {P : σ → α → Prop}
    (preserved : ∀ s a b, P s a → R s b → R (step s a) (update s a (step s a) b)) {s : σ} {b : β}
    {as : List α} (h : R s b) (along : Along step P s as) :
    R (run step s as) (record step update s b as) := by
  induction as generalizing s b with
  | nil => exact h
  | cons a rest ih => exact ih (preserved s a b along.1 h) along.2

end RelayPool.Runs
