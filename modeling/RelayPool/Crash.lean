import Mathlib.Tactic.Common

/-! Programs over a durable state that may stop between two writes.

A program reads the state, writes it one durable step at a time, and ends with a
result. A crash stops it before one of its writes: what it wrote stays, and there is
no result. History variables are noted in the state without being a step.

`Meets m s post safe` says that, started in `s`, the program ends as `post` says,
and that it would leave a `safe` state wherever it crashed. It computes along the
program (`meets_bind`, `meets_read`, `meets_write`), so a proof about a program is
one pass over it, and it says what every execution does (`Meets.exec`). Where it matters
which write a crash falls before, `stops` lists the states in order (`exec_crash`). -/
namespace RelayPool.Crash

inductive Program (σ : Type) (α : Type) : Type
  | done (result : α)
  | read (next : σ → Program σ α)
  | write (f : σ → σ) (next : Program σ α)
  | note (f : σ → σ) (next : Program σ α)

variable {σ α β : Type}

namespace Program

protected def bind : Program σ α → (α → Program σ β) → Program σ β
  | .done a, g => g a
  | .read next, g => .read fun s => (next s).bind g
  | .write f next, g => .write f (next.bind g)
  | .note f next, g => .note f (next.bind g)

instance : Monad (Program σ) where
  pure := .done
  bind := Program.bind

protected theorem bind_done (m : Program σ α) : m.bind .done = m := by
  induction m with
  | done a => rfl
  | read next ih => exact congrArg Program.read (funext ih)
  | write f next ih => exact congrArg (Program.write f) ih
  | note f next ih => exact congrArg (Program.note f) ih

protected theorem bind_assoc {γ : Type} (m : Program σ α) (g : α → Program σ β)
    (g' : β → Program σ γ) : (m.bind g).bind g' = m.bind fun a => (g a).bind g' := by
  induction m with
  | done a => rfl
  | read next ih => exact congrArg Program.read (funext ih)
  | write f next ih => exact congrArg (Program.write f) ih
  | note f next ih => exact congrArg (Program.note f) ih

instance : LawfulMonad (Program σ) :=
  LawfulMonad.mk' _ Program.bind_done (fun _ _ => rfl) Program.bind_assoc

end Program

def get : Program σ σ := .read .done

/-- One durable step. -/
def write (f : σ → σ) : Program σ Unit := .write f (.done ())

/-- A history variable. -/
def note (f : σ → σ) : Program σ Unit := .note f (.done ())

/-- The result, if the program ended, and the state it left. `crash` is the number of
durable steps after which it stops, if it does. -/
def exec : Program σ α → σ → Option Nat → Option α × σ
  | .done a, s, _ => (some a, s)
  | .read next, s, crash => exec (next s) s crash
  | .note f next, s, crash => exec next (f s) crash
  | .write f next, s, none => exec next (f s) none
  | .write _ _, s, some 0 => (none, s)
  | .write f next, s, some (n + 1) => exec next (f s) (some n)

/-- A program that is not interrupted ends. -/
theorem exec_uninterrupted (m : Program σ α) (s : σ) : ∃ a, (exec m s none).1 = some a := by
  induction m generalizing s with
  | done a => exact ⟨a, rfl⟩
  | read next ih => exact ih s s
  | write f next ih => exact ih (f s)
  | note f next ih => exact ih (f s)

@[simp] theorem exec_pure (a : α) (s : σ) (crash : Option Nat) :
    exec (pure a : Program σ α) s crash = (some a, s) := by
  cases crash <;> rfl

@[simp] theorem exec_get_bind (g : σ → Program σ α) (s : σ) (crash : Option Nat) :
    exec (get >>= g) s crash = exec (g s) s crash := by
  show exec (.read g) s crash = _
  rw [exec]

@[simp] theorem exec_write_bind (f : σ → σ) (g : Unit → Program σ α) (s : σ) :
    exec (write f >>= g) s none = exec (g ()) (f s) none := rfl

@[simp] theorem exec_write_bind_zero (f : σ → σ) (g : Unit → Program σ α) (s : σ) :
    exec (write f >>= g) s (some 0) = (none, s) := rfl

@[simp] theorem exec_write_bind_succ (f : σ → σ) (g : Unit → Program σ α) (s : σ) (n : Nat) :
    exec (write f >>= g) s (some (n + 1)) = exec (g ()) (f s) (some n) := rfl

/-- After a write, only what the rest does in the state written matters. -/
theorem exec_write_bind_congr {f : σ → σ} {g g' : Unit → Program σ α} {s : σ}
    (h : ∀ crash, exec (g ()) (f s) crash = exec (g' ()) (f s) crash) (crash : Option Nat) :
    exec (write f >>= g) s crash = exec (write f >>= g') s crash := by
  rcases crash with _ | _ | n
  · exact h none
  · rfl
  · exact h (some n)

/-! ### The states a program can stop in -/

/-- The states before its writes, in order, of the program run to its end. -/
def stops : Program σ α → σ → List σ
  | .done _, _ => []
  | .read next, s => stops (next s) s
  | .write f next, s => s :: stops next (f s)
  | .note f next, s => stops next (f s)

/-- A crash after `n` writes leaves the state before the next one, if there is one. -/
theorem exec_crash (m : Program σ α) (s : σ) (n : Nat) :
    exec m s (some n) = (stops m s)[n]?.elim (exec m s none) fun s' => (none, s') := by
  induction m generalizing s n with
  | done a => rfl
  | read next ih => exact ih s s n
  | note f next ih => exact ih (f s) n
  | write f next ih =>
    cases n with
    | zero => rfl
    | succ n => exact ih (f s) n

@[simp] theorem stops_pure (a : α) (s : σ) : stops (pure a : Program σ α) s = [] := rfl

@[simp] theorem stops_get_bind (g : σ → Program σ α) (s : σ) :
    stops (get >>= g) s = stops (g s) s := rfl

@[simp] theorem stops_write_bind (f : σ → σ) (g : Unit → Program σ α) (s : σ) :
    stops (write f >>= g) s = s :: stops (g ()) (f s) := rfl

@[simp] theorem stops_write (f : σ → σ) (s : σ) : stops (write f) s = [s] := rfl

@[simp] theorem exec_write (f : σ → σ) (s : σ) : exec (write f) s none = (some (), f s) := rfl

theorem exec_map (g : α → β) (m : Program σ α) (s : σ) :
    exec (g <$> m) s none = ((exec m s none).1.map g, (exec m s none).2) := by
  induction m generalizing s with
  | done a => rfl
  | read next ih => exact ih s s
  | write f next ih => exact ih (f s)
  | note f next ih => exact ih (f s)

theorem stops_map (g : α → β) (m : Program σ α) (s : σ) : stops (g <$> m) s = stops m s := by
  induction m generalizing s with
  | done a => rfl
  | read next ih => exact ih s s
  | write f next ih => exact congrArg (s :: ·) (ih (f s))
  | note f next ih => exact ih (f s)

/-- A program whose first part is known goes on where that part ends. -/
theorem exec_bind {m : Program σ α} {s s' : σ} {a : α} (h : exec m s none = (some a, s'))
    (g : α → Program σ β) : exec (m >>= g) s none = exec (g a) s' none := by
  induction m generalizing s with
  | done b =>
    obtain ⟨same, rfl⟩ := Prod.mk.inj h
    obtain rfl := Option.some.inj same
    rfl
  | read next ih => exact ih s h
  | note f next ih => exact ih h
  | write f next ih => exact ih h

theorem stops_bind {m : Program σ α} {s s' : σ} {a : α} (h : exec m s none = (some a, s'))
    (g : α → Program σ β) : stops (m >>= g) s = stops m s ++ stops (g a) s' := by
  induction m generalizing s with
  | done b =>
    obtain ⟨same, rfl⟩ := Prod.mk.inj h
    obtain rfl := Option.some.inj same
    rfl
  | read next ih => exact ih s h
  | note f next ih => exact ih h
  | write f next ih => exact congrArg (s :: ·) (ih h)

def Meets : Program σ α → σ → (α → σ → Prop) → (σ → Prop) → Prop
  | .done a, s, post, _ => post a s
  | .read next, s, post, safe => Meets (next s) s post safe
  | .write f next, s, post, safe => safe s ∧ Meets next (f s) post safe
  | .note f next, s, post, safe => Meets next (f s) post safe

section Rules
variable {post : α → σ → Prop} {safe : σ → Prop} {s : σ}

@[simp] theorem meets_pure (a : α) :
    Meets (pure a : Program σ α) s post safe ↔ post a s := Iff.rfl

@[simp] theorem meets_bind (m : Program σ α) (g : α → Program σ β) {post : β → σ → Prop} :
    Meets (m >>= g) s post safe ↔ Meets m s (fun a s' => Meets (g a) s' post safe) safe := by
  induction m generalizing s with
  | done a => exact Iff.rfl
  | read next ih => exact ih s
  | write f next ih => exact and_congr_right fun _ => ih
  | note f next ih => exact ih

@[simp] theorem meets_get {post : σ → σ → Prop} :
    Meets get s post safe ↔ post s s := Iff.rfl

@[simp] theorem meets_write {f : σ → σ} {post : Unit → σ → Prop} :
    Meets (write f) s post safe ↔ safe s ∧ post () (f s) := Iff.rfl

@[simp] theorem meets_note {f : σ → σ} {post : Unit → σ → Prop} :
    Meets (note f) s post safe ↔ post () (f s) := Iff.rfl

theorem Meets.mono {m : Program σ α} {post' : α → σ → Prop} {safe' : σ → Prop}
    (h : Meets m s post safe) (hpost : ∀ a s, post a s → post' a s)
    (hsafe : ∀ s, safe s → safe' s) : Meets m s post' safe' := by
  induction m generalizing s with
  | done a => exact hpost a s h
  | read next ih => exact ih s h
  | write f next ih => exact ⟨hsafe s h.1, ih h.2⟩
  | note f next ih => exact ih h

/-- What the rules compute holds of every execution, interrupted or not. -/
theorem Meets.exec {m : Program σ α} (h : Meets m s post safe) (crash : Option Nat) :
    (∀ a, (exec m s crash).1 = some a → post a (exec m s crash).2) ∧
      ((exec m s crash).1 = none → safe (exec m s crash).2) := by
  induction m generalizing s crash with
  | done a =>
    refine ⟨?_, nofun⟩
    intro b result
    have same : a = b := Option.some.inj result
    exact same ▸ h
  | read next ih => exact ih s h crash
  | note f next ih => exact ih h crash
  | write f next ih =>
    rcases crash with _ | _ | n
    · exact ih h.2 none
    · exact ⟨nofun, fun _ => h.1⟩
    · exact ih h.2 (some n)

/-- Wherever it stops, the program leaves what both conditions allow. -/
theorem Meets.keeps {m : Program σ α} {Inv : σ → Prop} (h : Meets m s (fun _ => Inv) Inv)
    (crash : Option Nat) : Inv (Crash.exec m s crash).2 := by
  obtain ⟨ended, stopped⟩ := h.exec crash
  cases result : (Crash.exec m s crash).1 with
  | none => exact stopped result
  | some a => exact ended a result

end Rules

end RelayPool.Crash
