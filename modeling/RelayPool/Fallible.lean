import Mathlib.Tactic.Common

/-! Computations that may fail.

A computation in `Except ε` that ended without an error is taken apart step by
step: the first part ended without one, and the rest did so on its result. -/
namespace RelayPool.Fallible

variable {ε α β : Type}

theorem bind_ok {x : Except ε α} {f : α → Except ε β} {b : β} :
    x >>= f = .ok b ↔ ∃ a, x = .ok a ∧ f a = .ok b := by
  cases x with
  | error e => exact ⟨nofun, fun ⟨a, h, _⟩ => nomatch h⟩
  | ok a => exact ⟨fun h => ⟨a, rfl, h⟩, fun ⟨a', h, h'⟩ => by cases h; exact h'⟩

theorem then_ok {x : Except ε Unit} {y : Except ε α} {a : α} :
    (x >>= fun _ => y) = .ok a ↔ x = .ok () ∧ y = .ok a := by
  rw [bind_ok]
  exact ⟨fun ⟨_, h, h'⟩ => ⟨h, h'⟩, fun ⟨h, h'⟩ => ⟨(), h, h'⟩⟩

theorem map_ok {x : Except ε α} {f : α → β} {b : β} :
    x.map f = .ok b ↔ ∃ a, x = .ok a ∧ f a = b := by
  cases x with
  | error e => exact ⟨nofun, fun ⟨a, h, _⟩ => nomatch h⟩
  | ok a => exact ⟨fun h => ⟨a, rfl, Except.ok.inj h⟩, fun ⟨a', h, h'⟩ => by cases h; rw [← h']; rfl⟩

theorem mapError_ok {δ : Type} {x : Except ε α} {f : ε → δ} {a : α} :
    x.mapError f = .ok a ↔ x = .ok a := by
  cases x with
  | error e => exact ⟨nofun, nofun⟩
  | ok a' => exact ⟨fun h => congrArg _ (Except.ok.inj h), fun h => congrArg _ (Except.ok.inj h)⟩

theorem pure_ok {a b : α} : (pure a : Except ε α) = .ok b ↔ a = b :=
  ⟨Except.ok.inj, congrArg _⟩

theorem throw_ok {e : ε} {a : α} : (throw e : Except ε α) = .ok a ↔ False :=
  ⟨nofun, False.elim⟩

theorem ite_ok {c : Prop} [Decidable c] {x y : Except ε α} {a : α} :
    (if c then x else y) = .ok a ↔ (c ∧ x = .ok a) ∨ (¬ c ∧ y = .ok a) := by
  split
  · rename_i h
    exact ⟨fun h' => .inl ⟨h, h'⟩, fun h' => h'.elim And.right fun h' => absurd h h'.1⟩
  · rename_i h
    exact ⟨fun h' => .inr ⟨h, h'⟩, fun h' => h'.elim (fun h' => absurd h'.1 h) And.right⟩

/-- A check that was passed. -/
theorem check_ok {c : Prop} [Decidable c] {e : ε} {y : Except ε α} {a : α} :
    (if c then .error e else y) = .ok a ↔ ¬ c ∧ y = .ok a :=
  ite_ok.trans (or_iff_right fun h => nomatch h.2)

/-- A check of a `do` block that was passed. -/
theorem guard_ok {γ : Type} {c : Prop} [Decidable c] {e : ε} {f : γ → Except ε α}
    {y : Except ε α} {a : α} : (if c then throw e >>= f else y) = .ok a ↔ ¬ c ∧ y = .ok a :=
  ite_ok.trans (or_iff_right fun h => nomatch h.2)

theorem isOk_iff {x : Except ε α} : x.isOk ↔ ∃ a, x = .ok a := by
  cases x with
  | error e => exact ⟨nofun, fun ⟨a, h⟩ => nomatch h⟩
  | ok a => exact ⟨fun _ => ⟨a, rfl⟩, fun _ => rfl⟩

/-- Values made into others are made back one by one. -/
theorem mapM_back {f : β → Except ε α} {g : α → β} {values : List α} :
    (values.map g).mapM f = .ok values ↔ ∀ value ∈ values, f (g value) = .ok value := by
  induction values with
  | nil => exact ⟨fun _ _ mem => absurd mem List.not_mem_nil, fun _ => rfl⟩
  | cons value rest ih =>
    rw [List.map_cons, List.mapM_cons, List.forall_mem_cons, ← ih, bind_ok]
    constructor
    · rintro ⟨first, isFirst, made⟩
      obtain ⟨others, areOthers, same⟩ := bind_ok.mp made
      cases same
      exact ⟨isFirst, areOthers⟩
    · rintro ⟨isFirst, areOthers⟩
      exact ⟨value, isFirst, bind_ok.mpr ⟨rest, areOthers, rfl⟩⟩

end RelayPool.Fallible
