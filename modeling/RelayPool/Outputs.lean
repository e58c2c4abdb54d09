import RelayPool.Runs

/-! Runs with outputs.

A step gives some outputs and the next state. A run collects the outputs in their order,
and is itself a run of the step that keeps them next to the state
(`run_recorded`), so the rules for runs speak about histories of outputs as well. What
`Each` output owes to those before it is checked when it is handed out. -/
namespace RelayPool.Outputs
open Runs

variable {σ α ω : Type*}

/-- More outputs after some, from the state that these left. -/
def andThen (first : List ω × σ) (next : σ → List ω × σ) : List ω × σ :=
  (first.1 ++ (next first.2).1, (next first.2).2)

@[simp] theorem andThen_none (s : σ) (next : σ → List ω × σ) : andThen ([], s) next = next s := rfl

@[simp] theorem andThen_id (first : List ω × σ) : andThen first (fun s => ([], s)) = first := by
  simp [andThen]

theorem andThen_assoc (first : List ω × σ) (next last : σ → List ω × σ) :
    andThen (andThen first next) last = andThen first fun s => andThen (next s) last := by
  simp [andThen]

/-- The outputs of a run, and its last state. -/
def outputs (step : σ → α → List ω × σ) (s : σ) : List α → List ω × σ
  | [] => ([], s)
  | a :: rest => andThen (step s a) fun s => outputs step s rest

@[simp] theorem outputs_nil (step : σ → α → List ω × σ) (s : σ) : outputs step s [] = ([], s) := rfl

@[simp] theorem outputs_cons (step : σ → α → List ω × σ) (s : σ) (a : α) (rest : List α) :
    outputs step s (a :: rest) = andThen (step s a) fun s => outputs step s rest := rfl

theorem outputs_append (step : σ → α → List ω × σ) (s : σ) (as bs : List α) :
    outputs step s (as ++ bs) = andThen (outputs step s as) fun s => outputs step s bs := by
  induction as generalizing s with
  | nil => rfl
  | cons a rest ih =>
    rw [List.cons_append, outputs_cons, outputs_cons, andThen_assoc]
    simp only [ih]

theorem outputs_flatMap {β : Type*} (step : σ → α → List ω × σ) (f : β → List α) (s : σ)
    (bs : List β) :
    outputs step s (bs.flatMap f) = outputs (fun s b => outputs step s (f b)) s bs := by
  induction bs generalizing s with
  | nil => rfl
  | cons b rest ih =>
    rw [List.flatMap_cons, outputs_append, outputs_cons]
    simp only [ih]

/-- The step that keeps the history of outputs next to the state. -/
def recorded (step : σ → α → List ω × σ) (history : List ω × σ) (a : α) : List ω × σ :=
  andThen history fun s => step s a

theorem run_recorded (step : σ → α → List ω × σ) (history : List ω × σ) (as : List α) :
    run (recorded step) history as = andThen history fun s => outputs step s as := by
  induction as generalizing history with
  | nil => exact (andThen_id history).symm
  | cons a rest ih =>
    rw [run_cons, ih, recorded, andThen_assoc]
    rfl

/-! ### Histories -/

/-- Every output stands in a relation to the outputs before it. -/
def Each (P : List ω → ω → Prop) (history : List ω) : Prop :=
  ∀ before a after, history = before ++ a :: after → P before a

theorem each_nil (P : List ω → ω → Prop) : Each P [] := by
  intro before a after h
  simp at h

theorem each_concat {P : List ω → ω → Prop} {history : List ω} {a : ω} :
    Each P (history ++ [a]) ↔ Each P history ∧ P history a := by
  constructor
  · intro h
    refine ⟨fun before b after same => ?_, h history a [] rfl⟩
    exact h before b (after ++ [a]) (by rw [same, List.append_assoc, List.cons_append])
  · rintro ⟨earlier, last⟩ before b after same
    rcases after.eq_nil_or_concat with rfl | ⟨after', c, rfl⟩
    · obtain ⟨rfl, one⟩ := List.append_inj' same rfl
      obtain rfl := List.singleton_inj.mp one
      exact last
    · rw [List.concat_eq_append, ← List.cons_append, ← List.append_assoc] at same
      exact earlier before b after' (List.append_inj' same rfl).1

theorem Each.of_getElem {P : List ω → ω → Prop} {history : List ω} (h : Each P history) {i : Nat}
    {a : ω} (at_ : history[i]? = some a) : P (history.take i) a := by
  obtain ⟨inside, rfl⟩ := List.getElem?_eq_some_iff.mp at_
  refine h _ _ (history.drop (i + 1)) ?_
  rw [← List.drop_eq_getElem_cons inside, List.take_append_drop]

/-- Of two outputs one comes before the other, unless they are the same. -/
theorem Each.of_mem {P : List ω → ω → Prop} {history : List ω} (h : Each P history) {a b : ω}
    (ha : a ∈ history) (hb : b ∈ history) :
    a = b ∨ (∃ before, P before b ∧ a ∈ before) ∨ ∃ before, P before a ∧ b ∈ before := by
  obtain ⟨before, after, rfl⟩ := List.append_of_mem ha
  rcases List.mem_append.mp hb with earlier | hb
  · exact .inr (.inr ⟨before, h before a after rfl, earlier⟩)
  rcases List.mem_cons.mp hb with rfl | later
  · exact .inl rfl
  · obtain ⟨between, after', rfl⟩ := List.append_of_mem later
    exact .inr (.inl ⟨before ++ a :: between, h _ b after' (by simp), by simp⟩)

/-- What an output owes to the ones before it holds of a later one and it. -/
theorem Each.of_later {P : List ω → ω → Prop} {before after : List ω} {a b : ω}
    (h : Each P (before ++ a :: after)) (hb : b ∈ after) : ∃ earlier, P earlier b ∧ a ∈ earlier := by
  obtain ⟨between, after', rfl⟩ := List.append_of_mem hb
  exact ⟨before ++ a :: between, h _ b after' (by simp), by simp⟩

end RelayPool.Outputs
