import Mathlib.Data.List.Forall2
import Mathlib.Tactic.Common

/-! Wildcard patterns.

A pattern is a list of tokens over any alphabet: a literal, one arbitrary
element, or a star for any run of elements. `Accepts` is the language. Patterns
concatenate (`accepts_append`), adjacent stars are one (`accepts_star_star`), and
renaming the elements a pattern does not mention keeps what it accepts
(`Accepts.map`).

A matcher that remembers only the last star is justified by three equations about
`star :: segment ++ rest` when the star-free `segment` covers the elements taken
since the star: a second star makes the first final (`accepts_star_commit`), a
rest that fails moves the star one element on (`accepts_star_retry`), and at the
end of the input only the rest is left to ask (`accepts_star_finish`). -/
namespace RelayPool.Wildcard

inductive Token (α : Type*) where
  | literal (expected : α)
  | any
  | star
deriving DecidableEq, Repr

variable {α : Type*}

/-- A token other than the star stands for exactly one element. -/
def Token.Covers : Token α → α → Prop
  | .literal expected, a => expected = a
  | .any, _ => True
  | .star, _ => False

/-- The inputs a pattern accepts. -/
inductive Accepts : List (Token α) → List α → Prop
  | nil : Accepts [] []
  | one {token : Token α} {tokens : List (Token α)} {a : α} {input : List α} :
      token.Covers a → Accepts tokens input → Accepts (token :: tokens) (a :: input)
  | star {tokens : List (Token α)} {input : List α} (skipped : List α) :
      Accepts tokens input → Accepts (.star :: tokens) (skipped ++ input)

@[simp] theorem accepts_nil {input : List α} : Accepts [] input ↔ input = [] := by
  constructor
  · intro accepted
    cases accepted
    rfl
  · rintro rfl
    exact .nil

theorem accepts_star_iff {tokens : List (Token α)} {input : List α} :
    Accepts (.star :: tokens) input ↔
      ∃ skipped rest, input = skipped ++ rest ∧ Accepts tokens rest := by
  constructor
  · intro accepted
    cases accepted with
    | one covers _ => exact absurd covers id
    | star skipped rest => exact ⟨skipped, _, rfl, rest⟩
  · rintro ⟨skipped, rest, rfl, accepted⟩
    exact .star skipped accepted

theorem accepts_cons_iff {token : Token α} {tokens : List (Token α)} {input : List α}
    (plain : token ≠ .star) :
    Accepts (token :: tokens) input ↔
      ∃ a rest, input = a :: rest ∧ token.Covers a ∧ Accepts tokens rest := by
  constructor
  · intro accepted
    cases accepted with
    | one covers rest => exact ⟨_, _, rfl, covers, rest⟩
    | star skipped rest => exact absurd rfl plain
  · rintro ⟨a, rest, rfl, covers, accepted⟩
    exact .one covers accepted

/-- A star takes nothing, or takes the first element and stays. -/
theorem accepts_star_cons {tokens : List (Token α)} {a : α} {input : List α} :
    Accepts (.star :: tokens) (a :: input) ↔
      Accepts tokens (a :: input) ∨ Accepts (.star :: tokens) input := by
  constructor
  · intro accepted
    obtain ⟨skipped, rest, split, remaining⟩ := accepts_star_iff.mp accepted
    cases skipped with
    | nil =>
      rw [List.nil_append] at split
      exact .inl (split ▸ remaining)
    | cons b skipped =>
      obtain ⟨rfl, rfl⟩ := List.cons.inj split
      exact .inr (.star skipped remaining)
  · rintro (accepted | accepted)
    · exact .star [] accepted
    · obtain ⟨skipped, rest, rfl, remaining⟩ := accepts_star_iff.mp accepted
      exact .star (a :: skipped) remaining

theorem accepts_star_nil {tokens : List (Token α)} :
    Accepts (.star :: tokens) [] ↔ Accepts tokens [] := by
  constructor
  · intro accepted
    obtain ⟨skipped, rest, split, accepted⟩ := accepts_star_iff.mp accepted
    obtain ⟨-, rfl⟩ := List.append_eq_nil_iff.mp split.symm
    exact accepted
  · exact fun accepted => .star [] accepted

theorem accepts_append {left right : List (Token α)} {input : List α} :
    Accepts (left ++ right) input ↔
      ∃ front back, input = front ++ back ∧ Accepts left front ∧ Accepts right back := by
  constructor
  · induction left generalizing input with
    | nil => exact fun accepted => ⟨[], input, rfl, .nil, accepted⟩
    | cons token left ih =>
      intro accepted
      cases accepted with
      | one covers rest =>
        obtain ⟨front, back, rfl, first, second⟩ := ih rest
        exact ⟨_ :: front, back, rfl, .one covers first, second⟩
      | star skipped rest =>
        obtain ⟨front, back, rfl, first, second⟩ := ih rest
        exact ⟨skipped ++ front, back, (List.append_assoc ..).symm, .star skipped first, second⟩
  · rintro ⟨front, back, rfl, first, second⟩
    induction first with
    | nil => exact second
    | one covers _ ih => exact .one covers ih
    | star skipped _ ih =>
      rw [List.append_assoc]
      exact .star skipped ih

theorem accepts_star_star {tokens : List (Token α)} {input : List α} :
    Accepts (.star :: .star :: tokens) input ↔ Accepts (.star :: tokens) input := by
  constructor
  · intro accepted
    obtain ⟨first, behind, rfl, starred⟩ := accepts_star_iff.mp accepted
    obtain ⟨second, rest, rfl, remaining⟩ := accepts_star_iff.mp starred
    rw [← List.append_assoc]
    exact .star _ remaining
  · exact fun accepted => .star [] accepted

/-- A pattern accepts the image of an input under a map that fixes its literals. -/
theorem Accepts.map {tokens : List (Token α)} {input : List α} {f : α → α}
    (accepted : Accepts tokens input) (fixed : ∀ a, .literal a ∈ tokens → f a = a) :
    Accepts tokens (input.map f) := by
  induction accepted with
  | nil => exact .nil
  | @one token tokens a input covers _ ih =>
    refine .one ?_ (ih fun b mem => fixed b (List.mem_cons_of_mem _ mem))
    cases token with
    | literal expected =>
      obtain rfl : expected = a := covers
      exact (fixed expected List.mem_cons_self).symm
    | any => trivial
    | star => exact covers
  | star skipped _ ih =>
    rw [List.map_append]
    exact .star _ (ih fun b mem => fixed b (List.mem_cons_of_mem _ mem))

/-! ### Star-free segments -/

/-- The star-free `segment` stands for exactly the elements `taken`. -/
abbrev Fits (segment : List (Token α)) (taken : List α) : Prop :=
  List.Forall₂ Token.Covers segment taken

theorem Fits.accepts {segment : List (Token α)} {taken : List α} (fits : Fits segment taken) :
    Accepts segment taken := by
  induction fits with
  | nil => exact .nil
  | cons covers _ ih => exact .one covers ih

theorem Fits.concat {segment : List (Token α)} {taken : List α} {token : Token α} {a : α}
    (fits : Fits segment taken) (covers : token.Covers a) :
    Fits (segment ++ [token]) (taken ++ [a]) :=
  List.rel_append fits (.cons covers .nil)

/-- A segment that fits somewhere accepts only inputs of its own length. -/
theorem Fits.length_eq {segment : List (Token α)} {taken front : List α}
    (fits : Fits segment taken) (accepted : Accepts segment front) :
    front.length = taken.length := by
  induction fits generalizing front with
  | nil =>
    obtain rfl := accepts_nil.mp accepted
    rfl
  | cons covers _ ih =>
    cases accepted with
    | one _ rest => exact congrArg (· + 1) (ih rest)
    | star => exact absurd covers id

/-- Where a segment fits, the rest of the pattern meets exactly the rest of the input. -/
theorem Fits.accepts_append {segment rest : List (Token α)} {taken input : List α}
    (fits : Fits segment taken) :
    Accepts (segment ++ rest) (taken ++ input) ↔ Accepts rest input := by
  constructor
  · intro accepted
    obtain ⟨front, back, split, first, second⟩ := Wildcard.accepts_append.mp accepted
    obtain ⟨-, rfl⟩ := List.append_inj split (fits.length_eq first).symm
    exact second
  · exact fun accepted => Wildcard.accepts_append.mpr ⟨taken, input, rfl, fits.accepts, accepted⟩

/-! ### What a matcher may forget -/

/-- A later place of the segment leaves less for the second star than its first place does. -/
theorem accepts_star_commit {segment rest : List (Token α)} {taken input : List α}
    (fits : Fits segment taken) :
    Accepts (.star :: (segment ++ .star :: rest)) (taken ++ input) ↔
      Accepts (.star :: rest) input := by
  constructor
  · intro accepted
    obtain ⟨skipped, tail, split, behind⟩ := accepts_star_iff.mp accepted
    obtain ⟨front, back, rfl, first, second⟩ := accepts_append.mp behind
    have lengths := fits.length_eq first
    rw [← List.append_assoc] at split
    obtain ⟨between, -, rfl⟩ | ⟨between, equal, rfl⟩ := List.append_eq_append_iff.mp split
    · obtain ⟨further, last, rfl, remaining⟩ := accepts_star_iff.mp second
      rw [← List.append_assoc]
      exact .star _ remaining
    · have short := congrArg List.length equal
      simp only [List.length_append] at short
      obtain rfl : between = [] := List.eq_nil_of_length_eq_zero (by omega)
      exact second
  · exact fun accepted => .star [] (fits.accepts_append.mpr accepted)

/-- When the rest fails behind the first place of the segment, the star takes one element more. -/
theorem accepts_star_retry {segment rest : List (Token α)} {taken input : List α}
    (fits : Fits segment taken) (fails : ¬ Accepts rest input) :
    Accepts (.star :: (segment ++ rest)) (taken ++ input) ↔
      Accepts (.star :: (segment ++ rest)) (taken ++ input).tail := by
  have here : ¬ Accepts (segment ++ rest) (taken ++ input) :=
    fun accepted => fails (fits.accepts_append.mp accepted)
  cases whole : taken ++ input with
  | nil => rfl
  | cons a tail =>
    rw [whole] at here
    rw [accepts_star_cons, List.tail_cons, or_iff_right here]

/-- At the end of the input the segment has to stay where it is. -/
theorem accepts_star_finish {segment rest : List (Token α)} {taken : List α}
    (fits : Fits segment taken) :
    Accepts (.star :: (segment ++ rest)) taken ↔ Accepts rest [] := by
  constructor
  · intro accepted
    obtain ⟨skipped, tail, split, behind⟩ := accepts_star_iff.mp accepted
    obtain ⟨front, back, rfl, first, second⟩ := accepts_append.mp behind
    have lengths := fits.length_eq first
    have total := congrArg List.length split
    simp only [List.length_append] at total
    obtain rfl : back = [] := List.eq_nil_of_length_eq_zero (by omega)
    exact second
  · intro accepted
    refine .star [] (accepts_append.mpr ⟨taken, [], ?_, fits.accepts, accepted⟩)
    rw [List.append_nil]

end RelayPool.Wildcard
