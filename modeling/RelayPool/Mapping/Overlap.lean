import RelayPool.Mapping.Glob
import RelayPool.Search
import Mathlib.Data.List.Dedup
import Mathlib.Data.List.ProdSigma
import Mathlib.Data.List.Sort

/-! The overlap check of two glob patterns.

It searches the product of the two token automata. Each automaton is walked by
its closure under stars that take nothing and by what it consumes; the
characters tried are the literals of both patterns and one other. A string both
patterns accept can be rewritten over these characters, since only the literals
are told apart, so the answer, when the budget allows one, is whether some
string matches both (`intersects_exact`). -/
namespace RelayPool.Mapping

open Wildcard (Accepts accepts_cons_iff accepts_star_cons accepts_star_nil)

def maxIntersectionStates : Nat := 16384
def maxIntersectionWork : Nat := 100000

inductive GlobIntersectionError where
  | budgetExceeded
deriving DecidableEq, Repr

def epsilonClosure (tokens : List GlobToken) (start : Nat) : List Nat :=
  start :: if tokens[start]? = some .star then epsilonClosure tokens (start + 1) else []
termination_by tokens.length - start
decreasing_by
  rename_i star
  have := (List.getElem?_eq_some_iff.mp star).1
  omega

/-- The state behind one consumed character. A star stays where it is. -/
def consume (tokens : List GlobToken) (character : Char) (index : Nat) : Option Nat :=
  match tokens[index]? with
  | some (.literal expected) => if expected = character then some (index + 1) else none
  | some .any => some (index + 1)
  | some .star => some index
  | none => none

def addState (tokens : List GlobToken) (character : Char) (states : List Nat) (index : Nat) :
    List Nat :=
  match consume tokens character index with
  | some next => if next ∈ states then states else states ++ [next]
  | none => states

def consumeStates (tokens : List GlobToken) (closure : List Nat) (character : Char) : List Nat :=
  closure.foldl (addState tokens character) []

def CompiledGlob.literals (glob : CompiledGlob) : List Char :=
  glob.tokens.filterMap fun
    | .literal character => some character
    | _ => none

/-- All characters outside the literals are alike to both patterns; one of them stands for all,
though with all five taken it is a literal itself. -/
def otherCharacter (literals : List Char) : Char :=
  ([Char.ofNat 0x10ffff, Char.ofNat 0xfffd, 'a', '0', '_'].find? (· ∉ literals)).getD
    (Char.ofNat 0x10ffff)

def representativeAlphabet (left right : CompiledGlob) : List Char :=
  let literals := (left.literals ++ right.literals).dedup
  literals.insertionSort (· ≤ ·) ++ [otherCharacter literals]

/-- Both patterns may be at their end. -/
def CompiledGlob.bothDone (left right : CompiledGlob) (state : Nat × Nat) : Bool :=
  (epsilonClosure left.tokens state.1).any fun leftState =>
    (epsilonClosure right.tokens state.2).any fun rightState =>
      leftState = left.tokens.length ∧ rightState = right.tokens.length

def CompiledGlob.successors (left right : CompiledGlob) (state : Nat × Nat) : List (Nat × Nat) :=
  (representativeAlphabet left right).flatMap fun representative =>
    consumeStates left.tokens (epsilonClosure left.tokens state.1) representative ×ˢ
      consumeStates right.tokens (epsilonClosure right.tokens state.2) representative

def CompiledGlob.intersects (left right : CompiledGlob) : Except GlobIntersectionError Bool :=
  match Search.search (left.bothDone right) (left.successors right) maxIntersectionStates
    maxIntersectionWork ⟨[(0, 0)], {(0, 0)}⟩ with
  | some found => .ok found
  | none => .error .budgetExceeded

/-! ### One automaton -/

theorem done_iff {tokens : List GlobToken} {start : Nat} (within : start ≤ tokens.length) :
    tokens.length ∈ epsilonClosure tokens start ↔ Accepts (tokens.drop start) [] := by
  fun_induction epsilonClosure tokens start with
  | case1 start ih =>
    by_cases star : tokens[start]? = some .star
    · have bound := (List.getElem?_eq_some_iff.mp star).1
      rw [if_pos star, List.mem_cons, ih star bound, drop_of_getElem? star, accepts_star_nil,
        or_iff_right (by omega)]
    · rw [if_neg star, List.mem_singleton, ← skipStars_iff within, skipStars, if_neg star, eq_comm]

theorem consume_le {tokens : List GlobToken} {character : Char} {index next : Nat}
    (consumed : consume tokens character index = some next) : next ≤ tokens.length := by
  unfold consume at consumed
  split at consumed
  · rename_i present
    have bound := (List.getElem?_eq_some_iff.mp present).1
    split at consumed
    · obtain rfl := Option.some.inj consumed
      exact bound
    · exact absurd consumed nofun
  · rename_i present
    obtain rfl := Option.some.inj consumed
    exact (List.getElem?_eq_some_iff.mp present).1
  · rename_i present
    obtain rfl := Option.some.inj consumed
    exact (List.getElem?_eq_some_iff.mp present).1.le
  · exact absurd consumed nofun

theorem mem_addState {tokens : List GlobToken} {character : Char} {states : List Nat}
    {index next : Nat} :
    next ∈ addState tokens character states index ↔
      next ∈ states ∨ consume tokens character index = some next := by
  unfold addState
  split
  · rename_i found consumed
    rw [consumed, Option.some.injEq]
    split
    · rename_i known
      exact ⟨.inl, fun either => either.elim id (· ▸ known)⟩
    · rw [List.mem_append, List.mem_singleton, eq_comm]
  · rename_i stuck
    rw [stuck]
    exact ⟨.inl, fun either => either.elim id nofun⟩

theorem mem_foldl_addState {tokens : List GlobToken} {character : Char} {closure : List Nat}
    {next : Nat} : ∀ {states : List Nat},
    next ∈ closure.foldl (addState tokens character) states ↔
      next ∈ states ∨ ∃ index ∈ closure, consume tokens character index = some next := by
  induction closure with
  | nil => simp
  | cons index closure ih =>
    intro states
    rw [List.foldl_cons, ih, mem_addState]
    simp only [List.mem_cons, exists_eq_or_imp, or_assoc]

theorem mem_consumeStates {tokens : List GlobToken} {closure : List Nat} {character : Char}
    {next : Nat} :
    next ∈ consumeStates tokens closure character ↔
      ∃ index ∈ closure, consume tokens character index = some next :=
  mem_foldl_addState.trans (or_iff_right List.not_mem_nil)

/-- What a state that is no star consumes. -/
theorem accepts_consume {tokens : List GlobToken} {index : Nat} {character : Char}
    {input : List Char} (plain : tokens[index]? ≠ some .star) :
    Accepts (tokens.drop index) (character :: input) ↔
      ∃ next, consume tokens character index = some next ∧ Accepts (tokens.drop next) input := by
  unfold consume
  split
  · rename_i expected present
    rw [drop_of_getElem? present, accepts_cons_iff fun star => plain (star ▸ present)]
    constructor
    · rintro ⟨a, rest, same, covers, accepted⟩
      obtain ⟨rfl, rfl⟩ := List.cons.inj same
      exact ⟨index + 1, if_pos covers, accepted⟩
    · rintro ⟨next, consumed, accepted⟩
      split at consumed
      · rename_i covers
        obtain rfl := Option.some.inj consumed
        exact ⟨character, input, rfl, covers, accepted⟩
      · exact absurd consumed nofun
  · rename_i present
    rw [drop_of_getElem? present, accepts_cons_iff fun star => plain (star ▸ present)]
    constructor
    · rintro ⟨a, rest, same, -, accepted⟩
      obtain ⟨rfl, rfl⟩ := List.cons.inj same
      exact ⟨index + 1, rfl, accepted⟩
    · rintro ⟨next, consumed, accepted⟩
      obtain rfl := Option.some.inj consumed
      exact ⟨character, input, rfl, trivial, accepted⟩
  · rename_i present
    exact absurd present plain
  · rename_i absent
    rw [List.drop_eq_nil_of_le (List.getElem?_eq_none_iff.mp absent), Wildcard.accepts_nil]
    exact iff_of_false nofun fun ⟨_, consumed, _⟩ => absurd consumed nofun

theorem accepts_closure {tokens : List GlobToken} {start : Nat} {character : Char}
    {input : List Char} :
    Accepts (tokens.drop start) (character :: input) ↔
      ∃ index ∈ epsilonClosure tokens start, ∃ next,
        consume tokens character index = some next ∧ Accepts (tokens.drop next) input := by
  fun_induction epsilonClosure tokens start with
  | case1 start ih =>
    simp only [List.mem_cons, exists_eq_or_imp]
    by_cases star : tokens[start]? = some .star
    · have stays : consume tokens character start = some start := by
        unfold consume
        rw [star]
      rw [if_pos star, ← ih star, stays]
      simp only [Option.some.injEq, exists_eq_left']
      rw [drop_of_getElem? star, accepts_star_cons, or_comm]
    · rw [if_neg star, accepts_consume star]
      simp only [List.not_mem_nil, false_and, exists_false, or_false]

/-- A consumed character leads the automaton to the states that accept the rest. -/
theorem accepts_cons {tokens : List GlobToken} {start : Nat} {character : Char}
    {input : List Char} :
    Accepts (tokens.drop start) (character :: input) ↔
      ∃ next ∈ consumeStates tokens (epsilonClosure tokens start) character,
        Accepts (tokens.drop next) input := by
  rw [accepts_closure]
  simp only [mem_consumeStates]
  constructor
  · rintro ⟨index, mem, next, consumed, accepted⟩
    exact ⟨next, ⟨index, mem, consumed⟩, accepted⟩
  · rintro ⟨next, ⟨index, mem, consumed⟩, accepted⟩
    exact ⟨index, mem, next, consumed, accepted⟩

theorem consumeStates_le {tokens : List GlobToken} {closure : List Nat} {character : Char}
    {next : Nat} (mem : next ∈ consumeStates tokens closure character) :
    next ≤ tokens.length := by
  obtain ⟨index, -, consumed⟩ := mem_consumeStates.mp mem
  exact consume_le consumed

/-! ### The product -/

section Product
variable {left right : CompiledGlob}

/-- Both patterns accept the input from the state on. -/
def Both (left right : CompiledGlob) (state : Nat × Nat) (input : List Char) : Prop :=
  Accepts (left.tokens.drop state.1) input ∧ Accepts (right.tokens.drop state.2) input

theorem bothDone_iff {state : Nat × Nat} (withinLeft : state.1 ≤ left.tokens.length)
    (withinRight : state.2 ≤ right.tokens.length) :
    left.bothDone right state = true ↔ Both left right state [] := by
  unfold CompiledGlob.bothDone Both
  rw [← done_iff withinLeft, ← done_iff withinRight]
  simp only [List.any_eq_true, decide_eq_true_eq]
  constructor
  · rintro ⟨_, memLeft, _, memRight, rfl, rfl⟩
    exact ⟨memLeft, memRight⟩
  · rintro ⟨memLeft, memRight⟩
    exact ⟨_, memLeft, _, memRight, rfl, rfl⟩

theorem mem_successors {state next : Nat × Nat} :
    next ∈ left.successors right state ↔
      ∃ character ∈ representativeAlphabet left right,
        next.1 ∈ consumeStates left.tokens (epsilonClosure left.tokens state.1) character ∧
          next.2 ∈ consumeStates right.tokens (epsilonClosure right.tokens state.2) character := by
  obtain ⟨nextLeft, nextRight⟩ := next
  simp only [CompiledGlob.successors, List.mem_flatMap, List.mem_product]

/-- A common string over the representatives is a walk to a state where both are done. -/
theorem walk_of_both {input : List Char} :
    ∀ {state : Nat × Nat}, state.1 ≤ left.tokens.length → state.2 ≤ right.tokens.length →
      (∀ c ∈ input, c ∈ representativeAlphabet left right) → Both left right state input →
      ∃ last, Search.Reaches (left.successors right) state last ∧
        left.bothDone right last = true := by
  induction input with
  | nil =>
    intro state withinLeft withinRight _ both
    exact ⟨state, .refl, (bothDone_iff withinLeft withinRight).mpr both⟩
  | cons character input ih =>
    rintro state - - known ⟨acceptsLeft, acceptsRight⟩
    obtain ⟨nextLeft, memLeft, restLeft⟩ := accepts_cons.mp acceptsLeft
    obtain ⟨nextRight, memRight, restRight⟩ := accepts_cons.mp acceptsRight
    have step : (nextLeft, nextRight) ∈ left.successors right state :=
      mem_successors.mpr ⟨character, known character List.mem_cons_self, memLeft, memRight⟩
    have both : Both left right (nextLeft, nextRight) input := ⟨restLeft, restRight⟩
    obtain ⟨last, reached, done⟩ := ih (consumeStates_le memLeft) (consumeStates_le memRight)
      (fun c mem => known c (List.mem_cons_of_mem _ mem)) both
    exact ⟨last, .head step reached, done⟩

/-- A walk spells a string both patterns accept. -/
theorem both_of_walk {state last : Nat × Nat}
    (reached : Search.Reaches (left.successors right) state last)
    (done : left.bothDone right last = true) (withinLeft : state.1 ≤ left.tokens.length)
    (withinRight : state.2 ≤ right.tokens.length) : ∃ input, Both left right state input := by
  induction reached using Relation.ReflTransGen.head_induction_on with
  | refl => exact ⟨[], (bothDone_iff withinLeft withinRight).mp done⟩
  | head step _ ih =>
    obtain ⟨character, -, memLeft, memRight⟩ := mem_successors.mp step
    obtain ⟨input, acceptsLeft, acceptsRight⟩ :=
      ih (consumeStates_le memLeft) (consumeStates_le memRight)
    exact ⟨character :: input, accepts_cons.mpr ⟨_, memLeft, acceptsLeft⟩,
      accepts_cons.mpr ⟨_, memRight, acceptsRight⟩⟩

/-! ### The representatives -/

theorem mem_literals {glob : CompiledGlob} {c : Char} :
    c ∈ glob.literals ↔ .literal c ∈ glob.tokens := by
  unfold CompiledGlob.literals
  rw [List.mem_filterMap]
  constructor
  · rintro ⟨token, mem, same⟩
    split at same
    · obtain rfl := Option.some.inj same
      exact mem
    · exact absurd same nofun
  · exact fun mem => ⟨_, mem, rfl⟩

/-- Every character has a representative, which for a literal of either pattern is itself. -/
theorem exists_representative (left right : CompiledGlob) : ∃ f : Char → Char,
    (∀ c, f c ∈ representativeAlphabet left right) ∧
      ∀ c, c ∈ left.literals ∨ c ∈ right.literals → f c = c := by
  let literals := (left.literals ++ right.literals).dedup
  refine ⟨fun c => if c ∈ literals then c else otherCharacter literals, fun c => ?_,
    fun c literal => ?_⟩
  · show (if c ∈ literals then c else otherCharacter literals) ∈
      literals.insertionSort (· ≤ ·) ++ [otherCharacter literals]
    split
    · rename_i literal
      exact List.mem_append_left _ ((List.mem_insertionSort _).mpr literal)
    · exact List.mem_append_right _ (List.mem_singleton_self _)
  · exact if_pos (List.mem_dedup.mpr (List.mem_append.mpr literal))

/-- A common string can be spelled with the representatives alone. -/
theorem both_representative {input : List Char} {state : Nat × Nat}
    (both : Both left right state input) :
    ∃ spelled, (∀ c ∈ spelled, c ∈ representativeAlphabet left right) ∧
      Both left right state spelled := by
  obtain ⟨f, known, fixed⟩ := exists_representative left right
  refine ⟨input.map f, ?_, both.1.map ?_, both.2.map ?_⟩
  · intro c mem
    obtain ⟨a, -, rfl⟩ := List.mem_map.mp mem
    exact known a
  · exact fun a mem => fixed a (.inl (mem_literals.mpr (List.mem_of_mem_drop mem)))
  · exact fun a mem => fixed a (.inr (mem_literals.mpr (List.mem_of_mem_drop mem)))

/-- When the overlap check answers, its answer is whether some string matches both patterns. -/
theorem intersects_exact {overlap : Bool} (answered : left.intersects right = .ok overlap) :
    overlap = true ↔ ∃ input, left.matches input = true ∧ right.matches input = true := by
  unfold CompiledGlob.intersects at answered
  split at answered
  · rename_i found decided
    obtain rfl := Except.ok.inj answered
    rw [Search.search_exact decided]
    simp only [matches_iff_accepts]
    constructor
    · rintro ⟨last, reached, done⟩
      obtain ⟨input, both⟩ := both_of_walk reached done (Nat.zero_le _) (Nat.zero_le _)
      refine ⟨String.ofList input, ?_⟩
      rw [String.toList_ofList]
      exact both
    · rintro ⟨input, both⟩
      obtain ⟨spelled, known, both⟩ := @both_representative left right _ (0, 0) both
      exact walk_of_both (Nat.zero_le _) (Nat.zero_le _) known both
  · exact absurd answered nofun

end Product

def sampleLeft : CompiledGlob := ⟨[.literal 'a', .star], 1⟩
def sampleRight : CompiledGlob := ⟨[.star, .literal 'b'], 1⟩

theorem intersects_exact_sample :
    sampleLeft.intersects sampleRight = .ok true ∧
      (true = true ↔
        ∃ input, sampleLeft.matches input = true ∧ sampleRight.matches input = true) :=
  ⟨by decide +kernel, intersects_exact (by decide +kernel)⟩

end RelayPool.Mapping
