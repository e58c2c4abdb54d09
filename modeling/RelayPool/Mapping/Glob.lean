import RelayPool.Fallible
import RelayPool.Mapping.Document
import RelayPool.Wildcard
import Mathlib.Data.Char

/-! The glob patterns of model mapping rules.

A pattern compiles to wildcard tokens. Matching is greedy and goes back only to
the most recent star. At every pass the loop knows what the whole question has
come down to (`Held`), so that it decides the language of the pattern as it is
written (`matches_iff`). -/
namespace RelayPool.Mapping

open Fallible
open Wildcard (Accepts Fits accepts_cons_iff accepts_star_cons accepts_star_nil)

def maxPatternBytes : Nat := 256
def maxPatternTokens : Nat := 256

inductive GlobCompileError where
  | empty
  | tooLong
  | tooManyTokens
  | trailingEscape
  | invalidControl
deriving DecidableEq, Repr

def GlobCompileError.message : GlobCompileError → String
  | .empty => "glob pattern must not be empty"
  | .tooLong => "glob pattern is too long"
  | .tooManyTokens => "glob pattern has too many tokens"
  | .trailingEscape => "glob pattern has a trailing escape"
  | .invalidControl => "glob pattern contains a control character"

abbrev GlobToken := Wildcard.Token Char

structure CompiledGlob where
  tokens : List GlobToken
  literalCount : Nat
deriving DecidableEq, Repr

/-! ### Compiling -/

/-- A star behind a star is dropped. -/
def withToken (tokens : List GlobToken) (token : GlobToken) : List GlobToken :=
  if tokens.getLast? ≠ some .star ∨ token ≠ .star then tokens ++ [token] else tokens

def pushToken (tokens : List GlobToken) (token : GlobToken) :
    Except GlobCompileError (List GlobToken) :=
  if maxPatternTokens < (withToken tokens token).length then .error .tooManyTokens
  else .ok (withToken tokens token)

/-- The loop of `compile` over the characters left. -/
def compileFrom : List Char → List GlobToken → Nat → Except GlobCompileError CompiledGlob
  | [], tokens, literalCount =>
    if tokens = [] then .error .empty else .ok ⟨tokens, literalCount⟩
  | character :: chars, tokens, literalCount =>
    if character = '\\' then
      match chars with
      | [] => .error .trailingEscape
      | escaped :: chars =>
        if isForbidden escaped then
          .error .invalidControl
        else do
          let tokens ← pushToken tokens (.literal escaped)
          compileFrom chars tokens (literalCount + 1)
    else if character = '*' then do
      let tokens ← pushToken tokens .star
      compileFrom chars tokens literalCount
    else if character = '?' then do
      let tokens ← pushToken tokens .any
      compileFrom chars tokens literalCount
    else if isForbidden character then
      .error .invalidControl
    else do
      let tokens ← pushToken tokens (.literal character)
      compileFrom chars tokens (literalCount + 1)

def CompiledGlob.compile (pattern : String) : Except GlobCompileError CompiledGlob :=
  if pattern = "" then .error .empty
  else if maxPatternBytes < pattern.utf8ByteSize then .error .tooLong
  else compileFrom pattern.toList [] 0

/-! ### Matching -/

/-- Where the matching loop stands. The most recent star never begins behind the input index. -/
structure Cursor where
  inputIndex : Nat
  tokenIndex : Nat
  starIndex : Option Nat
  starInputIndex : Nat
  starBehind : starInputIndex ≤ inputIndex
deriving DecidableEq, Repr

/-- The token takes one value of the input. -/
def Cursor.take (c : Cursor) : Cursor :=
  { c with
    inputIndex := c.inputIndex + 1, tokenIndex := c.tokenIndex + 1,
    starBehind := Nat.le_succ_of_le c.starBehind }

def Cursor.remember (c : Cursor) : Cursor :=
  { c with
    tokenIndex := c.tokenIndex + 1, starIndex := some c.tokenIndex,
    starInputIndex := c.inputIndex, starBehind := le_refl _ }

/-- Back to the most recent star, which takes one value more; without a star the match fails. -/
def Cursor.backtrack (c : Cursor) : Option Cursor :=
  c.starIndex.map fun star =>
    { inputIndex := c.starInputIndex + 1, tokenIndex := star + 1, starIndex := some star,
      starInputIndex := c.starInputIndex + 1, starBehind := le_refl _ }

/-- One pass of the matching loop; `none` is its early return of false. -/
def CompiledGlob.advance (glob : CompiledGlob) (input : List Char) (c : Cursor) : Option Cursor :=
  match glob.tokens[c.tokenIndex]? with
  | some (.literal expected) =>
    if some expected = input[c.inputIndex]? then some c.take else c.backtrack
  | some .any => some c.take
  | some .star => some c.remember
  | none => c.backtrack

/-- The loop behind the end of the input. -/
def skipStars (tokens : List GlobToken) (index : Nat) : Nat :=
  if tokens[index]? = some .star then skipStars tokens (index + 1) else index
termination_by tokens.length - index
decreasing_by
  rename_i star
  have := (List.getElem?_eq_some_iff.mp star).1
  omega

/-- Moving the star on outweighs what is left behind it. -/
def CompiledGlob.measure (glob : CompiledGlob) (input : List Char) (c : Cursor) : Nat :=
  (input.length - c.starInputIndex) * (input.length + glob.tokens.length + 1) +
    ((input.length - c.inputIndex) + (glob.tokens.length - c.tokenIndex))

theorem measure_lt_of_star {glob : CompiledGlob} {input : List Char} {c next : Cursor}
    (moved : input.length - next.starInputIndex < input.length - c.starInputIndex) :
    glob.measure input next < glob.measure input c := by
  have weight := Nat.mul_le_mul_right (input.length + glob.tokens.length + 1) moved
  rw [Nat.succ_mul] at weight
  unfold CompiledGlob.measure
  omega

theorem measure_lt_behind_star {glob : CompiledGlob} {input : List Char} {c next : Cursor}
    (same : next.starInputIndex = c.starInputIndex)
    (moved : (input.length - next.inputIndex) + (glob.tokens.length - next.tokenIndex) <
      (input.length - c.inputIndex) + (glob.tokens.length - c.tokenIndex)) :
    glob.measure input next < glob.measure input c := by
  unfold CompiledGlob.measure
  rw [same]
  exact Nat.add_lt_add_left moved _

/-- Every pass moves the star on, or keeps it and moves on behind it. -/
theorem advance_decreases {glob : CompiledGlob} {input : List Char} {c next : Cursor}
    (inside : c.inputIndex < input.length) (advanced : glob.advance input c = some next) :
    glob.measure input next < glob.measure input c := by
  have behind := c.starBehind
  have back {next : Cursor} (went : c.backtrack = some next) :
      glob.measure input next < glob.measure input c := by
    obtain ⟨star, -, rfl⟩ := Option.map_eq_some_iff.mp went
    refine measure_lt_of_star ?_
    show input.length - (c.starInputIndex + 1) < input.length - c.starInputIndex
    omega
  have take {token : GlobToken} (present : glob.tokens[c.tokenIndex]? = some token) :
      glob.measure input c.take < glob.measure input c := by
    have := (List.getElem?_eq_some_iff.mp present).1
    refine measure_lt_behind_star rfl ?_
    show input.length - (c.inputIndex + 1) + (glob.tokens.length - (c.tokenIndex + 1)) <
      input.length - c.inputIndex + (glob.tokens.length - c.tokenIndex)
    omega
  unfold CompiledGlob.advance at advanced
  split at advanced
  · rename_i expected present
    split at advanced
    · obtain rfl := Option.some.inj advanced
      exact take present
    · exact back advanced
  · rename_i present
    obtain rfl := Option.some.inj advanced
    exact take present
  · rename_i present
    obtain rfl := Option.some.inj advanced
    have := (List.getElem?_eq_some_iff.mp present).1
    rcases Nat.eq_or_lt_of_le behind with same | later
    · refine measure_lt_behind_star same.symm ?_
      show input.length - c.inputIndex + (glob.tokens.length - (c.tokenIndex + 1)) <
        input.length - c.inputIndex + (glob.tokens.length - c.tokenIndex)
      omega
    · refine measure_lt_of_star ?_
      show input.length - c.inputIndex < input.length - c.starInputIndex
      omega
  · exact back advanced

def CompiledGlob.matchFrom (glob : CompiledGlob) (input : List Char) (c : Cursor) : Bool :=
  if _inside : c.inputIndex < input.length then
    match _advanced : glob.advance input c with
    | some next => glob.matchFrom input next
    | none => false
  else
    skipStars glob.tokens c.tokenIndex = glob.tokens.length
termination_by glob.measure input c
decreasing_by exact advance_decreases _inside _advanced

def CompiledGlob.matches (glob : CompiledGlob) (input : String) : Bool :=
  glob.matchFrom input.toList ⟨0, 0, none, 0, le_refl 0⟩

/-! ### The greedy matcher decides the language of its tokens -/

/-- The rest of the list from an index that holds `a`. -/
theorem drop_of_getElem? {β : Type} {xs : List β} {i : Nat} {a : β} (present : xs[i]? = some a) :
    xs.drop i = a :: xs.drop (i + 1) := by
  obtain ⟨bound, rfl⟩ := List.getElem?_eq_some_iff.mp present
  exact List.drop_eq_getElem_cons bound

theorem skipStars_iff {tokens : List GlobToken} {index : Nat} (within : index ≤ tokens.length) :
    skipStars tokens index = tokens.length ↔ Accepts (tokens.drop index) [] := by
  fun_induction skipStars tokens index with
  | case1 index star ih =>
    have bound := (List.getElem?_eq_some_iff.mp star).1
    rw [ih bound, drop_of_getElem? star, accepts_star_nil]
  | case2 index plain =>
    constructor
    · rintro rfl
      rw [List.drop_length]
      exact .nil
    · intro accepted
      rcases Nat.lt_or_ge index tokens.length with inside | outside
      · have present : tokens[index]? = some tokens[index] := List.getElem?_eq_getElem inside
        rw [drop_of_getElem? present,
          accepts_cons_iff fun star => plain (star ▸ present)] at accepted
        obtain ⟨a, rest, impossible, -⟩ := accepted
        exact absurd impossible nofun
      · omega

/-- What the matching loop knows at a cursor. Without a star the rest of the pattern has to
accept the rest of the input; behind a star the tokens since then fit the values taken since
then, and the whole question is what the star and its rest accept from there on. -/
inductive Held (tokens : List GlobToken) (input : List Char) (c : Cursor) : Prop
  | plain (within : c.tokenIndex ≤ tokens.length) (unstarred : c.starIndex = none)
      (remaining : Accepts tokens input ↔
        Accepts (tokens.drop c.tokenIndex) (input.drop c.inputIndex))
  | starred (within : c.tokenIndex ≤ tokens.length) {star : Nat} {segment : List GlobToken}
      {taken : List Char} (remembered : c.starIndex = some star) (inside : star < tokens.length)
      (behindStar : tokens.drop (star + 1) = segment ++ tokens.drop c.tokenIndex)
      (sinceStar : input.drop c.starInputIndex = taken ++ input.drop c.inputIndex)
      (fits : Fits segment taken)
      (remaining : Accepts tokens input ↔
        Accepts (.star :: tokens.drop (star + 1)) (input.drop c.starInputIndex))

section Loop
variable {tokens : List GlobToken} {input : List Char} {c : Cursor}

theorem Held.within (held : Held tokens input c) : c.tokenIndex ≤ tokens.length := by
  cases held <;> assumption

theorem Held.take {token : GlobToken} {a : Char} (held : Held tokens input c)
    (present : tokens[c.tokenIndex]? = some token) (read : input[c.inputIndex]? = some a)
    (covers : token.Covers a) : Held tokens input c.take := by
  have bound := (List.getElem?_eq_some_iff.mp present).1
  have tokensSplit := drop_of_getElem? present
  have inputSplit := drop_of_getElem? read
  cases held with
  | plain _ unstarred remaining =>
    refine .plain bound unstarred (remaining.trans ?_)
    have one : Fits [token] [a] := .cons covers .nil
    rw [tokensSplit, inputSplit]
    exact one.accepts_append
  | @starred _ star segment taken remembered inside behindStar sinceStar fits remaining =>
    refine .starred bound remembered inside ?_ ?_ (fits.concat covers) remaining
    · rw [behindStar, tokensSplit, List.append_assoc]
      rfl
    · show input.drop c.starInputIndex = taken ++ [a] ++ input.drop (c.inputIndex + 1)
      rw [sinceStar, inputSplit, List.append_assoc]
      rfl

theorem Held.remember (held : Held tokens input c)
    (present : tokens[c.tokenIndex]? = some .star) : Held tokens input c.remember := by
  have bound := (List.getElem?_eq_some_iff.mp present).1
  have tokensSplit := drop_of_getElem? present
  have settled : Accepts tokens input ↔
      Accepts (.star :: tokens.drop (c.tokenIndex + 1)) (input.drop c.inputIndex) := by
    cases held with
    | plain _ unstarred remaining => rw [remaining, tokensSplit]
    | starred _ remembered inside behindStar sinceStar fits remaining =>
      rw [remaining, behindStar, sinceStar, tokensSplit]
      exact Wildcard.accepts_star_commit fits
  exact .starred bound rfl bound (List.nil_append _).symm (List.nil_append _).symm .nil settled

theorem Held.backtrack {next : Cursor} (held : Held tokens input c)
    (fails : ¬ Accepts (tokens.drop c.tokenIndex) (input.drop c.inputIndex))
    (went : c.backtrack = some next) : Held tokens input next := by
  obtain ⟨star, remembered, rfl⟩ := Option.map_eq_some_iff.mp went
  cases held with
  | plain _ unstarred => exact absurd (unstarred.symm.trans remembered) nofun
  | starred _ same inside behindStar sinceStar fits remaining =>
    obtain rfl := Option.some.inj (same.symm.trans remembered)
    refine .starred inside rfl inside (List.nil_append _).symm (List.nil_append _).symm .nil ?_
    rw [remaining, behindStar, sinceStar, Wildcard.accepts_star_retry fits fails, ← sinceStar,
      List.tail_drop]

theorem Held.refuse (held : Held tokens input c)
    (fails : ¬ Accepts (tokens.drop c.tokenIndex) (input.drop c.inputIndex))
    (lost : c.backtrack = none) : ¬ Accepts tokens input := by
  have unstarred : c.starIndex = none := Option.map_eq_none_iff.mp lost
  cases held with
  | plain _ _ remaining => rwa [remaining]
  | starred _ remembered => exact absurd (unstarred.symm.trans remembered) nofun

/-- The token and the value at the cursor do not go together. -/
theorem mismatch {token : GlobToken} {a : Char} (present : tokens[c.tokenIndex]? = some token)
    (plain : token ≠ .star) (read : input[c.inputIndex]? = some a) (off : ¬ token.Covers a) :
    ¬ Accepts (tokens.drop c.tokenIndex) (input.drop c.inputIndex) := by
  rw [drop_of_getElem? present, drop_of_getElem? read, accepts_cons_iff plain]
  rintro ⟨b, rest, same, covers, -⟩
  obtain ⟨rfl, -⟩ := List.cons.inj same
  exact off covers

/-- A pass of the loop keeps what it knows, or the input is refused for good. -/
theorem Held.advance {glob : CompiledGlob} (held : Held glob.tokens input c)
    (inside : c.inputIndex < input.length) :
    (∀ next, glob.advance input c = some next → Held glob.tokens input next) ∧
      (glob.advance input c = none → ¬ Accepts glob.tokens input) := by
  have read : input[c.inputIndex]? = some input[c.inputIndex] := List.getElem?_eq_getElem inside
  have back (fails : ¬ Accepts (glob.tokens.drop c.tokenIndex) (input.drop c.inputIndex)) :
      (∀ next, c.backtrack = some next → Held glob.tokens input next) ∧
        (c.backtrack = none → ¬ Accepts glob.tokens input) :=
    ⟨fun _ went => held.backtrack fails went, held.refuse fails⟩
  have go {next : Cursor} (kept : Held glob.tokens input next) :
      (∀ other, some next = some other → Held glob.tokens input other) ∧
        (some next = none → ¬ Accepts glob.tokens input) :=
    ⟨fun _ same => Option.some.inj same ▸ kept, nofun⟩
  unfold CompiledGlob.advance
  split
  · rename_i expected present
    split
    · rename_i same
      exact go (held.take present read (Option.some.inj (same.trans read)))
    · rename_i different
      exact back (mismatch present nofun read fun covers =>
        different ((congrArg some covers).trans read.symm))
  · rename_i present
    exact go (held.take present read trivial)
  · rename_i present
    exact go (held.remember present)
  · rename_i absent
    refine back fun accepted => ?_
    have outside := List.getElem?_eq_none_iff.mp absent
    rw [List.drop_eq_nil_of_le outside, Wildcard.accepts_nil, drop_of_getElem? read] at accepted
    exact absurd accepted nofun

/-- Behind the end of the input only stars may be left. -/
theorem Held.finish (held : Held tokens input c) (past : input.length ≤ c.inputIndex) :
    skipStars tokens c.tokenIndex = tokens.length ↔ Accepts tokens input := by
  have exhausted : input.drop c.inputIndex = [] := List.drop_eq_nil_of_le past
  rw [skipStars_iff held.within]
  cases held with
  | plain _ unstarred remaining => rw [remaining, exhausted]
  | starred _ remembered inside behindStar sinceStar fits remaining =>
    rw [exhausted, List.append_nil] at sinceStar
    rw [remaining, behindStar, sinceStar, Wildcard.accepts_star_finish fits]

theorem Held.matchFrom {glob : CompiledGlob} (held : Held glob.tokens input c) :
    glob.matchFrom input c = true ↔ Accepts glob.tokens input := by
  fun_induction glob.matchFrom input c with
  | case1 c inside next advanced ih => exact ih ((held.advance inside).1 next advanced)
  | case2 c inside refused =>
    have refusal := (held.advance inside).2 refused
    exact iff_of_false nofun refusal
  | case3 c outside =>
    rw [decide_eq_true_iff]
    exact held.finish (Nat.le_of_not_lt outside)

end Loop

/-- Greedy matching with one remembered star decides what the tokens accept. -/
theorem matches_iff_accepts (glob : CompiledGlob) (input : String) :
    glob.matches input = true ↔ Accepts glob.tokens input.toList :=
  Held.matchFrom (.plain (Nat.zero_le _) rfl Iff.rfl)

/-! ### The language of a pattern as it is written -/

/-- `Denotes pattern input`: an escaped or plain character stands for itself, a question mark
for one character and a star for any run of characters. -/
inductive Denotes : List Char → List Char → Prop
  | nil : Denotes [] []
  | escaped {pattern input : List Char} (quoted : Char) :
      Denotes pattern input → Denotes ('\\' :: quoted :: pattern) (quoted :: input)
  | star {pattern input : List Char} (skipped : List Char) :
      Denotes pattern input → Denotes ('*' :: pattern) (skipped ++ input)
  | any {pattern input : List Char} (c : Char) :
      Denotes pattern input → Denotes ('?' :: pattern) (c :: input)
  | literal {pattern input : List Char} {c : Char} :
      c ≠ '\\' → c ≠ '*' → c ≠ '?' → Denotes pattern input →
        Denotes (c :: pattern) (c :: input)

theorem denotes_escaped {quoted : Char} {pattern input : List Char} :
    Denotes ('\\' :: quoted :: pattern) input ↔
      ∃ rest, input = quoted :: rest ∧ Denotes pattern rest := by
  constructor
  · intro denoted
    cases denoted with
    | escaped _ rest => exact ⟨_, rfl, rest⟩
    | literal plain => exact absurd rfl plain
  · rintro ⟨rest, rfl, denoted⟩
    exact .escaped quoted denoted

theorem denotes_star {pattern input : List Char} :
    Denotes ('*' :: pattern) input ↔
      ∃ skipped rest, input = skipped ++ rest ∧ Denotes pattern rest := by
  constructor
  · intro denoted
    cases denoted with
    | star skipped rest => exact ⟨skipped, _, rfl, rest⟩
    | literal _ plain => exact absurd rfl plain
  · rintro ⟨skipped, rest, rfl, denoted⟩
    exact .star skipped denoted

theorem denotes_any {pattern input : List Char} :
    Denotes ('?' :: pattern) input ↔ ∃ c rest, input = c :: rest ∧ Denotes pattern rest := by
  constructor
  · intro denoted
    cases denoted with
    | any c rest => exact ⟨c, _, rfl, rest⟩
    | literal _ _ plain => exact absurd rfl plain
  · rintro ⟨c, rest, rfl, denoted⟩
    exact .any c denoted

theorem denotes_literal {c : Char} {pattern input : List Char} (escape : c ≠ '\\')
    (star : c ≠ '*') (any : c ≠ '?') :
    Denotes (c :: pattern) input ↔ ∃ rest, input = c :: rest ∧ Denotes pattern rest := by
  constructor
  · intro denoted
    cases denoted with
    | escaped => exact absurd rfl escape
    | star => exact absurd rfl star
    | any => exact absurd rfl any
    | literal _ _ _ rest => exact ⟨_, rfl, rest⟩
  · rintro ⟨rest, rfl, denoted⟩
    exact .literal escape star any denoted

/-- Pushing a token means appending it, though a second star is not stored. -/
theorem withToken_accepts {tokens : List GlobToken} {token : GlobToken} {input : List Char} :
    Accepts (withToken tokens token) input ↔ Accepts (tokens ++ [token]) input := by
  unfold withToken
  split
  · rfl
  · rename_i repeated
    obtain ⟨last, same⟩ := not_or.mp repeated
    obtain rfl := not_not.mp same
    obtain ⟨front, rfl⟩ := List.getLast?_eq_some_iff.mp (not_not.mp last)
    rw [List.append_assoc, Wildcard.accepts_append, Wildcard.accepts_append]
    simp only [List.singleton_append, Wildcard.accepts_star_star]

theorem pushToken_ok {tokens pushed : List GlobToken} {token : GlobToken}
    (push : pushToken tokens token = .ok pushed) : pushed = withToken tokens token := by
  obtain ⟨-, stored⟩ := check_ok.mp push
  exact (Except.ok.inj stored).symm

/-- Reading one token off the pattern: what is left is asked behind what the token takes. -/
theorem accepts_then {tokens pushed : List GlobToken} {token : GlobToken}
    (push : pushToken tokens token = .ok pushed) {P Q : List Char → Prop}
    (reads : ∀ input, P input ↔
      ∃ front back, input = front ++ back ∧ Accepts [token] front ∧ Q back)
    (input : List Char) :
    (∃ front back, input = front ++ back ∧ Accepts pushed front ∧ Q back) ↔
      ∃ front back, input = front ++ back ∧ Accepts tokens front ∧ P back := by
  obtain rfl := pushToken_ok push
  simp only [withToken_accepts, Wildcard.accepts_append, reads]
  constructor
  · rintro ⟨_, back, rfl, ⟨front, middle, rfl, first, second⟩, last⟩
    exact ⟨front, middle ++ back, List.append_assoc .., first, middle, back, rfl, second, last⟩
  · rintro ⟨front, _, rfl, first, middle, back, rfl, second, last⟩
    exact ⟨front ++ middle, back, (List.append_assoc ..).symm,
      ⟨front, middle, rfl, first, second⟩, last⟩

theorem accepts_singleton_literal {c : Char} {front : List Char} :
    Accepts [.literal c] front ↔ front = [c] := by
  have plain : Wildcard.Token.literal c ≠ .star := nofun
  rw [accepts_cons_iff plain]
  constructor
  · rintro ⟨a, rest, rfl, rfl, accepted⟩
    rw [Wildcard.accepts_nil.mp accepted]
  · rintro rfl
    exact ⟨c, [], rfl, rfl, .nil⟩

theorem accepts_singleton_any {front : List Char} :
    Accepts [.any] front ↔ ∃ c, front = [c] := by
  have plain : (Wildcard.Token.any : GlobToken) ≠ .star := nofun
  rw [accepts_cons_iff plain]
  constructor
  · rintro ⟨a, rest, rfl, -, accepted⟩
    exact ⟨a, by rw [Wildcard.accepts_nil.mp accepted]⟩
  · rintro ⟨c, rfl⟩
    exact ⟨c, [], rfl, trivial, .nil⟩

theorem accepts_singleton_star {front : List Char} : Accepts [.star] front := by
  rw [← List.append_nil front]
  exact .star front .nil

/-- The tokens of a compiled pattern accept what was read before and the language of the rest. -/
theorem compileFrom_accepts {chars : List Char} {tokens : List GlobToken} {literalCount : Nat}
    {glob : CompiledGlob} (compiled : compileFrom chars tokens literalCount = .ok glob)
    (input : List Char) :
    Accepts glob.tokens input ↔
      ∃ front back, input = front ++ back ∧ Accepts tokens front ∧ Denotes chars back := by
  fun_induction compileFrom chars tokens literalCount with
  | case1 => exact absurd compiled nofun
  | case2 tokens literalCount =>
    obtain rfl := Except.ok.inj compiled
    constructor
    · exact fun accepted => ⟨input, [], (List.append_nil input).symm, accepted, .nil⟩
    · rintro ⟨front, back, rfl, accepted, denoted⟩
      cases denoted
      rwa [List.append_nil]
  | case3 => exact absurd compiled nofun
  | case4 => exact absurd compiled nofun
  | case5 tokens literalCount escaped chars plain ih =>
    obtain ⟨pushed, push, rest⟩ := bind_ok.mp compiled
    rw [ih pushed rest]
    refine accepts_then push (fun input => ?_) input
    simp only [denotes_escaped, accepts_singleton_literal]
    exact ⟨fun ⟨rest, same, denoted⟩ => ⟨[escaped], rest, same, rfl, denoted⟩,
      fun ⟨_, back, same, single, denoted⟩ => ⟨back, by rw [same, single]; rfl, denoted⟩⟩
  | case6 chars tokens literalCount escape ih =>
    obtain ⟨pushed, push, rest⟩ := bind_ok.mp compiled
    rw [ih pushed rest]
    refine accepts_then push (fun input => ?_) input
    simp only [denotes_star, accepts_singleton_star, true_and]
  | case7 chars tokens literalCount escape star ih =>
    obtain ⟨pushed, push, rest⟩ := bind_ok.mp compiled
    rw [ih pushed rest]
    refine accepts_then push (fun input => ?_) input
    simp only [denotes_any, accepts_singleton_any]
    exact ⟨fun ⟨c, rest, same, denoted⟩ => ⟨[c], rest, same, ⟨c, rfl⟩, denoted⟩,
      fun ⟨_, back, same, ⟨c, single⟩, denoted⟩ => ⟨c, back, by rw [same, single]; rfl, denoted⟩⟩
  | case8 => exact absurd compiled nofun
  | case9 character chars tokens literalCount escape star any plain ih =>
    obtain ⟨pushed, push, rest⟩ := bind_ok.mp compiled
    rw [ih pushed rest]
    refine accepts_then push (fun input => ?_) input
    simp only [denotes_literal escape star any, accepts_singleton_literal]
    exact ⟨fun ⟨rest, same, denoted⟩ => ⟨[character], rest, same, rfl, denoted⟩,
      fun ⟨_, back, same, single, denoted⟩ => ⟨back, by rw [same, single]; rfl, denoted⟩⟩

theorem compile_accepts {pattern : String} {glob : CompiledGlob}
    (compiled : CompiledGlob.compile pattern = .ok glob) (input : List Char) :
    Accepts glob.tokens input ↔ Denotes pattern.toList input := by
  unfold CompiledGlob.compile at compiled
  obtain ⟨-, bounded⟩ := check_ok.mp compiled
  obtain ⟨-, loop⟩ := check_ok.mp bounded
  rw [compileFrom_accepts loop]
  constructor
  · rintro ⟨front, back, rfl, accepted, denoted⟩
    rwa [Wildcard.accepts_nil.mp accepted]
  · exact fun denoted => ⟨[], input, rfl, .nil, denoted⟩

/-- Greedy matching decides the language of the pattern. -/
theorem matches_iff {pattern : String} {glob : CompiledGlob}
    (compiled : CompiledGlob.compile pattern = .ok glob) (input : String) :
    glob.matches input = true ↔ Denotes pattern.toList input.toList := by
  rw [matches_iff_accepts, compile_accepts compiled]

def sampleGlob : CompiledGlob :=
  ⟨[.literal 'g', .star, .literal '*', .any], 2⟩

theorem matches_iff_sample :
    CompiledGlob.compile "g*\\*?" = .ok sampleGlob ∧
      (sampleGlob.matches "gpt-**4" = true ↔ Denotes "g*\\*?".toList "gpt-**4".toList) :=
  ⟨by decide +kernel, matches_iff (by decide +kernel) "gpt-**4"⟩

end RelayPool.Mapping
