import RelayPool.Framing
import RelayPool.Protocol.Event

/-! Blank lines between events.

An event ends with a blank line, written with line feeds or with carriage returns and
line feeds. `IsBoundary` says of two lengths that they are the first blank line and the
event before it; a decoder that finds it again and again cuts the stream into the
`frames` that are complete as soon as they end with a blank line
(`IsBoundary.frames`). -/
namespace RelayPool.Streaming
open Protocol Framing

/-- Two line feeds. -/
def lineFeeds : Bytes := [10, 10]

/-- Two line feeds with a carriage return before each. -/
def returnFeeds : Bytes := [13, 10, 13, 10]

def EndsEvent (bytes : Bytes) : Prop := lineFeeds <:+ bytes ∨ returnFeeds <:+ bytes

instance (bytes : Bytes) : Decidable (EndsEvent bytes) := inferInstanceAs (Decidable (_ ∨ _))

def endsEvent (bytes : Bytes) : Bool := decide (EndsEvent bytes)

def separatorLen (frame : Bytes) : Nat := if returnFeeds <:+ frame then 4 else 2

/-- A frame without its blank line. -/
def eventOf (frame : Bytes) : Bytes := frame.take (frame.length - separatorLen frame)

/-- The events of a stream, each with its blank line, and what comes after the last. -/
abbrev eventFrames (bytes : Bytes) : List Bytes × Bytes := frames endsEvent [] bytes

def IsSeparator (separator : Bytes) : Prop := separator = lineFeeds ∨ separator = returnFeeds

theorem IsSeparator.ends {separator : Bytes} (h : IsSeparator separator) (event : Bytes) :
    EndsEvent (event ++ separator) := by
  rcases h with rfl | rfl
  · exact .inl (List.suffix_append ..)
  · exact .inr (List.suffix_append ..)

theorem separatorLen_append {separator : Bytes} (h : IsSeparator separator) (event : Bytes) :
    separatorLen (event ++ separator) = separator.length := by
  unfold separatorLen
  rcases h with rfl | rfl
  · rw [if_neg]
    · rfl
    · intro suffix
      have short : lineFeeds <:+ returnFeeds :=
        List.suffix_of_suffix_length_le (List.suffix_append ..) suffix (by decide)
      revert short
      decide
  · rw [if_pos (List.suffix_append ..)]
    rfl

theorem eventOf_append {separator : Bytes} (h : IsSeparator separator) (event : Bytes) :
    eventOf (event ++ separator) = event := by
  unfold eventOf
  rw [separatorLen_append h, List.length_append, Nat.add_sub_cancel, List.take_left]

/-- An event of the given length and the first blank line after it. -/
inductive IsBoundary (bytes : Bytes) (eventLen separatorLen : Nat) : Prop
  | intro {event separator rest : Bytes} (split : bytes = event ++ separator ++ rest)
      (blank : IsSeparator separator) (eventLen_eq : event.length = eventLen)
      (separatorLen_eq : separator.length = separatorLen)
      (first : ∀ p, p <+: bytes → EndsEvent p → event ++ separator <+: p)

section Boundary
variable {bytes : Bytes} {n m : Nat}

theorem IsBoundary.consumes (h : IsBoundary bytes n m) : 0 < m ∧ n + m ≤ bytes.length := by
  obtain ⟨rfl, blank, rfl, rfl, -⟩ := h
  constructor
  · rcases blank with rfl | rfl <;> decide
  · simp

theorem IsBoundary.frames (h : IsBoundary bytes n m) :
    eventFrames bytes = (bytes.take (n + m) :: (eventFrames (bytes.drop (n + m))).1,
        (eventFrames (bytes.drop (n + m))).2) ∧
      eventOf (bytes.take (n + m)) = bytes.take n := by
  obtain ⟨split, blank, rfl, rfl, first⟩ := h
  rename_i event separator rest
  subst split
  have taken : (event ++ separator ++ rest).take (event.length + separator.length) =
      event ++ separator := by
    rw [← List.length_append, List.take_left]
  have left : (event ++ separator ++ rest).drop (event.length + separator.length) = rest := by
    rw [← List.length_append, List.drop_left]
  rw [taken, left]
  constructor
  · have nonempty : event ++ separator ≠ [] := by
      rcases blank with rfl | rfl <;> simp [lineFeeds, returnFeeds]
    have complete : endsEvent ([] ++ (event ++ separator)) := decide_eq_true (blank.ends event)
    refine frames_first nonempty complete fun p shorter _ ne ends => ne ?_
    have ends : EndsEvent p := of_decide_eq_true ends
    have longer := first p (shorter.trans (List.prefix_append ..)) ends
    exact shorter.eq_of_length_le longer.length_le
  · rw [eventOf_append blank, List.append_assoc, List.take_left]

theorem frames_of_no_boundary (h : ∀ p, p <+: bytes → ¬ EndsEvent p) :
    eventFrames bytes = ([], bytes) := by
  have none : Framing.frames endsEvent [] bytes = ([], [] ++ bytes) :=
    frames_none fun p shorter _ ends => h p shorter (of_decide_eq_true ends)
  exact none

/-! ### Looking for a boundary from the left -/

/-- A blank line at the head is the first. -/
theorem IsBoundary.head {separator rest : Bytes} (blank : IsSeparator separator) :
    IsBoundary (separator ++ rest) 0 separator.length := by
  have split : separator ++ rest = [] ++ separator ++ rest := rfl
  refine ⟨split, blank, rfl, rfl, fun p shorter ends => ?_⟩
  -- a shorter prefix of a blank line does not end with one
  refine List.prefix_of_prefix_length_le (List.prefix_append ..) shorter ?_
  by_contra! short
  have inside : p <+: separator :=
    List.prefix_of_prefix_length_le shorter (List.prefix_append ..) (Nat.le_of_lt short)
  rw [List.prefix_iff_eq_take] at inside
  generalize p.length = k at inside short
  subst inside
  rcases blank with rfl | rfl
  · obtain rfl | rfl : k = 0 ∨ k = 1 := by
      change k < 2 at short
      omega
    all_goals revert ends; decide
  · obtain rfl | rfl | rfl | rfl : k = 0 ∨ k = 1 ∨ k = 2 ∨ k = 3 := by
      change k < 4 at short
      omega
    all_goals revert ends; decide

/-- No blank line begins at the head. -/
def NotBlank (bytes : Bytes) : Prop := ¬ lineFeeds <+: bytes ∧ ¬ returnFeeds <+: bytes

theorem NotBlank.tail {b : UInt8} {p : Bytes} (h : NotBlank (b :: bytes)) (shorter : p <+: bytes)
    (ends : EndsEvent (b :: p)) : EndsEvent p := by
  have whole : b :: p <+: b :: bytes := List.cons_prefix_cons.mpr ⟨rfl, shorter⟩
  rcases ends with ends | ends
  · rcases List.suffix_cons_iff.mp ends with same | ends
    · exact absurd (same ▸ whole) h.1
    · exact .inl ends
  · rcases List.suffix_cons_iff.mp ends with same | ends
    · exact absurd (same ▸ whole) h.2
    · exact .inr ends

theorem not_endsEvent_nil : ¬ EndsEvent [] := by decide

/-- Otherwise the first blank line is that of the tail. -/
theorem IsBoundary.cons {b : UInt8} (h : IsBoundary bytes n m) (head : NotBlank (b :: bytes)) :
    IsBoundary (b :: bytes) (n + 1) m := by
  obtain ⟨rfl, blank, rfl, rfl, first⟩ := h
  rename_i event separator rest
  have split : b :: (event ++ separator ++ rest) = (b :: event) ++ separator ++ rest := rfl
  refine ⟨split, blank, rfl, rfl, fun p shorter ends => ?_⟩
  cases p with
  | nil => exact absurd ends not_endsEvent_nil
  | cons b' p =>
    obtain ⟨rfl, inner⟩ := List.cons_prefix_cons.mp shorter
    exact List.cons_prefix_cons.mpr ⟨rfl, first p inner (head.tail inner ends)⟩

theorem no_boundary_cons {b : UInt8} (h : ∀ p, p <+: bytes → ¬ EndsEvent p)
    (head : NotBlank (b :: bytes)) : ∀ p, p <+: b :: bytes → ¬ EndsEvent p := by
  intro p shorter ends
  cases p with
  | nil => exact not_endsEvent_nil ends
  | cons b' p =>
    obtain ⟨rfl, inner⟩ := List.cons_prefix_cons.mp shorter
    exact h p inner (head.tail inner ends)

end Boundary

end RelayPool.Streaming
