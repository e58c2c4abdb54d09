import RelayPool.Streaming.UsageObserver

/-! The observed usage and the cuts of the network.

Where no event of a stream is above the bound, what a push drops has no event in it, and
the observer reads the frames of the decoder at every cut. Where one is above it, the
observer that gets the stream in one piece reads that event too; so the frames are what it
reads at every cut only in the first case (`observes_iff`). A part of a long event that
comes after a cut is read as an event of its own (`usage_by_cut`). -/
namespace RelayPool.Streaming.UsageObserver
open Framing
open Protocol (JsonParser Value Bytes)
open Chat (ObservedUsage eventData)

/-! ### Bytes without a blank line -/

def NoBlank (bytes : Bytes) : Prop := ∀ p, p <+: bytes → ¬ EndsEvent p

section NoBlank
variable {first second bytes : Bytes}

theorem noBlank_iff : NoBlank bytes ↔ (eventFrames bytes).1 = [] := by
  constructor
  · intro blank
    rw [frames_of_no_boundary blank]
  · rintro empty p ⟨rest, rfl⟩ ends
    rcases List.eq_nil_or_concat' p with rfl | ⟨before, last, rfl⟩
    · exact not_endsEvent_nil ends
    -- the blank line completes what is pending before its last byte
    rw [List.append_assoc, eventFrames, frames_append] at empty
    obtain ⟨early, later⟩ := List.append_eq_nil_iff.mp empty
    have pending : (eventFrames before).2 = before := by
      have whole := @frames_flatten _ endsEvent [] before
      rw [early] at whole
      simpa using whole
    rw [pending, List.singleton_append, frames_complete (decide_eq_true ends)] at later
    exact List.cons_ne_nil _ _ later

theorem NoBlank.left (blank : NoBlank (first ++ second)) : NoBlank first := fun p shorter =>
  blank p (shorter.trans (List.prefix_append ..))

theorem NoBlank.right (blank : NoBlank (first ++ second)) : NoBlank second := by
  intro p shorter ends
  refine blank (first ++ p) (List.prefix_append_right_inj first |>.mpr shorter) ?_
  rcases ends with ends | ends
  · exact .inl (ends.trans (List.suffix_append ..))
  · exact .inr (ends.trans (List.suffix_append ..))

end NoBlank

/-! ### What is read -/

theorem kept_eq_nil {left : Bytes} (above : maxPendingSseBytes < left.length) : kept left = [] :=
  if_pos above

theorem kept_eq {left : Bytes} (within : ¬ maxPendingSseBytes < left.length) : kept left = left :=
  if_neg within

/-- Nothing is read of bytes without a blank line, whatever is dropped of them. -/
theorem readEvents_of_noBlank {pending : Bytes} {chunks : List Bytes}
    (blank : NoBlank (pending ++ chunks.flatten)) : readEvents pending chunks = [] := by
  induction chunks generalizing pending with
  | nil => rfl
  | cons chunk rest ih =>
    rw [List.flatten_cons, ← List.append_assoc] at blank
    rw [readEvents, frames_of_no_boundary blank.left]
    by_cases above : maxPendingSseBytes < (pending ++ chunk).length
    · rw [kept_eq_nil above]
      exact ih blank.right
    · rw [kept_eq above]
      exact ih blank

/-- No frame begins with more than the bound, so nothing is missed of what is dropped. -/
theorem noBlank_of_above {pending input : Bytes} (open_ : eventFrames pending = ([], pending))
    (small : ∀ frame ∈ (eventFrames (pending ++ input)).1, frame.length ≤ maxPendingSseBytes)
    (above : maxPendingSseBytes < pending.length) : NoBlank (pending ++ input) := by
  have on : eventFrames (pending ++ input) = frames endsEvent pending input := by
    rw [eventFrames, frames_append, show frames endsEvent [] pending = _ from open_]
    rfl
  rw [noBlank_iff, on]
  rw [on] at small
  rcases @frames_head _ endsEvent pending input with empty | ⟨as, later, -, first⟩
  · rw [empty]
  · have long := small (pending ++ as) (by rw [first]; exact List.mem_cons_self)
    rw [List.length_append] at long
    omega

theorem readEvents_eq {pending : Bytes} {chunks : List Bytes}
    (open_ : eventFrames pending = ([], pending))
    (small : ∀ frame ∈ (eventFrames (pending ++ chunks.flatten)).1,
      frame.length ≤ maxPendingSseBytes) :
    readEvents pending chunks = (eventFrames (pending ++ chunks.flatten)).1.map eventOf := by
  induction chunks generalizing pending with
  | nil =>
    rw [List.flatten_nil, List.append_nil, open_]
    rfl
  | cons chunk rest ih =>
    have again := @frames_again _ endsEvent (pending ++ chunk) rest.flatten
    rw [List.append_assoc] at again
    rw [List.flatten_cons, eventFrames, again] at small ⊢
    rw [readEvents, List.map_append]
    have open_' : eventFrames (eventFrames (pending ++ chunk)).2 =
        ([], (eventFrames (pending ++ chunk)).2) := frames_rest rfl _
    have small' : ∀ frame ∈ (eventFrames ((eventFrames (pending ++ chunk)).2 ++ rest.flatten)).1,
        frame.length ≤ maxPendingSseBytes := fun frame member =>
      small frame (List.mem_append_right _ member)
    congr 1
    by_cases above : maxPendingSseBytes < (eventFrames (pending ++ chunk)).2.length
    · have blank := noBlank_of_above open_' small' above
      rw [kept_eq_nil above, readEvents_of_noBlank blank.right]
      rw [show frames endsEvent [] _ = _ from frames_of_no_boundary blank]
      rfl
    · rw [kept_eq above]
      exact ih open_' small'

/-! ### Every cut -/

/-- The stream was read as the decoder frames it, whatever the events are parsed to. -/
structure Observes (bytes : Bytes) (chunks : List Bytes) : Prop where
  events : readEvents [] chunks = framedEvents bytes
  usage : ∀ fromStr, (observe fromStr chunks).usage = framedUsage fromStr bytes

/-- The cuts of a stream do not matter when no event is above the bound, and only then. -/
theorem observes_iff (bytes : Bytes) :
    (∀ chunks : List Bytes, chunks.flatten = bytes → Observes bytes chunks) ↔
      ∀ frame ∈ (eventFrames bytes).1, frame.length ≤ maxPendingSseBytes := by
  constructor
  · intro observes frame member
    have whole := (observes [bytes] (List.flatten_singleton ..)).events
    have count := congrArg List.length whole
    simp only [readEvents, List.append_nil, List.nil_append, framedEvents, List.length_map] at count
    have all := List.length_filter_eq_length_iff.mp count.symm frame member
    exact of_decide_eq_true all
  · rintro small chunks rfl
    have events : readEvents [] chunks = framedEvents chunks.flatten := by
      rw [readEvents_eq rfl small, framedEvents,
        List.filter_eq_self.mpr fun frame member => decide_eq_true (small frame member)]
      rfl
    exact ⟨events, fun fromStr => by rw [observe_usage, events, framedUsage]⟩

/-! ### A long event -/

section Long
variable {n m k : Nat} {bytes : Bytes}

theorem NoBlank.letters (blank : NoBlank bytes) : NoBlank (List.replicate k 120 ++ bytes) := by
  induction k with
  | zero => exact blank
  | succ k ih =>
    exact no_boundary_cons ih ⟨by simp [lineFeeds], by simp [returnFeeds]⟩

theorem isBoundary_letters (first : IsBoundary bytes n m) :
    IsBoundary (List.replicate k 120 ++ bytes) (n + k) m := by
  induction k with
  | zero => exact first
  | succ k ih =>
    exact ih.cons ⟨by simp [lineFeeds], by simp [returnFeeds]⟩

theorem readEvents_dropped {chunk : Bytes} (blank : NoBlank chunk)
    (above : maxPendingSseBytes < chunk.length) (rest : List Bytes) :
    readEvents [] (chunk :: rest) = readEvents [] rest := by
  rw [readEvents, List.nil_append, frames_of_no_boundary blank, kept_eq_nil above]
  rfl

end Long

/-- A parser that knows one text. -/
def usageJson : JsonParser := fun text =>
  if text = "\x7b\"usage\":\x7b\"input_tokens\":1\x7d\x7d" then
    .ok (.object [("usage", .object [("input_tokens", .number "1")])])
  else .error "expected value"

/-- One letter more than the bound. -/
def longLine : Bytes := List.replicate 262145 120

def usageLine : Bytes := "\ndata:\x7b\"usage\":\x7b\"input_tokens\":1\x7d\x7d\n\n".toUTF8.data.toList

theorem length_longLine : longLine.length = 262145 := List.length_replicate ..

theorem readEvents_long {part : Bytes} (blank : NoBlank part) (rest : List Bytes) :
    readEvents [] ((longLine ++ part) :: rest) = readEvents [] rest := by
  have above : maxPendingSseBytes < (longLine ++ part).length := by
    rw [List.length_append, length_longLine, maxPendingSseBytes]
    omega
  exact readEvents_dropped blank.letters above rest

theorem usageLine_boundary : IsBoundary usageLine 34 2 :=
  Chat.findEventBoundary_some (by decide +kernel : _ = some (34, 2))

/-- The two lines are one event. -/
theorem eventFrames_long : eventFrames (longLine ++ usageLine) = ([longLine ++ usageLine], []) := by
  have whole : (longLine ++ usageLine).length ≤ 34 + 262145 + 2 := by
    have line : usageLine.length = 36 := by decide +kernel
    rw [List.length_append, length_longLine, line]
  have first : IsBoundary (longLine ++ usageLine) (34 + 262145) 2 :=
    isBoundary_letters usageLine_boundary
  rw [first.frames.1, List.take_of_length_le whole, List.drop_of_length_le whole]
  rfl

/-- Cut after its first line, the event is read as if that line had not been there; cut within
the second, it is not read; and it is above the bound. -/
theorem usage_by_cut :
    [longLine, usageLine].flatten =
        [longLine ++ usageLine.take 3, usageLine.drop 3].flatten ∧
      (observe usageJson [longLine, usageLine]).usage ≠
        (observe usageJson [longLine ++ usageLine.take 3, usageLine.drop 3]).usage ∧
      (observe usageJson [longLine, usageLine]).usage ≠
        framedUsage usageJson [longLine, usageLine].flatten := by
  have cut : [longLine, usageLine].flatten =
      [longLine ++ usageLine.take 3, usageLine.drop 3].flatten := by
    simp only [List.flatten_cons, List.flatten_nil, List.append_nil, List.append_assoc,
      List.take_append_drop]
  have after : (observe usageJson [longLine, usageLine]).usage =
      some ⟨some 1, none, none, none, none⟩ := by
    have dropped := readEvents_long (noBlank_iff.mpr (by decide +kernel) : NoBlank []) [usageLine]
    rw [List.append_nil] at dropped
    rw [observe_usage, dropped]
    decide +kernel
  have within : (observe usageJson [longLine ++ usageLine.take 3, usageLine.drop 3]).usage = none := by
    rw [observe_usage, readEvents_long (noBlank_iff.mpr (by decide +kernel))]
    decide +kernel
  have ignored : framedUsage usageJson [longLine, usageLine].flatten = none := by
    have above : ¬ (longLine ++ usageLine).length ≤ maxPendingSseBytes := by
      rw [List.length_append, length_longLine, maxPendingSseBytes]
      omega
    rw [List.flatten_cons, List.flatten_singleton, framedUsage, framedEvents, eventFrames_long,
      List.filter_cons_of_neg (by simpa using above)]
    rfl
  rw [after, within, ignored]
  exact ⟨cut, by decide, by decide⟩

end RelayPool.Streaming.UsageObserver
