import Mathlib.Data.Nat.Init
import RelayPool.Saturating

/-! The size limit on the two sides of an envelope.

The writer counts bytes up and refuses the write that would pass the limit; the
reader counts down and refuses to read once nothing remains. Neither depends on how
the bytes are cut into writes, reads and buffers (`writeEach_new`, `readToEnd_new`).
The reader does not tell a stream that ends at the limit from one that goes on, so
the sides agree on every length but the limit itself (`agrees_iff`). -/
namespace RelayPool.Portable

inductive ErrorKind where
  | invalidData
  | writeZero
deriving DecidableEq, Repr

structure IoError where
  kind : ErrorKind
  message : String
deriving DecidableEq, Repr

def exceedsLimit (kind : ErrorKind) : IoError :=
  ⟨kind, "portable migration age envelope exceeds limit"⟩

/-! ### Reading -/

/-- Bytes to be read, and how many of them each read yields at most, less one. -/
structure Feed where
  bytes : List UInt8
  cuts : List Nat

/-- How many of `len` bytes go through at a cut. -/
def atMost (cuts : List Nat) (len : Nat) : Nat :=
  match cuts with
  | [] => len
  | cut :: _ => min len (cut + 1)

theorem atMost_le (cuts : List Nat) (len : Nat) : atMost cuts len ≤ len := by
  cases cuts with
  | nil => exact Nat.le_refl _
  | cons cut _ => exact Nat.min_le_left _ _

theorem atMost_pos (cuts : List Nat) {len : Nat} (some : 0 < len) : 0 < atMost cuts len := by
  cases cuts with
  | nil => exact some
  | cons cut _ => exact Nat.lt_min.mpr ⟨some, Nat.succ_pos _⟩

def Feed.read (f : Feed) (len : Nat) : List UInt8 × Feed :=
  (f.bytes.take (atMost f.cuts len), ⟨f.bytes.drop (atMost f.cuts len), f.cuts.tail⟩)

structure BoundedRead where
  inner : Feed
  remaining : UInt64

def BoundedRead.new (inner : Feed) (limit : UInt64) : BoundedRead := ⟨inner, limit⟩

/-- One read into a buffer of this length. -/
def BoundedRead.read (b : BoundedRead) (len : Nat) : Except IoError (List UInt8 × BoundedRead) :=
  if b.remaining = 0 ∧ 0 < len then .error (exceedsLimit .invalidData)
  else
    let allowed := min len b.remaining.toNat
    let (bytes, inner) := b.inner.read allowed
    .ok (bytes, ⟨inner, .ofNat (b.remaining.toNat - bytes.length)⟩)

/-- A read with bytes allowed for takes some, if any are left. -/
theorem BoundedRead.read_room (b : BoundedRead) {len : Nat} (some : 0 < len)
    (room : 0 < b.remaining.toNat) :
    ∃ most next, 0 < most ∧ most ≤ b.remaining.toNat ∧
      b.read len = .ok (b.inner.bytes.take most, next) ∧
      next.inner.bytes = b.inner.bytes.drop most ∧
      next.remaining.toNat = b.remaining.toNat - (b.inner.bytes.take most).length := by
  have allowed : 0 < min len b.remaining.toNat := Nat.lt_min.mpr ⟨some, room⟩
  refine ⟨atMost b.inner.cuts (min len b.remaining.toNat), ⟨(b.inner.read _).2, _⟩,
    atMost_pos _ allowed, (atMost_le _ _).trans (Nat.min_le_right _ _), ?_, rfl,
    UInt64.toNat_ofNat_of_lt' ((Nat.sub_le _ _).trans_lt b.remaining.toNat_lt)⟩
  refine if_neg ?_
  rintro ⟨none, -⟩
  rw [none] at room
  exact absurd room (by decide)

/-- Reading, the `n`th time into a buffer of `buffers n` bytes and one more, until a read
yields nothing: what was delivered, and how it ended. -/
def BoundedRead.readToEnd (buffers : Nat → Nat) (b : BoundedRead) (n : Nat)
    (delivered : List UInt8) : List UInt8 × Except IoError Unit :=
  match _result : b.read (buffers n + 1) with
  | .error error => (delivered, .error error)
  | .ok (bytes, next) =>
    if _ended : bytes = [] then (delivered, .ok ())
    else next.readToEnd buffers (n + 1) (delivered ++ bytes)
termination_by b.inner.bytes.length
decreasing_by
  rw [BoundedRead.read] at _result
  split at _result
  · cases _result
  · cases _result
    have taken := List.length_pos_iff.mpr _ended
    simp only [List.length_take, List.length_drop] at taken ⊢
    omega

theorem BoundedRead.readToEnd_error {buffers : Nat → Nat} {b : BoundedRead} {n : Nat}
    {delivered : List UInt8} {error : IoError} (read : b.read (buffers n + 1) = .error error) :
    b.readToEnd buffers n delivered = (delivered, .error error) := by
  rw [readToEnd]
  split
  · rename_i result
    cases read.symm.trans result
    rfl
  · rename_i result
    cases read.symm.trans result

theorem BoundedRead.readToEnd_ok {buffers : Nat → Nat} {b next : BoundedRead} {n : Nat}
    {delivered bytes : List UInt8} (read : b.read (buffers n + 1) = .ok (bytes, next)) :
    b.readToEnd buffers n delivered =
      if bytes = [] then (delivered, .ok ())
      else next.readToEnd buffers (n + 1) (delivered ++ bytes) := by
  rw [readToEnd]
  split
  · rename_i result
    cases read.symm.trans result
  · rename_i result
    cases read.symm.trans result
    rfl

/-- A stream shorter than what remains is read to its end. -/
theorem BoundedRead.readToEnd_short (buffers : Nat → Nat) (b : BoundedRead) (n : Nat)
    (delivered : List UInt8) (short : b.inner.bytes.length < b.remaining.toNat) :
    b.readToEnd buffers n delivered = (delivered ++ b.inner.bytes, .ok ()) := by
  induction left : b.inner.bytes.length using Nat.strong_induction_on
    generalizing b n delivered with
  | _ length ih =>
  obtain ⟨most, next, some, le, read, rest, remaining⟩ :=
    b.read_room (Nat.succ_pos (buffers n)) (Nat.zero_lt_of_lt short)
  have taken := List.length_take (i := most) (l := b.inner.bytes)
  have kept := congrArg List.length rest
  rw [List.length_drop] at kept
  rw [readToEnd_ok read]
  split
  · rename_i ended
    have none : b.inner.bytes = [] := (List.take_eq_nil_iff.mp ended).resolve_left some.ne'
    rw [none, List.append_nil]
  · rename_i going
    have more := List.length_pos_iff.mpr going
    rw [ih _ (by omega) next _ _ (by omega) rfl, List.append_assoc, rest, List.take_append_drop]

/-- Of a stream that fills what remains, that much is read, and then it is refused. -/
theorem BoundedRead.readToEnd_full (buffers : Nat → Nat) (b : BoundedRead) (n : Nat)
    (delivered : List UInt8) (full : b.remaining.toNat ≤ b.inner.bytes.length) :
    b.readToEnd buffers n delivered = (delivered ++ b.inner.bytes.take b.remaining.toNat,
      .error (exceedsLimit .invalidData)) := by
  induction left : b.remaining.toNat using Nat.strong_induction_on
    generalizing b n delivered with
  | _ remaining ih =>
  subst left
  rcases Nat.eq_zero_or_pos b.remaining.toNat with none | room
  · have refused : b.read (buffers n + 1) = .error (exceedsLimit .invalidData) :=
      if_pos ⟨UInt64.toNat_inj.mp none, Nat.succ_pos _⟩
    rw [readToEnd_error refused, none, List.take_zero, List.append_nil]
  · obtain ⟨most, next, some, le, read, rest, remaining⟩ :=
      b.read_room (Nat.succ_pos (buffers n)) room
    have taken : (b.inner.bytes.take most).length = most :=
      List.length_take_of_le (le.trans full)
    have kept := congrArg List.length rest
    rw [List.length_drop] at kept
    have going : b.inner.bytes.take most ≠ [] := List.length_pos_iff.mp (some.trans_eq taken.symm)
    rw [readToEnd_ok read, if_neg going, ih _ (by omega) next _ _ (by omega) rfl,
      List.append_assoc, rest, remaining, taken, ← List.take_add, Nat.add_sub_cancel' le]

/-! ### Writing -/

/-- What has been written, and how many bytes each write takes at most, less one. -/
structure Sink where
  bytes : List UInt8
  cuts : List Nat

def Sink.write (s : Sink) (buffer : List UInt8) : Nat × Sink :=
  let written := atMost s.cuts buffer.length
  (written, ⟨s.bytes ++ buffer.take written, s.cuts.tail⟩)

structure BoundedWrite where
  inner : Sink
  written : UInt64
  limit : UInt64
  exceeded : Bool

def BoundedWrite.new (inner : Sink) (limit : UInt64) : BoundedWrite := ⟨inner, 0, limit, false⟩

/-- Counting stops at the largest count. -/
def counted (written : UInt64) (length : Nat) : UInt64 :=
  .ofNat (min (written.toNat + length) (2 ^ 64 - 1))

theorem counted_toNat (written : UInt64) (length : Nat) :
    (counted written length).toNat = min (written.toNat + length) (2 ^ 64 - 1) :=
  UInt64.toNat_ofNat_of_lt' (by
    show min (written.toNat + length) (2 ^ 64 - 1) < 2 ^ 64
    omega)

def BoundedWrite.write (b : BoundedWrite) (buffer : List UInt8) :
    Except IoError Nat × BoundedWrite :=
  if b.limit < counted b.written buffer.length then
    (.error (exceedsLimit .writeZero), { b with exceeded := true })
  else
    let (written, inner) := b.inner.write buffer
    (.ok written, { b with inner, written := counted b.written written })

/-- Writes until the whole buffer is taken. -/
def BoundedWrite.writeAll (b : BoundedWrite) (buffer : List UInt8) :
    Except IoError Unit × BoundedWrite :=
  if buffer = [] then (.ok (), b)
  else
    match b.write buffer with
    | (.error error, next) => (.error error, next)
    | (.ok written, next) =>
      if _stuck : written = 0 then (.error ⟨.writeZero, "failed to write whole buffer"⟩, next)
      else next.writeAll (buffer.drop written)
termination_by buffer.length
decreasing_by
  have := List.length_pos_iff.mpr ‹buffer ≠ []›
  rw [List.length_drop]
  omega

/-- One buffer after the other. -/
def BoundedWrite.writeEach (b : BoundedWrite) :
    List (List UInt8) → Except IoError Unit × BoundedWrite
  | [] => (.ok (), b)
  | buffer :: buffers =>
    match b.writeAll buffer with
    | (.error error, next) => (.error error, next)
    | (.ok (), next) => next.writeEach buffers

/-- The writer after more of its bytes have been taken. -/
structure Extends (b : BoundedWrite) (more : List UInt8) (next : BoundedWrite) : Prop where
  bytes : next.inner.bytes = b.inner.bytes ++ more
  written : next.written = counted b.written more.length
  limit : next.limit = b.limit
  exceeded : next.exceeded = b.exceeded

theorem counted_add (written : UInt64) (first second : Nat) :
    counted (counted written first) second = counted written (first + second) := by
  apply UInt64.toNat_inj.mp
  rw [counted_toNat, counted_toNat, counted_toNat]
  omega

theorem counted_mono (written : UInt64) {less more : Nat} (le : less ≤ more) :
    counted written less ≤ counted written more := by
  rw [UInt64.le_iff_toNat_le, counted_toNat, counted_toNat]
  omega

theorem counted_zero (written : UInt64) : counted written 0 = written := by
  have := written.toNat_le
  apply UInt64.toNat_inj.mp
  rw [counted_toNat]
  omega

theorem Extends.trans {b next last : BoundedWrite} {first second : List UInt8}
    (one : Extends b first next) (two : Extends next second last) :
    Extends b (first ++ second) last where
  bytes := by rw [two.bytes, one.bytes, List.append_assoc]
  written := by rw [two.written, one.written, counted_add, List.length_append]
  limit := two.limit.trans one.limit
  exceeded := two.exceeded.trans one.exceeded

/-- A write that fits takes some of the buffer, any other none. -/
theorem BoundedWrite.write_cases (b : BoundedWrite) {buffer : List UInt8} (some : buffer ≠ []) :
    (b.limit < counted b.written buffer.length ∧
      b.write buffer = (.error (exceedsLimit .writeZero), { b with exceeded := true })) ∨
    counted b.written buffer.length ≤ b.limit ∧ ∃ taken next, 0 < taken ∧ taken ≤ buffer.length ∧
      b.write buffer = (.ok taken, next) ∧ Extends b (buffer.take taken) next := by
  unfold write
  by_cases more : b.limit < counted b.written buffer.length
  · exact .inl ⟨more, if_pos more⟩
  · have le := atMost_le b.inner.cuts buffer.length
    exact .inr ⟨UInt64.not_lt.mp more, _, _,
      atMost_pos b.inner.cuts (List.length_pos_iff.mpr some), le, if_neg more, rfl,
      by rw [List.length_take_of_le le], rfl, rfl⟩

/-- A buffer is taken whole if it fits, however it is cut, else it is refused. -/
theorem BoundedWrite.writeAll_cases (b : BoundedWrite) (buffer : List UInt8)
    (within : b.written ≤ b.limit) :
    (counted b.written buffer.length ≤ b.limit ∧
      ∃ next, b.writeAll buffer = (.ok (), next) ∧ Extends b buffer next) ∨
    b.limit < counted b.written buffer.length ∧ ∃ next,
      b.writeAll buffer = (.error (exceedsLimit .writeZero), next) ∧ next.exceeded = true := by
  induction length : buffer.length using Nat.strong_induction_on generalizing b buffer with
  | _ length ih =>
  subst length
  rw [writeAll]
  by_cases empty : buffer = []
  · subst empty
    exact .inl ⟨(counted_zero _).trans_le within, b, if_pos rfl,
      ⟨(List.append_nil _).symm, (counted_zero _).symm, rfl, rfl⟩⟩
  rw [if_neg empty]
  rcases b.write_cases empty with ⟨more, refused⟩ | ⟨fits, taken, next, some, le, write, first⟩
  · exact .inr ⟨more, _, by rw [refused], rfl⟩
  · have length := List.length_take_of_le le
    have total : taken + (buffer.drop taken).length = buffer.length := by
      rw [List.length_drop]
      omega
    have still : next.written ≤ next.limit := by
      rw [first.written, first.limit, length]
      exact UInt64.le_trans (counted_mono b.written le) fits
    have rest := ih _ (by omega) next (buffer.drop taken) still rfl
    rw [first.written, first.limit, length, counted_add, total] at rest
    rcases rest with ⟨-, last, done, second⟩ | ⟨more, -⟩
    · refine .inl ⟨fits, last, ?_, ?_⟩
      · rw [write]
        exact (dif_neg some.ne').trans done
      · have both := first.trans second
        rwa [List.take_append_drop] at both
    · exact absurd more (UInt64.not_lt.mpr fits)

/-- Buffers are taken one after the other if all fit together, else one is refused. -/
theorem BoundedWrite.writeEach_cases (b : BoundedWrite) (buffers : List (List UInt8))
    (within : b.written ≤ b.limit) :
    (counted b.written buffers.flatten.length ≤ b.limit ∧
      ∃ next, b.writeEach buffers = (.ok (), next) ∧ Extends b buffers.flatten next) ∨
    b.limit < counted b.written buffers.flatten.length ∧ ∃ next,
      b.writeEach buffers = (.error (exceedsLimit .writeZero), next) ∧ next.exceeded = true := by
  induction buffers generalizing b with
  | nil =>
    exact .inl ⟨(counted_zero _).trans_le within, b, rfl,
      ⟨(List.append_nil _).symm, (counted_zero _).symm, rfl, rfl⟩⟩
  | cons buffer buffers ih =>
    have le : buffer.length ≤ (buffer :: buffers).flatten.length := by
      rw [List.flatten_cons, List.length_append]
      exact Nat.le_add_right _ _
    rcases b.writeAll_cases buffer within with ⟨fits, next, done, first⟩ | ⟨more, next, refused, flag⟩
    · have still : next.written ≤ next.limit := by rwa [first.written, first.limit]
      have rest := ih next still
      rw [first.written, first.limit, counted_add, ← List.length_append, ← List.flatten_cons] at rest
      rw [writeEach, done]
      rcases rest with ⟨fits, last, done, second⟩ | ⟨more, last, refused, flag⟩
      · exact .inl ⟨fits, last, done, first.trans second⟩
      · exact .inr ⟨more, last, refused, flag⟩
    · exact .inr ⟨UInt64.lt_of_lt_of_le more (counted_mono _ le), next, by rw [writeEach, refused], flag⟩

/-! ### The two sides -/

/-- Whether a writer with the limit takes all of these buffers. -/
def Accepts (limit : UInt64) (buffers : List (List UInt8)) (cuts : List Nat) : Prop :=
  ((BoundedWrite.new ⟨[], cuts⟩ limit).writeEach buffers).1 = .ok ()

/-- What a reader with the limit delivers of a file. -/
def delivers (limit : UInt64) (bytes : List UInt8) (cuts : List Nat) (buffers : Nat → Nat) :
    List UInt8 × Except IoError Unit :=
  (BoundedRead.new ⟨bytes, cuts⟩ limit).readToEnd buffers 0 []

theorem accepts_iff (limit : UInt64) (buffers : List (List UInt8)) (cuts : List Nat) :
    Accepts limit buffers cuts ↔ min buffers.flatten.length (2 ^ 64 - 1) ≤ limit.toNat := by
  have total : (counted 0 buffers.flatten.length).toNat =
      min buffers.flatten.length (2 ^ 64 - 1) := by
    rw [counted_toNat]
    show min (0 + _) _ = _
    rw [Nat.zero_add]
  rw [← total, ← UInt64.le_iff_toNat_le]
  have zero : (BoundedWrite.new ⟨[], cuts⟩ limit).written ≤ limit := UInt64.zero_le
  rcases (BoundedWrite.new ⟨[], cuts⟩ limit).writeEach_cases buffers zero with
    ⟨fits, next, done, -⟩ | ⟨more, next, refused, -⟩
  · exact iff_of_true (by rw [Accepts, done]) fits
  · refine iff_of_false ?_ (UInt64.not_le.mpr more)
    rw [Accepts, refused]
    nofun

/-- A file the writer accepts, however written, the reader delivers, however read; and
neither side is content with a longer one. -/
structure Agrees (limit : UInt64) (bytes : List UInt8) : Prop where
  readable : ∀ writes sinkCuts, writes.flatten = bytes → Accepts limit writes sinkCuts →
    ∀ feedCuts buffers, delivers limit bytes feedCuts buffers = (bytes, .ok ())
  longer : limit.toNat < bytes.length →
    (∀ writes sinkCuts, writes.flatten = bytes → ¬ Accepts limit writes sinkCuts) ∧
      ∀ feedCuts buffers, (delivers limit bytes feedCuts buffers).2 ≠ .ok ()

theorem delivers_short {limit : UInt64} {bytes : List UInt8} (short : bytes.length < limit.toNat)
    (cuts : List Nat) (buffers : Nat → Nat) : delivers limit bytes cuts buffers = (bytes, .ok ()) :=
  BoundedRead.readToEnd_short buffers ⟨⟨bytes, cuts⟩, limit⟩ 0 [] short

theorem delivers_full {limit : UInt64} {bytes : List UInt8} (full : limit.toNat ≤ bytes.length)
    (cuts : List Nat) (buffers : Nat → Nat) : delivers limit bytes cuts buffers =
      (bytes.take limit.toNat, .error (exceedsLimit .invalidData)) :=
  BoundedRead.readToEnd_full buffers ⟨⟨bytes, cuts⟩, limit⟩ 0 [] full

/-- The sides agree on all lengths but the limit, up to the largest count. -/
theorem agrees_iff (limit : UInt64) (bytes : List UInt8) :
    Agrees limit bytes ↔
      bytes.length < limit.toNat ∨ limit.toNat < bytes.length ∧ limit.toNat < 2 ^ 64 - 1 := by
  constructor
  · intro agrees
    by_contra apart
    rw [not_or, not_and_or] at apart
    have whole : [bytes].flatten = bytes := List.append_nil bytes
    have accepted : Accepts limit [bytes] [] := (accepts_iff ..).mpr (by
      rw [whole]
      omega)
    have read := agrees.readable [bytes] [] whole accepted [] fun _ => 0
    rw [delivers_full (by omega)] at read
    exact absurd (congrArg Prod.snd read) nofun
  · rintro (short | ⟨longer, most⟩)
    · exact ⟨fun _ _ _ _ => delivers_short short, fun longer => by omega⟩
    · have refused (writes : List (List UInt8)) (cuts : List Nat) (whole : writes.flatten = bytes) :
          ¬ Accepts limit writes cuts := by
        rw [accepts_iff, whole]
        omega
      refine ⟨fun writes cuts whole accepted => absurd accepted (refused writes cuts whole),
        fun _ => ⟨refused, fun cuts buffers => ?_⟩⟩
      rw [delivers_full longer.le]
      nofun

/-- A file of just the limit is written, and not read back. -/
theorem full_disagrees : ¬ Agrees 3 [97, 98, 99] := fun agrees => by
  have accepted : Accepts 3 [[97, 98, 99]] [] := (accepts_iff ..).mpr (by decide)
  have read := agrees.readable [[97, 98, 99]] [] rfl accepted [] fun _ => 0
  rw [delivers_full (by decide)] at read
  cases read

end RelayPool.Portable
