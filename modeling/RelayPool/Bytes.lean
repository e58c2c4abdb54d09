import Mathlib.Data.List.Basic
import Mathlib.Data.UInt
import Mathlib.Tactic.Common

/-! Numbers and texts as bytes.

A number takes a fixed count of bytes, the most significant first; below
`256 ^ width` its bytes tell it from the others (`beBytes_inj`) and give it back
(`beNat_beBytes`). The bytes of a
text are those of its characters (`utf8`), they tell texts apart (`utf8_inj`), and
a zero byte among them is a null character (`zero_notMem_utf8`). A text without
one, followed by a number that leaves its first byte free, is told from what
comes after it (`record_inj`). -/
namespace RelayPool.Bytes

def beBytes : Nat → Nat → List UInt8
  | 0, _ => []
  | width + 1, n => beBytes width (n / 256) ++ [.ofNat n]

@[simp] theorem length_beBytes (width n : Nat) : (beBytes width n).length = width := by
  induction width generalizing n with
  | zero => rfl
  | succ width ih => rw [beBytes, List.length_append, ih, List.length_singleton]

theorem beBytes_inj {width m n : Nat} (hm : m < 256 ^ width) (hn : n < 256 ^ width)
    (same : beBytes width m = beBytes width n) : m = n := by
  induction width generalizing m n with
  | zero =>
    rw [Nat.pow_zero] at hm hn
    omega
  | succ width ih =>
    rw [Nat.pow_succ] at hm hn
    obtain ⟨high, low⟩ := List.append_inj' same rfl
    have quotient := ih (Nat.div_lt_of_lt_mul (Nat.mul_comm .. ▸ hm))
      (Nat.div_lt_of_lt_mul (Nat.mul_comm .. ▸ hn)) high
    have remainder := congrArg UInt8.toNat (List.cons.inj low).1
    simp only [UInt8.toNat_ofNat'] at remainder
    omega

def beNat (bytes : List UInt8) : Nat := bytes.foldl (fun n byte => 256 * n + byte.toNat) 0

theorem beNat_append (bytes : List UInt8) (byte : UInt8) :
    beNat (bytes ++ [byte]) = 256 * beNat bytes + byte.toNat := by
  rw [beNat, List.foldl_append]
  rfl

theorem beNat_lt (bytes : List UInt8) : beNat bytes < 256 ^ bytes.length := by
  induction bytes using List.reverseRecOn with
  | nil => exact Nat.one_pos
  | append_singleton bytes byte ih =>
    rw [beNat_append, List.length_append, List.length_singleton, Nat.pow_succ]
    have := byte.toNat_lt
    omega

theorem beBytes_beNat (bytes : List UInt8) : beBytes bytes.length (beNat bytes) = bytes := by
  induction bytes using List.reverseRecOn with
  | nil => rfl
  | append_singleton bytes byte ih =>
    have small := byte.toNat_lt
    rw [beNat_append, List.length_append, List.length_singleton, beBytes,
      Nat.mul_add_div (by decide), Nat.div_eq_of_lt small, Nat.add_zero, ih]
    congr 2
    refine UInt8.toNat_inj.mp ?_
    rw [UInt8.toNat_ofNat']
    omega

theorem beNat_beBytes {width n : Nat} (small : n < 256 ^ width) : beNat (beBytes width n) = n := by
  have below := beNat_lt (beBytes width n)
  have back := beBytes_beNat (beBytes width n)
  rw [length_beBytes] at below back
  exact beBytes_inj below small back

/-- A number that leaves its first byte free starts with a zero byte. -/
theorem beBytes_succ_of_lt {width n : Nat} (small : n < 256 ^ width) :
    beBytes (width + 1) n = 0 :: beBytes width n := by
  induction width generalizing n with
  | zero =>
    obtain rfl : n = 0 := by
      rw [Nat.pow_zero] at small
      omega
    rfl
  | succ width ih =>
    rw [Nat.pow_succ] at small
    rw [beBytes, ih (Nat.div_lt_of_lt_mul (Nat.mul_comm .. ▸ small)), List.cons_append, beBytes]

def utf8 (text : String) : List UInt8 := text.toUTF8.data.toList

theorem length_utf8 (text : String) : (utf8 text).length = text.utf8ByteSize := rfl

theorem utf8_inj {a b : String} (same : utf8 a = utf8 b) : a = b := by
  have data : a.toByteArray.data = b.toByteArray.data := Array.toList_inj.mp same
  exact String.toByteArray_inj.mp (ByteArray.ext data)

theorem utf8_eq (text : String) : utf8 text = text.toList.flatMap String.utf8EncodeChar := by
  show text.toByteArray.data.toList = _
  rw [← String.utf8Encode_toList, List.utf8Encode, List.toList_data_toByteArray]

theorem utf8ByteSize_ofList {chars : List Char} (single : ∀ c ∈ chars, c.utf8Size = 1) :
    (String.ofList chars).utf8ByteSize = chars.length := by
  rw [← length_utf8, utf8_eq, String.toList_ofList]
  induction chars with
  | nil => rfl
  | cons c chars ih =>
    rw [List.flatMap_cons, List.length_append, String.length_utf8EncodeChar,
      single c List.mem_cons_self, ih fun d mem => single d (List.mem_cons_of_mem _ mem),
      List.length_cons, Nat.add_comm]

theorem zero_ne_ofNat {n : Nat} (positive : 0 < n) (small : n < 256) : (0 : UInt8) ≠ .ofNat n := by
  intro same
  have value := congrArg UInt8.toNat same
  rw [UInt8.toNat_ofNat', UInt8.toNat_zero] at value
  omega

/-- A character's bytes are zero only when the character is. -/
theorem zero_notMem_utf8EncodeChar {c : Char} (other : c ≠ '\x00') :
    0 ∉ String.utf8EncodeChar c := by
  have positive : c.val.toNat ≠ 0 := fun zero => other (Char.ext (UInt32.toNat_inj.mp zero))
  unfold String.utf8EncodeChar
  simp only
  split
  · exact List.not_mem_cons_of_ne_of_not_mem (zero_ne_ofNat (by omega) (by omega)) List.not_mem_nil
  · split
    · simp only [List.mem_cons, List.not_mem_nil, or_false, not_or]
      exact ⟨zero_ne_ofNat (by omega) (by omega), zero_ne_ofNat (by omega) (by omega)⟩
    · split
      · simp only [List.mem_cons, List.not_mem_nil, or_false, not_or]
        exact ⟨zero_ne_ofNat (by omega) (by omega), zero_ne_ofNat (by omega) (by omega),
          zero_ne_ofNat (by omega) (by omega)⟩
      · simp only [List.mem_cons, List.not_mem_nil, or_false, not_or]
        exact ⟨zero_ne_ofNat (by omega) (by omega), zero_ne_ofNat (by omega) (by omega),
          zero_ne_ofNat (by omega) (by omega), zero_ne_ofNat (by omega) (by omega)⟩

theorem zero_notMem_utf8 {text : String} (clean : '\x00' ∉ text.toList) : 0 ∉ utf8 text := by
  rw [utf8_eq, List.mem_flatMap]
  rintro ⟨c, mem, zero⟩
  exact zero_notMem_utf8EncodeChar (fun null => clean (null ▸ mem)) zero

/-! ### A text and a number -/

theorem split_at_zero {a b x y : List UInt8} (cleanLeft : 0 ∉ a) (cleanRight : 0 ∉ b)
    (same : a ++ 0 :: x = b ++ 0 :: y) : a = b ∧ x = y := by
  induction a generalizing b with
  | nil =>
    cases b with
    | nil => exact ⟨rfl, (List.cons.inj same).2⟩
    | cons c b => exact absurd ((List.cons.inj same).1 ▸ List.mem_cons_self) cleanRight
  | cons d a ih =>
    cases b with
    | nil => exact absurd ((List.cons.inj same).1 ▸ List.mem_cons_self) cleanLeft
    | cons c b =>
      obtain ⟨rfl, rest⟩ := List.cons.inj same
      obtain ⟨rfl, tails⟩ := ih (fun mem => cleanLeft (List.mem_cons_of_mem _ mem))
        (fun mem => cleanRight (List.mem_cons_of_mem _ mem)) rest
      exact ⟨rfl, tails⟩

theorem record_inj {width : Nat} {s t : String} {m n : Nat} {x y : List UInt8}
    (cleanLeft : '\x00' ∉ s.toList) (cleanRight : '\x00' ∉ t.toList) (hm : m < 256 ^ width)
    (hn : n < 256 ^ width)
    (same : utf8 s ++ beBytes (width + 1) m ++ x = utf8 t ++ beBytes (width + 1) n ++ y) :
    s = t ∧ m = n ∧ x = y := by
  rw [beBytes_succ_of_lt hm, beBytes_succ_of_lt hn, List.append_assoc, List.append_assoc,
    List.cons_append, List.cons_append] at same
  obtain ⟨texts, rest⟩ :=
    split_at_zero (zero_notMem_utf8 cleanLeft) (zero_notMem_utf8 cleanRight) same
  obtain ⟨numbers, tails⟩ := List.append_inj rest
    ((length_beBytes width m).trans (length_beBytes width n).symm)
  exact ⟨utf8_inj texts, beBytes_inj hm hn numbers, tails⟩

/-- Texts of one length are told from what comes after them. -/
theorem record_inj_of_length {width : Nat} {s t : String} {m n : Nat} {x y : List UInt8}
    (lengths : s.utf8ByteSize = t.utf8ByteSize) (hm : m < 256 ^ width) (hn : n < 256 ^ width)
    (same : utf8 s ++ beBytes width m ++ x = utf8 t ++ beBytes width n ++ y) :
    s = t ∧ m = n ∧ x = y := by
  rw [List.append_assoc, List.append_assoc] at same
  obtain ⟨texts, rest⟩ := List.append_inj same lengths
  obtain ⟨numbers, tails⟩ := List.append_inj rest
    ((length_beBytes width m).trans (length_beBytes width n).symm)
  exact ⟨utf8_inj texts, beBytes_inj hm hn numbers, tails⟩

end RelayPool.Bytes
