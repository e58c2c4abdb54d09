import RelayPool.Bytes

/-! Base64 with padding.

What a user of an engine relies on is `Engine`. `standard` is one: three bytes are four symbols
of six bits, one or two bytes left are padded, and a text is decoded only when it is padded and
the bits that no byte takes are zero. -/
namespace RelayPool.Base64

/-- An engine decodes what it encodes, three bytes or what is left of them as four symbols. -/
structure Engine where
  encode : List UInt8 → String
  decode : String → Option (List UInt8)
  decode_encode : ∀ bytes, decode (encode bytes) = some bytes
  utf8ByteSize_encode : ∀ bytes, (encode bytes).utf8ByteSize = (bytes.length + 2) / 3 * 4
  padded : ∀ bytes, bytes.length % 3 ≠ 0 → (encode bytes).toList.getLast? = some '='

/-- What is encoded alike is the same. -/
theorem Engine.encode_inj (engine : Engine) {a b : List UInt8}
    (same : engine.encode a = engine.encode b) : a = b := by
  have decoded := engine.decode_encode a
  rw [same, engine.decode_encode] at decoded
  exact (Option.some.inj decoded).symm

/-! ### The standard alphabet -/

def alphabet : List Char :=
  "ABCDEFGHIJKLMNOPQRSTUVWXYZabcdefghijklmnopqrstuvwxyz0123456789+/".toList

def symbol (n : Nat) : Char := alphabet.getD n 'A'

def bitsOf (c : Char) : Option Nat := alphabet.findIdx? (· = c)

theorem bitsOf_symbol {n : Nat} (small : n < 64) : bitsOf (symbol n) = some n := by
  have all : ∀ n < 64, bitsOf (symbol n) = some n := by decide +kernel
  exact all n small

theorem symbol_ne_pad {n : Nat} (small : n < 64) : symbol n ≠ '=' := by
  have all : ∀ n < 64, symbol n ≠ '=' := by decide +kernel
  exact all n small

def encode : List UInt8 → List Char
  | a :: b :: c :: rest =>
    symbol (a.toNat / 4) :: symbol (a.toNat % 4 * 16 + b.toNat / 16) ::
      symbol (b.toNat % 16 * 4 + c.toNat / 64) :: symbol (c.toNat % 64) :: encode rest
  | [a, b] =>
    [symbol (a.toNat / 4), symbol (a.toNat % 4 * 16 + b.toNat / 16), symbol (b.toNat % 16 * 4),
      '=']
  | [a] => [symbol (a.toNat / 4), symbol (a.toNat % 4 * 16), '=', '=']
  | [] => []

def decode : List Char → Option (List UInt8)
  | [] => some []
  | w :: x :: y :: z :: rest => do
    let p ← bitsOf w
    let q ← bitsOf x
    let first := UInt8.ofNat (p * 4 + q / 16)
    if y = '=' then
      if z = '=' ∧ rest = [] ∧ q % 16 = 0 then some [first] else none
    else
      let r ← bitsOf y
      let second := UInt8.ofNat (q % 16 * 16 + r / 4)
      if z = '=' then
        if rest = [] ∧ r % 4 = 0 then some [first, second] else none
      else
        let s ← bitsOf z
        let more ← decode rest
        return first :: second :: UInt8.ofNat (r % 4 * 64 + s) :: more
  | _ => none

theorem ofNat_eq {n : Nat} {a : UInt8} (same : n = a.toNat) : UInt8.ofNat n = a := by
  rw [same, UInt8.ofNat_toNat]

theorem decode_encode (bytes : List UInt8) : decode (encode bytes) = some bytes := by
  induction bytes using encode.induct with
  | case1 a b c rest ih =>
    have := a.toNat_lt
    have := b.toNat_lt
    have := c.toNat_lt
    rw [encode, decode, bitsOf_symbol (by omega), bitsOf_symbol (by omega)]
    simp only [Option.bind_eq_bind, Option.bind_some]
    rw [if_neg (symbol_ne_pad (by omega)), bitsOf_symbol (by omega), Option.bind_some,
      if_neg (symbol_ne_pad (by omega)), bitsOf_symbol (by omega), Option.bind_some, ih,
      Option.bind_some, ofNat_eq (a := a) (by omega), ofNat_eq (a := b) (by omega),
      ofNat_eq (a := c) (by omega)]
    rfl
  | case2 a b =>
    have := a.toNat_lt
    have := b.toNat_lt
    rw [encode, decode, bitsOf_symbol (by omega), bitsOf_symbol (by omega)]
    simp only [Option.bind_eq_bind, Option.bind_some]
    rw [if_neg (symbol_ne_pad (by omega)), bitsOf_symbol (by omega), Option.bind_some,
      if_pos trivial, if_pos ⟨trivial, by omega⟩, ofNat_eq (a := a) (by omega),
      ofNat_eq (a := b) (by omega)]
  | case3 a =>
    have := a.toNat_lt
    rw [encode, decode, bitsOf_symbol (by omega), bitsOf_symbol (by omega)]
    simp only [Option.bind_eq_bind, Option.bind_some]
    rw [if_pos trivial, if_pos ⟨trivial, trivial, by omega⟩, ofNat_eq (a := a) (by omega)]
  | case4 => rfl

theorem length_encode (bytes : List UInt8) :
    (encode bytes).length = (bytes.length + 2) / 3 * 4 := by
  induction bytes using encode.induct with
  | case1 a b c rest ih =>
    simp only [encode, List.length_cons, ih]
    omega
  | case2 a b => simp [encode]
  | case3 a => simp [encode]
  | case4 => rfl

theorem getLast?_encode {bytes : List UInt8} (padded : bytes.length % 3 ≠ 0) :
    (encode bytes).getLast? = some '=' := by
  induction bytes using encode.induct with
  | case1 a b c rest ih =>
    have more : rest.length % 3 ≠ 0 := by
      simp only [List.length_cons] at padded
      omega
    simp only [encode, List.getLast?_cons, ih more, Option.getD_some]
  | case2 a b => rw [encode]; rfl
  | case3 a => rw [encode]; rfl
  | case4 => exact absurd rfl padded

/-- A symbol is one byte. -/
theorem utf8Size_encode (bytes : List UInt8) : ∀ c ∈ encode bytes, c.utf8Size = 1 := by
  have all : ∀ n < 64, (symbol n).utf8Size = 1 := by decide +kernel
  have pad : '='.utf8Size = 1 := by decide +kernel
  induction bytes using encode.induct with
  | case1 a b c rest ih =>
    have := a.toNat_lt
    have := b.toNat_lt
    have := c.toNat_lt
    simp only [encode, List.forall_mem_cons]
    exact ⟨all _ (by omega), all _ (by omega), all _ (by omega), all _ (by omega), ih⟩
  | case2 a b =>
    have := a.toNat_lt
    have := b.toNat_lt
    simp only [encode, List.forall_mem_cons]
    exact ⟨all _ (by omega), all _ (by omega), all _ (by omega), pad, fun _ mem => nomatch mem⟩
  | case3 a =>
    have := a.toNat_lt
    simp only [encode, List.forall_mem_cons]
    exact ⟨all _ (by omega), all _ (by omega), pad, pad, fun _ mem => nomatch mem⟩
  | case4 => exact fun _ mem => nomatch mem

def standard : Engine where
  encode bytes := .ofList (encode bytes)
  decode text := decode text.toList
  decode_encode bytes := by rw [String.toList_ofList, decode_encode]
  utf8ByteSize_encode bytes := by
    rw [Bytes.utf8ByteSize_ofList (utf8Size_encode bytes), length_encode]
  padded bytes left := by rw [String.toList_ofList, getLast?_encode left]

example : standard.encode [104, 101, 108, 108, 111] = "aGVsbG8=" := by decide +kernel

end RelayPool.Base64
