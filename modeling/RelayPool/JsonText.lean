import Mathlib.Data.UInt
import Mathlib.Tactic.Common

/-! The grammar of JSON texts, over their bytes.

A document is a tree that says how each of its values is written, down to the whitespace, so
that every JSON text is what some tree spells. The bytes of a character beyond ASCII are parts
of a string one by one. A text has at most one value more than it has containers, commas and
colons (`Element.values_le`). -/
namespace RelayPool.JsonText

structure Blanks where
  bytes : List UInt8
  blank : ∀ byte ∈ bytes, byte = 32 ∨ byte = 9 ∨ byte = 10 ∨ byte = 13

structure Digits where
  bytes : List UInt8
  digits : ∀ byte ∈ bytes, 48 ≤ byte ∧ byte ≤ 57
  nonempty : bytes ≠ []

structure Exponent where
  upper : Bool
  /-- A sign, and whether it is a minus. -/
  sign : Option Bool
  digits : Digits

structure Number where
  minus : Bool
  integer : Digits
  /-- No other digit follows a zero. -/
  canonical : integer.bytes.head? = some 48 → integer.bytes = [48]
  fraction : Option Digits
  exponent : Option Exponent

def Exponent.spelled (exponent : Exponent) : List UInt8 :=
  (if exponent.upper then 69 else 101) ::
    (exponent.sign.toList.map (fun minus => if minus then 45 else 43) ++ exponent.digits.bytes)

def Number.spelled (number : Number) : List UInt8 :=
  (if number.minus then [45] else []) ++ number.integer.bytes ++
    (number.fraction.toList.map fun digits => 46 :: digits.bytes).flatten ++
    (number.exponent.toList.map (·.spelled)).flatten

inductive Literal
  | nullWord
  | trueWord
  | falseWord

def Literal.spelled : Literal → List UInt8
  | .nullWord => [110, 117, 108, 108]
  | .trueWord => [116, 114, 117, 101]
  | .falseWord => [102, 97, 108, 115, 101]

structure HexDigit where
  byte : UInt8
  digit : (48 ≤ byte ∧ byte ≤ 57) ∨ (65 ≤ byte ∧ byte ≤ 70) ∨ (97 ≤ byte ∧ byte ≤ 102)

/-- What stands in a string: a byte for itself, or an escape. -/
inductive StringPart
  | plain (byte : UInt8) (plain : 32 ≤ byte ∧ byte ≠ 34 ∧ byte ≠ 92)
  | escape (byte : UInt8) (escape : byte ∈ [34, 92, 47, 98, 102, 110, 114, 116])
  | unicode (first second third fourth : HexDigit)

def StringPart.spelled : StringPart → List UInt8
  | .plain byte _ => [byte]
  | .escape byte _ => [92, byte]
  | .unicode first second third fourth =>
    [92, 117, first.byte, second.byte, third.byte, fourth.byte]

/-- A string between its quotes. -/
def quoted (parts : List StringPart) : List UInt8 := 34 :: (parts.map (·.spelled)).flatten ++ [34]

mutual

inductive Value
  | literal (literal : Literal)
  | number (number : Number)
  | string (parts : List StringPart)
  | emptyArray (inside : Blanks)
  | array (elements : Elements)
  | emptyObject (inside : Blanks)
  | object (members : Members)

/-- A value with the whitespace around it. -/
inductive Element
  | mk (before : Blanks) (value : Value) (after : Blanks)

inductive Elements
  | last (element : Element)
  | cons (element : Element) (rest : Elements)

inductive Member
  | mk (before : Blanks) (name : List StringPart) (after : Blanks) (element : Element)

inductive Members
  | last (member : Member)
  | cons (member : Member) (rest : Members)

end

abbrev Document := Element

/-! ### The bytes of a text -/

mutual

def Value.spelled : Value → List UInt8
  | .literal literal => literal.spelled
  | .number number => number.spelled
  | .string parts => quoted parts
  | .emptyArray inside => 91 :: inside.bytes ++ [93]
  | .array elements => 91 :: elements.spelled ++ [93]
  | .emptyObject inside => 123 :: inside.bytes ++ [125]
  | .object members => 123 :: members.spelled ++ [125]

def Element.spelled : Element → List UInt8
  | .mk before value after => before.bytes ++ value.spelled ++ after.bytes

def Elements.spelled : Elements → List UInt8
  | .last element => element.spelled
  | .cons element rest => element.spelled ++ [44] ++ rest.spelled

def Member.spelled : Member → List UInt8
  | .mk before name after element =>
    before.bytes ++ quoted name ++ after.bytes ++ [58] ++ element.spelled

def Members.spelled : Members → List UInt8
  | .last member => member.spelled
  | .cons member rest => member.spelled ++ [44] ++ rest.spelled

end

/-! ### Depth and counts -/

mutual

/-- How deep the containers of a text are nested. -/
def Value.depth : Value → Nat
  | .literal _ | .number _ | .string _ => 0
  | .emptyArray _ | .emptyObject _ => 1
  | .array elements => elements.depth + 1
  | .object members => members.depth + 1

def Element.depth : Element → Nat
  | .mk _ value _ => value.depth

def Elements.depth : Elements → Nat
  | .last element => element.depth
  | .cons element rest => max element.depth rest.depth

def Member.depth : Member → Nat
  | .mk _ _ _ element => element.depth

def Members.depth : Members → Nat
  | .last member => member.depth
  | .cons member rest => max member.depth rest.depth

end

mutual

/-- The containers, commas and colons of a text. -/
def Value.tokens : Value → Nat
  | .literal _ | .number _ | .string _ => 0
  | .emptyArray _ | .emptyObject _ => 1
  | .array elements => elements.tokens + 1
  | .object members => members.tokens + 1

def Element.tokens : Element → Nat
  | .mk _ value _ => value.tokens

def Elements.tokens : Elements → Nat
  | .last element => element.tokens
  | .cons element rest => element.tokens + 1 + rest.tokens

def Member.tokens : Member → Nat
  | .mk _ _ _ element => 1 + element.tokens

def Members.tokens : Members → Nat
  | .last member => member.tokens
  | .cons member rest => member.tokens + 1 + rest.tokens

end

mutual

/-- The values of a text, the containers among them. -/
def Value.values : Value → Nat
  | .literal _ | .number _ | .string _ | .emptyArray _ | .emptyObject _ => 1
  | .array elements => elements.values + 1
  | .object members => members.values + 1

def Element.values : Element → Nat
  | .mk _ value _ => value.values

def Elements.values : Elements → Nat
  | .last element => element.values
  | .cons element rest => element.values + rest.values

def Member.values : Member → Nat
  | .mk _ _ _ element => element.values

def Members.values : Members → Nat
  | .last member => member.values
  | .cons member rest => member.values + rest.values

end

mutual

theorem Value.values_le : ∀ value : Value, value.values ≤ 1 + value.tokens
  | .literal _ | .number _ | .string _ => le_rfl
  | .emptyArray _ | .emptyObject _ => Nat.le_succ 1
  | .array elements => by
    have inside := elements.values_le
    rw [Value.values, Value.tokens]
    omega
  | .object members => by
    have inside := members.values_le
    rw [Value.values, Value.tokens]
    omega

/-- The values of a text are bounded by its containers, commas and colons. -/
theorem Element.values_le : ∀ element : Element, element.values ≤ 1 + element.tokens
  | .mk _ value _ => by
    rw [Element.values, Element.tokens]
    exact value.values_le

theorem Elements.values_le : ∀ elements : Elements, elements.values ≤ 1 + elements.tokens
  | .last element => by
    rw [Elements.values, Elements.tokens]
    exact element.values_le
  | .cons element rest => by
    have first := element.values_le
    have others := rest.values_le
    rw [Elements.values, Elements.tokens]
    omega

theorem Member.values_le : ∀ member : Member, member.values ≤ member.tokens
  | .mk _ _ _ element => by
    rw [Member.values, Member.tokens]
    exact element.values_le

theorem Members.values_le : ∀ members : Members, members.values ≤ 1 + members.tokens
  | .last member => by
    have first := member.values_le
    rw [Members.values, Members.tokens]
    omega
  | .cons member rest => by
    have first := member.values_le
    have others := rest.values_le
    rw [Members.values, Members.tokens]
    omega

end

end RelayPool.JsonText
