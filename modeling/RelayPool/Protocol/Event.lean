import Mathlib.Data.UInt
import Mathlib.Tactic.Common

/-! Server-sent events and what the two streaming protocols make of them.

A complete event is decoded line by line into its name and its data; data that
is neither blank nor the done sentinel is JSON. Parsing it is the business of a
library, so the classifiers take the parser as a parameter; they only look at a
few members of the value it returns. -/
namespace RelayPool.Protocol

abbrev Bytes := List UInt8

structure ProtocolFailure where
  code : String
  detail : String
deriving DecidableEq, Repr

/-! ### JSON values -/

inductive Value
  | null
  | bool (value : Bool)
  | number (value : String)
  | string (value : String)
  | array (items : List Value)
  | object (entries : List (String × Value))

namespace Value

/-- The member of an object; nothing for any other value. -/
def get (key : String) : Value → Option Value
  | .object entries => (entries.find? (·.1 = key)).map (·.2)
  | _ => none

def asStr : Value → Option String
  | .string value => some value
  | _ => none

def asArray : Value → Option (List Value)
  | .array items => some items
  | _ => none

def asObject : Value → Option (List (String × Value))
  | .object entries => some entries
  | _ => none

def isNull : Value → Bool
  | .null => true
  | _ => false

/-- The member below a member and so on, by their keys; no key is that of an array. -/
def pointer (keys : List String) (value : Value) : Option Value :=
  keys.foldl (fun value key => value.bind (·.get key)) (some value)

def natOfDigits (digits : List Char) : Option Nat :=
  if digits ≠ [] ∧ digits.all Char.isDigit then
    some (digits.foldl (fun n c => 10 * n + (c.toNat - 48)) 0)
  else none

/-- A number without a fraction or an exponent, if it fits; minus zero is a float. -/
def asI64 : Value → Option Int
  | .number text =>
    match text.toList with
    | '-' :: digits => (natOfDigits digits).bind fun n =>
      if 0 < n ∧ n ≤ 9223372036854775808 then some (-n) else none
    | digits => (natOfDigits digits).bind fun n =>
      if n ≤ 9223372036854775807 then some n else none
  | _ => none

end Value

/-- A parser's error is its text. -/
abbrev JsonParser := String → Except String Value

inductive JsonComplexity
  | withinLimit
  | tooDeep
  | tooComplex
deriving DecidableEq, Repr

def maxDiagnosticJsonDepth : Nat := 32

def maxDiagnosticJsonNodes : Nat := 4096

/-- Strings are skipped, so what a message says does not count. -/
def jsonComplexityFrom (inString escaped : Bool) (depth nodes : Nat) : Bytes → JsonComplexity
  | [] => .withinLimit
  | byte :: rest =>
    if inString then
      if escaped then jsonComplexityFrom true false depth nodes rest
      else if byte = 92 then jsonComplexityFrom true true depth nodes rest
      else if byte = 34 then jsonComplexityFrom false false depth nodes rest
      else jsonComplexityFrom true false depth nodes rest
    else
      let opens := byte = 123 ∨ byte = 91
      let depth :=
        if opens then depth + 1 else if byte = 125 ∨ byte = 93 then depth - 1 else depth
      let nodes := if opens ∨ byte = 44 ∨ byte = 58 then nodes + 1 else nodes
      if opens ∧ depth > maxDiagnosticJsonDepth then .tooDeep
      else if nodes > maxDiagnosticJsonNodes then .tooComplex
      else jsonComplexityFrom (byte = 34) false depth nodes rest

def jsonComplexity (body : Bytes) : JsonComplexity := jsonComplexityFrom false false 0 1 body

/-! ### Text -/

def isAsciiWhitespace (byte : UInt8) : Bool :=
  byte = 32 ∨ byte = 9 ∨ byte = 10 ∨ byte = 12 ∨ byte = 13

/-- The characters with the Unicode property White_Space. -/
def isWhitespace (c : Char) : Bool :=
  let n := c.toNat
  (9 ≤ n ∧ n ≤ 13) ∨ n = 32 ∨ n = 0x85 ∨ n = 0xA0 ∨ n = 0x1680 ∨ (0x2000 ≤ n ∧ n ≤ 0x200A) ∨
    n = 0x2028 ∨ n = 0x2029 ∨ n = 0x202F ∨ n = 0x205F ∨ n = 0x3000

def trimStart (text : List Char) : List Char := text.dropWhile isWhitespace

def trim (text : String) : String :=
  .ofList ((trimStart (trimStart text.toList).reverse).reverse)

/-- A line without the carriage return before its line feed. -/
def stripReturn (line : List Char) : List Char :=
  if line.getLast? = some '\r' then line.dropLast else line

/-- The lines of a text whose first line begins with `current`. -/
def linesFrom (current : List Char) : List Char → List (List Char)
  | [] => if current.isEmpty then [] else [current]
  | c :: rest =>
    if c = '\n' then stripReturn current :: linesFrom [] rest else linesFrom (current ++ [c]) rest

def lines (text : List Char) : List (List Char) := linesFrom [] text

/-! ### Events -/

structure DecodedSseEvent where
  raw : Bytes
  eventName : Option String
  data : String
deriving DecidableEq, Repr

/-- The name and the data lines after one more line. -/
def decodeLine (fields : Option String × List String) (line : List Char) :
    Option String × List String :=
  if [':'].isPrefixOf line then fields
  else match line.dropPrefix? "event:".toList with
    | some value => (some (.ofList (trimStart value)), fields.2)
    | none =>
      match line.dropPrefix? "data:".toList with
      | some value => (fields.1, fields.2 ++ [.ofList (trimStart value)])
      | none => fields

def decodeSseEvent (raw : Bytes) : Except ProtocolFailure DecodedSseEvent :=
  match String.fromUTF8? ⟨raw.toArray⟩ with
  | none => .error ⟨"invalid_protocol_utf8", "SSE event contained invalid UTF-8"⟩
  | some text =>
    let (eventName, data) := (lines text.toList).foldl decodeLine (none, [])
    .ok ⟨raw, eventName, "\n".intercalate data⟩

def jsonEventValue (fromStr : JsonParser) (event : DecodedSseEvent) :
    Except ProtocolFailure Value :=
  match jsonComplexity event.data.toUTF8.data.toList with
  | .tooDeep => .error ⟨"protocol_json_too_deep", "SSE JSON exceeded the nesting limit"⟩
  | .tooComplex =>
    .error ⟨"protocol_json_too_complex", "SSE JSON exceeded the structural node limit"⟩
  | .withinLimit => (fromStr event.data).mapError fun error => ⟨"malformed_protocol_event", error⟩

inductive ProtocolTerminal
  | completed
  | failed
  | incomplete
deriving DecidableEq, Repr

inductive ProtocolEventKind
  | heartbeat
  | control
  | semantic
  | terminal (terminal : ProtocolTerminal)
deriving DecidableEq, Repr

def isHeartbeat (event : DecodedSseEvent) : Bool :=
  (trim event.data).isEmpty ∨ event.eventName = some "ping" ∨ event.eventName = some "heartbeat"

/-! ### Chat completions -/

def choiceHasNoOutputDelta (choice : Value) : Bool :=
  match (choice.get "delta").bind (·.asObject) with
  | none => true
  | some delta => delta.isEmpty || delta.all fun (key, value) =>
    if key = "role" ∨ key = "name" then true
    else if key = "content" then value.asStr.any (·.isEmpty)
    else false

def isChatControlEvent (value : Value) : Bool :=
  match (value.get "choices").bind (·.asArray) with
  | none => (value.get "usage").isSome
  | some choices =>
    if choices.isEmpty then true
    else
      let noOutput := choices.all choiceHasNoOutputDelta
      if noOutput && (value.get "usage").isSome then true
      else noOutput && choices.all fun choice => (choice.get "finish_reason").all (·.isNull)

def chatClassifyEvent (fromStr : JsonParser) (event : DecodedSseEvent) :
    Except ProtocolFailure ProtocolEventKind :=
  if isHeartbeat event then .ok .heartbeat
  else if trim event.data = "[DONE]" then .ok (.terminal .completed)
  else do
    let value ← jsonEventValue fromStr event
    if event.eventName = some "error" ∨ (value.get "type").bind (·.asStr) = some "error" ∨
        (value.get "error").isSome then
      return .terminal .failed
    else if isChatControlEvent value then return .control
    else return .semantic

/-! ### Responses -/

/-- The kind of an event by its type; one of an unknown type may mean something to a client. -/
def responsesEventKind (eventType : Option String) : ProtocolEventKind :=
  if eventType = some "response.completed" then .terminal .completed
  else if eventType = some "response.failed" then .terminal .failed
  else if eventType = some "response.incomplete" then .terminal .incomplete
  else if eventType = some "response.created" ∨ eventType = some "response.in_progress" ∨
      eventType = some "response.queued" then .control
  else .semantic

def responsesClassifyEvent (fromStr : JsonParser) (event : DecodedSseEvent) :
    Except ProtocolFailure ProtocolEventKind :=
  if isHeartbeat event then .ok .heartbeat
  else if trim event.data = "[DONE]" then .ok .control
  else do
    let value ← jsonEventValue fromStr event
    let eventType := ((value.get "type").bind (·.asStr)).or event.eventName
    if event.eventName = some "error" ∨ eventType = some "error" ∨
        (value.get "error").isSome then
      return .terminal .failed
    else return responsesEventKind eventType

end RelayPool.Protocol
