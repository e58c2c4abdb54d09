import RelayPool.Protocol.Event

/-! Responses requests as chat requests (`services/proxy/responses_chat_fallback.rs`).

Every item of the input becomes a message, except that a function call joins the message before
it when that one already holds calls, and that reasoning is left out. Writing a value that is
not a text is the business of a library, so that the writer is a parameter. -/
namespace RelayPool.Protocol

inductive ResponsesChatFallbackError
  | previousResponseUnsupported
  | conversationUnsupported
  | streamingUnsupported
  | builtInToolUnsupported (toolType : String)
  | invalidInput
deriving DecidableEq, Repr

/-- How a JSON value is written; nothing when it cannot be. -/
abbrev JsonWriter := Value → Option String

/-- What has to be there. -/
def required {α : Type} : Option α → Except ResponsesChatFallbackError α
  | some a => .ok a
  | none => .error .invalidInput

/-! ### Texts -/

def partText : Value → Except ResponsesChatFallbackError String
  | .string part => .ok part
  | .object entries =>
    let part := Value.object entries
    if (part.get "type").bind (·.asStr) ∈ [some "input_text", some "output_text", some "text"] then
      required ((part.get "text").bind (·.asStr))
    else .error .invalidInput
  | _ => .error .invalidInput

def responseContentText : Value → Except ResponsesChatFallbackError String
  | .string text => .ok text
  | .array parts => parts.foldlM (fun text part => return text ++ (← partText part)) ""
  | _ => .error .invalidInput

def valueAsText (toString : JsonWriter) : Value → Except ResponsesChatFallbackError String
  | .string text => .ok text
  | .null => .error .invalidInput
  | value => required (toString value)

/-! ### Messages -/

def textMessage (role content : String) : Value :=
  .object [("role", .string role), ("content", .string content)]

def outputMessage (callId output : String) : Value :=
  .object [("role", .string "tool"), ("tool_call_id", .string callId),
    ("content", .string output)]

def toolCall (callId name arguments : String) : Value :=
  .object [("id", .string callId), ("type", .string "function"),
    ("function", .object [("name", .string name), ("arguments", .string arguments)])]

def callsMessage (toolCalls : List Value) : Value :=
  .object [("role", .string "assistant"), ("content", .null), ("tool_calls", .array toolCalls)]

/-- The calls of a message that a further call may join. -/
def toolCalls (message : Value) : Option (List Value) :=
  if (message.get "role").bind (·.asStr) = some "assistant" ∧
      (message.get "content").any (·.isNull) then
    (message.get "tool_calls").bind (·.asArray)
  else none

def withToolCalls (toolCalls : List Value) : Value → Value
  | .object entries => .object (entries.map fun entry =>
      if entry.1 = "tool_calls" then (entry.1, .array toolCalls) else entry)
  | other => other

def pushTextMessage (messages : List Value) (role : String) (content : Value) :
    Except ResponsesChatFallbackError (List Value) := do
  let content ← responseContentText content
  return messages ++ [textMessage role content]

/-- A call joins the message before it when that one already holds calls. -/
def pushToolCall (messages : List Value) (toolCall : Value) : List Value :=
  match messages.getLast?, messages.getLast?.bind toolCalls with
  | some last, some calls => messages.dropLast ++ [withToolCalls (calls ++ [toolCall]) last]
  | _, _ => messages ++ [callsMessage [toolCall]]

def argumentsText (toString : JsonWriter) (item : Value) :
    Except ResponsesChatFallbackError String :=
  match item.get "arguments" with
  | some arguments => valueAsText toString arguments
  | none => .ok "\x7b\x7d"

def outputText (toString : JsonWriter) (item : Value) :
    Except ResponsesChatFallbackError String :=
  match item.get "output" with
  | some output => valueAsText toString output
  | none => .error .invalidInput

def pushFunctionCall (toString : JsonWriter) (messages : List Value) (item : Value) :
    Except ResponsesChatFallbackError (List Value) := do
  let callId ← required ((item.get "call_id").bind (·.asStr))
  let name ← required ((item.get "name").bind (·.asStr))
  let arguments ← argumentsText toString item
  return pushToolCall messages (toolCall callId name arguments)

def pushFunctionCallOutput (toString : JsonWriter) (messages : List Value) (item : Value) :
    Except ResponsesChatFallbackError (List Value) := do
  let callId ← required ((item.get "call_id").bind (·.asStr))
  let output ← outputText toString item
  return messages ++ [outputMessage callId output]

def pushInputItem (toString : JsonWriter) (messages : List Value) (item : Value) :
    Except ResponsesChatFallbackError (List Value) :=
  match item with
  | .object _ =>
    match (item.get "type").bind (·.asStr) with
    | some "function_call" => pushFunctionCall toString messages item
    | some "function_call_output" => pushFunctionCallOutput toString messages item
    | some "reasoning" => .ok messages
    | some "message" | none =>
      let role := ((item.get "role").bind (·.asStr)).getD "user"
      let content := (item.get "content").getD .null
      pushTextMessage messages role content
    | some _ => .error .invalidInput
  | .string text => pushTextMessage messages "user" (.string text)
  | _ => .error .invalidInput

/-- The message of the instructions, unless they are blank. -/
def instructionsMessage (body : Value) : List Value :=
  match (body.get "instructions").bind (·.asStr) with
  | some instructions =>
    if trim instructions = "" then [] else [textMessage "developer" instructions]
  | none => []

def buildMessages (toString : JsonWriter) (body : Value) :
    Except ResponsesChatFallbackError Value := do
  let messages := instructionsMessage body
  match body.get "messages" with
  | some existing =>
    let existing ← required existing.asArray
    let messages := messages ++ existing
    if messages.isEmpty then .error .invalidInput else return .array messages
  | none =>
    let input ← required (body.get "input")
    let messages ← match input with
      | .string text => pushTextMessage messages "user" (.string text)
      | .array items => items.foldlM (pushInputItem toString) messages
      | .object _ => pushInputItem toString messages input
      | _ => .error .invalidInput
    if messages.isEmpty then .error .invalidInput else return .array messages

end RelayPool.Protocol
