/-
**How a chat body is decoded** (`internal/gateway/types.go`, `internal/gateway/cursor_compat.go` and
the decode branch of `ChatCompletions`).
-/
import FfxNexus.MessagesApi
import FfxNexus.JsonRecords
import Mathlib.Data.List.Infix

namespace FfxNexus.CursorCompat
open Schema Guardrails JsonRecords
open MessagesApi (opensWith isBlank)

structure Codec extends Reader where
  marshalFunction : (name description parameters : String) → String
  marshalGrammar : (name description format : String) → Option String
  marshalChoice : (type name : String) → String

structure Canonical extends ChatCompletionRequest where
  stop : List String
  user : String
  toolChoice : String
  streamOptions : String
deriving DecidableEq

structure Request extends Canonical where
  reasoningEffort : String
  parallelToolCalls : Option Bool
  extra : List (String × String)

variable (r : Reader) (c : Codec) (body : String) (raw : String)

def readNamed (other raw : String) (st : String × String) :
    Option (String × String) := do
  let ms ← members r raw
  let name ← field "name" string st.1 ms
  let text ← field other string st.2 ms
  return (name, text)

def zeroToolCall : ToolCall := ⟨none, "", "", "", "", "", ""⟩

def unmarshalToolCall (_ : ToolCall) : Option ToolCall := do
  let ms ← members r raw
  let index ← field "index" (pointer 0 fun raw _ => r.int raw) none ms
  let id ← field "id" string "" ms
  let type ← field "type" string "" ms
  let function ← field "function" (readNamed r "arguments") ("", "") ms
  let custom ← field "custom" (readNamed r "input") ("", "") ms
  return ⟨index, id, type, function.1, function.2, custom.1, custom.2⟩

def joinParts (text : List (String × String) → Option String) (raw : String) :
    Option String := do
  let raws ← r.array raw
  let texts ← raws.mapM fun part => (members r part).bind text
  return String.intercalate "\n" (texts.filter (· ≠ ""))

def parseMessageContent : Option String :=
  if isBlank raw then some ""
  else if opensWith '"' raw then StringLiteral.unquote raw
  else if opensWith '[' raw = false then none else joinParts r (fun ms => do
    let _ ← field "type" string "" ms
    let text ← field "text" string "" ms
    let inputText ← field "input_text" string "" ms
    return if text = "" then inputText else text) raw

def zeroMessage : Message := ⟨"", "", "", [], ""⟩

def unmarshalMessage (r : Reader) (raw : String) (m : Message) : Option Message := do
  let ms ← members r raw
  let role ← field "role" string "" ms
  let name ← field "name" string "" ms
  let toolCalls ← field "tool_calls" (slice r zeroToolCall (unmarshalToolCall r)) .nil ms
  let toolCallID ← field "tool_call_id" string "" ms
  let content ←
    match (values "content" ms).getLast? with
    | none => some m.content
    | some content => parseMessageContent r content
  return ⟨role, content, name, toolCalls.value, toolCallID⟩

structure NestedTool where
  type : String
  function : String
  custom : String

structure FlatTool where
  type : String
  name : String
  description : String
  parameters : String

variable (ms : List (String × String))

def readNested : Option NestedTool := do
  let type ← field "type" string "" ms
  return ⟨type, rawField "function" "" ms, rawField "custom" "" ms⟩

def readFlat : Option FlatTool := do
  let type ← field "type" string "" ms
  let name ← field "name" string "" ms
  let description ← field "description" string "" ms
  return ⟨type, name, description, rawField "parameters" "" ms⟩

def FlatTool.function (c : Codec) (flat : FlatTool) : String :=
  c.marshalFunction flat.name flat.description flat.parameters

def wrapApplyPatchGrammar (c : Codec) (custom : String) : String :=
  let wrapped := do
    let ms ← members c.toReader custom
    let name ← field "name" string "" ms
    let description ← field "description" string "" ms
    if name = "" then none
    else c.marshalGrammar name description (rawField "format" "" ms)
  wrapped.getD custom

def NestedTool.normalise (c : Codec) (ms : List (String × String)) (nested : NestedTool) :
    Option Tool :=
  if fieldLoose "name" string "" ms ≠ "" ∧ nested.function = "" then
    (readFlat ms).map fun flat => ⟨flat.type, flat.function c, ""⟩
  else if nested.type = "function" then
    if nested.function = "" then none else some ⟨"function", nested.function, ""⟩
  else if nested.type = "custom" then
    if nested.custom = "" then none
    else some ⟨"custom", wrapApplyPatchGrammar c nested.custom, ""⟩
  else
    (readFlat ms).bind fun flat =>
      if flat.name = "" then none else some ⟨flat.type, flat.function c, ""⟩

def normaliseTool (c : Codec) (raw : String) : Option Tool := do
  let ms ← members c.toReader raw
  let nested ← readNested ms
  nested.normalise c ms

def zeroTool : Tool := ⟨"", "", ""⟩

def unmarshalTool (c : Codec) (raw : String) (t : Tool) : Option Tool := do
  let ms ← members c.toReader raw
  let kind ← readNested ms
  if kind.type = "custom" ∧ kind.custom ≠ "" then
    some { t with type := "custom", custom := kind.custom }
  else if kind.function ≠ "" then some { t with type := kind.type, function := kind.function }
  else normaliseTool c raw

structure SharedFields where
  model : String
  messages : List Message
  temperature : Option ℚ
  topP : Option ℚ
  maxTokens : Option Int
  stream : Bool
  stop : List String
  user : String
  toolChoice : String
  parallelToolCalls : Option Bool
  streamOptions : String

def readShared (r : Reader) (ms : List (String × String)) : Option SharedFields := do
  let model ← field "model" string "" ms
  let messages ← field "messages" (slice r zeroMessage (unmarshalMessage r)) .nil ms
  let temperature ← field "temperature" (pointer 0 fun raw _ => r.float raw) none ms
  let topP ← field "top_p" (pointer 0 fun raw _ => r.float raw) none ms
  let maxTokens ← field "max_tokens" (pointer 0 fun raw _ => r.int raw) none ms
  let stream ← field "stream" boolean false ms
  let stop ← field "stop" (slice r "" string) .nil ms
  let user ← field "user" string "" ms
  let parallelToolCalls ← field "parallel_tool_calls" (pointer false boolean) none ms
  return {
    model, temperature, topP, maxTokens, stream, user, parallelToolCalls
    messages := messages.value
    stop := stop.value
    toolChoice := rawField "tool_choice" "" ms
    streamOptions := rawField "stream_options" "" ms }

def readSchemaSpec (r : Reader) (raw : String) (st : JSONSchemaSpec) : Option JSONSchemaSpec := do
  let ms ← members r raw
  let name ← field "name" string st.name ms
  let strict ← field "strict" boolean st.strict ms
  return ⟨name, rawField "schema" st.schema ms, strict⟩

def readResponseFormat (r : Reader) (raw : String) (st : ResponseFormat) :
    Option ResponseFormat := do
  let ms ← members r raw
  let type ← field "type" string st.type ms
  let jsonSchema ← field "json_schema" (pointer ⟨"", "", false⟩ (readSchemaSpec r)) st.jsonSchema ms
  return ⟨type, jsonSchema⟩

def readNexusEval (r : Reader) (raw : String) (st : Slice String × String) :
    Option (Slice String × String) := do
  let ms ← members r raw
  let contexts ← field "contexts" (slice r "" string) st.1 ms
  let reference ← field "reference" string st.2 ms
  return (contexts, reference)

structure ChatFields where
  tools : List Tool
  reasoningEffort : String
  responseFormat : Option ResponseFormat
  nexusEval : Option NexusEvalContext

def readChat (c : Codec) (ms : List (String × String)) : Option ChatFields := do
  let tools ← field "tools" (slice c.toReader zeroTool (unmarshalTool c)) .nil ms
  let reasoningEffort ← field "reasoning_effort" string "" ms
  let responseFormat ←
    field "response_format" (pointer ⟨"", none⟩ (readResponseFormat c.toReader)) none ms
  let nexusEval ← field "nexus_eval" (pointer (.nil, "") (readNexusEval c.toReader)) none ms
  return ⟨tools.value, reasoningEffort, responseFormat,
    nexusEval.map fun ctx => ⟨ctx.1.value, ctx.2⟩⟩

def unmarshalRequest (c : Codec) (body : String) : Option Request := do
  let ms ← members c.toReader body
  let shared ← readShared c.toReader ms
  let own ← readChat c ms
  return {
    model := shared.model
    messages := shared.messages
    temperature := shared.temperature
    topP := shared.topP
    maxTokens := shared.maxTokens
    stream := shared.stream
    tools := own.tools
    responseFormat := own.responseFormat
    nexusEval := own.nexusEval
    stop := shared.stop
    user := shared.user
    toolChoice := shared.toolChoice
    streamOptions := shared.streamOptions
    reasoningEffort := own.reasoningEffort
    parallelToolCalls := shared.parallelToolCalls
    extra := [] }

structure InputItem where
  type : String
  id : String
  role : String
  content : String
  name : String
  callID : String
  toolUseID : String
  input : String
  arguments : String
  output : String

def readItem (r : Reader) (raw : String) : Option InputItem := do
  let ms ← members r raw
  let type ← field "type" string "" ms
  let id ← field "id" string "" ms
  let role ← field "role" string "" ms
  let name ← field "name" string "" ms
  let callID ← field "call_id" string "" ms
  let toolUseID ← field "tool_use_id" string "" ms
  let arguments ← field "arguments" string "" ms
  return {
    type, id, role, name, callID, toolUseID, arguments
    content := rawField "content" "" ms
    input := rawField "input" "" ms
    output := rawField "output" "" ms }

def extractInputText (r : Reader) (raw : String) : String :=
  if isBlank raw then ""
  else if opensWith '"' raw then (StringLiteral.unquote raw).getD ""
  else (joinParts r (fun ms => do
    let _ ← field "type" string "" ms
    field "text" string "" ms) raw).getD raw

def InputItem.outputString (it : InputItem) : String :=
  let trimmed := String.ofList (trimSpace it.output.toList)
  if isBlank it.output then ""
  else if opensWith '"' it.output then (StringLiteral.unquote it.output).getD trimmed
  else trimmed

def callMessage (id name arguments : String) : Message :=
  ⟨"assistant", "", "", [⟨none, id, "function", name, arguments, "", ""⟩], ""⟩

def InputItem.message (r : Reader) (it : InputItem) : Option Message :=
  if it.role ∈ ["user", "system", "assistant", "developer"] then
    some (textMessage it.role (extractInputText r it.content))
  else if it.type = "function_call" then
    some (callMessage it.callID (String.ofList (trimSpace it.name.toList)) it.arguments)
  else if it.type = "function_call_output" then
    some ⟨"tool", it.outputString, it.name, [], it.callID⟩
  else if it.type = "tool_use" then
    let ms := (members r it.content).getD []
    let input := rawField "input" "" ms
    some (callMessage it.callID (fieldLoose "name" string "" ms)
      (if input = "" then "\x7b\x7d" else input))
  else if it.type = "tool_result" then
    some ⟨"tool", it.outputString, "", [], it.callID⟩
  else none

def parseInputToMessages (r : Reader) (raw : String) : Option (List Message) :=
  if isBlank raw then none
  else if opensWith '"' raw then
    (StringLiteral.unquote raw).map fun s => [textMessage "user" s]
  else if opensWith '[' raw = false then none else do
    let raws ← r.array raw
    let items ← raws.mapM (readItem r)
    return items.filterMap (InputItem.message r)

structure ChoiceProbe where
  type : String
  function : String
  name : String

def readChoice : Option ChoiceProbe := do
  let ms ← members r raw
  let type ← field "type" string "" ms
  let name ← field "name" string "" ms
  return ⟨type, rawField "function" "" ms, name⟩

def normaliseHybridToolChoice : String :=
  if raw = "" then ""
  else if isBlank raw then ""
  else if opensWith '\x7b' raw = false then raw
  else
    match readChoice c.toReader raw with
    | none => raw
    | some probe =>
      if probe.function ≠ "" then raw
      else if probe.type ≠ "" ∧ probe.name ≠ "" then c.marshalChoice probe.type probe.name
      else raw

def promoted : List String :=
  ["model", "messages", "input", "tools", "temperature", "top_p", "max_output_tokens", "stream",
    "user", "nexus_eval", "instructions", "reasoning", "text", "tool_choice", "parallel_tool_calls"]

def pickResponsesExtras : List (String × String) :=
  ((members c.toReader body).getD []).filter fun m => m.1 ∉ promoted

structure HybridFields where
  input : String
  maxOutputTokens : Option Int
  tools : List String
  reasoning : String

def readHybrid : Option HybridFields := do
  let maxOutputTokens ← field "max_output_tokens" (pointer 0 fun raw _ => r.int raw) none ms
  let tools ← field "tools" (slice r "" fun raw _ => some raw) .nil ms
  return ⟨rawField "input" "" ms, maxOutputTokens, tools.value, rawField "reasoning" "" ms⟩

def hybridMessages (messages : List Message) (input : String) :
    Option (List Message) :=
  if 0 < messages.length then some messages
  else if input ≠ "" ∧ input ≠ "null" then parseInputToMessages r input
  else some []

def reasoningEffort (reasoning : String) : String :=
  if reasoning ≠ "" ∧ reasoning ≠ "null" then
    ((members r reasoning).bind (field "effort" string "")).getD ""
  else ""

def transformCursorHybrid : Option Request := do
  let ms ← members c.toReader body
  let shared ← readShared c.toReader ms
  let h ← readHybrid c.toReader ms
  let messages ← hybridMessages c.toReader shared.messages h.input
  return {
    messages
    model := shared.model
    temperature := shared.temperature
    topP := shared.topP
    maxTokens := shared.maxTokens.or h.maxOutputTokens
    stream := shared.stream
    tools := h.tools.filterMap (normaliseTool c)
    responseFormat := none
    nexusEval := none
    stop := shared.stop
    user := shared.user
    toolChoice := normaliseHybridToolChoice c shared.toolChoice
    streamOptions := shared.streamOptions
    reasoningEffort := reasoningEffort c.toReader h.reasoning
    parallelToolCalls := shared.parallelToolCalls
    extra := pickResponsesExtras c body }

def isCursorHybridRequest : Bool :=
  let trimmed := trimSpace body.toList
  if trimmed.head? ≠ some '\x7b' then false
  else if "\"input\"".toList <:+: trimmed then true
  else if "\"type\":\"custom\"".toList <:+: trimmed ∨
      "\"type\": \"custom\"".toList <:+: trimmed then true
  else false

def decodeBody : Option Request :=
  if isCursorHybridRequest body then transformCursorHybrid c body else unmarshalRequest c body

end FfxNexus.CursorCompat
