/-
**The Anthropic adapter** (`internal/gateway/providers/anthropic.go`), responses and streams.
-/
import FfxNexus.Adapters.Client

namespace FfxNexus.Adapters.Anthropic
open Schema

structure ContentBlock where
  type : String
  text : String
  id : String
  name : String
  input : String

structure EventUsage where
  inputTokens : Option Int
  outputTokens : Option Int
deriving DecidableEq

structure AnthropicResponse where
  id : String
  model : String
  content : List ContentBlock
  stopReason : String
  inputTokens : Int
  outputTokens : Int

structure BlockStart where
  type : String
  id : String
  name : String
deriving DecidableEq

structure EventDelta where
  type : String
  text : String
  stopReason : String
  partialJSON : String
deriving DecidableEq

structure Event where
  type : String
  index : Int
  contentBlock : Option BlockStart
  delta : EventDelta
  usage : EventUsage
  messageUsage : EventUsage
deriving DecidableEq

def mapAnthropicStop (s : String) : String :=
  if s = "end_turn" ∨ s = "stop_sequence" then "stop"
  else if s = "max_tokens" then "length"
  else if s = "tool_use" then "tool_calls"
  else s

def blockArguments (b : ContentBlock) : String :=
  if b.input ≠ "" then b.input else "\x7b\x7d"

def putBlock (acc : String × List ToolCall) (b : ContentBlock) : String × List ToolCall :=
  if b.type = "text" then (acc.1 ++ b.text, acc.2)
  else if b.type = "tool_use" then
    (acc.1, acc.2 ++ [⟨none, b.id, "function", b.name, blockArguments b, "", ""⟩])
  else acc

def toOpenAI (ar : AnthropicResponse) (created : Int) : ChatCompletionResponse :=
  let folded := ar.content.foldl putBlock ("", [])
  let finish := mapAnthropicStop ar.stopReason
  let finish := if 0 < folded.2.length ∧ finish = "" then "tool_calls" else finish
  { id := ar.id
    object := "chat.completion"
    created
    model := ar.model
    choices := [⟨0, ⟨"assistant", folded.1, "", folded.2, ""⟩, finish⟩]
    usage := { Usage.zero with
      promptTokens := ar.inputTokens
      completionTokens := ar.outputTokens
      totalTokens := ar.inputTokens + ar.outputTokens } }

structure ParseState where
  usage : Usage
  pendingToolDeltas : List (Int × ToolCall)
  out : List StreamEvent

def ParseState.start : ParseState := ⟨Usage.zero, [], []⟩

variable (pending : List (Int × ToolCall))

def putPending (index : Int) (tc : ToolCall) :
    List (Int × ToolCall) :=
  (index, tc) :: pending.filter (·.1 ≠ index)

lemma lookup_putPending (index : Int) (tc : ToolCall) :
    (putPending pending index tc).lookup index = some tc := by
  simp [putPending]

def fragment (id name arguments : String) : ToolCall :=
  ⟨none, id, "function", name, arguments, "", ""⟩

variable (model : String) (created : Int)

variable (st : ParseState)

variable (e : Event)

def blockStart : ParseState :=
  match e.contentBlock with
  | none => st
  | some block =>
    if block.type = "tool_use" then
      { st with
        pendingToolDeltas := putPending st.pendingToolDeltas e.index
          (fragment block.id block.name "")
        out := st.out ++ [chunkEvent model created
          ⟨"assistant", "", [fragment block.id block.name ""]⟩ "" none] }
    else st

def blockDelta : ParseState :=
  if e.delta.type = "text_delta" ∧ e.delta.text ≠ "" then
    { st with out := st.out ++ [chunkEvent model created ⟨"", e.delta.text, []⟩ "" none] }
  else if e.delta.type = "input_json_delta" ∧ e.delta.partialJSON ≠ "" then
    match st.pendingToolDeltas.lookup e.index with
    | none => st
    | some tc =>
      { st with
        pendingToolDeltas := putPending st.pendingToolDeltas e.index
          { tc with functionArguments := tc.functionArguments ++ e.delta.partialJSON }
        out := st.out ++ [chunkEvent model created
          ⟨"", "", [fragment tc.id "" e.delta.partialJSON]⟩ "" none] }
  else st

def messageDelta : ParseState :=
  let outputTokens := e.usage.outputTokens.getD 0
  let usage := if 0 < outputTokens then { st.usage with completionTokens := outputTokens }
    else st.usage
  let st := { st with usage }
  if e.delta.stopReason ≠ "" then
    { st with out := st.out ++ [chunkEvent model created ⟨"", "", []⟩
        (mapAnthropicStop e.delta.stopReason) (some usage)] }
  else st

def parseEvent : ParseState :=
  if e.type = "content_block_start" then blockStart model created st e
  else if e.type = "content_block_delta" then blockDelta model created st e
  else if e.type = "message_delta" then messageDelta model created st e
  else st

def parseEvents : List Event → ParseState → ParseState × Bool
  | [], st => (st, false)
  | e :: es, st =>
    if e.type = "message_stop" then (st, true) else parseEvents es (parseEvent model created st e)

variable (decode : String → Option Event)

variable (lines : List String)

def eventsOf : List Event :=
  lines.filterMap fun line => (dataLine line).bind decode

variable (scanErr : Option String)

def parseSSE :
    List StreamEvent :=
  let parsed := parseEvents model created (eventsOf decode lines) .start
  parsed.1.out ++ [match parsed.2, scanErr with
    | false, some err => ⟨none, none, some err, false⟩
    | _, _ => ⟨none, none, none, true⟩]

def beforeStop (es : List Event) : List Event := es.takeWhile (·.type ≠ "message_stop")

lemma parseEvents_eq_foldl (es : List Event) (st : ParseState) :
    (parseEvents model created es st).1 = (beforeStop es).foldl (parseEvent model created) st := by
  induction es generalizing st with
  | nil => rfl
  | cons e es ih =>
    by_cases hstop : e.type = "message_stop"
    · simp [parseEvents, beforeStop, hstop]
    · have hnext := ih (parseEvent model created st e)
      simp only [beforeStop] at hnext ⊢
      simp [parseEvents, hstop, hnext]

lemma parseSSE_out : ∃ last : StreamEvent, last.chunk = none ∧
      parseSSE model created decode lines scanErr =
        ((beforeStop (eventsOf decode lines)).foldl (parseEvent model created) .start).out ++
          [last] := by
  unfold parseSSE
  dsimp only
  rw [parseEvents_eq_foldl]
  refine ⟨_, ?_, rfl⟩
  split <;> rfl

structure Sending where
  text : String
  calls : List ToolCall
  finish : String

def Sending.folded (s : Sending) : Folded := ⟨s.text, s.calls.foldl foldCall [], s.finish⟩

def sending : Sending := ⟨sentText st.out, sentCalls st.out, sentFinish st.out⟩

lemma sending_start : sending .start = ⟨"", [], ""⟩ := rfl

lemma sending_snoc (usage usage' : Usage) (pending pending' : List (Int × ToolCall))
    (out : List StreamEvent) (delta : Delta) (finish : String) (reported : Option Usage) :
    sending ⟨usage, pending, out ++ [chunkEvent model created delta finish reported]⟩ =
      let before := sending ⟨usage', pending', out⟩
      ⟨before.text ++ delta.content, before.calls ++ delta.toolCalls,
        if finish ≠ "" then finish else before.finish⟩ := by
  simp only [sending, sentText_snoc, sentCalls_snoc, sentFinish_snoc]

lemma clientFold_parseSSE :
    clientFold (chunksOf (parseSSE model created decode lines scanErr)) =
      (sending ((beforeStop (eventsOf decode lines)).foldl (parseEvent model created)
        .start)).folded := by
  obtain ⟨last, hlast, hout⟩ := parseSSE_out model created decode lines scanErr
  rw [hout]
  exact clientFold_sent _ hlast

def bare (type : String) : Event :=
  ⟨type, 0, none, ⟨"", "", "", ""⟩, ⟨none, none⟩, ⟨none, none⟩⟩

/-- An event with the fields its payload has on the wire. -/
def onWire (e : Event) (fields : String) : String × Event :=
  ("\"type\":\"" ++ e.type ++ "\"" ++ fields, e)

end FfxNexus.Adapters.Anthropic
