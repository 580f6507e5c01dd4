/-
**The canonical wire schema** (`internal/gateway/types.go`), as decoded values.
-/
import Mathlib.Algebra.Order.Field.Rat

namespace FfxNexus.Schema

structure ToolCall where
  index : Option Int
  id : String
  type : String
  functionName : String
  functionArguments : String
  customName : String
  customInput : String
deriving DecidableEq

structure Message where
  role : String
  content : String
  name : String
  toolCalls : List ToolCall
  toolCallID : String
deriving DecidableEq

def textMessage (role content : String) : Message := ⟨role, content, "", [], ""⟩

structure Tool where
  type : String
  function : String
  custom : String
deriving DecidableEq

structure JSONSchemaSpec where
  name : String
  schema : String
  strict : Bool
deriving DecidableEq

structure ResponseFormat where
  type : String
  jsonSchema : Option JSONSchemaSpec
deriving DecidableEq

variable (f : Option ResponseFormat)

def wantsJSON : Bool :=
  match f with
  | none => false
  | some f => f.type = "json_object" ∨ f.type = "json_schema"

def schemaBytes : String :=
  match f.bind ResponseFormat.jsonSchema with
  | none => ""
  | some spec => spec.schema

structure NexusEvalContext where
  contexts : List String
  reference : String
deriving DecidableEq

structure ChatCompletionRequest where
  model : String
  messages : List Message
  temperature : Option ℚ
  topP : Option ℚ
  maxTokens : Option Int
  stream : Bool
  tools : List Tool
  responseFormat : Option ResponseFormat
  nexusEval : Option NexusEvalContext
deriving DecidableEq

structure PromptTokenDetails where
  cachedTokens : Int
  textTokens : Int
  audioTokens : Int
  imageTokens : Int
deriving DecidableEq

def PromptTokenDetails.hasDetail (d : Option PromptTokenDetails) : Bool :=
  match d with
  | none => false
  | some d => d.cachedTokens ≠ 0 ∨ d.textTokens ≠ 0 ∨ d.audioTokens ≠ 0 ∨ d.imageTokens ≠ 0

structure CompletionTokenDetails where
  reasoningTokens : Int
  textTokens : Int
  audioTokens : Int
  acceptedPredictionTokens : Int
  rejectedPredictionTokens : Int
deriving DecidableEq

def CompletionTokenDetails.hasDetail (d : Option CompletionTokenDetails) : Bool :=
  match d with
  | none => false
  | some d => d.reasoningTokens ≠ 0 ∨ d.textTokens ≠ 0 ∨ d.audioTokens ≠ 0 ∨
      d.acceptedPredictionTokens ≠ 0 ∨ d.rejectedPredictionTokens ≠ 0

structure Usage where
  promptTokens : Int
  completionTokens : Int
  totalTokens : Int
  estimatedCost : ℚ
  costUSD : ℚ
  promptTokenDetails : Option PromptTokenDetails
  completionTokenDetails : Option CompletionTokenDetails
deriving DecidableEq

def Usage.zero : Usage := ⟨0, 0, 0, 0, 0, none, none⟩

structure Choice where
  index : Int
  message : Message
  finishReason : String
deriving DecidableEq

structure ChatCompletionResponse where
  id : String
  object : String
  created : Int
  model : String
  choices : List Choice
  usage : Usage
deriving DecidableEq

def ChatCompletionResponse.content? (r : ChatCompletionResponse) : Option String :=
  r.choices.head?.map fun c => c.message.content

def ChatCompletionResponse.setContent (r : ChatCompletionResponse) (content : String) :
    ChatCompletionResponse :=
  match r.choices with
  | [] => r
  | c :: cs => { r with choices := { c with message := { c.message with content } } :: cs }

variable (r : ChatCompletionResponse) (content : String)

@[simp] lemma setContent_choices_ne_nil : (r.setContent content).choices = [] ↔ r.choices = [] := by
  unfold ChatCompletionResponse.setContent
  split <;> simp_all

lemma content?_eq_none {r : ChatCompletionResponse} (h : r.choices = []) : r.content? = none := by
  unfold ChatCompletionResponse.content?
  rw [h]
  rfl

lemma content?_setContent {r : ChatCompletionResponse} (h : r.choices ≠ []) :
    (r.setContent content).content? = some content := by
  unfold ChatCompletionResponse.setContent ChatCompletionResponse.content?
  split
  · exact absurd ‹_› h
  · rfl

@[simp] lemma setContent_usage : (r.setContent content).usage = r.usage := by
  unfold ChatCompletionResponse.setContent
  split <;> rfl

@[simp] lemma setContent_model : (r.setContent content).model = r.model := by
  unfold ChatCompletionResponse.setContent
  split <;> rfl

structure Delta where
  role : String
  content : String
  toolCalls : List ToolCall
deriving DecidableEq

structure ChunkChoice where
  index : Int
  delta : Delta
  finishReason : String
deriving DecidableEq

structure ChatCompletionChunk where
  id : String
  object : String
  created : Int
  model : String
  choices : List ChunkChoice
  usage : Option Usage
deriving DecidableEq

structure StreamEvent where
  chunk : Option ChatCompletionChunk
  raw : Option String
  err : Option String
  done : Bool
deriving DecidableEq

structure StreamProtocol (events : List StreamEvent) : Prop where
  bare : ∀ e ∈ events, e.err.isSome ∨ e.done = true → e.chunk = none
  last : ∀ before e after, events = before ++ e :: after → e.done = true → after = []

lemma StreamProtocol.tail {e : StreamEvent} {events : List StreamEvent}
    (h : StreamProtocol (e :: events)) : StreamProtocol events :=
  ⟨fun e' he' => h.bare e' (List.mem_cons_of_mem e he'),
    fun before e' after heq => h.last (e :: before) e' after (congrArg (e :: ·) heq)⟩

structure UpstreamStream where
  events : List StreamEvent
  protocol : StreamProtocol events

end FfxNexus.Schema
