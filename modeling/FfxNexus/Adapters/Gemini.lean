/-
**Requests to Gemini** (`internal/gateway/providers/gemini.go`, `toGeminiRequest`), and the binding
of tool results to their calls.
-/
import FfxNexus.Adapters.Client
import FfxNexus.Json

namespace FfxNexus.Adapters.Gemini
open Schema List

structure GeminiFunctionCall where
  name : String
  args : Option Json.Fields

structure GeminiFunctionResponse where
  name : String
  response : Json.Fields

structure GeminiPart where
  text : String
  functionCall : Option GeminiFunctionCall
  functionResponse : Option GeminiFunctionResponse

structure GeminiContent where
  role : String
  parts : List GeminiPart

structure GeminiFunctionDeclaration where
  name : String
  description : String
  parameters : String

structure GeminiFunctionCallingConfig where
  mode : String
  allowedFunctionNames : List String

structure GeminiGenConf where
  temperature : Option ℚ
  topP : Option ℚ
  maxOutputTokens : Option Int
  stopSequences : List String

structure GeminiRequest where
  contents : List GeminiContent
  systemInstruction : Option GeminiContent
  generationConfig : GeminiGenConf
  tools : List (List GeminiFunctionDeclaration)
  toolConfig : Option GeminiFunctionCallingConfig

structure AdapterRequest extends ChatCompletionRequest where
  stop : List String
  toolChoice : String

structure Codec where
  declaration : String → GeminiFunctionDeclaration
  functionName : String → String
  choiceString : String → Option String
  choiceFunction : String → Option (String × String)
  object : String → Option Json.Fields

def textPart (text : String) : GeminiPart := ⟨text, none, none⟩

variable (c : Codec)

variable (tools : List Tool)

def functionDeclarations : List GeminiFunctionDeclaration :=
  (tools.map fun t => c.declaration t.function).filter (·.name ≠ "")

def toolConfig (choice : String) : Option GeminiFunctionCallingConfig :=
  if choice = "" then none
  else
    let cfg : GeminiFunctionCallingConfig :=
      match c.choiceString choice with
      | some s =>
        if s = "auto" then ⟨"AUTO", []⟩
        else if s = "required" then ⟨"ANY", []⟩
        else if s = "none" then ⟨"NONE", []⟩
        else ⟨"", []⟩
      | none =>
        match c.choiceFunction choice with
        | some (type, name) =>
          if type = "function" ∧ name ≠ "" then ⟨"ANY", [name]⟩ else ⟨"", []⟩
        | none => ⟨"", []⟩
    if cfg.mode ≠ "" then some cfg else none

variable (m : Message)

def assistantParts : List GeminiPart :=
  (if m.content ≠ "" then [textPart m.content] else []) ++
    m.toolCalls.map fun tc => ⟨"", some ⟨tc.functionName,
      if tc.functionArguments ≠ "" then c.object tc.functionArguments else none⟩, none⟩

def responseName : String :=
  match tools with
  | [] => m.toolCallID
  | t :: _ => if m.toolCallID = "" then c.functionName t.function else m.toolCallID

def responsePart : GeminiPart :=
  let response := if m.content ≠ "" then c.object m.content else none
  ⟨"", none, some ⟨responseName c tools m, response.getD [("result", .str m.content)]⟩⟩

def putMessage (gr : GeminiRequest) (m : Message) :
    GeminiRequest :=
  if m.role = "system" then
    let parts := (gr.systemInstruction.map GeminiContent.parts).getD []
    { gr with systemInstruction := some ⟨"", parts ++ [textPart m.content]⟩ }
  else if m.role = "assistant" then
    if 0 < (assistantParts c m).length then
      { gr with contents := gr.contents ++ [⟨"model", assistantParts c m⟩] }
    else gr
  else if m.role = "tool" then
    { gr with contents := gr.contents ++ [⟨"user", [responsePart c tools m]⟩] }
  else { gr with contents := gr.contents ++ [⟨"user", [textPart m.content]⟩] }

def toGeminiRequest (req : AdapterRequest) : GeminiRequest :=
  let decls := functionDeclarations c req.tools
  req.messages.foldl (putMessage c req.tools) {
    contents := []
    systemInstruction := none
    generationConfig := ⟨req.temperature, req.topP, req.maxTokens, req.stop⟩
    tools := if 0 < decls.length then [decls] else []
    toolConfig := toolConfig c req.toolChoice }

variable (messages : List Message)

def calledAs (id : String) : List String :=
  ((messages.filter (·.role = "assistant")).flatMap Message.toolCalls).filterMap fun tc =>
    if tc.id = id then some tc.functionName else none

def Silent : Prop :=
  m.role = "system" ∨ m.role = "assistant" ∧ m.content = "" ∧ m.toolCalls = []

structure Lays (before : List Message) (m : Message) (content : GeminiContent) : Prop where
  role : content.role = if m.role = "assistant" then "model" else "user"
  texts : m.role ≠ "tool" →
    (content.parts.map GeminiPart.text).filter (· ≠ "") = [m.content].filter (· ≠ "")
  calls : m.role = "assistant" →
    (content.parts.filterMap GeminiPart.functionCall).map GeminiFunctionCall.name =
      m.toolCalls.map ToolCall.functionName
  result : m.role = "tool" → m.toolCallID ≠ "" → ∃ response, content.parts =
    [⟨"", none, some response⟩] ∧ response.name ∈ calledAs before m.toolCallID

inductive Bound : List Message → List Message → List GeminiContent → Prop where
  | nil (before : List Message) : Bound before [] []
  | skip {before rest : List Message} {m : Message} {contents : List GeminiContent} :
      Silent m → Bound (before ++ [m]) rest contents → Bound before (m :: rest) contents
  | put {before rest : List Message} {m : Message} {content : GeminiContent}
      {contents : List GeminiContent} : ¬ Silent m → Lays before m content →
      Bound (before ++ [m]) rest contents → Bound before (m :: rest) (content :: contents)

def Answered : Prop :=
  ∀ before m after, messages = before ++ m :: after → m.role = "tool" → m.toolCallID ≠ "" →
    calledAs before m.toolCallID ≠ []

/-- **The condition**: the call id of a tool result is the name of the function called with it. -/
def NamedById : Prop :=
  ∀ before m after, messages = before ++ m :: after → m.role = "tool" → m.toolCallID ≠ "" →
    m.toolCallID ∈ calledAs before m.toolCallID

def contentOf : List GeminiContent :=
  if m.role = "system" then []
  else if m.role = "assistant" then
    if 0 < (assistantParts c m).length then [⟨"model", assistantParts c m⟩] else []
  else if m.role = "tool" then [⟨"user", [responsePart c tools m]⟩]
  else [⟨"user", [textPart m.content]⟩]

variable (c : Codec) (tools : List Tool)

lemma putMessage_contents (gr : GeminiRequest) (m : Message) :
    (putMessage c tools gr m).contents = gr.contents ++ contentOf c tools m := by
  unfold putMessage contentOf
  split
  · simp
  · split
    · split <;> simp
    · split <;> rfl

lemma toGeminiRequest_contents (req : AdapterRequest) :
    (toGeminiRequest c req).contents = req.messages.flatMap (contentOf c req.tools) := by
  have hfold : ∀ (ms : List Message) (gr : GeminiRequest),
      (ms.foldl (putMessage c req.tools) gr).contents =
        gr.contents ++ ms.flatMap (contentOf c req.tools) := by
    intro ms
    induction ms with
    | nil =>
      intro gr
      simp
    | cons m ms ih =>
      intro gr
      rw [foldl_cons, ih, putMessage_contents, flatMap_cons, append_assoc]
  exact (hfold _ _).trans (nil_append _)

variable (before : List Message) (m : Message)

lemma assistantParts_eq_nil_iff :
    (assistantParts c m).length = 0 ↔ m.content = "" ∧ m.toolCalls = [] := by
  by_cases hcontent : m.content = ""
  · simp [assistantParts]
  · simp [assistantParts]

lemma assistantParts_lays (hrole : m.role = "assistant") :
    Lays before m ⟨"model", assistantParts c m⟩ := by
  have htool : m.role ≠ "tool" := by
    rw [hrole]
    decide
  refine ⟨(if_pos hrole).symm, ?_, ?_, fun h => absurd h htool⟩
  · intro _
    by_cases hcontent : m.content = ""
    · simp [assistantParts, hcontent]
    · simp [assistantParts, hcontent, textPart]
  · intro _
    by_cases hcontent : m.content = ""
    · simp [assistantParts, hcontent]
    · simp [assistantParts, hcontent, textPart]

lemma responsePart_lays_iff (hrole : m.role = "tool") :
    Lays before m ⟨"user", [responsePart c tools m]⟩ ↔
      (m.toolCallID ≠ "" → m.toolCallID ∈ calledAs before m.toolCallID) := by
  have hname : m.toolCallID ≠ "" → responseName c tools m = m.toolCallID := by
    intro hid
    unfold responseName
    split
    · rfl
    · rw [if_neg hid]
  constructor
  · intro hlays hid
    obtain ⟨response, hparts, hcalled⟩ := hlays.result hrole hid
    have hsame : response.name = responseName c tools m := by
      have hpart := singleton_inj.mp hparts
      have hresponse := Option.some.inj (congrArg GeminiPart.functionResponse hpart)
      rw [← hresponse]
    rw [hsame, hname hid] at hcalled
    exact hcalled
  · intro hcalled
    refine ⟨?_, fun h => absurd hrole h, ?_, ?_⟩
    · rw [hrole]
      rfl
    · intro h
      rw [hrole] at h
      exact absurd h (by decide)
    intro _ hid
    refine ⟨_, rfl, ?_⟩
    rw [hname hid]
    exact hcalled hid

lemma contentOf_cases : (Silent m ∧ contentOf c tools m = []) ∨
      ¬ Silent m ∧ ∃ content, contentOf c tools m = [content] ∧
        (Lays before m content ↔ (m.role = "tool" → m.toolCallID ≠ "" →
          m.toolCallID ∈ calledAs before m.toolCallID)) := by
  unfold contentOf Silent
  by_cases hsystem : m.role = "system"
  · simp [hsystem]
  rw [if_neg hsystem]
  by_cases hassistant : m.role = "assistant"
  · rw [if_pos hassistant]
    have hnil := assistantParts_eq_nil_iff c m
    have htool : m.role ≠ "tool" := by
      rw [hassistant]
      decide
    by_cases hparts : (assistantParts c m).length = 0
    · have hsilent := hnil.mp hparts
      exact .inl ⟨.inr ⟨hassistant, hsilent⟩, if_neg (by omega)⟩
    refine .inr ⟨?_, _, if_pos (by omega), ?_⟩
    · rintro (h | ⟨-, h⟩)
      · exact hsystem h
      · exact hparts (hnil.mpr h)
    · exact iff_of_true (assistantParts_lays c before m hassistant) fun h => absurd h htool
  · rw [if_neg hassistant]
    have hspeaks : ¬ (m.role = "system" ∨ m.role = "assistant" ∧ m.content = "" ∧
        m.toolCalls = []) := by
      rintro (h | ⟨h, -⟩)
      · exact hsystem h
      · exact hassistant h
    by_cases htool : m.role = "tool"
    · refine .inr ⟨hspeaks, _, if_pos htool, ?_⟩
      rw [responsePart_lays_iff c tools before m htool]
      exact ⟨fun h _ => h, fun h => h htool⟩
    refine .inr ⟨hspeaks, _, if_neg htool, ?_⟩
    refine iff_of_true ⟨(if_neg hassistant).symm, ?_, fun h => absurd h hassistant,
      fun h => absurd h htool⟩ fun h => absurd h htool
    intro _
    simp [textPart]

lemma bound_cons_skip {before rest : List Message} {m : Message} {contents : List GeminiContent}
    (hsilent : Silent m) :
    Bound before (m :: rest) contents ↔ Bound (before ++ [m]) rest contents := by
  constructor
  · intro h
    cases h with
    | skip _ hrest => exact hrest
    | put hspeaks _ _ => exact absurd hsilent hspeaks
  · exact Bound.skip hsilent

lemma bound_cons_put {before rest : List Message} {m : Message} {content : GeminiContent}
    {contents : List GeminiContent} (hspeaks : ¬ Silent m) :
    Bound before (m :: rest) (content :: contents) ↔
      Lays before m content ∧ Bound (before ++ [m]) rest contents := by
  constructor
  · intro h
    cases h with
    | skip hsilent _ => exact absurd hsilent hspeaks
    | put _ hlays hrest => exact ⟨hlays, hrest⟩
  · rintro ⟨hlays, hrest⟩
    exact .put hspeaks hlays hrest

lemma bound_iff (rest : List Message) : Bound before rest (rest.flatMap (contentOf c tools)) ↔
      ∀ passed m after, rest = passed ++ m :: after → m.role = "tool" → m.toolCallID ≠ "" →
        m.toolCallID ∈ calledAs (before ++ passed) m.toolCallID := by
  induction rest generalizing before with
  | nil =>
    refine iff_of_true (.nil before) ?_
    intro passed m after heq
    simp at heq
  | cons m rest ih =>
    have hsplit : (∀ passed x after, m :: rest = passed ++ x :: after → x.role = "tool" →
          x.toolCallID ≠ "" → x.toolCallID ∈ calledAs (before ++ passed) x.toolCallID) ↔
        (m.role = "tool" → m.toolCallID ≠ "" → m.toolCallID ∈ calledAs before m.toolCallID) ∧
        ∀ passed x after, rest = passed ++ x :: after → x.role = "tool" → x.toolCallID ≠ "" →
          x.toolCallID ∈ calledAs ((before ++ [m]) ++ passed) x.toolCallID := by
      constructor
      · intro hall
        refine ⟨?_, ?_⟩
        · simpa using hall [] m rest rfl
        · intro passed x after heq
          simpa using hall (m :: passed) x after (by rw [heq]; rfl)
      · rintro ⟨hfirst, hrest⟩ passed x after heq
        cases passed with
        | nil =>
          obtain ⟨rfl, -⟩ := cons.inj heq
          simpa using hfirst
        | cons y passed =>
          obtain ⟨rfl, htail⟩ := cons.inj heq
          simpa using hrest passed x after htail
    rw [hsplit, flatMap_cons, ← ih]
    rcases contentOf_cases c tools before m with
      ⟨hsilent, hnone⟩ | ⟨hspeaks, content, hone, hlays⟩
    · have hnottool : m.role ≠ "tool" := by
        rintro htool
        rcases hsilent with h | ⟨h, -⟩
        · rw [htool] at h
          exact absurd h (by decide)
        · rw [htool] at h
          exact absurd h (by decide)
      rw [hnone, bound_cons_skip hsilent]
      exact (and_iff_right fun h => absurd h hnottool).symm
    · rw [hone, singleton_append, bound_cons_put hspeaks, hlays]

theorem gemini_bound_iff (c : Codec) (req : AdapterRequest) :
    Bound [] req.messages (toGeminiRequest c req).contents ↔ NamedById req.messages := by
  rw [toGeminiRequest_contents, bound_iff]
  rfl

def plainCodec : Codec where
  declaration _ := ⟨"", "", ""⟩
  functionName _ := ""
  choiceString _ := none
  choiceFunction _ := none
  object _ := none

def lookupTurn : List Message :=
  [textMessage "user" "Weather?",
    ⟨"assistant", "", "", [⟨none, "call_1", "function", "lookup", "", "", ""⟩], ""⟩,
    ⟨"tool", "sunny", "", [], "call_1"⟩]

def lookupRequest : AdapterRequest where
  model := "gemini-2.5-pro"
  messages := lookupTurn
  temperature := none
  topP := none
  maxTokens := none
  stream := false
  tools := []
  responseFormat := none
  nexusEval := none
  stop := []
  toolChoice := ""

theorem gemini_result_unbound : Answered lookupTurn ∧
      (((toGeminiRequest plainCodec lookupRequest).contents.flatMap GeminiContent.parts).filterMap
        GeminiPart.functionResponse).map GeminiFunctionResponse.name = ["call_1"] ∧
      calledAs lookupTurn "call_1" = ["lookup"] ∧
      ¬ Bound [] lookupRequest.messages (toGeminiRequest plainCodec lookupRequest).contents := by
  refine ⟨?_, by decide, by decide, ?_⟩
  · intro before m after heq htool _
    rcases before with _ | ⟨a, _ | ⟨b, _ | ⟨d, before⟩⟩⟩
    · obtain ⟨rfl, -⟩ := cons.inj heq
      exact absurd htool (by decide)
    · obtain ⟨rfl, -⟩ := cons.inj (cons.inj heq).2
      exact absurd htool (by decide)
    · cases heq
      decide
    · simp [lookupTurn] at heq
  · intro hbound
    have hnamed := (bound_iff plainCodec _ [] _).mp hbound (lookupTurn.take 2)
      ⟨"tool", "sunny", "", [], "call_1"⟩ [] rfl rfl (by decide)
    revert hnamed
    decide

/-! ## Streaming -/

structure GeminiCandidate where
  content : GeminiContent
  finishReason : String

structure GeminiUsage where
  promptTokenCount : Int
  candidatesTokenCount : Int
  totalTokenCount : Int

structure GeminiResponse where
  candidates : List GeminiCandidate
  usageMetadata : GeminiUsage

structure ResponseCodec where
  response : String → Option GeminiResponse
  marshal : Json.Fields → String
  toLower : String → String

def safeID (s : String) : String :=
  String.ofList (s.toList.map fun r =>
    if 'a' ≤ r ∧ r ≤ 'z' ∨ 'A' ≤ r ∧ r ≤ 'Z' ∨ '0' ≤ r ∧ r ≤ '9' then r else '_')

def mapGeminiFinish (c : ResponseCodec) (s : String) : String :=
  if s = "STOP" then "stop"
  else if s = "MAX_TOKENS" then "length"
  else if s = "SAFETY" ∨ s = "RECITATION" then "content_filter"
  else if s = "" then ""
  else c.toLower s

def unaryArguments (c : ResponseCodec) (call : GeminiFunctionCall) : String :=
  match call.args with
  | none => "\x7b\x7d"
  | some args => c.marshal args

def unaryCall (c : ResponseCodec) (model : String) (idx : ℕ) (call : GeminiFunctionCall) :
    ToolCall where
  index := none
  id := "call_" ++ safeID model ++ "_" ++ toString idx
  type := "function"
  functionName := call.name
  functionArguments := unaryArguments c call
  customName := ""
  customInput := ""

def unaryPart (c : ResponseCodec) (model : String) (acc : String × List ToolCall)
    (p : GeminiPart) : String × List ToolCall :=
  (acc.1 ++ p.text, match p.functionCall with
    | some call => acc.2 ++ [unaryCall c model acc.2.length call]
    | none => acc.2)

def geminiToOpenAI (c : ResponseCodec) (gr : GeminiResponse) (model id : String) (created : Int) :
    ChatCompletionResponse :=
  let folded := match gr.candidates with
    | [] => ("", [])
    | cand :: _ => cand.content.parts.foldl (unaryPart c model) ("", [])
  let finish := match gr.candidates with
    | [] => ""
    | cand :: _ => mapGeminiFinish c cand.finishReason
  { id
    object := "chat.completion"
    created
    model
    choices := [⟨0, ⟨"assistant", folded.1, "", folded.2, ""⟩, finish⟩]
    usage := { Usage.zero with
      promptTokens := gr.usageMetadata.promptTokenCount
      completionTokens := gr.usageMetadata.candidatesTokenCount
      totalTokens := gr.usageMetadata.totalTokenCount } }

structure StreamState where
  pendingByName : List (String × ToolCall)
  out : List StreamEvent

def pendingCall (model name : String) : ToolCall :=
  ⟨none, "call_" ++ safeID model ++ "_" ++ name, "function", name, "", "", ""⟩

def streamArguments (c : ResponseCodec) (call : GeminiFunctionCall) : String :=
  match call.args with
  | none => "null"
  | some args => c.marshal args

def putCall (c : ResponseCodec) (model : String) (created : Int) (finish : String)
    (st : StreamState) (call : GeminiFunctionCall) : StreamState :=
  let tc := (st.pendingByName.lookup call.name).getD (pendingCall model call.name)
  let tc := { tc with functionArguments := streamArguments c call }
  { pendingByName := (call.name, tc) :: st.pendingByName.filter (·.1 ≠ call.name)
    out := st.out ++ [chunkEvent model created ⟨"", "", [tc]⟩ finish none] }

def putPart (c : ResponseCodec) (model : String) (created : Int) (finish : String)
    (st : StreamState) (p : GeminiPart) : StreamState :=
  let st := if p.text ≠ "" then
    { st with out := st.out ++ [chunkEvent model created ⟨"", p.text, []⟩ finish none] } else st
  match p.functionCall with
  | some call => putCall c model created finish st call
  | none => st

def putResponse (c : ResponseCodec) (model : String) (created : Int) (st : StreamState)
    (gres : GeminiResponse) : StreamState :=
  match gres.candidates with
  | [] => st
  | cand :: _ =>
    let finish := mapGeminiFinish c cand.finishReason
    let st := cand.content.parts.foldl (putPart c model created finish) st
    if finish ≠ "" then
      let u := gres.usageMetadata
      let usage := if 0 < u.totalTokenCount then some { Usage.zero with
        promptTokens := u.promptTokenCount
        completionTokens := u.candidatesTokenCount
        totalTokens := u.totalTokenCount } else none
      { st with out := st.out ++ [chunkEvent model created ⟨"", "", []⟩ finish usage] }
    else st

def responses (c : ResponseCodec) (lines : List String) : List GeminiResponse :=
  lines.filterMap fun line => (dataLine line).bind c.response

def chatCompletionStream (c : ResponseCodec) (model : String) (created : Int)
    (lines : List String) (scanErr : Option String) : List StreamEvent :=
  ((responses c lines).foldl (putResponse c model created) ⟨[], []⟩).out ++
    [match scanErr with
      | some err => ⟨none, none, some err, false⟩
      | none => ⟨none, none, none, true⟩]

def GeminiResponse.parts (gr : GeminiResponse) : List GeminiPart :=
  (gr.candidates.head?.map fun cand => cand.content.parts).getD []

def callsOf (parts : List GeminiPart) : List GeminiFunctionCall :=
  parts.filterMap GeminiPart.functionCall

def textOf (parts : List GeminiPart) : String := String.join (parts.map GeminiPart.text)

def fragment (c : ResponseCodec) (model : String) (call : GeminiFunctionCall) : ToolCall :=
  { pendingCall model call.name with functionArguments := streamArguments c call }

structure Sent (c : ResponseCodec) (model : String) (parts : List GeminiPart) (st : StreamState) :
    Prop where
  text : sentText st.out = textOf parts
  calls : sentCalls st.out = (callsOf parts).map (fragment c model)
  pending : ∀ e ∈ st.pendingByName,
    ∃ arguments, e.2 = { pendingCall model e.1 with functionArguments := arguments }

section
variable {c : ResponseCodec} {model : String} {created : Int} {parts : List GeminiPart}
variable {st : StreamState}

lemma callsOf_append (ps qs : List GeminiPart) :
    callsOf (ps ++ qs) = callsOf ps ++ callsOf qs := filterMap_append

variable (hst : Sent c model parts st)
include hst

lemma Sent.congr {parts' : List GeminiPart}
    (htext : textOf parts = textOf parts') (hcalls : callsOf parts = callsOf parts') :
    Sent c model parts' st :=
  ⟨hst.text.trans htext, hcalls ▸ hst.calls, hst.pending⟩

lemma Sent.say (finish text : String) (usage : Option Usage) :
    Sent c model (parts ++ [textPart text])
      { st with out := st.out ++ [chunkEvent model created ⟨"", text, []⟩ finish usage] } := by
  refine ⟨?_, ?_, hst.pending⟩
  · rw [sentText_snoc, hst.text]
    simp [textOf, textPart]
  · rw [sentCalls_snoc, hst.calls]
    simp [callsOf, textPart]

variable (finish : String)

lemma Sent.call (call : GeminiFunctionCall) :
    Sent c model (parts ++ [⟨"", some call, none⟩]) (putCall c model created finish st call) := by
  have hput : putCall c model created finish st call =
      ⟨(call.name, fragment c model call) :: st.pendingByName.filter (·.1 ≠ call.name),
        st.out ++ [chunkEvent model created ⟨"", "", [fragment c model call]⟩ finish none]⟩ := by
    unfold putCall
    cases hlook : st.pendingByName.lookup call.name with
    | none => rfl
    | some tc =>
      obtain ⟨arguments, htc⟩ := hst.pending (call.name, tc) (Go.mem_of_lookup hlook)
      simp only at htc
      rw [htc]
      rfl
  rw [hput]
  refine ⟨?_, ?_, ?_⟩
  · rw [sentText_snoc, hst.text]
    simp [textOf]
  · rw [sentCalls_snoc, callsOf_append, map_append, hst.calls]
    rfl
  intro e he
  rcases mem_cons.mp he with rfl | hold
  · exact ⟨streamArguments c call, rfl⟩
  · exact hst.pending e (mem_filter.mp hold).1

lemma Sent.part (p : GeminiPart) :
    Sent c model (parts ++ [p]) (putPart c model created finish st p) := by
  have htext : Sent c model (parts ++ [textPart p.text])
      (if p.text ≠ "" then
        { st with out := st.out ++ [chunkEvent model created ⟨"", p.text, []⟩ finish none] }
        else st) := by
    by_cases hempty : p.text = ""
    · rw [hempty]
      refine hst.congr ?_ ?_
      · simp [textOf, textPart]
      · simp [callsOf, textPart]
    · rw [if_pos hempty]
      exact hst.say finish p.text none
  unfold putPart
  cases hcall : p.functionCall with
  | none =>
    refine htext.congr ?_ ?_
    · simp [textOf, textPart]
    · simp [callsOf, textPart, hcall]
  | some call =>
    refine (htext.call finish call).congr ?_ ?_
    · simp [textOf, textPart]
    · simp [callsOf, textPart, hcall]

lemma Sent.putParts (ps : List GeminiPart) :
    Sent c model (parts ++ ps) (ps.foldl (putPart c model created finish) st) := by
  induction ps generalizing parts st with
  | nil => simpa using hst
  | cons p ps ih => simpa using ih (hst.part finish p)

lemma Sent.response (gres : GeminiResponse) :
    Sent c model (parts ++ gres.parts) (putResponse c model created st gres) := by
  unfold putResponse GeminiResponse.parts
  cases gres.candidates with
  | nil => simpa using hst
  | cons cand rest =>
    have hparts : Sent c model (parts ++ cand.content.parts) (cand.content.parts.foldl
        (putPart c model created (mapGeminiFinish c cand.finishReason)) st) :=
      hst.putParts _ _
    simp only [head?_cons]
    split
    · refine (hparts.say _ "" _).congr ?_ ?_
      · simp [textOf, textPart]
      · simp [callsOf, textPart]
    · exact hparts

lemma Sent.responses (rs : List GeminiResponse) :
    Sent c model (parts ++ rs.flatMap GeminiResponse.parts)
      (rs.foldl (putResponse c model created) st) := by
  induction rs generalizing parts st with
  | nil => simpa using hst
  | cons r rs ih => simpa using ih (hst.response r)

end

lemma clientFold_stream (c : ResponseCodec) (model : String) (created : Int)
    (lines : List String) (scanErr : Option String) :
    (clientFold (chunksOf (chatCompletionStream c model created lines scanErr))).content =
        textOf ((responses c lines).flatMap GeminiResponse.parts) ∧
      (clientFold (chunksOf (chatCompletionStream c model created lines scanErr))).calls =
        ((callsOf ((responses c lines).flatMap GeminiResponse.parts)).map
          (fragment c model)).foldl foldCall [] := by
  have hstart : Sent c model [] ⟨[], []⟩ :=
    ⟨rfl, rfl, fun _ he => absurd he not_mem_nil⟩
  have hsent : Sent c model ([] ++ (Gemini.responses c lines).flatMap GeminiResponse.parts)
      ((Gemini.responses c lines).foldl (putResponse c model created) ⟨[], []⟩) :=
    hstart.responses _
  have htext := hsent.text
  have hcalls := hsent.calls
  unfold chatCompletionStream
  rw [clientFold_sent _ (by cases scanErr <;> rfl)]
  exact ⟨htext, congrArg (foldl foldCall []) hcalls⟩

lemma foldl_unaryPart (c : ResponseCodec) (model : String) (parts : List GeminiPart)
    (acc : String × List ToolCall) :
    (parts.foldl (unaryPart c model) acc).1 = acc.1 ++ textOf parts ∧
      ((parts.foldl (unaryPart c model) acc).2.map
        fun tc => (tc.functionName, tc.functionArguments)) =
        (acc.2.map fun tc => (tc.functionName, tc.functionArguments)) ++
          (callsOf parts).map fun call => (call.name, unaryArguments c call) := by
  induction parts generalizing acc with
  | nil => simp [textOf, callsOf]
  | cons p parts ih =>
    obtain ⟨htext, hcalls⟩ := ih (unaryPart c model acc p)
    rw [foldl_cons, htext, hcalls]
    refine ⟨?_, ?_⟩
    · simp [unaryPart, textOf, String.append_assoc]
    · cases hcall : p.functionCall with
      | none => simp [unaryPart, callsOf, hcall]
      | some call => simp [unaryPart, callsOf, hcall, unaryCall]

structure Agrees (f : Folded) (resp : ChatCompletionResponse) : Prop where
  content : resp.choices.map (fun ch => ch.message.content) = [f.content]
  calls : resp.choices.flatMap (fun ch => ch.message.toolCalls.map fun tc =>
    (tc.functionName, tc.functionArguments)) = f.calls.map fun e => (e.2.name, e.2.arguments)
  ids : (f.calls.map fun e => e.2.id).Nodup

lemma calls_agree_iff (c : ResponseCodec) (model : String) (calls : List GeminiFunctionCall) :
    ((calls.map fun call => (call.name, unaryArguments c call)) =
        ((calls.map (fragment c model)).foldl foldCall []).map
          (fun e => (e.2.name, e.2.arguments)) ∧
      (((calls.map (fragment c model)).foldl foldCall []).map fun e => e.2.id).Nodup) ↔
      calls.length ≤ 1 ∧ ∀ call ∈ calls, call.args ≠ none := by
  match calls with
  | [] => simp
  | [call] =>
    have hfold : [fragment c model call].foldl foldCall [] =
        [(0, ⟨(pendingCall model call.name).id, call.name, streamArguments c call⟩)] := rfl
    have hargs : unaryArguments c call = streamArguments c call ↔ call.args ≠ none := by
      unfold unaryArguments streamArguments
      cases call.args with
      | none => simp
      | some args => simp
    simp [hfold, hargs]
  | call :: call' :: rest =>
    obtain ⟨id, name, hfold⟩ := calls_unindexed (fragment c model call)
      ((call' :: rest).map (fragment c model)) (by
        intro t ht
        rw [← map_cons] at ht
        obtain ⟨x, -, rfl⟩ := mem_map.mp ht
        rfl)
    rw [← map_cons] at hfold
    refine iff_of_false ?_ ?_
    · rintro ⟨hsame, -⟩
      rw [hfold] at hsame
      simpa using congrArg length hsame
    · rintro ⟨hlength, -⟩
      simp at hlength

theorem gemini_stream_agrees_iff (c : ResponseCodec) (model id : String) (created created' : Int)
    (lines : List String) (scanErr : Option String) (gr : GeminiResponse)
    (hone : gr.candidates ≠ [])
    (hall : (responses c lines).flatMap GeminiResponse.parts = gr.parts) :
    Agrees (clientFold (chunksOf (chatCompletionStream c model created lines scanErr)))
        (geminiToOpenAI c gr model id created') ↔
      (callsOf gr.parts).length ≤ 1 ∧ ∀ call ∈ callsOf gr.parts, call.args ≠ none := by
  obtain ⟨hcontent, hcalls⟩ := clientFold_stream c model created lines scanErr
  rw [hall] at hcontent hcalls
  obtain ⟨cand, rest, hcand⟩ := exists_cons_of_ne_nil hone
  have hparts : gr.parts = cand.content.parts := by
    simp [GeminiResponse.parts, hcand]
  obtain ⟨htext, hunary⟩ := foldl_unaryPart c model gr.parts ("", [])
  have hchoices : (geminiToOpenAI c gr model id created').choices =
      [⟨0, ⟨"assistant", (gr.parts.foldl (unaryPart c model) ("", [])).1, "",
        (gr.parts.foldl (unaryPart c model) ("", [])).2, ""⟩,
        mapGeminiFinish c cand.finishReason⟩] := by
    simp only [geminiToOpenAI, hcand, hparts]
  rw [← calls_agree_iff c model (callsOf gr.parts), ← hcalls]
  constructor
  · intro hagrees
    have hsame := hagrees.calls
    simp only [hchoices, flatMap_cons, flatMap_nil, append_nil, hunary,
      map_nil, nil_append] at hsame
    exact ⟨hsame, hagrees.ids⟩
  · rintro ⟨hsame, hids⟩
    refine ⟨?_, ?_, hids⟩
    · simp only [hchoices, map_cons, map_nil, htext, hcontent, String.empty_append]
    · simp only [hchoices, flatMap_cons, flatMap_nil, append_nil, hunary]
      exact hsame

/-- A response on the wire with its value, from the text of its parts. -/
def sent (text finish : String) (parts : List GeminiPart) : String × GeminiResponse :=
  ("\"candidates\":[" ++ object ("\"content\":" ++
    object ("\"role\":\"model\",\"parts\":[" ++ text ++ "]") ++ ",\"finishReason\":\"" ++ finish ++
    "\"") ++ "]", ⟨[⟨⟨"model", parts⟩, finish⟩], ⟨0, 0, 0⟩⟩)

def lookupCall : GeminiPart := ⟨"", some ⟨"lookup", some []⟩, none⟩

def lookupText : String :=
  object ("\"functionCall\":" ++ object "\"name\":\"lookup\",\"args\":\x7b\x7d")

def looking : String × GeminiResponse :=
  sent (object "\"text\":\"Looking.\"") "" [textPart "Looking."]

def lookup : String × GeminiResponse := sent lookupText "STOP" [lookupCall]

def lookups : String × GeminiResponse :=
  sent (lookupText ++ "," ++ lookupText) "STOP" [lookupCall, lookupCall]

def twoCallsCodec : ResponseCodec where
  response := decodeAmong [looking, lookup, lookups]
  marshal _ := "\x7b\x7d"
  toLower s := s

def oneCall : GeminiResponse :=
  ⟨[⟨⟨"model", [textPart "Looking.", lookupCall]⟩, "STOP"⟩], ⟨0, 0, 0⟩⟩

lemma responses_oneCall : responses twoCallsCodec (wire [looking, lookup]) =
    [looking.2, lookup.2] := by
  have hne : object looking.1 ≠ object lookup.1 := by decide +kernel
  exact filterMap_wire (by simp [twoCallsCodec, decodeAmong, hne])

def twoCalls : GeminiResponse := lookups.2

lemma responses_twoCalls : responses twoCallsCodec (wire [lookups]) = [twoCalls] := by
  have hlooking : object looking.1 ≠ object lookups.1 := by decide +kernel
  have hlookup : object lookup.1 ≠ object lookups.1 := by decide +kernel
  exact filterMap_wire (by simp [twoCallsCodec, decodeAmong, hlooking, hlookup])

theorem gemini_stream_agrees_oneCall : oneCall.candidates ≠ [] ∧
      (responses twoCallsCodec (wire [looking, lookup])).flatMap GeminiResponse.parts =
        oneCall.parts ∧
      Agrees (clientFold (chunksOf (chatCompletionStream twoCallsCodec "gemini-2.5-pro" 0
          (wire [looking, lookup]) none)))
        (geminiToOpenAI twoCallsCodec oneCall "gemini-2.5-pro" "chatcmpl-0" 0) := by
  have hone : oneCall.candidates ≠ [] := cons_ne_nil _ _
  have hall : (responses twoCallsCodec (wire [looking, lookup])).flatMap GeminiResponse.parts =
      oneCall.parts := by
    rw [responses_oneCall]
    rfl
  refine ⟨hone, hall, (gemini_stream_agrees_iff _ _ _ _ _ _ _ _ hone hall).mpr ?_⟩
  simp [oneCall, lookupCall, GeminiResponse.parts, callsOf, textPart]

theorem gemini_stream_two_calls :
    (responses twoCallsCodec (wire [lookups])).flatMap GeminiResponse.parts = twoCalls.parts ∧
      (clientFold (chunksOf (chatCompletionStream twoCallsCodec "gemini-2.5-pro" 0
        (wire [lookups]) none))).calls =
        [(0, ⟨"call_gemini_2_5_pro_lookup", "lookup", "\x7b\x7d\x7b\x7d"⟩)] ∧
      ¬ Agrees (clientFold (chunksOf (chatCompletionStream twoCallsCodec "gemini-2.5-pro" 0
          (wire [lookups]) none)))
        (geminiToOpenAI twoCallsCodec twoCalls "gemini-2.5-pro" "chatcmpl-0" 0) := by
  have hcalls : (clientFold (chunksOf (chatCompletionStream twoCallsCodec "gemini-2.5-pro" 0
      (wire [lookups]) none))).calls =
        [(0, ⟨"call_gemini_2_5_pro_lookup", "lookup", "\x7b\x7d\x7b\x7d"⟩)] := by
    rw [chatCompletionStream, responses_twoCalls]
    decide
  refine ⟨by rw [responses_twoCalls]; rfl, hcalls, ?_⟩
  intro hagrees
  have hsame := congrArg length hagrees.calls
  rw [hcalls] at hsame
  revert hsame
  decide

end FfxNexus.Adapters.Gemini
