/-
**The Messages surface, from the body on** (`internal/gateway/messages.go`).
-/
import FfxNexus.Dispatch

namespace FfxNexus.MessagesApi
open Interaction Schema Providers Guardrails Gateway Chat Translated Endpoints Dispatch List
open Interaction.Prog hiding perform

structure MessagesToolUse where
  id : String
  name : String
  input : String
deriving DecidableEq

structure MessagesToolResult where
  toolUseID : String
  content : String
  isError : Bool
deriving DecidableEq

structure MessagesDocument where
  type : String
  mediaType : String
  data : String
  url : String
deriving DecidableEq

structure MessagesMsg where
  role : String
  text : String
  toolUse : List MessagesToolUse
  toolResult : List MessagesToolResult
  documents : List MessagesDocument
deriving DecidableEq

def MessagesMsg.zero : MessagesMsg := ⟨"", "", [], [], []⟩

structure MessagesTool where
  name : String
  description : String
  inputSchema : Option String
deriving DecidableEq

structure RawMsg where
  role : String
  content : String

structure Wire (μ : Type) where
  model : String
  maxTokens : Int
  system : String
  messages : List μ
  tools : List MessagesTool
  stream : Bool
  temperature : Option ℚ
  topP : Option ℚ
  nexusEval : Option NexusEvalContext
deriving DecidableEq

abbrev MessagesRequest : Type := Wire MessagesMsg

structure Probe where
  type : String
  text : String
  id : String
  name : String
  input : String
  toolUseID : String
  content : String
  isError : Bool
  source : String
  mediaType : String
  data : String
  url : String

structure ImageSource where
  mediaType : String
  data : String
  url : String

structure SystemBlock where
  type : String
  text : String

structure Unmarshal where
  string : String → Except String String
  systemBlocks : String → Except String (List SystemBlock)
  rawList : String → Except String (List String)
  probe : String → Option Probe
  imageSource : String → ImageSource
  nestedTool : String → Option (String × String)
  marshalFunction : (name description parameters : String) → String

def opensWith (c : Char) (raw : String) : Bool := (trimSpace raw.toList).head? = some c

def isBlank (raw : String) : Bool :=
  trimSpace raw.toList = [] ∨ trimSpace raw.toList = "null".toList

def firstNonEmpty (a b : String) : String := if a ≠ "" then a else b

variable (j : Unmarshal)

def MessagesMsg.addBlock (msg : MessagesMsg) (blk : String) : MessagesMsg :=
  match j.probe blk with
  | none => msg
  | some probe =>
    if probe.type = "text" then
      if probe.text = "" then msg
      else { msg with
        text := (if msg.text = "" then "" else msg.text ++ "\n") ++ probe.text }
    else if probe.type = "tool_use" then
      { msg with toolUse := msg.toolUse ++ [⟨probe.id, probe.name, probe.input⟩] }
    else if probe.type = "tool_result" then
      { msg with
        toolResult := msg.toolResult ++ [⟨probe.toolUseID, probe.content, probe.isError⟩] }
    else if probe.type = "image" then
      let src := j.imageSource probe.source
      { msg with
        documents := msg.documents ++ [⟨"image", firstNonEmpty src.mediaType probe.mediaType,
          firstNonEmpty src.data probe.data, firstNonEmpty src.url probe.url⟩] }
    else msg

def decodeMessages (raw : String) : Except String MessagesMsg :=
  if isBlank raw then .ok .zero
  else if opensWith '"' raw then
    match j.string raw with
    | .error err => .error err
    | .ok s => .ok { MessagesMsg.zero with text := s }
  else if opensWith '[' raw = false then
    .error "content must be a string or an array of blocks"
  else
    match j.rawList raw with
    | .error err => .error ("content blocks decode: " ++ err)
    | .ok blocks => .ok (blocks.foldl (MessagesMsg.addBlock j) .zero)

def RawMsg.unmarshal (j : Unmarshal) (m : RawMsg) : Except String MessagesMsg :=
  if m.content = "" then .ok { MessagesMsg.zero with role := m.role }
  else (decodeMessages j m.content).map fun msg => { msg with role := m.role }

def Wire.unmarshal (j : Unmarshal) (raw : Wire RawMsg) : Except String MessagesRequest :=
  (raw.messages.mapM (RawMsg.unmarshal j)).map fun msgs => { raw with messages := msgs }

def decodeSystem (j : Unmarshal) (raw : String) : Except String String :=
  if isBlank raw then .ok ""
  else if opensWith '"' raw then j.string raw
  else if opensWith '[' raw = false then
    .error "system must be a string or array of blocks"
  else
    match j.systemBlocks raw with
    | .error err => .error ("system blocks decode: " ++ err)
    | .ok blocks => .ok (String.intercalate "\n\n"
        ((blocks.filter fun blk => blk.type = "text" ∧ blk.text ≠ "").map SystemBlock.text))

def stringOr (raw fallback : String) : String :=
  if isBlank raw then fallback
  else if opensWith '"' raw then
    match j.string raw with
    | .ok s => s
    | .error _ => raw
  else raw

def encodeImageSource (doc : MessagesDocument) : String :=
  if doc.type ≠ "image" then ""
  else if doc.url ≠ "" then doc.url
  else if doc.data ≠ "" then
    "data:" ++ firstNonEmpty doc.mediaType "image/png" ++ ";base64," ++ doc.data
  else ""

def encodeMaxTokens (src : Int) : Option Int := some (if src ≤ 0 then 4096 else src)

def nestedTool (j : Unmarshal) (name : String) : Option Tool :=
  match j.nestedTool name with
  | some (type, function) => if type = "" then none else some ⟨type, function, ""⟩
  | none => none

def encodeTool (j : Unmarshal) (t : MessagesTool) : Option Tool :=
  match t.inputSchema with
  | some schema =>
    if t.name ≠ "" then some ⟨"function", j.marshalFunction t.name t.description schema, ""⟩
    else nestedTool j t.name
  | none => nestedTool j t.name

def encodeTools (j : Unmarshal) (tools : List MessagesTool) : List Tool :=
  (tools.mapM (encodeTool j)).getD []

def canonicalMessages (j : Unmarshal) (m : MessagesMsg) : List Message :=
  let text := String.ofList (trimSpace m.text.toList)
  (if text = "" then [] else [textMessage m.role text]) ++
    (m.toolUse.map fun tu =>
      ⟨"assistant", "", "", [⟨none, tu.id, "function", tu.name, stringOr j tu.input "\x7b\x7d",
        "", ""⟩], ""⟩) ++
    (m.toolResult.map fun tr => ⟨"tool", stringOr j tr.content "", "", [], tr.toolUseID⟩) ++
    ((m.documents.map encodeImageSource).filter (· ≠ "")).map (textMessage m.role)

def systemMessages (j : Unmarshal) (raw : String) : List Message :=
  match decodeSystem j raw with
  | .ok s => if s = "" then [] else [textMessage "system" s]
  | .error _ => []

def messagesToChat (j : Unmarshal) (req : MessagesRequest) : ChatCompletionRequest where
  model := req.model
  messages := systemMessages j req.system ++ req.messages.flatMap (canonicalMessages j)
  temperature := req.temperature
  topP := req.topP
  maxTokens := encodeMaxTokens req.maxTokens
  stream := req.stream
  tools := encodeTools j req.tools
  responseFormat := none
  nexusEval := req.nexusEval

def translate (j : Unmarshal) (body : Except String (Wire RawMsg)) :
    Except String Translated.MessagesRequest :=
  match body.bind (Wire.unmarshal j) with
  | .error err => .error ("invalid JSON body: " ++ err)
  | .ok req => .ok ⟨req.model, req.messages.length, req.stream, .ok (messagesToChat j req)⟩

def Uncalled {α : Type} (env : Env) (p : GProg α) : Prop :=
  ∀ log reply, p.Runs log reply → (∀ e ∈ log, env.assumption.rely e.1 e.2) → calls log = []

def Stopped (env : Env) (h : Handler) (ctx : Ctx) (flusher : Bool) (req : MessagesRequest) :
    Prop :=
  req.model = "" ∨ req.messages = [] ∨ pickResponsesChain h req.model = none ∨
    if req.stream then flusher = false
    else h.credResolver = true ∧ h.keyMode = .strictBYOK ∧
      ∀ refs ref, pickResponsesChain h req.model = some refs → refs.head? = some ref →
        ∃ err, env.answers ctx.orgID ctx.userID ref.provider.name = .failed err

lemma pickResponsesChain_head {h : Handler} {model : String} {refs : List ProviderRef}
    (hrefs : pickResponsesChain h model = some refs) : ∃ ref, refs.head? = some ref := by
  unfold pickResponsesChain at hrefs
  dsimp only at hrefs
  split_ifs at hrefs with hpos
  · obtain rfl := Option.some.inj hrefs
    rw [← Option.isSome_iff_exists, isSome_head?]
    exact length_pos_iff.mp hpos
  · rw [Option.map_eq_some_iff] at hrefs
    obtain ⟨ref, -, rfl⟩ := hrefs
    exact ⟨ref, rfl⟩

section
variable {env : Env} {h : Handler} {ctx : Ctx} {flusher : Bool}

lemma uncalled_serve_iff {req : Request} :
    Uncalled env (serve h ctx flusher req) ↔ ∀ c, ¬ MayCall env.assumption h ctx flusher req c := by
  have hmay := calls_iff_mayCall env.assumption (fun _ => False) h ctx flusher req
  unfold Uncalled
  simp only [eq_nil_iff_forall_not_mem]
  exact hmay

lemma uncalled_chat_of_blocked {req : ChatCompletionRequest}
    (hblocked : (checkInput h.guard (promptText req.messages)).blocked = true) :
    Uncalled env (serve h ctx flusher (.chat (.ok req))) := by
  rw [uncalled_serve_iff]
  rintro c ⟨req', stats, fwd, source, hadm, -⟩
  simp [admitted, hblocked] at hadm

lemma refused_iff {provider : String} {a : Option CredentialAnswer}
    (ha : LooksUp env.assumption h ctx provider a) :
    Refused h a ↔ h.credResolver = true ∧ h.keyMode = .strictBYOK ∧
      ∃ err, env.answers ctx.orgID ctx.userID provider = .failed err := by
  unfold LooksUp at ha
  unfold Refused
  split_ifs at ha with hlook
  · obtain ⟨_, rfl, rfl⟩ := ha
    simp [hlook.1]
  · subst ha
    constructor
    · rintro ⟨-, err, herr⟩
      cases herr
    · rintro ⟨hres, hmode, -⟩
      exact absurd ⟨hres, by rw [hmode]; decide⟩ hlook

lemma not_translatedCall_iff {stream : Bool} {chat : ChatCompletionRequest} :
    (∀ c, ¬ TranslatedCall env.assumption h ctx flusher stream chat c) ↔
      pickResponsesChain h chat.model = none ∨ if stream then flusher = false
        else h.credResolver = true ∧ h.keyMode = .strictBYOK ∧
          ∀ refs ref, pickResponsesChain h chat.model = some refs → refs.head? = some ref →
            ∃ err, env.answers ctx.orgID ctx.userID ref.provider.name = .failed err := by
  cases hrefs : pickResponsesChain h chat.model with
  | none =>
    simp only [true_or, iff_true]
    intro c
    exact not_translatedCall_of_none hrefs
  | some refs =>
    obtain ⟨ref, href⟩ := pickResponsesChain_head hrefs
    obtain ⟨a, ha⟩ := looksUp_some env.assumption h ctx ref.provider.name
    simp only [reduceCtorEq, false_or]
    cases stream with
    | true =>
      rw [if_pos rfl]
      constructor
      · intro hnone
        by_contra hflush
        rw [Bool.not_eq_false] at hflush
        exact hnone _ ⟨refs, ref, a, hrefs, ha, rfl, hflush, mem_of_head? href⟩
      · rintro rfl c
        exact not_translatedCall_of_no_flusher
    | false =>
      constructor
      · intro hnone
        have hrefused : Refused h a := by
          by_contra hr
          exact hnone _ ⟨refs, ref, a, hrefs, ha, rfl, href, hr⟩
        obtain ⟨hres, hmode, herr⟩ := (refused_iff ha).mp hrefused
        refine ⟨hres, hmode, ?_⟩
        intro refs' ref' hrefs' href'
        obtain rfl := Option.some.inj hrefs'
        obtain rfl := Option.some.inj (href.symm.trans href')
        exact herr
      · rintro ⟨hres, hmode, herr⟩ c ⟨refs', ref', a', hrefs', ha', -, href', hr⟩
        rw [hrefs] at hrefs'
        exact hr ((refused_iff ha').mpr ⟨hres, hmode, herr refs' ref' hrefs' href'⟩)

end

lemma uncalled_messages_iff {j : Unmarshal} {env : Env} {h : Handler} {ctx : Ctx}
    {flusher : Bool} {body : Except String (Wire RawMsg)} {req : MessagesRequest}
    (hreq : body.bind (Wire.unmarshal j) = .ok req) :
    Uncalled env (serve h ctx flusher (.messages (translate j body))) ↔
      Stopped env h ctx flusher req := by
  have hbody : translate j body =
      .ok ⟨req.model, req.messages.length, req.stream, .ok (messagesToChat j req)⟩ := by
    unfold translate
    rw [hreq]
  rw [uncalled_serve_iff, hbody]
  unfold Stopped
  by_cases hmodel : req.model = ""
  · simp [MayCall, messagesChat, hmodel]
  by_cases hmsgs : req.messages = []
  · simp [MayCall, messagesChat, hmsgs]
  have hchat : messagesChat
      (.ok ⟨req.model, req.messages.length, req.stream, .ok (messagesToChat j req)⟩) =
        some (req.stream, messagesToChat j req) := by
    simp [messagesChat, hmodel, hmsgs]
  simp only [hmodel, hmsgs, false_or, MayCall, hchat, Option.some.injEq, exists_eq_left']
  exact not_translatedCall_iff

theorem blocked_unserved_iff (j : Unmarshal) (env : Env) (h : Handler) (ctx : Ctx)
    (flusher : Bool) (body : Except String (Wire RawMsg)) (req : MessagesRequest)
    (hreq : body.bind (Wire.unmarshal j) = .ok req)
    (hblocked : (checkInput h.guard (promptText (messagesToChat j req).messages)).blocked = true) :
    Uncalled env (serve h ctx flusher (.chat (.ok (messagesToChat j req)))) ∧
      (Uncalled env (serve h ctx flusher (.messages (translate j body))) ↔
        Stopped env h ctx flusher req) :=
  ⟨uncalled_chat_of_blocked hblocked, uncalled_messages_iff hreq⟩

def sampleGuard : Guard :=
  ⟨⟨false, false, 4, false⟩, [], ⟨noMatch, noMatch, noMatch, noMatch⟩,
    ⟨fun _ => none, fun _ => false, fun _ _ => none⟩⟩

def sampleHandler : Handler :=
  { newHandler (newRegistry.register ⟨1, "anthropic", none, none, none⟩ ["claude"]) true false
      blankCodec blankText with
    guard := some sampleGuard }

def quotesOnly : Unmarshal where
  string s := .ok (String.ofList (s.toList.tail.dropLast))
  systemBlocks _ := .error "unexpected"
  rawList _ := .error "unexpected"
  probe _ := none
  imageSource _ := ⟨"", "", ""⟩
  nestedTool _ := none
  marshalFunction _ _ _ := ""

def sampleBody (stream : Bool) : Wire RawMsg :=
  ⟨"claude", 100, "", [⟨"user", "\"hello there\""⟩], [], stream, none, none, none⟩

def sampleRequest (stream : Bool) : MessagesRequest :=
  ⟨"claude", 100, "", [⟨"user", "hello there", [], [], []⟩], [], stream, none, none, none⟩

theorem blocked_unserved_iff_sample : Uncalled noKeys (serve sampleHandler caller false
      (.messages (translate quotesOnly (.ok (sampleBody true))))) :=
  (blocked_unserved_iff quotesOnly noKeys sampleHandler caller false (.ok (sampleBody true))
    (sampleRequest true) (by decide) (by decide)).2.mpr
    (.inr (.inr (.inr rfl)))

theorem blocked_request_served : (checkInput sampleHandler.guard
        (promptText (messagesToChat quotesOnly (sampleRequest false)).messages)).blocked = true ∧
      ∃ log reply, (serve sampleHandler caller true
          (.messages (translate quotesOnly (.ok (sampleBody false))))).Runs log reply ∧
        (∀ e ∈ log, noKeys.assumption.rely e.1 e.2) ∧
        calls log = [⟨"claude", ⟨1, "anthropic", none, none, none⟩, caller⟩] :=
  ⟨by decide, _, _, execute_runs noKeys.oracle _, noKeys.execute_relies _,
    by decide⟩

def Exchanges (pending : List String) : List MessagesMsg → Prop
  | [] => pending = []
  | m :: rest =>
    (m.role = "user" ∧ m.toolUse = [] ∧
      (m.toolResult.map MessagesToolResult.toolUseID).Perm pending ∧ Exchanges [] rest) ∨
    (m.role = "assistant" ∧ m.toolResult = [] ∧ pending = [] ∧
      Exchanges (m.toolUse.map MessagesToolUse.id) rest)

def replies (msgs : List Message) : List String :=
  (msgs.takeWhile fun m => m.role = "tool").map Message.toolCallID

def ChatRule : List Message → Prop
  | [] => True
  | m :: rest =>
    (m.role = "assistant" → m.toolCalls ≠ [] →
      (replies rest).Perm (m.toolCalls.map ToolCall.id)) ∧ ChatRule rest

def OneByOne : List MessagesMsg → Prop
  | m :: n :: rest =>
    (m.toolUse ≠ [] → m.toolUse.length = 1 ∧
      (∀ doc ∈ m.documents, encodeImageSource doc = "") ∧ trimSpace n.text.toList = []) ∧
    OneByOne (n :: rest)
  | _ => True

section
variable (j : Unmarshal) (m : MessagesMsg)

def texts : List Message :=
  let text := String.ofList (trimSpace m.text.toList)
  if text = "" then [] else [textMessage m.role text]

def useCalls : List Message :=
  m.toolUse.map fun tu =>
    ⟨"assistant", "", "", [⟨none, tu.id, "function", tu.name, stringOr j tu.input "\x7b\x7d",
      "", ""⟩], ""⟩

def results : List Message :=
  m.toolResult.map fun tr => ⟨"tool", stringOr j tr.content "", "", [], tr.toolUseID⟩

def images : List Message :=
  ((m.documents.map encodeImageSource).filter (· ≠ "")).map (textMessage m.role)

lemma canonicalMessages_eq :
    canonicalMessages j m = texts m ++ useCalls j m ++ results j m ++ images m := rfl

lemma texts_eq_nil_iff : texts m = [] ↔ trimSpace m.text.toList = [] := by
  have hempty : String.ofList (trimSpace m.text.toList) = "" ↔ trimSpace m.text.toList = [] := by
    rw [← String.toList_eq_nil_iff, String.toList_ofList]
  rw [texts, ← hempty]
  split
  · rename_i htext
    exact iff_of_true rfl htext
  · rename_i htext
    exact iff_of_false (cons_ne_nil _ _) htext

lemma images_eq_nil_iff : images m = [] ↔ ∀ doc ∈ m.documents, encodeImageSource doc = "" := by
  simp [images]

end

def Own (m : MessagesMsg) (msg : Message) : Prop := msg.role = m.role ∧ msg.toolCalls = []

lemma own_texts (m : MessagesMsg) : ∀ msg ∈ texts m, Own m msg := by
  intro msg hmsg
  unfold texts at hmsg
  dsimp only at hmsg
  split at hmsg
  · cases hmsg
  · obtain rfl := mem_singleton.mp hmsg
    exact ⟨rfl, rfl⟩

lemma own_images (m : MessagesMsg) : ∀ msg ∈ images m, Own m msg := by
  intro msg hmsg
  obtain ⟨url, -, rfl⟩ := mem_map.mp hmsg
  exact ⟨rfl, rfl⟩

lemma replies_of_role {msg : Message} {rest : List Message} (h : msg.role ≠ "tool") :
    replies (msg :: rest) = [] := by
  rw [replies, takeWhile_cons_of_neg (by simpa using h)]
  rfl

lemma replies_append {front : List Message} (hfront : ∀ msg ∈ front, msg.role ≠ "tool")
    (rest : List Message) : replies (front ++ rest) = if front = [] then replies rest else [] := by
  cases front with
  | nil => rfl
  | cons msg front =>
    rw [if_neg (cons_ne_nil _ _), cons_append, replies_of_role (hfront msg mem_cons_self)]

lemma replies_results (j : Unmarshal) (m : MessagesMsg) (rest : List Message) :
    replies (results j m ++ rest) =
      m.toolResult.map MessagesToolResult.toolUseID ++ replies rest := by
  have hrole : ∀ msg ∈ results j m, decide (msg.role = "tool") = true := by
    intro msg hmsg
    obtain ⟨tr, -, rfl⟩ := mem_map.mp hmsg
    rfl
  rw [replies, takeWhile_append_of_pos hrole, map_append, results, map_map]
  rfl

lemma chatRule_append {front : List Message} (hfront : ∀ msg ∈ front, msg.toolCalls = [])
    (rest : List Message) : ChatRule (front ++ rest) ↔ ChatRule rest := by
  induction front with
  | nil => rfl
  | cons msg front ih =>
    obtain ⟨hmsg, hrest⟩ := forall_mem_cons.mp hfront
    rw [cons_append, ChatRule, ih hrest]
    exact and_iff_right fun _ hcalls => absurd hmsg hcalls

lemma chatRule_turn {j : Unmarshal} {m : MessagesMsg} (huse : m.toolUse = [])
    (rest : List Message) : ChatRule (canonicalMessages j m ++ rest) ↔ ChatRule rest := by
  apply chatRule_append
  intro msg hmsg
  rw [canonicalMessages_eq, useCalls, huse, map_nil, append_nil] at hmsg
  rcases mem_append.mp hmsg with hmsg | hmsg
  · rcases mem_append.mp hmsg with hmsg | hmsg
    · exact (own_texts m msg hmsg).2
    · obtain ⟨tr, -, rfl⟩ := mem_map.mp hmsg
      rfl
  · exact (own_images m msg hmsg).2

section
variable {j : Unmarshal}

lemma replies_idle {turns : List MessagesMsg} (h : Exchanges [] turns) :
    replies (turns.flatMap (canonicalMessages j)) = [] := by
  induction turns with
  | nil => rfl
  | cons m turns ih =>
    have hresults : m.toolResult = [] := by
      rcases h with ⟨-, -, hperm, -⟩ | ⟨-, hnone, -⟩
      · exact map_eq_nil_iff.mp (perm_nil.mp hperm)
      · exact hnone
    have hroles : ∀ msg ∈ canonicalMessages j m, msg.role ≠ "tool" := by
      have hturn : m.role ≠ "tool" := by
        rcases h with ⟨hrole, -⟩ | ⟨hrole, -⟩ <;> rw [hrole] <;> decide
      intro msg hmsg
      rw [canonicalMessages_eq, results, hresults, map_nil, append_nil] at hmsg
      rcases mem_append.mp hmsg with hmsg | hmsg
      · rcases mem_append.mp hmsg with hmsg | hmsg
        · rw [(own_texts m msg hmsg).1]
          exact hturn
        · obtain ⟨tu, -, rfl⟩ := mem_map.mp hmsg
          change "assistant" ≠ "tool"
          decide
      · rw [(own_images m msg hmsg).1]
        exact hturn
    rw [flatMap_cons, replies_append hroles]
    split
    · rename_i hempty
      have huse : m.toolUse = [] := by
        rw [canonicalMessages_eq] at hempty
        simp only [append_eq_nil_iff, useCalls, map_eq_nil_iff] at hempty
        exact hempty.1.1.2
      rcases h with ⟨-, -, -, hrest⟩ | ⟨-, -, -, hrest⟩
      · exact ih hrest
      · rw [huse] at hrest
        exact ih hrest
    · rfl

lemma replies_answer {n : MessagesMsg} {rest : List MessagesMsg} (hrole : n.role = "user")
    (huse : n.toolUse = []) (hrest : Exchanges [] rest) :
    replies (canonicalMessages j n ++ rest.flatMap (canonicalMessages j)) =
      if trimSpace n.text.toList = [] then n.toolResult.map MessagesToolResult.toolUseID
      else [] := by
  have hown : ∀ msg : Message, Own n msg → msg.role ≠ "tool" := by
    intro msg hmsg
    rw [hmsg.1, hrole]
    decide
  have hbehind : replies (images n ++ rest.flatMap (canonicalMessages j)) = [] := by
    rw [replies_append fun msg hmsg => hown msg (own_images n msg hmsg), replies_idle hrest]
    exact ite_self _
  rw [canonicalMessages_eq, useCalls, huse, map_nil, append_nil, append_assoc,
    append_assoc, replies_append fun msg hmsg => hown msg (own_texts n msg hmsg),
    replies_results, hbehind, append_nil]
  exact if_congr (texts_eq_nil_iff n) rfl rfl

lemma chatRule_exchange {m n : MessagesMsg} {rest : List MessagesMsg} (huse : m.toolUse ≠ [])
    (hrole : m.role = "assistant") (hresult : m.toolResult = [])
    (hrest : Exchanges (m.toolUse.map MessagesToolUse.id) (n :: rest)) :
    ChatRule (canonicalMessages j m ++ (n :: rest).flatMap (canonicalMessages j)) ↔
      (m.toolUse.length = 1 ∧ (∀ doc ∈ m.documents, encodeImageSource doc = "") ∧
        trimSpace n.text.toList = []) ∧ ChatRule ((n :: rest).flatMap (canonicalMessages j)) := by
  have himages : ∀ msg ∈ images m, msg.role ≠ "tool" := by
    intro msg hmsg
    rw [(own_images m msg hmsg).1, hrole]
    decide
  rw [canonicalMessages_eq, results, hresult, map_nil, append_nil, append_assoc,
    append_assoc, chatRule_append fun msg hmsg => (own_texts m msg hmsg).2, useCalls]
  cases hcalls : m.toolUse with
  | nil => exact absurd hcalls huse
  | cons tu more =>
    cases more with
    | cons tu' more =>
      simp only [map_cons, cons_append, ChatRule, length_cons]
      constructor
      · rintro ⟨hfirst, -⟩
        have hperm := (hfirst trivial (cons_ne_nil _ _)).length_eq
        cases hperm
      · rintro ⟨⟨hone, -⟩, -⟩
        omega
    | nil =>
      rw [hcalls] at hrest
      rcases hrest with ⟨hn, hnuse, hperm, htail⟩ | ⟨-, -, hpending, -⟩
      · simp only [map_cons, map_nil, cons_append, nil_append, ChatRule]
        rw [chatRule_append fun msg hmsg => (own_images m msg hmsg).2, replies_append himages,
          flatMap_cons, replies_answer hn hnuse htail]
        apply and_congr_left'
        rw [← images_eq_nil_iff]
        by_cases himage : images m = []
        · by_cases htext : trimSpace n.text.toList = []
          · rw [if_pos himage, if_pos htext]
            exact iff_of_true (fun _ _ => hperm) ⟨rfl, himage, htext⟩
          · rw [if_pos himage, if_neg htext]
            refine iff_of_false (fun h => ?_) fun h => htext h.2.2
            cases (h trivial (cons_ne_nil _ _)).length_eq
        · rw [if_neg himage]
          refine iff_of_false (fun h => ?_) fun h => himage h.2.1
          cases (h trivial (cons_ne_nil _ _)).length_eq
      · cases hpending

lemma chatRule_conversation {turns : List MessagesMsg} :
    ∀ {pending : List String}, Exchanges pending turns →
      (ChatRule (turns.flatMap (canonicalMessages j)) ↔ OneByOne turns) := by
  induction turns with
  | nil =>
    intro pending _
    rfl
  | cons m turns ih =>
    intro pending h
    have hskip : m.toolUse = [] → (OneByOne (m :: turns) ↔ OneByOne turns) := by
      intro huse
      cases turns with
      | nil => rfl
      | cons n rest =>
        exact and_iff_right fun hne => absurd huse hne
    rw [flatMap_cons]
    rcases h with ⟨-, huse, -, hrest⟩ | ⟨hrole, hresult, -, hrest⟩
    · rw [chatRule_turn huse, hskip huse]
      exact ih hrest
    by_cases huse : m.toolUse = []
    · rw [chatRule_turn huse, hskip huse]
      exact ih hrest
    cases turns with
    | nil => exact absurd (map_eq_nil_iff.mp hrest) huse
    | cons n rest =>
      rw [chatRule_exchange huse hrole hresult hrest, ih hrest]
      exact and_congr_left' (imp_iff_right huse).symm

end

theorem tool_exchange_iff (j : Unmarshal) (req : MessagesRequest)
    (hvalid : Exchanges [] req.messages) :
    ChatRule (messagesToChat j req).messages ↔ OneByOne req.messages := by
  have hsystem : ∀ msg ∈ systemMessages j req.system, msg.toolCalls = [] := by
    intro msg hmsg
    unfold systemMessages at hmsg
    split at hmsg
    · split at hmsg
      · cases hmsg
      · obtain rfl := mem_singleton.mp hmsg
        rfl
    · cases hmsg
  have hmessages : (messagesToChat j req).messages =
      systemMessages j req.system ++ req.messages.flatMap (canonicalMessages j) := rfl
  rw [hmessages, chatRule_append hsystem]
  exact chatRule_conversation hvalid

def asking (ids : List String) : MessagesRequest where
  model := "claude"
  maxTokens := 256
  system := ""
  messages := [⟨"user", "what's the weather?", [], [], []⟩,
    ⟨"assistant", "", ids.map fun id => ⟨id, "lookup", ""⟩, [], []⟩,
    ⟨"user", "", [], ids.map fun id => ⟨id, "\"foggy\"", false⟩, []⟩]
  tools := []
  stream := false
  temperature := none
  topP := none
  nexusEval := none

lemma exchanges_asking (ids : List String) : Exchanges [] (asking ids).messages := by
  refine .inl ⟨rfl, rfl, List.Perm.nil, .inr ⟨rfl, rfl, rfl, .inl ⟨rfl, rfl, ?_, rfl⟩⟩⟩
  simp [Function.comp_def]

theorem tool_exchange_single : Exchanges [] (asking ["toolu_1"]).messages ∧
      ChatRule (messagesToChat quotesOnly (asking ["toolu_1"])).messages :=
  ⟨exchanges_asking _, (tool_exchange_iff _ _ (exchanges_asking _)).mpr
    ⟨fun h => absurd rfl h, fun _ => ⟨rfl, fun _ h => (not_mem_nil h).elim, rfl⟩, trivial⟩⟩

theorem tool_exchange_split : Exchanges [] (asking ["toolu_1", "toolu_2"]).messages ∧
      (messagesToChat quotesOnly (asking ["toolu_1", "toolu_2"])).messages.map
        (fun m => (m.role, m.toolCalls.map ToolCall.id, m.toolCallID)) =
          [("user", [], ""), ("assistant", ["toolu_1"], ""), ("assistant", ["toolu_2"], ""),
            ("tool", [], "toolu_1"), ("tool", [], "toolu_2")] ∧
      ¬ ChatRule (messagesToChat quotesOnly (asking ["toolu_1", "toolu_2"])).messages := by
  have hsystem : systemMessages quotesOnly (asking ["toolu_1", "toolu_2"]).system = [] := by
    decide
  have hmessages : (messagesToChat quotesOnly (asking ["toolu_1", "toolu_2"])).messages =
      systemMessages quotesOnly (asking ["toolu_1", "toolu_2"]).system ++
        (asking ["toolu_1", "toolu_2"]).messages.flatMap (canonicalMessages quotesOnly) := rfl
  refine ⟨exchanges_asking _, by decide, ?_⟩
  rw [hmessages, hsystem, nil_append, chatRule_conversation (exchanges_asking _)]
  rintro ⟨-, hone, -⟩
  exact absurd (hone (cons_ne_nil _ _)).1 (by decide)

end FfxNexus.MessagesApi
