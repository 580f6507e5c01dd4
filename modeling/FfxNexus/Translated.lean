/-
**The translated surfaces**: `/v1/responses` and `/v1/messages` (`internal/gateway/responses.go`,
`messages.go`).
-/
import FfxNexus.Gateway

namespace FfxNexus.Translated
open Schema Providers Pricing Gateway List

structure ProviderRef where
  model : String
  provider : Provider
  forwardModel : String
deriving DecidableEq

variable (h : Handler) (suffix : String) (ctx : Ctx) (flusher : Bool)
  (req : ChatCompletionRequest)

def providerRef? (model : String) : Option ProviderRef :=
  match h.registry.resolve model with
  | .ok (p, fwd) => some ⟨model, p, fwd⟩
  | .error _ => none

def pickResponsesChain (model : String) : Option (List ProviderRef) :=
  let members := ((routeCandidates h model).getD []).filterMap (providerRef? h)
  if 0 < members.length then some members else (providerRef? h model).map fun ref => [ref]

def lookupCredential (cand : Candidate) (ctx : Ctx) (provider : String) :
    GProg (Option CredentialAnswer) :=
  if h.credResolver = true ∧ h.keyMode ≠ .shared then do
    return some (← resolveCredential cand ctx provider)
  else pure none

def overrideContext : Option CredentialAnswer → Ctx
  | some (.found cred) => ctx.withCallerCredential cred.caller
  | _ => ctx

def overrideSource (default : String) : Option CredentialAnswer → String
  | some (.found cred) => cred.source
  | _ => default

def recordTrace (t : Trace) : GProg Unit := perform (.record t)

def translatedAttempt (chainLen : ℕ)
    (t : Trace) (attemptStart : Int) (cand : Candidate) (ref : ProviderRef) :
    GProg (Option ChatCompletionResponse × Trace) := do
  let answer ← lookupCredential h cand ctx ref.provider.name
  match answer, h.keyMode with
  | some (.failed err), .strictBYOK => do
      let latencyMs ← sinceMs attemptStart
      return (none, { t with
        latencyMs
        statusCode := 403
        errorType := "missing_byok_key"
        errorMsg := err
        credentialSource := "none" })
  | _, _ => do
      let t := { t with credentialSource := overrideSource "env" answer }
      match ← perform (.chatCompletion cand ref.provider (overrideContext ctx answer)
          { req with model := ref.forwardModel }) with
      | .error err => do
          let latencyMs ← sinceMs attemptStart
          return (none, { t with
            latencyMs
            statusCode := 502
            errorType :=
              if cand.index + 1 < chainLen then "upstream_error_failover" else "upstream_error"
            errorMsg := err })
      | .ok resp => do
          let latencyMs ← sinceMs attemptStart
          return (some resp, { t with
            latencyMs
            statusCode := 200
            responseModel := resp.model
            inputTokens := resp.usage.promptTokens
            outputTokens := resp.usage.completionTokens
            outputMessages := ((resp.choices.head?.map fun c => c.message.content).getD "")
            finishReason := ((resp.choices.head?.map Choice.finishReason).getD "") })

def translatedLoop (chainLen : ℕ)
    (t : Trace) (attemptStart : Int) :
    ℕ → List ProviderRef → GProg (Option ChatCompletionResponse × Trace)
  | _, [] => pure (none, t)
  | i, ref :: _ => translatedAttempt h ctx req chainLen t attemptStart ⟨i, ref.model⟩ ref

def executeTranslated :
    GProg (Option ChatCompletionResponse × Option Trace) :=
  match pickResponsesChain h req.model with
  | none => pure (none, none)
  | some refs => do
      let t ← newTrace h ctx req ((refs.head?.map fun ref => ref.provider.name).getD "")
      let attemptStart ← now
      let r ← translatedLoop h ctx req refs.length t attemptStart 0 refs
      return (r.1, some r.2)

def executeResponsesUnary :
    GProg (Option ChatCompletionResponse × Option Trace) :=
  executeTranslated h ctx req

def executeMessagesUnary :
    GProg (Option ChatCompletionResponse × Option Trace) :=
  executeTranslated h ctx req

def answerTranslated {β : Type} (h : Handler) (ctx : Ctx) (req : ChatCompletionRequest)
    (body : ℚ → ChatCompletionResponse → β)
    (r : Option ChatCompletionResponse × Option Trace) : GProg (Reply β) :=
  match r with
  | (none, _) => pure (writeError h 502 "upstream_error" "all candidate providers failed")
  | (some resp, none) => pure (.ok (body 0 resp))
  | (some resp, some t) => do
      let cost := resolveCostUSD resp.usage.estimatedCost req.model t.responseModel
        (some resp.usage)
      recordTrace { t with costUSD := cost }
      recordSpend h ctx cost
      return .ok (body cost { resp with usage := { resp.usage with costUSD := cost } })

inductive ItemType where
  | functionCall | customToolCall
deriving DecidableEq

structure ToolItem where
  itemType : ItemType
  itemID : String
  callID : String
  boundID : Bool
  name : String
  offset : Int
  arguments : String
deriving DecidableEq

inductive FinalStatus where
  | completed | incomplete
deriving DecidableEq

structure ResponsesUsage where
  inputTokens : Int
  outputTokens : Int
  totalTokens : Int
  costUSD : ℚ
deriving DecidableEq

inductive ResponsesEvent where
  | created (id model : String) (createdAt : Int)
  | failed (id model message : String)
  | messageAdded (itemID : String)
  | textDelta (itemID delta : String)
  | toolAdded (item : ToolItem)
  | argumentsDelta (itemID : String) (offset : Int) (delta : String)
  | textDone (itemID text : String)
  | messageDone (itemID text : String) (status : FinalStatus)
  | argumentsDone (item : ToolItem) (status : FinalStatus)
  | toolDone (item : ToolItem) (status : FinalStatus)
  | completed (id model : String) (text : Option String) (tools : List ToolItem)
      (usage : Option ResponsesUsage) (status : FinalStatus)
deriving DecidableEq

structure ResponsesState where
  text : Option String
  tools : List (Int × ToolItem)
  usage : Option Usage
  finish : String
  out : List ResponsesEvent

variable (st : ResponsesState)

def setTool {τ : Type} (tools : List (Int × τ)) (idx : Int) (item : τ) : List (Int × τ) :=
  tools.map fun e => if e.1 = idx then (idx, item) else e

variable {τ : Type}

lemma lookup_map_snd {υ : Type} (f : τ → υ) (tools : List (Int × τ)) (idx : Int) :
    (tools.map fun e => (e.1, f e.2)).lookup idx = (tools.lookup idx).map f := by
  induction tools with
  | nil => rfl
  | cons e tools ih =>
    rw [map_cons, lookup_cons, lookup_cons]
    cases idx == e.1 with
    | true => rfl
    | false => exact ih

variable {tools : List (Int × τ)}

lemma map_setTool {υ : Type} (f : τ → υ) {idx : Int} {old : τ}
    (item : τ) (hkeys : (tools.map Prod.fst).Nodup) (hold : (idx, old) ∈ tools)
    (hview : f item = f old) : (setTool tools idx item).map (fun e => (e.1, f e.2)) =
      tools.map fun e => (e.1, f e.2) := by
  unfold setTool
  rw [map_map]
  refine map_congr_left ?_
  intro e he
  by_cases hidx : e.1 = idx
  · have hsame : e = (idx, old) := inj_on_of_nodup_map hkeys he hold hidx
    simp [hsame, hview]
  · simp [hidx]

lemma mem_setTool {idx : Int} {old : τ} (item : τ)
    (hold : (idx, old) ∈ tools) : (idx, item) ∈ setTool tools idx item :=
  mem_map.mpr ⟨_, hold, if_pos rfl⟩

lemma lookup_append_none {i : Int} (x : τ) (hnone : tools.lookup i = none) (j : Int) :
    (tools ++ [(i, x)]).lookup j = if j = i then some x else tools.lookup j := by
  rw [lookup_append]
  by_cases hij : j = i
  · subst hij
    simp [hnone]
  · have hbeq : (j == i) = false := beq_false_of_ne hij
    simp [hij, lookup_cons, hbeq]

lemma lookup_setTool (tools : List (Int × τ)) (i : Int) (x : τ) (j : Int) :
    (setTool tools i x).lookup j =
      if j = i then (tools.lookup i).map fun _ => x else tools.lookup j := by
  induction tools with
  | nil => simp [setTool]
  | cons e tools ih =>
    have hcons : setTool (e :: tools) i x =
        (if e.1 = i then (i, x) else e) :: setTool tools i x := rfl
    rw [hcons, lookup_cons, lookup_cons, lookup_cons, ih]
    by_cases he : e.1 = i
    · by_cases hj : j = i
      · simp [he, hj]
      · have hbeq : (j == i) = false := beq_false_of_ne hj
        simp [he, hj, hbeq]
    · by_cases hj : j = i
      · subst hj
        have hbeq : (j == e.1) = false := beq_false_of_ne fun h => he h.symm
        simp [he, hbeq]
      · simp [he, hj]

def ResponsesState.textDelta (st : ResponsesState) (msgID delta : String) : ResponsesState :=
  if delta = "" then st
  else
    { st with
      text := some (st.text.getD "" ++ delta)
      out := st.out ++ (if st.text = none then [.messageAdded msgID] else []) ++
        [.textDelta msgID delta] }

def newToolItem (idx : Int) (tc : ToolCall) :
    GProg ToolItem := do
  let itemType := if tc.type = "custom" then ItemType.customToolCall else .functionCall
  let callID ← if tc.id ≠ "" then pure tc.id else do
    let id ← newUUID
    pure ("call_" ++ id)
  return {
    itemType
    itemID := (if itemType = .customToolCall then "ctc_" else "fc_") ++ suffix ++ "_" ++
      toString idx
    callID
    boundID := tc.id ≠ ""
    name := if tc.type = "custom" then tc.customName else tc.functionName
    offset := if st.text.isSome then idx + 1 else idx
    arguments := "" }

def ToolItem.refresh (item : ToolItem) (tc : ToolCall) : ToolItem :=
  let name := if tc.type = "custom" then tc.customName else tc.functionName
  { item with
    callID := if tc.id ≠ "" then tc.id else item.callID
    boundID := item.boundID || tc.id ≠ ""
    name := if name ≠ "" then name else item.name }

def ResponsesState.argumentsDelta (st : ResponsesState) (idx : Int) (item : ToolItem)
    (delta : String) : ResponsesState × ToolItem :=
  if delta = "" then (st, item)
  else
    let item := { item with arguments := item.arguments ++ delta }
    ({ st with
      tools := setTool st.tools idx item
      out := st.out ++ [.argumentsDelta item.itemID item.offset delta] }, item)

def responsesToolItem (idx : Int) (tc : ToolCall) :
    GProg (ResponsesState × ToolItem) :=
  match st.tools.lookup idx with
  | none => do
      let item ← newToolItem suffix st idx tc
      return ({ st with
        tools := st.tools ++ [(idx, item)], out := st.out ++ [.toolAdded item] }, item)
  | some item =>
    let item := item.refresh tc
    pure ({ st with tools := setTool st.tools idx item }, item)

def responsesToolCall (tc : ToolCall) :
    GProg ResponsesState := do
  let idx := tc.index.getD 0
  let opened ← responsesToolItem suffix st idx tc
  let fed := opened.1.argumentsDelta idx opened.2 tc.functionArguments
  let customInput := if tc.type = "custom" then tc.customInput else ""
  return (fed.1.argumentsDelta idx fed.2 customInput).1

def foldProg {σ α : Type} (f : σ → α → GProg σ) : List α → σ → GProg σ
  | [], s => pure s
  | a :: as, s => do
      let s ← f s a
      foldProg f as s

lemma foldProg_view {σ α : Type} {f : σ → α → GProg σ} (view : σ → τ) (next : τ → α → τ)
    (I : τ → Prop) (hkeep : ∀ t a, I t → I (next t a))
    (hstep : ∀ s a log s', I (view s) → (f s a).Runs log s' → view s' = next (view s) a)
    {as : List α} {s s' : σ} {log : List GEvent} (hs : I (view s))
    (hrun : (foldProg f as s).Runs log s') : view s' = as.foldl next (view s) := by
  induction as generalizing s log with
  | nil =>
    obtain ⟨-, rfl⟩ := hrun.done
    rfl
  | cons a as ih =>
    obtain ⟨_, s1, _, -, hfirst, hrest⟩ := hrun.split
    have hview := hstep s a _ s1 hs hfirst
    rw [foldl_cons, ← hview]
    exact ih (hview ▸ hkeep _ a hs) hrest

def responsesChoice (dc : ChunkChoice) :
    GProg ResponsesState := do
  let st := st.textDelta ("msg_" ++ suffix) dc.delta.content
  let st ← foldProg (responsesToolCall suffix) dc.delta.toolCalls st
  return { st with finish := if dc.finishReason ≠ "" then dc.finishReason else st.finish }

structure ResponsesRelay where
  st : ResponsesState
  trace : Trace
  firstChunk : Bool

def firstChunkMs (streamStart : Int) (r : ResponsesRelay) : GProg Int :=
  if r.firstChunk then pure r.trace.ttftMillis else sinceMs streamStart

def responsesChunk (streamStart : Int) (r : ResponsesRelay)
    (c : ChatCompletionChunk) : GProg ResponsesRelay := do
  let ttftMillis ← firstChunkMs streamStart r
  let st ← foldProg (responsesChoice suffix) c.choices
    { r.st with usage := c.usage.or r.st.usage }
  return ⟨st, { r.trace with
    ttftMillis
    inputTokens := (c.usage.map Usage.promptTokens).getD r.trace.inputTokens
    outputTokens := (c.usage.map Usage.completionTokens).getD r.trace.outputTokens }, true⟩

def responsesEvents (respID model suffix : String) (streamStart : Int) :
    List StreamEvent → ResponsesRelay → GProg (ResponsesRelay × Bool)
  | [], r => pure (r, false)
  | evt :: events, r =>
    match evt.err with
    | some err => do
        let latencyMs ← sinceMs streamStart
        let t := { r.trace with
          latencyMs
          errorType := "stream_error"
          errorMsg := err
          statusCode := if r.firstChunk then r.trace.statusCode else 502 }
        return ({ r with
          st := { r.st with out := r.st.out ++ [.failed respID model err] }, trace := t }, true)
    | none =>
      if evt.done then pure (r, false)
      else
        match evt.chunk with
        | none => responsesEvents respID model suffix streamStart events r
        | some c => do
            let r ← responsesChunk suffix streamStart r c
            responsesEvents respID model suffix streamStart events r

def responsesProviders (h : Handler) (ctx : Ctx) (req : ChatCompletionRequest)
    (respID suffix : String) (streamStart : Int) :
    ℕ → List ProviderRef → ResponsesRelay → GProg (ResponsesRelay × Bool)
  | _, [], r => pure (r, false)
  | i, ref :: rest, r => do
      let cand : Candidate := ⟨i, ref.model⟩
      let answer ← lookupCredential h cand ctx ref.provider.name
      let t := { r.trace with
        credentialSource := overrideSource r.trace.credentialSource answer }
      match ← perform (.chatCompletionStream cand ref.provider (overrideContext ctx answer)
          { req with model := ref.forwardModel }) with
      | .error err => do
          let latencyMs ← sinceMs streamStart
          responsesProviders h ctx req respID suffix streamStart (i + 1) rest { r with
            trace := { t with
              latencyMs
              statusCode := 502
              errorType := "upstream_error_failover"
              errorMsg := err } }
      | .ok stream =>
        responsesEvents respID req.model suffix streamStart stream.events
          { r with trace := t, firstChunk := false }

inductive ResponsesBody where
  | completion (costUSD : ℚ) (resp : ChatCompletionResponse)
  | stream (events : List ResponsesEvent) (costUSD : Option ℚ)
deriving DecidableEq

def closingEvents (respID model suffix : String) (st : ResponsesState) (costUSD : ℚ)
    (status : FinalStatus) : List ResponsesEvent :=
  let text := st.text.filter (· ≠ "")
  let textEvents := match text with
    | some t => [.textDone ("msg_" ++ suffix) t, .messageDone ("msg_" ++ suffix) t status]
    | none => []
  let tools := st.tools.map Prod.snd
  let usage := st.usage.map fun u =>
    ⟨u.promptTokens, u.completionTokens, u.totalTokens, costUSD⟩
  textEvents ++ (tools.flatMap fun item => [.argumentsDone item status, .toolDone item status]) ++
    [.completed respID model text tools usage status]

def finishResponses
    (respID suffix : String) (streamStart : Int) (r : ResponsesRelay) :
    GProg (Reply ResponsesBody) := do
  let truncated := r.st.finish = "" ∧ (r.st.text.isSome = true ∨ r.st.tools ≠ [])
  let status := if truncated then FinalStatus.incomplete else .completed
  let latencyMs ← sinceMs streamStart
  let usage := r.st.usage.getD .zero
  let cost := resolveCostUSD usage.estimatedCost req.model r.trace.responseModel (some usage)
  recordTrace { r.trace with
    errorType := if truncated then "stream_truncated" else r.trace.errorType
    outputMessages := r.st.text.getD r.trace.outputMessages
    statusCode := 200
    latencyMs
    costUSD := cost }
  recordSpend h ctx cost
  return .ok (.stream (r.st.out ++ closingEvents respID req.model suffix r.st cost status)
    (some cost))

def handleResponsesStream : GProg (Reply ResponsesBody) :=
  match pickResponsesChain h req.model with
  | none => pure (writeError h 502 "upstream_error" ("no provider for model " ++ req.model))
  | some refs =>
    if flusher = false then pure (writeError h 500 "internal_error" "streaming unsupported")
    else do
      let suffix ← newUUID
      let respID := "resp_" ++ suffix
      let createdAt ← now
      let streamStart ← now
      let t ← newTrace h ctx req ((refs.head?.map fun ref => ref.provider.name).getD "")
      let relayed ← responsesProviders h ctx req respID suffix streamStart 0 refs
        ⟨⟨none, [], none, "", [.created respID req.model (Semcache.unix createdAt)]⟩,
          { t with streamed := true }, false⟩
      if relayed.2 then do
        recordTrace relayed.1.trace
        return .ok (.stream relayed.1.st.out none)
      else finishResponses h ctx req respID suffix streamStart relayed.1

structure ResponsesRequest where
  model : String
  stream : Bool
  chat : Except String ChatCompletionRequest

def responses
    (body : Except String ResponsesRequest) : GProg (Reply ResponsesBody) :=
  match body with
  | .error err => pure (writeError h 400 "invalid_request_error" err)
  | .ok req =>
    if req.model = "" then
      pure (writeError h 400 "invalid_request_error" "model is required")
    else
      match req.chat with
      | .error err => pure (writeError h 400 "invalid_request_error" err)
      | .ok chat =>
        if req.stream then handleResponsesStream h ctx flusher chat
        else do
          let r ← executeResponsesUnary h ctx chat
          answerTranslated h ctx chat .completion r

inductive MessagesEvent where
  | messageStart (id model : String)
  | textStart (index : Int)
  | textDelta (index : Int) (text : String)
  | toolStart (index : Int) (id name : String)
  | inputDelta (index : Int) (partialJSON : String)
  | blockStop (index : Int)
  | error (message : String)
  | messageDelta (stopReason : String) (inputTokens outputTokens : Int)
  | messageStop
deriving DecidableEq

structure ToolBlock where
  idx : Int
  blockID : String
  name : String
  inputBuf : String

structure MessagesState where
  textOpened : Bool
  textBuf : String
  tools : List (Int × ToolBlock)
  inputTokens : Int
  outputTokens : Int
  finishReason : String
  streamErrSeen : Bool
  out : List MessagesEvent

def mapCanonicalStopToAnthropic (reason : String) : String :=
  if reason = "stop" then "end_turn"
  else if reason = "length" then "max_tokens"
  else if reason = "tool_calls" then "tool_use"
  else if reason = "content_filter" then "stop_sequence"
  else reason

def MessagesState.textDelta (st : MessagesState) (text : String) : MessagesState :=
  if text = "" then st
  else
    { st with
      textOpened := true
      textBuf := st.textBuf ++ text
      out := st.out ++ (if st.textOpened then [] else [.textStart 0]) ++ [.textDelta 0 text] }

def messagesToolCall (st : MessagesState) (tc : ToolCall) : GProg MessagesState := do
  let idx := tc.index.getD 0
  let blockIdx := if st.textOpened then idx + 1 else idx
  let (st, block) ← match st.tools.lookup idx with
    | none => do
        let id ← newUUID
        let block : ToolBlock := ⟨blockIdx, "toolu_" ++ id, tc.functionName, ""⟩
        pure ({ st with
          tools := st.tools ++ [(idx, block)]
          out := st.out ++ [.toolStart blockIdx block.blockID block.name] }, block)
    | some block =>
      let block := if tc.functionName ≠ "" ∧ block.name = "" then
        { block with name := tc.functionName } else block
      pure ({ st with tools := setTool st.tools idx block }, block)
  if tc.functionArguments = "" then return st
  else return { st with
    tools := setTool st.tools idx { block with inputBuf := block.inputBuf ++ tc.functionArguments }
    out := st.out ++ [.inputDelta blockIdx tc.functionArguments] }

def messagesChoice (st : MessagesState) (dc : ChunkChoice) : GProg MessagesState := do
  let st := st.textDelta dc.delta.content
  let st ← foldProg messagesToolCall dc.delta.toolCalls st
  return { st with
    finishReason :=
      if dc.finishReason ≠ "" then mapCanonicalStopToAnthropic dc.finishReason
      else st.finishReason }

def messagesEvents : List StreamEvent → MessagesState → GProg MessagesState
  | [], st => pure st
  | evt :: events, st =>
    match evt.err with
    | some err => pure { st with streamErrSeen := true, out := st.out ++ [.error err] }
    | none =>
      match evt.done, evt.chunk with
      | false, some c => do
          let st ← foldProg messagesChoice c.choices { st with
            inputTokens := (c.usage.map Usage.promptTokens).getD st.inputTokens
            outputTokens := (c.usage.map Usage.completionTokens).getD st.outputTokens }
          messagesEvents events st
      | _, _ => pure st

def messagesProviders (h : Handler) (ctx : Ctx) (req : ChatCompletionRequest) (chainLen : ℕ)
    (streamStart : Int) : ℕ → List ProviderRef → MessagesState → GProg MessagesState
  | _, [], st => pure st
  | i, ref :: rest, st => do
      let cand : Candidate := ⟨i, ref.model⟩
      let answer ← lookupCredential h cand ctx ref.provider.name
      let t ← newTrace h ctx req ref.provider.name
      match ← perform (.chatCompletionStream cand ref.provider (overrideContext ctx answer)
          { req with model := ref.forwardModel }) with
      | .error err => do
          let latencyMs ← sinceMs streamStart
          recordTrace { t with
            requestModel := req.model
            streamed := true
            credentialSource := overrideSource "" answer
            latencyMs
            statusCode := 502
            errorType := if 1 < chainLen then "upstream_error_failover" else "upstream_error"
            errorMsg := err }
          messagesProviders h ctx req chainLen streamStart (i + 1) rest st
      | .ok stream => messagesEvents stream.events st

def MessagesState.closing (st : MessagesState) : List MessagesEvent :=
  (if st.textOpened then [.blockStop 0] else []) ++
    st.tools.map (fun e => .blockStop e.2.idx) ++
    [.messageDelta (if st.streamErrSeen ∧ st.finishReason = "" then "error" else st.finishReason)
      st.inputTokens st.outputTokens, .messageStop]

inductive MessagesBody where
  | completion (costUSD : ℚ) (resp : ChatCompletionResponse)
  | stream (events : List MessagesEvent)
deriving DecidableEq

def handleMessagesStream : GProg (Reply MessagesBody) :=
  match pickResponsesChain h req.model with
  | none => pure (writeError h 502 "upstream_error" ("no provider for model " ++ req.model))
  | some refs =>
    if flusher = false then pure (writeError h 500 "internal_error" "streaming unsupported")
    else do
      let id ← newUUID
      let streamStart ← now
      let st ← messagesProviders h ctx req refs.length streamStart 0 refs
        ⟨false, "", [], 0, 0, "", false, [.messageStart ("msg_" ++ id) req.model]⟩
      return .ok (.stream (st.out ++ st.closing))

structure MessagesRequest where
  model : String
  messageCount : ℕ
  stream : Bool
  chat : Except String ChatCompletionRequest

def messages
    (body : Except String MessagesRequest) : GProg (Reply MessagesBody) :=
  match body with
  | .error err => pure (writeError h 400 "invalid_request_error" err)
  | .ok req =>
    if req.model = "" then
      pure (writeError h 400 "invalid_request_error" "model is required")
    else if req.messageCount = 0 then
      pure (writeError h 400 "invalid_request_error"
        "messages is required and must contain at least one entry")
    else
      match req.chat with
      | .error err => pure (writeError h 400 "invalid_request_error" err)
      | .ok chat =>
        if req.stream then handleMessagesStream h ctx flusher chat
        else do
          let r ← executeMessagesUnary h ctx chat
          answerTranslated h ctx chat .completion r

end FfxNexus.Translated
