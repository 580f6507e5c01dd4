/-
**Chat completions** (`ChatCompletions`, `resolveChain`, `handleUnary` and `handleStream` of
`internal/gateway/handler.go`).
-/
import FfxNexus.Gateway

namespace FfxNexus.Chat
open Go Schema Providers Guardrails Routing Pricing Gateway

def promptText (messages : List Message) : String :=
  String.intercalate "\n" (messages.map Message.content)

variable (g : Option Guard) (h : Handler) (ctx : Ctx) (req : ChatCompletionRequest)
  (reqTrace : Trace) (flusher : Bool) (chain : List String) (cand : Candidate) (t : Trace)
  (attemptStart : Int) (resp : ChatCompletionResponse) (provider : Provider)
  (embedVec : List ℚ)

def cacheEligible : Bool :=
  req.tools.length = 0 ∧ (req.temperature = none ∨ req.temperature = some 0) ∧
    req.nexusEval = none

def validateOrRepairJSON (content schema : String) : String × Finding × Bool :=
  let f := checkJSONOutput g content schema
  if f.blocked = false then (content, f, false)
  else
    match repairJSON content with
    | some fixed =>
      let rf := checkJSONOutput g fixed schema
      if rf.blocked = false then (fixed, rf, true) else (content, f, false)
    | none => (content, f, false)

lemma validateOrRepairJSON_ok {g : Option Guard} {content schema : String}
    (h : (validateOrRepairJSON g content schema).2.1.blocked = false) :
    (checkJSONOutput g (validateOrRepairJSON g content schema).1 schema).blocked = false := by
  unfold validateOrRepairJSON at h ⊢
  simp only at h ⊢
  split_ifs at h ⊢ with hf
  · -- the content passed as it came; the other branches fall back to the finding that blocked
    exact hf
  · cases hr : repairJSON content with
    | none => simp only [hr] at h; exact absurd h hf
    | some fixed =>
      simp only [hr] at h ⊢
      split_ifs at h ⊢ with hrf
      · exact hrf
      · exact absurd h hf

def schemaAction (repaired : Bool) (corrected : ℕ) : String :=
  String.intercalate "," ((if repaired then ["json_repaired"] else []) ++
    if 0 < corrected then ["self_corrected:" ++ toString corrected] else [])

def withSchemaCorrection (badOutput reason : String) :
    ChatCompletionRequest :=
  { req with messages := req.messages ++ [textMessage "assistant" badOutput,
      textMessage "user" ("Your previous response was rejected: " ++ reason ++
        " Reply with ONLY a corrected response that satisfies the requested response_format. " ++
        "Do not include explanations, comments, or markdown code fences.")] }

inductive ChatWrite where
  | errorComment
  | done
  | raw (bytes : String)
  | chunk (c : ChatCompletionChunk)
deriving DecidableEq

inductive ChatBody where
  | completion (costUSD : ℚ) (resp : ChatCompletionResponse)
  | stream (writes : List ChatWrite) (costUSD : ℚ)
deriving DecidableEq

def routedChain (weights : Weights)
    (candidates : List String) : GProg (Except (Reply ChatBody) (List String)) :=
  let allowed := filterAllowed ctx candidates
  if allowed.length = 0 then do
    let detail := "this virtual key is not permitted to use any model in group " ++ req.model
    recordPolicyDenied h ctx req 403 "model_not_allowed" detail
    return .error (writeError h 403 "model_not_allowed" detail)
  else do
    let stats ← perform .readStats
    let ranked := rank weights stats allowed ctx.minQuality
    if ranked.length = 0 then
      let detail := "no allowed model currently meets the minimum quality score for this key"
      recordPolicyDenied h ctx req 503 "min_quality" detail
      return .error (writeError h 503 "no_model_meets_quality" detail)
    else if many : h.lb = true ∧ 1 < ranked.length then
      let i ← perform (.lbNext req.model ranked many.2)
      return .ok (rotateChain ranked i)
    else return .ok ranked

def concreteChain :
    GProg (Except (Reply ChatBody) (List String)) :=
  if modelAllowed ctx req.model = false then do
    let detail := "this virtual key is not permitted to use model " ++ req.model
    recordPolicyDenied h ctx req 403 "model_not_allowed" detail
    return .error (writeError h 403 "model_not_allowed" detail)
  else
    match h.registry.resolve req.model with
    | .error err => do
        recordPolicyDenied h ctx req 404 "denied" err
        return .error (writeError h 404 "model_not_found" err)
    | .ok _ => pure (.ok [req.model])

def resolveChain :
    GProg (Except (Reply ChatBody) (List String)) :=
  match h.router, routeCandidates h req.model with
  | some weights, some candidates => routedChain h ctx req weights candidates
  | _, _ => concreteChain h ctx req

structure Walk where
  lastErr : Option String
  attempts : List ProviderAttempt
  reasons : List PolicyReason
  lastTrace : Option Trace

variable (w : Walk)

def Walk.start : Walk := ⟨none, [], [], none⟩

inductive Round (σ β : Type) where
  | next (s : σ)
  | done (b : β)

def beginAttempt (streamed : Bool) : GProg (Trace × Int) := do
  let t ← newTrace h ctx req provider.name
  let attemptStart ← now
  return ({ stampSharedTraceID t reqTrace with
    requestModel := cand.model, streamed := streamed }, attemptStart)

def missingCredential (chainLen : ℕ) (cand : Candidate) (t : Trace) (attemptStart : Int)
    (err : String) (w : Walk) : GProg Walk := do
  let latencyMs ← sinceMs attemptStart
  let t := { t with
    latencyMs
    statusCode := 403
    errorType := "missing_byok_key"
    errorMsg := err
    credentialSource := "none" }
  return {
    lastErr := some err
    attempts := w.attempts ++ [attemptFromTrace t cand.index chainLen]
    reasons := w.reasons ++ [⟨"missing_byok_key", "", err⟩]
    lastTrace := some t }

def failedTrace (chainLen : ℕ) (cand : Candidate) (t : Trace) (latencyMs : Int) (err : String) :
    Trace :=
  { t with
    latencyMs
    statusCode := 502
    errorType := if cand.index + 1 < chainLen then "upstream_error_failover" else "upstream_error"
    errorMsg := err }

def failedWalk (err : String) (w : Walk) :
    Walk where
  lastErr := some err
  attempts := w.attempts ++ [attemptFromTrace t cand.index chain.length]
  reasons := w.reasons ++
    [if cand.index + 1 < chain.length then
      ⟨"fallback", "", chain.getD cand.index "" ++ "→" ++ chain.getD (cand.index + 1) ""⟩
    else ⟨"upstream_error", "", err⟩]
  lastTrace := some t

def exhaustedTrace (streamed : Bool) (start : Int) (w : Walk) (msg : String) :
    GProg Trace :=
  match w.lastTrace with
  | some t => pure t
  | none => do
      let latencyMs ← sinceMs start
      return { reqTrace with
        streamed, latencyMs, statusCode := 502, errorType := "upstream_error", errorMsg := msg }

def exhausted (streamed : Bool) (start : Int) (w : Walk) :
    GProg (Reply ChatBody) := do
  let msg := w.lastErr.getD "all candidate providers failed"
  let t ← exhaustedTrace reqTrace streamed start w msg
  recordEvidence h t w.attempts w.reasons
  return writeError h 502 "upstream_error" msg

def embedAndLookup (scope model prompt : String) :
    GProg (Except String (Option (Semcache.Hit String) × List ℚ)) := do
  match ← perform (.embedPrompt prompt) with
  | .error err => return .error err
  | .ok vec =>
    match ← perform (.cacheLookup chain scope model prompt vec) with
    | .error err => return .error err
    | .ok hit => return .ok (hit, vec)

def serviceLookup (s : CacheService) (chain : List String) (scope model prompt : String) :
    GProg (Except String (Option (Semcache.Hit String) × List ℚ)) :=
  if s.cfg.exactMatch then do
    match ← perform (.cacheLookup chain scope model prompt []) with
    | .error err => return .error err
    | .ok (some hit) => return .ok (some hit, [])
    | .ok none =>
      if s.hasEmbedder = false then return .ok (none, [])
      else embedAndLookup chain scope model prompt
  else embedAndLookup chain scope model prompt

def serviceStore (s : CacheService) (origin : Origin) (scope model prompt : String)
    (vec : List ℚ) (json : String) : GProg (Except String Unit) :=
  if vec.length ≠ 0 ∨ s.hasEmbedder = false then
    perform (.cacheStore origin scope model prompt vec json)
  else do
    match ← perform (.embedPrompt prompt) with
    | .error err => return .error err
    | .ok vec => perform (.cacheStore origin scope model prompt vec json)

def usesCache :
    Option CacheService :=
  if cand.index = 0 ∧ cacheEligible req = true then h.scache else none

def lookupCache : GProg (ChatCompletionResponse ⊕ List ℚ) :=
  match usesCache h req cand with
  | none => pure (.inr [])
  | some s => do
      match ← serviceLookup s chain (cacheScope ctx) req.model (promptText req.messages) with
      | .error _ => return .inr []
      | .ok (none, vec) => return .inr vec
      | .ok (some hit, _) =>
        match hit.responseJSON.bind h.codec.unmarshal with
        | some cached => return .inl cached
        | none => return .inr []

def serveCached (cached : ChatCompletionResponse) :
    GProg (Reply ChatBody) := do
  let latencyMs ← sinceMs attemptStart
  let cost := costUSD t.requestModel cached.model t.inputTokens t.outputTokens
  let t := { t with
    latencyMs
    statusCode := 200
    cacheHit := true
    responseModel := cached.model
    outputMessages := cached.content?.getD ""
    finishReason := (cached.choices.head?.map Choice.finishReason).getD ""
    costUSD := cost }
  recordEvidence h t (w.attempts ++ [attemptFromTrace t cand.index chain.length])
    (w.reasons ++ [⟨"cache_hit", "", "semantic cache"⟩])
  return .ok (.completion cost { cached with usage := { cached.usage with costUSD := cost } })

def fillCache (resp : ChatCompletionResponse) : GProg Unit :=
  match usesCache h req cand, h.codec.marshal resp with
  | some s, some json => do
      let _ ← serviceStore s ⟨cand.model, ctx, req⟩ (cacheScope ctx) req.model
        (promptText req.messages) embedVec json
      return ()
  | _, _ => pure ()

def redactFirst :
    ChatCompletionResponse × Bool :=
  match resp.content? with
  | none => (resp, false)
  | some content =>
    let r := redactOutput g content
    if r.2 then (resp.setContent r.1, true) else (resp, false)

structure Draft where
  resp : ChatCompletionResponse
  attempt : ChatCompletionRequest
  finding : Finding
  repaired : Bool
  corrected : ℕ
  trace : Trace

def checkDraft (schema : String) (d : Draft) : Draft :=
  let v := validateOrRepairJSON g (d.resp.content?.getD "") schema
  { d with
    resp := d.resp.setContent v.1
    finding := v.2.1
    repaired := d.repaired || v.2.2 }

def Draft.retried (d : Draft) (attempt : ChatCompletionRequest) (resp : ChatCompletionResponse) :
    Draft :=
  { d with
    resp, attempt
    corrected := d.corrected + 1
    trace := { d.trace with
      inputTokens := d.trace.inputTokens + resp.usage.promptTokens
      outputTokens := d.trace.outputTokens + resp.usage.completionTokens
      responseModel := resp.model } }

def correctionLoop (g : Option Guard) (cand : Candidate) (provider : Provider) (callCtx : Ctx)
    (schema : String) : ℕ → Draft → GProg Draft
  | 0, d => pure d
  | n + 1, d =>
    if d.finding.blocked = false then pure d
    else do
      let attempt := withSchemaCorrection d.attempt (d.resp.content?.getD "") d.finding.reason
      match ← perform (.chatCompletion cand provider callCtx attempt) with
      | .error _ => return { d with attempt, corrected := d.corrected + 1 }
      | .ok cresp =>
        if cresp.choices = [] then return { d with attempt, corrected := d.corrected + 1 }
        else
          let d' := checkDraft g schema (d.retried attempt (redactFirst g cresp).1)
          correctionLoop g cand provider callCtx schema n d'

def Draft.stampAction (d : Draft) : Draft :=
  let action := schemaAction d.repaired d.corrected
  { d with trace := { d.trace with
      guardrailAction := if action = "" then d.trace.guardrailAction else action } }

def responseCost : ℚ :=
  resolveCostUSD resp.usage.estimatedCost t.requestModel t.responseModel (some resp.usage)

def schemaBlocked (d : Draft) : GProg (Reply ChatBody) := do
  let latencyMs ← sinceMs attemptStart
  let cost := responseCost d.trace d.resp
  let t := { d.trace with
    latencyMs
    statusCode := 422
    errorType := "schema_validation_failed"
    errorMsg := d.finding.reason
    guardrailAction := "output_schema_blocked:" ++ d.finding.rule
    finishReason := (d.resp.choices.head?.map Choice.finishReason).getD ""
    outputMessages := d.resp.content?.getD ""
    costUSD := cost }
  recordEvidence h t (w.attempts ++ [attemptFromTrace t cand.index chain.length])
    (w.reasons ++ [⟨"schema_blocked", d.finding.rule, d.finding.reason⟩])
  recordSpend h ctx cost
  return writeError h 422 "schema_validation_failed" d.finding.reason

def serveFresh (w : Walk) (t : Trace)
    (resp : ChatCompletionResponse) : GProg (Reply ChatBody) := do
  let t := { t with
    finishReason := (resp.choices.head?.map Choice.finishReason).getD t.finishReason
    outputMessages := resp.content?.getD t.outputMessages }
  let cost := responseCost t resp
  let t := { t with costUSD := cost }
  fillCache h ctx req cand embedVec resp
  let redacted : List PolicyReason :=
    if t.guardrailAction = "output_redacted" then [⟨"redacted", "", "output_redacted"⟩] else []
  recordEvidence h t (w.attempts ++ [attemptFromTrace t cand.index chain.length])
    (w.reasons ++ redacted ++ [⟨"allowed", "", ""⟩])
  recordSpend h ctx cost
  return .ok (.completion cost { resp with usage := { resp.usage with costUSD := cost } })

def answerUpstream (callCtx : Ctx) (attempt : ChatCompletionRequest)
    (attemptStart : Int) (embedVec : List ℚ) (w : Walk) (t : Trace)
    (resp : ChatCompletionResponse) : GProg (Reply ChatBody) := do
  let latencyMs ← sinceMs attemptStart
  let redacted := redactFirst h.guard resp
  let t := { t with
    latencyMs
    statusCode := 200
    responseModel := resp.model
    inputTokens := resp.usage.promptTokens
    outputTokens := resp.usage.completionTokens
    guardrailAction := if redacted.2 then "output_redacted" else t.guardrailAction }
  let resp := redacted.1
  if resp.choices ≠ [] ∧ wantsJSON req.responseFormat = true then
    let schema := schemaBytes req.responseFormat
    let d ← correctionLoop h.guard cand provider callCtx schema h.selfCorrectMax
      (checkDraft h.guard schema ⟨resp, attempt, allow, false, 0, t⟩)
    let d := d.stampAction
    if d.finding.blocked then schemaBlocked h ctx chain cand attemptStart w d
    else serveFresh h ctx req chain cand embedVec w d.trace d.resp
  else serveFresh h ctx req chain cand embedVec w t resp

def aliasForModel (groups : GoMap String (List String)) (m : String) (order : List String) :
    String :=
  (order.find? fun name =>
    name ≠ "auto" ∧ m ∈ (groups.lookup name).getD []).getD ""

def unaryFailed (err : String) (w : Walk) :
    GProg Walk := do
  let failedAt ← now
  let latencyMs ← sinceMs attemptStart
  let t := failedTrace chain.length cand t latencyMs err
  if cand.index + 1 < chain.length then
    let order ← perform (.rangeAliases h.groups.keys)
    if h.failoverNotify then
      perform (.notifyFailover {
        orgID := t.orgID
        virtualKeyID := t.virtualKeyID
        aliasName := aliasForModel h.groups req.model order.val
        tried := chain.take (cand.index + 1)
        primary := chain.getD cand.index ""
        fallback := chain.getD (cand.index + 1) ""
        reason := t.errorType
        latencyMs := t.latencyMs
        failedAtUnix := failedAt.tdiv 1000000
        replicaID := h.replicaID })
    return failedWalk chain cand t err w
  else return failedWalk chain cand t err w

def unaryAttempt (cand : Candidate) (provider : Provider)
    (fwdModel : String) : GProg (Round Walk (Reply ChatBody)) := do
  let attempt := { req with model := fwdModel }
  let begun ← beginAttempt h ctx req reqTrace cand provider false
  let attemptStart := begun.2
  match ← injectCredential h cand ctx provider.name with
  | .error err => return .next (← missingCredential chain.length cand begun.1 attemptStart err w)
  | .ok (callCtx, credSource) =>
    let t := { begun.1 with credentialSource := credSource }
    match ← lookupCache h ctx req chain cand with
    | .inl cached => return .done (← serveCached h chain cand t attemptStart w cached)
    | .inr embedVec =>
      match ← perform (.chatCompletion cand provider callCtx attempt) with
      | .error err => return .next (← unaryFailed h req chain cand t attemptStart err w)
      | .ok resp =>
        return .done (← answerUpstream h ctx req chain cand provider callCtx attempt
          attemptStart embedVec w t resp)

def unaryLoop (h : Handler) (ctx : Ctx) (req : ChatCompletionRequest) (start : Int)
    (reqTrace : Trace) (chain : List String) : ℕ → List String → Walk → GProg (Reply ChatBody)
  | _, [], w => exhausted h reqTrace false start w
  | i, model :: rest, w =>
    match h.registry.resolve model with
    | .error err => unaryLoop h ctx req start reqTrace chain (i + 1) rest
        { w with lastErr := some err }
    | .ok (provider, fwdModel) => do
        match ← unaryAttempt h ctx req reqTrace chain w ⟨i, model⟩ provider fwdModel with
        | .next w' => unaryLoop h ctx req start reqTrace chain (i + 1) rest w'
        | .done reply => return reply

def handleUnary (req : ChatCompletionRequest)
    (start : Int) : GProg (Reply ChatBody) := do
  let reqTrace ← newTrace h ctx req ""
  unaryLoop h ctx req start reqTrace chain 0 chain .start

def streamAttempt (cand : Candidate) (provider : Provider)
    (fwdModel : String) : GProg (Round Walk (Walk × Trace × UpstreamStream)) := do
  let attempt := { req with model := fwdModel }
  let begun ← beginAttempt h ctx req reqTrace cand provider true
  let attemptStart := begun.2
  match ← injectCredential h cand ctx provider.name with
  | .error err => return .next (← missingCredential chain.length cand begun.1 attemptStart err w)
  | .ok (callCtx, credSource) =>
    let t := { begun.1 with credentialSource := credSource }
    match ← perform (.chatCompletionStream cand provider callCtx attempt) with
    | .error err => do
        let latencyMs ← sinceMs attemptStart
        return .next (failedWalk chain cand (failedTrace chain.length cand t latencyMs err) err w)
    | .ok stream =>
      return .done ({ w with
        attempts := w.attempts ++ [attemptFromTrace t cand.index chain.length] }, t, stream)

def streamLoop (h : Handler) (ctx : Ctx) (req : ChatCompletionRequest) (reqTrace : Trace)
    (chain : List String) :
    ℕ → List String → Walk → GProg (Walk × Option (Trace × UpstreamStream))
  | _, [], w => pure (w, none)
  | i, model :: rest, w =>
    match h.registry.resolve model with
    | .error err => streamLoop h ctx req reqTrace chain (i + 1) rest
        { w with lastErr := some err }
    | .ok (provider, fwdModel) => do
        match ← streamAttempt h ctx req reqTrace chain w ⟨i, model⟩ provider fwdModel with
        | .next w' => streamLoop h ctx req reqTrace chain (i + 1) rest w'
        | .done (w', t, stream) => return (w', some (t, stream))

structure Relay where
  trace : Trace
  out : String
  firstToken : Bool
  upstreamCost : ℚ
  lastUsage : Option Usage
  writes : List ChatWrite

variable (r : Relay)

def Relay.start : Relay :=
  ⟨{ t with streamed := true, statusCode := 200 }, "", true, 0, none, []⟩

def Relay.observe (c : ChatCompletionChunk) (ttftMillis : Int) : Relay :=
  let t := { r.trace with
    ttftMillis := if r.firstToken then ttftMillis else r.trace.ttftMillis
    responseModel := if c.model ≠ "" then c.model else r.trace.responseModel
    finishReason :=
      match c.choices.head? with
      | some ch => if ch.finishReason ≠ "" then ch.finishReason else r.trace.finishReason
      | none => r.trace.finishReason }
  let out := r.out ++ ((c.choices.head?.map fun ch => ch.delta.content).getD "")
  match c.usage with
  | none => { r with trace := t, out := out, firstToken := false }
  | some u =>
    { r with
      trace := { t with inputTokens := u.promptTokens, outputTokens := u.completionTokens }
      out := out
      firstToken := false
      upstreamCost := if 0 < u.estimatedCost then u.estimatedCost else r.upstreamCost
      lastUsage := some u }

def Relay.stamp (c : ChatCompletionChunk) : ChatCompletionChunk :=
  { c with usage := c.usage.map fun u => { u with
      costUSD := resolveCostUSD r.upstreamCost r.trace.requestModel r.trace.responseModel
        (some u) } }

def passThrough (bytes : String) : String :=
  if bytes ≠ "" ∧ "\n\n".toList.isSuffixOf bytes.toList = false then bytes ++ "\n" else bytes

def firstTokenMs (start : Int) (r : Relay) : GProg Int :=
  if r.firstToken then sinceMs start else pure 0

def Relay.pass (c : ChatCompletionChunk) (raw : Option String) : Relay :=
  match raw with
  | some bytes => { r with writes := r.writes ++ [.raw (passThrough bytes)] }
  | none => { r with writes := r.writes ++ [.chunk (r.stamp c)] }

def relayEvent (start : Int) (r : Relay) (evt : StreamEvent) : GProg Relay :=
  match evt.err with
  | some err => pure { r with
      trace := { r.trace with errorType := "stream_error", errorMsg := h.text.scrub err }
      writes := r.writes ++ [.errorComment] }
  | none =>
    if evt.done then
      pure { r with writes := r.writes ++ if evt.raw = none then [.done] else [] }
    else
      match evt.chunk with
      | none =>
        match evt.raw with
        | some bytes => pure { r with writes := r.writes ++ [.raw (passThrough bytes)] }
        | none => pure r
      | some c => do
          let ttftMillis ← firstTokenMs start r
          return (r.observe c ttftMillis).pass c evt.raw

def relayLoop (h : Handler) (start : Int) : List StreamEvent → Relay → GProg Relay
  | [], r => pure r
  | evt :: events, r => do
      let r ← relayEvent h start r evt
      relayLoop h start events r

def finishStream (start : Int)
    (w : Walk) (r : Relay) : GProg (Reply ChatBody) := do
  let latencyMs ← sinceMs start
  let violation := wantsJSON req.responseFormat &&
    (checkJSONOutput h.guard r.out (schemaBytes req.responseFormat)).blocked
  let rule := (checkJSONOutput h.guard r.out (schemaBytes req.responseFormat)).rule
  let cost := resolveCostUSD r.upstreamCost r.trace.requestModel r.trace.responseModel r.lastUsage
  let t := { r.trace with
    latencyMs
    outputMessages := r.out
    guardrailAction :=
      if violation then "output_schema_violation:" ++ rule else r.trace.guardrailAction
    costUSD := cost }
  let reason : PolicyReason :=
    if violation then ⟨"schema_blocked", guardrailRuleFromAction t.guardrailAction, ""⟩
    else ⟨"allowed", "", ""⟩
  let attempts := w.attempts.modifyLast fun a => { a with
    statusCode := t.statusCode
    latencyMs := t.latencyMs
    errorType := t.errorType
    errorMsg := t.errorMsg }
  recordEvidence h t attempts (w.reasons ++ [reason])
  recordSpend h ctx cost
  return .ok (.stream r.writes cost)

def handleStream
    (req : ChatCompletionRequest) (start : Int) : GProg (Reply ChatBody) :=
  if flusher = false then pure (writeError h 500 "internal_error" "streaming unsupported")
  else do
    let reqTrace ← newTrace h ctx req ""
    match ← streamLoop h ctx req reqTrace chain 0 chain .start with
    | (w, none) => exhausted h reqTrace true start w
    | (w, some (t, stream)) => do
        let r ← relayLoop h start stream.events (.start t)
        finishStream h ctx req start w r

def dispatchChat (req : ChatCompletionRequest) :
    GProg (Reply ChatBody) := do
  match ← resolveChain h ctx req with
  | .error reply => return reply
  | .ok chain =>
    let start ← now
    if req.stream then handleStream h ctx flusher chain req start
    else handleUnary h ctx chain req start

def chatCompletions
    (body : Except String ChatCompletionRequest) : GProg (Reply ChatBody) :=
  match body with
  | .error err => pure (writeError h 400 "invalid_request_error" err)
  | .ok req =>
    if req.model = "" ∨ req.messages.length = 0 then
      pure (writeError h 400 "invalid_request_error" "model and messages are required")
    else
      let f := checkInput h.guard (promptText req.messages)
      if f.blocked then do
        recordGuardrailBlock h ctx req f
        return writeError h 403 "guardrail_blocked" f.reason
      else dispatchChat h ctx flusher req

end FfxNexus.Chat
