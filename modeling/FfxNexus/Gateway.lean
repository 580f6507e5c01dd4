/-
**The gateway's handler and its world** (`internal/gateway/handler.go`, `evidence.go`,
`middleware.go`, `credential_ctx.go`).
-/
import FfxNexus.Guardrails
import FfxNexus.Interaction
import FfxNexus.Pricing
import FfxNexus.Providers
import FfxNexus.Routing
import FfxNexus.Semcache

namespace FfxNexus.Gateway
open Go Interaction Schema Providers Guardrails Routing Pricing

structure CallerCredential where
  secret : String
  baseURL : String
  source : String
deriving DecidableEq

structure Ctx where
  requestID : String
  sessionID : String
  orgID : String
  userID : String
  vkeyID : String
  allowedModels : List String
  minQuality : ℚ
  credential : Option CallerCredential
deriving DecidableEq

variable (ctx : Ctx)

def Ctx.withCallerCredential (c : CallerCredential) : Ctx :=
  { ctx with credential := some c }

def Ctx.callerCredentialFrom : Option CallerCredential :=
  match ctx.credential with
  | some c => if c.secret = "" then none else some c
  | none => none

def modelAllowed (model : String) : Bool :=
  if ctx.allowedModels.length = 0 then true
  else ctx.allowedModels.any fun m => m = model ∨ (cut m '/').map Prod.snd = some model

def filterAllowed (candidates : List String) : List String :=
  candidates.filter (modelAllowed ctx)

def cacheScope : String :=
  if ctx.orgID ≠ "" then ctx.orgID else if ctx.vkeyID ≠ "" then ctx.vkeyID else "default"

structure ProviderAttempt where
  index : ℕ
  provider : String
  model : String
  credentialSource : String
  statusCode : ℕ
  latencyMs : Int
  errorType : String
  errorMsg : String
  cacheHit : Bool
  fallbackAllowed : Bool
deriving DecidableEq

structure PolicyReason where
  code : String
  ruleID : String
  detail : String
deriving DecidableEq

structure Trace where
  traceID : String
  spanID : String
  parentID : String
  timestamp : Int
  orgID : String
  userID : String
  virtualKeyID : String
  sessionID : String
  turnID : String
  credentialSource : String
  operationName : String
  providerName : String
  requestModel : String
  responseModel : String
  inputTokens : Int
  outputTokens : Int
  finishReason : String
  temperature : ℚ
  topP : ℚ
  maxTokens : Int
  streamed : Bool
  ttftMillis : Int
  latencyMs : Int
  costUSD : ℚ
  statusCode : ℕ
  errorType : String
  errorMsg : String
  guardrailAction : String
  guardrailRule : String
  inputMessages : String
  outputMessages : String
  retrievalContexts : String
  evalReference : String
  replicaID : String
  cacheHit : Bool
  attempts : List ProviderAttempt
  policyReasons : List PolicyReason
  egressMode : String
deriving DecidableEq, Inhabited

structure FailoverEvent where
  orgID : String
  virtualKeyID : String
  aliasName : String
  tried : List String
  primary : String
  fallback : String
  reason : String
  latencyMs : Int
  failedAtUnix : Int
  replicaID : String

def attemptFromTrace (t : Trace) (index chainLen : ℕ) : ProviderAttempt where
  index := index
  provider := t.providerName
  model := t.requestModel
  credentialSource := t.credentialSource
  statusCode := t.statusCode
  latencyMs := t.latencyMs
  errorType := t.errorType
  errorMsg := t.errorMsg
  cacheHit := t.cacheHit
  fallbackAllowed := index + 1 < chainLen

def stampSharedTraceID (dst reqTrace : Trace) : Trace :=
  { dst with
    traceID := reqTrace.traceID
    parentID := if dst.parentID = "" then reqTrace.parentID else dst.parentID
    sessionID := if dst.sessionID = "" then reqTrace.sessionID else dst.sessionID
    turnID := if dst.turnID = "" then reqTrace.turnID else dst.turnID }

def guardrailRuleFromAction (action : String) : String :=
  ((cut action ':').map Prod.snd).getD ""

inductive KeyMode where
  | shared | byok | strictBYOK
deriving DecidableEq

structure CacheService where
  hasEmbedder : Bool
  cfg : Semcache.EffectiveConfig
  usable : hasEmbedder = true ∨ cfg.exactMatch = true

structure ResponseCodec where
  marshal : ChatCompletionResponse → Option String
  unmarshal : String → Option ChatCompletionResponse
  faithful : ∀ r b r', marshal r = some b → unmarshal b = some r' →
    r'.model = r.model ∧ r'.content? = r.content?

structure TextEngine where
  marshalMessages : List Message → String
  marshalContexts : List String → String
  deriveTurnKey : String → List Message → String
  scrub : String → String

structure Handler where
  registry : Registry
  recorder : Bool
  limiter : Bool
  router : Option Weights
  groups : GoMap String (List String)
  guard : Option Guard
  selfCorrectMax : ℕ
  lb : Bool
  scache : Option CacheService
  credResolver : Bool
  keyMode : KeyMode
  replicaID : String
  failoverNotify : Bool
  egressMode : String
  codec : ResponseCodec
  text : TextEngine

variable (h : Handler) (ctx : Ctx) (t : Trace) (attempts : List ProviderAttempt)
  (req : ChatCompletionRequest) (reasons : List PolicyReason)

def newHandler (registry : Registry) (recorder limiter : Bool) (codec : ResponseCodec)
    (text : TextEngine) : Handler where
  registry := registry
  recorder := recorder
  limiter := limiter
  router := none
  groups := ∅
  guard := none
  selfCorrectMax := 0
  lb := false
  scache := none
  credResolver := false
  keyMode := .shared
  replicaID := ""
  failoverNotify := false
  egressMode := ""
  codec := codec
  text := text

def routeCandidates (model : String) : Option (List String) :=
  if model = "auto" then some h.registry.allModels else h.groups.lookup model

structure ResolvedCredential where
  secret : String
  baseURL : String
  source : String
  id : String
deriving DecidableEq

def ResolvedCredential.caller (c : ResolvedCredential) : CallerCredential :=
  ⟨c.secret, c.baseURL, c.source⟩

inductive CredentialAnswer where
  | found (cred : ResolvedCredential)
  | notFound
  | failed (err : String)
deriving DecidableEq

structure Candidate where
  index : ℕ
  model : String
deriving DecidableEq

structure Origin where
  producer : String
  ctx : Ctx
  req : ChatCompletionRequest
deriving DecidableEq

structure CapabilityRequest where
  model : String
  input : String
  encodingFormat : String
  rest : String

inductive Op where
  | now
  | newUUID
  | rangeProviders (ps : List Provider)
  | rangeAliases (names : List String)
  | readStats
  | lbNext (group : String) (ranked : List String) (many : 1 < ranked.length)
  | resolveCredential (cand : Candidate) (orgID userID provider : String)
  | chatCompletion (cand : Candidate) (p : Provider) (ctx : Ctx) (req : ChatCompletionRequest)
  | chatCompletionStream (cand : Candidate) (p : Provider) (ctx : Ctx)
      (req : ChatCompletionRequest)
  | embed (cand : Candidate) (p : Provider) (ctx : Ctx) (req : CapabilityRequest)
  | moderate (cand : Candidate) (p : Provider) (ctx : Ctx) (req : CapabilityRequest)
  | generateImages (cand : Candidate) (p : Provider) (ctx : Ctx) (req : CapabilityRequest)
  | embedPrompt (prompt : String)
  | cacheLookup (chain : List String) (scope model prompt : String) (vec : List ℚ)
  | cacheStore (origin : Origin) (scope model prompt : String) (vec : List ℚ) (json : String)
  | record (t : Trace)
  | addSpend (vkeyID : String) (costUSD : ℚ)
  | notifyFailover (ev : FailoverEvent)

abbrev Ans : Op → Type
  | .now => Int
  | .newUUID => String
  | .rangeProviders ps => { l : List Provider // l.Perm ps }
  | .rangeAliases names => { l : List String // l.Perm names }
  | .readStats => Stats
  | .lbNext _ ranked _ => Fin ranked.length
  | .resolveCredential _ _ _ _ => CredentialAnswer
  | .chatCompletion _ _ _ _ => Except String ChatCompletionResponse
  | .chatCompletionStream _ _ _ _ => Except String UpstreamStream
  | .embed _ _ _ _ => Except String String
  | .moderate _ _ _ _ => Except String String
  | .generateImages _ _ _ _ => Except String String
  | .embedPrompt _ => Except String (List ℚ)
  | .cacheLookup _ _ _ _ _ => Except String (Option (Semcache.Hit String))
  | .cacheStore _ _ _ _ _ _ => Except String Unit
  | .record _ => Unit
  | .addSpend _ _ => Except String Unit
  | .notifyFailover _ => Unit

abbrev GProg (α : Type) : Type := Prog Ans α

abbrev GEvent : Type := Prog.Event Ans

abbrev perform (o : Op) : GProg (Ans o) := Prog.perform o

abbrev now : GProg Int := perform .now

abbrev newUUID : GProg String := perform .newUUID

def sinceMs (start : Int) : GProg Int := do
  let t ← now
  return (t - start).tdiv 1000000

def evidence : Trace :=
  { t with
    attempts := attempts
    policyReasons := reasons
    egressMode := h.egressMode
    guardrailRule :=
      if t.guardrailRule = "" then guardrailRuleFromAction t.guardrailAction
      else t.guardrailRule }

def recordEvidence : GProg Unit :=
  if h.recorder then perform (.record (evidence h t attempts reasons)) else pure ()

def recordSpend (costUSD : ℚ) : GProg Unit :=
  if h.limiter = false ∨ costUSD ≤ 0 then pure ()
  else if ctx.vkeyID ≠ "" then do
    let _ ← perform (.addSpend ctx.vkeyID costUSD)
    return ()
  else pure ()

def newTrace (providerName : String) :
    GProg Trace := do
  let traceID ← newUUID
  let spanID ← newUUID
  let timestamp ← now
  return {
    traceID, spanID, timestamp
    parentID := ctx.requestID
    orgID := ctx.orgID
    userID := ctx.userID
    virtualKeyID := ctx.vkeyID
    sessionID := ctx.sessionID
    turnID := h.text.deriveTurnKey ctx.userID req.messages
    credentialSource := ""
    operationName := "chat"
    providerName := providerName
    requestModel := req.model
    responseModel := ""
    inputTokens := 0
    outputTokens := 0
    finishReason := ""
    temperature := req.temperature.getD 0
    topP := req.topP.getD 0
    maxTokens := req.maxTokens.getD 0
    streamed := false
    ttftMillis := 0
    latencyMs := 0
    costUSD := 0
    statusCode := 0
    errorType := ""
    errorMsg := ""
    guardrailAction := ""
    guardrailRule := ""
    inputMessages := h.text.marshalMessages req.messages
    outputMessages := ""
    retrievalContexts :=
      match req.nexusEval with
      | some e => if 0 < e.contexts.length then h.text.marshalContexts e.contexts else ""
      | none => ""
    evalReference := (req.nexusEval.map NexusEvalContext.reference).getD ""
    replicaID := h.replicaID
    cacheHit := false
    attempts := []
    policyReasons := []
    egressMode := "" }

def recordPolicyDenied (status : ℕ)
    (code detail : String) : GProg Unit := do
  let t ← newTrace h ctx req ""
  recordEvidence h { t with statusCode := status, errorType := code, errorMsg := detail } []
    [⟨code, "", detail⟩]

def recordGuardrailBlock (f : Finding) :
    GProg Unit := do
  let t ← newTrace h ctx req ""
  recordEvidence h { t with
      statusCode := 403
      errorType := "guardrail_blocked"
      errorMsg := f.reason
      guardrailAction := "input_blocked:" ++ f.rule
      guardrailRule := f.rule } []
    [⟨"guardrail_blocked", f.rule, f.reason⟩]

abbrev resolveCredential (cand : Candidate) (ctx : Ctx) (provider : String) :
    GProg CredentialAnswer :=
  perform (.resolveCredential cand ctx.orgID ctx.userID provider)

def missingBYOKKey (provider : String) : String :=
  "no API key registered for provider " ++ provider

def credentialContext (mode : KeyMode) (ctx : Ctx) (provider : String) :
    CredentialAnswer → Except String (Ctx × String)
  | .found cred => .ok (ctx.withCallerCredential cred.caller, cred.source)
  | .notFound =>
    if mode = .strictBYOK then .error (missingBYOKKey provider) else .ok (ctx, "env")
  | .failed _ =>
    if mode = .strictBYOK then .error (missingBYOKKey provider) else .ok (ctx, "env")

def injectCredential (cand : Candidate) (ctx : Ctx) (provider : String) :
    GProg (Except String (Ctx × String)) :=
  if h.keyMode = .shared ∨ h.credResolver = false then pure (.ok (ctx, "env"))
  else do
    let answer ← resolveCredential cand ctx provider
    return credentialContext h.keyMode ctx provider answer

inductive Reply (β : Type) where
  | error (status : ℕ) (errType message : String)
  | ok (body : β)
deriving DecidableEq

def Reply.status {β : Type} : Reply β → ℕ
  | .error status _ _ => status
  | .ok _ => 200

def writeError {β : Type} (h : Handler) (status : ℕ) (errType message : String) : Reply β :=
  .error status errType (h.text.scrub message)

end FfxNexus.Gateway
