/-
**Strict BYOK.** With `KeyModeStrictBYOK` and a resolver, a provider is to be called only under a
credential the resolver returned for that caller and provider.
-/
import FfxNexus.Dispatch

namespace FfxNexus.Credentials
open Interaction Schema Providers Gateway Translated Endpoints Dispatch
open Interaction.Prog hiding perform

variable (env : Env)

def OwnKey (ctx : Ctx) (c : Call) : Prop :=
  ∃ cred, env.answers ctx.orgID ctx.userID c.provider.name = .found cred ∧
    c.ctx.callerCredentialFrom = some cred.caller

def Keyed (ctx : Ctx) (provider : String) : Prop :=
  ∃ cred, env.answers ctx.orgID ctx.userID provider = .found cred ∧ cred.secret ≠ ""

def ChatCovered (h : Handler) (ctx : Ctx) (flusher : Bool)
    (body : Except String ChatCompletionRequest) : Prop :=
  ∀ req, admitted h body = some req → (req.stream = true → flusher = true) →
    ∀ m ∈ chainModels h ctx env.stats req.model, ∀ p fwd,
      h.registry.resolve m = .ok (p, fwd) →
      ∀ cred, env.answers ctx.orgID ctx.userID p.name = .found cred → cred.secret ≠ ""

def TranslatedCovered (h : Handler) (ctx : Ctx) (flusher stream : Bool)
    (chat : ChatCompletionRequest) : Prop :=
  ∀ refs, pickResponsesChain h chat.model = some refs →
    if stream then flusher = true → ∀ ref ∈ refs, Keyed env ctx ref.provider.name
    else ∀ ref, refs.head? = some ref → Keyed env ctx ref.provider.name ∨
      ∃ err, env.answers ctx.orgID ctx.userID ref.provider.name = .failed err

def CapabilityCovered (h : Handler) (ctx : Ctx) (k : Capability)
    (body : Except String CapabilityRequest) : Prop :=
  ∀ req, body = .ok req → k.refusal req = none → k.badEncoding req = false →
    ∀ order p model, order.Perm (registered h) → k.resolve order req.model = some (p, model) →
      Keyed env ctx p.name

def Covered (h : Handler) (ctx : Ctx) (flusher : Bool) : Request → Prop
  | .chat body => ChatCovered env h ctx flusher body
  | .responses body =>
    ∀ sc, responsesChat body = some sc → TranslatedCovered env h ctx flusher sc.1 sc.2
  | .messages body =>
    ∀ sc, messagesChat body = some sc → TranslatedCovered env h ctx flusher sc.1 sc.2
  | .capability k body => CapabilityCovered env h ctx k body

section
variable {env : Env} {h : Handler} {ctx : Ctx}

lemma ownKey_withCallerCredential_iff {m : String} {p : Provider} {cred : ResolvedCredential}
    (hcred : env.answers ctx.orgID ctx.userID p.name = .found cred) :
    OwnKey env ctx ⟨m, p, ctx.withCallerCredential cred.caller⟩ ↔ cred.secret ≠ "" := by
  unfold OwnKey
  rw [hcred]
  unfold Ctx.callerCredentialFrom Ctx.withCallerCredential ResolvedCredential.caller
  by_cases hs : cred.secret = "" <;> simp [hs]

lemma ownKey_overrideContext_iff {m : String} {p : Provider} :
    OwnKey env ctx ⟨m, p, overrideContext ctx
      (some (env.answers ctx.orgID ctx.userID p.name))⟩ ↔ Keyed env ctx p.name := by
  unfold Keyed
  cases hans : env.answers ctx.orgID ctx.userID p.name with
  | found cred =>
    rw [overrideContext, ownKey_withCallerCredential_iff hans]
    simp
  | notFound => simp [OwnKey, hans]
  | failed err => simp [OwnKey, hans]

variable (hmode : h.keyMode = .strictBYOK) (hres : h.credResolver = true)

include hmode hres

lemma injects_ok_iff {provider : String} {callCtx : Ctx} {source : String} :
    Injects env.assumption h ctx provider (.ok (callCtx, source)) ↔
      ∃ cred, env.answers ctx.orgID ctx.userID provider = .found cred ∧
        callCtx = ctx.withCallerCredential cred.caller ∧ source = cred.source := by
  simp only [Injects, hmode, hres, reduceCtorEq, Bool.true_eq_false, or_self, if_false,
    Env.assumption, exists_eq_left]
  cases env.answers ctx.orgID ctx.userID provider <;>
    simp [credentialContext]

lemma looksUp_iff {provider : String} {a : Option CredentialAnswer} :
    LooksUp env.assumption h ctx provider a ↔
      a = some (env.answers ctx.orgID ctx.userID provider) := by
  simp [LooksUp, hmode, hres, Env.assumption]

lemma chatCall_own_iff {flusher : Bool} {body : Except String ChatCompletionRequest} :
    (∀ c, ChatCall env.assumption h ctx flusher body c → OwnKey env ctx c) ↔
      ChatCovered env h ctx flusher body := by
  constructor
  · intro hs req hreq hflush m hm p fwd hp cred hcred
    have hi := (injects_ok_iff hmode hres).mpr ⟨cred, hcred, rfl, rfl⟩
    have := hs ⟨m, p, ctx.withCallerCredential cred.caller⟩
      ⟨req, env.stats, fwd, cred.source, hreq, hflush, rfl, hm, hp, hi⟩
    exact (ownKey_withCallerCredential_iff hcred).mp this
  · rintro hs ⟨m, p, callCtx⟩ ⟨req, stats, fwd, source, hreq, hflush, rfl, hm, hp, hi⟩
    obtain ⟨cred, hcred, rfl, -⟩ := (injects_ok_iff hmode hres).mp hi
    exact (ownKey_withCallerCredential_iff hcred).mpr (hs req hreq hflush m hm p fwd hp cred hcred)

lemma translatedCall_own_iff {flusher stream : Bool} {chat : ChatCompletionRequest} :
    (∀ c, TranslatedCall env.assumption h ctx flusher stream chat c → OwnKey env ctx c) ↔
      TranslatedCovered env h ctx flusher stream chat := by
  have refused : ∀ provider : String,
      Refused h (some (env.answers ctx.orgID ctx.userID provider)) ↔
        ∃ err, env.answers ctx.orgID ctx.userID provider = .failed err := by
    intro provider
    simp [Refused, hmode]
  simp only [TranslatedCall, TranslatedCovered, looksUp_iff hmode hres]
  constructor
  · intro hs refs hrefs
    cases stream with
    | true =>
      intro hflush ref href
      exact ownKey_overrideContext_iff.mp (hs _ ⟨refs, ref, _, hrefs, rfl, rfl, hflush, href⟩)
    | false =>
      intro ref hhead
      by_cases hr : ∃ err, env.answers ctx.orgID ctx.userID ref.provider.name = .failed err
      · exact .inr hr
      · have hr := mt (refused _).mp hr
        exact .inl (ownKey_overrideContext_iff.mp (hs _ ⟨refs, ref, _, hrefs, rfl, rfl, hhead, hr⟩))
  · rintro hs _ ⟨refs, ref, _, hrefs, rfl, rfl, hcall⟩
    have := hs refs hrefs
    cases stream with
    | true => exact ownKey_overrideContext_iff.mpr (this hcall.1 ref hcall.2)
    | false =>
      rcases this ref hcall.1 with hkey | hfailed
      · exact ownKey_overrideContext_iff.mpr hkey
      · exact absurd ((refused _).mpr hfailed) hcall.2

lemma capabilityCall_own_iff {k : Capability} {body : Except String CapabilityRequest} :
    (∀ c, CapabilityCall env.assumption h ctx k body c → OwnKey env ctx c) ↔
      CapabilityCovered env h ctx k body := by
  constructor
  · intro hs req hbody hrefusal henc order p model hperm hp
    exact ownKey_overrideContext_iff.mp (hs _ ⟨req, order, p, model, _, hbody, hrefusal, henc,
      hperm, hp, (looksUp_iff hmode hres).mpr rfl, rfl⟩)
  · rintro hs _ ⟨req, order, p, model, a, hbody, hrefusal, henc, hperm, hp, ha, rfl⟩
    obtain rfl := (looksUp_iff hmode hres).mp ha
    exact ownKey_overrideContext_iff.mpr (hs req hbody hrefusal henc order p model hperm hp)

end

theorem strict_calls_iff (env : Env) (h : Handler) (ctx : Ctx) (flusher : Bool) (req : Request)
    (hmode : h.keyMode = .strictBYOK) (hres : h.credResolver = true) :
    (∀ log reply, (serve h ctx flusher req).Runs log reply →
      (∀ e ∈ log, env.assumption.rely e.1 e.2) → ∀ c ∈ calls log, OwnKey env ctx c) ↔
      Covered env h ctx flusher req := by
  rw [calls_iff_mayCall]
  cases req with
  | chat body => exact chatCall_own_iff hmode hres
  | responses body =>
    exact forall_translatedCall_iff.trans
      (forall₂_congr fun sc _ => translatedCall_own_iff hmode hres)
  | messages body =>
    exact forall_translatedCall_iff.trans
      (forall₂_congr fun sc _ => translatedCall_own_iff hmode hres)
  | capability k body => exact capabilityCall_own_iff hmode hres

def embedder : Provider := ⟨1, "openai", some ["text-embedding-3-small"], none, none⟩

def strictHandler : Handler :=
  { newHandler (newRegistry.register embedder ["gpt-4o"]) true false blankCodec blankText with
    credResolver := true
    keyMode := .strictBYOK }

def embeddingBody : CapabilityRequest := ⟨"text-embedding-3-small", "\"hello\"", "", ""⟩

def allKeys : Env := ⟨fun _ _ _ => .found ⟨"sk-own", "", "user", "cred-1"⟩, fun _ => none⟩

lemma keyed_allKeys (ctx : Ctx) (provider : String) : Keyed allKeys ctx provider :=
  ⟨_, rfl, by decide⟩

theorem strict_calls_iff_allKeys :
    Covered allKeys strictHandler caller true (.capability .embeddings (.ok embeddingBody)) ∧
      ∀ log reply, (serve strictHandler caller true
          (.capability .embeddings (.ok embeddingBody))).Runs log reply →
        (∀ e ∈ log, allKeys.assumption.rely e.1 e.2) →
          ∀ c ∈ calls log, OwnKey allKeys caller c := by
  have hcovered : Covered allKeys strictHandler caller true
      (.capability .embeddings (.ok embeddingBody)) :=
    fun _ _ _ _ _ p _ _ _ => keyed_allKeys caller p.name
  exact ⟨hcovered, (strict_calls_iff allKeys strictHandler caller true _ rfl rfl).mpr hcovered⟩

theorem strict_embeddings_without_key : ∃ log reply c, (serve strictHandler caller true
        (.capability .embeddings (.ok embeddingBody))).Runs log reply ∧
      (∀ e ∈ log, noKeys.assumption.rely e.1 e.2) ∧ c ∈ calls log ∧
      c.ctx.callerCredentialFrom = none ∧ ¬ OwnKey noKeys caller c := by
  refine ⟨_, _, ⟨"text-embedding-3-small", embedder, caller⟩,
    execute_runs noKeys.oracle _, noKeys.execute_relies _, by decide, rfl, ?_⟩
  rintro ⟨cred, hcred, -⟩
  cases hcred

end FfxNexus.Credentials
