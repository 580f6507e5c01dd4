/-
**The allow-list of a virtual key.** A key with `AllowedModels` is to reach a provider only for the
models on its list.
-/
import FfxNexus.Dispatch

namespace FfxNexus.AllowList
open Interaction Schema Providers Gateway Translated Endpoints Dispatch
open Interaction.Prog hiding perform

def anything : Assumption where
  credential _ _ _ _ := True
  stats _ := True
  credential_some _ _ _ := ⟨.notFound, trivial⟩
  stats_some := ⟨fun _ => none, trivial⟩

lemma anything_rely (o : Op) (x : Ans o) : anything.rely o x := by
  cases o <;> trivial

def TranslatedWithin (h : Handler) (ctx : Ctx) (flusher stream : Bool)
    (chat : ChatCompletionRequest) : Prop :=
  ∀ refs, pickResponsesChain h chat.model = some refs →
    if stream then flusher = true → ∀ ref ∈ refs, modelAllowed ctx ref.model = true
    else ∀ ref, refs.head? = some ref → modelAllowed ctx ref.model = true

def CapabilityWithin (h : Handler) (ctx : Ctx) (k : Capability)
    (body : Except String CapabilityRequest) : Prop :=
  ∀ req, body = .ok req → k.refusal req = none → k.badEncoding req = false →
    ∀ order p model, order.Perm (registered h) → k.resolve order req.model = some (p, model) →
      modelAllowed ctx (withModel req model).model = true

def Within (h : Handler) (ctx : Ctx) (flusher : Bool) : Request → Prop
  | .chat _ => True
  | .responses body =>
    ∀ sc, responsesChat body = some sc → TranslatedWithin h ctx flusher sc.1 sc.2
  | .messages body =>
    ∀ sc, messagesChat body = some sc → TranslatedWithin h ctx flusher sc.1 sc.2
  | .capability k body => CapabilityWithin h ctx k body

section
variable {A : Assumption} {h : Handler} {ctx : Ctx} {flusher : Bool}

lemma chatCall_allowed {body : Except String ChatCompletionRequest} {c : Call}
    (hc : ChatCall A h ctx flusher body c) : modelAllowed ctx c.model = true := by
  obtain ⟨req, stats, fwd, source, -, -, -, hm, -⟩ := hc
  exact modelAllowed_of_mem_chainModels hm

lemma exists_looksUp_not_refused (h : Handler) (ctx : Ctx) (provider : String) :
    ∃ a, LooksUp anything h ctx provider a ∧ ¬ Refused h a := by
  unfold LooksUp
  split
  · refine ⟨some (.found ⟨"", "", "", ""⟩), ⟨_, trivial, rfl⟩, ?_⟩
    rintro ⟨-, err, herr⟩
    cases herr
  · refine ⟨none, rfl, ?_⟩
    rintro ⟨-, err, herr⟩
    cases herr

lemma translatedCall_allowed_iff {stream : Bool} {chat : ChatCompletionRequest} :
    (∀ c, TranslatedCall anything h ctx flusher stream chat c → modelAllowed ctx c.model = true) ↔
      TranslatedWithin h ctx flusher stream chat := by
  constructor
  · intro hs refs hrefs
    cases stream with
    | true =>
      intro hflush ref href
      obtain ⟨a, ha⟩ := looksUp_some anything h ctx ref.provider.name
      exact hs _ ⟨refs, ref, a, hrefs, ha, rfl, hflush, href⟩
    | false =>
      intro ref hhead
      obtain ⟨a, ha, hr⟩ := exists_looksUp_not_refused h ctx ref.provider.name
      exact hs _ ⟨refs, ref, a, hrefs, ha, rfl, hhead, hr⟩
  · rintro hs _ ⟨refs, ref, a, hrefs, ha, rfl, hcall⟩
    have := hs refs hrefs
    cases stream with
    | true => exact this hcall.1 ref hcall.2
    | false => exact this ref hcall.1

lemma capabilityCall_allowed_iff {k : Capability} {body : Except String CapabilityRequest} :
    (∀ c, CapabilityCall anything h ctx k body c → modelAllowed ctx c.model = true) ↔
      CapabilityWithin h ctx k body := by
  constructor
  · intro hs req hbody hrefusal henc order p model hperm hp
    obtain ⟨a, ha⟩ := looksUp_some anything h ctx p.name
    exact hs _ ⟨req, order, p, model, a, hbody, hrefusal, henc, hperm, hp, ha, rfl⟩
  · rintro hs _ ⟨req, order, p, model, a, hbody, hrefusal, henc, hperm, hp, -, rfl⟩
    exact hs req hbody hrefusal henc order p model hperm hp

end

theorem allowed_calls_iff (h : Handler) (ctx : Ctx) (flusher : Bool) (req : Request) :
    (∀ log reply, (serve h ctx flusher req).Runs log reply →
      ∀ c ∈ calls log, modelAllowed ctx c.model = true) ↔ Within h ctx flusher req := by
  have hcalls := calls_iff_mayCall anything (fun c => modelAllowed ctx c.model = true) h ctx
    flusher req
  simp only [anything_rely, implies_true, true_imp_iff] at hcalls
  rw [hcalls]
  cases req with
  | chat body => exact ⟨fun _ => trivial, fun _ c hc => chatCall_allowed hc⟩
  | responses body =>
    exact forall_translatedCall_iff.trans
      (forall₂_congr fun sc _ => translatedCall_allowed_iff)
  | messages body =>
    exact forall_translatedCall_iff.trans
      (forall₂_congr fun sc _ => translatedCall_allowed_iff)
  | capability k body => exact capabilityCall_allowed_iff

def twoModels : Handler :=
  newHandler (newRegistry.register openai ["gpt-4o", "gpt-4o-mini"]) true false blankCodec
    blankText

def restrictedKey : Ctx := { caller with allowedModels := ["gpt-4o-mini"] }

theorem responses_ignores_allowList : ∃ log reply c, (serve twoModels restrictedKey true
        (.responses (.ok ⟨"gpt-4o", false, .ok (plainRequest "gpt-4o")⟩))).Runs log reply ∧
      c ∈ calls log ∧ c.model = "gpt-4o" ∧ modelAllowed restrictedKey "gpt-4o" = false := by
  exact ⟨_, _, ⟨"gpt-4o", openai, restrictedKey⟩, execute_runs noKeys.oracle _, by decide,
    rfl, by decide⟩

end FfxNexus.AllowList
