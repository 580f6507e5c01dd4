/-
**What each piece of a handler can do to the outside.**
-/
import FfxNexus.Endpoints

namespace FfxNexus.Effects
open Interaction Schema Providers Guardrails Gateway Chat Translated Endpoints List

inductive Effect where
  | clock | routing | credential | call | cache | record | spend | alert
deriving DecidableEq

def effect : Op → Effect
  | .now | .newUUID => .clock
  | .rangeProviders _ | .readStats | .lbNext _ _ _ => .routing
  | .resolveCredential _ _ _ _ => .credential
  | .chatCompletion _ _ _ _ | .chatCompletionStream _ _ _ _ => .call
  | .embed _ _ _ _ | .moderate _ _ _ _ | .generateImages _ _ _ _ => .call
  | .embedPrompt _ | .cacheLookup _ _ _ _ _ | .cacheStore _ _ _ _ _ _ => .cache
  | .record _ => .record
  | .addSpend _ _ => .spend
  | .rangeAliases _ | .notifyFailover _ => .alert

def Within {α : Type} (es : List Effect) (p : GProg α) : Prop :=
  p.Spec (fun _ _ => True) (fun o => effect o ∈ es) fun _ => True

section
variable {α β : Type} {es es' : List Effect}

@[simp] lemma within_pure (a : α) : Within es (pure a : GProg α) := trivial

lemma within_perform {o : Op} (h : effect o ∈ es) : Within es (perform o) :=
  ⟨h, fun _ _ => trivial⟩

lemma Within.bind {p : GProg α} {f : α → GProg β} (hp : Within es p)
    (hf : ∀ x, Within es (f x)) : Within es (p >>= f) :=
  Prog.Spec.bind hp hf

lemma Within.mono {p : GProg α} (h : Within es p) (hes : es ⊆ es') : Within es' p :=
  Prog.Spec.weaken h (fun _ _ _ => trivial) fun _ ho => hes ho

lemma within_ite {c : Prop} [Decidable c] {p q : GProg α} (hp : Within es p)
    (hq : Within es q) : Within es (if c then p else q) := by
  split
  · exact hp
  · exact hq

lemma Within.runs {p : GProg α} {log : List GEvent} {r : α} (h : Within es p)
    (hrun : p.Runs log r) : ∀ e ∈ log, effect e.1 ∈ es :=
  (hrun.spec h fun _ _ => trivial).1

end

def chatCall? : Op → Option (Provider × String)
  | .chatCompletion _ p _ req => some (p, req.model)
  | .chatCompletionStream _ p _ req => some (p, req.model)
  | _ => none

def trace? : Op → Option Trace
  | .record t => some t
  | _ => none

def spend? : Op → Option (String × ℚ)
  | .addSpend vkeyID costUSD => some (vkeyID, costUSD)
  | _ => none

/-- The providers a run calls for a chat, each with the model it is asked for. -/
def called (log : List GEvent) : List (Provider × String) := log.filterMap fun e => chatCall? e.1

def records (log : List GEvent) : List Trace := log.filterMap fun e => trace? e.1

def spends (log : List GEvent) : List (String × ℚ) := log.filterMap fun e => spend? e.1

section
variable {α : Type} {es : List Effect} {p : GProg α} {log : List GEvent} {r : α}
variable (l l' : List GEvent)

@[simp] lemma called_append : called (l ++ l') = called l ++ called l' := filterMap_append

@[simp] lemma records_append : records (l ++ l') = records l ++ records l' := filterMap_append

@[simp] lemma spends_nil : spends [] = [] := rfl

@[simp] lemma spends_append : spends (l ++ l') = spends l ++ spends l' := filterMap_append

lemma Within.filterMap_eq_nil {γ : Type} {f : GEvent → Option γ} {x : Effect}
    (hf : ∀ e, f e ≠ none → effect e.1 = x) (h : Within es p) (hx : x ∉ es)
    (hrun : p.Runs log r) : log.filterMap f = [] := by
  refine filterMap_eq_nil_iff.mpr fun e he => ?_
  by_contra hne
  exact hx (hf e hne ▸ h.runs hrun e he)

variable (h : Within es p)

include h

lemma Within.called_eq_nil (hrun : p.Runs log r) (hx : decide (.call ∈ es) = false) :
    called log = [] := by
  refine h.filterMap_eq_nil (fun e he => ?_) (of_decide_eq_false hx) hrun
  obtain ⟨o, x⟩ := e
  cases o <;> first | rfl | exact absurd rfl he

lemma Within.records_eq_nil (hrun : p.Runs log r) (hx : decide (.record ∈ es) = false) :
    records log = [] := by
  refine h.filterMap_eq_nil (fun e he => ?_) (of_decide_eq_false hx) hrun
  obtain ⟨o, x⟩ := e
  cases o <;> first | rfl | exact absurd rfl he

lemma Within.spends_eq_nil (hrun : p.Runs log r) (hx : decide (.spend ∈ es) = false) :
    spends log = [] := by
  refine h.filterMap_eq_nil (fun e he => ?_) (of_decide_eq_false hx) hrun
  obtain ⟨o, x⟩ := e
  cases o <;> first | rfl | exact absurd rfl he

end

lemma now_within : Within [.clock] now := within_perform (by simp [effect])

lemma newUUID_within : Within [.clock] newUUID := within_perform (by simp [effect])

variable (h : Handler) (ctx : Ctx) (req : ChatCompletionRequest) (chain : List String)
variable (cand : Candidate) (reqTrace t : Trace) (start : Int)

lemma sinceMs_within : Within [.clock] (sinceMs start) :=
  now_within.bind fun _ => trivial

lemma newTrace_within (name : String) : Within [.clock] (newTrace h ctx req name) :=
  newUUID_within.bind fun _ => newUUID_within.bind fun _ => now_within.bind fun _ => trivial

lemma recordEvidence_within (attempts : List ProviderAttempt) (reasons : List PolicyReason) :
    Within [.record] (recordEvidence h t attempts reasons) :=
  within_ite (within_perform (by simp [effect])) trivial

lemma recordTrace_within : Within [.record] (recordTrace t) :=
  within_perform (by simp [effect])

lemma recordSpend_within (cost : ℚ) : Within [.spend] (recordSpend h ctx cost) :=
  within_ite trivial <|
    within_ite ((within_perform (by simp [effect])).bind fun _ => trivial) trivial

lemma recordPolicyDenied_within (status : ℕ) (code detail : String) :
    Within [.clock, .record] (recordPolicyDenied h ctx req status code detail) :=
  ((newTrace_within h ctx req "").mono (by decide)).bind fun _ =>
    (recordEvidence_within h _ _ _).mono (by decide)

lemma recordGuardrailBlock_within (f : Finding) :
    Within [.clock, .record] (recordGuardrailBlock h ctx req f) :=
  ((newTrace_within h ctx req "").mono (by decide)).bind fun _ =>
    (recordEvidence_within h _ _ _).mono (by decide)

lemma injectCredential_within (ctx : Ctx) (provider : String) :
    Within [.credential] (injectCredential h cand ctx provider) :=
  within_ite trivial ((within_perform (by simp [effect])).bind fun _ => trivial)

lemma lookupCredential_within (ctx : Ctx) (provider : String) :
    Within [.credential] (lookupCredential h cand ctx provider) :=
  within_ite ((within_perform (by simp [effect])).bind fun _ => trivial) trivial

lemma beginAttempt_within (cand : Candidate) (provider : Provider) (streamed : Bool) :
    Within [.clock] (beginAttempt h ctx req reqTrace cand provider streamed) :=
  (newTrace_within h ctx req provider.name).bind fun _ =>
    (within_perform (by simp [effect])).bind fun _ => trivial

lemma missingCredential_within (chainLen : ℕ) (cand : Candidate) (t : Trace) (start : Int)
    (err : String) (w : Walk) : Within [.clock] (missingCredential chainLen cand t start err w) :=
  (sinceMs_within start).bind fun _ => trivial

lemma exhaustedTrace_within (streamed : Bool) (start : Int) (w : Walk) (msg : String) :
    Within [.clock] (exhaustedTrace reqTrace streamed start w msg) := by
  unfold exhaustedTrace
  cases w.lastTrace with
  | some t => trivial
  | none => exact (sinceMs_within start).bind fun _ => trivial

lemma exhausted_within (streamed : Bool) (start : Int) (w : Walk) :
    Within [.clock, .record] (exhausted h reqTrace streamed start w) :=
  ((exhaustedTrace_within ..).mono (by decide)).bind fun _ =>
    ((recordEvidence_within h _ _ _).mono (by decide)).bind fun _ => trivial

lemma embedAndLookup_within (scope model prompt : String) :
    Within [.cache] (embedAndLookup chain scope model prompt) := by
  refine (within_perform (by simp [effect])).bind fun x => ?_
  cases x with
  | error err => trivial
  | ok vec =>
    refine (within_perform (by simp [effect])).bind fun y => ?_
    cases y <;> trivial

lemma serviceLookup_within (s : CacheService) (chain : List String)
    (scope model prompt : String) : Within [.cache] (serviceLookup s chain scope model prompt) := by
  refine within_ite ((within_perform (by simp [effect])).bind fun x => ?_)
    (embedAndLookup_within chain scope model prompt)
  match x with
  | .error err => trivial
  | .ok (some hit) => trivial
  | .ok none => exact within_ite trivial (embedAndLookup_within chain scope model prompt)

lemma serviceStore_within (s : CacheService) (origin : Origin) (scope model prompt : String)
    (vec : List ℚ) (json : String) :
    Within [.cache] (serviceStore s origin scope model prompt vec json) := by
  refine within_ite (within_perform (by simp [effect])) <|
    (within_perform (by simp [effect])).bind fun x => ?_
  cases x with
  | error err => trivial
  | ok vec => exact within_perform (by simp [effect])

lemma lookupCache_within : Within [.cache] (lookupCache h ctx req chain cand) := by
  unfold lookupCache
  cases usesCache h req cand with
  | none => trivial
  | some s =>
    refine (serviceLookup_within s chain _ _ _).bind fun x => ?_
    match x with
    | .error err => trivial
    | .ok (none, vec) => trivial
    | .ok (some hit, vec) =>
      dsimp only
      split <;> trivial

lemma fillCache_within (vec : List ℚ) (resp : ChatCompletionResponse) :
    Within [.cache] (fillCache h ctx req cand vec resp) := by
  unfold fillCache
  split
  · exact (serviceStore_within _ _ _ _ _ _ _).bind fun _ => trivial
  · trivial

variable (w : Walk)

lemma serveCached_within (cached : ChatCompletionResponse) :
    Within [.clock, .record] (serveCached h chain cand t start w cached) :=
  ((sinceMs_within start).mono (by decide)).bind fun _ =>
    ((recordEvidence_within h _ _ _).mono (by decide)).bind fun _ => trivial

lemma serveFresh_within (vec : List ℚ) (w : Walk) (t : Trace) (resp : ChatCompletionResponse) :
    Within [.cache, .record, .spend] (serveFresh h ctx req chain cand vec w t resp) :=
  ((fillCache_within h ctx req cand vec resp).mono (by decide)).bind fun _ =>
    ((recordEvidence_within h _ _ _).mono (by decide)).bind fun _ =>
      ((recordSpend_within h ctx _).mono (by decide)).bind fun _ => trivial

lemma schemaBlocked_within (d : Draft) :
    Within [.clock, .record, .spend] (schemaBlocked h ctx chain cand start w d) :=
  ((sinceMs_within start).mono (by decide)).bind fun _ =>
    ((recordEvidence_within h _ _ _).mono (by decide)).bind fun _ =>
      ((recordSpend_within h ctx _).mono (by decide)).bind fun _ => trivial

lemma unaryFailed_within (err : String) (w : Walk) :
    Within [.clock, .alert] (unaryFailed h req chain cand t start err w) := by
  refine (within_perform (by simp [effect])).bind fun _ =>
    ((sinceMs_within start).mono (by decide)).bind fun _ => within_ite ?_ trivial
  refine (within_perform (by simp [effect])).bind fun _ => ?_
  split
  · exact (within_perform (by simp [effect])).bind fun _ => trivial
  · trivial

lemma correctionLoop_within (g : Option Guard) (cand : Candidate) (provider : Provider)
    (callCtx : Ctx) (schema : String) (n : ℕ) (d : Draft) :
    Within [.call] (correctionLoop g cand provider callCtx schema n d) := by
  -- on the remaining corrections
  induction n generalizing d with
  | zero => trivial
  | succ n ih =>
    refine within_ite trivial ((within_perform (by simp [effect])).bind fun x => ?_)
    cases x with
    | error err => trivial
    | ok cresp => exact within_ite trivial (ih _)

lemma resolveChain_within : Within [.clock, .routing, .record] (resolveChain h ctx req) := by
  have denied : ∀ (status : ℕ) (code detail : String)
      (r : Except (Reply ChatBody) (List String)), Within [.clock, .routing, .record]
        (recordPolicyDenied h ctx req status code detail >>= fun _ => pure r) :=
    fun status code detail r =>
      ((recordPolicyDenied_within h ctx req status code detail).mono (by decide)).bind
        fun _ => trivial
  unfold resolveChain routedChain concreteChain
  split
  · refine within_ite (denied _ _ _ _) ((within_perform (by simp [effect])).bind fun stats => ?_)
    refine within_ite (denied _ _ _ _) ?_
    split
    · exact (within_perform (by simp [effect])).bind fun _ => trivial
    · trivial
  · refine within_ite (denied _ _ _ _) ?_
    split
    · exact denied _ _ _ _
    · trivial

lemma streamAttempt_within (chain : List String) (w : Walk) (cand : Candidate)
    (provider : Provider) (fwdModel : String) : Within [.clock, .credential, .call]
      (streamAttempt h ctx req reqTrace chain w cand provider fwdModel) := by
  refine ((beginAttempt_within ..).mono (by decide)).bind fun begun =>
    ((injectCredential_within ..).mono (by decide)).bind fun x => ?_
  match x with
  | .error err => exact ((missingCredential_within ..).mono (by decide)).bind fun _ => trivial
  | .ok (callCtx, source) =>
    refine (within_perform (by simp [effect])).bind fun y => ?_
    cases y with
    | error err => exact ((sinceMs_within _).mono (by decide)).bind fun _ => trivial
    | ok stream => trivial

lemma streamLoop_within (chain : List String) (i : ℕ) (rest : List String) (w : Walk) :
    Within [.clock, .credential, .call] (streamLoop h ctx req reqTrace chain i rest w) := by
  induction rest generalizing i w with
  | nil => trivial
  | cons model rest ih =>
    rw [streamLoop]
    cases h.registry.resolve model with
    | error err => exact ih _ _
    | ok found =>
      refine (streamAttempt_within ..).bind fun r => ?_
      cases r with
      | next w' => exact ih _ _
      | done x => trivial

variable (events : List StreamEvent)

lemma relayLoop_within (r : Relay) : Within [.clock] (relayLoop h start events r) := by
  induction events generalizing r with
  | nil => trivial
  | cons evt events ih =>
    refine Within.bind ?_ ih
    unfold relayEvent
    split
    · trivial
    refine within_ite trivial ?_
    split
    · split <;> trivial
    · exact Within.bind (within_ite (sinceMs_within start) trivial) fun _ => trivial

lemma finishStream_within (r : Relay) :
    Within [.clock, .record, .spend] (finishStream h ctx req start w r) :=
  ((sinceMs_within start).mono (by decide)).bind fun _ =>
    ((recordEvidence_within h _ _ _).mono (by decide)).bind fun _ =>
      ((recordSpend_within h ctx _).mono (by decide)).bind fun _ => trivial

lemma foldProg_within {σ α : Type} {es : List Effect} {f : σ → α → GProg σ}
    (hf : ∀ s a, Within es (f s a)) (as : List α) (s : σ) : Within es (foldProg f as s) := by
  induction as generalizing s with
  | nil => trivial
  | cons a as ih => exact (hf s a).bind ih

lemma responsesToolCall_within (suffix : String) (st : ResponsesState) (tc : ToolCall) :
    Within [.clock] (responsesToolCall suffix st tc) := by
  refine Within.bind ?_ fun _ => trivial
  unfold responsesToolItem
  split
  · refine Within.bind ?_ fun _ => trivial
    refine within_ite trivial ?_
    exact (within_perform (by simp [effect])).bind fun _ => trivial
  · trivial

lemma responsesEvents_within (respID model suffix : String) (start : Int)
    (events : List StreamEvent) (r : ResponsesRelay) :
    Within [.clock] (responsesEvents respID model suffix start events r) := by
  induction events generalizing r with
  | nil => trivial
  | cons evt events ih =>
    unfold responsesEvents
    split
    · exact (sinceMs_within start).bind fun _ => trivial
    refine within_ite trivial ?_
    split
    · exact ih r
    refine Within.bind ?_ ih
    have choices : ∀ cs st, Within [.clock] (foldProg (responsesChoice suffix) cs st) :=
      foldProg_within fun st dc =>
        (foldProg_within (responsesToolCall_within suffix) _ _).bind fun _ => trivial
    exact Within.bind (within_ite trivial (sinceMs_within start)) fun _ =>
      (choices _ _).bind fun _ => trivial

lemma finishResponses_within (respID suffix : String) (start : Int) (r : ResponsesRelay) :
    Within [.clock, .record, .spend] (finishResponses h ctx req respID suffix start r) :=
  ((sinceMs_within start).mono (by decide)).bind fun _ =>
    ((recordTrace_within _).mono (by decide)).bind fun _ =>
      ((recordSpend_within h ctx _).mono (by decide)).bind fun _ => trivial

lemma messagesToolCall_within (st : MessagesState) (tc : ToolCall) :
    Within [.clock] (messagesToolCall st tc) := by
  unfold messagesToolCall
  dsimp only
  split
  · exact (within_perform (by simp [effect])).bind fun _ => within_ite trivial trivial
  · exact within_ite trivial trivial

lemma messagesEvents_within (st : MessagesState) : Within [.clock] (messagesEvents events st) := by
  induction events generalizing st with
  | nil => trivial
  | cons evt events ih =>
    unfold messagesEvents
    split
    · trivial
    split
    · refine Within.bind (foldProg_within (fun st dc => ?_) _ _) ih
      exact (foldProg_within messagesToolCall_within _ _).bind fun _ => trivial
    · trivial

lemma answerTranslated_within {β : Type} (body : ℚ → ChatCompletionResponse → β)
    (r : Option ChatCompletionResponse × Option Trace) :
    Within [.record, .spend] (answerTranslated h ctx req body r) := by
  unfold answerTranslated
  split
  · trivial
  · trivial
  · exact ((recordTrace_within _).mono (by decide)).bind fun _ =>
      ((recordSpend_within h ctx _).mono (by decide)).bind fun _ => trivial

end FfxNexus.Effects
