/-
**Which provider calls a request can make.**
-/
import FfxNexus.Effects

namespace FfxNexus.Dispatch
open Interaction Schema Providers Guardrails Routing Gateway Chat Translated List
open Endpoints Effects
open Interaction.Prog hiding perform

structure Call where
  model : String
  provider : Provider
  ctx : Ctx
deriving DecidableEq

def call? : Op → Option Call
  | .chatCompletion cand p ctx _ => some ⟨cand.model, p, ctx⟩
  | .chatCompletionStream cand p ctx _ => some ⟨cand.model, p, ctx⟩
  | .embed cand p ctx _ => some ⟨cand.model, p, ctx⟩
  | .moderate cand p ctx _ => some ⟨cand.model, p, ctx⟩
  | .generateImages cand p ctx _ => some ⟨cand.model, p, ctx⟩
  | _ => none

def calls (log : List GEvent) : List Call := log.filterMap fun e => call? e.1

lemma effect_of_call {o : Op} {c : Call} (h : call? o = some c) : effect o = .call := by
  cases o <;> first | rfl | cases h

structure Assumption where
  credential : (org user provider : String) → CredentialAnswer → Prop
  stats : Stats → Prop
  credential_some : ∀ org user provider, ∃ a, credential org user provider a
  stats_some : ∃ s, stats s

def Assumption.rely (A : Assumption) : (o : Op) → Ans o → Prop
  | .resolveCredential _ org user provider, a => A.credential org user provider a
  | .readStats, s => A.stats s
  | _, _ => True

lemma answer_nonempty (o : Op) : Nonempty (Ans o) := by
  cases o with
  | now => exact ⟨(0 : Int)⟩
  | newUUID => exact ⟨""⟩
  | rangeProviders ps => exact ⟨⟨ps, .refl ps⟩⟩
  | rangeAliases names => exact ⟨⟨names, .refl names⟩⟩
  | readStats => exact ⟨fun _ => none⟩
  | lbNext _ ranked many => exact ⟨(⟨0, by omega⟩ : Fin ranked.length)⟩
  | resolveCredential _ _ _ _ => exact ⟨.notFound⟩
  | chatCompletion _ _ _ _ => exact ⟨.error ""⟩
  | chatCompletionStream _ _ _ _ => exact ⟨.error ""⟩
  | embed _ _ _ _ => exact ⟨.error ""⟩
  | moderate _ _ _ _ => exact ⟨.error ""⟩
  | generateImages _ _ _ _ => exact ⟨.error ""⟩
  | embedPrompt _ => exact ⟨.error ""⟩
  | cacheLookup _ _ _ _ _ => exact ⟨.error ""⟩
  | cacheStore _ _ _ _ _ _ => exact ⟨.error ""⟩
  | record _ => exact ⟨()⟩
  | addSpend _ _ => exact ⟨.error ""⟩
  | notifyFailover _ => exact ⟨()⟩

lemma Assumption.rely_some (A : Assumption) (o : Op) : ∃ x, A.rely o x := by
  obtain ⟨x⟩ := answer_nonempty o
  cases o with
  | readStats => exact A.stats_some
  | resolveCredential _ org user provider => exact A.credential_some org user provider
  | _ => exact ⟨x, trivial⟩

def Safe {α : Type} (A : Assumption) (G : Call → Prop) (p : GProg α) : Prop :=
  p.Spec A.rely (fun o => ∀ c, call? o = some c → G c) fun _ => True

variable {A : Assumption} {G : Call → Prop} {h : Handler} {ctx : Ctx}

section
variable {α β σ : Type} {es : List Effect}

@[simp] lemma safe_ret (a : α) : Safe A G (.ret a : GProg α) := trivial

variable {p : GProg α}

lemma safe_of_within (h : Within es p) (hes : decide (.call ∈ es) = false) : Safe A G p := by
  refine Spec.weaken h (fun _ _ _ => trivial) fun o ho c hc => ?_
  rw [effect_of_call hc] at ho
  exact absurd ho (of_decide_eq_false hes)

lemma Safe.bind {f : α → GProg β} (hp : Safe A G p) (hf : ∀ x, Safe A G (f x)) :
    Safe A G (p >>= f) :=
  Prog.Spec.bind hp hf

lemma Safe.of_bind {f : α → GProg β} {x : α} (h : Safe A G (p >>= f)) (hx : Yields A.rely p x) :
    Safe A G (f x) :=
  hx.spec (spec_bind.mp h)

lemma Safe.left {f : α → GProg β} (h : Safe A G (p >>= f)) : Safe A G p :=
  Spec.mono (spec_bind.mp h) fun _ _ => trivial

lemma safe_bind_iff {f : α → GProg β} {Q : Prop} (hp : Within es p)
    (hes : decide (.call ∈ es) = false) (hf : ∀ x, Safe A G (f x) ↔ Q) :
    Safe A G (p >>= f) ↔ Q := by
  constructor
  · intro h
    obtain ⟨x, hx⟩ := exists_yields A.rely_some p
    exact (hf x).mp (h.of_bind hx)
  · intro hQ
    exact (safe_of_within hp hes).bind fun x => (hf x).mpr hQ

lemma safe_call_iff {o : Op} {c : Call} {f : Ans o → GProg β} (hc : call? o = some c)
    (hf : G c → ∀ x, Safe A G (f x)) : Safe A G (perform o >>= f) ↔ G c := by
  constructor
  · intro h
    exact h.1 c hc
  · intro hG
    refine ⟨?_, fun x _ => hf hG x⟩
    intro c' hc'
    rw [hc] at hc'
    cases hc'
    exact hG

lemma safe_perform_iff {o : Op} {f : Ans o → GProg β} (ho : call? o = none) :
    Safe A G (perform o >>= f) ↔ ∀ x, A.rely o x → Safe A G (f x) :=
  and_iff_right fun c hc => by rw [ho] at hc; cases hc

lemma safe_round_iff {attempt : GProg (Round σ α)} {k : Round σ α → GProg β} {Q R : Prop}
    (hattempt : Safe A G attempt ↔ Q) (hon : ∃ s, Yields A.rely attempt (.next s))
    (hnext : ∀ s, Safe A G (k (.next s)) ↔ R) (hdone : ∀ b, Safe A G (k (.done b))) :
    Safe A G (attempt >>= k) ↔ Q ∧ R := by
  constructor
  · intro h
    obtain ⟨s, hs⟩ := hon
    exact ⟨hattempt.mp h.left, (hnext s).mp (h.of_bind hs)⟩
  · rintro ⟨hQ, hR⟩
    refine (hattempt.mpr hQ).bind fun r => ?_
    cases r with
    | next s => exact (hnext s).mpr hR
    | done b => exact hdone b

end

def Injects (A : Assumption) (h : Handler) (ctx : Ctx) (provider : String)
    (r : Except String (Ctx × String)) : Prop :=
  if h.keyMode = .shared ∨ h.credResolver = false then r = .ok (ctx, "env")
  else ∃ a, A.credential ctx.orgID ctx.userID provider a ∧
    r = credentialContext h.keyMode ctx provider a

def LooksUp (A : Assumption) (h : Handler) (ctx : Ctx) (provider : String)
    (r : Option CredentialAnswer) : Prop :=
  if h.credResolver = true ∧ h.keyMode ≠ .shared then
    ∃ a, A.credential ctx.orgID ctx.userID provider a ∧ r = some a
  else r = none

section
variable {β : Type}

lemma injects_some (A : Assumption) (h : Handler) (ctx : Ctx) (provider : String) :
    ∃ r, Injects A h ctx provider r := by
  unfold Injects
  split
  · exact ⟨_, rfl⟩
  · obtain ⟨a, ha⟩ := A.credential_some ctx.orgID ctx.userID provider
    exact ⟨_, a, ha, rfl⟩

lemma looksUp_some (A : Assumption) (h : Handler) (ctx : Ctx) (provider : String) :
    ∃ r, LooksUp A h ctx provider r := by
  unfold LooksUp
  split
  · obtain ⟨a, ha⟩ := A.credential_some ctx.orgID ctx.userID provider
    exact ⟨_, a, ha, rfl⟩
  · exact ⟨_, rfl⟩

variable {provider : String}

lemma yields_injectCredential {r : Except String (Ctx × String)} (cand : Candidate)
    (hr : Injects A h ctx provider r) : Yields A.rely (injectCredential h cand ctx provider) r := by
  unfold Injects at hr
  unfold injectCredential
  split_ifs at hr ⊢
  · subst hr
    exact yields_ret _
  · obtain ⟨a, ha, rfl⟩ := hr
    have answered : Yields A.rely (resolveCredential cand ctx provider) a := yields_perform ha
    exact answered.bind (yields_ret _)

lemma safe_injectCredential_iff {cand : Candidate} {f : Except String (Ctx × String) → GProg β} :
    Safe A G (injectCredential h cand ctx provider >>= f) ↔
      ∀ r, Injects A h ctx provider r → Safe A G (f r) := by
  unfold injectCredential Injects
  split
  · exact ⟨fun hs r hr => hr ▸ hs, fun hf => hf _ rfl⟩
  refine (safe_perform_iff rfl).trans ⟨?_, fun hf a ha => hf _ ⟨a, ha, rfl⟩⟩
  rintro hs r ⟨a, ha, rfl⟩
  exact hs a ha

lemma safe_lookupCredential_iff {cand : Candidate} {f : Option CredentialAnswer → GProg β} :
    Safe A G (lookupCredential h cand ctx provider >>= f) ↔
      ∀ r, LooksUp A h ctx provider r → Safe A G (f r) := by
  unfold lookupCredential LooksUp
  split
  · refine (safe_perform_iff rfl).trans ⟨?_, fun hf a ha => hf _ ⟨a, ha, rfl⟩⟩
    rintro hs r ⟨a, ha, rfl⟩
    exact hs a ha
  · exact ⟨fun hs r hr => hr ▸ hs, fun hf => hf none rfl⟩

end

section
variable {req : ChatCompletionRequest} {reqTrace : Trace} {chain : List String} {start : Int}

def AttemptSafe (A : Assumption) (G : Call → Prop) (h : Handler) (ctx : Ctx) (model : String)
    (p : Provider) : Prop :=
  ∀ callCtx source, Injects A h ctx p.name (.ok (callCtx, source)) → G ⟨model, p, callCtx⟩

def CandidateSafe (A : Assumption) (G : Call → Prop) (h : Handler) (ctx : Ctx)
    (model : String) : Prop :=
  ∀ p fwd, h.registry.resolve model = .ok (p, fwd) → AttemptSafe A G h ctx model p

lemma lookupCache_can_miss (A : Assumption) (h : Handler) (ctx : Ctx)
    (req : ChatCompletionRequest) (chain : List String) (cand : Candidate) :
    ∃ vec, Yields A.rely (lookupCache h ctx req chain cand) (.inr vec) := by
  unfold lookupCache
  cases usesCache h req cand with
  | none => exact ⟨[], yields_ret _⟩
  | some s =>
    have failed : Yields A.rely
        (serviceLookup s chain (cacheScope ctx) req.model (promptText req.messages))
        (.error "") := by
      unfold serviceLookup
      split
      · have hlookup : Yields A.rely (perform (.cacheLookup chain (cacheScope ctx) req.model
            (promptText req.messages) [])) (.error "") := yields_perform trivial
        exact hlookup.bind (yields_ret _)
      · have hembed : Yields A.rely (perform (.embedPrompt (promptText req.messages)))
            (.error "") := yields_perform trivial
        exact hembed.bind (yields_ret _)
    exact ⟨[], failed.bind (yields_ret _)⟩

variable {cand : Candidate} {p : Provider}

lemma safe_correctionLoop {callCtx : Ctx} (hG : G ⟨cand.model, p, callCtx⟩) (schema : String)
    (n : ℕ) (d : Draft) : Safe A G (correctionLoop h.guard cand p callCtx schema n d) := by
  -- on the remaining corrections; the draft changes from round to round
  induction n generalizing d with
  | zero => trivial
  | succ n ih =>
    unfold correctionLoop
    split
    · trivial
    refine (safe_call_iff rfl fun _ x => ?_).mpr hG
    cases x with
    | error err => trivial
    | ok cresp =>
      dsimp only
      split
      · trivial
      · exact ih _

lemma safe_answerUpstream {callCtx : Ctx} (hG : G ⟨cand.model, p, callCtx⟩)
    (attempt : ChatCompletionRequest) (vec : List ℚ) (w : Walk) (t : Trace)
    (resp : ChatCompletionResponse) :
    Safe A G (answerUpstream h ctx req chain cand p callCtx attempt start vec w t resp) := by
  have fresh : ∀ t resp, Safe A G (serveFresh h ctx req chain cand vec w t resp) :=
    fun t resp => safe_of_within (serveFresh_within h ctx req chain cand vec w t resp) rfl
  refine (safe_of_within (sinceMs_within start) rfl).bind fun ms => ?_
  dsimp only
  split
  · refine (safe_correctionLoop hG _ _ _).bind fun d => ?_
    split
    · exact safe_of_within (schemaBlocked_within h ctx chain cand start w _) rfl
    · exact fresh _ _
  · exact fresh _ _

variable {w : Walk}

lemma safe_unaryAttempt_iff {fwd : String} :
    Safe A G (unaryAttempt h ctx req reqTrace chain w cand p fwd) ↔
      AttemptSafe A G h ctx cand.model p := by
  refine safe_bind_iff (beginAttempt_within h ctx req reqTrace cand p false) rfl
    fun ts => safe_injectCredential_iff.trans ?_
  constructor
  · intro hs callCtx source hi
    obtain ⟨vec, hmiss⟩ := lookupCache_can_miss A h ctx req chain cand
    exact ((hs _ hi).of_bind hmiss).1 _ rfl
  · intro hG r hr
    match r with
    | .error err =>
      exact (safe_of_within (missingCredential_within _ _ _ _ _ _) rfl).bind
        fun _ => trivial
    | .ok (callCtx, source) =>
      refine (safe_of_within (lookupCache_within h ctx req chain cand) rfl).bind
        fun x => ?_
      cases x with
      | inl cached =>
        exact (safe_of_within (serveCached_within _ _ _ _ _ _ _) rfl).bind
          fun _ => trivial
      | inr vec =>
        refine (safe_call_iff rfl fun hG y => ?_).mpr (hG callCtx source hr)
        cases y with
        | error err =>
          exact (safe_of_within (unaryFailed_within _ _ _ _ _ _ _ _) rfl).bind
            fun _ => trivial
        | ok resp => exact (safe_answerUpstream hG _ _ _ _ _).bind fun _ => trivial

lemma unaryAttempt_can_go_on (A : Assumption) (h : Handler) (ctx : Ctx)
    (req : ChatCompletionRequest) (reqTrace : Trace) (chain : List String) (w : Walk)
    (cand : Candidate) (p : Provider) (fwd : String) :
    ∃ w', Yields A.rely (unaryAttempt h ctx req reqTrace chain w cand p fwd) (.next w') := by
  obtain ⟨ts, hts⟩ := exists_yields A.rely_some (beginAttempt h ctx req reqTrace cand p false)
  obtain ⟨r, hr⟩ := injects_some A h ctx p.name
  have hinject := yields_injectCredential cand hr
  match r with
  | .error err =>
    obtain ⟨w', hw'⟩ := exists_yields A.rely_some
      (missingCredential chain.length cand ts.1 ts.2 err w)
    exact ⟨w', hts.bind (hinject.bind (hw'.bind (yields_ret _)))⟩
  | .ok (callCtx, source) =>
    obtain ⟨vec, hmiss⟩ := lookupCache_can_miss A h ctx req chain cand
    obtain ⟨w', hw'⟩ := exists_yields A.rely_some
      (unaryFailed h req chain cand { ts.1 with credentialSource := source } ts.2 "" w)
    have hcall : Yields A.rely (perform (.chatCompletion cand p callCtx
        { req with model := fwd })) (.error "") := yields_perform trivial
    exact ⟨w', hts.bind (hinject.bind (hmiss.bind (hcall.bind (hw'.bind (yields_ret _)))))⟩

lemma safe_unaryLoop_iff {i : ℕ} {rest : List String} :
    Safe A G (unaryLoop h ctx req start reqTrace chain i rest w) ↔
      ∀ m ∈ rest, CandidateSafe A G h ctx m := by
  -- the round leaves the rest of the loop to the induction hypothesis because it can always
  -- be left: that is what makes this an equivalence
  induction rest generalizing i w with
  | nil =>
    simp only [not_mem_nil, false_imp_iff, implies_true, iff_true]
    exact safe_of_within (exhausted_within h reqTrace false start w) rfl
  | cons m rest ih =>
    rw [forall_mem_cons, unaryLoop]
    cases hm : h.registry.resolve m with
    | error err =>
      have : CandidateSafe A G h ctx m := fun p fwd hp => by rw [hm] at hp; cases hp
      simp only [this, true_and]
      exact ih
    | ok pf =>
      have : CandidateSafe A G h ctx m ↔ AttemptSafe A G h ctx m pf.1 := by
        simp [CandidateSafe, hm, Prod.ext_iff]
      rw [this]
      exact safe_round_iff safe_unaryAttempt_iff
        (unaryAttempt_can_go_on A h ctx req reqTrace chain w ⟨i, m⟩ pf.1 pf.2)
        (fun w' => ih) fun reply => trivial

lemma safe_handleUnary_iff :
    Safe A G (handleUnary h ctx chain req start) ↔ ∀ m ∈ chain, CandidateSafe A G h ctx m :=
  safe_bind_iff (newTrace_within h ctx req "") rfl fun _ => safe_unaryLoop_iff

lemma safe_streamAttempt_iff {fwd : String} :
    Safe A G (streamAttempt h ctx req reqTrace chain w cand p fwd) ↔
      AttemptSafe A G h ctx cand.model p := by
  refine safe_bind_iff (beginAttempt_within h ctx req reqTrace cand p true) rfl
    fun ts => safe_injectCredential_iff.trans ?_
  constructor
  · intro hs callCtx source hi
    exact (hs _ hi).1 _ rfl
  · intro hG r hr
    match r with
    | .error err =>
      exact (safe_of_within (missingCredential_within _ _ _ _ _ _) rfl).bind
        fun _ => trivial
    | .ok (callCtx, source) =>
      refine (safe_call_iff rfl fun _ y => ?_).mpr (hG callCtx source hr)
      cases y with
      | error err => exact (safe_of_within (sinceMs_within _) rfl).bind fun _ => trivial
      | ok stream => trivial

lemma streamAttempt_can_go_on (A : Assumption) (h : Handler) (ctx : Ctx)
    (req : ChatCompletionRequest) (reqTrace : Trace) (chain : List String) (w : Walk)
    (cand : Candidate) (p : Provider) (fwd : String) :
    ∃ w', Yields A.rely (streamAttempt h ctx req reqTrace chain w cand p fwd) (.next w') := by
  obtain ⟨ts, hts⟩ := exists_yields A.rely_some (beginAttempt h ctx req reqTrace cand p true)
  obtain ⟨r, hr⟩ := injects_some A h ctx p.name
  have hinject := yields_injectCredential cand hr
  match r with
  | .error err =>
    obtain ⟨w', hw'⟩ := exists_yields A.rely_some
      (missingCredential chain.length cand ts.1 ts.2 err w)
    exact ⟨w', hts.bind (hinject.bind (hw'.bind (yields_ret _)))⟩
  | .ok (callCtx, source) =>
    obtain ⟨ms, hms⟩ := exists_yields A.rely_some (sinceMs ts.2)
    have hcall : Yields A.rely (perform (.chatCompletionStream cand p callCtx
        { req with model := fwd })) (.error "") := yields_perform trivial
    exact ⟨_, hts.bind (hinject.bind (hcall.bind (hms.bind (yields_ret _))))⟩

lemma safe_streamLoop_iff {i : ℕ} {rest : List String} :
    Safe A G (streamLoop h ctx req reqTrace chain i rest w) ↔
      ∀ m ∈ rest, CandidateSafe A G h ctx m := by
  induction rest generalizing i w with
  | nil =>
    simp only [not_mem_nil, false_imp_iff, implies_true, iff_true]
    exact safe_ret _
  | cons m rest ih =>
    rw [forall_mem_cons, streamLoop]
    cases hm : h.registry.resolve m with
    | error err =>
      have : CandidateSafe A G h ctx m := fun p fwd hp => by rw [hm] at hp; cases hp
      simp only [this, true_and]
      exact ih
    | ok pf =>
      have : CandidateSafe A G h ctx m ↔ AttemptSafe A G h ctx m pf.1 := by
        simp [CandidateSafe, hm, Prod.ext_iff]
      rw [this]
      exact safe_round_iff safe_streamAttempt_iff
        (streamAttempt_can_go_on A h ctx req reqTrace chain w ⟨i, m⟩ pf.1 pf.2)
        (fun w' => ih) fun opened => trivial

variable {flusher : Bool}

lemma safe_handleStream_iff : Safe A G (handleStream h ctx flusher chain req start) ↔
      (flusher = true → ∀ m ∈ chain, CandidateSafe A G h ctx m) := by
  unfold handleStream
  cases flusher with
  | false => simp
  | true =>
    simp only [true_imp_iff]
    refine safe_bind_iff (newTrace_within h ctx req "") rfl fun reqTrace => ?_
    constructor
    · intro hs
      exact safe_streamLoop_iff.mp hs.left
    · intro hchain
      refine (safe_streamLoop_iff.mpr hchain).bind fun opened => ?_
      match opened with
      | (w, none) => exact safe_of_within (exhausted_within h reqTrace true start w) rfl
      | (w, some (t, stream)) =>
        exact (safe_of_within (relayLoop_within h start _ _) rfl).bind fun r =>
          safe_of_within (finishStream_within h ctx req start w r) rfl

def routedModels (ctx : Ctx) (stats : Stats) (weights : Weights) (candidates : List String) :
    List String :=
  rank weights stats (filterAllowed ctx candidates) ctx.minQuality

def concreteModels (h : Handler) (ctx : Ctx) (model : String) : List String :=
  if modelAllowed ctx model = false then []
  else
    match h.registry.resolve model with
    | .ok _ => [model]
    | .error _ => []

def chainModels (h : Handler) (ctx : Ctx) (stats : Stats) (model : String) : List String :=
  match h.router, routeCandidates h model with
  | some weights, some candidates => routedModels ctx stats weights candidates
  | _, _ => concreteModels h ctx model

lemma modelAllowed_of_mem_chainModels {stats : Stats} {model m : String}
    (hm : m ∈ chainModels h ctx stats model) : modelAllowed ctx m = true := by
  unfold chainModels at hm
  split at hm
  · exact (mem_filter.mp (mem_rank.mp hm).1).2
  unfold concreteModels at hm
  split_ifs at hm with hallowed
  · cases hm
  · split at hm
    · rw [mem_singleton.mp hm]
      exact Bool.not_eq_false _ ▸ hallowed
    · cases hm

section
variable {β : Type} {f : Except (Reply ChatBody) (List String) → GProg β} {Q : String → Prop}

lemma safe_denied (herr : ∀ r, Safe A G (f (.error r))) (status : ℕ) (code detail : String)
    (r : Reply ChatBody) : Safe A G
      ((recordPolicyDenied h ctx req status code detail >>= fun _ => pure (.error r)) >>= f) := by
  rw [bind_assoc]
  exact (safe_of_within (recordPolicyDenied_within h ctx req status code detail) rfl).bind
    fun _ => herr r

variable (hok : ∀ chain, Safe A G (f (.ok chain)) ↔ ∀ m ∈ chain, Q m)
include hok

variable (herr : ∀ r, Safe A G (f (.error r)))
include herr

lemma safe_routedChain_iff {weights : Weights} {candidates : List String} :
    Safe A G (routedChain h ctx req weights candidates >>= f) ↔
      ∀ stats, A.stats stats → ∀ m ∈ routedModels ctx stats weights candidates, Q m := by
  unfold routedChain routedModels
  dsimp only
  split
  · rename_i hempty
    rw [length_eq_zero_iff.mp hempty]
    refine ⟨fun _ stats _ m hm => ?_, fun _ => safe_denied herr _ _ _ _⟩
    cases (mem_rank.mp hm).1
  · rw [bind_assoc]
    refine (safe_perform_iff rfl).trans (forall_congr' fun stats => imp_congr_right fun _ => ?_)
    split
    · rename_i hempty
      rw [length_eq_zero_iff.mp hempty]
      exact ⟨fun _ m hm => (by cases hm), fun _ => safe_denied herr _ _ _ _⟩
    split
    · -- a rotation has the members of what it rotates
      have rotated : ∀ i m, m ∈ rotateChain _ i ↔ m ∈ _ := fun i m =>
        (rotateChain_perm (rank weights stats (filterAllowed ctx candidates) ctx.minQuality)
          i).mem_iff
      refine (safe_perform_iff rfl).trans ⟨fun hs m hm => ?_, fun hQ i _ => ?_⟩
      · -- any counter will do, here the one that leaves the ranking as it is
        exact (hok _).mp (hs ⟨0, by omega⟩ trivial) m ((rotated _ m).mpr hm)
      · exact (hok _).mpr fun m hm => hQ m ((rotated i m).mp hm)
    · exact hok _

lemma safe_concreteChain_iff :
    Safe A G (concreteChain h ctx req >>= f) ↔ ∀ m ∈ concreteModels h ctx req.model, Q m := by
  unfold concreteChain concreteModels
  split
  · exact ⟨fun _ m hm => (by cases hm), fun _ => safe_denied herr _ _ _ _⟩
  · cases h.registry.resolve req.model with
    | error err => exact ⟨fun _ m hm => (by cases hm), fun _ => safe_denied herr _ _ _ _⟩
    | ok pf => exact hok [req.model]

lemma safe_resolveChain_iff : Safe A G (resolveChain h ctx req >>= f) ↔
      ∀ stats, A.stats stats → ∀ m ∈ chainModels h ctx stats req.model, Q m := by
  have concrete : Safe A G (concreteChain h ctx req >>= f) ↔
      ∀ stats, A.stats stats → ∀ m ∈ concreteModels h ctx req.model, Q m := by
    refine (safe_concreteChain_iff hok herr).trans ⟨fun hQ _ _ => hQ, fun hQ => ?_⟩
    obtain ⟨stats, hstats⟩ := A.stats_some
    exact hQ stats hstats
  unfold resolveChain chainModels
  cases h.router with
  | none => exact concrete
  | some weights =>
    cases routeCandidates h req.model with
    | none => exact concrete
    | some candidates => exact safe_routedChain_iff hok herr

end

def admitted (h : Handler) : Except String ChatCompletionRequest → Option ChatCompletionRequest
  | .error _ => none
  | .ok req =>
    if req.model = "" ∨ req.messages.length = 0 then none
    else if (checkInput h.guard (promptText req.messages)).blocked then none
    else some req

def ChatCall (A : Assumption) (h : Handler) (ctx : Ctx) (flusher : Bool)
    (body : Except String ChatCompletionRequest) (c : Call) : Prop :=
  ∃ req stats fwd source, admitted h body = some req ∧ (req.stream = true → flusher = true) ∧
    A.stats stats ∧ c.model ∈ chainModels h ctx stats req.model ∧
    h.registry.resolve c.model = .ok (c.provider, fwd) ∧
    Injects A h ctx c.provider.name (.ok (c.ctx, source))

lemma safe_dispatchChat_iff : Safe A G (dispatchChat h ctx flusher req) ↔
      ∀ stats, A.stats stats → ∀ m ∈ chainModels h ctx stats req.model,
        (req.stream = true → flusher = true) → CandidateSafe A G h ctx m := by
  refine safe_resolveChain_iff (fun chain => ?_) fun reply => trivial
  refine safe_bind_iff now_within rfl fun start => ?_
  cases req.stream with
  | true =>
    rw [if_pos rfl, safe_handleStream_iff]
    exact ⟨fun hs m hm hf => hs (hf rfl) m hm, fun hs hf m hm => hs m hm fun _ => hf⟩
  | false =>
    rw [if_neg Bool.false_ne_true, safe_handleUnary_iff]
    exact forall₂_congr fun m _ => ⟨fun hs _ => hs, fun hs => hs nofun⟩

lemma safe_chatCompletions_iff {body : Except String ChatCompletionRequest} :
    Safe A G (chatCompletions h ctx flusher body) ↔ ∀ c, ChatCall A h ctx flusher body c → G c := by
  have none_admitted : admitted h body = none →
      ∀ c, ChatCall A h ctx flusher body c → G c := by
    rintro hnone c ⟨req, _, _, _, hreq, _⟩
    rw [hnone] at hreq
    cases hreq
  unfold chatCompletions
  match body with
  | .error err => exact ⟨fun _ => none_admitted rfl, fun _ => trivial⟩
  | .ok req =>
    dsimp only
    split
    · rename_i hbad
      exact ⟨fun _ => none_admitted (by rw [admitted, if_pos hbad]), fun _ => trivial⟩
    rename_i hgood
    split
    · rename_i hblocked
      refine ⟨fun _ => none_admitted (by rw [admitted, if_neg hgood, if_pos hblocked]),
        fun _ => ?_⟩
      exact (safe_of_within (recordGuardrailBlock_within h ctx req _) rfl).bind
        fun _ => trivial
    · rename_i hpass
      have hreq : admitted h (.ok req) = some req := by
        rw [admitted, if_neg hgood, if_neg hpass]
      refine safe_dispatchChat_iff.trans ⟨?_, ?_⟩
      · rintro hs c ⟨req', stats, fwd, source, hreq', hflush, hstats, hm, hp, hi⟩
        rw [hreq] at hreq'
        cases hreq'
        exact hs stats hstats c.model hm hflush c.provider fwd hp c.ctx source hi
      · intro hG stats hstats m hm hflush p fwd hp callCtx source hi
        exact hG ⟨m, p, callCtx⟩ ⟨req, stats, fwd, source, hreq, hflush, hstats, hm, hp, hi⟩

end

section
variable {req : ChatCompletionRequest}

def RefSafe (A : Assumption) (G : Call → Prop) (h : Handler) (ctx : Ctx) (ref : ProviderRef) :
    Prop :=
  ∀ a, LooksUp A h ctx ref.provider.name a →
    G ⟨ref.model, ref.provider, overrideContext ctx a⟩

def Refused (h : Handler) (a : Option CredentialAnswer) : Prop :=
  h.keyMode = .strictBYOK ∧ ∃ err, a = some (.failed err)

variable {cand : Candidate}

lemma safe_translatedAttempt_iff {chainLen : ℕ} {t : Trace} {start : Int} {ref : ProviderRef} :
    Safe A G (translatedAttempt h ctx req chainLen t start cand ref) ↔
      ∀ a, LooksUp A h ctx ref.provider.name a → ¬ Refused h a →
        G ⟨cand.model, ref.provider, overrideContext ctx a⟩ := by
  refine safe_lookupCredential_iff.trans (forall_congr' fun a => imp_congr_right fun ha => ?_)
  have after : ∀ {β : Type} (k : Int → β), Safe A G (sinceMs start >>= fun ms => pure (k ms)) :=
    fun k => (safe_of_within (sinceMs_within start) rfl).bind fun _ => trivial
  split
  · rename_i err hmode
    exact ⟨fun _ hr => absurd ⟨hmode, err, rfl⟩ hr, fun _ => after _⟩
  rename_i a _ _ hno
  have hr : ¬ Refused h a := by
    rintro ⟨hmode, err, rfl⟩
    exact hno err rfl hmode
  simp only [hr, not_false_eq_true, true_imp_iff]
  refine safe_call_iff rfl fun _ x => ?_
  cases x with
  | error err => exact after _
  | ok resp => exact after _

lemma safe_stream_call_iff {β : Type} {p : Provider} {callCtx : Ctx}
    {f : Except String UpstreamStream → GProg β} {R : Prop}
    (herr : ∀ err, Safe A G (f (.error err)) ↔ R) (hok : ∀ s, Safe A G (f (.ok s))) :
    Safe A G (perform (.chatCompletionStream cand p callCtx req) >>= f) ↔
      G ⟨cand.model, p, callCtx⟩ ∧ R := by
  constructor
  · intro hs
    exact ⟨hs.1 _ rfl, (herr "").mp (hs.2 (.error "") trivial)⟩
  · rintro ⟨hG, hR⟩
    refine (safe_call_iff rfl fun _ x => ?_).mpr hG
    cases x with
    | error err => exact (herr err).mpr hR
    | ok s => exact hok s

lemma safe_ref_round_iff {β : Type} {ref : ProviderRef} {f : Option CredentialAnswer → GProg β}
    {R : Prop} (hf : ∀ a, Safe A G (f a) ↔ G ⟨ref.model, ref.provider, overrideContext ctx a⟩ ∧ R) :
    Safe A G (lookupCredential h cand ctx ref.provider.name >>= f) ↔ RefSafe A G h ctx ref ∧ R := by
  refine safe_lookupCredential_iff.trans ⟨fun hs => ⟨fun a ha => ((hf a).mp (hs a ha)).1, ?_⟩, ?_⟩
  · obtain ⟨a, ha⟩ := looksUp_some A h ctx ref.provider.name
    exact ((hf a).mp (hs a ha)).2
  · rintro ⟨hG, hR⟩ a ha
    exact (hf a).mpr ⟨hG a ha, hR⟩

variable {refs : List ProviderRef}

lemma safe_responsesProviders_iff {respID suffix : String} {start : Int} {i : ℕ}
    {r : ResponsesRelay} : Safe A G (responsesProviders h ctx req respID suffix start i refs r) ↔
      ∀ ref ∈ refs, RefSafe A G h ctx ref := by
  induction refs generalizing i r with
  | nil => simp [responsesProviders]
  | cons ref rest ih =>
    rw [forall_mem_cons]
    refine safe_ref_round_iff fun a => safe_stream_call_iff (fun err => ?_) fun s => ?_
    · exact safe_bind_iff (sinceMs_within start) rfl fun _ => ih
    · exact safe_of_within (responsesEvents_within _ _ _ _ _ _) rfl

lemma safe_messagesProviders_iff {chainLen : ℕ} {start : Int} {i : ℕ} {st : MessagesState} :
    Safe A G (messagesProviders h ctx req chainLen start i refs st) ↔
      ∀ ref ∈ refs, RefSafe A G h ctx ref := by
  induction refs generalizing i st with
  | nil => simp [messagesProviders]
  | cons ref rest ih =>
    rw [forall_mem_cons]
    refine safe_ref_round_iff fun a => ?_
    refine safe_bind_iff (newTrace_within h ctx req ref.provider.name) rfl fun t => ?_
    refine safe_stream_call_iff (fun err => ?_) fun s => ?_
    · exact safe_bind_iff (sinceMs_within start) rfl fun _ =>
        safe_bind_iff (recordTrace_within _) rfl fun _ => ih
    · exact safe_of_within (messagesEvents_within _ _) rfl

def TranslatedCall (A : Assumption) (h : Handler) (ctx : Ctx) (flusher stream : Bool)
    (chat : ChatCompletionRequest) (c : Call) : Prop :=
  ∃ refs ref a, pickResponsesChain h chat.model = some refs ∧
    LooksUp A h ctx ref.provider.name a ∧
    c = ⟨ref.model, ref.provider, overrideContext ctx a⟩ ∧
    if stream then flusher = true ∧ ref ∈ refs else refs.head? = some ref ∧ ¬ Refused h a

variable {flusher : Bool}

lemma safe_translated_unary_iff {β : Type}
    {f : Option ChatCompletionResponse × Option Trace → GProg β} (hf : ∀ r, Safe A G (f r)) :
    Safe A G (executeTranslated h ctx req >>= f) ↔
      ∀ c, TranslatedCall A h ctx flusher false req c → G c := by
  unfold executeTranslated TranslatedCall
  cases pickResponsesChain h req.model with
  | none => exact ⟨fun _ c hc => (by simp at hc), fun _ => hf _⟩
  | some refs =>
    rw [bind_assoc]
    refine safe_bind_iff (newTrace_within h ctx req _) rfl fun t => ?_
    rw [bind_assoc]
    refine safe_bind_iff now_within rfl fun start => ?_
    cases refs with
    | nil => exact ⟨fun _ c hc => (by simp at hc), fun _ => hf _⟩
    | cons ref rest =>
      rw [bind_assoc]
      constructor
      · rintro hs c ⟨refs, ref', a, hrefs, ha, rfl, hhead, hr⟩
        cases hrefs
        cases hhead
        exact safe_translatedAttempt_iff.mp hs.left a ha hr
      · intro hG
        refine (safe_translatedAttempt_iff.mpr fun a ha hr => ?_).bind fun _ => hf _
        exact hG _ ⟨_, ref, a, rfl, ha, rfl, rfl, hr⟩

lemma refsSafe_iff (hrefs : pickResponsesChain h req.model = some refs) :
    (∀ ref ∈ refs, RefSafe A G h ctx ref) ↔ ∀ c, TranslatedCall A h ctx true true req c → G c := by
  constructor
  · rintro hs c ⟨refs', ref, a, hrefs', ha, rfl, -, href⟩
    rw [hrefs] at hrefs'
    cases hrefs'
    exact hs ref href a ha
  · intro hG ref href a ha
    exact hG _ ⟨refs, ref, a, hrefs, ha, rfl, rfl, href⟩

lemma not_translatedCall_of_none {stream : Bool} {c : Call}
    (hnone : pickResponsesChain h req.model = none) :
    ¬ TranslatedCall A h ctx flusher stream req c := by
  rintro ⟨refs, _, _, hrefs, _⟩
  rw [hnone] at hrefs
  cases hrefs

lemma not_translatedCall_of_no_flusher {c : Call} : ¬ TranslatedCall A h ctx false true req c := by
  rintro ⟨_, _, _, _, _, _, hflush, _⟩
  cases hflush

lemma safe_handleResponsesStream_iff : Safe A G (handleResponsesStream h ctx flusher req) ↔
      ∀ c, TranslatedCall A h ctx flusher true req c → G c := by
  unfold handleResponsesStream
  split
  · rename_i hnone
    exact ⟨fun _ c hc => absurd hc (not_translatedCall_of_none hnone), fun _ => trivial⟩
  rename_i refs hrefs
  cases flusher with
  | false => exact ⟨fun _ c hc => absurd hc not_translatedCall_of_no_flusher, fun _ => trivial⟩
  | true =>
    rw [← refsSafe_iff hrefs]
    refine safe_bind_iff newUUID_within rfl fun suffix =>
      safe_bind_iff now_within rfl fun createdAt =>
      safe_bind_iff now_within rfl fun start =>
      safe_bind_iff (newTrace_within h ctx req _) rfl fun t => ?_
    constructor
    · intro hs
      exact safe_responsesProviders_iff.mp hs.left
    · intro hs
      refine (safe_responsesProviders_iff.mpr hs).bind fun rf => ?_
      split
      · exact (safe_of_within (recordTrace_within _) rfl).bind fun _ => trivial
      · exact safe_of_within (finishResponses_within h ctx req _ _ _ _) rfl

lemma safe_handleMessagesStream_iff : Safe A G (handleMessagesStream h ctx flusher req) ↔
      ∀ c, TranslatedCall A h ctx flusher true req c → G c := by
  unfold handleMessagesStream
  split
  · rename_i hnone
    exact ⟨fun _ c hc => absurd hc (not_translatedCall_of_none hnone), fun _ => trivial⟩
  rename_i refs hrefs
  cases flusher with
  | false => exact ⟨fun _ c hc => absurd hc not_translatedCall_of_no_flusher, fun _ => trivial⟩
  | true =>
    rw [← refsSafe_iff hrefs]
    refine safe_bind_iff newUUID_within rfl fun id =>
      safe_bind_iff now_within rfl fun start => ?_
    constructor
    · intro hs
      exact safe_messagesProviders_iff.mp hs.left
    · intro hs
      exact (safe_messagesProviders_iff.mpr hs).bind fun _ => trivial

def responsesChat : Except String ResponsesRequest → Option (Bool × ChatCompletionRequest)
  | .error _ => none
  | .ok req =>
    if req.model = "" then none
    else
      match req.chat with
      | .error _ => none
      | .ok chat => some (req.stream, chat)

def messagesChat : Except String MessagesRequest → Option (Bool × ChatCompletionRequest)
  | .error _ => none
  | .ok req =>
    if req.model = "" then none
    else if req.messageCount = 0 then none
    else
      match req.chat with
      | .error _ => none
      | .ok chat => some (req.stream, chat)

lemma safe_refused_iff {α : Type} {P : GProg α} (hP : Safe A G P) :
    Safe A G P ↔ ∀ sc : Bool × ChatCompletionRequest, none = some sc →
      ∀ c, TranslatedCall A h ctx flusher sc.1 sc.2 c → G c := by
  refine ⟨fun _ sc hsc => ?_, fun _ => hP⟩
  cases hsc

lemma safe_responses_iff {body : Except String ResponsesRequest} :
    Safe A G (responses h ctx flusher body) ↔ ∀ sc, responsesChat body = some sc →
        ∀ c, TranslatedCall A h ctx flusher sc.1 sc.2 c → G c := by
  unfold responses responsesChat
  cases body with
  | error err => exact safe_refused_iff trivial
  | ok req =>
    dsimp only
    split
    · exact safe_refused_iff trivial
    cases req.chat with
    | error err => exact safe_refused_iff trivial
    | ok chat =>
      simp only [Option.some.injEq, forall_eq']
      cases req.stream with
      | true =>
        exact safe_handleResponsesStream_iff
      | false =>
        exact safe_translated_unary_iff fun r =>
          safe_of_within (answerTranslated_within h ctx chat _ r) rfl

lemma safe_messages_iff {body : Except String MessagesRequest} :
    Safe A G (messages h ctx flusher body) ↔ ∀ sc, messagesChat body = some sc →
        ∀ c, TranslatedCall A h ctx flusher sc.1 sc.2 c → G c := by
  unfold messages messagesChat
  cases body with
  | error err => exact safe_refused_iff trivial
  | ok req =>
    dsimp only
    split
    · exact safe_refused_iff trivial
    split
    · exact safe_refused_iff trivial
    cases req.chat with
    | error err => exact safe_refused_iff trivial
    | ok chat =>
      simp only [Option.some.injEq, forall_eq']
      cases req.stream with
      | true =>
        exact safe_handleMessagesStream_iff
      | false =>
        exact safe_translated_unary_iff fun r =>
          safe_of_within (answerTranslated_within h ctx chat _ r) rfl

end

def CapabilityCall (A : Assumption) (h : Handler) (ctx : Ctx) (k : Capability)
    (body : Except String CapabilityRequest) (c : Call) : Prop :=
  ∃ req order p model a, body = .ok req ∧ k.refusal req = none ∧ k.badEncoding req = false ∧
    order.Perm (registered h) ∧ k.resolve order req.model = some (p, model) ∧
    LooksUp A h ctx p.name a ∧ c = ⟨(withModel req model).model, p, overrideContext ctx a⟩

lemma safe_callCapability_iff {k : Capability} {p : Provider} {req : CapabilityRequest} :
    Safe A G (callCapability h ctx k p req) ↔
      ∀ a, LooksUp A h ctx p.name a → G ⟨req.model, p, overrideContext ctx a⟩ := by
  refine safe_lookupCredential_iff.trans (forall₂_congr fun a _ => ?_)
  cases k <;> exact safe_call_iff rfl fun _ x => by cases x <;> trivial

lemma safe_capability_iff {k : Capability} {body : Except String CapabilityRequest} :
    Safe A G (capability h ctx k body) ↔ ∀ c, CapabilityCall A h ctx k body c → G c := by
  unfold capability
  match body with
  | .error err =>
    refine ⟨fun _ c hc => ?_, fun _ => trivial⟩
    obtain ⟨_, _, _, _, _, hbody, _⟩ := hc
    cases hbody
  | .ok req =>
    dsimp only
    split
    · rename_i msg hrefused
      refine ⟨fun _ c hc => ?_, fun _ => trivial⟩
      obtain ⟨_, _, _, _, _, hbody, haccepted, _⟩ := hc
      cases hbody
      rw [hrefused] at haccepted
      cases haccepted
    · rename_i haccepted
      refine (safe_perform_iff rfl).trans ⟨?_, fun hG order _ => ?_⟩
      · rintro hs _ ⟨_, order, p, resolved, a, hbody, _, henc, hperm, hp, ha, rfl⟩
        cases hbody
        have hpicked := hs ⟨order, hperm⟩ trivial
        simp only [hp, henc] at hpicked
        exact safe_callCapability_iff.mp hpicked a ha
      · split
        · trivial
        rename_i p resolved hp
        split
        · trivial
        rename_i henc
        refine safe_callCapability_iff.mpr fun a ha => ?_
        exact hG _ ⟨req, order.val, p, resolved, a, rfl, haccepted,
          Bool.eq_false_iff.mpr henc, order.2, hp, ha, rfl⟩

def MayCall (A : Assumption) (h : Handler) (ctx : Ctx) (flusher : Bool) :
    Request → Call → Prop
  | .chat body, c => ChatCall A h ctx flusher body c
  | .responses body, c =>
    ∃ sc, responsesChat body = some sc ∧ TranslatedCall A h ctx flusher sc.1 sc.2 c
  | .messages body, c =>
    ∃ sc, messagesChat body = some sc ∧ TranslatedCall A h ctx flusher sc.1 sc.2 c
  | .capability k body, c => CapabilityCall A h ctx k body c

lemma safe_wrap_iff {α β : Type} {A : Assumption} {G : Call → Prop} {p : GProg α} {f : α → β} :
    Safe A G (do return f (← p)) ↔ Safe A G p :=
  ⟨fun hs => hs.left, fun hs => hs.bind fun _ => trivial⟩

lemma forall_translatedCall_iff {A : Assumption} {G : Call → Prop} {h : Handler} {ctx : Ctx}
    {flusher : Bool} {chat? : Option (Bool × ChatCompletionRequest)} :
    (∀ c, (∃ sc, chat? = some sc ∧ TranslatedCall A h ctx flusher sc.1 sc.2 c) → G c) ↔
      ∀ sc, chat? = some sc → ∀ c, TranslatedCall A h ctx flusher sc.1 sc.2 c → G c :=
  ⟨fun hs sc hsc c hc => hs c ⟨sc, hsc, hc⟩, fun hs c ⟨sc, hsc, hc⟩ => hs sc hsc c hc⟩

lemma serve_safe_iff {A : Assumption} {G : Call → Prop} {h : Handler} {ctx : Ctx}
    {flusher : Bool} {req : Request} :
    Safe A G (serve h ctx flusher req) ↔ ∀ c, MayCall A h ctx flusher req c → G c := by
  cases req with
  | chat body => exact safe_wrap_iff.trans safe_chatCompletions_iff
  | responses body =>
    exact safe_wrap_iff.trans (safe_responses_iff.trans forall_translatedCall_iff.symm)
  | messages body =>
    exact safe_wrap_iff.trans (safe_messages_iff.trans forall_translatedCall_iff.symm)
  | capability k body => exact safe_wrap_iff.trans safe_capability_iff

lemma calls_iff_mayCall (A : Assumption) (G : Call → Prop) (h : Handler) (ctx : Ctx)
    (flusher : Bool) (req : Request) :
    (∀ log reply, (serve h ctx flusher req).Runs log reply → (∀ e ∈ log, A.rely e.1 e.2) →
      ∀ c ∈ calls log, G c) ↔ ∀ c, MayCall A h ctx flusher req c → G c := by
  rw [← serve_safe_iff, Safe, spec_iff_runs A.rely_some]
  refine forall₄_congr fun log reply _ _ => ?_
  simp only [calls, mem_filterMap, forall_exists_index, and_imp]
  exact ⟨fun hs e he c hc => hs c e he hc, fun hs c e he hc => hs e he c hc⟩

structure Env where
  answers : (org user provider : String) → CredentialAnswer
  stats : Stats

variable (env : Env)

def Env.assumption : Assumption where
  credential org user provider a := a = env.answers org user provider
  stats s := s = env.stats
  credential_some _ _ _ := ⟨_, rfl⟩
  stats_some := ⟨_, rfl⟩

def Env.oracle : (o : Op) → Ans o
  | .now => (0 : Int)
  | .newUUID => ""
  | .rangeProviders ps => ⟨ps, .refl ps⟩
  | .rangeAliases names => ⟨names, .refl names⟩
  | .readStats => env.stats
  | .lbNext _ ranked many => (⟨0, Nat.zero_lt_of_lt many⟩ : Fin ranked.length)
  | .resolveCredential _ org user provider => env.answers org user provider
  | .chatCompletion _ _ _ _ => .error "unreachable"
  | .chatCompletionStream _ _ _ _ => .error "unreachable"
  | .embed _ _ _ _ => .error "unreachable"
  | .moderate _ _ _ _ => .error "unreachable"
  | .generateImages _ _ _ _ => .error "unreachable"
  | .embedPrompt _ => .error "unreachable"
  | .cacheLookup _ _ _ _ _ => .error "unreachable"
  | .cacheStore _ _ _ _ _ _ => .error "unreachable"
  | .record _ => ()
  | .addSpend _ _ => .ok ()
  | .notifyFailover _ => ()

lemma Env.oracle_rely (o : Op) : env.assumption.rely o (env.oracle o) := by
  cases o <;> first | rfl | trivial

lemma Env.execute_relies {α : Type} (env : Env) (p : GProg α) :
    ∀ e ∈ (p.execute env.oracle).1, env.assumption.rely e.1 e.2 := by
  intro e he
  rw [answered_by_oracle env.oracle p e he]
  exact env.oracle_rely e.1

def blankText : TextEngine := ⟨fun _ => "", fun _ => "", fun _ _ => "", id⟩

def blankCodec : ResponseCodec :=
  ⟨fun _ => none, fun _ => none, by simp⟩

def caller : Ctx := ⟨"req-1", "", "org-1", "user-1", "vk-1", [], 0, none⟩

def noKeys : Env := ⟨fun _ _ _ => .notFound, fun _ => none⟩

def meteredHandler : Handler :=
  newHandler (newRegistry.register openai ["gpt-4o"]) true true blankCodec blankText

/-- Every stream that is asked for is `s`. -/
def answering (s : UpstreamStream) : (o : Op) → Ans o
  | .chatCompletionStream _ _ _ _ => .ok s
  | o => noKeys.oracle o

def plainRequest (model : String) : ChatCompletionRequest where
  model := model
  messages := [textMessage "user" "hello"]
  temperature := none
  topP := none
  maxTokens := none
  stream := false
  tools := []
  responseFormat := none
  nexusEval := none

def jsonRequest : ChatCompletionRequest :=
  { plainRequest "gpt-4o" with responseFormat := some ⟨"json_object", none⟩ }

def plainResponse (model : String) : ChatCompletionResponse where
  id := "chatcmpl-1"
  object := "chat.completion"
  created := 0
  model := model
  choices := [⟨0, textMessage "assistant" "hi", "stop"⟩]
  usage := ⟨10, 5, 15, 0, 0, none, none⟩

end FfxNexus.Dispatch
