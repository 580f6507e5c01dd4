/-
**What a unary chat request does to the cache**, as a rely/guarantee specification.
-/
import FfxNexus.SharedCache

namespace FfxNexus.CacheClient
open Interaction Schema Providers Routing Gateway Chat Effects Dispatch SharedCache
open Guardrails hiding Config
open Interaction.Prog hiding perform
open Semcache (Bytes Config Engine Hit Memory StoredEntry newMemory)

def Validated (h : Handler) (req : ChatCompletionRequest) (resp : ChatCompletionResponse) : Prop :=
  wantsJSON req.responseFormat = true → ∀ content ∈ resp.content?,
    (checkJSONOutput h.guard content (schemaBytes req.responseFormat)).blocked = false

structure Inquiry (h : Handler) (c : Client) (chain : List String) (scope model : String) :
    Prop where
  scope_eq : scope = cacheScope c.ctx
  model_eq : model = c.req.model
  eligible : cacheEligible c.req = true
  chain_iff : ∀ m, m ∈ chain ↔ m ∈ chainModels h c.ctx c.stats c.req.model

structure Deposit (h : Handler) (c : Client) (scope model json : String) (origin : Origin) :
    Prop where
  scope_eq : scope = cacheScope c.ctx
  model_eq : model = c.req.model
  eligible : cacheEligible c.req = true
  ctx_eq : origin.ctx = c.ctx
  req_eq : origin.req = c.req
  producer_mem : origin.producer ∈ chainModels h c.ctx c.stats c.req.model
  encoded : ∃ resp, h.codec.marshal resp = some json ∧ Validated h c.req resp

def guarantee (h : Handler) (R : Set Client) (c : Client) : Op → Prop
  | .cacheLookup chain scope model _ _ => c ∈ R ∧ Inquiry h c chain scope model
  | .cacheStore origin scope model _ _ json => c ∈ R ∧ Deposit h c scope model json origin
  | _ => True

def relies (T : Client → String → Prop) (c : Client) : (o : Op) → Ans o → Prop
  | .cacheLookup _ _ _ _ _, x =>
    ∀ hit json, x = .ok (some hit) → hit.responseJSON = some json → T c json
  | .readStats, x => x = c.stats
  | _, _ => True

def answered (h : Handler) (T : Client → String → Prop) (c : Client) : Reply ChatBody → Prop
  | .ok (.completion _ resp) => Validated h c.req resp ∨
      ∃ json cached, T c json ∧ h.codec.unmarshal json = some cached ∧
        resp.content? = cached.content?
  | _ => True

section
variable {h : Handler} {R : Set Client} {T : Client → String → Prop} {c : Client}
variable {chain : List String} {cand : Candidate} {p : Provider} {callCtx : Ctx} {t : Trace}
variable {w : Walk} {vec : List ℚ}

lemma quiet {α : Type} {es : List Effect} {p : GProg α} (hp : Within es p)
    (hes : decide (.cache ∈ es) = false) : p.Spec (relies T c) (guarantee h R c) fun _ => True := by
  refine Prog.Spec.weaken hp (fun _ _ _ => trivial) fun o ho => ?_
  cases o with
  | cacheLookup => exact absurd ho (of_decide_eq_false hes)
  | cacheStore => exact absurd ho (of_decide_eq_false hes)
  | _ => trivial

def resolved (h : Handler) (T : Client → String → Prop) (c : Client) :
    Except (Reply ChatBody) (List String) → Prop
  | .ok chain => ∀ m, m ∈ chain ↔ m ∈ chainModels h c.ctx c.stats c.req.model
  | .error reply => answered h T c reply

lemma denied_spec (status status' : ℕ) (code code' detail : String) :
    (recordPolicyDenied h c.ctx c.req status code detail >>= fun _ =>
      pure (.error (writeError h status' code' detail))).Spec (relies T c) (guarantee h R c)
      (resolved h T c) :=
  Spec.bind (quiet (recordPolicyDenied_within ..) rfl) fun _ => trivial

lemma routedChain_spec {weights : Weights} {candidates : List String}
    (hchain : chainModels h c.ctx c.stats c.req.model =
      routedModels c.ctx c.stats weights candidates) :
    (routedChain h c.ctx c.req weights candidates).Spec (relies T c) (guarantee h R c)
      (resolved h T c) := by
  unfold routedChain
  dsimp only
  split
  · exact denied_spec ..
  refine spec_perform_bind.mpr ⟨trivial, ?_⟩
  rintro stats rfl
  split
  · exact denied_spec ..
  split
  · refine spec_perform_bind.mpr ⟨trivial, fun i _ m => ?_⟩
    rw [hchain]
    exact (rotateChain_perm _ i).mem_iff
  · intro m
    rw [hchain]
    exact Iff.rfl

lemma concreteChain_spec
    (hchain : chainModels h c.ctx c.stats c.req.model = concreteModels h c.ctx c.req.model) :
    (concreteChain h c.ctx c.req).Spec (relies T c) (guarantee h R c) (resolved h T c) := by
  unfold concreteChain
  split
  · exact denied_spec ..
  rename_i hallowed
  cases hm : h.registry.resolve c.req.model with
  | error err => exact denied_spec ..
  | ok pf =>
    intro m
    rw [hchain, concreteModels, if_neg hallowed, hm]

lemma resolveChain_spec :
    (resolveChain h c.ctx c.req).Spec (relies T c) (guarantee h R c) (resolved h T c) := by
  unfold resolveChain
  cases hr : h.router with
  | none => exact concreteChain_spec (by rw [chainModels, hr])
  | some weights =>
    cases hc : routeCandidates h c.req.model with
    | none => exact concreteChain_spec (by rw [chainModels, hr, hc])
    | some candidates => exact routedChain_spec (by rw [chainModels, hr, hc])

variable {prompt scope model : String}

lemma embedAndLookup_spec (hR : c ∈ R) (hinquiry : Inquiry h c chain scope model) :
    (embedAndLookup chain scope model prompt).Spec (relies T c) (guarantee h R c) fun x =>
      ∀ hit vec json, x = .ok (some hit, vec) → hit.responseJSON = some json → T c json := by
  refine spec_perform_bind.mpr ⟨trivial, fun y _ => ?_⟩
  cases y with
  | error err => exact fun _ _ _ h => by cases h
  | ok vec =>
    refine spec_perform_bind.mpr ⟨⟨hR, hinquiry⟩, fun z hz => ?_⟩
    cases z with
    | error err => exact fun _ _ _ h => by cases h
    | ok hit? =>
      intro hit vec' json heq hjson
      cases heq
      exact hz hit json rfl hjson

variable {s : CacheService}

lemma serviceLookup_spec (hR : c ∈ R) (hinquiry : Inquiry h c chain scope model) :
    (serviceLookup s chain scope model prompt).Spec (relies T c) (guarantee h R c) fun x =>
      ∀ hit vec json, x = .ok (some hit, vec) → hit.responseJSON = some json → T c json := by
  unfold serviceLookup
  split
  · refine spec_perform_bind.mpr ⟨⟨hR, hinquiry⟩, fun z hz => ?_⟩
    match z with
    | .error err => exact fun _ _ _ h => by cases h
    | .ok (some hit) =>
      intro hit' vec json heq hjson
      cases heq
      exact hz hit json rfl hjson
    | .ok none =>
      dsimp only
      split
      · exact fun _ _ _ h => by cases h
      · exact embedAndLookup_spec hR hinquiry
  · exact embedAndLookup_spec hR hinquiry

lemma cacheEligible_of_usesCache {req : ChatCompletionRequest}
    (hs : usesCache h req cand = some s) : cacheEligible req = true := by
  unfold usesCache at hs
  split at hs
  · rename_i huses
    exact huses.2
  · cases hs

lemma lookupCache_spec (hR : c ∈ R)
    (hchain : ∀ m, m ∈ chain ↔ m ∈ chainModels h c.ctx c.stats c.req.model) :
    (lookupCache h c.ctx c.req chain cand).Spec (relies T c) (guarantee h R c) fun x =>
      ∀ cached, x = .inl cached → ∃ json, T c json ∧ h.codec.unmarshal json = some cached := by
  unfold lookupCache
  split
  · exact fun cached h => by cases h
  rename_i s hs
  have heligible := cacheEligible_of_usesCache hs
  refine spec_bind.mpr ((serviceLookup_spec hR ⟨rfl, rfl, heligible, hchain⟩).mono fun x hx => ?_)
  match x with
  | .error err => exact fun cached h => by cases h
  | .ok (none, vec) => exact fun cached h => by cases h
  | .ok (some hit, vec) =>
    dsimp only
    split
    · rename_i cached hcached
      obtain ⟨json, hjson, hdecoded⟩ := Option.bind_eq_some_iff.mp hcached
      rintro _ ⟨⟩
      exact ⟨json, hx hit vec json rfl hjson, hdecoded⟩
    · exact fun cached h => by cases h

lemma serviceStore_spec {json : String} {origin : Origin} (hR : c ∈ R)
    (hdeposit : Deposit h c scope model json origin) :
    (serviceStore s origin scope model prompt vec json).Spec (relies T c) (guarantee h R c)
      fun _ => True := by
  unfold serviceStore
  split
  · exact ⟨⟨hR, hdeposit⟩, fun _ _ => trivial⟩
  refine spec_perform_bind.mpr ⟨trivial, fun y _ => ?_⟩
  cases y with
  | error err => trivial
  | ok vec' => exact ⟨⟨hR, hdeposit⟩, fun _ _ => trivial⟩

variable {resp : ChatCompletionResponse}

lemma fillCache_spec (hR : c ∈ R) (hcand : cand.model ∈ chainModels h c.ctx c.stats c.req.model)
    (hresp : Validated h c.req resp) :
    (fillCache h c.ctx c.req cand vec resp).Spec (relies T c) (guarantee h R c) fun _ => True := by
  unfold fillCache
  split
  · rename_i s json hs hjson
    have heligible := cacheEligible_of_usesCache hs
    refine Spec.bind (serviceStore_spec hR ?_) fun _ => trivial
    exact ⟨rfl, rfl, heligible, rfl, rfl, hcand, resp, hjson, hresp⟩
  · trivial

variable {attemptStart : Int}

lemma serveCached_spec {cached : ChatCompletionResponse}
    (hcached : ∃ json, T c json ∧ h.codec.unmarshal json = some cached) :
    (serveCached h chain cand t attemptStart w cached).Spec (relies T c) (guarantee h R c)
      (answered h T c) := by
  obtain ⟨json, hjson, hdecoded⟩ := hcached
  refine Spec.bind (quiet (sinceMs_within _) rfl) fun _ =>
    Spec.bind (quiet (recordEvidence_within ..) rfl) fun _ => ?_
  exact .inr ⟨json, cached, hjson, hdecoded, rfl⟩

lemma serveFresh_spec (hR : c ∈ R) (hcand : cand.model ∈ chainModels h c.ctx c.stats c.req.model)
    (hresp : Validated h c.req resp) :
    (serveFresh h c.ctx c.req chain cand vec w t resp).Spec (relies T c) (guarantee h R c)
      (answered h T c) := by
  refine Spec.bind (fillCache_spec hR hcand hresp) fun _ =>
    Spec.bind (quiet (recordEvidence_within ..) rfl) fun _ =>
    Spec.bind (quiet (recordSpend_within ..) rfl) fun _ => ?_
  exact .inl hresp

lemma schemaBlocked_spec {d : Draft} :
    (schemaBlocked h c.ctx chain cand attemptStart w d).Spec (relies T c) (guarantee h R c)
      (answered h T c) :=
  Spec.bind (quiet (sinceMs_within _) rfl) fun _ =>
    Spec.bind (quiet (recordEvidence_within ..) rfl) fun _ =>
    Spec.bind (quiet (recordSpend_within ..) rfl) fun _ => trivial

def Checked (g : Option Guard) (schema : String) (d : Draft) : Prop :=
  d.finding.blocked = false → ∀ content ∈ d.resp.content?,
    (checkJSONOutput g content schema).blocked = false

lemma checkDraft_checked (g : Option Guard) (schema : String) (d : Draft) :
    Checked g schema (checkDraft g schema d) := by
  intro hok content hcontent
  have hne : d.resp.choices ≠ [] := by
    intro hempty
    have hnone := content?_eq_none ((setContent_choices_ne_nil d.resp
      (validateOrRepairJSON g (d.resp.content?.getD "") schema).1).mpr hempty)
    cases hnone.symm.trans hcontent
  have htext := content?_setContent
    (validateOrRepairJSON g (d.resp.content?.getD "") schema).1 hne
  obtain rfl := Option.some.inj (htext.symm.trans hcontent)
  exact validateOrRepairJSON_ok hok

lemma correctionLoop_spec {schema : String} {n : ℕ} {d : Draft} (hd : Checked h.guard schema d) :
    (correctionLoop h.guard cand p callCtx schema n d).Spec (relies T c) (guarantee h R c)
      (Checked h.guard schema) := by
  induction n generalizing d with
  | zero => exact hd
  | succ n ih =>
    unfold correctionLoop
    split
    · exact hd
    refine spec_perform_bind.mpr ⟨trivial, fun x _ => ?_⟩
    cases x with
    | error err => exact hd
    | ok cresp =>
      dsimp only
      split
      · exact hd
      · exact ih (checkDraft_checked _ _ _)

lemma answerUpstream_spec {attempt : ChatCompletionRequest} (hR : c ∈ R)
    (hcand : cand.model ∈ chainModels h c.ctx c.stats c.req.model) :
    (answerUpstream h c.ctx c.req chain cand p callCtx attempt attemptStart vec w t resp).Spec
      (relies T c) (guarantee h R c) (answered h T c) := by
  refine Spec.bind (quiet (sinceMs_within _) rfl) fun _ => ?_
  dsimp only
  split
  · refine spec_bind.mpr ((correctionLoop_spec (checkDraft_checked _ _ _)).mono fun d hd => ?_)
    split
    · exact schemaBlocked_spec
    · rename_i hok
      exact serveFresh_spec hR hcand fun _ => hd (Bool.not_eq_true _ ▸ hok)
  · rename_i hskipped
    refine serveFresh_spec hR hcand fun hjson content hcontent => ?_
    have hempty : (redactFirst h.guard resp).1.choices = [] := by
      by_contra hne
      exact hskipped ⟨hne, hjson⟩
    cases (content?_eq_none hempty).symm.trans hcontent

def roundAnswered (h : Handler) (T : Client → String → Prop) (c : Client) :
    Round Walk (Reply ChatBody) → Prop
  | .next _ => True
  | .done reply => answered h T c reply

lemma unaryAttempt_spec {reqTrace : Trace} {fwdModel : String} (hR : c ∈ R)
    (hchain : ∀ m, m ∈ chain ↔ m ∈ chainModels h c.ctx c.stats c.req.model)
    (hcand : cand.model ∈ chain) :
    (unaryAttempt h c.ctx c.req reqTrace chain w cand p fwdModel).Spec (relies T c)
      (guarantee h R c) (roundAnswered h T c) := by
  refine Spec.bind (quiet (beginAttempt_within ..) rfl) fun begun =>
    Spec.bind (quiet (injectCredential_within ..) rfl) fun x => ?_
  match x with
  | .error err =>
    exact Spec.bind (quiet (missingCredential_within ..) rfl) fun _ => trivial
  | .ok (callCtx, source) =>
    refine spec_bind.mpr ((lookupCache_spec hR hchain).mono fun y hy => ?_)
    match y with
    | .inl cached =>
      exact spec_bind.mpr ((serveCached_spec (hy cached rfl)).mono fun reply hreply => hreply)
    | .inr vec =>
      refine spec_perform_bind.mpr ⟨trivial, fun z _ => ?_⟩
      cases z with
      | error err =>
        exact Spec.bind (quiet (unaryFailed_within ..) rfl) fun _ => trivial
      | ok resp =>
        exact spec_bind.mpr ((answerUpstream_spec hR ((hchain _).mp hcand)).mono
          fun reply hreply => hreply)

lemma unaryLoop_spec {reqTrace : Trace} {start : Int} {i : ℕ} {rest : List String} (hR : c ∈ R)
    (hchain : ∀ m, m ∈ chain ↔ m ∈ chainModels h c.ctx c.stats c.req.model)
    (hrest : ∀ m ∈ rest, m ∈ chain) :
    (unaryLoop h c.ctx c.req start reqTrace chain i rest w).Spec (relies T c) (guarantee h R c)
      (answered h T c) := by
  induction rest generalizing i w with
  | nil =>
    exact Spec.bind (quiet (exhaustedTrace_within ..) rfl) fun _ =>
      Spec.bind (quiet (recordEvidence_within ..) rfl) fun _ => trivial
  | cons m rest ih =>
    obtain ⟨hm, hrest⟩ := List.forall_mem_cons.mp hrest
    unfold unaryLoop
    split
    · exact ih hrest
    refine spec_bind.mpr ((unaryAttempt_spec hR hchain (by exact hm)).mono fun r hr => ?_)
    cases r with
    | next w' => exact ih hrest
    | done reply => exact hr

lemma chat_spec {flusher : Bool} (hR : c ∈ R) (hunary : c.req.stream = false) :
    (chatCompletions h c.ctx flusher (.ok c.req)).Spec (relies T c) (guarantee h R c)
      (answered h T c) := by
  unfold chatCompletions
  dsimp only
  split
  · trivial
  split
  · exact Spec.bind (quiet (recordGuardrailBlock_within ..) rfl) fun _ => trivial
  refine spec_bind.mpr (resolveChain_spec.mono fun x hx => ?_)
  cases x with
  | error reply => exact hx
  | ok chain =>
    refine Spec.bind (quiet now_within rfl) fun start => ?_
    rw [if_neg (by rw [hunary]; decide)]
    exact Spec.bind (quiet (newTrace_within ..) rfl) fun reqTrace =>
      unaryLoop_spec hR hx fun m hm => hm

end

def Inv (h : Handler) (R : Set Client) (m : Memory (String × Origin)) : Prop :=
  ∀ key, ∀ e ∈ m.data key, ∀ json origin, e.response = some (json, origin) →
    ∃ c ∈ R, ∃ scope model, key = cacheKey scope model ∧ Deposit h c scope model json origin

def Found (h : Handler) (R : Set Client) (c : Client) (json : String) : Prop :=
  c ∈ R ∧ cacheEligible c.req = true ∧
    ∃ c' ∈ R, ∃ origin, Deposit h c' (cacheScope c.ctx) c.req.model json origin

variable {E : Engine String} {h : Handler} {R : Set Client} {m : Memory (String × Origin)}

lemma Inv.hit {now : Int} {scope model prompt : String} {vec : List ℚ}
    {hit : Hit (String × Origin)} {json : String} {origin : Origin} (hinv : Inv h R m)
    (hhit : m.lookup (tagged E) (lookupCall now scope model prompt vec) = some hit)
    (hresponse : hit.responseJSON = some (json, origin)) :
    ∃ c ∈ R, Deposit h c scope model json origin := by
  obtain ⟨e, hon⟩ := Semcache.search_spec (tagged E) hhit
  obtain ⟨c, hc, scope', model', hkey, hdeposit⟩ :=
    hinv _ e hon.mem json origin (hon.response.symm.trans hresponse)
  obtain ⟨rfl, rfl⟩ := cacheKey_injective hkey
  exact ⟨c, hc, hdeposit⟩

lemma Inv.store {c : Client} {now : Int} {scope model prompt : String} {vec : List ℚ}
    {json : String} {origin : Origin} (hinv : Inv h R m) (hc : c ∈ R)
    (hdeposit : Deposit h c scope model json origin) :
    Inv h R (m.store (tagged E) (storeCall now scope model prompt vec (json, origin))) := by
  intro key e he json' origin' hresponse
  rcases Semcache.mem_data_step (tagged E) (c := .store _) he with hold | ⟨st, hst, hkey, rfl⟩
  · exact hinv key e hold json' origin' hresponse
  cases hst
  have hstored : Semcache.appendNil (tagged E) (some (json, origin)) = some (json', origin') :=
    hresponse
  obtain ⟨hsome, -⟩ := Option.filter_eq_some_iff.mp hstored
  cases hsome
  exact ⟨c, hc, scope, model, hkey.symm, hdeposit⟩

lemma cache_invariant {cfg : Config}
    {P : Pool Ans (Memory (String × Origin)) Client (Reply ChatBody)} (hP : Reach E h R cfg P) :
    Inv h R P.shared ∧ ∀ tp ∈ P.threads, tp.2.Spec (relies (Found h R) tp.1)
      (guarantee h R tp.1) (answered h (Found h R) tp.1) := by
  -- the obligations: requests start within their specification, what they are answered is what
  -- they rely on, and what they do keeps the invariant
  refine Pool.Reachable.invariant ?_ (fun _ e he => absurd he List.not_mem_nil) ?_ ?_ hP
  · rintro c p ⟨hc, hunary, flusher, rfl⟩
    exact chat_spec hc hunary
  · intro c m o x m' hinv hguar hw
    cases o with
    | cacheLookup chain scope model prompt vec =>
      intro hit json hx hjson
      obtain ⟨-, ⟨err, rfl⟩ | ⟨now, rfl⟩⟩ := hw
      · cases hx
      obtain ⟨hit', hhit, rfl⟩ := Option.map_eq_some_iff.mp (Except.ok.inj hx)
      obtain ⟨⟨json', origin⟩, hresponse, rfl⟩ := Option.map_eq_some_iff.mp hjson
      obtain ⟨c', hc', hdeposit⟩ := hinv.hit hhit hresponse
      obtain ⟨hc, rfl, rfl, heligible, -⟩ := hguar
      exact ⟨hc, heligible, c', hc', origin, hdeposit⟩
    | readStats => exact hw.1
    | _ => trivial
  · intro c m o x m' hinv hguar hw
    cases o with
    | cacheLookup chain scope model prompt vec =>
      obtain ⟨rfl, -⟩ := hw
      exact hinv
    | cacheStore origin scope model prompt vec json =>
      rcases hw with ⟨-, rfl⟩ | ⟨-, now, rfl⟩
      · exact hinv
      · exact hinv.store hguar.1 hguar.2
    | readStats =>
      obtain ⟨-, rfl⟩ := hw
      exact hinv
    | _ =>
      cases hw
      exact hinv

end FfxNexus.CacheClient
