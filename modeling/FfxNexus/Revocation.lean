/-
**Rotating and deleting stored credentials** (`createCredential`, `rotateCredential` and
`deleteCredential` of `internal/console/admin.go`, the reload hook of `cmd/nexus/main.go`, and the
provider calls of the gateway), for an installation with a database and a master key.
-/
import FfxNexus.CredentialCache
import FfxNexus.StoredProviders
import FfxNexus.Translated

namespace FfxNexus.Revocation
open Go Providers Gateway Translated StoredProviders List Wired Function

def resolveCredential (rows : List Credential) (orgID userID provider : String) :
    Option (Credential × String) :=
  let rows := rows.filter fun c =>
    c.orgID = orgOrDefault orgID ∧ c.provider = provider ∧ c.enabled = true
  match rows.find? fun c => userID ≠ "" ∧ c.userID = some userID with
  | some c => some (c, "user")
  | none => (rows.find? fun c => c.userID = none).map (·, "org")

def storeCredentialSource (rows : List Credential) : CredentialCache.Source := fun call =>
  let row :=
    match resolveCredential rows call.orgID call.userID call.provider with
    | some row => some row
    | none =>
      if call.provider = "grid" then resolveCredential rows call.orgID call.userID "the_grid"
      else none
  row.map fun row => ⟨row.1.secret, row.1.baseURL, row.2, row.1.id⟩

def Named (id : String) (c : Credential) : Prop := c.id = id ∧ c.orgID = defaultOrgID

instance (id : String) (c : Credential) : Decidable (Named id c) :=
  inferInstanceAs (Decidable (_ ∧ _))

def rotated (rows : List Credential) (id secret : String) : List Credential :=
  rows.map fun c => if Named id c then { c with secret := secret } else c

def deleted (rows : List Credential) (id : String) : List Credential :=
  rows.filter fun c => ¬ Named id c

inductive Endpoint
  | chat | translatedUnary | relaxed

structure Job where
  endpoint : Endpoint
  orgID : String
  userID : String
  provider : Provider

def Job.ctx (job : Job) : Ctx := ⟨"", "", job.orgID, job.userID, "", [], 0, none⟩

def Job.question (job : Job) : CredentialCache.Call :=
  ⟨job.orgID, job.userID, job.provider.name⟩

def Job.context (mode : KeyMode) (job : Job) (answer : CredentialAnswer) : Option Ctx :=
  match job.endpoint, answer with
  | .chat, answer =>
    match credentialContext mode job.ctx job.provider.name answer with
    | .ok (ctx, _) => some ctx
    | .error _ => none
  | .translatedUnary, .failed _ => if mode = .strictBYOK then none else some job.ctx
  | _, answer => some (overrideContext job.ctx (some answer))

inductive Phase
  | idle
  | resolving (job : Job) (pc : CredentialCache.Pc)
  | ready (job : Job)

structure State where
  rows : List Credential
  wired : Wired
  cache : GoMap String CredentialCache.CacheEntry
  now : ℤ
  attempt : ℕ → Phase

inductive Outcome
  | done (loaded : Bool)
  | failed (applied : Bool)

inductive Pick
  | model (m : String)
  | named (name : String)

inductive Cmd
  | create (row : Credential) (failure : Option Bool)
  | rotate (id secret : String) (outcome : Outcome)
  | delete (id : String) (outcome : Outcome)
  | route (i : ℕ) (endpoint : Endpoint) (orgID userID : String) (pick : Pick)
  | resolve (i : ℕ) (err : Option String)
  | call (i : ℕ)
  | finish (i : ℕ)
  | clock (now : ℤ)

inductive Answer
  | silent
  | console (status : ℕ) (err : String)
  | sent (key : String)
deriving DecidableEq

def create (s : State) (row : Credential) (failure : Option Bool) : State × Answer :=
  let row := { row with orgID := defaultOrgID, userID := none, enabled := true }
  let stored := { s with rows := s.rows ++ [row] }
  if row.provider = "" ∨ row.secret = "" then
    (s, .console 400 "provider and secret are required")
  else if ∃ c ∈ s.rows, c.id = row.id then (s, .console 500 "create failed")
  else
    match failure with
    | none => (stored, .console 201 "")
    | some applied => (if applied = true then stored else s, .console 500 "create failed")

def reload (s : State) (loaded : Bool) : State :=
  { s with wired := registerStoredCredentials s.wired s.rows loaded, cache := ∅ }

def rotate (s : State) (id secret : String) (outcome : Outcome) : State × Answer :=
  let stored := { s with rows := rotated s.rows id secret }
  if secret = "" then (s, .console 400 "secret is required")
  else
    match outcome with
    | .failed applied => (if applied = true then stored else s, .console 500 "rotate failed")
    | .done loaded =>
      if ∃ c ∈ s.rows, Named id c then (reload stored loaded, .console 200 "")
      else (s, .console 404 "not found")

def delete (s : State) (id : String) (outcome : Outcome) : State × Answer :=
  let stored := { s with rows := deleted s.rows id }
  match outcome with
  | .failed applied => (if applied = true then stored else s, .console 500 "delete failed")
  | .done loaded =>
    if ∃ c ∈ s.rows, Named id c then (reload stored loaded, .console 200 "")
    else (s, .console 404 "not found")

def Pick.adapter (r : Registry) : Pick → Option Provider
  | .model m => (r.resolve m).toOption.map Prod.fst
  | .named name => r.providers.lookup name

def resolverConfig : CredentialCache.Config := ⟨true, 60000000000⟩

def resolver (s : State) : CredentialCache.State :=
  ⟨storeCredentialSource s.rows, s.cache, s.now, [], 0, []⟩

variable (cfg : Config)

def route (s : State) (i : ℕ) (endpoint : Endpoint) (orgID userID : String)
    (pick : Pick) : State :=
  match s.attempt i, pick.adapter s.wired.registry with
  | .idle, some p =>
    let job : Job := ⟨endpoint, orgID, userID, p⟩
    { s with
      attempt := update s.attempt i
        (if cfg.keyMode = .shared then .ready job
          else .resolving job (CredentialCache.entry resolverConfig)) }
  | _, _ => s

def resolve (s : State) (i : ℕ) (err : Option String) : State :=
  match s.attempt i with
  | .resolving job pc =>
    let next := (⟨job.question, 0, pc⟩ : CredentialCache.Thread).next resolverConfig (resolver s)
      err
    { s with cache := next.2, attempt := update s.attempt i (.resolving job next.1) }
  | _ => s

def call (s : State) (i : ℕ) : Answer :=
  match s.attempt i with
  | .ready job => .sent (s.wired.sentKey job.provider job.ctx)
  | .resolving job (.done answer) =>
    match job.context cfg.keyMode answer with
    | some ctx => .sent (s.wired.sentKey job.provider ctx)
    | none => .silent
  | _ => .silent

def gateway : Machine State Cmd Answer where
  step s
    | .create row failure => create s row failure
    | .rotate id secret outcome => rotate s id secret outcome
    | .delete id outcome => delete s id outcome
    | .route i endpoint orgID userID pick => (route cfg s i endpoint orgID userID pick, .silent)
    | .resolve i err => (resolve s i err, .silent)
    | .call i => (s, call cfg s i)
    | .finish i => ({ s with attempt := update s.attempt i .idle }, .silent)
    | .clock now => ({ s with now := now }, .silent)

def start (rows : List Credential) (loaded : Bool) (now : ℤ) : State :=
  ⟨rows, boot cfg rows loaded, ∅, now, fun _ => .idle⟩

def Current (rows : List Credential) (x : String) : Prop :=
  x = "" ∨ (∃ b, cfg.envKey b = x) ∨ ∃ c ∈ rows, c.enabled = true ∧ c.secret = x

def pcSecrets : CredentialCache.Pc → List String
  | .check (some ⟨some cred, _⟩) => [cred.secret]
  | .store (some cred) => [cred.secret]
  | .done (.found cred) => [cred.secret]
  | _ => []

def held (w : Wired) : Phase → List String
  | .idle => []
  | .resolving job pc => w.apiKey job.provider :: pcSecrets pc
  | .ready job => [w.apiKey job.provider]

def Clean (s : State) (rows : List Credential) (loaded : Bool) : Prop :=
  ∀ x, Current cfg s.rows x → ¬ Current cfg rows x →
    (∀ i, x ∉ held s.wired (s.attempt i)) ∧
    (∀ name p, s.wired.registry.providers.lookup name = some p → s.wired.apiKey p = x →
      loaded = true ∧ ∃ r ∈ storedRegistrations rows, r.name = name) ∧
    ∀ m p, s.wired.registry.byModel.lookup m = some p → s.wired.apiKey p = x →
      loaded = true ∧ ∃ r ∈ storedRegistrations rows, m ∈ r.models

/-- **The condition**: a request that reports an error must not have taken a secret out of use. -/
def Unstale (s : State) : Cmd → Prop
  | .rotate id secret (.done loaded) => Clean cfg s (rotated s.rows id secret) loaded
  | .rotate id secret (.failed true) =>
    ∀ x, Current cfg s.rows x → Current cfg (rotated s.rows id secret) x
  | .delete id (.done loaded) => Clean cfg s (deleted s.rows id) loaded
  | .delete id (.failed true) => ∀ x, Current cfg s.rows x → Current cfg (deleted s.rows id) x
  | _ => True

structure Inv (cfg : Config) (s : State) : Prop where
  adapters : ∀ p, Reachable s.wired.registry p →
    p.id < s.wired.built.length ∧ Current cfg s.rows (s.wired.apiKey p)
  cached : ∀ key e cred, s.cache.lookup key = some e → e.cred = some cred →
    Current cfg s.rows cred.secret
  calls : ∀ i, ∀ x ∈ held s.wired (s.attempt i), Current cfg s.rows x
  built : ∀ i job, (s.attempt i = .ready job ∨ ∃ pc, s.attempt i = .resolving job pc) →
    job.provider.id < s.wired.built.length

variable {rows : List Credential}

variable {cfg : Config}

lemma current_of_mem {c : Credential} (hc : c ∈ rows)
    (henabled : c.enabled = true) : Current cfg rows c.secret :=
  .inr (.inr ⟨c, hc, henabled, rfl⟩)

lemma Current.mono {rows' : List Credential} {x : String} (h : Current cfg rows x)
    (hsub : rows ⊆ rows') : Current cfg rows' x := by
  rcases h with hempty | henv | ⟨c, hc, henabled, rfl⟩
  · exact .inl hempty
  · exact .inr (.inl henv)
  · exact current_of_mem (hsub hc) henabled

variable {r : Registration}

lemma current_of_registerProviders (h : r ∈ registerProviders cfg)
    (rows : List Credential) : Current cfg rows r.apiKey := by
  obtain ⟨b, rfl | rfl⟩ := mem_registerProviders h
  · exact .inl rfl
  · exact .inr (.inl ⟨b, rfl⟩)

lemma current_of_storedRegistrations (h : r ∈ storedRegistrations rows) :
    Current cfg rows r.apiKey := by
  obtain ⟨c, hc, ⟨-, -, henabled⟩, hreg⟩ := mem_storedRegistrations.mp h
  rw [(storedRegistration_secret hreg "").1]
  exact current_of_mem hc henabled

lemma current_of_resolveCredential {orgID userID provider source : String}
    {c : Credential} (h : resolveCredential rows orgID userID provider = some (c, source)) :
    Current cfg rows c.secret := by
  have hmem : c ∈ rows.filter fun c =>
      c.orgID = orgOrDefault orgID ∧ c.provider = provider ∧ c.enabled = true := by
    unfold resolveCredential at h
    dsimp only at h
    split at h
    · rename_i c' hfound
      cases h
      exact mem_of_find?_eq_some hfound
    · obtain ⟨c', hfound, heq⟩ := Option.map_eq_some_iff.mp h
      cases heq
      exact mem_of_find?_eq_some hfound
  rw [mem_filter, decide_eq_true_eq] at hmem
  exact current_of_mem hmem.1 hmem.2.2.2

lemma current_of_source {q : CredentialCache.Call} {cred : ResolvedCredential}
    (h : storeCredentialSource rows q = some cred) : Current cfg rows cred.secret := by
  obtain ⟨⟨c, source⟩, hrow, rfl⟩ := Option.map_eq_some_iff.mp h
  split at hrow
  · rename_i row hfound
    cases hrow
    exact current_of_resolveCredential hfound
  · split at hrow
    · exact current_of_resolveCredential hrow
    · cases hrow

lemma current_next {s : State} (h : Inv cfg s) (q : CredentialCache.Call)
    {pc : CredentialCache.Pc} (hpc : ∀ x ∈ pcSecrets pc, Current cfg s.rows x)
    (err : Option String) :
    (∀ x ∈ pcSecrets ((⟨q, 0, pc⟩ : CredentialCache.Thread).next resolverConfig (resolver s) err).1,
        Current cfg s.rows x) ∧
      ∀ key e cred, ((⟨q, 0, pc⟩ : CredentialCache.Thread).next resolverConfig (resolver s)
          err).2.lookup key = some e → e.cred = some cred → Current cfg s.rows cred.secret := by
  have hnothing : ∀ x ∈ ([] : List String), Current cfg s.rows x :=
    fun _ hx => absurd hx not_mem_nil
  cases pc with
  | lookup =>
    refine ⟨?_, h.cached⟩
    show ∀ x ∈ pcSecrets (.check (s.cache.lookup q.key)), _
    cases hlook : s.cache.lookup q.key with
    | none => exact hnothing
    | some e =>
      obtain ⟨cred, expires⟩ := e
      cases cred with
      | none => exact hnothing
      | some cred =>
        intro x hx
        rw [mem_singleton.mp hx]
        exact h.cached q.key _ cred hlook rfl
  | check e =>
    refine ⟨?_, by cases e <;> exact h.cached⟩
    cases e with
    | none => exact hnothing
    | some e =>
      show ∀ x ∈ pcSecrets (if s.now < e.expires then .done (CredentialCache.answerOf e.cred)
        else .read), _
      split_ifs with hfresh
      · obtain ⟨cred, expires⟩ := e
        cases cred with
        | none => exact hnothing
        | some cred => exact hpc
      · exact hnothing
  | read =>
    cases err with
    | some msg => exact ⟨hnothing, h.cached⟩
    | none =>
      refine ⟨?_, h.cached⟩
      show ∀ x ∈ pcSecrets (.store (storeCredentialSource s.rows q)), _
      cases hsource : storeCredentialSource s.rows q with
      | none => exact hnothing
      | some cred =>
        intro x hx
        rw [mem_singleton.mp hx]
        exact current_of_source hsource
  | store cred =>
    refine ⟨?_, ?_⟩
    · cases cred with
      | none => exact hnothing
      | some cred => exact hpc
    intro key e cred' hlook hcred
    rcases lookup_insert_eq_some hlook with ⟨rfl, rfl⟩ | ⟨-, hold⟩
    · subst hcred
      exact hpc cred'.secret (mem_singleton.mpr rfl)
    · exact h.cached key e cred' hold hcred
  | done answer => exact ⟨hpc, h.cached⟩

lemma context_cases {mode : KeyMode} {job : Job} {answer : CredentialAnswer} {ctx : Ctx}
    (h : job.context mode answer = some ctx) : ctx = job.ctx ∨ ∃ cred, answer = .found cred ∧
      ctx = job.ctx.withCallerCredential cred.caller := by
  have hoverride : overrideContext job.ctx (some answer) = job.ctx ∨
      ∃ cred, answer = .found cred ∧
        overrideContext job.ctx (some answer) = job.ctx.withCallerCredential cred.caller := by
    cases answer with
    | found cred => exact .inr ⟨cred, rfl, rfl⟩
    | notFound => exact .inl rfl
    | failed err => exact .inl rfl
  have hinject : ∀ {source}, credentialContext mode job.ctx job.provider.name answer =
      .ok (ctx, source) → ctx = overrideContext job.ctx (some answer) := by
    intro source heq
    cases answer with
    | found cred =>
      cases heq
      rfl
    | notFound | failed _ =>
      dsimp only [credentialContext] at heq
      split at heq
      · cases heq
      · cases heq
        rfl
  unfold Job.context at h
  split at h
  · split at h
    · rename_i heq
      cases h
      rw [hinject heq]
      exact hoverride
    · cases h
  · split at h
    · cases h
    · cases h
      exact .inl rfl
  · cases h
    exact hoverride

variable {w : Wired}

lemma sentKey_mem {mode : KeyMode} {job : Job} {answer : CredentialAnswer} {ctx : Ctx}
    (h : job.context mode answer = some ctx) :
    w.sentKey job.provider ctx ∈ held w (.resolving job (.done answer)) := by
  rcases context_cases h with rfl | ⟨cred, rfl, rfl⟩
  · exact mem_cons_self
  unfold sentKey Ctx.callerCredentialFrom Ctx.withCallerCredential
  dsimp only
  split
  · rename_i cred' heq
    split at heq
    · cases heq
    · cases heq
      exact mem_cons_of_mem _ (mem_singleton.mpr rfl)
  · exact mem_cons_self

lemma current_of_call {s : State} (h : Inv cfg s) {i : ℕ} {key : String}
    (hsent : call cfg s i = .sent key) : Current cfg s.rows key := by
  apply h.calls i
  unfold call at hsent
  split at hsent
  · rename_i job hjob
    rw [Answer.sent.injEq] at hsent
    rw [hjob, ← hsent]
    exact mem_singleton.mpr rfl
  · rename_i job answer hjob
    rw [hjob]
    split at hsent
    · rename_i ctx hctx
      rw [Answer.sent.injEq] at hsent
      rw [← hsent]
      exact sentKey_mem hctx
    · cases hsent
  · cases hsent

lemma current_registerAll {rs : List Registration}
    (hrs : ∀ r ∈ rs, Current cfg rows r.apiKey) {p : Provider}
    (h : (∃ r ∈ rs, (w.registerAll rs).built[p.id]? = some r) ∨
      (p.id < w.built.length ∧ Current cfg rows (w.apiKey p))) :
    p.id < (w.registerAll rs).built.length ∧ Current cfg rows ((w.registerAll rs).apiKey p) := by
  rcases h with ⟨r, hr, hbuilt⟩ | ⟨hid, hcurrent⟩
  · rw [apiKey_of_built hbuilt]
    exact ⟨(List.getElem?_eq_some_iff.mp hbuilt).1, hrs r hr⟩
  · rw [apiKey_registerAll hid, built_registerAll, List.length_append]
    exact ⟨by omega, hcurrent⟩

lemma adapters_registerAll
    (h : ∀ p, Reachable w.registry p → p.id < w.built.length ∧ Current cfg rows (w.apiKey p))
    {rs : List Registration} (hrs : ∀ r ∈ rs, Current cfg rows r.apiKey) (p : Provider)
    (hp : Reachable (w.registerAll rs).registry p) :
    p.id < (w.registerAll rs).built.length ∧ Current cfg rows ((w.registerAll rs).apiKey p) := by
  apply current_registerAll hrs
  rcases reachable_registerAll hp with hnew | hold
  · exact .inl hnew
  · exact .inr (h p hold)

lemma adapters_env (cfg : Config) (rows : List Credential) (p : Provider)
    (hp : Reachable (empty.registerAll (registerProviders cfg)).registry p) :
    p.id < (empty.registerAll (registerProviders cfg)).built.length ∧
      Current cfg rows ((empty.registerAll (registerProviders cfg)).apiKey p) := by
  have hempty : ∀ p, Reachable empty.registry p →
      p.id < empty.built.length ∧ Current cfg rows (empty.apiKey p) := by
    rintro p (⟨name, hname⟩ | ⟨m, hm⟩)
    · exact absurd hname (by simp [empty, newRegistry])
    · exact absurd hm (by simp [empty, newRegistry])
  exact adapters_registerAll hempty (fun r hr => current_of_registerProviders hr rows) p hp

lemma inv_start (cfg : Config) (rows : List Credential) (loaded : Bool) (now : ℤ) :
    Inv cfg (start cfg rows loaded now) := by
  have henv := adapters_env cfg rows
  refine ⟨?_, ?_, fun _ _ hx => absurd hx not_mem_nil, ?_⟩
  · show ∀ p, Reachable (boot cfg rows loaded).registry p →
      p.id < (boot cfg rows loaded).built.length ∧
        Current cfg rows ((boot cfg rows loaded).apiKey p)
    unfold boot registerStoredCredentials
    split
    · exact adapters_registerAll henv fun r hr => current_of_storedRegistrations hr
    · exact henv
  · intro key e cred hlook
    exact absurd hlook (by simp [start])
  · rintro i job (hready | ⟨pc, hresolving⟩)
    · cases hready
    · cases hresolving

section
variable {cfg : Config} {s : State}

lemma Inv.moved (h : Inv cfg s) {cache : GoMap String CredentialCache.CacheEntry}
    (hcache : ∀ key e cred, cache.lookup key = some e → e.cred = some cred →
      Current cfg s.rows cred.secret)
    (i : ℕ) {phase : Phase} (hheld : ∀ x ∈ held s.wired phase, Current cfg s.rows x)
    (hbuilt : ∀ job, (phase = .ready job ∨ ∃ pc, phase = .resolving job pc) →
      job.provider.id < s.wired.built.length) :
    Inv cfg { s with cache := cache, attempt := update s.attempt i phase } := by
  refine ⟨h.adapters, hcache, ?_, ?_⟩
  · intro j x hx
    dsimp only at hx
    by_cases hji : j = i
    · subst hji
      rw [update_self] at hx
      exact hheld x hx
    · rw [update_of_ne hji] at hx
      exact h.calls j x hx
  · intro j job hj
    dsimp only at hj
    by_cases hji : j = i
    · subst hji
      rw [update_self] at hj
      exact hbuilt job hj
    · rw [update_of_ne hji] at hj
      exact h.built j job hj

variable {rows : List Credential}

lemma reachable_of_pick {r : Registry} {pick : Pick} {p : Provider}
    (h : pick.adapter r = some p) : Reachable r p := by
  cases pick with
  | named name => exact .inl ⟨name, h⟩
  | model m =>
    have h : (r.resolve m).toOption.map Prod.fst = some p := h
    cases hresolve : r.resolve m with
    | error err =>
      rw [hresolve] at h
      cases h
    | ok found =>
      obtain ⟨q, fwd⟩ := found
      rw [hresolve] at h
      cases h
      exact reachable_of_resolve hresolve

variable (h : Inv cfg s)
include h

lemma Inv.tabled (hkeep : ∀ x, Current cfg s.rows x → Current cfg rows x) :
    Inv cfg { s with rows := rows } :=
  ⟨fun p hp => ⟨(h.adapters p hp).1, hkeep _ (h.adapters p hp).2⟩,
    fun key e cred hlook hcred => hkeep _ (h.cached key e cred hlook hcred),
    fun i x hx => hkeep x (h.calls i x hx), h.built⟩

lemma Inv.held_registerAll (rs : List Registration) (i : ℕ) :
    held (s.wired.registerAll rs) (s.attempt i) = held s.wired (s.attempt i) := by
  cases hphase : s.attempt i with
  | idle => rfl
  | ready job =>
    have hid := h.built i job (.inl hphase)
    show [(s.wired.registerAll rs).apiKey job.provider] = [s.wired.apiKey job.provider]
    rw [apiKey_registerAll hid]
  | resolving job pc =>
    have hid := h.built i job (.inr ⟨pc, hphase⟩)
    show (s.wired.registerAll rs).apiKey job.provider :: pcSecrets pc =
      s.wired.apiKey job.provider :: pcSecrets pc
    rw [apiKey_registerAll hid]

lemma adapters_reload {loaded : Bool} (hclean : Clean cfg s rows loaded)
    (p : Provider) (hp : Reachable (registerStoredCredentials s.wired rows loaded).registry p) :
    p.id < (registerStoredCredentials s.wired rows loaded).built.length ∧
      Current cfg rows ((registerStoredCredentials s.wired rows loaded).apiKey p) := by
  cases loaded with
  | false =>
    obtain ⟨hid, hcurrent⟩ := h.adapters p hp
    refine ⟨hid, ?_⟩
    by_contra hgone
    obtain ⟨-, hnames, hmodels⟩ := hclean _ hcurrent hgone
    rcases hp with ⟨name, hname⟩ | ⟨m, hm⟩
    · exact Bool.false_ne_true (hnames name p hname rfl).1
    · exact Bool.false_ne_true (hmodels m p hm rfl).1
  | true =>
    apply current_registerAll fun r hr => current_of_storedRegistrations hr
    rcases hp with ⟨name, hname⟩ | ⟨m, hm⟩
    · rcases lookup_providers_registerAll hname with ⟨r, hr, -, hbuilt⟩ | ⟨hnone, hname⟩
      · exact .inl ⟨r, hr, hbuilt⟩
      obtain ⟨hid, hcurrent⟩ := h.adapters p (.inl ⟨name, hname⟩)
      refine .inr ⟨hid, ?_⟩
      by_contra hgone
      obtain ⟨-, r, hr, heq⟩ := (hclean _ hcurrent hgone).2.1 name p hname rfl
      exact hnone r hr heq
    · rcases lookup_byModel_registerAll hm with ⟨r, hr, -, hbuilt⟩ | ⟨hnone, hm⟩
      · exact .inl ⟨r, hr, hbuilt⟩
      obtain ⟨hid, hcurrent⟩ := h.adapters p (.inr ⟨m, hm⟩)
      refine .inr ⟨hid, ?_⟩
      by_contra hgone
      obtain ⟨-, r, hr, heq⟩ := (hclean _ hcurrent hgone).2.2 m p hm rfl
      exact hnone r hr heq

lemma inv_reload {loaded : Bool} (hclean : Clean cfg s rows loaded) :
    Inv cfg (reload { s with rows := rows } loaded) := by
  have hheld : ∀ i, held (registerStoredCredentials s.wired rows loaded) (s.attempt i) =
      held s.wired (s.attempt i) := by
    intro i
    unfold registerStoredCredentials
    split
    · exact h.held_registerAll _ i
    · rfl
  have hlength : s.wired.built.length ≤
      (registerStoredCredentials s.wired rows loaded).built.length := by
    unfold registerStoredCredentials
    split
    · rw [built_registerAll, length_append]
      omega
    · exact le_refl _
  refine ⟨adapters_reload h hclean, ?_, ?_, ?_⟩
  · intro key e cred hlook
    exact absurd hlook (by simp [reload])
  · intro i x hx
    have hx : x ∈ held s.wired (s.attempt i) := hheld i ▸ hx
    by_contra hgone
    exact (hclean x (h.calls i x hx) hgone).1 i hx
  · intro i job hi
    exact lt_of_lt_of_le (h.built i job hi) hlength

lemma inv_create (row : Credential) (failure : Option Bool) : Inv cfg (create s row failure).1 := by
  have hstored : Inv cfg { s with rows := s.rows ++
      [{ row with orgID := defaultOrgID, userID := none, enabled := true }] } :=
    h.tabled fun x hx => hx.mono (subset_append_left _ _)
  unfold create
  dsimp only
  split
  · exact h
  split
  · exact h
  cases failure with
  | none => exact hstored
  | some applied =>
    dsimp only
    split
    · exact hstored
    · exact h

lemma inv_rotate {id secret : String} {outcome : Outcome}
    (hc : Unstale cfg s (.rotate id secret outcome)) : Inv cfg (rotate s id secret outcome).1 := by
  unfold rotate
  split
  · exact h
  cases outcome with
  | done loaded =>
    dsimp only
    split
    · exact inv_reload h hc
    · exact h
  | failed applied =>
    cases applied with
    | true => exact h.tabled hc
    | false => exact h

lemma inv_delete {id : String} {outcome : Outcome}
    (hc : Unstale cfg s (.delete id outcome)) : Inv cfg (delete s id outcome).1 := by
  unfold delete
  cases outcome with
  | done loaded =>
    dsimp only
    split
    · exact inv_reload h hc
    · exact h
  | failed applied =>
    cases applied with
    | true => exact h.tabled hc
    | false => exact h

lemma inv_route (i : ℕ) (endpoint : Endpoint) (orgID userID : String)
    (pick : Pick) : Inv cfg (route cfg s i endpoint orgID userID pick) := by
  unfold route
  split
  · rename_i p hidle hpick
    obtain ⟨hid, hcurrent⟩ := h.adapters p (reachable_of_pick hpick)
    apply h.moved h.cached
    · split
      · intro x hx
        rw [mem_singleton.mp hx]
        exact hcurrent
      intro x hx
      rw [mem_singleton.mp hx]
      exact hcurrent
    · intro job hjob
      split at hjob
      · rcases hjob with heq | ⟨pc, heq⟩
        · cases heq
          exact hid
        · cases heq
      · rcases hjob with heq | ⟨pc, heq⟩
        · cases heq
        · cases heq
          exact hid
  · exact h

lemma inv_resolve (i : ℕ) (err : Option String) : Inv cfg (resolve s i err) := by
  unfold resolve
  split
  · rename_i job pc hphase
    have hheld := h.calls i
    rw [hphase] at hheld
    obtain ⟨hnext, hcache⟩ := current_next h job.question
      (fun x hx => hheld x (mem_cons_of_mem _ hx)) err
    apply h.moved hcache
    · intro x hx
      rcases mem_cons.mp hx with rfl | hx
      · exact hheld _ mem_cons_self
      · exact hnext x hx
    · rintro job' (heq | ⟨pc', heq⟩)
      · cases heq
      · cases heq
        exact h.built i job (.inr ⟨pc, hphase⟩)
  · exact h

lemma inv_finish (i : ℕ) : Inv cfg { s with attempt := update s.attempt i .idle } := by
  apply h.moved h.cached
  · exact fun _ hx => absurd hx not_mem_nil
  · rintro job (heq | ⟨pc, heq⟩)
    · cases heq
    · cases heq

end

lemma storedRegistrations_rotated (h : r ∈ storedRegistrations rows) (id secret : String) :
    ∃ r' ∈ storedRegistrations (rotated rows id secret), r'.name = r.name ∧
      r'.models = r.models := by
  obtain ⟨c, hc, hloaded, hreg⟩ := mem_storedRegistrations.mp h
  by_cases hnamed : Named id c
  · have hrow : { c with secret := secret } ∈ rotated rows id secret :=
      mem_map.mpr ⟨c, hc, if_pos hnamed⟩
    have hreg' := (storedRegistration_secret hreg secret).2
    exact ⟨_, mem_storedRegistrations.mpr ⟨_, hrow, hloaded, hreg'⟩, rfl, rfl⟩
  · have hrow : c ∈ rotated rows id secret := mem_map.mpr ⟨c, hc, if_neg hnamed⟩
    exact ⟨r, mem_storedRegistrations.mpr ⟨c, hrow, hloaded, hreg⟩, rfl, rfl⟩

lemma clean_rotated (cfg : Config) (rows : List Credential) (now : ℤ) (id secret : String) :
    Clean cfg (start cfg rows true now) (rotated rows id secret) true := by
  intro x _ hgone
  have henv : ∀ {p}, Reachable (empty.registerAll (registerProviders cfg)).registry p →
      (boot cfg rows true).apiKey p ≠ x := by
    intro p hp hkey
    obtain ⟨hid, hcurrent⟩ := adapters_env cfg (rotated rows id secret) p hp
    have hkept : (boot cfg rows true).apiKey p = _ :=
      apiKey_registerAll hid (storedRegistrations rows)
    rw [← hkept, hkey] at hcurrent
    exact hgone hcurrent
  refine ⟨fun i hx => absurd hx not_mem_nil, ?_, ?_⟩
  · intro name p hlook hkey
    have hlook : ((empty.registerAll (registerProviders cfg)).registerAll
      (storedRegistrations rows)).registry.providers.lookup name = some p := hlook
    rcases lookup_providers_registerAll hlook with ⟨r, hr, hname, -⟩ | ⟨-, hold⟩
    · obtain ⟨r', hr', hname', -⟩ := storedRegistrations_rotated hr id secret
      exact ⟨rfl, r', hr', hname'.trans hname⟩
    · exact absurd hkey (henv (.inl ⟨name, hold⟩))
  · intro m p hlook hkey
    have hlook : ((empty.registerAll (registerProviders cfg)).registerAll
      (storedRegistrations rows)).registry.byModel.lookup m = some p := hlook
    rcases lookup_byModel_registerAll hlook with ⟨r, hr, hm, -⟩ | ⟨-, hold⟩
    · obtain ⟨r', hr', -, hmodels⟩ := storedRegistrations_rotated hr id secret
      exact ⟨rfl, r', hr', hmodels ▸ hm⟩
    · exact absurd hkey (henv (.inr ⟨m, hold⟩))

lemma inv_step (cfg : Config) (s : State) (c : Cmd) (h : Inv cfg s) (hc : Unstale cfg s c) :
    Inv cfg ((gateway cfg).step s c).1 := by
  cases c with
  | create row failure => exact inv_create h row failure
  | rotate id secret outcome => exact inv_rotate h hc
  | delete id outcome => exact inv_delete h hc
  | route i endpoint orgID userID pick => exact inv_route h i endpoint orgID userID pick
  | resolve i err => exact inv_resolve h i err
  | call i => exact h
  | finish i => exact inv_finish h i
  | clock now => exact ⟨h.adapters, h.cached, h.calls, h.built⟩

theorem current_calls (cfg : Config) (rows : List Credential) (loaded : Bool) (now : ℤ)
    (cmds : List Cmd) (h : (gateway cfg).Along (Unstale cfg) (start cfg rows loaded now) cmds) :
    (gateway cfg).Along (fun s c => ∀ i key, c = .call i → ((gateway cfg).step s c).2 = .sent key →
        Current cfg s.rows key) (start cfg rows loaded now) cmds := by
  intro before c after heq i key hcall hsent
  obtain ⟨hinv, -⟩ := h.invariant (inv_step cfg) (inv_start cfg rows loaded now) before c after heq
  subst hcall
  exact current_of_call hinv hsent

def sharedConfig : Config := ⟨.shared, false, fun _ => ""⟩

def acme : Credential :=
  ⟨"c1", "default", none, "acme", "https://acme.example/v1", "sk-1", true, ["m1"], []⟩

theorem current_calls_rotated : (gateway sharedConfig).trace (start sharedConfig [acme] true 0)
        [.rotate "c1" "sk-2" (.done true), .route 0 .chat "" "" (.model "acme/m1"), .call 0] =
      [.console 200 "", .silent, .sent "sk-2"] ∧ (gateway sharedConfig).Along
      (fun s c => ∀ i key, c = .call i → ((gateway sharedConfig).step s c).2 = .sent key →
        Current sharedConfig s.rows key) (start sharedConfig [acme] true 0)
      [.rotate "c1" "sk-2" (.done true), .route 0 .chat "" "" (.model "acme/m1"), .call 0] := by
  refine ⟨by decide, current_calls _ _ _ _ _ ?_⟩
  rw [Machine.along_cons, Machine.along_cons, Machine.along_cons]
  exact ⟨clean_rotated sharedConfig [acme] 0 "c1" "sk-2", trivial, trivial, Machine.along_nil⟩

theorem deleted_secret_sent : (gateway sharedConfig).trace (start sharedConfig [acme] true 0)
        [.delete "c1" (.done true), .route 0 .chat "" "" (.model "acme/m1"), .call 0] =
      [.console 200 "", .silent, .sent "sk-1"] ∧
    ¬ Current sharedConfig ((gateway sharedConfig).run (start sharedConfig [acme] true 0)
        [.delete "c1" (.done true), .route 0 .chat "" "" (.model "acme/m1")]).rows "sk-1" := by
  refine ⟨by decide, ?_⟩
  have hrows : ((gateway sharedConfig).run (start sharedConfig [acme] true 0)
      [.delete "c1" (.done true), .route 0 .chat "" "" (.model "acme/m1")]).rows = [] := by
    decide
  rintro (hempty | ⟨b, henv⟩ | ⟨c, hc, -⟩)
  · exact absurd hempty (by decide)
  · have henv : "" = "sk-1" := henv
    exact absurd henv (by decide)
  · exact absurd hc not_mem_nil

end FfxNexus.Revocation
