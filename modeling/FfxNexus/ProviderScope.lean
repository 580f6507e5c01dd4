/-
**Scopes of providers** (`Scope` and `ScopeHint` of `internal/gateway/scope.go`, `Resolve` of
`provider.go`, and the dispatch of chat requests), on the registry that the gateway starts with.
-/
import FfxNexus.Dispatch
import FfxNexus.StoredProviders

namespace FfxNexus.ProviderScope
open Interaction Schema Providers Gateway Endpoints Dispatch StoredProviders
open Interaction.Prog hiding perform

def OrgScoped (w : Wired) (p : Provider) : Prop :=
  ∃ r, w.built[p.id]? = some r ∧ r.hint.scope = .scopeOrg

def Leaks (w : Wired) (c : Call) : Prop :=
  OrgScoped w c.provider ∧ w.sentKey c.provider c.ctx = w.apiKey c.provider

/-- **The condition**: keys are resolved for each request, and a key of another kind is found for
the caller, or nothing in strict mode. -/
def Shielded (env : Env) (h : Handler) (ctx : Ctx) (w : Wired) (p : Provider) : Prop :=
  h.keyMode ≠ .shared ∧ h.credResolver = true ∧
    match env.answers ctx.orgID ctx.userID p.name with
    | .found cred => cred.secret ≠ "" ∧ cred.secret ≠ w.apiKey p
    | .notFound | .failed _ => h.keyMode = .strictBYOK

lemma sentKey_of_none {w : Wired} {p : Provider} {ctx : Ctx} (h : ctx.credential = none) :
    w.sentKey p ctx = w.apiKey p := by
  unfold Wired.sentKey Ctx.callerCredentialFrom
  rw [h]

lemma sentKey_found_ne_iff {w : Wired} {p : Provider} (ctx : Ctx) {cred : ResolvedCredential} :
    w.sentKey p (ctx.withCallerCredential cred.caller) ≠ w.apiKey p ↔
      cred.secret ≠ "" ∧ cred.secret ≠ w.apiKey p := by
  unfold Wired.sentKey Ctx.callerCredentialFrom Ctx.withCallerCredential ResolvedCredential.caller
  dsimp only
  split_ifs with hempty
  · exact ⟨fun h => absurd rfl h, fun h => absurd hempty h.1⟩
  · exact ⟨fun h => ⟨hempty, h⟩, And.right⟩

lemma injects_iff {env : Env} {h : Handler} {ctx : Ctx} {w : Wired} {p : Provider}
    (hctx : ctx.credential = none) :
    (∀ callCtx source, Injects env.assumption h ctx p.name (.ok (callCtx, source)) →
        w.sentKey p callCtx ≠ w.apiKey p) ↔ Shielded env h ctx w p := by
  unfold Shielded Injects
  by_cases hshared : h.keyMode = .shared ∨ h.credResolver = false
  · simp only [if_pos hshared]
    constructor
    · intro hsent
      exact absurd (sentKey_of_none hctx) (hsent ctx "env" rfl)
    · rintro ⟨hmode, hres, -⟩
      rcases hshared with hmode' | hres'
      · exact absurd hmode' hmode
      · rw [hres] at hres'
        cases hres'
  · simp only [if_neg hshared, Env.assumption, exists_eq_left]
    rw [not_or, Bool.not_eq_false] at hshared
    have hmissing : (∀ callCtx source, Except.ok (callCtx, source) =
          (if h.keyMode = .strictBYOK then .error (missingBYOKKey p.name)
            else .ok (ctx, "env") : Except String (Ctx × String)) →
          w.sentKey p callCtx ≠ w.apiKey p) ↔
        h.keyMode ≠ .shared ∧ h.credResolver = true ∧ h.keyMode = .strictBYOK := by
      split_ifs with hstrict
      · exact ⟨fun _ => ⟨hshared.1, hshared.2, hstrict⟩, fun _ _ _ heq => by cases heq⟩
      constructor
      · intro hsent
        exact absurd (sentKey_of_none hctx) (hsent ctx "env" rfl)
      · rintro ⟨-, -, hmode⟩
        exact absurd hmode hstrict
    cases env.answers ctx.orgID ctx.userID p.name with
    | found cred =>
      dsimp only [credentialContext]
      rw [← sentKey_found_ne_iff ctx]
      constructor
      · intro hsent
        exact ⟨hshared.1, hshared.2, hsent _ _ rfl⟩
      · rintro ⟨-, -, hne⟩ callCtx source heq
        cases heq
        exact hne
    | notFound => exact hmissing
    | failed err => exact hmissing

def atBoot (h : Handler) (cfg : Config) (rows : List Credential) (loaded : Bool) : Handler :=
  { h with registry := (boot cfg rows loaded).registry }

theorem scoped_calls_iff (cfg : Config) (rows : List Credential) (loaded : Bool) (env : Env)
    (h : Handler) (ctx : Ctx) (hctx : ctx.credential = none) (flusher : Bool)
    (body : Except String ChatCompletionRequest) :
    (∀ log reply, (serve (atBoot h cfg rows loaded) ctx flusher (.chat body)).Runs log reply →
        (∀ e ∈ log, env.assumption.rely e.1 e.2) →
          ∀ c ∈ calls log, ¬ Leaks (boot cfg rows loaded) c) ↔
      ∀ req, admitted h body = some req → (req.stream = true → flusher = true) →
        ∀ m ∈ chainModels (atBoot h cfg rows loaded) ctx env.stats req.model, ∀ p fwd,
          (boot cfg rows loaded).registry.resolve m = .ok (p, fwd) →
            OrgScoped (boot cfg rows loaded) p → Shielded env h ctx (boot cfg rows loaded) p := by
  rw [calls_iff_mayCall]
  have hadmitted : admitted (atBoot h cfg rows loaded) body = admitted h body := rfl
  constructor
  · intro hcalls req hreq hflush m hm p fwd hresolve hscoped
    refine (injects_iff hctx).mp fun callCtx source hinjects hsent => ?_
    exact hcalls ⟨m, p, callCtx⟩
      ⟨req, env.stats, fwd, source, hadmitted.trans hreq, hflush, rfl, hm, hresolve, hinjects⟩
      ⟨hscoped, hsent⟩
  · rintro hshielded ⟨m, p, callCtx⟩
      ⟨req, stats, fwd, source, hreq, hflush, rfl, hm, hresolve, hinjects⟩ ⟨hscoped, hsent⟩
    have hp := hshielded req (hadmitted.symm.trans hreq) hflush m hm p fwd hresolve hscoped
    exact (injects_iff hctx).mpr hp callCtx source hinjects hsent

def teamRouter : Credential :=
  ⟨"cred-1", "default", none, "acme", "https://llm.acme.example", "sk-acme", true, ["m1"], []⟩

def bareConfig (mode : KeyMode) : Config := ⟨mode, false, fun _ => ""⟩

def plainHandler (mode : KeyMode) : Handler :=
  { newHandler newRegistry true false blankCodec blankText with
    credResolver := decide (mode ≠ .shared)
    keyMode := mode }

def outsider : Ctx := ⟨"req-1", "", "org-2", "user-2", "vk-2", [], 0, none⟩

theorem scoped_calls_iff_strict : outsider.orgID ≠ defaultOrgID ∧
      ∀ log reply, (serve (atBoot (plainHandler .strictBYOK) (bareConfig .strictBYOK) [teamRouter]
          true) outsider true (.chat (.ok (plainRequest "acme/m1")))).Runs log reply →
        (∀ e ∈ log, noKeys.assumption.rely e.1 e.2) →
          ∀ c ∈ calls log, ¬ Leaks (boot (bareConfig .strictBYOK) [teamRouter] true) c := by
  refine ⟨by decide, (scoped_calls_iff (bareConfig .strictBYOK) [teamRouter] true noKeys
    (plainHandler .strictBYOK) outsider rfl true _).mpr ?_⟩
  intro req _ _ m _ p fwd _ _
  exact ⟨by decide, by decide, rfl⟩

theorem scope_not_honoured : outsider.orgID ≠ defaultOrgID ∧ ∃ log reply c,
      (serve (atBoot (plainHandler .shared) (bareConfig .shared) [teamRouter] true) outsider true
        (.chat (.ok (plainRequest "user/acme/m1")))).Runs log reply ∧
      c ∈ calls log ∧ Leaks (boot (bareConfig .shared) [teamRouter] true) c ∧
      (boot (bareConfig .shared) [teamRouter] true).sentKey c.provider c.ctx = "sk-acme" := by
  refine ⟨by decide, _, _, ⟨"user/acme/m1", (userCompat teamRouter).provider 6, outsider⟩,
    execute_runs noKeys.oracle _, by decide, ⟨⟨userCompat teamRouter, ?_, rfl⟩, ?_⟩, ?_⟩
  · decide
  · decide
  · decide

end FfxNexus.ProviderScope
