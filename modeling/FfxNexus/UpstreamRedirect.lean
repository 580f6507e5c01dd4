/-
**Redirects of provider calls** (`stripAuthorizationOnCrossOriginRedirect` of
`internal/gateway/providers/openai.go`), below the same loop of `net/http` as in `Redirect`.
-/
import FfxNexus.Redirect

namespace FfxNexus.UpstreamRedirect
open Egress Redirect List

def maxUpstreamRedirects : ℕ := 10

def credentials : List String := ["Authorization", "X-Api-Key", "Cookie", "Proxy-Authorization"]

def sameOrigin (u v : URL) : Bool := u.scheme = v.scheme ∧ u.host = v.host

def stripAuthorizationOnCrossOriginRedirect (req : Request) (c : Chain) :
    Except String Request :=
  if maxUpstreamRedirects ≤ c.later.length + 1 then .error "net/http: use last response"
  else if sameOrigin c.prev.url req.url then .ok req
  else .ok { req with header := deleteHeaders credentials req.header }

def client : Machine Chain URL Unit where
  step c u := (c.followUnder stripAuthorizationOnCrossOriginRedirect u, ())

def hook : Hook :=
  ⟨fun c _ => c.later.length + 1 < maxUpstreamRedirects, sameOrigin, credentials⟩

lemma hook_describes : hook.Describes stripAuthorizationOnCrossOriginRedirect := by
  constructor
  · intro c u hpass
    have hbound : ¬ maxUpstreamRedirects ≤ c.later.length + 1 := not_le.mpr hpass
    unfold stripAuthorizationOnCrossOriginRedirect Hook.hop
    rw [if_neg hbound]
    by_cases hsame : sameOrigin c.prev.url u = true
    · rw [if_pos hsame]
      exact congrArg _ (if_pos hsame).symm
    · rw [if_neg hsame]
      exact congrArg _ (if_neg hsame).symm
  · intro c u hstop
    have hbound : maxUpstreamRedirects ≤ c.later.length + 1 := not_lt.mp hstop
    unfold stripAuthorizationOnCrossOriginRedirect
    rw [if_pos hbound]
    exact ⟨_, rfl⟩

structure Guarded (c : Chain) : Prop where
  clean : ∀ r ∈ c.later,
    (r.url.scheme, r.url.host) ≠ (c.initial.url.scheme, c.initial.url.host) →
      ∀ name ∈ credentials, r.header.lookup name = none
  bounded : c.later.length ≤ 10

variable (c : Chain)

/-- **The condition**: a followed redirect within a foreign origin gets no credential copied. -/
def Unleaking (u : URL) : Prop :=
  c.stopped = none → c.later.length + 1 < maxUpstreamRedirects → Sendable u →
    (u.scheme, u.host) ≠ (c.initial.url.scheme, c.initial.url.host) →
    (u.scheme, u.host) = (c.prev.url.scheme, c.prev.url.host) →
      ∀ name ∈ credentials, (copyHeaders c.initial u).lookup name = none

lemma sameOrigin_iff {u v : URL} :
    sameOrigin u v = true ↔ (v.scheme, v.host) = (u.scheme, u.host) := by
  unfold sameOrigin
  rw [decide_eq_true_eq, Prod.mk.injEq]
  exact ⟨fun h => ⟨h.1.symm, h.2.symm⟩, fun h => ⟨h.1.symm, h.2.symm⟩⟩

lemma sameOrigin_eq_false_iff {u v : URL} :
    sameOrigin u v = false ↔ (v.scheme, v.host) ≠ (u.scheme, u.host) := by
  rw [← Bool.not_eq_true, sameOrigin_iff]

lemma unleaking_iff {c : Chain} {u : URL} : hook.Unleaking c u ↔ Unleaking c u := by
  constructor
  · intro h hgoing hbound hsend hforeign hstays
    exact h ⟨hgoing, hbound, hsend⟩ (sameOrigin_eq_false_iff.mpr hforeign)
      (sameOrigin_iff.mpr hstays)
  · rintro h ⟨hgoing, hbound, hsend⟩ hforeign hstays
    exact h hgoing hbound hsend (sameOrigin_eq_false_iff.mp hforeign) (sameOrigin_iff.mp hstays)

lemma cleanAbroad_step_iff (u : URL) :
    hook.CleanAbroad (client.step c u).1 ↔ hook.CleanAbroad c ∧ Unleaking c u := by
  rw [← unleaking_iff]
  exact Hook.cleanAbroad_follow_iff hook_describes c u

lemma bounded_step (u : URL) (h : c.later.length ≤ 10) : (client.step c u).1.later.length ≤ 10 := by
  show (c.followUnder stripAuthorizationOnCrossOriginRedirect u).later.length ≤ 10
  rcases Hook.follow_cases hook_describes c u with ⟨⟨-, hbound, -⟩, heq⟩ | ⟨-, why, heq⟩
  · have hlt : c.later.length + 1 < 10 := hbound
    rw [heq]
    simp only [length_append, length_singleton]
    omega
  · rw [heq]
    exact h

theorem upstream_redirects_iff (initial : Request) (locations : List URL) :
    Guarded (client.run (start initial) locations) ↔
      client.Along Unleaking (start initial) locations := by
  have hbounded : (client.run (start initial) locations).later.length ≤ 10 :=
    client.run_invariant (P := fun c => c.later.length ≤ 10) (s := start initial)
      (by show 0 ≤ 10; omega) bounded_step locations
  have hclean : hook.CleanAbroad (client.run (start initial) locations) ↔
      hook.CleanAbroad (start initial) ∧ client.Along Unleaking (start initial) locations :=
    Machine.run_iff_along cleanAbroad_step_iff (start initial) locations
  have hstart : hook.CleanAbroad (start initial) := by
    intro r hr
    cases hr
  constructor
  · intro h
    refine (hclean.mp fun r hr hforeign => ?_).2
    exact h.clean r hr (sameOrigin_eq_false_iff.mp hforeign)
  · intro h
    refine ⟨fun r hr hforeign => ?_, hbounded⟩
    exact hclean.mpr ⟨hstart, h⟩ r hr (sameOrigin_eq_false_iff.mpr hforeign)

def providerCall : Request :=
  ⟨⟨"https", "api.provider.com", false⟩, AList.singleton "X-Api-Key" ["sk-provider"]⟩

theorem provider_key_abroad : ¬ Guarded (client.run (start providerCall)
      [⟨"https", "market.example", false⟩, ⟨"https", "market.example", false⟩]) := by
  intro h
  have hsent : (client.run (start providerCall)
      [⟨"https", "market.example", false⟩, ⟨"https", "market.example", false⟩]).later.map
        (fun r => ((r.url.scheme, r.url.host), r.header.lookup "X-Api-Key")) =
      [(("https", "market.example"), none),
        (("https", "market.example"), some ["sk-provider"])] := by
    decide
  obtain ⟨r, hr, heq⟩ := mem_map.mp (hsent ▸ mem_cons_of_mem _ mem_cons_self :
    (("https", "market.example"), some ["sk-provider"]) ∈ _)
  obtain ⟨horigin, hkey⟩ := Prod.mk.inj heq
  have hforeign : (r.url.scheme, r.url.host) ≠
      (providerCall.url.scheme, providerCall.url.host) := by
    rw [horigin]
    decide
  have hnone := h.clean r hr hforeign "X-Api-Key" (by decide)
  rw [hkey] at hnone
  cases hnone

end FfxNexus.UpstreamRedirect
