/-
**Redirects under the egress guard** (`checkRedirect` of `internal/egress/egress.go`, below the
redirect loop of `net/http`).
-/
import FfxNexus.Egress
import FfxNexus.Go
import FfxNexus.Machine

open List

namespace FfxNexus.Redirect
open Netip Egress Go

abbrev Header : Type := GoMap String (List String)

structure Request where
  url : URL
  header : Header

def equalFold (fold : Char → Char) (s t : String) : Bool :=
  s.toList.map fold = t.toList.map fold

@[simp] lemma equalFold_refl (fold : Char → Char) (s : String) : equalFold fold s s = true := by
  simp [equalFold]

def stripPort (hostport : String) : String :=
  match splitHostPort hostport with
  | some (host, _) => host
  | none => hostport

def sameHost (fold : Char → Char) (a b : String) : Bool :=
  equalFold fold (stripPort a) (stripPort b)

def vendorHeaders : List String :=
  ["X-Api-Key", "Api-Key", "X-Goog-Api-Key", "X-Datadog-Api-Key", "X-Dd-Api-Key", "Dd-Api-Key",
    "X-Arize-Api-Key", "X-Confident-Api-Key", "Anthropic-Version", "X-Langsmith-Api-Key",
    "X-Nexus-Signature"]

def credentialHeaders : List String :=
  ["Authorization", "Proxy-Authorization", "Cookie"] ++ vendorHeaders

def deleteHeaders (names : List String) (h : Header) : Header :=
  names.foldl (fun h name => h.erase name) h

structure Chain where
  initial : Request
  later : List Request
  stopped : Option String

def Chain.prev (c : Chain) : Request := c.later.getLast?.getD c.initial

def stripCredentials (fold : Char → Char) (c : Chain) (req : Request) : Request :=
  if sameHost fold c.prev.url.host req.url.host then req
  else { req with header := deleteHeaders credentialHeaders req.header }

variable (policy : Policy)

def checkRedirect (fold : Char → Char) (req : Request) (c : Chain) :
    Except String Request :=
  if policy.maxRedirects ≤ (c.later.length + 1 : ℕ) then
    .error ("egress: stopped after " ++ toString (c.later.length + 1) ++ " redirects")
  else if equalFold fold c.prev.url.scheme "https" ∧ equalFold fold req.url.scheme "http" then
    .error ("egress: refusing redirect from https to http (" ++ req.url.host ++ ")")
  else .ok (stripCredentials fold c req)

def isDomainOrSubdomain (sub parent : String) : Bool :=
  sub = parent ∨ (':' ∉ sub.toList ∧ '%' ∉ sub.toList ∧ ('.' :: parent.toList) <:+ sub.toList)

def copyHeaders (initial : Request) (u : URL) : Header :=
  if isDomainOrSubdomain u.hostname initial.url.hostname then initial.header
  else deleteHeaders ["Authorization", "Cookie"] initial.header

def Sendable (u : URL) : Prop := (u.scheme = "http" ∨ u.scheme = "https") ∧ u.host ≠ ""

instance (u : URL) : Decidable (Sendable u) := by
  unfold Sendable
  infer_instance

def start (initial : Request) : Chain :=
  ⟨initial, [], if Sendable initial.url then none else some "unsupported protocol scheme"⟩

def Chain.followUnder (check : Request → Chain → Except String Request) (c : Chain) (u : URL) :
    Chain :=
  match c.stopped with
  | some _ => c
  | none =>
    match check ⟨u, copyHeaders c.initial u⟩ c with
    | .error err => { c with stopped := some err }
    | .ok req =>
      if Sendable req.url then { c with later := c.later ++ [req] }
      else { c with stopped := some "unsupported protocol scheme" }

def client (fold : Char → Char) : Machine Chain URL Unit where
  step c u := (c.followUnder (checkRedirect policy fold) u, ())

structure Hook where
  passes : Chain → URL → Prop
  same : URL → URL → Bool
  names : List String

namespace Hook
variable (k : Hook)

def hop (c : Chain) (u : URL) : Request :=
  if k.same c.prev.url u then ⟨u, copyHeaders c.initial u⟩
  else ⟨u, deleteHeaders k.names (copyHeaders c.initial u)⟩

structure Describes (check : Request → Chain → Except String Request) : Prop where
  ok : ∀ c u, k.passes c u → check ⟨u, copyHeaders c.initial u⟩ c = .ok (k.hop c u)
  error : ∀ c u, ¬ k.passes c u → ∃ why, check ⟨u, copyHeaders c.initial u⟩ c = .error why

def Follows (c : Chain) (u : URL) : Prop := c.stopped = none ∧ k.passes c u ∧ Sendable u

def Clean (r : Request) : Prop := ∀ name ∈ k.names, r.header.lookup name = none

def CleanAbroad (c : Chain) : Prop :=
  ∀ r ∈ c.later, k.same c.initial.url r.url = false → k.Clean r

def Unleaking (c : Chain) (u : URL) : Prop :=
  k.Follows c u → k.same c.initial.url u = false → k.same c.prev.url u = true →
    k.Clean ⟨u, copyHeaders c.initial u⟩

variable {k} {check : Request → Chain → Except String Request}

@[simp] lemma hop_url (c : Chain) (u : URL) : (k.hop c u).url = u := by
  unfold hop
  split <;> rfl

lemma follow_cases (hk : k.Describes check) (c : Chain) (u : URL) :
    (k.Follows c u ∧ c.followUnder check u = { c with later := c.later ++ [k.hop c u] }) ∨
      (¬ k.Follows c u ∧ ∃ why, c.followUnder check u = { c with stopped := some why }) := by
  obtain ⟨initial, later, stopped⟩ := c
  cases stopped with
  | some why => exact .inr ⟨nofun, why, rfl⟩
  | none =>
    by_cases hpass : k.passes ⟨initial, later, none⟩ u
    · have hok := hk.ok _ u hpass
      by_cases hsend : Sendable u
      · refine .inl ⟨⟨rfl, hpass, hsend⟩, ?_⟩
        simp [Chain.followUnder, hok, hsend]
      · refine .inr ⟨fun h => hsend h.2.2, "unsupported protocol scheme", ?_⟩
        simp [Chain.followUnder, hok, hsend]
    · obtain ⟨why, herr⟩ := hk.error _ u hpass
      exact .inr ⟨fun h => hpass h.2.1, why, by simp only [Chain.followUnder, herr]⟩

lemma lookup_deleteHeaders {names : List String} {h : Header} {name : String} :
    (deleteHeaders names h).lookup name = if name ∈ names then none else h.lookup name := by
  unfold deleteHeaders
  induction names generalizing h with
  | nil => simp
  | cons n names ih =>
    rw [foldl_cons, ih]
    by_cases hn : name = n
    · subst hn
      simp
    · simp [hn]

lemma clean_hop_iff {c : Chain} {u : URL} (hf : k.Follows c u)
    (hforeign : k.same c.initial.url u = false) : k.Clean (k.hop c u) ↔ k.Unleaking c u := by
  unfold hop
  cases hsame : k.same c.prev.url u with
  | false =>
    rw [if_neg Bool.false_ne_true]
    refine ⟨fun _ _ _ h => ?_, fun _ name hname => ?_⟩
    · rw [hsame] at h
      cases h
    · rw [lookup_deleteHeaders, if_pos hname]
  | true =>
    exact ⟨fun h _ _ _ => h, fun h => h hf hforeign hsame⟩

lemma cleanAbroad_follow_iff (hk : k.Describes check) (c : Chain) (u : URL) :
    k.CleanAbroad (c.followUnder check u) ↔ k.CleanAbroad c ∧ k.Unleaking c u := by
  unfold CleanAbroad
  rcases follow_cases hk c u with ⟨hf, heq⟩ | ⟨hf, why, heq⟩
  · rw [heq]
    simp only [mem_append, mem_singleton, or_imp, forall_and, forall_eq, hop_url]
    refine and_congr_right fun _ => ?_
    by_cases hforeign : k.same c.initial.url u = false
    · rw [← clean_hop_iff hf hforeign]
      exact ⟨fun h => h hforeign, fun h _ => h⟩
    · exact ⟨fun _ _ h => absurd h hforeign, fun _ h => absurd h hforeign⟩
  · rw [heq]
    exact ⟨fun h => ⟨h, fun h' => absurd h' hf⟩, And.left⟩

end Hook

def Within (fold : Char → Char) (c : Chain) (u : URL) : Prop :=
  (c.later.length + 1 : ℕ) < policy.maxRedirects ∧
    ¬ (equalFold fold c.prev.url.scheme "https" = true ∧ equalFold fold u.scheme "http" = true)

def guardHook (fold : Char → Char) : Hook :=
  ⟨Within policy fold, fun u v => sameHost fold u.host v.host, credentialHeaders⟩

lemma guardHook_describes (fold : Char → Char) :
    (guardHook policy fold).Describes (checkRedirect policy fold) := by
  constructor
  · rintro c u ⟨hlt, hdown⟩
    unfold checkRedirect
    rw [if_neg (by omega), if_neg hdown]
    rfl
  · intro c u hout
    unfold checkRedirect
    by_cases hbound : policy.maxRedirects ≤ (c.later.length + 1 : ℕ)
    · rw [if_pos hbound]
      exact ⟨_, rfl⟩
    rw [if_neg hbound]
    by_cases hdown : equalFold fold c.prev.url.scheme "https" = true ∧
        equalFold fold u.scheme "http" = true
    · rw [if_pos hdown]
      exact ⟨_, rfl⟩
    · exact absurd ⟨by omega, hdown⟩ hout

structure Guarded (policy : Policy) (fold : Char → Char) (c : Chain) : Prop where
  clean : (guardHook policy fold).CleanAbroad c
  bounded : (c.later.length : Int) ≤ policy.maxRedirects
  encrypted : (c.initial :: c.later).Pairwise fun r r' =>
    r.url.scheme = "https" → r'.url.scheme ≠ "http"

section
variable {policy : Policy} {fold : Char → Char}

lemma bounded_follow (c : Chain) (u : URL) (h : (c.later.length : Int) ≤ policy.maxRedirects) :
    ((c.followUnder (checkRedirect policy fold) u).later.length : Int) ≤ policy.maxRedirects := by
  rcases Hook.follow_cases (guardHook_describes policy fold) c u with
    ⟨⟨-, ⟨hlt, -⟩, -⟩, heq⟩ | ⟨-, why, heq⟩
  · rw [heq]
    simp only [length_append]
    exact le_of_lt hlt
  · rw [heq]
    exact h

structure Encrypted (c : Chain) : Prop where
  pairwise : (c.initial :: c.later).Pairwise fun r r' =>
    r.url.scheme = "https" → r'.url.scheme ≠ "http"
  last : (∃ r ∈ c.initial :: c.later, r.url.scheme = "https") → c.prev.url.scheme = "https"

lemma encrypted_start (initial : Request) : Encrypted (start initial) := by
  refine ⟨pairwise_singleton _ _, ?_⟩
  rintro ⟨r, hr, hs⟩
  rw [start, mem_singleton] at hr
  rw [hr] at hs
  exact hs

lemma encrypted_follow (c : Chain) (u : URL) (h : Encrypted c) :
    Encrypted (c.followUnder (checkRedirect policy fold) u) := by
  rcases Hook.follow_cases (guardHook_describes policy fold) c u with
    ⟨⟨-, ⟨-, hdown⟩, hsend⟩, heq⟩ | ⟨-, why, heq⟩
  · -- after TLS the hook has refused cleartext, and the transport sends nothing else
    have hnext : (∃ r ∈ c.initial :: c.later, r.url.scheme = "https") → u.scheme = "https" := by
      intro hsome
      rcases hsend.1 with hhttp | hhttps
      · exact absurd ⟨by rw [h.last hsome]; simp, by rw [hhttp]; simp⟩ hdown
      · exact hhttps
    rw [heq]
    refine ⟨?_, ?_⟩
    · rw [← cons_append, pairwise_append]
      refine ⟨h.pairwise, pairwise_singleton _ _, ?_⟩
      intro r hr r' hr' hs
      rw [mem_singleton.mp hr', Hook.hop_url, hnext ⟨r, hr, hs⟩]
      decide
    · rintro ⟨r, hr, hs⟩
      have hprev (r : Request) : Chain.prev { c with later := c.later ++ [r] } = r := by
        simp [Chain.prev]
      rw [hprev, Hook.hop_url]
      rw [← cons_append, mem_append, mem_singleton] at hr
      rcases hr with hr | rfl
      · exact hnext ⟨r, hr, hs⟩
      · rwa [Hook.hop_url] at hs
  · rw [heq]
    exact ⟨h.pairwise, h.last⟩

end

theorem redirects_guarded_iff (policy : Policy) (fold : Char → Char) (initial : Request)
    (locations : List URL) :
    Guarded (newGuard policy) fold ((client (newGuard policy) fold).run (start initial) locations) ↔
      (client (newGuard policy) fold).Along (guardHook (newGuard policy) fold).Unleaking
        (start initial) locations := by
  have hpos : (0 : Int) ≤ (newGuard policy).maxRedirects := by
    unfold newGuard
    by_cases h : policy.maxRedirects ≤ 0
    · simp [h]
    · rw [if_neg h]
      omega
  have hclean : (guardHook (newGuard policy) fold).CleanAbroad
        ((client (newGuard policy) fold).run (start initial) locations) ↔
      (guardHook (newGuard policy) fold).CleanAbroad (start initial) ∧
        (client (newGuard policy) fold).Along (guardHook (newGuard policy) fold).Unleaking
          (start initial) locations :=
    Machine.run_iff_along (Hook.cleanAbroad_follow_iff (guardHook_describes _ fold)) _ locations
  have hstart : (guardHook (newGuard policy) fold).CleanAbroad (start initial) := by
    intro r hr
    cases hr
  constructor
  · intro h
    exact (hclean.mp h.clean).2
  · intro h
    refine ⟨hclean.mpr ⟨hstart, h⟩, ?_, ?_⟩
    · exact (client (newGuard policy) fold).run_invariant (s := start initial) hpos bounded_follow
        locations
    · exact ((client (newGuard policy) fold).run_invariant (encrypted_start initial)
        encrypted_follow locations).pairwise

def foldASCII : Char → Char := Char.toLower

def vendorCall : Request :=
  ⟨⟨"https", "api.vendor.com", false⟩, AList.singleton "X-Api-Key" ["sk-vendor"]⟩

def samplePolicy : Policy := ⟨[], 0, false, false, []⟩

theorem redirects_guarded_iff_sample : Guarded (newGuard samplePolicy) foldASCII
      ((client (newGuard samplePolicy) foldASCII).run (start vendorCall)
        [⟨"https", "evil.example", false⟩]) := by
  apply (redirects_guarded_iff samplePolicy foldASCII vendorCall _).mpr
  rw [Machine.along_cons]
  refine ⟨?_, Machine.along_nil⟩
  intro _ _ hsame
  cases hsame

theorem credential_on_second_hop : ¬ Guarded (newGuard samplePolicy) foldASCII
      ((client (newGuard samplePolicy) foldASCII).run (start vendorCall)
        [⟨"https", "evil.example", false⟩, ⟨"https", "evil.example", false⟩]) := by
  intro h
  have hsent : ((client (newGuard samplePolicy) foldASCII).run (start vendorCall)
      [⟨"https", "evil.example", false⟩, ⟨"https", "evil.example", false⟩]).later.map
        (fun r => (r.url.host, r.header.lookup "X-Api-Key")) =
      [("evil.example", none), ("evil.example", some ["sk-vendor"])] := by
    decide
  obtain ⟨r, hr, heq⟩ := mem_map.mp (hsent ▸ mem_cons_of_mem _ mem_cons_self :
    ("evil.example", some ["sk-vendor"]) ∈ _)
  obtain ⟨hhost, hkey⟩ := Prod.mk.inj heq
  have hforeign : sameHost foldASCII vendorCall.url.host r.url.host = false := by
    rw [hhost]
    decide
  have hnone := h.clean r hr hforeign "X-Api-Key" (by decide)
  rw [hkey] at hnone
  cases hnone

end FfxNexus.Redirect
