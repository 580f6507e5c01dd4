/-
**The egress guard** (`internal/egress/egress.go`): which addresses and URLs a request may be sent
to.
-/
import FfxNexus.Netip

namespace FfxNexus.Egress
open Netip

inductive Class where
  | operator | tenant
deriving DecidableEq

inductive Sentinel where
  | blockedDestination | unresolvable | publicDestination | none
deriving DecidableEq

def Sentinel.text : Sentinel → String
  | blockedDestination => "egress: destination address is not permitted"
  | unresolvable => "egress: destination host does not resolve"
  | publicDestination => "egress: policy is in_cluster_only, destination is outside the cluster"
  | none => "egress"

structure Error where
  wraps : Sentinel
  text : String
deriving DecidableEq

def errorf (sentinel : Sentinel) (detail : String) : Error :=
  ⟨sentinel, sentinel.text ++ ": " ++ detail⟩

structure Policy where
  tenantAllowedCIDRs : List Prefix
  maxRedirects : Int
  allowLoopback : Bool
  publicDestinationsBlocked : Bool
  allowedInternalHosts : List String

variable (policy : Policy)

def newGuard : Policy :=
  if policy.maxRedirects ≤ 0 then { policy with maxRedirects := 3 } else policy

structure URL where
  scheme : String
  host : String
  user : Bool
deriving DecidableEq

def URL.hostname (u : URL) : String :=
  let rev := u.host.toList.reverse
  let port := rev.takeWhile (· ≠ ':')
  let host :=
    if ':' ∈ rev ∧ port.all Char.isDigit then (rev.dropWhile (· ≠ ':')).tail.reverse
    else u.host.toList
  if host.head? = some '[' ∧ host.getLast? = some ']' then String.ofList host.tail.dropLast
  else String.ofList host

example : (⟨"https", "[fe80::1]:8443", false⟩ : URL).hostname = "fe80::1" := by decide

structure Lib where
  parseURL : String → Except String URL
  quote : String → String

abbrev Resolver : Type := String → Except String (List Addr)

def alwaysBlocked : List Prefix :=
  ["0.0.0.0/8", "::/128", "224.0.0.0/4", "ff00::/8", "255.255.255.255/32"].filterMap parsePrefix

def metadataBlocked : List Prefix :=
  ["169.254.0.0/16", "fe80::/10", "fd00:ec2::/32"].filterMap parsePrefix

def tenantBlocked : List Prefix :=
  ["127.0.0.0/8", "::1/128", "10.0.0.0/8", "172.16.0.0/12", "192.168.0.0/16", "100.64.0.0/10",
    "fc00::/7", "192.0.0.0/24", "192.0.2.0/24", "198.51.100.0/24", "203.0.113.0/24",
    "198.18.0.0/15"].filterMap parsePrefix

def prefixHas (p : Prefix) (addr : Addr) : Bool :=
  if p.is4 ≠ addr.is4 then false else p.contains addr

variable (addr : Addr)

def refusal (why : String) : Error := errorf .blockedDestination (addr.string ++ why)

def checkTenantAddr : Except Error Unit :=
  if addr.isLinkLocalUnicast || addr.isLinkLocalMulticast then
    .error (refusal addr " is link-local and a tenant-supplied destination may not reach it")
  else if addr.isLoopback then
    if policy.allowLoopback = false then
      .error (refusal addr (" is loopback. A destination configured through the API may not " ++
        "reach the pod's own listeners"))
    else .ok ()
  else if policy.tenantAllowedCIDRs.any fun p => prefixHas p addr then .ok ()
  else if tenantBlocked.any fun p => prefixHas p addr then
    .error (refusal addr (" is a private address. A destination configured through the API may " ++
      "only reach the public internet. If this host is inside the cluster on purpose, the " ++
      "operator must add its range to NEXUS_EGRESS_TENANT_ALLOWED_CIDRS"))
  else .ok ()

def checkAddr (cls : Class) (addr : Addr) : Except Error Unit :=
  let addr := addr.unmap
  if alwaysBlocked.any fun p => prefixHas p addr then
    .error (refusal addr " is a reserved address")
  else if metadataBlocked.any fun p => prefixHas p addr then
    .error (refusal addr (" is link-local, which is where cloud instance metadata lives; " ++
      "this is never a valid destination"))
  else
    match cls with
    | .operator => .ok ()
    | .tenant => checkTenantAddr policy addr

variable (lib : Lib)

def checkDialAddress (policy : Policy) (cls : Class) (address : String) :
    Except Error Unit :=
  match splitHostPort address with
  | none => .error (errorf .blockedDestination ("cannot parse dial address " ++ lib.quote address))
  | some (host, _) =>
    match parseAddr host with
    | none => .error (errorf .blockedDestination
        ("dial address " ++ lib.quote host ++ " is not a literal IP"))
    | some addr => checkAddr policy cls addr

def parseDestination (rawURL : String) : Except Error URL :=
  match lib.parseURL rawURL with
  | .error err => .error (errorf .none (lib.quote rawURL ++ " is not a valid URL: " ++ err))
  | .ok u =>
    let scheme := u.scheme.toList.map Char.toLower
    if scheme = [] then
      .error (errorf .none (lib.quote rawURL ++ " has no scheme; use http:// or https://"))
    else if scheme ≠ "http".toList ∧ scheme ≠ "https".toList then
      .error (errorf .none ("scheme " ++ lib.quote u.scheme ++
        " is not permitted; use http or https"))
    else if u.hostname = "" then .error (errorf .none (lib.quote rawURL ++ " has no host"))
    else if u.user then
      .error (errorf .none ("the URL for host " ++ lib.quote u.hostname ++
        " embeds credentials; put the key in the configured secret instead"))
    else .ok u

def lookupHost (resolver : Resolver) (host : String) : Except Error (List Addr) :=
  match resolver host with
  | .error err => .error (errorf .unresolvable (host ++ " (" ++ err ++ ")"))
  | .ok [] => .error (errorf .unresolvable (host ++ " resolved to no addresses"))
  | .ok addrs => .ok addrs

def checkURLStatic (policy : Policy) (resolver : Resolver) (rawURL : String)
    (cls : Class) : Except Error Unit := do
  let u ← parseDestination lib rawURL
  match parseAddr u.hostname with
  | some addr => checkAddr policy cls addr
  | none => do
      let addrs ← lookupHost resolver u.hostname
      addrs.forM (checkAddr policy cls)

def entryHost (raw : String) : String :=
  match splitHostPort raw with
  | some (host, _) => host
  | none => raw

def entryHas (raw : String) : Bool :=
  if '/' ∈ raw.toList then (parsePrefix raw).any fun p => p.contains addr
  else parseAddr (entryHost raw) = some addr

def literalAddrAllowedByOverride : Bool :=
  policy.allowedInternalHosts.any (entryHas addr)

def literalInUnreservedPrivateSpace : Bool :=
  inAny (["10.0.0.0/8", "172.16.0.0/12", "192.168.0.0/16"].filterMap parsePrefix) addr

def hostInInternalAllowList (host : String) : Bool :=
  policy.allowedInternalHosts.any fun raw => '/' ∉ raw.toList ∧ entryHost raw = host

def checkLiteralInClusterOnly (host : String) (addr : Addr) :
    Except Error Unit :=
  let listed : Except Error Unit :=
    if literalAddrAllowedByOverride policy addr then .ok ()
    else .error (errorf .publicDestination (host ++ " is not on the operator allow-list"))
  match checkAddr policy .tenant addr with
  | .ok _ => listed
  | .error err =>
    if err.wraps ≠ .blockedDestination then .error err
    else if literalInUnreservedPrivateSpace addr then listed
    else .error (errorf .blockedDestination err.text)

def checkAnswerInClusterOnly (host : String) (addr : Addr) :
    Except Error Unit :=
  match checkAddr policy .tenant addr with
  | .ok _ => .ok ()
  | .error err =>
    if err.wraps = .blockedDestination then
      .error (errorf .blockedDestination (host ++ " resolves to " ++ addr.string))
    else .error err

def checkURLInClusterOnly (policy : Policy) (resolver : Resolver) (rawURL : String) :
    Except Error Unit := do
  let u ← parseDestination lib rawURL
  match parseAddr u.hostname with
  | some addr => checkLiteralInClusterOnly policy u.hostname addr
  | none => do
      let addrs ← lookupHost resolver u.hostname
      addrs.forM (checkAnswerInClusterOnly policy u.hostname)
      if hostInInternalAllowList policy u.hostname then return ()
      else addrs.forM fun a =>
        if literalAddrAllowedByOverride policy a then .ok ()
        else .error (errorf .publicDestination
          (u.hostname ++ " (" ++ a.string ++ ") is not on the operator allow-list"))

def checkURL (policy : Policy) (resolver : Resolver) (rawURL : String) (cls : Class) :
    Except Error Unit :=
  if policy.publicDestinationsBlocked ∧ cls = .tenant then
    checkURLInClusterOnly lib policy resolver rawURL
  else checkURLStatic lib policy resolver rawURL cls

def matchedByInternalAllowList (policy : Policy) (resolver : Resolver)
    (rawURL : String) : Bool :=
  match parseDestination lib rawURL with
  | .error _ => false
  | .ok u =>
    match parseAddr u.hostname with
    | some addr => literalAddrAllowedByOverride policy addr
    | none =>
      match lookupHost resolver u.hostname with
      | .error _ => false
      | .ok addrs => addrs.all (literalAddrAllowedByOverride policy) &&
          hostInInternalAllowList policy u.hostname

def requireListed (policy : Policy) (rawURL : String) : Except Error Unit :=
  match parseDestination lib rawURL with
  | .error err => .error err
  | .ok u =>
    match parseAddr u.hostname with
    | some _ => .ok ()
    | none =>
      if hostInInternalAllowList policy u.hostname then .ok ()
      else .error (errorf .publicDestination (u.hostname ++ " is not in the in-cluster allow-list"))

def vetForModes (policy : Policy) (resolver resolver' : Resolver) (rawURL : String)
    (cls : Class) : Except Error Unit :=
  if policy.publicDestinationsBlocked = false then checkURL lib policy resolver rawURL cls
  else
    let candidate :=
      if matchedByInternalAllowList lib policy resolver' rawURL then .ok ()
      else checkURL lib policy resolver rawURL cls
    match candidate with
    | .error err => .error err
    | .ok _ => requireListed lib policy rawURL

@[simp] lemma prefixHas_eq_contains (p : Prefix) (addr : Addr) :
    prefixHas p addr = p.contains addr := by
  unfold prefixHas
  by_cases hc : p.contains addr = true
  · rw [if_neg (not_not_intro (Prefix.is4_of_contains hc))]
  · rw [Bool.eq_false_iff.mpr hc]
    split <;> rfl

lemma any_prefixHas (ps : List Prefix) (addr : Addr) :
    (ps.any fun p => prefixHas p addr) = inAny ps addr := by
  simp [inAny]

variable {addr : Addr}

lemma refusal_wraps {why : String} {rest : Except Error Unit} {c : Prop} [Decidable c]
    {err : Error} (h : (if c then .error (refusal addr why) else rest) = .error err)
    (hrest : rest = .error err → err.wraps = .blockedDestination) :
    err.wraps = .blockedDestination := by
  split_ifs at h with hc
  · obtain rfl := Except.error.inj h
    rfl
  · exact hrest h

variable {policy : Policy} {cls : Class}

lemma checkAddr_error_wraps {err : Error} (h : checkAddr policy cls addr = .error err) :
    err.wraps = .blockedDestination := by
  unfold checkAddr at h
  refine refusal_wraps h fun h => refusal_wraps h fun h => ?_
  cases cls with
  | operator => cases h
  | tenant =>
    dsimp only at h
    unfold checkTenantAddr at h
    refine refusal_wraps h fun h => ?_
    split at h
    · exact refusal_wraps h nofun
    · split at h
      · cases h
      · exact refusal_wraps h nofun

lemma refusal_ok_iff {why : String} {rest : Except Error Unit} {b : Bool} :
    (if b then .error (refusal addr why) else rest) = .ok () ↔ b = false ∧ rest = .ok () := by
  cases b <;> simp

lemma checkTenantAddr_ok_iff : checkTenantAddr policy addr = .ok () ↔
      addr.isLinkLocalUnicast = false ∧ addr.isLinkLocalMulticast = false ∧
        if addr.isLoopback then policy.allowLoopback = true
        else inAny tenantBlocked addr = true → inAny policy.tenantAllowedCIDRs addr = true := by
  unfold checkTenantAddr
  rw [refusal_ok_iff, Bool.or_eq_false_iff, and_assoc]
  simp only [any_prefixHas]
  refine and_congr_right fun _ => and_congr_right fun _ => ?_
  by_cases hloop : addr.isLoopback = true
  · rw [if_pos hloop, if_pos hloop]
    cases policy.allowLoopback <;> simp
  rw [if_neg hloop, if_neg hloop]
  by_cases hc : inAny policy.tenantAllowedCIDRs addr = true
  · simp [hc]
  · rw [if_neg hc, refusal_ok_iff]
    simp [hc]

lemma checkAddr_operator_ok_iff : checkAddr policy .operator addr = .ok () ↔
      inAny alwaysBlocked addr.unmap = false ∧ inAny metadataBlocked addr.unmap = false := by
  unfold checkAddr
  rw [refusal_ok_iff, refusal_ok_iff, any_prefixHas, any_prefixHas]
  simp

lemma checkAddr_tenant_ok_iff : checkAddr policy .tenant addr = .ok () ↔
      inAny alwaysBlocked addr.unmap = false ∧ inAny metadataBlocked addr.unmap = false ∧
        addr.unmap.isLinkLocalUnicast = false ∧ addr.unmap.isLinkLocalMulticast = false ∧
        if addr.isLoopback then policy.allowLoopback = true
        else inAny tenantBlocked addr.unmap = true →
          inAny policy.tenantAllowedCIDRs addr.unmap = true := by
  unfold checkAddr
  rw [refusal_ok_iff, refusal_ok_iff, any_prefixHas, any_prefixHas, checkTenantAddr_ok_iff,
    Addr.isLoopback_unmap]

variable {lib : Lib} {host : String}

lemma checkDialAddress_literal {address port : String}
    (hsplit : splitHostPort address = some (host, port)) (haddr : parseAddr host = some addr) :
    checkDialAddress lib policy cls address = checkAddr policy cls addr := by
  simp only [checkDialAddress, hsplit, haddr]

lemma bind_ok_iff {ε : Type} {x y : Except ε Unit} :
    (x >>= fun _ => y) = .ok () ↔ x = .ok () ∧ y = .ok () := by
  cases x with
  | error err => simp [bind, Except.bind]
  | ok _ => simp [bind, Except.bind]

lemma forM_ok_iff {α ε : Type} {f : α → Except ε Unit} {l : List α} :
    l.forM f = .ok () ↔ ∀ a ∈ l, f a = .ok () := by
  induction l with
  | nil => simp [pure, Except.pure]
  | cons a l ih =>
    have hcons : (a :: l).forM f = f a >>= fun _ => l.forM f := rfl
    rw [hcons, List.forall_mem_cons, ← ih]
    exact bind_ok_iff

variable {resolver : Resolver}

lemma lookupHost_ok_iff {addrs : List Addr} :
    lookupHost resolver host = .ok addrs ↔ resolver host = .ok addrs ∧ addrs ≠ [] := by
  unfold lookupHost
  split
  · rename_i err herr
    simp [herr]
  · rename_i hnil
    rw [hnil]
    constructor
    · intro h
      cases h
    · rintro ⟨h, hne⟩
      cases h
      exact absurd rfl hne
  · rename_i addrs' hne haddrs
    rw [haddrs]
    constructor
    · intro h
      cases h
      exact ⟨rfl, hne⟩
    · rintro ⟨h, -⟩
      cases h
      rfl

lemma checkLiteralInClusterOnly_ok_iff : checkLiteralInClusterOnly policy host addr = .ok () ↔
      (checkAddr policy .tenant addr = .ok () ∨ literalInUnreservedPrivateSpace addr = true) ∧
        literalAddrAllowedByOverride policy addr = true := by
  unfold checkLiteralInClusterOnly
  cases hcheck : checkAddr policy .tenant addr with
  | ok _ => by_cases ho : literalAddrAllowedByOverride policy addr = true <;> simp [ho]
  | error err =>
    by_cases hp : literalInUnreservedPrivateSpace addr = true <;>
      by_cases ho : literalAddrAllowedByOverride policy addr = true <;>
        simp [checkAddr_error_wraps hcheck, hp]

lemma checkAnswerInClusterOnly_ok_iff : checkAnswerInClusterOnly policy host addr = .ok () ↔
      checkAddr policy .tenant addr = .ok () := by
  unfold checkAnswerInClusterOnly
  cases hcheck : checkAddr policy .tenant addr with
  | ok _ => simp
  | error err => simp [checkAddr_error_wraps hcheck]

def Answers (resolver : Resolver) (host : String) (P : Addr → Prop) : Prop :=
  ∃ addrs, resolver host = .ok addrs ∧ addrs ≠ [] ∧ ∀ a ∈ addrs, P a

lemma answers_iff_lookupHost {P : Addr → Prop} :
    Answers resolver host P ↔ ∃ addrs, lookupHost resolver host = .ok addrs ∧ ∀ a ∈ addrs, P a := by
  simp only [Answers, lookupHost_ok_iff, and_assoc]

lemma lookupHost_bind_ok_iff {P : Addr → Prop} {k : List Addr → Except Error Unit}
    (hk : ∀ addrs, k addrs = .ok () ↔ ∀ a ∈ addrs, P a) :
    (lookupHost resolver host >>= k) = .ok () ↔ Answers resolver host P := by
  rw [answers_iff_lookupHost]
  cases hlook : lookupHost resolver host with
  | error err => simp [bind, Except.bind]
  | ok addrs => simpa [bind, Except.bind] using hk addrs

variable {rawURL : String} {u : URL}

section
variable (hu : parseDestination lib rawURL = .ok u)
include hu

lemma checkURLStatic_ok_iff :
    checkURLStatic lib policy resolver rawURL cls = .ok () ↔ match parseAddr u.hostname with
      | some addr => checkAddr policy cls addr = .ok ()
      | none => Answers resolver u.hostname fun a => checkAddr policy cls a = .ok () := by
  unfold checkURLStatic
  rw [hu]
  cases haddr : parseAddr u.hostname with
  | some addr => simp [bind, Except.bind, haddr]
  | none =>
    simp only [bind, Except.bind, haddr]
    exact lookupHost_bind_ok_iff fun addrs => forM_ok_iff

lemma checkURLInClusterOnly_ok_iff :
    checkURLInClusterOnly lib policy resolver rawURL = .ok () ↔ match parseAddr u.hostname with
      | some addr =>
        (checkAddr policy .tenant addr = .ok () ∨ literalInUnreservedPrivateSpace addr = true) ∧
          literalAddrAllowedByOverride policy addr = true
      | none => Answers resolver u.hostname fun a => checkAddr policy .tenant a = .ok () ∧
          (hostInInternalAllowList policy u.hostname = true ∨
            literalAddrAllowedByOverride policy a = true) := by
  unfold checkURLInClusterOnly
  rw [hu]
  cases haddr : parseAddr u.hostname with
  | some addr =>
    simp only [bind, Except.bind, haddr]
    exact checkLiteralInClusterOnly_ok_iff
  | none =>
    simp only [bind, Except.bind, haddr]
    refine lookupHost_bind_ok_iff fun addrs => ?_
    have hfirst : addrs.forM (checkAnswerInClusterOnly policy u.hostname) = .ok () ↔
        ∀ a ∈ addrs, checkAddr policy .tenant a = .ok () := by
      simp only [forM_ok_iff, checkAnswerInClusterOnly_ok_iff]
    rw [forall₂_and, ← hfirst]
    cases hloop : addrs.forM (checkAnswerInClusterOnly policy u.hostname) with
    | error err => simp
    | ok _ =>
      by_cases hhost : hostInInternalAllowList policy u.hostname = true
      · simp [hhost, pure, Except.pure]
      · simp only [hhost, forM_ok_iff, true_and, if_false, Bool.false_eq_true]
        refine forall₂_congr fun a _ => ?_
        by_cases ho : literalAddrAllowedByOverride policy a = true <;> simp [ho]

lemma matchedByInternalAllowList_iff :
    matchedByInternalAllowList lib policy resolver rawURL = true ↔ match parseAddr u.hostname with
      | some addr => literalAddrAllowedByOverride policy addr = true
      | none =>
        Answers resolver u.hostname (fun a => literalAddrAllowedByOverride policy a = true) ∧
          hostInInternalAllowList policy u.hostname = true := by
  unfold matchedByInternalAllowList
  simp only [hu]
  cases haddr : parseAddr u.hostname with
  | some addr => rfl
  | none =>
    simp only [answers_iff_lookupHost]
    cases hlook : lookupHost resolver u.hostname with
    | error err => simp
    | ok addrs => simp

end

variable {resolver' : Resolver}

lemma requireListed_ok_iff (hu : parseDestination lib rawURL = .ok u) :
    requireListed lib policy rawURL = .ok () ↔
      (parseAddr u.hostname = none → hostInInternalAllowList policy u.hostname = true) := by
  unfold requireListed
  rw [hu]
  cases haddr : parseAddr u.hostname with
  | some addr => simp [haddr]
  | none =>
    simp only [haddr]
    by_cases hhost : hostInInternalAllowList policy u.hostname = true <;> simp [hhost]

section
variable (hmode : policy.publicDestinationsBlocked = true)
include hmode

lemma vetForModes_eq_ok_iff : vetForModes lib policy resolver resolver' rawURL cls = .ok () ↔
      (matchedByInternalAllowList lib policy resolver' rawURL = true ∨
        checkURL lib policy resolver rawURL cls = .ok ()) ∧
      requireListed lib policy rawURL = .ok () := by
  unfold vetForModes
  rw [if_neg (by rw [hmode]; decide)]
  by_cases hm : matchedByInternalAllowList lib policy resolver' rawURL = true
  · simp [hm]
  · rw [if_neg hm]
    cases checkURL lib policy resolver rawURL cls <;> simp [hm]

lemma vetForModes_ok_iff (hu : parseDestination lib rawURL = .ok u) :
    vetForModes lib policy resolver resolver' rawURL cls = .ok () ↔ match parseAddr u.hostname with
      | some addr => literalAddrAllowedByOverride policy addr = true ∨
          (cls = .operator ∧ checkAddr policy .operator addr = .ok ())
      | none => hostInInternalAllowList policy u.hostname = true ∧
          (Answers resolver u.hostname (fun a => checkAddr policy cls a = .ok ()) ∨
            Answers resolver' u.hostname fun a =>
              literalAddrAllowedByOverride policy a = true) := by
  rw [vetForModes_eq_ok_iff hmode, matchedByInternalAllowList_iff hu, requireListed_ok_iff hu]
  unfold checkURL
  cases cls with
  | operator =>
    rw [if_neg (by simp), checkURLStatic_ok_iff hu]
    cases haddr : parseAddr u.hostname with
    | some addr => simp
    | none =>
      simp only [true_imp_iff]
      constructor
      · rintro ⟨⟨hlisted, -⟩ | hpass, hhost⟩
        · exact ⟨hhost, .inr hlisted⟩
        · exact ⟨hhost, .inl hpass⟩
      · rintro ⟨hhost, hpass | hlisted⟩
        · exact ⟨.inr hpass, hhost⟩
        · exact ⟨.inl ⟨hlisted, hhost⟩, hhost⟩
  | tenant =>
    rw [if_pos ⟨hmode, rfl⟩, checkURLInClusterOnly_ok_iff hu]
    cases haddr : parseAddr u.hostname with
    | some addr =>
      simp only [reduceCtorEq, false_and, or_false, false_imp_iff, and_true]
      exact ⟨fun h => h.elim id And.right, .inl⟩
    | none =>
      simp only [true_imp_iff]
      constructor
      · rintro ⟨⟨hlisted, -⟩ | hpass, hhost⟩
        · exact ⟨hhost, .inr hlisted⟩
        · simp only [hhost, true_or, and_true] at hpass
          exact ⟨hhost, .inl hpass⟩
      · rintro ⟨hhost, hpass | hlisted⟩
        · refine ⟨.inr ?_, hhost⟩
          simpa only [hhost, true_or, and_true] using hpass
        · exact ⟨.inl ⟨hlisted, hhost⟩, hhost⟩

lemma vetForModes_parse (hok : vetForModes lib policy resolver resolver' rawURL cls = .ok ()) :
    ∃ u, parseDestination lib rawURL = .ok u := by
  have htail := ((vetForModes_eq_ok_iff hmode).mp hok).2
  unfold requireListed at htail
  cases hu : parseDestination lib rawURL with
  | error err =>
    rw [hu] at htail
    cases htail
  | ok u => exact ⟨u, rfl⟩

end

def destination (a : Addr) : Addr := a.unmap.withoutZone

variable {a : Addr}

lemma destination_of_zone (h : a.unmap.zone = "") : destination a = a.unmap :=
  Addr.withoutZone_of_zone h

@[simp] lemma isLoopback_destination (a : Addr) : (destination a).isLoopback = a.isLoopback := by
  simp [destination]

structure Permitted (policy : Policy) (cls : Class) (d : Addr) : Prop where
  always : inAny alwaysBlocked d = false
  metadata : inAny metadataBlocked d = false
  loopback : cls = .tenant → d.isLoopback = true → policy.allowLoopback = true
  linkLocal : cls = .tenant → d.isLinkLocalUnicast = false ∧ d.isLinkLocalMulticast = false
  tenant : cls = .tenant → inAny tenantBlocked d = true →
    inAny policy.tenantAllowedCIDRs d = true ∨ (policy.allowLoopback = true ∧ d.isLoopback = true)

/-- **The condition**: the address has no zone once it is unmapped, or a tenant is refused it by its
bits, or its destination lies outside the tables anyway. -/
def Judged (policy : Policy) (cls : Class) (a : Addr) : Prop :=
  a.unmap.zone = "" ∨
    (cls = .tenant ∧ (a.unmap.isLinkLocalUnicast = true ∨ a.unmap.isLinkLocalMulticast = true ∨
      a.isLoopback = true)) ∨
    (inAny alwaysBlocked (destination a) = false ∧ inAny metadataBlocked (destination a) = false ∧
      (cls = .tenant → inAny tenantBlocked (destination a) = true →
        inAny policy.tenantAllowedCIDRs (destination a) = true))

variable {policy : Policy} {cls : Class}

lemma permitted_of_no_zone (hzone : a.unmap.zone = "") (hok : checkAddr policy cls a = .ok ()) :
    Permitted policy cls (destination a) := by
  rw [destination_of_zone hzone]
  cases cls with
  | operator =>
    obtain ⟨ha, hm⟩ := checkAddr_operator_ok_iff.mp hok
    exact ⟨ha, hm, nofun, nofun, nofun⟩
  | tenant =>
    obtain ⟨ha, hm, hu, hl, hrest⟩ := checkAddr_tenant_ok_iff.mp hok
    split_ifs at hrest with hloop
    · exact ⟨ha, hm, fun _ _ => hrest, fun _ => ⟨hu, hl⟩, fun _ _ => .inr ⟨hrest, by simpa⟩⟩
    refine ⟨ha, hm, ?_, fun _ => ⟨hu, hl⟩, fun _ ht => .inl (hrest ht)⟩
    intro _ hloop'
    rw [Addr.isLoopback_unmap] at hloop'
    exact absurd hloop' hloop

lemma loopback6_unblocked :
    inAny alwaysBlocked (.v6 1#128 "") = false ∧ inAny metadataBlocked (.v6 1#128 "") = false := by
  decide

lemma checkAddr_zoned_ok_iff (hzone : a.unmap.zone ≠ "") : checkAddr policy cls a = .ok () ↔
      (cls = .tenant → a.unmap.isLinkLocalUnicast = false ∧ a.unmap.isLinkLocalMulticast = false ∧
        (a.isLoopback = true → policy.allowLoopback = true)) := by
  have hnone : ∀ ps, inAny ps a.unmap = false := fun ps => inAny_of_zone hzone
  cases cls with
  | operator => simp [checkAddr_operator_ok_iff, hnone]
  | tenant =>
    rw [checkAddr_tenant_ok_iff]
    by_cases hloop : a.isLoopback = true <;> simp [hnone, hloop]

lemma destination_zoned_loopback (hzone : a.unmap.zone ≠ "") (hloop : a.isLoopback = true) :
    destination a = .v6 1#128 "" := by
  unfold destination
  unfold Addr.isLoopback at hloop
  cases hu : a.unmap with
  | v4 ip =>
    rw [hu] at hzone
    exact absurd rfl hzone
  | v6 ip z =>
    rw [hu] at hloop
    have hip : ip = 1#128 := by simpa using hloop
    rw [hip]
    rfl

lemma isLinkLocal_destination : (destination a).isLinkLocalUnicast = a.unmap.isLinkLocalUnicast ∧
      (destination a).isLinkLocalMulticast = a.unmap.isLinkLocalMulticast := by
  simp [destination]

lemma permitted_zoned_loopback (hzone : a.unmap.zone ≠ "")
    (hok : checkAddr policy .tenant a = .ok ()) (hloop : a.isLoopback = true) :
    Permitted policy .tenant (destination a) := by
  obtain ⟨hu, hl, hallow⟩ := (checkAddr_zoned_ok_iff hzone).mp hok rfl
  have hd := destination_zoned_loopback hzone hloop
  refine ⟨?_, ?_, fun _ _ => hallow hloop, fun _ => ?_, fun _ _ => .inr ⟨hallow hloop, ?_⟩⟩
  · rw [hd]
    exact loopback6_unblocked.1
  · rw [hd]
    exact loopback6_unblocked.2
  · rw [isLinkLocal_destination.1, isLinkLocal_destination.2]
    exact ⟨hu, hl⟩
  · rw [isLoopback_destination]
    exact hloop

lemma checkAddr_permitted_iff :
    (checkAddr policy cls a = .ok () → Permitted policy cls (destination a)) ↔
      Judged policy cls a := by
  by_cases hzone : a.unmap.zone = ""
  · exact ⟨fun _ => .inl hzone, fun _ => permitted_of_no_zone hzone⟩
  constructor
  · intro h
    by_cases hbits : cls = .tenant ∧ (a.unmap.isLinkLocalUnicast = true ∨
        a.unmap.isLinkLocalMulticast = true ∨ a.isLoopback = true)
    · exact .inr (.inl hbits)
    have hok : checkAddr policy cls a = .ok () := by
      rw [checkAddr_zoned_ok_iff hzone]
      intro hcls
      simp only [hcls, true_and, not_or, Bool.not_eq_true] at hbits
      refine ⟨hbits.1, hbits.2.1, ?_⟩
      intro hloop
      rw [hbits.2.2] at hloop
      cases hloop
    have hperm := h hok
    refine .inr (.inr ⟨hperm.always, hperm.metadata, ?_⟩)
    intro hcls ht
    rcases hperm.tenant hcls ht with hallowed | ⟨-, hloop⟩
    · exact hallowed
    · rw [isLoopback_destination] at hloop
      exact absurd ⟨hcls, .inr (.inr hloop)⟩ hbits
  · rintro (hz | ⟨rfl, hbits⟩ | ⟨ha, hm, ht⟩) hok
    · exact absurd hz hzone
    · -- the bits alone refuse a link-local address, so it is a loopback one
      obtain ⟨hu, hl, -⟩ := (checkAddr_zoned_ok_iff hzone).mp hok rfl
      simp only [hu, hl, Bool.false_eq_true, false_or] at hbits
      exact permitted_zoned_loopback hzone hok hbits
    rw [checkAddr_zoned_ok_iff hzone] at hok
    refine ⟨ha, hm, ?_, ?_, fun hcls h => .inl (ht hcls h)⟩
    · intro hcls hloop
      rw [isLoopback_destination] at hloop
      exact (hok hcls).2.2 hloop
    · intro hcls
      rw [isLinkLocal_destination.1, isLinkLocal_destination.2]
      exact ⟨(hok hcls).1, (hok hcls).2.1⟩

variable (lib : Lib)

theorem dial_permitted_iff (policy : Policy) (cls : Class)
    (address host port : String) (a : Addr) (hsplit : splitHostPort address = some (host, port))
    (haddr : parseAddr host = some a) :
    (checkDialAddress lib policy cls address = .ok () → Permitted policy cls (destination a)) ↔
      Judged policy cls a := by
  rw [checkDialAddress_literal hsplit haddr]
  exact checkAddr_permitted_iff

def defaultPolicy : Policy := newGuard ⟨[], 0, false, false, []⟩

def oneURL (u : URL) : Lib := ⟨fun _ => .ok u, fun s => "\"" ++ s ++ "\""⟩

theorem dial_permitted_iff_public :
    Permitted defaultPolicy .tenant (destination (.v4 0x5db8d822#32)) :=
  (dial_permitted_iff (oneURL ⟨"", "", false⟩) defaultPolicy .tenant "93.184.216.34:443"
    "93.184.216.34" "443" (.v4 0x5db8d822#32) (by decide) (by decide)).mpr
    (.inl rfl) (by decide)

theorem zoned_metadata_dialled :
    parseAddr "fd00:ec2::254%eth0" = some (.v6 0xfd000ec2000000000000000000000254#128 "eth0") ∧
      checkDialAddress (oneURL ⟨"", "", false⟩) defaultPolicy .tenant
        "[fd00:ec2::254%eth0]:80" = .ok () ∧ inAny metadataBlocked
        (destination (.v6 0xfd000ec2000000000000000000000254#128 "eth0")) = true := by
  decide

def Reserved (a : Addr) : Prop :=
  inAny alwaysBlocked (destination a) = true ∨ inAny metadataBlocked (destination a) = true ∨
    a.isLoopback = true

def StrictlyConfined (policy : Policy) (resolver resolver' : Resolver)
    (rawURL : String) (cls : Class) : Prop :=
  vetForModes lib policy resolver resolver' rawURL cls = .ok () →
    ∀ u, parseDestination lib rawURL = .ok u →
      match parseAddr u.hostname with
      | some a => ¬ Reserved a ∧ literalAddrAllowedByOverride policy a = true
      | none => hostInInternalAllowList policy u.hostname = true ∧
          ∀ r ∈ [resolver, resolver'], ∀ addrs, r u.hostname = .ok addrs →
            ∀ a ∈ addrs, ¬ Reserved a

def Kept (policy : Policy) (cls : Class) (a : Addr) : Prop :=
  inAny alwaysBlocked (destination a) = false ∧ inAny metadataBlocked (destination a) = false ∧
    (cls = .tenant → a.isLoopback = true → policy.allowLoopback = true)

lemma kept_of_checkAddr (hok : checkAddr policy cls a = .ok ()) (hzone : a.unmap.zone = "") :
    Kept policy cls a := by
  have hperm := permitted_of_no_zone hzone hok
  refine ⟨hperm.always, hperm.metadata, ?_⟩
  intro hcls hloop
  exact hperm.loopback hcls (by rw [isLoopback_destination]; exact hloop)

theorem in_cluster_only_confines (policy : Policy) (resolver resolver' : Resolver)
    (rawURL : String) (cls : Class) (hmode : policy.publicDestinationsBlocked = true)
    (hvet : vetForModes lib policy resolver resolver' rawURL cls = .ok ()) :
    ∃ u, parseDestination lib rawURL = .ok u ∧ match parseAddr u.hostname with
      | some a =>
        (cls = .tenant → literalAddrAllowedByOverride policy a = true) ∧
          (literalAddrAllowedByOverride policy a = false → a.unmap.zone = "" → Kept policy cls a)
      | none =>
        hostInInternalAllowList policy u.hostname = true ∧
          (Answers resolver u.hostname (fun a => a.unmap.zone = "" → Kept policy cls a) ∨
            Answers resolver' u.hostname fun a =>
              literalAddrAllowedByOverride policy a = true) := by
  obtain ⟨u, hu⟩ := vetForModes_parse hmode hvet
  refine ⟨u, hu, ?_⟩
  rw [vetForModes_ok_iff hmode hu] at hvet
  cases haddr : parseAddr u.hostname with
  | some a =>
    rw [haddr] at hvet
    rcases hvet with hlisted | ⟨hcls, hok⟩
    · refine ⟨fun _ => hlisted, ?_⟩
      intro hunlisted
      rw [hlisted] at hunlisted
      cases hunlisted
    · subst hcls
      exact ⟨nofun, fun _ hzone => kept_of_checkAddr hok hzone⟩
  | none =>
    rw [haddr] at hvet
    obtain ⟨hhost, hpass | hlisted⟩ := hvet
    · obtain ⟨addrs, hres, hne, hall⟩ := hpass
      refine ⟨hhost, .inl ⟨addrs, hres, hne, ?_⟩⟩
      intro a ha hzone
      exact kept_of_checkAddr (hall a ha) hzone
    · exact ⟨hhost, .inr hlisted⟩

def clusterPolicy (hosts : List String) : Policy := newGuard ⟨[], 0, false, true, hosts⟩

def noAnswers : Resolver := fun _ => .error "no such host"

def privateAnswer : Resolver := fun _ => .ok [.v4 0x0a070707#32]

theorem in_cluster_only_confines_sample :
    ∃ u, parseDestination (oneURL ⟨"http", "vllm.models.svc", false⟩) "http://vllm.models.svc" =
        .ok u ∧ hostInInternalAllowList (clusterPolicy ["vllm.models.svc", "10.0.0.0/8"])
          u.hostname = true := by
  obtain ⟨u, hu, hrest⟩ := in_cluster_only_confines (oneURL ⟨"http", "vllm.models.svc", false⟩)
    (clusterPolicy ["vllm.models.svc", "10.0.0.0/8"]) privateAnswer privateAnswer
    "http://vllm.models.svc" .tenant rfl (by decide)
  have hname : u = ⟨"http", "vllm.models.svc", false⟩ := by
    have hknown : parseDestination (oneURL ⟨"http", "vllm.models.svc", false⟩)
        "http://vllm.models.svc" = .ok ⟨"http", "vllm.models.svc", false⟩ := by decide
    exact Except.ok.inj (hu.symm.trans hknown)
  have hnone : parseAddr u.hostname = none := by
    rw [hname]
    decide
  rw [hnone] at hrest
  exact ⟨u, hu, hrest.1⟩

theorem operator_loopback_unlisted :
    ¬ StrictlyConfined (oneURL ⟨"http", "127.0.0.1:4318", false⟩) (clusterPolicy ["llm.local"])
        noAnswers noAnswers "http://127.0.0.1:4318/v1/traces" .operator ∧
      ¬ StrictlyConfined (oneURL ⟨"http", "169.254.169.254", false⟩)
        (clusterPolicy ["169.254.0.0/16"]) noAnswers noAnswers "http://169.254.169.254/"
        .tenant := by
  constructor
  · intro h
    have hstrict := h (by decide) ⟨"http", "127.0.0.1:4318", false⟩ (by decide)
    have haddr : parseAddr (URL.hostname ⟨"http", "127.0.0.1:4318", false⟩) =
        some (.v4 0x7f000001#32) := by decide
    rw [haddr] at hstrict
    exact hstrict.1 (.inr (.inr (by decide)))
  · intro h
    have hstrict := h (by decide) ⟨"http", "169.254.169.254", false⟩ (by decide)
    have haddr : parseAddr (URL.hostname ⟨"http", "169.254.169.254", false⟩) =
        some (.v4 0xa9fea9fe#32) := by decide
    rw [haddr] at hstrict
    exact hstrict.1 (.inr (.inl (by decide)))

/-- What in-cluster-only mode asks of a destination so that it is judged alike when it is saved and
when it is used: a listed address passes the address policy, or is a tenant's private one. -/
def JudgedAlike (policy : Policy) (resolver : Resolver) (host : String) (cls : Class) : Prop :=
  match parseAddr host with
  | some a => literalAddrAllowedByOverride policy a = true → checkAddr policy cls a = .ok () ∨
      (cls = .tenant ∧ literalInUnreservedPrivateSpace a = true)
  | none =>
    if hostInInternalAllowList policy host = true then
      Answers resolver host (fun a => literalAddrAllowedByOverride policy a = true) →
        Answers resolver host fun a => checkAddr policy cls a = .ok ()
    else
      ¬ Answers resolver host fun a => checkAddr policy cls a = .ok () ∧
        (cls = .tenant → literalAddrAllowedByOverride policy a = true)

theorem checkURL_vetForModes_iff (policy : Policy) (resolver : Resolver)
    (rawURL : String) (cls : Class) : (checkURL lib policy resolver rawURL cls = .ok () ↔
        vetForModes lib policy resolver resolver rawURL cls = .ok ()) ↔
      (policy.publicDestinationsBlocked = true → ∀ u, parseDestination lib rawURL = .ok u →
        JudgedAlike policy resolver u.hostname cls) := by
  cases hmode : policy.publicDestinationsBlocked with
  | false => simp [vetForModes, hmode]
  | true =>
    cases hu : parseDestination lib rawURL with
    | error err =>
      have hvet : vetForModes lib policy resolver resolver rawURL cls ≠ .ok () := by
        intro hok
        obtain ⟨u, hu'⟩ := vetForModes_parse hmode hok
        rw [hu] at hu'
        cases hu'
      have hcheck : checkURL lib policy resolver rawURL cls ≠ .ok () := by
        unfold checkURL checkURLStatic checkURLInClusterOnly
        rw [hu]
        split_ifs <;> simp [bind, Except.bind]
      simp [hvet, hcheck]
    | ok u =>
      rw [vetForModes_ok_iff hmode hu]
      unfold JudgedAlike checkURL
      cases cls with
      | operator =>
        rw [if_neg (by simp), checkURLStatic_ok_iff hu]
        cases haddr : parseAddr u.hostname with
        | some a => grind
        | none => cases hhost : hostInInternalAllowList policy u.hostname <;> grind
      | tenant =>
        rw [if_pos ⟨hmode, rfl⟩, checkURLInClusterOnly_ok_iff hu]
        cases haddr : parseAddr u.hostname with
        | some a => grind
        | none => cases hhost : hostInInternalAllowList policy u.hostname <;> simp [haddr, hhost]

theorem saved_not_used :
    ¬ (checkURL (oneURL ⟨"http", "llm.example", false⟩) (clusterPolicy ["93.184.216.0/24"])
          (fun _ => .ok [.v4 0x5db8d822#32]) "http://llm.example" .tenant = .ok () ↔
        vetForModes (oneURL ⟨"http", "llm.example", false⟩) (clusterPolicy ["93.184.216.0/24"])
          (fun _ => .ok [.v4 0x5db8d822#32]) (fun _ => .ok [.v4 0x5db8d822#32])
          "http://llm.example" .tenant = .ok ()) ∧
      ¬ (checkURL (oneURL ⟨"http", "169.254.169.254", false⟩) (clusterPolicy ["169.254.0.0/16"])
          noAnswers "http://169.254.169.254/" .tenant = .ok () ↔
        vetForModes (oneURL ⟨"http", "169.254.169.254", false⟩) (clusterPolicy ["169.254.0.0/16"])
          noAnswers noAnswers "http://169.254.169.254/" .tenant = .ok ()) := by
  decide

end FfxNexus.Egress
