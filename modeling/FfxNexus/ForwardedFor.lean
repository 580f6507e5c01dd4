/-
**Source addresses behind proxies** (`internal/ippolicy/ippolicy.go`): the forwarded-for chain is
walked from the right, as far as its hops are trusted.
-/
import FfxNexus.Apierr
import FfxNexus.Fields
import FfxNexus.Netip

namespace FfxNexus.ForwardedFor

open List

/-- The two settings, and the functions `net.ParseIP` and `IPNet.Contains`. -/
structure Policy (IP Net : Type) where
  trustedCIDRs : List (Option Net)
  trustedHops : ℤ
  parseIP : String → Option IP
  contains : Net → IP → Bool

structure Source where
  (rawSocketAddr rawSocketHost : String)
  trustProxyHeader : Bool
  hopsUsed : ℤ
  headerChain : List String
  effectiveIP : String

def headerMaxLen : ℕ := 8 * 1024

def hostOf (addr : String) : String := ((Netip.splitHostPort addr).map Prod.fst).getD addr

def parseForwardedFor (value : String) : List String :=
  if headerMaxLen < value.utf8ByteSize then []
  else (fields ',' value).map hostOf

variable {IP Net : Type} (p : Policy IP Net)

def trustedRemote (host : String) : Bool :=
  decide (host ≠ "") && (p.parseIP host).any fun ip =>
    p.trustedCIDRs.any fun c => c.any fun c => p.contains c ip

/-- The loop over the hops, the rightmost first. -/
def walk (accepted : ℤ) (effective : String) : List String → ℤ × String
  | [] => (accepted, effective)
  | hop :: hops =>
    if (p.parseIP hop).isNone ∨ trustedRemote p hop = false then (accepted, effective)
    else if p.trustedHops ≤ accepted + 1 then (accepted + 1, hop)
    else walk (accepted + 1) hop hops

def scrubbed (s : String) : String := Apierr.scrubText s

def socket (addr : String) : Source :=
  let full := if addr ≠ "" ∧ (Netip.splitHostPort addr).isNone then addr ++ ":0" else addr
  ⟨scrubbed full, scrubbed (hostOf addr), false, 0, [], scrubbed (hostOf addr)⟩

def resolveSource (addr xff : String) : Source :=
  if p.trustedCIDRs = [] ∨ p.trustedHops ≤ 0 ∨ hostOf addr = "" then socket addr
  else if trustedRemote p (hostOf addr) = false then socket addr
  else if xff = "" then { socket addr with trustProxyHeader := true }
  else
    let w := walk p 0 "" (parseForwardedFor xff).reverse
    { socket addr with
      trustProxyHeader := true, headerChain := parseForwardedFor xff, hopsUsed := w.1
      effectiveIP := if w.2 = "" then (socket addr).rawSocketHost else w.2 }

variable {p}

lemma walk_append {hops : List String} (h : ∃ hop ∈ hops, trustedRemote p hop = false)
    (left : List String) (accepted : ℤ) (effective : String) :
    walk p accepted effective (hops ++ left) = walk p accepted effective hops := by
  induction hops generalizing accepted effective with
  | nil => simp at h
  | cons hop hops ih =>
    rw [cons_append, walk, walk]
    split_ifs with hbad
    · rfl
    · rfl
    -- this hop is trusted, so the bad one is among the rest
    · obtain ⟨bad, hmem, hfalse⟩ := h
      refine ih ⟨bad, (mem_cons.mp hmem).resolve_left ?_, hfalse⟩ _ _
      rintro rfl
      exact hbad (.inr hfalse)

lemma walk_result (hops : List String) (accepted : ℤ) (effective : String) :
    (walk p accepted effective hops).2 = effective ∨ ∃ passed hop rest,
      hops = passed ++ hop :: rest ∧ (walk p accepted effective hops).2 = hop ∧
      ∀ x ∈ passed, trustedRemote p x = true := by
  induction hops generalizing accepted effective with
  | nil => exact .inl rfl
  | cons hop hops ih =>
    rw [walk]
    split_ifs with hbad
    · exact .inl rfl
    · exact .inr ⟨[], hop, hops, rfl, rfl, by simp⟩
    right
    rcases ih (accepted + 1) hop with heq | ⟨passed, last, rest, rfl, heq, htrusted⟩
    · exact ⟨[], hop, hops, rfl, heq, by simp⟩
    · refine ⟨hop :: passed, last, rest, rfl, heq, forall_mem_cons.mpr ⟨?_, htrusted⟩⟩
      simpa using (not_or.mp hbad).2

lemma fields_append (left right : String) :
    fields ',' (left ++ "," ++ right) = fields ',' left ++ fields ',' right := by
  have hsplit : (left ++ "," ++ right).toList.splitOn ',' =
      left.toList.splitOn ',' ++ right.toList.splitOn ',' := by
    rw [String.toList_append, String.toList_append, append_assoc]
    exact splitOnP_append_cons _ _ rfl
  rw [fields, hsplit, map_append, filter_append]
  rfl

lemma parseForwardedFor_append {left right : String}
    (h : (left ++ "," ++ right).utf8ByteSize ≤ headerMaxLen) :
    parseForwardedFor (left ++ "," ++ right) =
      parseForwardedFor left ++ parseForwardedFor right := by
  have hsize : (left ++ "," ++ right).utf8ByteSize = left.utf8ByteSize + ",".utf8ByteSize +
      right.utf8ByteSize := by rw [String.utf8ByteSize_append, String.utf8ByteSize_append]
  unfold parseForwardedFor
  rw [if_neg (by omega), if_neg (by omega), if_neg (by omega), fields_append, map_append]

lemma resolveSource_left (p : Policy IP Net) (addr : String) {left right : String}
    (hlen : (left ++ "," ++ right).utf8ByteSize ≤ headerMaxLen)
    (hbad : ∃ hop ∈ parseForwardedFor right, trustedRemote p hop = false) :
    (resolveSource p addr (left ++ "," ++ right)).effectiveIP =
      (resolveSource p addr right).effectiveIP := by
  have hright : right ≠ "" := by
    rintro rfl
    obtain ⟨hop, hmem, -⟩ := hbad
    simp [parseForwardedFor, fields, Guardrails.trimSpace] at hmem
  have hwhole : left ++ "," ++ right ≠ "" := by simp [hright]
  unfold resolveSource
  rw [if_neg hright, if_neg hwhole, parseForwardedFor_append hlen, reverse_append,
    walk_append (by simpa using hbad)]
  split_ifs <;> rfl

lemma resolveSource_result (p : Policy IP Net) (addr xff : String) :
    (resolveSource p addr xff).effectiveIP = scrubbed (hostOf addr) ∨ ∃ left hop right,
      (resolveSource p addr xff).headerChain = left ++ hop :: right ∧
        (resolveSource p addr xff).effectiveIP = hop ∧ ∀ x ∈ right, trustedRemote p x = true := by
  unfold resolveSource
  split_ifs
  · exact .inl rfl
  · exact .inl rfl
  · exact .inl rfl
  rcases walk_result (parseForwardedFor xff).reverse 0 "" with
    heq | ⟨passed, hop, rest, hrev, heq, htrusted⟩
  · exact .inl (if_pos heq)
  -- the walk ends at a hop; the chain is read from the right
  by_cases hnone : hop = ""
  · exact .inl (if_pos (heq.trans hnone))
  refine .inr ⟨rest.reverse, hop, passed.reverse, ?_, ?_, by simpa using htrusted⟩
  · rw [← reverse_inj, hrev]
    simp
  · exact (if_neg (heq ▸ hnone)).trans heq

variable (p) in
/-- What stands to the left of an untrusted or unparsable hop is never read, an untrusted socket
yields its own host, and the result is the socket's host or a hop with only trusted ones to its
right. -/
structure NotSpoofed (addr : String) : Prop where
  left : ∀ left right, (left ++ "," ++ right).utf8ByteSize ≤ headerMaxLen →
    (∃ hop ∈ parseForwardedFor right, trustedRemote p hop = false) →
    (resolveSource p addr (left ++ "," ++ right)).effectiveIP =
      (resolveSource p addr right).effectiveIP
  untrusted : trustedRemote p (hostOf addr) = false →
    ∀ xff, (resolveSource p addr xff).effectiveIP = hostOf addr
  result : ∀ xff, (resolveSource p addr xff).effectiveIP = hostOf addr ∨ ∃ left hop right,
    (resolveSource p addr xff).headerChain = left ++ hop :: right ∧
      (resolveSource p addr xff).effectiveIP = hop ∧ ∀ x ∈ right, trustedRemote p x = true

/-- **No spoofing from the left** holds for every socket whose host `Scrub` leaves alone; any other
socket is given the scrubbed text for a host. -/
theorem not_spoofed_iff (p : Policy IP Net) (addr : String) :
    NotSpoofed p addr ↔ ∀ sig ∈ Apierr.signatureTexts, ¬ sig <:+: (hostOf addr).toList := by
  rw [← Apierr.scrubText_eq_self_iff, ← scrubbed]
  constructor
  · intro h
    -- without a header there is no hop to name
    have hbare : (resolveSource p addr "").effectiveIP = scrubbed (hostOf addr) ∧
        (resolveSource p addr "").headerChain = [] := by
      unfold resolveSource
      split_ifs <;> exact ⟨rfl, rfl⟩
    rcases h.result "" with heq | ⟨left, hop, right, hchain, -⟩
    · exact hbare.1.symm.trans heq
    · rw [hbare.2] at hchain
      simp at hchain
  · intro hhost
    refine ⟨fun left right => resolveSource_left p addr, fun hsocket xff => ?_, fun xff => ?_⟩
    · unfold resolveSource
      rw [if_pos hsocket, ite_self]
      exact hhost
    · rw [← hhost]
      exact resolveSource_result p addr xff

theorem loopback_scrubbed :
    let p : Policy Unit Unit := ⟨[], 1, fun _ => none, fun _ _ => false⟩
    hostOf "127.0.0.1:5000" = "127.0.0.1" ∧
      (resolveSource p "127.0.0.1:5000" "").effectiveIP = "\x1a[NEXUS_REDACTED]\x1a" := by
  decide

end FfxNexus.ForwardedFor
