/-
**Rate limits of the anonymous routes** (`ipRateLimit` and `clientIP` of
`internal/console/security.go`), behind a reverse proxy.
-/
import FfxNexus.Console
import FfxNexus.Limiter.IP
import FfxNexus.Redirect
import Mathlib.Data.List.TakeWhile

namespace FfxNexus.Limiter.Route
open Netip Guardrails Redirect List Machine AList Option

structure Incoming where
  header : Header
  remoteAddr : String

def get (h : Header) (name : String) : String := ((h.lookup name).getD []).headD ""

def leftmost (v : String) : String := String.ofList (v.toList.takeWhile (· ≠ ','))

def clientIP (r : Incoming) : String :=
  if get r.header "Cf-Connecting-Ip" ≠ "" then trimmed (get r.header "Cf-Connecting-Ip")
  else if get r.header "X-Forwarded-For" ≠ "" then
    trimmed (leftmost (get r.header "X-Forwarded-For"))
  else
    match splitHostPort r.remoteAddr with
    | some (host, _) => host
    | none => r.remoteAddr

def ipRateLimit (routeName : String) (lim : IPLimiter) (s : State) (now : ℤ) (r : Incoming) :
    State × Bool :=
  if clientIP r = "" then (s, true) else allow lim s now (routeName ++ ":" ++ clientIP r)

def authLimiter : IPLimiter := newIPLimiter 30 minute

structure Address where
  text : String
  ne_empty : text ≠ ""
  plain : ∀ c ∈ text.toList, c ≠ ',' ∧ isSpace c = false
deriving DecidableEq

def joined (prior : List String) (peer : String) : String :=
  prior.foldr (fun v rest => v ++ ", " ++ rest) peer

def forward (peer : Address) (h : Header) : Header :=
  (h.erase "Cf-Connecting-Ip").insert "X-Forwarded-For"
    [joined ((h.lookup "X-Forwarded-For").getD []) peer.text]

structure Arrival where
  now : ℤ
  routeName : String
  peer : Address
  header : Header
  proxyAddr : String

def Arrival.incoming (a : Arrival) : Incoming := ⟨forward a.peer a.header, a.proxyAddr⟩

def door (l : IPLimiter) : Machine State Arrival Bool where
  step s a := ipRateLimit a.routeName l s a.now a.incoming

def admitted (l : IPLimiter) (arrivals : List Arrival) (peer : Address) (routeName : String)
    (t₀ d : ℚ) : ℕ :=
  ((door l).traceOf
    (fun a => a.peer = peer ∧ a.routeName = routeName ∧ t₀ ≤ (a.now : ℚ) ∧ (a.now : ℚ) ≤ t₀ + d)
    newState arrivals).count true

def RouteLimited (l : IPLimiter) (arrivals : List Arrival) (peer : Address) (routeName : String) :
    Prop :=
  ∀ t₀ d : ℚ, 0 ≤ d →
    (admitted l arrivals peer routeName t₀ d : ℚ) ≤ l.capacity + l.capacity * d / l.refill.ns

structure Traffic (H : Set Header) (peer : Address) (arrivals : List Arrival) : Prop where
  clocked : arrivals.Pairwise fun a a' => a.now ≤ a'.now
  headers : ∀ a ∈ arrivals, a.peer = peer → a.header ∈ H

def claimed (peer : Address) (h : Header) : String :=
  match (h.lookup "X-Forwarded-For").getD [] with
  | [] => peer.text
  | v :: _ => trimmed (leftmost v)

variable {s : String}

lemma trimmed_of_plain (h : ∀ c ∈ s.toList, isSpace c = false) : trimmed s = s := by
  have hdrop : ∀ {cs : List Char}, (∀ c ∈ cs, isSpace c = false) → cs.dropWhile isSpace = cs := by
    intro cs hcs
    cases cs with
    | nil => rfl
    | cons c cs =>
      rw [dropWhile_cons_of_neg]
      rw [hcs c mem_cons_self]
      exact Bool.false_ne_true
  unfold trimmed trimSpace
  rw [hdrop h, hdrop fun c hc => h c (mem_reverse.mp hc), reverse_reverse, String.ofList_toList]

lemma leftmost_of_plain (h : ∀ c ∈ s.toList, c ≠ ',') : leftmost s = s := by
  unfold leftmost
  have htake : s.toList.takeWhile (· ≠ ',') = s.toList := by
    rw [takeWhile_eq_self_iff]
    intro c hc
    exact decide_eq_true (h c hc)
  rw [htake, String.ofList_toList]

lemma leftmost_append_comma (v rest : String) : leftmost (v ++ ", " ++ rest) = leftmost v := by
  unfold leftmost
  rw [String.toList_append, String.toList_append, append_assoc]
  congr 1
  generalize v.toList = cs
  induction cs with
  | nil => simp
  | cons c cs ih =>
    by_cases hc : c = ','
    · subst hc
      simp
    · have hkeep : decide (c ≠ ',') = true := decide_eq_true hc
      rw [cons_append, takeWhile_cons, takeWhile_cons, if_pos hkeep, if_pos hkeep, ih]

lemma clientIP_forward (peer : Address) (h : Header) (proxyAddr : String) :
    clientIP ⟨forward peer h, proxyAddr⟩ = claimed peer h := by
  have hcf : get (forward peer h) "Cf-Connecting-Ip" = "" := by
    unfold get forward
    rw [lookup_insert_ne (by decide), lookup_erase]
    rfl
  have hxff : get (forward peer h) "X-Forwarded-For" =
      joined ((h.lookup "X-Forwarded-For").getD []) peer.text := by
    rfl
  unfold clientIP claimed
  rw [hcf, hxff, if_neg (fun hne => hne rfl)]
  cases (h.lookup "X-Forwarded-For").getD [] with
  | nil =>
    have hjoined : joined [] peer.text = peer.text := rfl
    rw [hjoined, if_pos peer.ne_empty, leftmost_of_plain fun c hc => (peer.plain c hc).1,
      trimmed_of_plain fun c hc => (peer.plain c hc).2]
  | cons v values =>
    have hjoined : joined (v :: values) peer.text = v ++ ", " ++ joined values peer.text := rfl
    have hne : v ++ ", " ++ joined values peer.text ≠ "" := by
      intro hempty
      have hlength := congrArg (length ∘ String.toList) hempty
      simp at hlength
    rw [hjoined, if_pos hne, leftmost_append_comma]

def asks (a : Arrival) : Option Call :=
  if claimed a.peer a.header = "" then none
  else some ⟨a.now, a.routeName ++ ":" ++ claimed a.peer a.header⟩

variable {a : Arrival}

lemma asks_of_ne (h : claimed a.peer a.header ≠ "") :
    asks a = some ⟨a.now, a.routeName ++ ":" ++ claimed a.peer a.header⟩ := if_neg h

variable {l : IPLimiter}

lemma door_step_of_asks {s : State} {c : Call} (h : asks a = some c) :
    (door l).step s a = (limiter l).step s c := by
  unfold asks at h
  by_cases hempty : claimed a.peer a.header = ""
  · rw [if_pos hempty] at h
    cases h
  rw [if_neg hempty, some.injEq] at h
  subst h
  show ipRateLimit a.routeName l s a.now a.incoming = _
  unfold ipRateLimit Arrival.incoming
  rw [clientIP_forward, if_neg hempty]
  rfl

lemma door_step_of_not_asks {s : State} (h : asks a = none) : (door l).step s a = (s, true) := by
  unfold asks at h
  by_cases hempty : claimed a.peer a.header = ""
  · show ipRateLimit a.routeName l s a.now a.incoming = _
    unfold ipRateLimit Arrival.incoming
    rw [clientIP_forward, if_pos hempty]
  · rw [if_neg hempty] at h
    cases h

lemma traceOf_asks (l : IPLimiter) (p : Call → Bool) (arrivals : List Arrival) :
    (door l).traceOf (fun a => (asks a).any p) newState arrivals =
      (limiter l).traceOf p newState (arrivals.filterMap asks) := by
  refine traceOf_eq_traceOf_filterMap (R := Eq) ?_ ?_ p rfl
  · rintro s _ a _ c rfl hc
    rw [door_step_of_asks hc]
    exact ⟨rfl, rfl⟩
  · rintro s _ a _ rfl hnone
    rw [door_step_of_not_asks hnone]

variable {arrivals : List Arrival}

lemma clocked_asks (h : arrivals.Pairwise fun a a' => a.now ≤ a'.now) :
    Clocked (arrivals.filterMap asks) := by
  have hnow : ∀ {a : Arrival} {c : Call}, asks a = some c → c.now = a.now := by
    intro a c hc
    unfold asks at hc
    split at hc
    · cases hc
    · cases hc
      rfl
  unfold Clocked
  rw [pairwise_filterMap]
  apply h.imp
  intro a a' haa' c hc c' hc'
  rw [hnow hc, hnow hc']
  exact haa'

variable {peer : Address}

lemma routeLimited_of_claimed (hl : l.Enabled)
    (hclock : arrivals.Pairwise fun a a' => a.now ≤ a'.now) {ip : String} (hip : ip ≠ "")
    (h : ∀ a ∈ arrivals, a.peer = peer → claimed peer a.header = ip) (routeName : String) :
    RouteLimited l arrivals peer routeName := by
  intro t0 d hd
  have hbound := passed_le hl (clocked_asks hclock) (routeName ++ ":" ++ ip) t0 hd
  refine le_trans ?_ hbound
  have hpassed : passed l (arrivals.filterMap asks) (routeName ++ ":" ++ ip) t0 d =
      ((door l).traceOf (fun a => (asks a).any fun c =>
        decide (c.key = routeName ++ ":" ++ ip ∧ t0 ≤ (c.now : ℚ) ∧ (c.now : ℚ) ≤ t0 + d))
        newState arrivals).count true := by
    rw [traceOf_asks]
    rfl
  rw [hpassed]
  have hasks : ∀ a ∈ arrivals, decide (a.peer = peer ∧ a.routeName = routeName ∧
        t0 ≤ (a.now : ℚ) ∧ (a.now : ℚ) ≤ t0 + d) = true →
      ((asks a).any fun c => decide (c.key = routeName ++ ":" ++ ip ∧ t0 ≤ (c.now : ℚ) ∧
        (c.now : ℚ) ≤ t0 + d)) = true := by
    intro a ha hsel
    rw [decide_eq_true_eq] at hsel
    obtain ⟨hpeer, hroute, hfrom, huntil⟩ := hsel
    have hclaimed : claimed a.peer a.header = ip := by
      rw [hpeer]
      exact h a ha hpeer
    rw [asks_of_ne (by rw [hclaimed]; exact hip), hclaimed, hroute, any_some,
      decide_eq_true_eq]
    exact ⟨rfl, hfrom, huntil⟩
  have hsub := traceOf_sublist (door l) newState hasks
  exact_mod_cast hsub.count_le true

def burst (peer : Address) (routeName : String) (n : ℕ) (h : Header) : List Arrival :=
  List.replicate n ⟨0, routeName, peer, h, ""⟩

variable {routeName : String}

lemma admitted_eq (h : ∀ a ∈ arrivals, a.peer = peer ∧ a.routeName = routeName ∧ a.now = 0) :
    admitted l arrivals peer routeName 0 0 = ((door l).trace newState arrivals).count true := by
  unfold admitted
  rw [traceOf_eq_trace]
  intro a ha
  obtain ⟨hpeer, hroute, hnow⟩ := h a ha
  rw [decide_eq_true_eq, hnow]
  exact ⟨hpeer, hroute, by simp⟩

variable {h : Header}

lemma trace_burst_of_empty (l : IPLimiter) (s : State) (routeName : String)
    (hempty : claimed peer h = "") (n : ℕ) :
    (door l).trace s (burst peer routeName n h) = replicate n true := by
  unfold burst
  induction n with
  | zero => rfl
  | succ n ih =>
    have hstep : (door l).step s ⟨0, routeName, peer, h, ""⟩ = (s, true) :=
      door_step_of_not_asks (if_pos hempty)
    rw [replicate_succ, trace, hstep, ih, replicate_succ]

lemma refilled_at_once {tokens : ℚ} (h : tokens ≤ l.capacity) (now : ℤ) :
    refilled l (some (tokens, now)) now = tokens := by
  have hsame : seconds (timeSub now now) = 0 := by
    unfold timeSub seconds
    rw [sub_self]
    with_unfolding_all decide
  unfold refilled
  dsimp only [getD_some]
  rw [hsame, zero_mul, add_zero, if_neg (not_lt.mpr h)]

lemma unswept_burst (hl : l.Enabled) (key : String) (n : ℕ) {s : State}
    (h : (n : ℚ) ≤ refilled l (s.buckets.lookup key) 0) :
    (unswept l).trace s (replicate n ⟨0, key⟩) = replicate n true ∧
      ∀ key', key' ≠ key → ((unswept l).run s (replicate n ⟨0, key⟩)).buckets.lookup key' =
        s.buckets.lookup key' := by
  induction n generalizing s with
  | zero => exact ⟨rfl, fun _ _ => rfl⟩
  | succ n ih =>
    rw [Nat.cast_succ] at h
    have hstep : (unswept l).step s ⟨0, key⟩ =
        (⟨s.buckets.insert key (refilled l (s.buckets.lookup key) 0 - 1, 0), s.lastGC⟩, true) := by
      rw [unswept_step hl]
      unfold take
      rw [if_neg (by linarith)]
    have hcap : refilled l (s.buckets.lookup key) 0 ≤ l.capacity := by
      unfold refilled
      dsimp only
      split
      · exact le_refl _
      · linarith
    obtain ⟨htrace, hothers⟩ := ih (s := ⟨s.buckets.insert key
      (refilled l (s.buckets.lookup key) 0 - 1, 0), s.lastGC⟩) (by
        rw [lookup_insert, refilled_at_once (by linarith)]
        linarith)
    rw [replicate_succ, trace, run_cons, hstep, htrace]
    refine ⟨rfl, fun key' hne => ?_⟩
    rw [hothers key' hne]
    exact lookup_insert_ne hne

variable {h' : Header} {n : ℕ}

lemma trace_two_bursts (hl : l.Enabled) (routeName : String) (hh : claimed peer h ≠ "")
    (hh' : claimed peer h' ≠ "") (hne : claimed peer h ≠ claimed peer h')
    (hn : (n : ℚ) ≤ l.capacity) :
    (door l).trace newState (burst peer routeName n h ++ burst peer routeName n h') =
      replicate n true ++ replicate n true := by
  have hasks : ∀ {g : Header}, claimed peer g ≠ "" →
      (burst peer routeName n g).filterMap asks =
        replicate n ⟨0, routeName ++ ":" ++ claimed peer g⟩ := by
    intro g hg
    unfold burst
    rw [filterMap_replicate, asks_of_ne hg]
  have hall : ∀ a ∈ burst peer routeName n h ++ burst peer routeName n h',
      (asks a).any (fun _ => true) = true := by
    intro a ha
    unfold burst at ha
    rw [mem_append, mem_replicate, mem_replicate] at ha
    rcases ha with ⟨-, rfl⟩ | ⟨-, rfl⟩
    · rw [asks_of_ne hh, any_some]
    · rw [asks_of_ne hh', any_some]
  have hkey : routeName ++ ":" ++ claimed peer h' ≠ routeName ++ ":" ++ claimed peer h := by
    intro heq
    exact hne (String.append_right_inj _ |>.mp heq).symm
  have hfull : ∀ {s : State} {key : String}, s.buckets.lookup key = none →
      (n : ℚ) ≤ refilled l (s.buckets.lookup key) 0 := by
    intro s key hnone
    have hnew : refilled l none 0 = l.capacity := refilled_at_once (le_refl _) 0
    rw [hnone, hnew]
    exact hn
  have hclock : Clocked (replicate n (⟨0, routeName ++ ":" ++ claimed peer h⟩ : Call) ++
      replicate n ⟨0, routeName ++ ":" ++ claimed peer h'⟩) := by
    have hzero : ∀ c ∈ replicate n (⟨0, routeName ++ ":" ++ claimed peer h⟩ : Call) ++
        replicate n ⟨0, routeName ++ ":" ++ claimed peer h'⟩, c.now = 0 := by
      intro c hc
      rw [mem_append, mem_replicate, mem_replicate] at hc
      rcases hc with ⟨-, rfl⟩ | ⟨-, rfl⟩ <;> rfl
    apply pairwise_of_forall_mem_list
    intro c hc c' hc'
    rw [hzero c hc, hzero c' hc']
  obtain ⟨hfirst, hothers⟩ := unswept_burst hl (routeName ++ ":" ++ claimed peer h) n
    (s := newState) (hfull (lookup_empty _))
  obtain ⟨hsecond, -⟩ := unswept_burst hl (routeName ++ ":" ++ claimed peer h') n
    (s := (unswept l).run newState (replicate n ⟨0, routeName ++ ":" ++ claimed peer h⟩))
    (hfull (by rw [hothers _ hkey]; exact lookup_empty _))
  rw [← traceOf_eq_trace (door l) newState hall, traceOf_asks,
    traceOf_eq_trace _ _ (fun _ _ => rfl), filterMap_append, hasks hh, hasks hh',
    trace_eq_unswept hl hclock, trace_append, hfirst, hsecond]

lemma of_mem_burst (ha : a ∈ burst peer routeName n h) :
    a.peer = peer ∧ a.routeName = routeName ∧ a.now = 0 ∧ a.header = h := by
  unfold burst at ha
  rw [mem_replicate] at ha
  obtain ⟨-, rfl⟩ := ha
  exact ⟨rfl, rfl, rfl, rfl⟩

lemma traffic_bursts {H : Set Header} {m : ℕ} (hh : h ∈ H) (hh' : h' ∈ H) :
    Traffic H peer (burst peer routeName n h ++ burst peer routeName m h') := by
  have hnow : ∀ a ∈ burst peer routeName n h ++ burst peer routeName m h',
      a.now = 0 ∧ a.header ∈ H := by
    intro a ha
    rcases mem_append.mp ha with ha | ha
    · obtain ⟨-, -, hnow, rfl⟩ := of_mem_burst ha
      exact ⟨hnow, hh⟩
    · obtain ⟨-, -, hnow, rfl⟩ := of_mem_burst ha
      exact ⟨hnow, hh'⟩
  constructor
  · apply pairwise_of_forall_mem_list
    intro a ha a' ha'
    rw [(hnow a ha).1, (hnow a' ha').1]
  · intro a ha _
    exact (hnow a ha).2

lemma not_routeLimited {m : ℕ}
    (htrace : (door l).trace newState (burst peer routeName n h ++ burst peer routeName m h') =
      replicate n true ++ replicate m true) (hmany : l.capacity < n + m) :
    ¬ RouteLimited l (burst peer routeName n h ++ burst peer routeName m h') peer routeName := by
  intro hlimited
  have hbound := hlimited 0 0 (le_refl 0)
  rw [admitted_eq ?_, htrace, count_append, count_replicate_self,
    count_replicate_self, mul_zero, zero_div, add_zero] at hbound
  · have hle : ((n + m : ℕ) : ℤ) ≤ l.capacity := by exact_mod_cast hbound
    omega
  · intro a ha
    rcases mem_append.mp ha with ha | ha
    · obtain ⟨hpeer, hroute, hnow, -⟩ := of_mem_burst ha
      exact ⟨hpeer, hroute, hnow⟩
    · obtain ⟨hpeer, hroute, hnow, -⟩ := of_mem_burst ha
      exact ⟨hpeer, hroute, hnow⟩

theorem route_limited_iff (l : IPLimiter) (hl : l.Enabled) (peer : Address) (routeName : String)
    (H : Set Header) :
    (∀ arrivals, Traffic H peer arrivals → RouteLimited l arrivals peer routeName) ↔
      ∀ h ∈ H, claimed peer h ≠ "" ∧ ∀ h' ∈ H, claimed peer h' = claimed peer h := by
  have hpos := hl.capacity
  have hcap : ((l.capacity.toNat : ℕ) : ℤ) = l.capacity := Int.toNat_of_nonneg (by omega)
  constructor
  · intro hlimited
    have hnonempty : ∀ h ∈ H, claimed peer h ≠ "" := by
      intro h hh hempty
      refine not_routeLimited (n := l.capacity.toNat) (m := 1) ?_ (by omega)
        (hlimited _ (traffic_bursts hh hh))
      rw [trace_append, trace_burst_of_empty _ _ _ hempty,
        trace_burst_of_empty _ _ _ hempty]
    intro h hh
    refine ⟨hnonempty h hh, fun h' hh' => ?_⟩
    by_contra hne
    refine not_routeLimited (n := l.capacity.toNat) (m := l.capacity.toNat) ?_ (by omega)
      (hlimited _ (traffic_bursts hh' hh))
    exact trace_two_bursts hl routeName (hnonempty h' hh') (hnonempty h hh) hne
      (by exact_mod_cast hcap.le)
  · intro hH arrivals htraffic
    by_cases hsome : ∃ h, h ∈ H
    · obtain ⟨h, hh⟩ := hsome
      obtain ⟨hne, hsame⟩ := hH h hh
      exact routeLimited_of_claimed hl htraffic.clocked hne
        (fun a ha hpeer => hsame _ (htraffic.headers a ha hpeer)) routeName
    · -- the client may send nothing
      exact routeLimited_of_claimed hl htraffic.clocked peer.ne_empty
        (fun a ha hpeer => absurd ⟨_, htraffic.headers a ha hpeer⟩ hsome) routeName

lemma plain_of_all (h : s.toList.all (fun c => decide (c ≠ ',' ∧ isSpace c = false)) = true) :
    ∀ c ∈ s.toList, c ≠ ',' ∧ isSpace c = false :=
  fun c hc => of_decide_eq_true (all_eq_true.mp h c hc)

def sampleClient : Address := ⟨"203.0.113.7", by decide, plain_of_all (by decide)⟩

def claiming (v : String) : Header := (∅ : Header).insert "X-Forwarded-For" [v]

theorem route_limited_iff_login : claimed sampleClient ∅ = "203.0.113.7" ∧
      ∀ arrivals, Traffic {∅} sampleClient arrivals →
        RouteLimited authLimiter arrivals sampleClient "login" := by
  refine ⟨by decide,
    (route_limited_iff authLimiter ⟨by decide, by decide⟩ sampleClient "login" {∅}).mpr ?_⟩
  intro h hh
  subst hh
  refine ⟨by decide, fun h' hh' => ?_⟩
  rw [hh']

theorem login_limit_evaded :
    Traffic Set.univ sampleClient (burst sampleClient "login" 30 (claiming "a") ++
        burst sampleClient "login" 30 (claiming "b")) ∧
      ¬ RouteLimited authLimiter (burst sampleClient "login" 30 (claiming "a") ++
        burst sampleClient "login" 30 (claiming "b")) sampleClient "login" := by
  refine ⟨traffic_bursts (Set.mem_univ _) (Set.mem_univ _), not_routeLimited ?_ (by decide)⟩
  exact trace_two_bursts ⟨by decide, by decide⟩ "login" (by decide) (by decide)
    (by decide) (by decide)

end FfxNexus.Limiter.Route
