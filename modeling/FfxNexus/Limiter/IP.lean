/-
**The rate limiter of anonymous routes** (`internal/limiter/iplimiter.go`), over exact rationals.
-/
import FfxNexus.Go
import FfxNexus.TokenBucket
import Mathlib.Tactic.FieldSimp

namespace FfxNexus.Limiter
open Go TokenBucket List AList Machine

def maxDuration : ℤ := 2 ^ 63 - 1

structure Duration where
  ns : ℤ
  lower : -maxDuration - 1 ≤ ns
  upper : ns ≤ maxDuration

def minute : Duration := ⟨60000000000, by decide, by decide⟩

def timeSub (t u : ℤ) : ℤ := max (-maxDuration - 1) (min maxDuration (t - u))

def seconds (ns : ℤ) : ℚ := ns / 1000000000

structure IPLimiter where
  capacity : ℤ
  refill : Duration
  gcInterval : Duration

def newIPLimiter (capacity : ℤ) (refill : Duration) : IPLimiter := ⟨capacity, refill, refill⟩

structure State where
  buckets : GoMap String (ℚ × ℤ)
  lastGC : ℤ

def newState : State := ⟨∅, 0⟩

variable (l : IPLimiter)

variable (buckets : GoMap String (ℚ × ℤ))

def gcLocked (now : ℤ) : GoMap String (ℚ × ℤ) :=
  deleteWhere (fun b => b.2 < now - l.refill.ns) buckets

def sweep (s : State) (now : ℤ) : State :=
  if l.gcInterval.ns ≤ timeSub now s.lastGC then ⟨gcLocked l s.buckets now, now⟩ else s

def refilled (b : Option (ℚ × ℤ)) (now : ℤ) : ℚ :=
  let b := b.getD (l.capacity, now)
  let elapsed := seconds (timeSub now b.2)
  let rate := l.capacity / seconds l.refill.ns
  let tokens := b.1 + elapsed * rate
  if l.capacity < tokens then l.capacity else tokens

def take (now : ℤ) (key : String) :
    GoMap String (ℚ × ℤ) × Bool :=
  let tokens := refilled l (buckets.lookup key) now
  if tokens < 1 then (buckets.insert key (tokens, now), false)
  else (buckets.insert key (tokens - 1, now), true)

def allow (s : State) (now : ℤ) (key : String) : State × Bool :=
  if l.capacity ≤ 0 then (s, true)
  else
    let s := sweep l s now
    let r := take l s.buckets now key
    (⟨r.1, s.lastGC⟩, r.2)

structure Call where
  now : ℤ
  key : String

def limiter : Machine State Call Bool where
  step s c := allow l s c.now c.key

def unswept : Machine State Call Bool where
  step s c :=
    if l.capacity ≤ 0 then (s, true)
    else
      let r := take l s.buckets c.now c.key
      (⟨r.1, s.lastGC⟩, r.2)

def Clocked (calls : List Call) : Prop := calls.Pairwise fun c c' => c.now ≤ c'.now

structure IPLimiter.Enabled (l : IPLimiter) : Prop where
  capacity : 1 ≤ l.capacity
  refill : 0 < l.refill.ns

section
variable {l : IPLimiter} (hl : l.Enabled)

def rule : Rule ℚ where
  capacity := l.capacity
  rate := l.capacity / l.refill.ns
  capacity_pos := by exact_mod_cast hl.capacity
  rate_nonneg := by
    have hcap : (0 : ℚ) ≤ l.capacity := by exact_mod_cast le_trans zero_le_one hl.capacity
    have hrefill : (0 : ℚ) ≤ l.refill.ns := by exact_mod_cast le_of_lt hl.refill
    exact div_nonneg hcap hrefill

def toBucket (b : ℚ × ℤ) : Bucket ℚ := ⟨b.1, b.2⟩

lemma seconds_mul_rate (elapsed : ℤ) :
    seconds elapsed * (l.capacity / seconds l.refill.ns) = elapsed * (rule hl).rate := by
  unfold seconds rule
  dsimp only
  field_simp

lemma capacity_le_gain {elapsed : ℤ} (h : l.refill.ns ≤ elapsed) :
    (l.capacity : ℚ) ≤ elapsed * (rule hl).rate := by
  have hpos : (0 : ℚ) < l.refill.ns := by exact_mod_cast hl.refill
  have hle : (l.refill.ns : ℚ) ≤ elapsed := by exact_mod_cast h
  calc (l.capacity : ℚ) = l.refill.ns * (rule hl).rate := by
        unfold rule
        dsimp only
        field_simp
    _ ≤ elapsed * (rule hl).rate := mul_le_mul_of_nonneg_right hle (rule hl).rate_nonneg

def Past (b : Option (ℚ × ℤ)) (now : ℤ) : Prop :=
  ∀ b' ∈ b, 0 ≤ b'.1 ∧ b'.1 ≤ l.capacity ∧ b'.2 ≤ now

lemma past_none (now : ℤ) : Past (l := l) none now := by
  intro b hb
  cases hb

variable {b : Option (ℚ × ℤ)} {now : ℤ}

lemma fits_of_past (h : Past (l := l) b now) :
    (rule hl).Fits (b.map toBucket) now := by
  intro b' hb'
  rw [Option.mem_def, Option.map_eq_some_iff] at hb'
  obtain ⟨b0, hb0, rfl⟩ := hb'
  obtain ⟨hlow, hup, hlast⟩ := h b0 hb0
  refine ⟨hlow, hup, ?_⟩
  show (b0.2 : ℚ) ≤ now
  exact_mod_cast hlast

lemma refilled_eq_level (hb : Past (l := l) b now) :
    refilled l b now = (rule hl).level (b.map toBucket) now := by
  have hcut : ∀ x : ℚ,
      (if (l.capacity : ℚ) < x then (l.capacity : ℚ) else x) = min x l.capacity := by
    intro x
    split_ifs with hx
    · rw [min_eq_right (le_of_lt hx)]
    · rw [min_eq_left (not_lt.mp hx)]
  unfold refilled
  rw [hcut, seconds_mul_rate hl]
  cases b with
  | none =>
    have hzero : timeSub now now = 0 := by
      unfold timeSub maxDuration
      omega
    rw [Option.getD_none, hzero, Int.cast_zero, zero_mul, add_zero, min_self]
    rfl
  | some b =>
    obtain ⟨hlow, -, hlast⟩ := hb b rfl
    rw [Option.getD_some]
    by_cases hlong : now - b.2 ≤ maxDuration
    · have hexact : timeSub now b.2 = now - b.2 := by
        unfold timeSub maxDuration at *
        omega
      rw [hexact]
      push_cast
      rfl
    · have hmax : timeSub now b.2 = maxDuration := by
        unfold timeSub
        have : (0 : ℤ) ≤ maxDuration := by unfold maxDuration; norm_num
        omega
      have hgain := capacity_le_gain hl l.refill.upper
      have hgain' : (l.capacity : ℚ) ≤ (now - b.2 : ℤ) * (rule hl).rate :=
        capacity_le_gain hl (le_trans l.refill.upper (le_of_lt (not_le.mp hlong)))
      have hfull : (rule hl).level (some (toBucket b)) now = l.capacity := by
        apply Rule.level_of_rested
        · exact hlow
        · show (l.capacity : ℚ) ≤ ((now : ℚ) - b.2) * (rule hl).rate
          rw [← Int.cast_sub]
          exact hgain'
      rw [hmax, Option.map_some, hfull, min_eq_right]
      linarith

def answer (l : IPLimiter) (b : Option (ℚ × ℤ)) (now : ℤ) : (ℚ × ℤ) × Bool :=
  if refilled l b now < 1 then ((refilled l b now, now), false)
  else ((refilled l b now - 1, now), true)

lemma take_eq (now : ℤ) (key : String) :
    take l buckets now key = (buckets.insert key (answer l (buckets.lookup key) now).1,
      (answer l (buckets.lookup key) now).2) := by
  unfold take answer
  dsimp only
  split <;> rfl

lemma answer_eq_ask (hb : Past (l := l) b now) :
    toBucket (answer l b now).1 = ((rule hl).ask (b.map toBucket) now).1 ∧
      (answer l b now).2 = ((rule hl).ask (b.map toBucket) now).2 := by
  unfold answer Rule.ask
  rw [refilled_eq_level hl hb]
  split
  · exact ⟨rfl, rfl⟩
  · exact ⟨rfl, rfl⟩

lemma past_answer (hl : l.Enabled) (hb : Past (l := l) b now) :
    Past (l := l) (some (answer l b now).1) now := by
  obtain ⟨hlow, hup, -⟩ := Rule.fits_ask (fits_of_past hl hb) _ rfl
  rw [← (answer_eq_ask hl hb).1] at hlow hup
  intro b' hb'
  rw [Option.mem_def, Option.some.injEq] at hb'
  subst hb'
  refine ⟨hlow, hup, ?_⟩
  unfold answer
  split
  · exact le_refl now
  · exact le_refl now

lemma Past.mono {t t' : ℤ} (h : Past (l := l) b t) (ht : t ≤ t') :
    Past (l := l) b t' := by
  intro b' hb'
  obtain ⟨hlow, hup, hlast⟩ := h b' hb'
  exact ⟨hlow, hup, le_trans hlast ht⟩

end

section
variable {l : IPLimiter}

def AllPast (l : IPLimiter) (buckets : GoMap String (ℚ × ℤ)) (now : ℤ) : Prop :=
  ∀ k, Past (l := l) (buckets.lookup k) now

variable {buckets : GoMap String (ℚ × ℤ)} {t : ℤ}

lemma AllPast.mono {t' : ℤ} (h : AllPast l buckets t) (ht : t ≤ t') : AllPast l buckets t' :=
  fun k => (h k).mono ht

variable {now : ℤ}

lemma allPast_take (hl : l.Enabled) (h : AllPast l buckets now) (key : String) :
    AllPast l (take l buckets now key).1 now := by
  rw [take_eq]
  intro k
  by_cases hk : k = key
  · rw [hk, lookup_insert]
    exact past_answer hl (h key)
  · rw [lookup_insert_ne hk]
    exact h k

lemma lookup_sweep (s : State) (now : ℤ) (k : String) :
    (sweep l s now).buckets.lookup k = s.buckets.lookup k ∨
      ((sweep l s now).buckets.lookup k = none ∧
        ∃ b, s.buckets.lookup k = some b ∧ b.2 < now - l.refill.ns) := by
  unfold sweep
  split_ifs with hdue
  · unfold gcLocked
    rw [lookup_deleteWhere]
    cases hb : s.buckets.lookup k with
    | none => exact .inl rfl
    | some b =>
      by_cases hold : b.2 < now - l.refill.ns
      · refine .inr ⟨?_, b, rfl, hold⟩
        simp [Option.filter, hold]
      · refine .inl ?_
        simp [hold]
  · exact .inl rfl

variable {s : State}

lemma allPast_sweep (h : AllPast l s.buckets now) : AllPast l (sweep l s now).buckets now := by
  intro k
  rcases lookup_sweep (l := l) s now k with hsame | ⟨hnone, -⟩
  · rw [hsame]
    exact h k
  · rw [hnone]
    exact past_none now

lemma allow_eq (hl : l.Enabled) (s : State) (now : ℤ) (key : String) :
    allow l s now key = (⟨(take l (sweep l s now).buckets now key).1, (sweep l s now).lastGC⟩,
      (take l (sweep l s now).buckets now key).2) := by
  have hlimits : ¬ l.capacity ≤ 0 := by
    have := hl.capacity
    omega
  unfold allow
  rw [if_neg hlimits]

lemma unswept_step (hl : l.Enabled) (s : State) (c : Call) :
    (unswept l).step s c = (⟨(take l s.buckets c.now c.key).1, s.lastGC⟩,
      (take l s.buckets c.now c.key).2) := by
  have hlimits : ¬ l.capacity ≤ 0 := by
    have := hl.capacity
    omega
  unfold unswept
  dsimp only
  rw [if_neg hlimits]

variable {calls : List Call}

lemma allPast_run (hl : l.Enabled) (hclock : Clocked calls) (h : AllPast l s.buckets t)
    (ht : ∀ c ∈ calls, t ≤ c.now) : ∃ t', AllPast l ((limiter l).run s calls).buckets t' := by
  induction calls generalizing s t with
  | nil => exact ⟨t, h⟩
  | cons c calls ih =>
    obtain ⟨hfirst, hrest⟩ := pairwise_cons.mp hclock
    have hnow := h.mono (ht c mem_cons_self)
    apply ih hrest _ hfirst
    show AllPast l (allow l s c.now c.key).1.buckets c.now
    rw [allow_eq hl]
    exact allPast_take hl (allPast_sweep hnow) c.key

def Matches (l : IPLimiter) (buckets buckets' : GoMap String (ℚ × ℤ)) (now : ℤ) : Prop :=
  ∀ k, buckets.lookup k = buckets'.lookup k ∨
    (buckets.lookup k = none ∧ ∃ b, buckets'.lookup k = some b ∧ b.2 < now - l.refill.ns)

variable {buckets' : GoMap String (ℚ × ℤ)}

lemma matches_sweep (ht : t ≤ now)
    (h : Matches l s.buckets buckets' t) : Matches l (sweep l s now).buckets buckets' now := by
  intro k
  rcases h k with hsame | ⟨hnone, b, hb, hold⟩
  · rcases lookup_sweep (l := l) s now k with hkept | ⟨hdropped, b, hb, hold⟩
    · exact .inl (hkept.trans hsame)
    · exact .inr ⟨hdropped, b, hsame ▸ hb, hold⟩
  refine .inr ⟨?_, b, hb, by omega⟩
  rcases lookup_sweep (l := l) s now k with hkept | ⟨hdropped, -⟩
  · exact hkept.trans hnone
  · exact hdropped

section
variable (hl : l.Enabled)
include hl

lemma refilled_eq_of_matches
    (h : Matches l buckets buckets' now) (hpast : AllPast l buckets' now) (key : String) :
    refilled l (buckets.lookup key) now = refilled l (buckets'.lookup key) now := by
  rcases h key with hsame | ⟨hnone, b, hb, hold⟩
  · rw [hsame]
  have hb' := hpast key
  rw [hb] at hb'
  rw [hnone, hb, refilled_eq_level hl hb', refilled_eq_level hl (past_none now)]
  obtain ⟨hlow, -, -⟩ := hb' b rfl
  symm
  apply Rule.level_of_rested
  · exact hlow
  · show (l.capacity : ℚ) ≤ ((now : ℚ) - b.2) * (rule hl).rate
    rw [← Int.cast_sub]
    exact capacity_le_gain hl (by omega)

lemma trace_swept {s' : State} (hclock : Clocked calls)
    (h : Matches l s.buckets s'.buckets t) (hpast : AllPast l s'.buckets t)
    (ht : ∀ c ∈ calls, t ≤ c.now) : (limiter l).trace s calls = (unswept l).trace s' calls := by
  induction calls generalizing s s' t with
  | nil => rfl
  | cons c calls ih =>
    obtain ⟨hfirst, hrest⟩ := pairwise_cons.mp hclock
    have hnow := ht c mem_cons_self
    have hmatch := matches_sweep hnow h
    have hpast' := hpast.mono hnow
    have hanswer : answer l ((sweep l s c.now).buckets.lookup c.key) c.now =
        answer l (s'.buckets.lookup c.key) c.now := by
      unfold answer
      rw [refilled_eq_of_matches hl hmatch hpast' c.key]
    have hstep : (limiter l).step s c = allow l s c.now c.key := rfl
    rw [trace, trace, hstep, allow_eq hl, unswept_step hl, take_eq, take_eq,
      hanswer]
    congr 1
    apply ih hrest _ _ hfirst
    · intro k
      by_cases hk : k = c.key
      · rw [hk, lookup_insert, lookup_insert]
        exact .inl rfl
      · rw [lookup_insert_ne hk, lookup_insert_ne hk]
        exact hmatch k
    · have htaken := allPast_take hl hpast' c.key
      rw [take_eq] at htaken
      exact htaken

def cell (l : IPLimiter) : Machine (Option (ℚ × ℤ)) ℤ Bool where
  step b now := (some (answer l b now).1, (answer l b now).2)

def times (key : String) (calls : List Call) : List ℤ :=
  calls.filterMap fun c => if c.key = key then some c.now else none

end

lemma Clocked.times (h : Clocked calls) (key : String) : (times key calls).Pairwise (· ≤ ·) := by
  unfold Limiter.times
  rw [pairwise_filterMap]
  apply h.imp
  intro c c' hcc' now hnow now' hnow'
  by_cases hk : c.key = key
  · by_cases hk' : c'.key = key
    · rw [if_pos hk, Option.some.injEq] at hnow
      rw [if_pos hk', Option.some.injEq] at hnow'
      omega
    · rw [if_neg hk'] at hnow'
      cases hnow'
  · rw [if_neg hk] at hnow
    cases hnow

lemma matches_new (t : ℤ) : Matches l newState.buckets newState.buckets t := fun _ => .inl rfl

lemma lookup_new (key : String) : newState.buckets.lookup key = none := lookup_empty key

lemma allPast_new (t : ℤ) : AllPast l newState.buckets t := by
  intro k
  rw [lookup_new]
  exact past_none t

lemma Clocked.exists_start (h : Clocked calls) : ∃ t, ∀ c ∈ calls, t ≤ c.now := by
  cases calls with
  | nil => exact ⟨0, fun c hc => absurd hc not_mem_nil⟩
  | cons c calls =>
    refine ⟨c.now, ?_⟩
    intro c' hc'
    rcases mem_cons.mp hc' with rfl | hc'
    · exact le_refl _
    · exact (pairwise_cons.mp h).1 c' hc'

variable (hl : l.Enabled)
include hl

lemma traceOf_key (key : String) (p : ℤ → Bool) (s : State) (calls : List Call) :
    (unswept l).traceOf (fun c => c.key = key ∧ p c.now = true) s calls =
      (cell l).traceOf p (s.buckets.lookup key) (times key calls) := by
  have hrule : (unswept l).traceOf
      (fun c => (if c.key = key then some c.now else none : Option ℤ).any p) s calls =
      (cell l).traceOf p (s.buckets.lookup key) (times key calls) := by
    refine traceOf_eq_traceOf_filterMap (R := fun s b => s.buckets.lookup key = b) ?_ ?_ p
      rfl
    · intro s b c _ now hR hf
      by_cases hk : c.key = key
      · rw [if_pos hk, Option.some.injEq] at hf
        subst hf
        rw [unswept_step hl, take_eq, hk, hR]
        exact ⟨lookup_insert _, rfl⟩
      · rw [if_neg hk] at hf
        cases hf
    · intro s b c _ hR hf
      by_cases hk : c.key = key
      · rw [if_pos hk] at hf
        cases hf
      rw [unswept_step hl, take_eq]
      rw [lookup_insert_ne (Ne.symm hk)]
      exact hR
  rw [← hrule]
  congr 1
  funext c
  split_ifs with hk
  · simp [hk]
  · rw [Option.any_none]
    simp [hk]

lemma cell_eq_bucket (p : ℚ → Bool) {b : Option (ℚ × ℤ)} {ts : List ℤ}
    (hts : ts.Pairwise (· ≤ ·)) (hb : ∀ t ∈ ts, Past (l := l) b t) :
    (cell l).traceOf (fun t => p t) b ts =
      (rule hl).bucket.traceOf p (b.map toBucket) (ts.map fun t : ℤ => (t : ℚ)) := by
  induction ts generalizing b with
  | nil => rfl
  | cons t ts ih =>
    obtain ⟨hfirst, hrest⟩ := pairwise_cons.mp hts
    have hpast := hb t mem_cons_self
    obtain ⟨hbucket, hanswer⟩ := answer_eq_ask hl hpast
    have htail := ih hrest (b := some (answer l b t).1)
      fun t' ht' => (past_answer hl hpast).mono (hfirst t' ht')
    rw [Option.map_some, hbucket] at htail
    have hcell : (cell l).step b t = (some (answer l b t).1, (answer l b t).2) := rfl
    have hask : (rule hl).bucket.step (b.map toBucket) t =
        (some ((rule hl).ask (b.map toBucket) t).1, ((rule hl).ask (b.map toBucket) t).2) := rfl
    rw [map_cons, traceOf, traceOf, hcell, hask, hanswer, htail]

def passed (l : IPLimiter) (calls : List Call) (key : String) (t₀ d : ℚ) : ℕ :=
  ((limiter l).traceOf (fun c => c.key = key ∧ t₀ ≤ (c.now : ℚ) ∧ (c.now : ℚ) ≤ t₀ + d) newState
    calls).count true

lemma trace_eq_unswept (hclock : Clocked calls) :
    (limiter l).trace newState calls = (unswept l).trace newState calls := by
  obtain ⟨t, ht⟩ := hclock.exists_start
  exact trace_swept hl hclock (matches_new t) (allPast_new t) ht

lemma allowance_none (t0 d : ℚ) :
    (rule hl).allowance t0 (t0 + d) none = l.capacity + l.capacity * d / l.refill.ns := by
  show (l.capacity : ℚ) + (t0 + d - t0) * (l.capacity / l.refill.ns) = _
  ring

lemma allowance_none_nonneg (t0 : ℚ) {d : ℚ} (hd : 0 ≤ d) :
    0 ≤ (rule hl).allowance t0 (t0 + d) none := by
  have hcap : 1 ≤ (rule hl).capacity := (rule hl).capacity_pos
  have hgain : 0 ≤ d * (rule hl).rate := mul_nonneg hd (rule hl).rate_nonneg
  show 0 ≤ (rule hl).capacity + (t0 + d - t0) * (rule hl).rate
  rw [add_sub_cancel_left]
  linarith

lemma passed_le (hclock : Clocked calls) (key : String) (t0 : ℚ) {d : ℚ}
    (hd : 0 ≤ d) : (passed l calls key t0 d : ℚ) ≤ l.capacity + l.capacity * d / l.refill.ns := by
  have htimes := hclock.times key
  have hcasts : ((times key calls).map fun t : ℤ => (t : ℚ)).Pairwise (· ≤ ·) := by
    rw [pairwise_map]
    apply htimes.imp
    intro t t' htt'
    exact_mod_cast htt'
  have hbound := Rule.count_grants_le hcasts (b := none) (fun _ _ _ hn => by cases hn)
    (allowance_none_nonneg hl t0 hd)
  rw [allowance_none] at hbound
  have hlimiter := traceOf_congr
    (fun c => decide (c.key = key ∧ t0 ≤ (c.now : ℚ) ∧ (c.now : ℚ) ≤ t0 + d))
    (trace_eq_unswept hl hclock)
  have hkey := traceOf_key hl key (fun t => decide (t0 ≤ (t : ℚ) ∧ (t : ℚ) ≤ t0 + d)) newState calls
  simp only [decide_eq_true_eq] at hkey
  have hcell := cell_eq_bucket hl (fun t => decide (t0 ≤ t ∧ t ≤ t0 + d)) (b := none) htimes
    fun t _ => past_none t
  rw [lookup_new] at hkey
  unfold passed
  rw [hlimiter, hkey, hcell]
  exact hbound

end

theorem limiter_sound (l : IPLimiter) (hl : l.Enabled) (calls : List Call)
    (hclock : Clocked calls) :
    (∀ key b, ((limiter l).run newState calls).buckets.lookup key = some b →
        0 ≤ b.1 ∧ b.1 ≤ l.capacity) ∧ (∀ (key : String) (t₀ d : ℚ), 0 ≤ d →
        (passed l calls key t₀ d : ℚ) ≤ l.capacity + l.capacity * d / l.refill.ns) ∧
      (limiter l).trace newState calls = (unswept l).trace newState calls := by
  refine ⟨?_, fun key t₀ d hd => passed_le hl hclock key t₀ hd, trace_eq_unswept hl hclock⟩
  intro key b hb
  obtain ⟨t₀, hstart⟩ := hclock.exists_start
  obtain ⟨t, hpast⟩ := allPast_run hl hclock (allPast_new t₀) hstart
  obtain ⟨hlow, hup, -⟩ := hpast key b hb
  exact ⟨hlow, hup⟩

def oneAMinute : IPLimiter := newIPLimiter 1 minute

theorem limiter_sound_sample :
    (limiter oneAMinute).trace newState [⟨0, "a"⟩, ⟨1, "a"⟩, ⟨60000000000, "a"⟩] =
        [true, false, true] ∧
      (unswept oneAMinute).trace newState [⟨0, "a"⟩, ⟨1, "a"⟩, ⟨60000000000, "a"⟩] =
        [true, false, true] := by
  have hanswers : (limiter oneAMinute).trace newState
      [⟨0, "a"⟩, ⟨1, "a"⟩, ⟨60000000000, "a"⟩] = [true, false, true] := by
    with_unfolding_all decide
  have hsound := limiter_sound oneAMinute ⟨by decide, by decide⟩
    [⟨0, "a"⟩, ⟨1, "a"⟩, ⟨60000000000, "a"⟩] (by unfold Clocked; decide)
  exact ⟨hanswers, hsound.2.2 ▸ hanswers⟩

end FfxNexus.Limiter
