/-
**Token buckets**, over any ordered field.
-/
import FfxNexus.Machine
import Mathlib.Algebra.Order.Field.Basic

namespace FfxNexus.TokenBucket

structure Bucket (K : Type) where
  tokens : K
  last : K

structure Rule (K : Type) [Field K] [LinearOrder K] where
  capacity : K
  rate : K
  capacity_pos : 1 ≤ capacity
  rate_nonneg : 0 ≤ rate

namespace Rule
variable {K : Type} [Field K] [LinearOrder K] (r : Rule K)

def level (b : Option (Bucket K)) (t : K) : K :=
  match b with
  | none => r.capacity
  | some b => min (b.tokens + (t - b.last) * r.rate) r.capacity

def ask (b : Option (Bucket K)) (t : K) : Bucket K × Bool :=
  if r.level b t < 1 then (⟨r.level b t, t⟩, false) else (⟨r.level b t - 1, t⟩, true)

def bucket : Machine (Option (Bucket K)) K Bool where
  step b t := (some (r.ask b t).1, (r.ask b t).2)

def Fits (b : Option (Bucket K)) (t : K) : Prop :=
  ∀ b' ∈ b, 0 ≤ b'.tokens ∧ b'.tokens ≤ r.capacity ∧ b'.last ≤ t

variable {r}
variable {b : Option (Bucket K)} {t : K}

lemma Fits.mono {t' : K} (h : r.Fits b t) (ht : t ≤ t') : r.Fits b t' := by
  intro b' hb'
  obtain ⟨hlow, hup, hlast⟩ := h b' hb'
  exact ⟨hlow, hup, le_trans hlast ht⟩

lemma level_le (b : Option (Bucket K)) (t : K) : r.level b t ≤ r.capacity := by
  cases b with
  | none => exact le_refl _
  | some b => exact min_le_right _ _

def allowance (r : Rule K) (t₀ t₁ : K) (b : Option (Bucket K)) : K :=
  match b with
  | none => r.capacity + (t₁ - t₀) * r.rate
  | some b =>
    if b.last < t₀ then r.capacity + (t₁ - t₀) * r.rate
    else b.tokens + (t₁ - b.last) * r.rate

lemma ask_last (b : Option (Bucket K)) (t : K) : (r.ask b t).1.last = t := by
  unfold ask
  split <;> rfl

variable {t₀ t₁ : K}

lemma allowance_ask_before (h : r.Fits b t) (ht : t < t₀) :
    r.allowance t₀ t₁ (some (r.ask b t).1) = r.allowance t₀ t₁ b := by
  have hafter : r.allowance t₀ t₁ (some (r.ask b t).1) = r.capacity + (t₁ - t₀) * r.rate := by
    unfold allowance
    dsimp only
    rw [ask_last, if_pos ht]
  rw [hafter]
  cases b with
  | none => rfl
  | some b =>
    obtain ⟨-, -, hbefore⟩ := h b rfl
    unfold allowance
    dsimp only
    rw [if_pos (lt_of_le_of_lt hbefore ht)]

variable [IsStrictOrderedRing K]

lemma level_nonneg (h : r.Fits b t) : 0 ≤ r.level b t := by
  have hcap : 0 ≤ r.capacity := le_trans zero_le_one r.capacity_pos
  cases b with
  | none => exact hcap
  | some b =>
    obtain ⟨hlow, -, hlast⟩ := h b rfl
    apply le_min _ hcap
    have hgain : 0 ≤ (t - b.last) * r.rate :=
      mul_nonneg (sub_nonneg.mpr hlast) r.rate_nonneg
    linarith

lemma fits_ask (h : r.Fits b t) : r.Fits (some (r.ask b t).1) t := by
  have hlow := level_nonneg h
  have hup := level_le (r := r) b t
  intro b' hb'
  rw [Option.mem_def, Option.some.injEq] at hb'
  subst hb'
  unfold ask
  split_ifs with hempty
  · exact ⟨hlow, hup, le_refl t⟩
  refine ⟨?_, ?_, le_refl t⟩
  · linarith
  · linarith

lemma level_of_rested {b : Bucket K} (hlow : 0 ≤ b.tokens)
    (hrest : r.capacity ≤ (t - b.last) * r.rate) : r.level (some b) t = r.capacity := by
  apply min_eq_right
  linarith

lemma allowance_ask (b : Option (Bucket K)) (h0 : t₀ ≤ t) :
    (if (r.ask b t).2 = true then 1 else 0) + r.allowance t₀ t₁ (some (r.ask b t).1) ≤
      r.allowance t₀ t₁ b := by
  have hafter : (if (r.ask b t).2 = true then 1 else 0) + r.allowance t₀ t₁ (some (r.ask b t).1) =
      r.level b t + (t₁ - t) * r.rate := by
    have hlast : ¬ t < t₀ := not_lt.mpr h0
    unfold ask allowance
    by_cases hempty : r.level b t < 1
    · rw [if_pos hempty]
      dsimp only
      rw [if_neg hlast, if_neg Bool.false_ne_true]
      ring
    · rw [if_neg hempty]
      dsimp only
      rw [if_neg hlast, if_pos rfl]
      ring
  have hfull : r.level b t + (t₁ - t) * r.rate ≤ r.capacity + (t₁ - t₀) * r.rate := by
    have hlevel := level_le (r := r) b t
    have hgain : (t₁ - t) * r.rate ≤ (t₁ - t₀) * r.rate :=
      mul_le_mul_of_nonneg_right (by linarith) r.rate_nonneg
    linarith
  rw [hafter]
  cases b with
  | none => exact hfull
  | some b =>
    unfold allowance
    dsimp only
    split_ifs with hbefore
    · exact hfull
    · have hlevel : r.level (some b) t ≤ b.tokens + (t - b.last) * r.rate := min_le_left _ _
      linarith

lemma allowance_nonneg (h : r.Fits b t) (h0 : t₀ ≤ t) (h1 : t ≤ t₁) :
    0 ≤ r.allowance t₀ t₁ (some (r.ask b t).1) := by
  obtain ⟨hlow, -, -⟩ := fits_ask h _ rfl
  have hgain : 0 ≤ (t₁ - t) * r.rate := mul_nonneg (sub_nonneg.mpr h1) r.rate_nonneg
  unfold allowance
  dsimp only
  rw [ask_last, if_neg (not_lt.mpr h0)]
  linarith

lemma count_grants_le {ts : List K} (hts : ts.Pairwise (· ≤ ·)) (h : ∀ t ∈ ts, r.Fits b t)
    (hallow : 0 ≤ r.allowance t₀ t₁ b) :
    (((bucket r).traceOf (fun t => t₀ ≤ t ∧ t ≤ t₁) b ts).count true : K) ≤
      r.allowance t₀ t₁ b := by
  induction ts generalizing b with
  | nil =>
    rw [Machine.traceOf, List.count_nil, Nat.cast_zero]
    exact hallow
  | cons t ts ih =>
    obtain ⟨hfirst, hrest⟩ := List.pairwise_cons.mp hts
    have hfits := h t List.mem_cons_self
    have hnext : ∀ t' ∈ ts, r.Fits (some (r.ask b t).1) t' :=
      fun t' ht' => (fits_ask hfits).mono (hfirst t' ht')
    rcases lt_or_ge t t₀ with hbefore | h0
    · have hout : ¬ (t₀ ≤ t ∧ t ≤ t₁) := fun hin => absurd hin.1 (not_le.mpr hbefore)
      have hkeep : r.allowance t₀ t₁ (some (r.ask b t).1) = r.allowance t₀ t₁ b :=
        allowance_ask_before hfits hbefore
      rw [Machine.traceOf, if_neg (by rw [decide_eq_true_eq]; exact hout), ← hkeep]
      exact ih hrest hnext (le_of_le_of_eq hallow hkeep.symm)
    · rcases le_or_gt t t₁ with h1 | hafter
      · have hin : t₀ ≤ t ∧ t ≤ t₁ := ⟨h0, h1⟩
        have hpay : (if (r.ask b t).2 = true then 1 else 0) +
            r.allowance t₀ t₁ (some (r.ask b t).1) ≤ r.allowance t₀ t₁ b := allowance_ask b h0
        have htail := ih hrest hnext (allowance_nonneg hfits h0 h1)
        rw [Machine.traceOf, if_pos (by rw [decide_eq_true_eq]; exact hin), List.count_cons]
        have hstep : (bucket r).step b t = (some (r.ask b t).1, (r.ask b t).2) := rfl
        rw [hstep]
        refine le_trans ?_ hpay
        rw [Nat.cast_add, add_comm]
        apply add_le_add _ htail
        cases (r.ask b t).2 <;> simp
      · -- the interval is over, for all that follow too
        have hout : ∀ t' ∈ t :: ts, decide (t₀ ≤ t' ∧ t' ≤ t₁) = false := by
          intro t' ht'
          rw [decide_eq_false_iff_not]
          rintro ⟨-, hle⟩
          rcases List.mem_cons.mp ht' with rfl | ht'
          · exact absurd hle (not_le.mpr hafter)
          · exact absurd hle (not_le.mpr (lt_of_lt_of_le hafter (hfirst t' ht')))
        rw [Machine.traceOf_eq_nil _ _ hout, List.count_nil, Nat.cast_zero]
        exact hallow

end Rule

end FfxNexus.TokenBucket
