/-
**Smooth weighted round-robin**, over any finite set of members and any rule that picks a member
with the greatest running weight.
-/
import Mathlib.Algebra.BigOperators.Ring.Finset
import Mathlib.Algebra.Order.BigOperators.Group.Finset
import Mathlib.Data.Fintype.BigOperators
import Mathlib.Tactic.Linarith
import Mathlib.Tactic.Ring

open List Finset

namespace FfxNexus.Swrr

structure Scheme (ι : Type) [Fintype ι] where
  weight : ι → ℕ
  pick : (ι → ℤ) → ι
  pick_max : ∀ (c : ι → ℤ) (i : ι), c i ≤ c (pick c)
  total_pos : 0 < ∑ i, weight i

namespace Scheme
variable {ι : Type} [Fintype ι] (S : Scheme ι)

def total : ℕ := ∑ i, S.weight i

def raise (c : ι → ℤ) : ι → ℤ := fun i => c i + S.weight i

def chosen (c : ι → ℤ) : ι := S.pick (S.raise c)

lemma total_pos' : (0 : ℤ) < S.total := by
  have h := S.total_pos
  exact_mod_cast h

variable (c : ι → ℤ)

lemma sum_raise : ∑ i, S.raise c i = ∑ i, c i + S.total := by
  unfold raise total
  rw [sum_add_distrib]
  push_cast
  rfl

structure Balanced (c : ι → ℤ) : Prop where
  sum_eq : ∑ i, c i = 0
  lower : ∀ i, -(S.total : ℤ) < c i

lemma balanced_zero : S.Balanced 0 := by
  refine ⟨by simp, fun i => ?_⟩
  have h := S.total_pos'
  simp only [Pi.zero_apply]
  omega

lemma raise_chosen_pos {c : ι → ℤ} (h : S.Balanced c) : 0 < S.raise c (S.chosen c) := by
  by_contra hle
  rw [not_lt] at hle
  have hall : ∀ i ∈ univ, S.raise c i ≤ 0 := by
    intro i _
    exact le_trans (S.pick_max (S.raise c) i) hle
  have hsum : ∑ i, S.raise c i ≤ 0 := sum_nonpos hall
  rw [sum_raise, h.sum_eq] at hsum
  have hpos := S.total_pos'
  omega

variable [DecidableEq ι]

def round (c : ι → ℤ) : ι → ℤ :=
  fun i => if i = S.chosen c then S.raise c i - S.total else S.raise c i

def choices : (ι → ℤ) → ℕ → List ι
  | _, 0 => []
  | c, k + 1 => S.chosen c :: choices (S.round c) k

variable (k : ℕ)

@[simp] lemma length_choices : (S.choices c k).length = k := by
  induction k generalizing c with
  | zero => rfl
  | succ k ih => rw [choices, length_cons, ih]

lemma take_drop_choices {k t m : ℕ} (h : k + t ≤ m) :
    ((S.choices c m).drop k).take t = S.choices (S.round^[k] c) t := by
  induction k generalizing c m with
  | zero =>
    rw [drop_zero, Function.iterate_zero, id_eq]
    induction t generalizing c m with
    | zero => rfl
    | succ t ih =>
      obtain ⟨m, rfl⟩ : ∃ m', m = m' + 1 := ⟨m - 1, by omega⟩
      rw [choices, choices, take_succ_cons, ih _ (by omega)]
  | succ k ih =>
    obtain ⟨m, rfl⟩ : ∃ m', m = m' + 1 := ⟨m - 1, by omega⟩
    rw [choices, drop_succ_cons, ih _ (by omega),
      Function.iterate_succ_apply]

lemma sum_count_choices : ∑ i, (S.choices c k).count i = k := by
  have hsum := sum_toFinset_count_eq_length (S.choices c k)
  rw [length_choices] at hsum
  refine Eq.trans (sum_subset (subset_univ _) ?_).symm hsum
  intro i _ hi
  rw [mem_toFinset] at hi
  exact count_eq_zero.mpr hi

variable (i : ι)

lemma iterate_round :
    S.round^[k] c i = c i + k * S.weight i - S.total * (S.choices c k).count i := by
  induction k generalizing c with
  | zero => simp [choices]
  | succ k ih =>
    rw [Function.iterate_succ_apply, ih, choices]
    by_cases hi : i = S.chosen c
    · have hround : S.round c i = c i + S.weight i - S.total := if_pos hi
      rw [hround, ← hi, count_cons_self]
      push_cast
      ring
    · have hround : S.round c i = c i + S.weight i := if_neg hi
      rw [hround, count_cons_of_ne (Ne.symm hi)]
      push_cast
      ring

lemma balanced_round {c : ι → ℤ} (h : S.Balanced c) : S.Balanced (S.round c) := by
  constructor
  · have hsplit : ∀ i, S.round c i = S.raise c i - if i = S.chosen c then (S.total : ℤ) else 0 := by
      intro i
      unfold round
      by_cases hi : i = S.chosen c
      · rw [if_pos hi, if_pos hi]
      · rw [if_neg hi, if_neg hi, sub_zero]
    rw [sum_congr rfl fun i _ => hsplit i, sum_sub_distrib, sum_raise, h.sum_eq,
      sum_ite_eq']
    simp
  · intro i
    unfold round
    by_cases hi : i = S.chosen c
    · have hpos := S.raise_chosen_pos h
      rw [if_pos hi, hi]
      omega
    have hlow := h.lower i
    rw [if_neg hi]
    unfold raise
    omega

lemma balanced_iterate {c : ι → ℤ} (h : S.Balanced c) (k : ℕ) : S.Balanced (S.round^[k] c) := by
  induction k generalizing c with
  | zero => exact h
  | succ k ih =>
    exact ih (S.balanced_round h)

lemma Balanced.upper {S : Scheme ι} {c : ι → ℤ} (h : S.Balanced c) (i : ι) :
    c i ≤ S.total * (Fintype.card ι - 1 : ℕ) := by
  have hrest : -(∑ j ∈ Finset.univ.erase i, (S.total : ℤ)) ≤ ∑ j ∈ Finset.univ.erase i, c j := by
    rw [← Finset.sum_neg_distrib]
    apply Finset.sum_le_sum
    intro j _
    exact le_of_lt (h.lower j)
  have hsum := Finset.add_sum_erase Finset.univ c (Finset.mem_univ i)
  rw [h.sum_eq] at hsum
  rw [Finset.sum_const, Finset.card_erase_of_mem (Finset.mem_univ i), Finset.card_univ,
    nsmul_eq_mul, mul_comm] at hrest
  linarith

lemma count_choices_le : (S.choices 0 S.total).count i ≤ S.weight i := by
  have hlow := (S.balanced_iterate S.balanced_zero S.total).lower i
  rw [S.iterate_round, Pi.zero_apply, zero_add, ← mul_sub] at hlow
  have hpos := S.total_pos'
  have hlt : (-1 : ℤ) < S.weight i - (S.choices 0 S.total).count i := by
    apply lt_of_mul_lt_mul_left _ (le_of_lt hpos)
    linarith
  omega

lemma count_choices_total : (S.choices 0 S.total).count i = S.weight i := by
  have hle : ∀ j ∈ univ, (S.choices 0 S.total).count j ≤ S.weight j :=
    fun j _ => S.count_choices_le j
  have hsum : ∑ j, (S.choices 0 S.total).count j = ∑ j, S.weight j := S.sum_count_choices 0 S.total
  exact (sum_eq_sum_iff_of_le hle).mp hsum i (mem_univ i)

lemma iterate_round_total : S.round^[S.total] 0 = 0 := by
  funext i
  rw [S.iterate_round, S.count_choices_total]
  simp

lemma periodic : S.round^[S.total] (S.round^[k] 0) = S.round^[k] 0 := by
  rw [← Function.iterate_add_apply, Nat.add_comm, Function.iterate_add_apply, S.iterate_round_total]

lemma iterate_round_mul_total (m : ℕ) : S.round^[m * S.total] 0 = 0 := by
  induction m with
  | zero => simp
  | succ m ih =>
    rw [Nat.succ_mul, Function.iterate_add_apply, S.iterate_round_total, ih]

lemma count_choices_window : (S.choices (S.round^[k] 0) S.total).count i = S.weight i := by
  have hdrift := S.iterate_round (S.round^[k] 0) S.total i
  rw [S.periodic] at hdrift
  have hpos := S.total_pos'
  have heq : (S.total : ℤ) * S.weight i =
      S.total * (S.choices (S.round^[k] 0) S.total).count i := by
    linarith
  have hcancel := mul_left_cancel₀ (ne_of_gt hpos) heq
  exact_mod_cast hcancel.symm

end Scheme

end FfxNexus.Swrr
