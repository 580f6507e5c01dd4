/-
**The longest common subsequence** of ROUGE-L (`longestCommonSubsequence` of
`internal/evaluators/heuristic/local.go`), on runes.
-/
import Mathlib.Order.Bounds.Basic
import Mathlib.Data.List.Infix

namespace FfxNexus.Evals.RougeL
open List
variable {α : Type}

section
variable [DecidableEq α]

def fillRow (x : α) (prev : ℕ → ℕ) : ℕ → List α → (ℕ → ℕ) → ℕ → ℕ
  | _, [], cur => cur
  | j, y :: ys, cur =>
    fillRow x prev (j + 1) ys (Function.update cur (j + 1) (if x = y then prev j + 1
      else if cur j > prev (j + 1) then cur j
      else prev (j + 1)))

def fillRows (br : List α) : List α → (ℕ → ℕ) → (ℕ → ℕ) → ℕ → ℕ
  | [], prev, _ => prev
  | x :: xs, prev, cur => fillRows br xs (fillRow x prev 0 br cur) fun _ => 0

def longestCommonSubsequence (a b : String) : ℕ :=
  let ar := a.toList
  let br := b.toList
  if ar.length = 0 ∨ br.length = 0 then 0
  else fillRows br ar (fun _ => 0) (fun _ => 0) br.length

end

def Longest (a b : List α) (n : ℕ) : Prop :=
  IsGreatest {n | ∃ c, c <+ a ∧ c <+ b ∧ c.length = n} n

variable {a b : List α} {x y : α} {m n : ℕ}

lemma longest_nil_left (b : List α) : Longest [] b 0 := by
  refine ⟨⟨[], nil_sublist _, nil_sublist _, rfl⟩, ?_⟩
  rintro n ⟨c, hc, -, rfl⟩
  rw [sublist_nil.mp hc, length_nil]

lemma longest_nil_right (a : List α) : Longest a [] 0 := by
  refine ⟨⟨[], nil_sublist _, nil_sublist _, rfl⟩, ?_⟩
  rintro n ⟨c, -, hc, rfl⟩
  rw [sublist_nil.mp hc, length_nil]

lemma sublist_concat_cases {c : List α} (h : c <+ a ++ [x]) :
    c <+ a ∨ ∃ d, c = d ++ [x] ∧ d <+ a := by
  obtain ⟨d, e, rfl, hd, he⟩ := sublist_append_iff.mp h
  rcases sublist_singleton.mp he with rfl | rfl
  · rw [append_nil]
    exact .inl hd
  · exact .inr ⟨d, rfl, hd⟩

lemma dropLast_sublist_of_concat {c : List α} (h : c <+ a ++ [x]) : c.dropLast <+ a := by
  rcases sublist_concat_cases h with hc | ⟨d, rfl, hd⟩
  · exact (dropLast_sublist c).trans hc
  · rw [dropLast_concat]
    exact hd

lemma Longest.concat_same (h : Longest a b n) : Longest (a ++ [x]) (b ++ [x]) (n + 1) := by
  obtain ⟨⟨c, hca, hcb, hlen⟩, hbound⟩ := h
  constructor
  · exact ⟨c ++ [x], hca.append_right _, hcb.append_right _, by rw [length_append, hlen]; rfl⟩
  rintro k ⟨d, hda, hdb, rfl⟩
  have hle := hbound ⟨d.dropLast, dropLast_sublist_of_concat hda,
    dropLast_sublist_of_concat hdb, rfl⟩
  rw [length_dropLast] at hle
  omega

lemma Longest.concat_ne (hne : x ≠ y) (hleft : Longest (a ++ [x]) b m)
    (hup : Longest a (b ++ [y]) n) : Longest (a ++ [x]) (b ++ [y]) (max m n) := by
  constructor
  · rcases le_total n m with hle | hle
    · obtain ⟨c, hca, hcb, hlen⟩ := hleft.1
      exact ⟨c, hca, hcb.trans (sublist_append_left _ _), by rw [hlen, max_eq_left hle]⟩
    · obtain ⟨c, hca, hcb, hlen⟩ := hup.1
      exact ⟨c, hca.trans (sublist_append_left _ _), hcb, by rw [hlen, max_eq_right hle]⟩
  rintro k ⟨c, hca, hcb, rfl⟩
  rcases sublist_concat_cases hca with hc | ⟨d, rfl, -⟩
  · exact (hup.2 ⟨c, hc, hcb, rfl⟩).trans (le_max_right _ _)
  rcases sublist_concat_cases hcb with hc | ⟨e, heq, -⟩
  · exact (hleft.2 ⟨_, hca, hc, rfl⟩).trans (le_max_left _ _)
  · exact absurd (by simpa using (append_inj' heq rfl).2) hne

variable {prev cur : ℕ → ℕ} {br : List α}

def Filled (br a : List α) (row : ℕ → ℕ) (j : ℕ) : Prop :=
  ∀ k ≤ j, Longest a (br.take k) (row k)

lemma filled_zero (br a : List α) : Filled br a (fun _ => 0) 0 := by
  intro k hk
  rw [Nat.le_zero.mp hk, take_zero]
  exact longest_nil_right a

variable [DecidableEq α]

lemma filled_fillRow (hprev : Filled br a prev br.length) {ys : List α} {j : ℕ}
    (hys : br.drop j = ys) (hj : j ≤ br.length) (hcur : Filled br (a ++ [x]) cur j) :
    Filled br (a ++ [x]) (fillRow x prev j ys cur) br.length := by
  induction ys generalizing j cur with
  | nil => exact fun k hk => hcur k (hk.trans (drop_eq_nil_iff.mp hys))
  | cons y ys ih =>
    have hlt : j < br.length := by
      by_contra hge
      rw [drop_eq_nil_of_le (not_lt.mp hge)] at hys
      cases hys
    have hdrop : br.drop (j + 1) = ys := by rw [← tail_drop, hys, tail_cons]
    have htake : br.take (j + 1) = br.take j ++ [y] := by
      have hget : br[j] = y := by
        rw [drop_eq_getElem_cons hlt] at hys
        exact (cons.inj hys).1
      rw [← take_concat_get' br j hlt, hget]
    refine ih hdrop hlt fun k hk => ?_
    by_cases hk' : k = j + 1
    · subst hk'
      rw [Function.update_self, htake]
      by_cases hxy : x = y
      · rw [if_pos hxy, ← hxy]
        exact (hprev j hj).concat_same
      · have hup := hprev (j + 1) hlt
        rw [htake] at hup
        have hmax := Longest.concat_ne hxy (hcur j le_rfl) hup
        split_ifs with hlt'
        · rwa [max_eq_left (le_of_lt hlt')] at hmax
        · rwa [max_eq_right (not_lt.mp hlt')] at hmax
    · rw [Function.update_of_ne hk']
      exact hcur k (by omega)

lemma filled_fillRows (xs : List α) (hprev : Filled br a prev br.length)
    (hcur : cur = fun _ => 0) : Filled br (a ++ xs) (fillRows br xs prev cur) br.length := by
  induction xs generalizing a prev cur with
  | nil =>
    rw [append_nil]
    exact hprev
  | cons x xs ih =>
    have hzero : Filled br (a ++ [x]) cur 0 := hcur ▸ filled_zero br (a ++ [x])
    have hrow := filled_fillRow hprev drop_zero (Nat.zero_le _) hzero
    rw [append_cons]
    exact ih hrow rfl

theorem longestCommonSubsequence_longest (a b : String) :
    IsGreatest {n | ∃ c, c <+ a.toList ∧ c <+ b.toList ∧ c.length = n}
      (longestCommonSubsequence a b) := by
  unfold longestCommonSubsequence
  dsimp only
  split_ifs with hempty
  · rcases hempty with ha | hb
    · rw [length_eq_zero_iff.mp ha]
      exact longest_nil_left _
    · rw [length_eq_zero_iff.mp hb]
      exact longest_nil_right _
  · have hzero : Filled b.toList [] (fun _ => 0) b.toList.length := fun k _ => longest_nil_left _
    have hfilled := filled_fillRows a.toList hzero rfl
    have hlast := hfilled b.toList.length le_rfl
    rwa [nil_append, take_length] at hlast

end FfxNexus.Evals.RougeL
