/-
**Replacing a text by another**, leftmost occurrences first.
-/
import Mathlib.Data.List.Infix

namespace FfxNexus.Replace
open List
variable {α : Type}

section
variable {q u v : List α} {a : α}

lemma prefix_cut (ha : a ∉ q) (h : q <+: u ++ a :: v) : q <+: u := by
  have hcut : u ++ [a] <+: u ++ a :: v := ⟨v, by simp⟩
  rcases prefix_or_prefix_of_prefix h hcut with hq | hq
  · rcases prefix_concat_iff.mp hq with rfl | hq
    · exact absurd (by simp) ha
    · exact hq
  · exact absurd (hq.subset (by simp)) ha

lemma infix_cut (ha : a ∉ q) (h : q <:+: u ++ a :: v) : q <:+: u ∨ q <:+: v := by
  induction u with
  | nil =>
    rcases infix_cons_iff.mp h with hq | hq
    · exact .inl (prefix_cut (u := []) ha hq).isInfix
    · exact .inr hq
  | cons c u ih =>
    rcases infix_cons_iff.mp h with hq | hq
    · exact .inl (prefix_cut (u := c :: u) ha hq).isInfix
    · exact (ih hq).imp_left fun hu => infix_cons_iff.mpr (.inr hu)

lemma suffix_cut (ha : a ∉ q) (h : q <:+ u ++ a :: v) : q <:+ v := by
  have hcut : q.reverse <+: v.reverse ++ a :: u.reverse := by
    simpa using reverse_prefix.mpr h
  have hrest := prefix_cut (by simpa using ha) hcut
  exact reverse_prefix.mp hrest

end

variable [DecidableEq α]

def replaceFrom (old new : List α) : ℕ → List α → List α
  | _, [] => []
  | n + 1, _ :: s => replaceFrom old new n s
  | 0, a :: s =>
    if old <+: a :: s then new ++ replaceFrom old new (old.length - 1) s
    else a :: replaceFrom old new 0 s

def replaceAll (s old new : List α) : List α := replaceFrom old new 0 s

def Apart (new q : List α) : Prop :=
  q ≠ [] ∧ ∃ a mid z, new = a :: (mid ++ [z]) ∧ a ∉ q ∧ z ∉ q ∧ ¬ q <:+: mid

variable {old new q s u v : List α} {n : ℕ}

omit [DecidableEq α] in
lemma Apart.infix_cases (h : Apart new q) (hq : q <:+: u ++ (new ++ v)) : q <:+: u ∨ q <:+: v := by
  obtain ⟨-, a, mid, z, rfl, ha, hz, hmid⟩ := h
  rw [cons_append, append_assoc] at hq
  rcases infix_cut ha hq with hu | hrest
  · exact .inl hu
  exact .inr ((infix_cut hz hrest).resolve_left hmid)

lemma infix_of_infix_replaceFrom (h : Apart new q) (hu : n = 0 ∨ u = [])
    (hq : q <:+: u ++ replaceFrom old new n s) : q <:+: u ++ s := by
  induction s generalizing n u with
  | nil => simpa only [replaceFrom] using hq
  | cons c s ih =>
    cases n with
    | succ n =>
      obtain rfl := hu.resolve_left (Nat.succ_ne_zero n)
      exact infix_cons_iff.mpr (.inr (ih (.inr rfl) hq))
    | zero =>
      rw [replaceFrom] at hq
      split_ifs at hq
      · rcases h.infix_cases hq with hu | hrest
        · exact hu.trans (prefix_append u _).isInfix
        · have hin := ih (u := []) (.inr rfl) hrest
          exact hin.trans ((suffix_cons c s).trans (suffix_append u _)).isInfix
      · rw [append_cons] at hq ⊢
        exact ih (.inl rfl) hq

lemma infix_of_infix_replaceAll (h : Apart new q) (hq : q <:+: replaceAll s old new) : q <:+: s :=
  infix_of_infix_replaceFrom (u := []) h (.inr rfl) hq

lemma not_infix_replaceFrom (h : Apart new old) (hu : n = 0 ∨ u = [])
    (hstart : ∀ t, t ≠ [] → t <:+ u → ¬ old <+: t ++ s) :
    ¬ old <:+: u ++ replaceFrom old new n s := by
  have hkept : ∀ {u s}, (∀ t, t ≠ [] → t <:+ u → ¬ old <+: t ++ s) → ¬ old <:+: u := by
    rintro u s hstart hold
    obtain ⟨t, hpre, hsuf⟩ := infix_iff_prefix_suffix.mp hold
    refine hstart t ?_ hsuf (hpre.trans (prefix_append t s))
    rintro rfl
    exact h.1 (prefix_nil.mp hpre)
  induction s generalizing n u with
  | nil =>
    simp only [replaceFrom, append_nil]
    exact hkept hstart
  | cons c s ih =>
    cases n with
    | succ n =>
      obtain rfl := hu.resolve_left (Nat.succ_ne_zero n)
      exact ih (.inr rfl) fun t hne ht => absurd (suffix_nil.mp ht) hne
    | zero =>
      rw [replaceFrom]
      split_ifs with hpre
      · intro hold
        rcases h.infix_cases hold with hu | hrest
        · exact hkept hstart hu
        · exact ih (u := []) (.inr rfl) (fun t hne ht => absurd (suffix_nil.mp ht) hne) hrest
      · rw [append_cons]
        refine ih (.inl rfl) fun t hne ht => ?_
        rcases suffix_concat_iff.mp ht with rfl | ⟨t', rfl, ht'⟩
        · exact absurd rfl hne
        rw [append_assoc, singleton_append]
        by_cases hnil : t' = []
        · rw [hnil]
          exact hpre
        · exact hstart t' hnil ht'

lemma not_infix_replaceAll (h : Apart new old) : ¬ old <:+: replaceAll s old new :=
  not_infix_replaceFrom (u := []) h (.inr rfl) fun _ hne ht => absurd (suffix_nil.mp ht) hne

lemma replaceAll_of_not_infix (h : ¬ old <:+: s) : replaceAll s old new = s := by
  unfold replaceAll
  induction s with
  | nil => rfl
  | cons c s ih =>
    have hs := mt (fun hq => infix_cons_iff.mpr (.inr hq)) h
    rw [replaceFrom, if_neg fun hpre => h hpre.isInfix, ih hs]

variable {olds : List (List α)}

lemma not_infix_foldl (h : Apart new q) (hq : q ∈ olds ∨ ¬ q <:+: s) :
    ¬ q <:+: olds.foldl (fun s old => replaceAll s old new) s := by
  induction olds generalizing s with
  | nil => exact hq.resolve_left not_mem_nil
  | cons old olds ih =>
    refine ih ?_
    rcases hq with hmem | hnot
    · rcases mem_cons.mp hmem with rfl | hmem
      · exact .inr (not_infix_replaceAll h)
      · exact .inl hmem
    · exact .inr fun hin => hnot (infix_of_infix_replaceAll h hin)

lemma foldl_of_not_infix (h : ∀ q ∈ olds, ¬ q <:+: s) :
    olds.foldl (fun s old => replaceAll s old new) s = s := by
  induction olds with
  | nil => rfl
  | cons old olds ih =>
    obtain ⟨hold, holds⟩ := forall_mem_cons.mp h
    rw [foldl_cons, replaceAll_of_not_infix hold, ih holds]

lemma foldl_eq_self_iff (hnew : ∀ q ∈ olds, Apart new q) :
    olds.foldl (fun s old => replaceAll s old new) s = s ↔ ∀ q ∈ olds, ¬ q <:+: s := by
  refine ⟨fun heq q hq => ?_, foldl_of_not_infix⟩
  rw [← heq]
  exact not_infix_foldl (hnew q hq) (.inl hq)

/-! ## Cutting a text

A text may be cut wherever no occurrence lies across the cut: the parts are then replaced each on
its own, and what stands in for an occurrence cannot make a new one. -/

def Uncrossed (q s t : List α) : Prop :=
  ∀ i < q.length, 0 < i → ¬ (q.take i <:+ s ∧ q.drop i <+: t)

instance (q s t : List α) : Decidable (Uncrossed q s t) := by
  unfold Uncrossed
  infer_instance

variable {t : List α}

lemma prefix_of_prefix_replaceAll {a : α} {mid : List α} (ha : a ∉ q)
    (hq : q <+: replaceAll t old (a :: mid)) : q <+: t := by
  unfold replaceAll at hq
  induction t generalizing q with
  | nil => exact hq
  | cons c t ih =>
    rw [replaceFrom] at hq
    cases q with
    | nil => exact nil_prefix
    | cons b q =>
      obtain ⟨hb, hrest⟩ := not_or.mp (mem_cons.not.mp ha)
      split_ifs at hq
      · exact absurd (cons_prefix_cons.mp hq).1.symm hb
      · obtain ⟨rfl, htail⟩ := cons_prefix_cons.mp hq
        exact cons_prefix_cons.mpr ⟨rfl, ih hrest htail⟩

lemma suffix_of_suffix_replaceFrom {z : α} {mid : List α} (hz : z ∉ q) (hu : n = 0 ∨ u = [])
    (hq : q <:+ u ++ replaceFrom old (mid ++ [z]) n s) : q <:+ u ++ s := by
  induction s generalizing n u with
  | nil => simpa only [replaceFrom] using hq
  | cons c s ih =>
    cases n with
    | succ n =>
      obtain rfl := hu.resolve_left (Nat.succ_ne_zero n)
      exact (ih (.inr rfl) hq).trans (suffix_cons c s)
    | zero =>
      rw [replaceFrom] at hq
      split_ifs at hq
      · have hcut : q <:+ (u ++ mid) ++ z :: replaceFrom old (mid ++ [z]) (old.length - 1) s := by
          simpa using hq
        have hrest := ih (u := []) (.inr rfl) (suffix_cut hz hcut)
        exact hrest.trans ((suffix_cons c s).trans (suffix_append u _))
      · rw [append_cons] at hq ⊢
        exact ih (.inl rfl) hq

lemma Uncrossed.replaceAll (hnew : Apart new q) (h : Uncrossed q s t) :
    Uncrossed q (replaceAll s old new) (replaceAll t old new) := by
  obtain ⟨-, a, mid, z, rfl, ha, hz, -⟩ := hnew
  rintro i hi hpos ⟨hsuf, hpre⟩
  refine h i hi hpos ⟨?_, ?_⟩
  · rw [← cons_append] at hsuf
    exact suffix_of_suffix_replaceFrom (u := []) (fun hmem => hz (mem_of_mem_take hmem)) (.inr rfl)
      hsuf
  · exact prefix_of_prefix_replaceAll (fun hmem => ha (mem_of_mem_drop hmem)) hpre

end FfxNexus.Replace
