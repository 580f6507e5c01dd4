/-
**Lists cut at separators**: the groups of elements that stand between separators, and a machine
that collects them one element at a time.
-/
import Mathlib.Data.List.Basic
import Mathlib.Data.List.Induction

namespace FfxNexus.Separated
open List
variable {α : Type} (sep : α → Bool)

variable (l : List α)

def groups : List (List α) := (l.splitOnP sep).filter (!·.isEmpty)

def closed : List (List α) := (l.splitOnP sep).dropLast.filter (!·.isEmpty)

def trailing : List α := (l.splitOnP sep).getLastD []

def collect (st : List (List α) × List α) (a : α) : List (List α) × List α :=
  if sep a then (if st.2.isEmpty then st.1 else st.1 ++ [st.2], []) else (st.1, st.2 ++ [a])

variable {sep}

lemma of_mem_splitOnP {l g : List α} {a : α} (hg : g ∈ l.splitOnP sep) (ha : a ∈ g) :
    a ∈ l ∧ sep a = false := by
  induction l generalizing g with
  | nil =>
    obtain rfl : g = [] := by simpa using hg
    cases ha
  | cons x l ih =>
    have hlater {g : List α} (hg : g ∈ l.splitOnP sep) (ha : a ∈ g) : a ∈ x :: l ∧ sep a = false :=
      ⟨mem_cons_of_mem x (ih hg ha).1, (ih hg ha).2⟩
    rw [splitOnP_cons_eq_if_modifyHead] at hg
    cases hx : sep x with
    | true =>
      rw [if_pos hx] at hg
      rcases mem_cons.mp hg with rfl | h
      · cases ha
      · exact hlater h ha
    | false =>
      rw [if_neg (by simp [hx])] at hg
      obtain ⟨first, rest, heq⟩ := exists_cons_of_ne_nil (splitOnP_ne_nil sep l)
      rw [heq, modifyHead_cons] at hg
      rw [heq] at hlater
      rcases mem_cons.mp hg with rfl | h
      · rcases mem_cons.mp ha with rfl | h'
        · exact ⟨mem_cons_self, hx⟩
        · exact hlater mem_cons_self h'
      · exact hlater (mem_cons_of_mem _ h) ha

lemma sep_of_mem_splitOnP {l g : List α} {a : α} (hg : g ∈ l.splitOnP sep) (ha : a ∈ g) :
    sep a = false := (of_mem_splitOnP hg ha).2

lemma groups_eq :
    groups sep l = closed sep l ++ if (trailing sep l).isEmpty then [] else [trailing sep l] := by
  obtain ⟨init, last, heq⟩ : ∃ init last, l.splitOnP sep = init ++ [last] :=
    ⟨_, _, (dropLast_concat_getLast (splitOnP_ne_nil sep l)).symm⟩
  unfold groups closed trailing
  rw [heq, filter_append, dropLast_concat, getLastD_concat]
  cases last with
  | nil => simp
  | cons a last => simp

lemma foldl_collect_from (sent : List (List α)) {cur : List α}
    (hcur : ∀ a ∈ cur, sep a = false) : l.foldl (collect sep) (sent, cur) =
      (sent ++ closed sep (cur ++ l), trailing sep (cur ++ l)) := by
  induction l generalizing sent cur with
  | nil =>
    have hone : (cur ++ []).splitOnP sep = [cur] := by
      rw [append_nil]
      exact splitOnP_eq_singleton hcur
    rw [closed, trailing, hone]
    simp
  | cons a l ih =>
    rw [foldl_cons]
    cases ha : sep a with
    | true =>
      have hsplit : (cur ++ a :: l).splitOnP sep = cur :: l.splitOnP sep :=
        splitOnP_append_cons_of_forall_mem hcur a ha l
      obtain ⟨g, gs, hrest⟩ := exists_cons_of_ne_nil (splitOnP_ne_nil sep l)
      have hstep : collect sep (sent, cur) a =
          (if cur.isEmpty then sent else sent ++ [cur], []) := by
        simp [collect, ha]
      rw [hstep, ih _ (by simp), nil_append, closed, closed, trailing, trailing, hsplit,
        hrest, dropLast_cons_cons, getLastD_cons, getLastD_cons, getLastD_cons]
      cases cur <;> simp
    | false =>
      have hstep : collect sep (sent, cur) a = (sent, cur ++ [a]) := by
        simp [collect, ha]
      have hcur' : ∀ b ∈ cur ++ [a], sep b = false := by
        intro b hb
        rcases mem_append.mp hb with h | h
        · exact hcur b h
        · rw [mem_singleton.mp h]
          exact ha
      rw [hstep, ih _ hcur', append_assoc]
      rfl

lemma foldl_collect :
    l.foldl (collect sep) ([], []) = (closed sep l, trailing sep l) :=
  foldl_collect_from l [] (by simp)

variable (sep) in
lemma collected_concat (a : α) : (closed sep (l ++ [a]), trailing sep (l ++ [a])) =
      collect sep (closed sep l, trailing sep l) a := by
  rw [← foldl_collect, ← foldl_collect, foldl_append]
  rfl

lemma trailing_eq_nil_iff {l : List α} :
    trailing sep l = [] ↔ ∀ a, l.getLast? = some a → sep a = true := by
  induction l using reverseRecOn with
  | nil => simp [trailing]
  | append_singleton l a _ =>
    have hkept := congrArg Prod.snd (collected_concat sep l a)
    cases ha : sep a with
    | true => simpa [collect, ha] using hkept
    | false =>
      simp only [collect, ha] at hkept
      simp [hkept, ha]

variable (sep) in
lemma mem_of_collected :
    (∀ g ∈ closed sep l, ∀ a ∈ g, a ∈ l) ∧ ∀ a ∈ trailing sep l, a ∈ l := by
  induction l using reverseRecOn with
  | nil => simp [closed, trailing]
  | append_singleton l a ih =>
    obtain ⟨ihclosed, ihkept⟩ := ih
    have hgroups : ∀ g ∈ closed sep l, ∀ x ∈ g, x ∈ l ++ [a] :=
      fun g hg x hx => mem_append_left _ (ihclosed g hg x hx)
    have htail : ∀ x ∈ trailing sep l, x ∈ l ++ [a] :=
      fun x hx => mem_append_left _ (ihkept x hx)
    have hcollected := collected_concat sep l a
    cases ha : sep a with
    | true =>
      rw [collect, if_pos ha] at hcollected
      obtain ⟨hclosed, hkept⟩ := Prod.mk.inj hcollected
      rw [hclosed, hkept]
      refine ⟨?_, by simp⟩
      intro g hg
      split at hg
      · exact hgroups g hg
      rcases mem_append.mp hg with h | h
      · exact hgroups g h
      · rw [mem_singleton.mp h]
        exact htail
    | false =>
      rw [collect, if_neg (by simp [ha])] at hcollected
      obtain ⟨hclosed, hkept⟩ := Prod.mk.inj hcollected
      rw [hclosed, hkept]
      refine ⟨hgroups, ?_⟩
      intro x hx
      rcases mem_append.mp hx with h | h
      · exact htail x h
      · exact mem_append_right _ h

lemma closed_append_cons {g : List α} {a : α} (hg : ∀ x ∈ g, sep x = false) (hne : g ≠ [])
    (ha : sep a = true) (l : List α) : closed sep (g ++ a :: l) = g :: closed sep l := by
  have hfirst : (!g.isEmpty) = true := by simpa using hne
  unfold closed
  rw [splitOnP_append_cons_of_forall_mem hg a ha,
    dropLast_cons_of_ne_nil (splitOnP_ne_nil sep l), filter_cons, if_pos hfirst]

lemma ne_nil_of_mem_closed {l g : List α} (hg : g ∈ closed sep l) : g ≠ [] := by
  have := (mem_filter.mp hg).2
  simpa using this

end FfxNexus.Separated
