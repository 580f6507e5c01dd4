/-
**Lists sorted by a key**: what is first in such a list, and when a part of it is the same part of
another one.
-/
import Mathlib.Data.List.Sort

open List

namespace FfxNexus.Sorting
variable {α κ : Type} [LinearOrder κ] {r : α → α → Prop} {key : α → κ}

def ByKey (r : α → α → Prop) (key : α → κ) : Prop := ∀ a b, r a b ↔ key a ≤ key b

namespace ByKey
variable [DecidableRel r]

lemma pairwise (h : ByKey r key) (l : List α) : (l.insertionSort r).Pairwise r := by
  have htotal : Std.Total r := by
    constructor
    intro a b
    rw [h a b, h b a]
    exact le_total (key a) (key b)
  have htrans : IsTrans α r := by
    constructor
    intro a b c
    rw [h a b, h b c, h a c]
    exact le_trans
  exact pairwise_insertionSort r l

lemma head_le (h : ByKey r key) {l : List α} {a : α} (ha : (l.insertionSort r).head? = some a) :
    a ∈ l ∧ ∀ b ∈ l, key a ≤ key b := by
  obtain ⟨rest, hsort⟩ := head?_eq_some_iff.mp ha
  have hmem : ∀ b, b ∈ l ↔ b ∈ a :: rest := by
    intro b
    rw [← hsort, mem_insertionSort]
  have hsorted := h.pairwise l
  rw [hsort, pairwise_cons] at hsorted
  refine ⟨(hmem a).mpr mem_cons_self, ?_⟩
  intro b hb
  rcases mem_cons.mp ((hmem b).mp hb) with rfl | hb
  · exact le_refl _
  · exact (h a b).mp (hsorted.1 b hb)

lemma filter_congr (h : ByKey r key) {p : α → Bool} {l l' : List α} (hl : l.Nodup)
    (hl' : l'.Nodup) (hmem : ∀ a, p a = true → (a ∈ l ↔ a ∈ l'))
    (hinj : ∀ a ∈ l', ∀ b ∈ l', key a = key b → a = b) :
    (l.insertionSort r).filter p = (l'.insertionSort r).filter p := by
  have hnodup : ∀ {m : List α}, m.Nodup → ((m.insertionSort r).filter p).Nodup := by
    intro m hm
    exact ((perm_insertionSort r m).nodup_iff.mpr hm).filter p
  have hfilter : ∀ {m : List α} {a : α},
      a ∈ (m.insertionSort r).filter p ↔ a ∈ m ∧ p a = true := by
    intro m a
    rw [mem_filter, mem_insertionSort]
  have hperm : ((l.insertionSort r).filter p).Perm ((l'.insertionSort r).filter p) := by
    rw [perm_ext_iff_of_nodup (hnodup hl) (hnodup hl')]
    intro a
    rw [hfilter, hfilter]
    exact and_congr_left (hmem a)
  refine hperm.eq_of_pairwise ?_ ((h.pairwise l).filter p) ((h.pairwise l').filter p)
  intro a b ha hb hab hba
  obtain ⟨ha, hpa⟩ := hfilter.mp ha
  have hkey : key a = key b := le_antisymm ((h a b).mp hab) ((h b a).mp hba)
  exact hinj a ((hmem a hpa).mp ha) b (hfilter.mp hb).1 hkey

end ByKey

end FfxNexus.Sorting
