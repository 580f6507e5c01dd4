/-
**What the modelled code takes from Go**: maps and strings.
-/
import Mathlib.Data.List.AList
import Mathlib.Data.List.Induction

namespace FfxNexus.Go
open List AList

abbrev GoMap (κ ν : Type) : Type := AList fun _ : κ => ν

section
variable {κ ν : Type} [DecidableEq κ]

def setAll (ks : List κ) (v : ν) (m : GoMap κ ν) : GoMap κ ν :=
  ks.foldl (fun m k => m.insert k v) m

def deleteWhere (p : ν → Bool) (m : GoMap κ ν) : GoMap κ ν :=
  m.keys.foldl (fun acc k => if (m.lookup k).any p then acc.erase k else acc) m

lemma lookup_insert_eq_some {m : GoMap κ ν} {k k' : κ} {v v' : ν}
    (h : (m.insert k v).lookup k' = some v') :
    (k' = k ∧ v' = v) ∨ (k' ≠ k ∧ m.lookup k' = some v') := by
  by_cases hk : k' = k
  · rw [hk, lookup_insert, Option.some.injEq] at h
    exact .inl ⟨hk, h.symm⟩
  · rw [lookup_insert_ne hk] at h
    exact .inr ⟨hk, h⟩

lemma lookup_erase_eq_some {m : GoMap κ ν} {k k' : κ} {v : ν}
    (h : (m.erase k).lookup k' = some v) : k' ≠ k ∧ m.lookup k' = some v := by
  by_cases hk : k' = k
  · rw [hk, lookup_erase] at h
    cases h
  · rw [lookup_erase_ne hk] at h
    exact ⟨hk, h⟩

lemma lookup_setAll (ks : List κ) (v : ν) (m : GoMap κ ν) (k : κ) :
    (setAll ks v m).lookup k = if k ∈ ks then some v else m.lookup k := by
  induction ks generalizing m with
  | nil => simp [setAll]
  | cons k' ks ih =>
    have hcons : setAll (k' :: ks) v m = setAll ks v (m.insert k' v) := rfl
    rw [hcons, ih]
    by_cases hk : k = k'
    · subst hk
      simp
    · simp [hk, lookup_insert_ne hk]

lemma lookup_foldl_erase (c : κ → Bool) (ks : List κ) (m : GoMap κ ν) (k : κ) :
    (ks.foldl (fun acc k => if c k then acc.erase k else acc) m).lookup k =
      if k ∈ ks ∧ c k = true then none else m.lookup k := by
  induction ks generalizing m with
  | nil => simp
  | cons k' ks ih =>
    rw [foldl_cons, ih]
    by_cases hk : k = k'
    · subst hk
      by_cases hc : c k = true <;> simp [hc]
    · by_cases hc : c k' = true <;> simp [hc, hk, lookup_erase_ne hk]

lemma lookup_deleteWhere (p : ν → Bool) (m : GoMap κ ν) (k : κ) :
    (deleteWhere p m).lookup k = (m.lookup k).filter (fun v => !p v) := by
  unfold deleteWhere
  rw [lookup_foldl_erase (fun k => (m.lookup k).any p)]
  cases hm : m.lookup k with
  | none => simp
  | some v =>
    have hk : k ∈ m.keys := by
      rw [← AList.mem_keys, ← AList.lookup_isSome, hm]; rfl
    by_cases hp : p v = true <;> simp [hk, hp, Option.filter]

lemma lookup_foldl_insert (c : ν → Prop) [DecidablePred c] (key : ν → κ) (l : List ν) (k : κ) :
    (l.foldl (fun (m : GoMap κ ν) a => if c a then m.insert (key a) a else m) ∅).lookup k =
      ((l.filter c).filter fun a => key a = k).getLast? := by
  induction l using reverseRecOn with
  | nil => exact lookup_empty k
  | append_singleton l a ih =>
    by_cases hc : c a
    · by_cases hk : key a = k
      · subst hk
        simp [hc]
      · simp [hc, hk, lookup_insert_ne (Ne.symm hk), ih]
    · simp [hc, ih]

lemma view_foldl_entries {σ τ : Type} (view : σ → κ → τ) {step : σ → κ → ν → σ}
    {f : ν → τ → τ} (hown : ∀ s k v, view (step s k v) k = f v (view s k))
    (hother : ∀ s k v k', k' ≠ k → view (step s k v) k' = view s k') (m : GoMap κ ν) (s : σ)
    (k : κ) : view (m.entries.foldl (fun s e => step s e.1 e.2) s) k =
      (m.lookup k).elim (view s k) (f · (view s k)) := by
  obtain ⟨entries, hnodup⟩ := m
  unfold AList.lookup
  induction entries generalizing s with
  | nil => rfl
  | cons e l ih =>
    obtain ⟨k', v⟩ := e
    rw [nodupKeys_cons] at hnodup
    rw [foldl_cons, ih _ hnodup.2]
    by_cases hk : k = k'
    · -- the key is visited once
      subst hk
      rw [dlookup_cons_eq, dlookup_eq_none.mpr hnodup.1]
      exact hown s k v
    · rw [dlookup_cons_ne _ _ hk, hother s k' v k hk]

end

def cut (s : String) (sep : Char) : Option (String × String) :=
  if sep ∈ s.toList then
    some (String.ofList (s.toList.takeWhile (· != sep)),
      String.ofList ((s.toList.dropWhile (· != sep)).tail))
  else none

lemma cut_eq_some {s before after : String} {sep : Char} (h : cut s sep = some (before, after)) :
    s = before ++ String.singleton sep ++ after := by
  unfold cut at h
  split_ifs at h with hmem
  obtain ⟨rfl, rfl⟩ : _ ∧ _ := by simpa using h
  have hdrop : ∀ l : List Char, sep ∈ l →
      l.dropWhile (· != sep) = sep :: (l.dropWhile (· != sep)).tail := by
    intro l hl
    induction l with
    | nil => cases hl
    | cons c l ih =>
      by_cases hc : c = sep
      · simp [hc]
      have hl : sep ∈ l := by
        rcases mem_cons.mp hl with rfl | hl
        · exact absurd rfl hc
        · exact hl
      simpa [hc] using ih hl
  apply String.toList_injective
  simp only [String.toList_append, String.toList_ofList, String.toList_singleton,
    append_assoc, singleton_append]
  rw [← hdrop _ hmem, takeWhile_append_dropWhile]

lemma not_mem_of_cut {s before after : String} {sep : Char}
    (h : cut s sep = some (before, after)) : sep ∉ before.toList := by
  unfold cut at h
  split_ifs at h with hmem
  obtain ⟨rfl, rfl⟩ : _ ∧ _ := by simpa using h
  intro hin
  rw [String.toList_ofList] at hin
  simpa using all_eq_true.mp all_takeWhile _ hin

lemma cut_append {before : String} {sep : Char} (hbefore : sep ∉ before.toList) (after : String) :
    cut (before ++ String.singleton sep ++ after) sep = some (before, after) := by
  have hall : ∀ c ∈ before.toList, (c != sep) = true := by
    intro c hc
    have hne : c ≠ sep := fun heq => hbefore (heq ▸ hc)
    simpa using hne
  have hlist : (before ++ String.singleton sep ++ after).toList =
      before.toList ++ sep :: after.toList := by
    simp
  rw [cut, hlist, if_pos (by simp), takeWhile_append_of_pos hall,
    dropWhile_append_of_pos hall]
  simp

lemma mem_of_lookup {κ β : Type} [BEq κ] [LawfulBEq κ] {table : List (κ × β)} {key : κ} {x : β}
    (hsome : table.lookup key = some x) : (key, x) ∈ table := by
  obtain ⟨before, after, rfl, -⟩ := lookup_eq_some_iff.mp hsome
  simp

end FfxNexus.Go
