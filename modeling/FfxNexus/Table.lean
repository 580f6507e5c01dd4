/-
**Tables**: finite maps in which every value is stored under a key of its own, as the rows of a
table are under their primary key and the clients of a pool under the id of their server.
-/
import FfxNexus.Go

open List

namespace FfxNexus
open Go

structure Table {κ ν : Type} [DecidableEq κ] (key : ν → κ) where
  map : GoMap κ ν
  keyed : ∀ {k : κ} {v : ν}, map.lookup k = some v → key v = k

namespace Table
variable {κ ν : Type} [DecidableEq κ] {key : ν → κ}

def empty : Table key where
  map := ∅
  keyed h := by simp at h

variable (t : Table key)

def get (k : κ) : Option ν := t.map.lookup k

def put (v : ν) : Table key where
  map := t.map.insert (key v) v
  keyed h := by
    rcases lookup_insert_eq_some h with ⟨rfl, rfl⟩ | ⟨-, h⟩
    · rfl
    · exact t.keyed h

def erase (k : κ) : Table key where
  map := t.map.erase k
  keyed h := t.keyed (lookup_erase_eq_some h).2

def values : List ν := t.map.entries.map fun e => e.2

@[simp] lemma get_empty (k : κ) : (empty : Table key).get k = none := rfl

@[simp] lemma values_empty : (empty : Table key).values = [] := rfl

@[simp] lemma get_put_self (v : ν) : (t.put v).get (key v) = some v :=
  AList.lookup_insert _

variable {v : ν} {k : κ}

lemma get_put_of_ne (h : k ≠ key v) : (t.put v).get k = t.get k :=
  AList.lookup_insert_ne h

variable {t : Table key}

lemma get_put_eq_some {w : ν} (h : (t.put v).get k = some w) : w = v ∨ t.get k = some w := by
  rcases lookup_insert_eq_some h with ⟨-, hw⟩ | ⟨-, hw⟩
  · exact .inl hw
  · exact .inr hw

lemma get_erase_of_ne (t : Table key) {k' : κ} (h : k' ≠ k) : (t.erase k).get k' = t.get k' :=
  AList.lookup_erase_ne h

lemma get_erase_eq_some {k' : κ} (h : (t.erase k).get k' = some v) : t.get k' = some v :=
  (lookup_erase_eq_some h).2

lemma mem_values : v ∈ t.values ↔ t.get (key v) = some v := by
  unfold values get
  rw [mem_map]
  constructor
  · rintro ⟨⟨k, w⟩, he, rfl⟩
    have hlookup : t.map.lookup k = some w := AList.mem_lookup_iff.mpr he
    rw [t.keyed hlookup]
    exact hlookup
  · intro h
    exact ⟨⟨key v, v⟩, AList.mem_lookup_iff.mp h, rfl⟩

lemma mem_values_of_get (h : t.get k = some v) : v ∈ t.values := by
  rw [mem_values, t.keyed h]
  exact h

lemma nodup_keys (t : Table key) : (t.values.map key).Nodup := by
  have hkeys : t.values.map key = t.map.keys := by
    unfold values AList.keys keys
    rw [map_map]
    apply map_congr_left
    intro e he
    exact t.keyed (AList.mem_lookup_iff.mpr he)
  rw [hkeys]
  exact t.map.keys_nodup

lemma nodup_values (t : Table key) : t.values.Nodup := t.nodup_keys.of_map key

lemma find?_filter_values (t : Table key) (p : ν → Bool) (k : κ) :
    (t.values.filter p).find? (fun v => key v = k) = (t.get k).filter p := by
  have hfound : ∀ v, v ∈ t.values.filter p ∧ key v = k ↔ t.get k = some v ∧ p v = true := by
    intro v
    rw [mem_filter, mem_values]
    constructor
    · rintro ⟨⟨hget, hp⟩, rfl⟩
      exact ⟨hget, hp⟩
    · rintro ⟨hget, hp⟩
      have hkey := t.keyed hget
      exact ⟨⟨hkey ▸ hget, hp⟩, hkey⟩
  cases hfind : (t.values.filter p).find? (fun v => key v = k) with
  | none =>
    cases hget : t.get k <;> grind
  | some v =>
    have hkey : key v = k := by simpa using find?_some hfind
    obtain ⟨hget, hp⟩ := (hfound v).mp ⟨mem_of_find?_eq_some hfind, hkey⟩
    rw [hget, Option.filter_some, if_pos hp]

lemma mem_of_get_puts {vs : List ν} (h : (vs.foldl put t).get k = some v) :
    v ∈ vs ∨ t.get k = some v := by
  induction vs generalizing t with
  | nil => exact .inr h
  | cons w vs ih =>
    rcases ih h with hmem | hget
    · exact .inl (mem_cons_of_mem w hmem)
    · rcases get_put_eq_some hget with rfl | hget
      · exact .inl mem_cons_self
      · exact .inr hget

lemma get_puts {vs : List ν} (hnodup : (vs.map key).Nodup) (hv : v ∈ vs) :
    (vs.foldl put t).get (key v) = some v := by
  induction vs using reverseRecOn with
  | nil => cases hv
  | append_singleton vs w ih =>
    rw [map_append, nodup_append] at hnodup
    rw [foldl_append, foldl_cons, foldl_nil]
    rcases mem_append.mp hv with hmem | hmem
    · rw [get_put_of_ne _ (hnodup.2.2 _ (mem_map_of_mem hmem) _ (by simp))]
      exact ih hnodup.1 hmem
    · rw [mem_singleton.mp hmem, get_put_self]

end Table

end FfxNexus
