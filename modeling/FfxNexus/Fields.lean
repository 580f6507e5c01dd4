/-
**Separated fields**: a text cut at a separator, the pieces trimmed and the blank ones dropped, as
the gateway reads its lists.
-/
import FfxNexus.JsonRepair
import FfxNexus.Separated

namespace FfxNexus
open List Guardrails

def fields (sep : Char) (s : String) : List String :=
  ((s.toList.splitOn sep).map fun p => String.ofList (trimSpace p)).filter (· ≠ "")

/-- What a field is: neither blank nor with blanks at its ends, and without the separator. -/
structure IsField (sep : Char) (p : String) : Prop where
  solid : Solid p.toList
  sep : sep ∉ p.toList

lemma IsField.ne_empty {sep : Char} {p : String} (h : IsField sep p) : p ≠ "" := by
  rintro rfl
  obtain ⟨c, t, hnil, -⟩ := h.solid.front
  cases hnil

variable {s : List Char}

lemma trimSpace_prefix (s : List Char) : trimSpace s <+: s.dropWhile isSpace := by
  have hsuf := dropWhile_suffix isSpace (l := (s.dropWhile isSpace).reverse)
  rwa [← reverse_prefix, reverse_reverse] at hsuf

lemma trimSpace_subset (s : List Char) : trimSpace s ⊆ s :=
  fun _ hc => (dropWhile_suffix _).subset (( trimSpace_prefix s).subset hc)

lemma trimSpace_of_solid (h : Solid s) : trimSpace s = s := by
  simpa [trimLeft, trimRight] using trimSpace_solid h [] []

lemma solid_trimSpace (h : trimSpace s ≠ []) : Solid (trimSpace s) := by
  constructor
  · obtain ⟨c, t, htrim⟩ := exists_cons_of_ne_nil h
    obtain ⟨u, hu⟩ := trimSpace_prefix s
    have hhead := head?_dropWhile_not isSpace s
    rw [← hu, htrim] at hhead
    exact ⟨c, t, htrim, by simpa using hhead⟩
  · obtain ⟨c, t, hrev⟩ := exists_cons_of_ne_nil (reverse_ne_nil_iff.mp h)
    have hhead := head?_dropWhile_not isSpace (s.dropWhile isSpace).reverse
    rw [hrev] at hhead
    exact ⟨t.reverse, c, by rw [trimSpace, hrev, reverse_cons], by simpa using hhead⟩

lemma mem_fields {sep : Char} {s p : String} (hp : p ∈ fields sep s) :
    IsField sep p ∧ p.toList ⊆ s.toList := by
  obtain ⟨hmem, hne⟩ := mem_filter.mp hp
  obtain ⟨piece, hpiece, rfl⟩ := mem_map.mp hmem
  have hpart (c : Char) (hc : c ∈ trimSpace piece) :=
    Separated.of_mem_splitOnP hpiece (trimSpace_subset piece hc)
  refine ⟨⟨?_, ?_⟩, ?_⟩ <;> rw [String.toList_ofList]
  · exact solid_trimSpace (by simpa using hne)
  · exact fun hc => by simpa using (hpart sep hc).2
  · exact fun c hc => (hpart c hc).1

lemma fields_intercalate {sep : Char} {ps : List String} (h : ∀ p ∈ ps, IsField sep p) :
    fields sep ((String.singleton sep).intercalate ps) = ps := by
  have htrim : (ps.map String.toList).map (fun p => String.ofList (trimSpace p)) = ps := by
    rw [map_map]
    refine (map_congr_left fun p hp => ?_).trans (map_id ps)
    rw [Function.comp_apply, trimSpace_of_solid (h p hp).solid, String.ofList_toList]
    rfl
  have hkept : ps.filter (· ≠ "") = ps :=
    filter_eq_self.mpr fun p hp => decide_eq_true (h p hp).ne_empty
  cases ps with
  | nil => simp [fields, trimSpace]
  | cons p ps =>
    unfold fields
    rw [String.toList_intercalate, String.toList_singleton, splitOn_intercalate sep ?_ (by simp),
      htrim, hkept]
    simpa using fun p hp => (h p hp).sep

end FfxNexus
