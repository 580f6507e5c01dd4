/-
**Route groups** (`internal/config/routing.go`): the text that the console shows and sends back.
-/
import FfxNexus.Console
import FfxNexus.Fields
import FfxNexus.Go

namespace FfxNexus.RouteGroups

open List Go Guardrails String

abbrev Groups : Type := GoMap String (List String)

def parseGroup (group : String) : Option (String × List String) :=
  match cut group '=' with
  | none => none
  | some (name, list) =>
    if trimmed name = "" ∨ fields ',' list = [] then none
    else some (trimmed name, fields ',' list)

def parseRouteGroups (spec : String) : Groups :=
  ((fields ';' spec).filterMap parseGroup).foldl (fun groups g => groups.insert g.1 g.2) ∅

def formatGroup (name : String) (models : List String) : String :=
  name ++ "=" ++ ",".intercalate models

/-- The groups are listed in the order in which the map is iterated. -/
def formatRouteGroups (groups : Groups) : String :=
  ";".intercalate ((groups.entries.filter (·.2 ≠ [])).map fun e => formatGroup e.1 e.2)

/-- What is shown of a group can be read back. -/
structure Legible (name : String) (models : List String) : Prop where
  named : IsField '=' name ∧ ';' ∉ name.toList
  nonempty : models ≠ []
  each : ∀ m ∈ models, IsField ',' m ∧ ';' ∉ m.toList

lemma solid_append {x z : List Char} (hx : Solid x) (hz : Solid z) (y : List Char) :
    Solid (x ++ y ++ z) := by
  obtain ⟨c, t, rfl, hc⟩ := hx.front
  obtain ⟨u, d, rfl, hd⟩ := hz.back
  exact ⟨⟨c, t ++ y ++ (u ++ [d]), by simp, hc⟩, ⟨c :: t ++ y ++ u, d, by simp, hd⟩⟩

/-- What holds of the parts and is kept by joining two texts holds of the whole. -/
lemma intercalate_induction {P : List Char → Prop} {sep : List Char} {ps : List (List Char)}
    (hjoin : ∀ x y, P x → P y → P (x ++ sep ++ y)) (hne : ps ≠ []) (h : ∀ p ∈ ps, P p) :
    P (sep.intercalate ps) := by
  induction ps with
  | nil => exact absurd rfl hne
  | cons p ps ih =>
    obtain ⟨hp, hps⟩ := forall_mem_cons.mp h
    cases ps with
    | nil => simpa using hp
    | cons q qs =>
      rw [intercalate_cons_of_ne_nil (cons_ne_nil q qs)]
      exact hjoin _ _ hp (ih (cons_ne_nil q qs) hps)

variable {name : String} {models : List String}

lemma legible_parseGroup {group : String} (hsep : ';' ∉ group.toList)
    (h : parseGroup group = some (name, models)) : Legible name models := by
  unfold parseGroup at h
  cases hcut : cut group '=' with
  | none => simp [hcut] at h
  | some p =>
    obtain ⟨before, after⟩ := p
    simp only [hcut, Option.ite_none_left_eq_some, not_or, Option.some.injEq, Prod.mk.injEq] at h
    obtain ⟨⟨hname, hmodels⟩, rfl, rfl⟩ := h
    rw [cut_eq_some hcut] at hsep
    simp only [toList_append, mem_append, not_or] at hsep
    have htrim : (trimmed before).toList ⊆ before.toList := by
      rw [trimmed, toList_ofList]
      exact trimSpace_subset _
    refine ⟨⟨⟨?_, fun hc => not_mem_of_cut hcut (htrim hc)⟩, fun hc => hsep.1.1 (htrim hc)⟩,
      hmodels, fun m hm => ⟨(mem_fields hm).1, fun hc => hsep.2 ((mem_fields hm).2 hc)⟩⟩
    rw [trimmed, toList_ofList]
    exact solid_trimSpace (by simpa [trimmed] using hname)

lemma Legible.isField (h : Legible name models) : IsField ';' (formatGroup name models) := by
  have hne : models.map toList ≠ [] := by simpa using h.nonempty
  constructor
  · rw [formatGroup, toList_append, toList_append, toList_intercalate]
    refine solid_append h.named.1.solid (intercalate_induction ?_ hne ?_) _
    · exact fun x y hx hy => solid_append hx hy _
    · exact forall_mem_map.mpr fun m hm => (h.each m hm).1.solid
  · have hmodels : ';' ∉ [','].intercalate (models.map toList) :=
      intercalate_induction (P := (';' ∉ ·)) (fun x y hx hy => by simp [hx, hy]) hne
        (forall_mem_map.mpr fun m hm => (h.each m hm).2)
    rw [formatGroup, toList_append, toList_append, toList_intercalate]
    simpa [h.named.2] using hmodels

lemma Legible.parseGroup (h : Legible name models) :
    parseGroup (formatGroup name models) = some (name, models) := by
  have hcut : cut (formatGroup name models) '=' = some (name, ",".intercalate models) :=
    cut_append h.named.1.sep _
  have hfields : fields ',' (",".intercalate models) = models :=
    fields_intercalate fun m hm => (h.each m hm).1
  have htrim : trimmed name = name := by
    rw [trimmed, trimSpace_of_solid h.named.1.solid, ofList_toList]
  rw [RouteGroups.parseGroup, hcut]
  simp only [hfields, htrim, h.named.1.ne_empty, h.nonempty, or_self, if_false]

lemma legible_of_lookup {spec : String} (h : (parseRouteGroups spec).lookup name = some models) :
    Legible name models := by
  -- a later group of the same name replaces an earlier one, so what is found was inserted
  have hmem : ∀ (gs : List (String × List String)) (m : Groups),
      (gs.foldl (fun groups g => groups.insert g.1 g.2) m).lookup name = some models →
        (name, models) ∈ gs ∨ m.lookup name = some models := by
    intro gs
    induction gs with
    | nil => exact fun m h => .inr h
    | cons g gs ih =>
      intro m h
      rcases ih _ h with h | h
      · exact .inl (mem_cons_of_mem g h)
      · rcases lookup_insert_eq_some h with ⟨rfl, rfl⟩ | ⟨-, h⟩
        · exact .inl mem_cons_self
        · exact .inr h
  rcases hmem _ _ h with h | h
  · obtain ⟨group, hgroup, hparse⟩ := mem_filterMap.mp h
    exact legible_parseGroup (mem_fields hgroup).1.sep hparse
  · simp at h

/-- **Route groups survive display and re-save**, in whatever order the map is iterated. -/
theorem parse_format_parse (spec : String) (shown : Groups)
    (horder : shown.entries.Perm (parseRouteGroups spec).entries) (name : String) :
    (parseRouteGroups (formatRouteGroups shown)).lookup name =
      (parseRouteGroups spec).lookup name := by
  have hlegible : ∀ e ∈ shown.entries, Legible e.1 e.2 := fun e he =>
    legible_of_lookup (AList.mem_lookup_iff.mpr (horder.mem_iff.mp he))
  have hfilter : shown.entries.filter (·.2 ≠ []) = shown.entries :=
    filter_eq_self.mpr fun e he => decide_eq_true (hlegible e he).nonempty
  have hfields : fields ';' (formatRouteGroups shown) =
      shown.entries.map fun e => formatGroup e.1 e.2 := by
    rw [formatRouteGroups, hfilter]
    exact fields_intercalate (forall_mem_map.mpr fun e he => (hlegible e he).isField)
  have hgroups : (fields ';' (formatRouteGroups shown)).filterMap parseGroup =
      shown.entries.map fun e => (e.1, e.2) := by
    rw [hfields, filterMap_map, ← filterMap_eq_map]
    exact filterMap_congr fun e he => (hlegible e he).parseGroup
  -- the names of a map differ, so the order of the insertions does not matter
  have hlookup : (shown.entries.foldl (fun m e => m.insert e.1 e.2) ∅ : Groups).lookup name =
      (shown.lookup name).elim ((∅ : Groups).lookup name) some :=
    view_foldl_entries (fun (m : Groups) k => m.lookup k) (f := fun v _ => some v)
      (fun m k v => (AList.lookup_insert m : (m.insert k v).lookup k = some v))
      (fun m k v k' hk => AList.lookup_insert_ne hk) shown ∅ name
  rw [← AList.perm_lookup horder, parseRouteGroups, hgroups, foldl_map, hlookup]
  cases shown.lookup name <;> rfl

theorem parse_format_parse_twice :
    (parseRouteGroups (formatRouteGroups (parseRouteGroups "a=x;b = y , z;a=w"))).lookup "b" =
      (parseRouteGroups "a=x;b = y , z;a=w").lookup "b" :=
  parse_format_parse "a=x;b = y , z;a=w" _ (.refl _) "b"

end FfxNexus.RouteGroups
