/-
**Which record of a name counts** (`internal/evalplugin/registry.go`).
-/
import FfxNexus.Evals.Plugin
import FfxNexus.Sorting
import Mathlib.Data.String.Basic

open List

namespace FfxNexus.Evals

lemma nul_notMem_of_validPluginName {name : String} (h : validPluginName name = true) :
    '\x00' ∉ name.toList := by
  unfold validPluginName at h
  intro hmem
  cases hname : name.toList with
  | nil => rw [hname] at hmem; cases hmem
  | cons first rest =>
    rw [hname] at h hmem
    simp only [Bool.and_eq_true, all_eq_true] at h
    obtain ⟨⟨⟨⟨hfirst, -⟩, -⟩, hinner⟩, hlast⟩ := h
    rcases mem_cons.mp hmem with rfl | hmem
    · exact absurd hfirst (by decide)
    have hne : rest ≠ [] := ne_nil_of_mem hmem
    rw [← dropLast_append_getLast hne, mem_append, mem_singleton] at hmem
    rcases hmem with hmem | hmem
    · exact absurd (hinner _ hmem) (by decide)
    · rw [getLast?_eq_getLast_of_ne_nil hne, ← hmem] at hlast
      exact absurd hlast (by decide)

lemma validPluginName_of_validate {p : Plugin} (h : validate p = .ok ()) :
    validPluginName p.name = true := by
  simp only [validate, validateHeader, bind_eq_ok_iff, require_eq_ok] at h
  exact h.1.2.2.2.2.2

lemma recordKey_inj {orgID orgID' name name' : String} (hname : validPluginName name = true)
    (hname' : validPluginName name' = true) (h : recordKey orgID name = recordKey orgID' name') :
    orgID = orgID' ∧ name = name' := by
  have hcut : ∀ {as n : List Char} {name : String}, validPluginName name = true →
      '\x00' :: name.toList = as ++ '\x00' :: n → as = [] := by
    intro as n name hname heq
    cases as with
    | nil => rfl
    | cons a as =>
      have htail := (cons.inj heq).2
      exact absurd (by rw [htail]; simp) (nul_notMem_of_validPluginName hname)
  have hlist : orgID.toList ++ '\x00' :: name.toList = orgID'.toList ++ '\x00' :: name'.toList := by
    simpa [recordKey] using congrArg String.toList h
  rcases append_eq_append_iff.mp hlist with ⟨as, horg, hrest⟩ | ⟨as, horg, hrest⟩
  · obtain rfl := hcut hname hrest
    exact ⟨String.toList_injective (by simpa using horg.symm),
      String.toList_injective (cons.inj hrest).2⟩
  · obtain rfl := hcut hname' hrest
    exact ⟨String.toList_injective (by simpa using horg),
      String.toList_injective (cons.inj hrest).2.symm⟩

namespace Registry

def lookupForOrg (reg : Registry) (orgID name : String) : Option Record :=
  match reg.all.lookup (recordKey orgID name) with
  | some rec => some rec
  | none => reg.all.lookup (recordKey "" name)

def Valid (reg : Registry) : Prop := ∀ rec ∈ reg.records, validate rec.plugin = .ok ()

structure SeenAsLookedUp (reg : Registry) (orgID : String) : Prop where
  sorted : (reg.enabledForOrg orgID).Pairwise fun a b => a.plugin.name < b.plugin.name
  listed : ∀ rec, rec ∈ reg.enabledForOrg orgID ↔ rec.enabled = true ∧
    ∃ name, validPluginName name = true ∧ reg.lookupForOrg orgID name = some rec

section
variable {reg : Registry} {rec rec' : Record} {orgID name : String}

lemma eq_of_mem_records (h : rec ∈ reg.records) (h' : rec' ∈ reg.records)
    (horg : rec.orgID = rec'.orgID) (hname : rec.plugin.name = rec'.plugin.name) : rec = rec' := by
  rw [mem_records] at h h'
  rw [horg, hname, h'] at h
  exact (Option.some.inj h).symm

lemma Valid.lookup_iff (hreg : reg.Valid) (hname : validPluginName name = true) :
    reg.all.lookup (recordKey orgID name) = some rec ↔
      rec ∈ reg.records ∧ rec.orgID = orgID ∧ rec.plugin.name = name := by
  constructor
  · intro h
    have hkey := reg.keyed _ _ h
    have hmem : rec ∈ reg.records := mem_records.mpr (hkey ▸ h)
    obtain ⟨horg, hsame⟩ :=
      recordKey_inj hname (validPluginName_of_validate (hreg rec hmem)) hkey
    exact ⟨hmem, horg.symm, hsame.symm⟩
  · rintro ⟨hmem, rfl, rfl⟩
    exact mem_records.mp hmem

lemma Valid.lookupForOrg_iff (hreg : reg.Valid) (hname : validPluginName name = true) :
    reg.lookupForOrg orgID name = some rec ↔ rec ∈ reg.records ∧ rec.plugin.name = name ∧
      (rec.orgID = orgID ∨ (rec.orgID = "" ∧
        ∀ own ∈ reg.records, own.plugin.name = name → own.orgID ≠ orgID)) := by
  have hown : ∀ own, reg.all.lookup (recordKey orgID name) = some own ↔ _ :=
    fun own => hreg.lookup_iff hname
  have hshared : reg.all.lookup (recordKey "" name) = some rec ↔ _ := hreg.lookup_iff hname
  unfold lookupForOrg
  cases hlook : reg.all.lookup (recordKey orgID name) with
  | some own => grind [eq_of_mem_records]
  | none =>
    grind

lemma mem_enabledForOrg_iff_best :
    rec ∈ reg.enabledForOrg orgID ↔ rec ∈ reg.records ∧ UsableBy orgID rec ∧
      (rec.orgID = "" → ∀ rec' ∈ reg.records, rec'.plugin.name = rec.plugin.name →
        UsableBy orgID rec' → rec'.orgID = "") := by
  rw [mem_enabledForOrg_iff]
  have hbest := best_byName reg orgID rec.plugin.name
  cases hfound : (reg.byName orgID).lookup rec.plugin.name <;>
    grind [Best, eq_of_mem_records, UsableBy]

lemma pairwise_enabledForOrg (reg : Registry) (orgID : String) :
    (reg.enabledForOrg orgID).Pairwise fun a b => a.plugin.name < b.plugin.name := by
  have hby : Sorting.ByKey (fun a b : Record => a.plugin.name ≤ b.plugin.name) (·.plugin.name) :=
    fun _ _ => Iff.rfl
  have hsorted : (reg.enabledForOrg orgID).Pairwise fun a b => a.plugin.name ≤ b.plugin.name :=
    hby.pairwise _
  have hnames : ((reg.enabledForOrg orgID).map (·.plugin.name)).Nodup := by
    have hperm := (perm_insertionSort (fun a b : Record => a.plugin.name ≤ b.plugin.name)
      ((reg.byName orgID).entries.map Sigma.snd)).map (·.plugin.name)
    refine hperm.nodup_iff.mpr ?_
    have hkeys : ((reg.byName orgID).entries.map Sigma.snd).map (·.plugin.name) =
        (reg.byName orgID).keys := by
      rw [map_map]
      apply map_congr_left
      intro e he
      exact (lookup_byName (AList.mem_lookup_iff.mpr he)).2.1
    rw [hkeys]
    exact (reg.byName orgID).keys_nodup
  exact (hsorted.and (pairwise_map.mp hnames)).imp fun h => lt_of_le_of_ne h.1 h.2

end

theorem seen_as_looked_up_iff (reg : Registry) (hreg : reg.Valid) (orgID : String) :
    reg.SeenAsLookedUp orgID ↔ ∀ own ∈ reg.records, ∀ shared ∈ reg.records,
      own.orgID = orgID → shared.orgID = "" → own.plugin.name = shared.plugin.name →
        shared.enabled = true → own.enabled = true := by
  have hvalid : ∀ rec ∈ reg.records, validPluginName rec.plugin.name = true := fun rec hmem =>
    validPluginName_of_validate (hreg rec hmem)
  constructor
  · intro h own hown shared hshared horg hcluster hname henabled
    have hlisted := h.listed shared
    rw [mem_enabledForOrg_iff_best] at hlisted
    grind [hreg.lookupForOrg_iff, eq_of_mem_records, usableBy_iff]
  · intro hcond
    refine ⟨pairwise_enabledForOrg reg orgID, fun rec => ?_⟩
    rw [mem_enabledForOrg_iff_best]
    grind [hreg.lookupForOrg_iff, eq_of_mem_records, usableBy_iff]

def overridden (enabled : Bool) : Registry :=
  (Registry.new.put (judgeOf "")).put { judgeOf "acme" with enabled := enabled }

lemma valid_overridden (enabled : Bool) : (overridden enabled).Valid := by
  cases enabled <;> unfold Valid <;> decide

theorem seen_as_looked_up_override : (overridden true).SeenAsLookedUp "acme" :=
  (seen_as_looked_up_iff _ (valid_overridden true) "acme").mpr (by decide)

theorem disabled_override_uncovers :
    (overridden false).lookupForOrg "acme" "judge" = some { judgeOf "acme" with enabled := false } ∧
      (overridden false).enabledForOrg "acme" = [judgeOf ""] := by
  decide

def ofKind (kind : SourceKind) (recs : List Record) : List Record :=
  recs.filter (·.source.kind = kind)

def Reordered (recs recs' : List Record) : Prop := ∀ kind, ofKind kind recs' = ofKind kind recs

def conflicts (recs : List Record) : List Record :=
  (ofKind .database recs).filter fun rec => (ofKind .helm recs).any fun helm =>
    helm.orgID = rec.orgID && helm.plugin.name = rec.plugin.name

def pick (key : String) (found : Option Record) (rec : Record) : Option Record :=
  if recordKey rec.orgID rec.plugin.name ≠ key ∨
      (found.any (·.source.kind = .helm) ∧ rec.source.kind = .database) then found
  else some rec

section
variable {reg : Registry} {rec : Record} {recs recs' : List Record} {key : String}
variable {found : Option Record}

lemma mergeOne_eq (hrec : validate rec.plugin = .ok ()) : reg.mergeOne rec =
    if (reg.all.lookup (recordKey rec.orgID rec.plugin.name)).any (·.source.kind = .helm) ∧
        rec.source.kind = .database then (reg, true) else (reg.put rec, false) := by
  unfold mergeOne
  rw [hrec]
  cases reg.all.lookup (recordKey rec.orgID rec.plugin.name) <;> simp

lemma lookup_mergeOne (hrec : validate rec.plugin = .ok ()) :
    (reg.mergeOne rec).1.all.lookup key = pick key (reg.all.lookup key) rec := by
  rw [mergeOne_eq hrec]
  unfold pick
  by_cases hkey : recordKey rec.orgID rec.plugin.name = key
  · subst hkey
    simp only [ne_eq, not_true_eq_false, false_or]
    split_ifs
    · rfl
    · exact AList.lookup_insert _
  · rw [if_pos (Or.inl hkey : _ ∨ _)]
    split_ifs
    · rfl
    · exact AList.lookup_insert_ne (Ne.symm hkey)

lemma pick_foldl_helm (hhelm : ∀ helm ∈ recs, helm.source.kind = .helm)
    (hrec : rec.source.kind = .database) :
    pick key (recs.foldl (pick key) found) rec = recs.foldl (pick key) (pick key found rec) := by
  induction recs using reverseRecOn with
  | nil => rfl
  | append_singleton recs helm ih =>
    obtain ⟨hrecs, hlast⟩ := forall_mem_append.mp hhelm
    have hkind := hlast helm (mem_singleton_self _)
    rw [foldl_append, foldl_append, foldl_cons, foldl_nil, foldl_cons, ← ih hrecs]
    by_cases hkey : recordKey helm.orgID helm.plugin.name = key
    · simp [pick, hkey, hkind, hrec]
    · simp [pick, hkey]

lemma ofKind_snoc (kind : SourceKind) (recs : List Record) (rec : Record) :
    ofKind kind (recs ++ [rec]) =
      if rec.source.kind = kind then ofKind kind recs ++ [rec] else ofKind kind recs := by
  unfold ofKind
  split_ifs with hkind <;> simp [hkind]

lemma kind_of_mem_ofKind {kind : SourceKind} (h : rec ∈ ofKind kind recs) :
    rec ∈ recs ∧ rec.source.kind = kind := by
  simpa [ofKind] using h

lemma foldl_pick_ofKind (key : String) (found : Option Record) (recs : List Record) :
    recs.foldl (pick key) found =
      (ofKind .database recs ++ ofKind .helm recs).foldl (pick key) found := by
  induction recs using reverseRecOn with
  | nil => rfl
  | append_singleton recs rec ih =>
    rw [foldl_append, foldl_cons, foldl_nil, ih, ofKind_snoc, ofKind_snoc]
    cases hkind : rec.source.kind with
    | helm => simp [foldl_append]
    | database =>
      simp only [if_true, foldl_append]
      exact pick_foldl_helm (fun helm hmem => (kind_of_mem_ofKind hmem).2) hkind

section
variable (hrecs : ∀ rec ∈ recs, validate rec.plugin = .ok ())
include hrecs

lemma lookup_merge :
    (reg.merge recs).1.all.lookup key = recs.foldl (pick key) (reg.all.lookup key) := by
  induction recs generalizing reg with
  | nil => rfl
  | cons rec recs ih =>
    obtain ⟨hrec, hrest⟩ := forall_mem_cons.mp hrecs
    rw [foldl_cons, ← lookup_mergeOne hrec, ← ih hrest]
    rfl

lemma sublist_of_mem_discarded
    (h : rec ∈ (reg.merge recs).2) : rec ∈ recs ∧ rec.source.kind = .database ∧
      ((reg.all.lookup (recordKey rec.orgID rec.plugin.name)).any (·.source.kind = .helm) ∨
        ∃ helm, helm.source.kind = .helm ∧ [helm, rec].Sublist recs ∧
          recordKey helm.orgID helm.plugin.name = recordKey rec.orgID rec.plugin.name) := by
  induction recs generalizing reg with
  | nil => cases h
  | cons first recs ih =>
    obtain ⟨hfirst, hrest⟩ := forall_mem_cons.mp hrecs
    have hcases : ((reg.mergeOne first).2 = true ∧ rec = first) ∨
        rec ∈ ((reg.mergeOne first).1.merge recs).2 := by
      have hcons : (reg.merge (first :: recs)).2 = if (reg.mergeOne first).2 = true
        then first :: ((reg.mergeOne first).1.merge recs).2
        else ((reg.mergeOne first).1.merge recs).2 := rfl
      rw [hcons] at h
      split_ifs at h with hdiscarded
      · exact (mem_cons.mp h).imp_left fun heq => ⟨hdiscarded, heq⟩
      · exact .inr h
    rcases hcases with ⟨hdiscarded, rfl⟩ | h
    · rw [mergeOne_eq hfirst] at hdiscarded
      split_ifs at hdiscarded with hhelm
      exact ⟨mem_cons_self, hhelm.2, .inl hhelm.1⟩
    · obtain ⟨hmem, hkind, hhelm⟩ := ih hrest h
      refine ⟨mem_cons_of_mem _ hmem, hkind, ?_⟩
      rcases hhelm with hhelm | ⟨helm, hkind', hsub, hkey⟩
      · -- the Helm record was there before, or is the first of the list
        rw [lookup_mergeOne hfirst] at hhelm
        unfold pick at hhelm
        split_ifs at hhelm with hskip
        · exact .inl hhelm
        · exact .inr ⟨first, by simpa using hhelm,
            (singleton_sublist.mpr hmem).cons_cons first, not_not.mp (not_or.mp hskip).1⟩
      · exact .inr ⟨helm, hkind', hsub.cons first, hkey⟩

lemma mem_conflicts_of_mem_discarded (h : rec ∈ (new.merge recs).2) :
    rec ∈ conflicts recs ∧ ∃ helm, helm.source.kind = .helm ∧ [helm, rec].Sublist recs := by
  obtain ⟨hmem, hkind, hnew | ⟨helm, hkind', hsub, hkey⟩⟩ := sublist_of_mem_discarded hrecs h
  · cases hnew
  have hmem' : helm ∈ recs := hsub.subset mem_cons_self
  obtain ⟨horg, hname⟩ := recordKey_inj (validPluginName_of_validate (hrecs helm hmem'))
    (validPluginName_of_validate (hrecs rec hmem)) hkey
  refine ⟨?_, helm, hkind', hsub⟩
  simp only [conflicts, ofKind, mem_filter, any_eq_true, decide_eq_true_eq, Bool.and_eq_true]
  exact ⟨⟨hmem, hkind⟩, helm, ⟨hmem', hkind'⟩, horg, hname⟩

lemma merge_databaseFirst : (new.merge (ofKind .database recs ++ ofKind .helm recs)).2 = [] := by
  rw [eq_nil_iff_forall_not_mem]
  intro rec h
  have hvalid : ∀ rec ∈ ofKind .database recs ++ ofKind .helm recs,
      validate rec.plugin = .ok () := by grind [ofKind]
  obtain ⟨hconflict, helm, hkind, hsub⟩ := mem_conflicts_of_mem_discarded hvalid h
  obtain ⟨l, l', heq, hl, hl'⟩ := sublist_append_iff.mp hsub
  cases l with
  | nil => grind [conflicts, ofKind, hl'.subset]
  | cons first l => grind [ofKind, hl.subset]

end

lemma Reordered.databaseFirst (recs : List Record) :
    Reordered recs (ofKind .database recs ++ ofKind .helm recs) := by
  intro kind
  unfold ofKind
  cases kind <;> simp +contextual

lemma Reordered.valid (h : Reordered recs recs')
    (hrecs : ∀ rec ∈ recs, validate rec.plugin = .ok ()) :
    ∀ rec ∈ recs', validate rec.plugin = .ok () := by
  intro rec hmem
  have hkind : rec ∈ ofKind rec.source.kind recs' := by simp [ofKind, hmem]
  rw [h] at hkind
  exact hrecs rec (kind_of_mem_ofKind hkind).1

lemma lookup_merge_reordered (h : Reordered recs recs')
    (hrecs : ∀ rec ∈ recs, validate rec.plugin = .ok ()) (key : String) :
    (new.merge recs').1.all.lookup key = (new.merge recs).1.all.lookup key := by
  rw [lookup_merge (h.valid hrecs), lookup_merge hrecs, foldl_pick_ofKind, h, h,
    ← foldl_pick_ofKind]

end

theorem merge_order_iff (recs : List Record) (hrecs : ∀ rec ∈ recs, validate rec.plugin = .ok ()) :
    (∀ recs', Reordered recs recs' →
      (∀ key, (new.merge recs').1.all.lookup key = (new.merge recs).1.all.lookup key) ∧
        (new.merge recs').2.Perm (conflicts recs)) ↔ conflicts recs = [] := by
  constructor
  · intro h
    have hperm := (h _ (.databaseFirst recs)).2
    rw [merge_databaseFirst hrecs] at hperm
    exact nil_perm.mp hperm
  · intro hnone recs' h
    refine ⟨lookup_merge_reordered h hrecs, ?_⟩
    have hsame : conflicts recs' = conflicts recs := by rw [conflicts, h, h, conflicts]
    have hnil : (new.merge recs').2 = [] := by
      rw [eq_nil_iff_forall_not_mem]
      intro rec hmem
      have hconflict := (mem_conflicts_of_mem_discarded (h.valid hrecs) hmem).1
      rw [hsame, hnone] at hconflict
      cases hconflict
    rw [hnil, hnone]

def helmJudge : Record := { judgeOf "" with source := { kind := .helm } }

theorem merge_order_apart : conflicts [helmJudge, judgeOf "acme"] = [] ∧
    ∀ recs', Reordered [helmJudge, judgeOf "acme"] recs' →
      (new.merge recs').2.Perm (conflicts [helmJudge, judgeOf "acme"]) := by
  have hnone : conflicts [helmJudge, judgeOf "acme"] = [] := by decide
  exact ⟨hnone, fun recs' h => ((merge_order_iff _ (by decide)).mpr hnone recs' h).2⟩

theorem merge_unreported : Reordered [helmJudge, judgeOf ""] [judgeOf "", helmJudge] ∧
    (new.merge [helmJudge, judgeOf ""]).2 = [judgeOf ""] ∧
    (new.merge [judgeOf "", helmJudge]).2 = [] := by
  refine ⟨fun kind => ?_, by decide, by decide⟩
  cases kind <;> decide

end Registry

end FfxNexus.Evals
