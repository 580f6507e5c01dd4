/-
**The endpoints for a plugin's keys** (`internal/console/eval_plugin_keys.go`, the `Lookup` of
`cmd/nexus/plugin_source_adapter.go`).
-/
import FfxNexus.Console
import FfxNexus.Evals.PluginKeys

open List

namespace FfxNexus.Evals
open Go

structure PluginRecord where
  id : String := ""
  orgID : String := ""
  name : String
  specYAML : String
  enabled : Bool := true
deriving DecidableEq

structure PluginSource where
  registry : Registry
  rows : List PluginRecord
  pluginToYAML : Plugin → String
  decode : String → Except String Plugin

namespace PluginSource

def lookup (src : PluginSource) (listing : Except String (List PluginRecord)) (name : String) :
    Option PluginRecord :=
  match src.registry.lookup name with
  | some rec => some
      { name := rec.plugin.name
        specYAML := src.pluginToYAML rec.plugin
        enabled := rec.enabled }
  | none =>
    match listing with
    | .error _ => none
    | .ok all => all.find? (·.name = name)

def lookupPluginForOrg (src : PluginSource) (listing : Except String (List PluginRecord))
    (orgID name : String) : Option PluginRecord :=
  match src.lookup listing name with
  | none => none
  | some rec => if rec.orgID ≠ "" ∧ rec.orgID ≠ orgID then none else some rec

end PluginSource

def isBlank (c : Char) : Bool := c = ' ' || c = '\t'

def trimSpaces (s : List Char) : List Char :=
  ((s.dropWhile isBlank).reverse.dropWhile isBlank).reverse

def consoleSplitKeyRef (keyRef : String) : List String :=
  ((splitOn '|' keyRef.toList).map trimSpaces).filterMap fun part =>
    if part = [] then none else some (String.ofList part)

variable (src : PluginSource)

def requiredKeyNames (rec : PluginRecord) : List String :=
  match src.decode rec.specYAML with
  | .error _ => []
  | .ok p => consoleSplitKeyRef p.service.auth.keyRef

structure PluginKeysEntry where
  name : String
  set : Bool

structure PluginKeysState where
  plugin : String
  configured : Bool
  keys : List PluginKeysEntry := []
  required : List String

inductive KeyReply
  | state (s : PluginKeysState)
  | badRequest (message : String)
  | forbidden (message : String)
  | notFound (message : String)
  | internalError (message : String)

inductive KeyAction
  | get
  | put (body : Option (Option (List (String × String))))
  | delete

structure KeyRequest where
  caller : Caller
  orgHeader : String := ""
  name : String
  listing : Except String (List PluginRecord) := .ok []
  action : KeyAction

variable (r : KeyResolver)

def KeyResolver.get (plugin : String) : KeyResolver × Option KeySet :=
  match r.stored plugin with
  | (r', .error _) => (r', none)
  | (r', .ok kv) => (r', if kv.keys = [] then none else some kv)

def keyEntries (required : List String) : Option KeySet → List PluginKeysEntry
  | none => required.map fun k => ⟨k, false⟩
  | some kv =>
    let extras := (kv.keys.filter (· ∉ required)).insertionSort (· ≤ ·)
    (required ++ extras).map fun k => ⟨k, !kv.missing k⟩

def getPluginKeys (rec : PluginRecord) (name : String) :
    KeyResolver × KeyReply :=
  let required := requiredKeyNames src rec
  let (r', stored) := r.get name
  (r', .state ⟨name, stored.isSome, keyEntries required stored, required⟩)

def putPluginKeys (orgID : String) (rec : PluginRecord)
    (name : String) (body : Option (Option (List (String × String)))) : KeyResolver × KeyReply :=
  match body with
  | none => (r, .badRequest "invalid JSON body")
  | some none => (r, .badRequest "body must contain a \"keys\" object")
  | some (some kv) =>
    let required := requiredKeyNames src rec
    if required ≠ [] ∧ kv = [] then
      (r, .badRequest "no keys supplied; paste them in the modal first")
    else
      match r.set name kv (.org orgID) with
      | (r', .error err) => (r', .internalError err)
      | (r', .ok ()) => (r', .state ⟨name, kv.any (·.2 ≠ ""), [], required⟩)

def deletePluginKeys (rec : PluginRecord) (name : String) :
    KeyResolver × KeyReply :=
  match r.clear name with
  | (r', .error err) => (r', .internalError err)
  | (r', .ok ()) => (r', .state ⟨name, false, [], requiredKeyNames src rec⟩)

def serveKeys (orgID : String) (rec : PluginRecord)
    (name : String) : KeyAction → KeyResolver × KeyReply
  | .get => getPluginKeys src r rec name
  | .put body => putPluginKeys src r orgID rec name body
  | .delete => deletePluginKeys src r rec name

def keyAdmin : Machine KeyResolver KeyRequest KeyReply where
  step r req :=
    if req.caller.admin = false then (r, .forbidden "admin role required")
    else
      let orgID := req.caller.requestOrg req.orgHeader
      match src.lookupPluginForOrg req.listing orgID req.name with
      | none => (r, .notFound "plugin not found")
      | some rec => serveKeys src r orgID rec req.name req.action

namespace KeyResolver

variable {r r' : KeyResolver} {name other : String}

lemma held_congr (hkeys : r'.keys.lookup other = r.keys.lookup other)
    (hvault : r'.vaulted other = r.vaulted other) : r'.held other = r.held other := by
  unfold held cached
  rw [hkeys, hvault]

lemma vaulted_of_rows {vault : KeyVault} {keys keys' : GoMap String KeySet}
    {rows : GoMap String KeySet} (h : rows.lookup other = vault.rows.lookup other) :
    vaulted ⟨keys', some { vault with rows := rows }⟩ other = vaulted ⟨keys, some vault⟩ other := by
  simp only [vaulted, KeyVault.load, h]

lemma save_cases (vault : KeyVault) (plugin : String) (c : KeySet) :
    (∃ err, vault.save plugin c = .error err) ∨
      vault.save plugin c = .ok { vault with rows := vault.rows.insert plugin (c.erase "") } := by
  unfold KeyVault.save
  split_ifs
  · exact Or.inl ⟨_, rfl⟩
  · exact Or.inl ⟨_, rfl⟩
  · cases vault.fault with
    | some err => exact Or.inl ⟨err, rfl⟩
    | none => exact Or.inr rfl

lemma held_set (kv : List (String × String)) (by' : StoredBy) (hother : other ≠ name) :
    (r.set name kv by').1.held other = r.held other := by
  obtain ⟨keys, vault⟩ := r
  have hkeys : (if (pasted kv by').keys = [] then keys.erase name
      else keys.insert name (pasted kv by')).lookup other = keys.lookup other := by
    split_ifs
    · exact AList.lookup_erase_ne hother
    · exact AList.lookup_insert_ne hother
  unfold set
  cases vault with
  | none => exact held_congr hkeys rfl
  | some vault =>
    simp only
    rcases save_cases vault name (pasted kv by') with ⟨err, hsave⟩ | hsave
    · rw [hsave]
      exact held_congr hkeys rfl
    · rw [hsave]
      exact held_congr hkeys (vaulted_of_rows (AList.lookup_insert_ne hother))

lemma held_clear (hother : other ≠ name) : (r.clear name).1.held other = r.held other := by
  obtain ⟨keys, vault⟩ := r
  have hkeys : (keys.erase name).lookup other = keys.lookup other := AList.lookup_erase_ne hother
  unfold clear
  cases vault with
  | none => exact held_congr hkeys rfl
  | some vault =>
    simp only
    unfold KeyVault.delete
    cases hfault : vault.fault with
    | some err => exact held_congr hkeys rfl
    | none =>
      refine held_congr hkeys ?_
      show vaulted ⟨_, some _⟩ other = _
      rw [← hfault]
      exact vaulted_of_rows (AList.lookup_erase_ne hother)

lemma held_get : (r.get name).1.held other = r.held other := by
  have hread := r.held_stored name other
  unfold get
  generalize r.stored name = read at hread ⊢
  obtain ⟨r', found⟩ := read
  cases found with
  | error err => exact hread
  | ok kv => exact hread

lemma get_snd : (r.get name).2 = if (r.held name).keys = [] then none else some (r.held name) := by
  have hstored := r.stored_eq_held name
  unfold get
  generalize r.held name = kv, r.stored name = read at hstored ⊢
  obtain ⟨r', found⟩ := read
  rcases hstored with hfound | ⟨err, hfound, rfl⟩
  · change found = _ at hfound
    rw [hfound]
  · change found = _ at hfound
    rw [hfound]
    rfl

structure SameBut (entry : String) (r r' : KeyResolver) : Prop where
  elsewhere : ∀ name, name ≠ entry → r'.held name = r.held name
  vault : r'.vault.map (fun v => (v.masterKey, v.fault)) =
    r.vault.map (fun v => (v.masterKey, v.fault))

variable {entry : String} (h : SameBut entry r r')

include h

lemma SameBut.vaults : (r.vault = none ∧ r'.vault = none) ∨
    ∃ v v', r.vault = some v ∧ r'.vault = some v' ∧ v'.masterKey = v.masterKey ∧
      v'.fault = v.fault := by
  have hvault := h.vault
  cases hr : r.vault with
  | none =>
    rw [hr] at hvault
    exact Or.inl ⟨rfl, by simpa using hvault⟩
  | some v =>
    rw [hr, Option.map_some, Option.map_eq_some_iff] at hvault
    obtain ⟨v', hv', heq⟩ := hvault
    exact Or.inr ⟨v, v', rfl, hv', congrArg Prod.fst heq, congrArg Prod.snd heq⟩

lemma set_snd_congr (kv : List (String × String)) (by' : StoredBy) :
    (r'.set name kv by').2 = (r.set name kv by').2 := by
  unfold set
  rcases h.vaults with ⟨hr, hr'⟩ | ⟨v, v', hr, hr', hmaster, hfault⟩
  · rw [hr, hr']
  rw [hr, hr']
  simp only [KeyVault.save, hmaster, hfault]
  by_cases hkey : v.masterKey = false
  · simp only [if_pos hkey]
  by_cases hname : name = ""
  · simp only [if_neg hkey, if_pos hname]
  simp only [if_neg hkey, if_neg hname]
  cases v.fault with
  | some err => rfl
  | none => rfl

lemma clear_snd_congr : (r'.clear name).2 = (r.clear name).2 := by
  unfold clear
  rcases h.vaults with ⟨hr, hr'⟩ | ⟨v, v', hr, hr', -, hfault⟩
  · rw [hr, hr']
  rw [hr, hr']
  simp only [KeyVault.delete, hfault]
  cases v.fault with
  | some err => rfl
  | none => rfl

end KeyResolver

section
variable {src : PluginSource} {r r' : KeyResolver} {orgID name entry : String}
  {rec : PluginRecord}

lemma held_serveKeys (action : KeyAction) (hentry : entry ≠ name) :
    (serveKeys src r orgID rec name action).1.held entry = r.held entry := by
  cases action with
  | get => exact KeyResolver.held_get
  | put body =>
    rcases body with _ | _ | kv
    · rfl
    · rfl
    have hset := KeyResolver.held_set (r := r) kv (.org orgID) hentry
    simp only [serveKeys, putPluginKeys]
    generalize r.set name kv (.org orgID) = written at hset ⊢
    obtain ⟨r', result⟩ := written
    split_ifs
    · rfl
    · cases result with
      | error err => exact hset
      | ok u => exact hset
  | delete =>
    have hclear := KeyResolver.held_clear (r := r) hentry
    simp only [serveKeys, deletePluginKeys]
    generalize r.clear name = written at hclear ⊢
    obtain ⟨r', result⟩ := written
    cases result with
    | error err => exact hclear
    | ok u => exact hclear

lemma serveKeys_snd_congr (action : KeyAction) (h : KeyResolver.SameBut entry r r')
    (hentry : entry ≠ name) :
    (serveKeys src r' orgID rec name action).2 = (serveKeys src r orgID rec name action).2 := by
  cases action with
  | get =>
    have hget : (r'.get name).2 = (r.get name).2 := by
      rw [KeyResolver.get_snd, KeyResolver.get_snd, h.elsewhere name hentry.symm]
    simp only [serveKeys, getPluginKeys, hget]
  | put body =>
    rcases body with _ | _ | kv
    · rfl
    · rfl
    have hset : (r'.set name kv (.org orgID)).2 = (r.set name kv (.org orgID)).2 :=
      KeyResolver.set_snd_congr h kv (.org orgID)
    simp only [serveKeys, putPluginKeys]
    generalize r.set name kv (.org orgID) = written,
      r'.set name kv (.org orgID) = written' at hset ⊢
    obtain ⟨s, result⟩ := written
    obtain ⟨s', result'⟩ := written'
    obtain rfl : result' = result := hset
    split_ifs
    · rfl
    · cases result' with
      | error err => rfl
      | ok u => rfl
  | delete =>
    have hclear : (r'.clear name).2 = (r.clear name).2 := KeyResolver.clear_snd_congr h
    simp only [serveKeys, deletePluginKeys]
    generalize r.clear name = written, r'.clear name = written' at hclear ⊢
    obtain ⟨s, result⟩ := written
    obtain ⟨s', result'⟩ := written'
    obtain rfl : result' = result := hclear
    cases result' with
    | error err => rfl
    | ok u => rfl

end

namespace PluginSource

def Installed (src : PluginSource) (org name : String) : Prop :=
  (∃ rec ∈ src.registry.records, rec.plugin.name = name ∧ (rec.orgID = "" ∨ rec.orgID = org)) ∨
    ∃ row ∈ src.rows, row.name = name ∧ (row.orgID = "" ∨ row.orgID = org)

def UsedElsewhere (src : PluginSource) (org entry : String) : Prop :=
  entry ≠ "" ∧
    ((∃ rec ∈ src.registry.records, rec.orgID ≠ "" ∧ rec.orgID ≠ org ∧
        rec.plugin.service.auth.secretRef = entry) ∨
      ∃ row ∈ src.rows, normalizeOrgID row.orgID ≠ "" ∧ row.orgID ≠ org ∧
        ∃ p, src.decode row.specYAML = .ok p ∧ p.service.auth.secretRef = entry)

def Offers (src : PluginSource) (org name : String) : Prop :=
  src.registry.Names name ∨ ∃ row ∈ src.rows, row.name = name ∧ (row.orgID = "" ∨ row.orgID = org)

def Lists (src : PluginSource) (listing : Except String (List PluginRecord)) : Prop :=
  ∀ all, listing = .ok all → all.Perm src.rows

variable {src : PluginSource} {listing : Except String (List PluginRecord)} {org name : String}

lemma lists_error (err : String) : src.Lists (.error err) := by
  intro all hall
  cases hall

lemma lookupPluginForOrg_of_names (h : src.registry.Names name) :
    ∃ rec, src.lookupPluginForOrg listing org name = some rec := by
  obtain ⟨rec, hrec⟩ := Registry.lookup_isSome_iff.mpr h
  refine ⟨⟨"", "", rec.plugin.name, src.pluginToYAML rec.plugin, rec.enabled⟩, ?_⟩
  unfold lookupPluginForOrg lookup
  rw [hrec]
  exact if_neg fun hne => hne.1 rfl

lemma lookup_of_not_names (h : ¬ src.registry.Names name) (all : List PluginRecord) :
    src.lookup (.ok all) name = all.find? (·.name = name) := by
  have hnone : src.registry.lookup name = none := by
    rw [Option.eq_none_iff_forall_ne_some]
    exact fun rec hrec => h (Registry.lookup_isSome_iff.mp ⟨rec, hrec⟩)
  unfold lookup
  rw [hnone]

lemma offers_of_found (hlists : src.Lists listing) {rec : PluginRecord}
    (h : src.lookupPluginForOrg listing org name = some rec) : src.Offers org name := by
  by_cases hnames : src.registry.Names name
  · exact Or.inl hnames
  right
  unfold lookupPluginForOrg at h
  cases listing with
  | error err =>
    have hnone : src.lookup (.error err) name = none := by
      unfold lookup
      cases hreg : src.registry.lookup name with
      | none => rfl
      | some found => exact absurd (Registry.lookup_isSome_iff.mp ⟨found, hreg⟩) hnames
    rw [hnone] at h
    cases h
  | ok all =>
    rw [lookup_of_not_names hnames] at h
    cases hfind : all.find? (·.name = name) with
    | none =>
      rw [hfind] at h
      cases h
    | some row =>
      rw [hfind] at h
      have hmem : row ∈ src.rows :=
        (hlists all rfl).mem_iff.mp (mem_of_find?_eq_some hfind)
      have hname : row.name = name := by simpa using find?_some hfind
      refine ⟨row, hmem, hname, ?_⟩
      by_contra hforeign
      rw [not_or] at hforeign
      simp [hforeign] at h

lemma found_of_offers (h : src.Offers org name) :
    ∃ listing, src.Lists listing ∧ ∃ rec, src.lookupPluginForOrg listing org name = some rec := by
  by_cases hnames : src.registry.Names name
  · exact ⟨.error "", lists_error "", lookupPluginForOrg_of_names hnames⟩
  obtain ⟨row, hmem, hname, horg⟩ := h.resolve_left hnames
  refine ⟨.ok (row :: src.rows.erase row), ?_, row, ?_⟩
  · intro all hall
    obtain rfl := Except.ok.inj hall
    exact (perm_cons_erase hmem).symm
  unfold lookupPluginForOrg
  rw [lookup_of_not_names hnames, find?_cons_of_pos (by simpa using hname)]
  refine if_neg fun hforeign => ?_
  exact horg.elim hforeign.1 hforeign.2

end PluginSource

structure KeyRequest.By (src : PluginSource) (org : String) (req : KeyRequest) : Prop where
  admin : req.caller.admin = true
  org : req.caller.requestOrg req.orgHeader = org
  lists : src.Lists req.listing

structure TenantLocal (src : PluginSource) (org : String) (r : KeyResolver) (req : KeyRequest) :
    Prop where
  refused : ¬ src.Installed org req.name →
    ((keyAdmin src).step r req).2 = .notFound "plugin not found"
  unchanged : ∀ entry, src.UsedElsewhere org entry →
    ((keyAdmin src).step r req).1.held entry = r.held entry
  unrevealed : ∀ entry, src.UsedElsewhere org entry → ∀ r', KeyResolver.SameBut entry r r' →
    ((keyAdmin src).step r' req).2 = ((keyAdmin src).step r req).2

structure KeysApart (src : PluginSource) (org : String) : Prop where
  installed : ∀ name, src.registry.Names name → src.Installed org name
  unused : ∀ name, src.Offers org name → ¬ src.UsedElsewhere org name

section
variable {src : PluginSource} {org : String} {r : KeyResolver} {req : KeyRequest}

lemma keyAdmin_step (hreq : req.By src org) : (keyAdmin src).step r req =
    match src.lookupPluginForOrg req.listing org req.name with
    | none => (r, .notFound "plugin not found")
    | some rec => serveKeys src r org rec req.name req.action := by
  unfold keyAdmin
  simp [hreq.admin, hreq.org]

lemma keyAdmin_step_of_found (hreq : req.By src org) {rec : PluginRecord}
    (h : src.lookupPluginForOrg req.listing org req.name = some rec) :
    (keyAdmin src).step r req = serveKeys src r org rec req.name req.action := by
  rw [keyAdmin_step hreq, h]

lemma keyAdmin_step_of_not_found (hreq : req.By src org)
    (h : src.lookupPluginForOrg req.listing org req.name = none) :
    (keyAdmin src).step r req = (r, .notFound "plugin not found") := by
  rw [keyAdmin_step hreq, h]

lemma tenantLocal_of_keysApart (hapart : KeysApart src org) (hreq : req.By src org) :
    TenantLocal src org r req := by
  cases hfound : src.lookupPluginForOrg req.listing org req.name with
  | none =>
    constructor
    · intro _
      rw [keyAdmin_step_of_not_found hreq hfound]
    · intro entry _
      rw [keyAdmin_step_of_not_found hreq hfound]
    · intro entry _ r' _
      rw [keyAdmin_step_of_not_found hreq hfound, keyAdmin_step_of_not_found hreq hfound]
  | some rec =>
    have hoffers : src.Offers org req.name := PluginSource.offers_of_found hreq.lists hfound
    have hne : ∀ entry, src.UsedElsewhere org entry → entry ≠ req.name := by
      rintro entry hused rfl
      exact hapart.unused _ hoffers hused
    constructor
    · intro hnot
      rcases hoffers with hnames | hrow
      · exact absurd (hapart.installed _ hnames) hnot
      · exact absurd (Or.inr hrow) hnot
    · intro entry hused
      rw [keyAdmin_step_of_found hreq hfound]
      exact held_serveKeys req.action (hne entry hused)
    · intro entry hused r' hsame
      rw [keyAdmin_step_of_found hreq hfound, keyAdmin_step_of_found hreq hfound]
      exact serveKeys_snd_congr req.action hsame (hne entry hused)

lemma held_serveKeys_put (rec : PluginRecord) (name : String) :
    (serveKeys src {} org rec name (.put (some (some [("api_key", "secret")])))).1.held name ≠
      KeyResolver.held {} name := by
  have hset : (KeyResolver.set {} name [("api_key", "secret")] (.org org)) =
      ({ keys := AList.insert name (pasted [("api_key", "secret")] (.org org)) ∅ }, .ok ()) := rfl
  have hkeys : (pasted [("api_key", "secret")] (.org org)).keys ≠ [] := by
    simp [pasted]
  simp only [serveKeys, putPluginKeys, cons_ne_nil, and_false, if_false, hset]
  have hheld := KeyResolver.held_insert {} name name hkeys
  rw [if_pos rfl] at hheld
  rw [hheld]
  intro heq
  rw [heq] at hkeys
  exact hkeys rfl

end

theorem keys_tenant_local_iff (src : PluginSource) (org : String) (horg : org ≠ "") :
    (∀ (r : KeyResolver) (reqs : List KeyRequest), (∀ req ∈ reqs, req.By src org) →
      (keyAdmin src).Along (TenantLocal src org) r reqs) ↔ KeysApart src org := by
  constructor
  · intro h
    have hone : ∀ name listing action, src.Lists listing →
        (⟨⟨"u", org, true⟩, "", name, listing, action⟩ : KeyRequest).By src org ∧
          TenantLocal src org {} ⟨⟨"u", org, true⟩, "", name, listing, action⟩ := by
      intro name listing action hlists
      have hby : (⟨⟨"u", org, true⟩, "", name, listing, action⟩ : KeyRequest).By src org :=
        ⟨rfl, Caller.requestOrg_eq horg "", hlists⟩
      exact ⟨hby, (h {} [_] (by simpa using hby)).head⟩
    constructor
    · intro name hnames
      by_contra hnot
      obtain ⟨hby, hlocal⟩ := hone name (.error "") .get (PluginSource.lists_error "")
      obtain ⟨rec, hfound⟩ : ∃ rec, src.lookupPluginForOrg (.error "") org name = some rec :=
        PluginSource.lookupPluginForOrg_of_names hnames
      have hreply := hlocal.refused hnot
      rw [keyAdmin_step_of_found hby hfound] at hreply
      simp [serveKeys, getPluginKeys] at hreply
    · intro name hoffers hused
      obtain ⟨listing, hlists, rec, hfound⟩ := PluginSource.found_of_offers hoffers
      obtain ⟨hby, hlocal⟩ :=
        hone name listing (.put (some (some [("api_key", "secret")]))) hlists
      have hheld := hlocal.unchanged name hused
      rw [keyAdmin_step_of_found hby hfound] at hheld
      exact held_serveKeys_put rec name hheld
  · intro hapart r reqs hreqs before req after heq
    refine tenantLocal_of_keysApart hapart (hreqs req ?_)
    rw [heq]
    exact mem_append_right _ mem_cons_self

def sourceOf (rec : Record) : PluginSource where
  registry := Registry.new.put rec
  rows := []
  pluginToYAML p := p.name
  decode _ := .error "not a manifest"

lemma mem_records_sourceOf {rec rec' : Record} :
    rec' ∈ (sourceOf rec).registry.records ↔ rec' = rec := by
  exact mem_singleton

lemma keysApart_cluster_plugin : KeysApart (sourceOf (judgeOf "")) "acme" := by
  constructor
  · rintro name ⟨rec, hrec, hname⟩
    have hjudge : name = "judge" := by
      rw [mem_records_sourceOf.mp hrec] at hname
      rcases hname with hname | hkey
      · exact hname.symm
      · exact (String.append_right_inj ("" ++ "\x00")).mp hkey.symm
    rw [hjudge]
    exact Or.inl ⟨judgeOf "", mem_records_sourceOf.mpr rfl, rfl, Or.inl rfl⟩
  · rintro name - ⟨-, ⟨rec, hrec, hforeign, -⟩ | ⟨row, hrow, -⟩⟩
    · rw [mem_records_sourceOf.mp hrec] at hforeign
      exact hforeign rfl
    · cases hrow

theorem keys_tenant_local_of_cluster_plugin :
    "acme" ≠ "" ∧ ∀ (r : KeyResolver) (reqs : List KeyRequest),
      (∀ req ∈ reqs, req.By (sourceOf (judgeOf "")) "acme") →
        (keyAdmin (sourceOf (judgeOf ""))).Along (TenantLocal (sourceOf (judgeOf "")) "acme")
          r reqs :=
  ⟨by decide,
    (keys_tenant_local_iff (sourceOf (judgeOf "")) "acme" (by decide)).mpr
      keysApart_cluster_plugin⟩

theorem keys_of_another_tenant_replaced :
    ¬ ∀ (src : PluginSource) (org : String) (r : KeyResolver) (reqs : List KeyRequest),
      (∀ req ∈ reqs, req.By src org) → (keyAdmin src).Along (TenantLocal src org) r reqs := by
  intro h
  have hlocal := (h (sourceOf (judgeOf "globex")) "acme"
    (KeyResolver.set {} "judge" [("api_key", "theirs")] (.org "globex")).1
    [⟨⟨"u-1", "acme", true⟩, "", "judge", .ok [], .put (some (some [("api_key", "ours")]))⟩] (by
        intro req hreq
        obtain rfl := mem_singleton.mp hreq
        exact ⟨rfl, by decide, fun all hall => by cases hall; exact List.Perm.nil⟩)).head
  have hused : (sourceOf (judgeOf "globex")).UsedElsewhere "acme" "judge" :=
    ⟨by decide, Or.inl ⟨judgeOf "globex", mem_records_sourceOf.mpr rfl, by decide, by decide, rfl⟩⟩
  have hheld := congrArg (fun kv => kv.lookup "api_key") (hlocal.unchanged "judge" hused)
  revert hheld
  decide

end FfxNexus.Evals
