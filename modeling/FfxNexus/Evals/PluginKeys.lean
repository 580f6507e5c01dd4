/-
**The keys of evaluation plugins** (`cmd/nexus/plugin_keys.go`, `resolveAuth` of
`internal/evaluators/external/target.go`, and the reserved name of `internal/benchmark/types.go`).
-/
import FfxNexus.Evals.Plugin

open List

namespace FfxNexus.Evals
open Go Guardrails

inductive StoredBy
  | org (orgID : String)
  | benchmark
deriving DecidableEq

structure StoredValue where
  value : String
  storedBy : StoredBy
deriving DecidableEq

abbrev KeySet : Type := GoMap String StoredValue

structure KeyVault where
  rows : GoMap String KeySet := ∅
  masterKey : Bool := true
  fault : Option String := none

structure KeyResolver where
  keys : GoMap String KeySet := ∅
  vault : Option KeyVault := none

def benchmarkCredentialName : String := "benchmark-primeintellect"

def pasted (kv : List (String × String)) (by' : StoredBy) : KeySet :=
  kv.foldl (fun c e => if e.2 = "" then c else c.insert e.1 ⟨e.2, by'⟩) ∅

def errNoMasterKey : String := "crypto: master key not configured"

namespace KeyVault
variable (vault : KeyVault) (plugin : String)

def save (c : KeySet) : Except String KeyVault :=
  if vault.masterKey = false then .error errNoMasterKey
  else if plugin = "" then .error "core: plugin name is required"
  else
    match vault.fault with
    | some err => .error err
    | none => .ok { vault with rows := vault.rows.insert plugin (c.erase "") }

def load : Except String KeySet :=
  if vault.masterKey = false then .error errNoMasterKey
  else
    match vault.fault with
    | some err => .error err
    | none => .ok ((vault.rows.lookup plugin).getD ∅)

def delete : Except String KeyVault :=
  match vault.fault with
  | some err => .error err
  | none => .ok { vault with rows := vault.rows.erase plugin }

end KeyVault

namespace KeyResolver

variable (r : KeyResolver)

variable (plugin : String)

def set (kv : List (String × String)) (by' : StoredBy) :
    KeyResolver × Except String Unit :=
  let c := pasted kv by'
  let keys := if c.keys = [] then r.keys.erase plugin else r.keys.insert plugin c
  match r.vault with
  | none => ({ r with keys := keys }, .ok ())
  | some vault =>
    match vault.save plugin c with
    | .error err => ({ r with keys := keys },
        .error ("keys are active in this process but were not persisted, " ++
          "so a restart will lose them: " ++ err))
    | .ok vault => (⟨keys, some vault⟩, .ok ())

def clear : KeyResolver × Except String Unit :=
  let keys := r.keys.erase plugin
  match r.vault with
  | none => ({ r with keys := keys }, .ok ())
  | some vault =>
    match vault.delete plugin with
    | .error err => ({ r with keys := keys }, .error err)
    | .ok vault => (⟨keys, some vault⟩, .ok ())

def cached : Option KeySet :=
  (r.keys.lookup plugin).filter fun kv => kv.keys ≠ []

def loadFromVault : KeyResolver × Except String KeySet :=
  match r.vault with
  | none => (r, .ok ∅)
  | some vault =>
    match vault.load plugin with
    | .error err => (r, .error err)
    | .ok kv =>
      if kv.keys = [] then (r, .ok ∅)
      else ({ r with keys := r.keys.insert plugin kv }, .ok kv)

def stored : KeyResolver × Except String KeySet :=
  match r.cached plugin with
  | some kv => (r, .ok kv)
  | none => r.loadFromVault plugin

end KeyResolver

structure Credential where
  value : String
  under : String
  storedBy : StoredBy
deriving DecidableEq

def splitOn (sep : Char) : List Char → List (List Char)
  | [] => [[]]
  | c :: rest =>
    if c = sep then [] :: splitOn sep rest
    else
      match splitOn sep rest with
      | [] => [[c]]
      | part :: parts => (c :: part) :: parts

def splitKeyRef (keyRef : String) : List String :=
  ((splitOn '|' keyRef.toList).map trimSpace).filterMap fun part =>
    if part = [] then none else some (String.ofList part)

variable (kv : KeySet)

def KeySet.Has (key : String) : Prop :=
  ∃ v, kv.lookup key = some v ∧ v.value ≠ ""

def KeySet.missing (key : String) : Bool := (kv.lookup key).all (·.value = "")

lemma KeySet.missing_eq_false {kv : KeySet} {key : String} :
    kv.missing key = false ↔ kv.Has key := by
  unfold KeySet.missing KeySet.Has
  cases kv.lookup key with
  | none => simp
  | some v => simp

def KeySet.credentials (under : String) (keys : List String) : List Credential :=
  keys.filterMap fun key => (kv.lookup key).map fun v => ⟨v.value, under, v.storedBy⟩

variable (r : KeyResolver)

def KeyResolver.resolve (auth : AuthSpec) :
    KeyResolver × Except String (List Credential) :=
  if auth.secretRef = "" ∧ auth.keyRef = "" then (r, .ok [])
  else if auth.secretRef = "" then
    (r, .error ("auth.secretRef is empty (operator must paste the keys against a plugin " ++
      "name that matches the saved manifest's metadata.name)"))
  else if splitKeyRef auth.keyRef = [] then
    (r, .error ("auth.keyRef is empty for plugin " ++ auth.secretRef.quote ++
      ": name the keys the manifest needs, e.g. keyRef: public_key|secret_key"))
  else
    match r.stored auth.secretRef with
    | (r', .error err) =>
      (r', .error ("load stored keys for plugin " ++ auth.secretRef.quote ++ ": " ++ err))
    | (r', .ok kv) =>
      if kv.keys = [] then
        (r', .error ("no keys set for plugin " ++ auth.secretRef.quote ++
          ": paste them in the Plugin Keys panel and retry"))
      else
        let missing := (splitKeyRef auth.keyRef).filter kv.missing
        if missing ≠ [] then
          (r', .error ("plugin " ++ auth.secretRef.quote ++ " is missing key(s) " ++
            ", ".intercalate (missing.insertionSort (· ≤ ·)) ++
            ": paste them in the Plugin Keys panel and retry"))
        else (r', .ok (kv.credentials auth.secretRef (splitKeyRef auth.keyRef)))

def resolveAuth (r : Option KeyResolver) (p : Plugin) :
    Option KeyResolver × Except String (List Credential) :=
  if p.service.auth.secretRef = "" ∧ p.service.auth.keyRef = "" then (r, .ok [])
  else
    match r with
    | none => (none, .error "plugin declares auth but no secret resolver is configured")
    | some r => (some (r.resolve p.service.auth).1, (r.resolve p.service.auth).2)

namespace KeyResolver

def vaulted (name : String) : KeySet :=
  match r.vault with
  | none => ∅
  | some vault => (vault.load name).toOption.getD ∅

def held (name : String) : KeySet := (r.cached name).getD (r.vaulted name)

lemma held_of_cached {r : KeyResolver} {name : String} {kv : KeySet}
    (h : r.cached name = some kv) : r.held name = kv := by
  rw [held, h, Option.getD_some]

lemma held_of_not_cached {r : KeyResolver} {name : String} (h : r.cached name = none) :
    r.held name = r.vaulted name := by
  rw [held, h, Option.getD_none]

lemma eq_empty_of_keys {kv : KeySet} (h : kv.keys = []) : kv = ∅ := by
  apply AList.ext
  exact map_eq_nil_iff.mp h

variable (r : KeyResolver)

lemma stored_eq_held (name : String) : (r.stored name).2 = .ok (r.held name) ∨
      ∃ err, (r.stored name).2 = .error err ∧ r.held name = ∅ := by
  unfold stored
  cases hc : r.cached name with
  | some kv =>
    rw [held_of_cached hc]
    exact .inl rfl
  | none =>
    rw [held_of_not_cached hc, vaulted]
    unfold loadFromVault
    cases r.vault with
    | none => exact .inl rfl
    | some vault =>
      simp only
      cases vault.load name with
      | error err => exact .inr ⟨err, rfl, rfl⟩
      | ok row =>
        left
        by_cases hrow : row.keys = []
        · rw [eq_empty_of_keys hrow]
          rfl
        · simp only [if_neg hrow]
          rfl

lemma held_insert (name other : String) {row : KeySet} (hrow : row.keys ≠ []) :
    held { r with keys := r.keys.insert name row } other =
      if other = name then row else r.held other := by
  by_cases hother : other = name
  · subst hother
    have hcached : cached { r with keys := r.keys.insert other row } other = some row := by
      rw [cached, AList.lookup_insert]
      simpa using hrow
    rw [held_of_cached hcached, if_pos rfl]
  · rw [if_neg hother]
    simp only [held, cached, AList.lookup_insert_ne hother]
    rfl

lemma held_stored (name other : String) : (r.stored name).1.held other = r.held other := by
  unfold stored
  cases hc : r.cached name with
  | some kv => rfl
  | none =>
    unfold loadFromVault
    cases hv : r.vault with
    | none => rfl
    | some vault =>
      simp only
      cases hl : vault.load name with
      | error err => rfl
      | ok row =>
        by_cases hrow : row.keys = []
        · simp only [if_pos hrow]
        simp only [if_neg hrow]
        rw [← hv, held_insert r name other hrow]
        by_cases hother : other = name
        · -- the row is cached now, and was in the vault before
          subst hother
          rw [if_pos rfl, held_of_not_cached hc, vaulted, hv]
          simp only [hl]
          rfl
        · rw [if_neg hother]

end KeyResolver

def KeySet.Complete (keys : List String) : Prop :=
  keys ≠ [] ∧ ∀ key ∈ keys, kv.Has key

lemma KeySet.keys_ne_nil {kv : KeySet} {keys : List String} (h : kv.Complete keys) :
    kv.keys ≠ [] := by
  obtain ⟨hne, hall⟩ := h
  obtain ⟨key, rest, rfl⟩ := exists_cons_of_ne_nil hne
  obtain ⟨v, hv, -⟩ := hall key mem_cons_self
  have hmem : key ∈ kv.keys := by
    rw [← AList.mem_keys, ← AList.lookup_isSome, hv]
    rfl
  exact ne_nil_of_mem hmem

lemma KeySet.mem_credentials {kv : KeySet} {under : String} {keys : List String}
    {c : Credential} : c ∈ kv.credentials under keys ↔
      ∃ key ∈ keys, ∃ v, kv.lookup key = some v ∧ c = ⟨v.value, under, v.storedBy⟩ := by
  unfold KeySet.credentials
  rw [mem_filterMap]
  simp only [Option.map_eq_some_iff, eq_comm (a := c)]

section
variable {r : KeyResolver} {auth : AuthSpec} {creds : List Credential}

lemma resolve_eq_ok_iff (href : auth.secretRef ≠ "") : (r.resolve auth).2 = .ok creds ↔
      (r.held auth.secretRef).Complete (splitKeyRef auth.keyRef) ∧
        creds = (r.held auth.secretRef).credentials auth.secretRef (splitKeyRef auth.keyRef) := by
  unfold KeyResolver.resolve
  rw [if_neg fun h => href h.1, if_neg href]
  by_cases hkeys : splitKeyRef auth.keyRef = []
  · simp [hkeys, KeySet.Complete]
  rw [if_neg hkeys]
  have hstored := r.stored_eq_held auth.secretRef
  generalize r.held auth.secretRef = kv, r.stored auth.secretRef = read at hstored ⊢
  obtain ⟨r', found⟩ := read
  rcases hstored with hfound | ⟨err, hfound, rfl⟩
  · have hmissing : (splitKeyRef auth.keyRef).filter kv.missing = [] ↔
        kv.Complete (splitKeyRef auth.keyRef) := by
      rw [filter_eq_nil_iff]
      simp only [Bool.not_eq_true, KeySet.missing_eq_false, KeySet.Complete, ne_eq, hkeys,
        not_false_eq_true, true_and]
    change found = _ at hfound
    rw [hfound]
    simp only
    by_cases hcomplete : kv.Complete (splitKeyRef auth.keyRef)
    · rw [if_neg (KeySet.keys_ne_nil hcomplete), if_neg (not_not.mpr (hmissing.mpr hcomplete))]
      simp [hcomplete, eq_comm]
    · rw [if_pos (mt hmissing.mp hcomplete)]
      split_ifs <;> simp [hcomplete]
  · have hnone : ¬ KeySet.Complete ∅ (splitKeyRef auth.keyRef) :=
      fun h => KeySet.keys_ne_nil h rfl
    change found = _ at hfound
    rw [hfound]
    simp [hnone]

lemma resolve_eq_nil (href : auth.secretRef = "") (h : (r.resolve auth).2 = .ok creds) :
    creds = [] := by
  unfold KeyResolver.resolve at h
  split_ifs at h
  · simpa using h.symm

end

def Confined (rec : Record) (creds : List Credential) : Prop :=
  ∀ c ∈ creds, c.under = rec.plugin.name ∧
    (c.storedBy = .org rec.orgID ∨ c.storedBy = .org "")

/-- If the store holds what a manifest asks for, the manifest refers to its own plugin, and the keys
were stored by its organisation or for the cluster. -/
def OwnKeys (r : KeyResolver) (rec : Record) : Prop :=
  let auth := rec.plugin.service.auth
  auth.secretRef ≠ "" → (r.held auth.secretRef).Complete (splitKeyRef auth.keyRef) →
    auth.secretRef = rec.plugin.name ∧
      ∀ key ∈ splitKeyRef auth.keyRef, ∀ v, (r.held auth.secretRef).lookup key = some v →
        v.storedBy = .org rec.orgID ∨ v.storedBy = .org ""

theorem keys_confined_iff (r : KeyResolver) (rec : Record) :
    (∀ creds, (resolveAuth (some r) rec.plugin).2 = .ok creds → Confined rec creds) ↔
      OwnKeys r rec := by
  have hauth : ∀ creds, rec.plugin.service.auth.secretRef ≠ "" →
      ((resolveAuth (some r) rec.plugin).2 = .ok creds ↔
        (r.resolve rec.plugin.service.auth).2 = .ok creds) := by
    intro creds href
    unfold resolveAuth
    rw [if_neg fun h => href h.1]
  constructor
  · intro h href hcomplete
    have hconfined := h _ ((hauth _ href).mpr ((resolve_eq_ok_iff href).mpr ⟨hcomplete, rfl⟩))
    have hof : ∀ key ∈ splitKeyRef rec.plugin.service.auth.keyRef, ∀ v,
        (r.held rec.plugin.service.auth.secretRef).lookup key = some v →
        rec.plugin.service.auth.secretRef = rec.plugin.name ∧
          (v.storedBy = .org rec.orgID ∨ v.storedBy = .org "") := by
      intro key hkey v hv
      exact hconfined _ (KeySet.mem_credentials.mpr ⟨key, hkey, v, hv, rfl⟩)
    refine ⟨?_, fun key hkey v hv => (hof key hkey v hv).2⟩
    obtain ⟨key, hkey⟩ := exists_mem_of_ne_nil _ hcomplete.1
    obtain ⟨v, hv, -⟩ := hcomplete.2 key hkey
    exact (hof key hkey v hv).1
  · intro hown creds hcreds c hc
    by_cases href : rec.plugin.service.auth.secretRef = ""
    · -- nothing is given, so there is no such credential
      have hnil : creds = [] := by
        unfold resolveAuth at hcreds
        split_ifs at hcreds
        · simpa using hcreds.symm
        · exact resolve_eq_nil href hcreds
      rw [hnil] at hc
      cases hc
    · obtain ⟨hcomplete, rfl⟩ := (resolve_eq_ok_iff href).mp ((hauth creds href).mp hcreds)
      obtain ⟨hname, howner⟩ := hown href hcomplete
      obtain ⟨key, hkey, v, hv, rfl⟩ := KeySet.mem_credentials.mp hc
      exact ⟨hname, howner key hkey v hv⟩

def withBenchmarkToken : KeyResolver :=
  (KeyResolver.set {} benchmarkCredentialName [("api_key", "pit-token")] .benchmark).1

theorem benchmark_token_given_away :
    ¬ ∀ (r : KeyResolver) (rec : Record), validate rec.plugin = .ok () →
      ∀ creds, (resolveAuth (some r) rec.plugin).2 = .ok creds → Confined rec creds := by
  intro h
  have hconfined := h withBenchmarkToken (referring "collector" benchmarkCredentialName)
    (by decide) [⟨"pit-token", benchmarkCredentialName, .benchmark⟩] (by decide)
  have hname := (hconfined _ (mem_singleton_self _)).1
  exact absurd hname (by decide)

end FfxNexus.Evals
