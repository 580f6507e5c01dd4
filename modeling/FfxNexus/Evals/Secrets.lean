/-
**The secrets of evaluation profiles** (`internal/evals/secret_resolver.go`,
`store_secret_lookup.go`, the query of `core.Store.ResolveCredential`, and the wiring of
`cmd/nexus/main.go`).
-/
import FfxNexus.Evals.Profile
import Mathlib.Data.Prod.Lex

namespace FfxNexus.Evals
open Go Gateway Sorting List

structure CredentialRow where
  id : String
  orgID : String
  userID : Option String
  provider : String
  secretCiphertext : String
  enabled : Bool
  createdAt : ℤ
  models : String := ""
deriving DecidableEq

inductive SecretError
  | noMasterKey
  | query (err : String)
  | notFound
  | decrypt (id err : String)
  | models (id err : String)
  | expired (since : ℤ)
  | unknownSource (text : String)
deriving DecidableEq

structure CredentialStore where
  rows : List CredentialRow
  cipher : Option (String → Except String String)
  decodeModels : String → Except String (List String)
  fault : Option String

structure Secret where
  plain : String
  row : Option CredentialRow
deriving DecidableEq

def CredentialRow.matches (row : CredentialRow) (orgID userID provider : String) : Bool :=
  row.orgID = orgID && row.provider = provider && row.enabled &&
    ((userID ≠ "" && row.userID = some userID) || row.userID = none)

def CredentialRow.before (a b : CredentialRow) : Prop :=
  a.userID.isNone < b.userID.isNone ∨
    (a.userID.isNone = b.userID.isNone ∧ a.createdAt ≤ b.createdAt)

instance : DecidableRel CredentialRow.before := fun a b => by
  unfold CredentialRow.before
  infer_instance

def firstRow (rows : List CredentialRow) (orgID userID provider : String) :
    Option CredentialRow :=
  ((rows.filter (·.matches orgID userID provider)).insertionSort CredentialRow.before).head?

def CredentialStore.resolveCredential (s : CredentialStore) (orgID userID provider : String) :
    Except SecretError Secret :=
  match s.cipher with
  | none => .error .noMasterKey
  | some decrypt =>
    match s.fault with
    | some err => .error (.query err)
    | none =>
      match firstRow s.rows (if orgID = "" then "default" else orgID) userID provider with
      | none => .error .notFound
      | some row =>
        match decrypt row.secretCiphertext with
        | .error err => .error (.decrypt row.id err)
        | .ok plain =>
          if row.models = "" then .ok ⟨plain, some row⟩
          else
            match s.decodeModels row.models with
            | .error err => .error (.models row.id err)
            | .ok _ => .ok ⟨plain, some row⟩

structure StoreSecretLookup where
  store : CredentialStore
  orgID : String

variable (store : CredentialStore) (l : StoreSecretLookup)

def newStoreSecretLookup (orgID : String) : StoreSecretLookup :=
  ⟨store, if orgID = "" then "default" else orgID⟩

def StoreSecretLookup.org (provider : String) : Except SecretError Secret :=
  l.store.resolveCredential l.orgID "" provider

def StoreSecretLookup.user (provider userID : String) :
    Except SecretError Secret :=
  if userID = "" then l.org provider else l.store.resolveCredential l.orgID userID provider

structure InlineEntry where
  plain : String
  expires : Option ℤ

variable (inline : GoMap String InlineEntry)

structure Resolver where
  lookup : StoreSecretLookup
  orgProvider : String := "openai"
  inline : GoMap String InlineEntry

def afterScheme (s : List Char) : List Char :=
  ((s.tails.find? ("://".toList.isPrefixOf ·)).map (·.drop 3)).getD s

def deriveProviderFromURL (raw : String) : String :=
  String.ofList (((afterScheme raw.toList).takeWhile (· ≠ '/')).takeWhile (· ≠ '.'))

def keyOwner (t : Trace) (ep : EvalEndpoint) : String :=
  if ep.keyRef = "" then t.userID else ep.keyRef

def Resolver.orgProviderOf (r : Resolver) (ep : EvalEndpoint) : String :=
  if ep.baseURL ≠ "" then deriveProviderFromURL ep.baseURL else r.orgProvider

def Resolver.resolve (r : Resolver) (now : ℤ) (t : Trace) (ep : EvalEndpoint) :
    Except SecretError Secret :=
  match ep.keySource with
  | .builtin | .empty => .ok ⟨"", none⟩
  | .org => r.lookup.org (r.orgProviderOf ep)
  | .user => r.lookup.user (deriveProviderFromURL ep.baseURL) (keyOwner t ep)
  | .inline =>
    match r.inline.lookup ep.keyRef with
    | none => .error .notFound
    | some entry =>
      match entry.expires with
      | none => .ok ⟨entry.plain, none⟩
      | some deadline =>
        if deadline < now then .error (.expired deadline) else .ok ⟨entry.plain, none⟩
  | .other text => .error (.unknownSource text)

def mainResolver : Resolver where
  lookup := newStoreSecretLookup store "default"
  inline := inline

variable {first : CredentialRow}

section
variable {rows : List CredentialRow} {row : CredentialRow} {orgID userID provider : String}

def CredentialRow.sortKey (row : CredentialRow) : Bool ×ₗ ℤ :=
  toLex (row.userID.isNone, row.createdAt)

lemma byKey_before : ByKey CredentialRow.before CredentialRow.sortKey := by
  intro a b
  unfold CredentialRow.before CredentialRow.sortKey
  rw [Prod.Lex.toLex_le_toLex]

lemma CredentialRow.of_matches (h : row.matches orgID userID provider = true) :
    row.orgID = orgID ∧ (row.userID = some userID ∨ row.userID = none) := by
  unfold CredentialRow.matches at h
  simp only [Bool.and_eq_true, Bool.or_eq_true, decide_eq_true_eq] at h
  exact ⟨h.1.1.1, h.2.imp_left And.right⟩

lemma firstRow_le (h : firstRow rows orgID userID provider = some first) :
    (first ∈ rows ∧ first.matches orgID userID provider = true) ∧
      ∀ row ∈ rows, row.matches orgID userID provider = true → first.sortKey ≤ row.sortKey := by
  obtain ⟨hmem, hle⟩ := byKey_before.head_le h
  refine ⟨mem_filter.mp hmem, ?_⟩
  intro row hrow hmatch
  exact hle row (mem_filter.mpr ⟨hrow, hmatch⟩)

lemma exists_firstRow (hmem : row ∈ rows) (hmatch : row.matches orgID userID provider = true) :
    ∃ first, firstRow rows orgID userID provider = some first := by
  have hsorted : row ∈ (rows.filter (·.matches orgID userID provider)).insertionSort
      CredentialRow.before := by
    rw [mem_insertionSort, mem_filter]
    exact ⟨hmem, hmatch⟩
  obtain ⟨first, rest, hlist⟩ := exists_cons_of_ne_nil (ne_nil_of_mem hsorted)
  refine ⟨first, ?_⟩
  unfold firstRow
  rw [hlist, head?_cons]

lemma firstRow_owned (h : firstRow rows orgID userID provider = some first) (hmem : row ∈ rows)
    (hmatch : row.matches orgID userID provider = true) (howned : row.userID ≠ none) :
    first.userID ≠ none := by
  intro hnone
  have hle := (firstRow_le h).2 row hmem hmatch
  unfold CredentialRow.sortKey at hle
  have hisNone : row.userID.isNone = false := by
    rw [Option.isNone_eq_false_iff]
    exact Option.isSome_iff_ne_none.mpr howned
  rw [Prod.Lex.toLex_le_toLex, hnone, hisNone] at hle
  rcases hle with hlt | ⟨heq, -⟩
  · exact absurd hlt (not_lt_of_ge (Bool.false_le _))
  · cases heq

lemma resolveCredential_eq_ok {s : CredentialStore} {secret : Secret} (horg : orgID ≠ "")
    (h : s.resolveCredential orgID userID provider = .ok secret) :
    ∃ decrypt first, s.cipher = some decrypt ∧ firstRow s.rows orgID userID provider = some first ∧
      decrypt first.secretCiphertext = .ok secret.plain ∧ secret.row = some first := by
  unfold CredentialStore.resolveCredential at h
  rw [if_neg horg] at h
  split at h
  · cases h
  rename_i decrypt hcipher
  split at h
  · cases h
  split at h
  · cases h
  rename_i first hfirst
  split at h
  · cases h
  rename_i plain hplain
  refine ⟨decrypt, first, hcipher, hfirst, ?_⟩
  split_ifs at h
  · cases h
    exact ⟨hplain, rfl⟩
  · split at h
    · cases h
    · cases h
      exact ⟨hplain, rfl⟩

lemma resolveCredential_of_firstRow (horg : orgID ≠ "")
    (h : firstRow rows orgID userID provider = some first) :
    CredentialStore.resolveCredential ⟨rows, some .ok, fun _ => .ok [], none⟩ orgID userID
        provider = .ok ⟨first.secretCiphertext, some first⟩ := by
  unfold CredentialStore.resolveCredential
  rw [if_neg horg]
  simp only [h]
  split_ifs <;> rfl

end

def askedOwner (t : Trace) (ep : EvalEndpoint) : String :=
  if ep.keySource = .user then keyOwner t ep else ""

def askedProvider (ep : EvalEndpoint) : String :=
  if ep.keySource = .user ∨ ep.baseURL ≠ "" then deriveProviderFromURL ep.baseURL else "openai"

lemma resolve_eq (now : ℤ)
    (t : Trace) {ep : EvalEndpoint} (hsource : ep.keySource = .org ∨ ep.keySource = .user) :
    (mainResolver store inline).resolve now t ep =
      store.resolveCredential "default" (askedOwner t ep) (askedProvider ep) := by
  unfold Resolver.resolve askedOwner askedProvider
  rcases hsource with hsource | hsource
  · rw [hsource]
    simp only [reduceCtorEq, false_or]
    rfl
  rw [hsource]
  simp only [true_or]
  unfold StoreSecretLookup.user
  split_ifs with hempty
  · rw [hempty]
    rfl
  · rfl

def OwnSecret (rows : List CredentialRow) (t : Trace) (ep : EvalEndpoint) : Prop :=
  (∃ row ∈ rows, row.matches "default" (askedOwner t ep) (askedProvider ep) = true) →
    t.orgID = "default" ∧
      (ep.keySource = .user → ∃ row ∈ rows,
        row.matches "default" (askedOwner t ep) (askedProvider ep) = true ∧
          row.userID = some t.userID)

/-- A secret that is resolved for a trace is the decrypted one of a row of the trace's org, and of
its user where the endpoint asks for the user's own key. -/
def SecretsStay (rows : List CredentialRow) (t : Trace) (ep : EvalEndpoint) : Prop :=
  ∀ (cipher : Option (String → Except String String))
    (decodeModels : String → Except String (List String)) (fault : Option String)
    (inline : GoMap String InlineEntry) (now : ℤ) (secret : Secret),
    (mainResolver ⟨rows, cipher, decodeModels, fault⟩ inline).resolve now t ep = .ok secret →
      ∃ decrypt, cipher = some decrypt ∧ ∃ row ∈ rows, secret.row = some row ∧
        decrypt row.secretCiphertext = .ok secret.plain ∧ row.orgID = t.orgID ∧
        (ep.keySource = .user → row.userID = some t.userID)

theorem secrets_stay_iff (rows : List CredentialRow) (t : Trace) (ep : EvalEndpoint)
    (hsource : ep.keySource = .org ∨ ep.keySource = .user) :
    SecretsStay rows t ep ↔ OwnSecret rows t ep := by
  have hdefault : "default" ≠ "" := by decide
  constructor
  · rintro h ⟨row, hmem, hmatch⟩
    obtain ⟨first, hfirst⟩ := exists_firstRow hmem hmatch
    obtain ⟨hfirstMem, hfirstMatch⟩ := (firstRow_le hfirst).1
    have hresolve := resolve_eq ⟨rows, some .ok, fun _ => .ok [], none⟩ ∅ 0 t hsource
    rw [resolveCredential_of_firstRow hdefault hfirst] at hresolve
    obtain ⟨-, -, row', -, hrow, -, horg, huser⟩ := h _ _ _ _ _ _ hresolve
    obtain rfl : first = row' := Option.some.inj hrow
    refine ⟨?_, fun hsrc => ⟨first, hfirstMem, hfirstMatch, huser hsrc⟩⟩
    rw [← horg]
    exact (CredentialRow.of_matches hfirstMatch).1
  · intro hown cipher decodeModels fault inline now secret hresolve
    rw [resolve_eq _ _ _ _ hsource] at hresolve
    obtain ⟨decrypt, first, hcipher, hfirst, hplain, hrow⟩ :=
      resolveCredential_eq_ok hdefault hresolve
    obtain ⟨hmem, hmatch⟩ := (firstRow_le hfirst).1
    obtain ⟨horg, huser⟩ := hown ⟨first, hmem, hmatch⟩
    obtain ⟨hfirstOrg, hfirstUser⟩ := CredentialRow.of_matches hmatch
    refine ⟨decrypt, hcipher, first, hmem, hrow, hplain, hfirstOrg.trans horg.symm, fun hsrc => ?_⟩
    obtain ⟨row, hrowMem, hrowMatch, hrowUser⟩ := huser hsrc
    have howned : first.userID ≠ none :=
      firstRow_owned hfirst hrowMem hrowMatch (by rw [hrowUser]; exact Option.some_ne_none _)
    have hasked := (CredentialRow.of_matches hrowMatch).2.resolve_right
      (by rw [hrowUser]; exact Option.some_ne_none _)
    rw [hfirstUser.resolve_right howned, ← hasked, hrowUser]

def sharedRow : CredentialRow where
  id := "cred-1"
  orgID := "default"
  userID := none
  provider := "judge"
  secretCiphertext := "c2stZGVmYXVsdA=="
  enabled := true
  createdAt := 1

def orgEndpoint : EvalEndpoint where
  baseURL := "https://judge.example/v1"
  model := "judge-1"
  keySource := .org

def ownRow : CredentialRow where
  id := "cred-2"
  orgID := "default"
  userID := some "alice"
  provider := "judge"
  secretCiphertext := "c2stYWxpY2U="
  enabled := true
  createdAt := 2

def ownTrace : Trace := { (default : Trace) with orgID := "default", userID := "alice" }

theorem secrets_stay_own_key :
    OwnSecret [sharedRow, ownRow] ownTrace { orgEndpoint with keySource := .user } ∧
      SecretsStay [sharedRow, ownRow] ownTrace { orgEndpoint with keySource := .user } := by
  have hown : OwnSecret [sharedRow, ownRow] ownTrace { orgEndpoint with keySource := .user } :=
    fun _ => ⟨rfl, fun _ => ⟨ownRow, by decide, by decide, rfl⟩⟩
  exact ⟨hown, (secrets_stay_iff _ _ _ (Or.inr rfl)).mpr hown⟩

theorem default_orgs_secret : ¬ ∀ (rows : List CredentialRow) (t : Trace) (ep : EvalEndpoint),
      ep.keySource = .org ∨ ep.keySource = .user → SecretsStay rows t ep := by
  intro h
  obtain ⟨-, -, row, hmem, -, -, horg, -⟩ := h [sharedRow]
    { (default : Trace) with orgID := "acme" } orgEndpoint (Or.inl rfl) (some .ok)
    (fun _ => .ok []) none ∅ 0 ⟨"c2stZGVmYXVsdA==", some sharedRow⟩ (by decide)
  rw [mem_singleton.mp hmem] at horg
  exact absurd horg (by decide)

end FfxNexus.Evals
