/-
**Where the adapters come from** (`registerProviders`, `registerBuiltinCatalog` and
`registerStoredCredentials` of `cmd/nexus/main.go`, the constructors of
`internal/gateway/providers`, and the queries on `provider_credentials` of
`internal/core/store.go`).
-/
import FfxNexus.Console
import FfxNexus.Gateway

open List

namespace FfxNexus.StoredProviders
open Go Providers Gateway

inductive Builtin
  | openai | anthropic | gemini | groq | mistral | grid

namespace Builtin

def name : Builtin → String
  | openai => "openai"
  | anthropic => "anthropic"
  | gemini => "gemini"
  | groq => "groq"
  | mistral => "mistral"
  | grid => "grid"

def models : Builtin → List String
  | openai => ["gpt-4o", "gpt-4o-mini", "gpt-4.1", "gpt-4.1-mini", "o3", "o4-mini"]
  | anthropic =>
    ["claude-opus-4-1", "claude-sonnet-4-5", "claude-haiku-4-5", "claude-3-7-sonnet-latest",
      "claude-3-5-haiku-latest"]
  | gemini => ["gemini-2.5-pro", "gemini-2.5-flash", "gemini-2.0-flash"]
  | groq =>
    ["llama-3.3-70b-versatile", "llama-3.3-70b-specdec", "llama-3.1-8b-instant",
      "llama-3.1-70b-versatile", "llama3-8b-8192", "llama3-70b-8192", "mixtral-8x7b-32768",
      "gemma2-9b-it", "whisper-large-v3", "whisper-large-v3-turbo", "llama-guard-3-8b"]
  | mistral =>
    ["mistral-large-latest", "mistral-medium-latest", "mistral-small-latest",
      "mistral-small-2409", "codestral-latest", "codestral-2405", "open-mistral-7b",
      "open-mixtral-8x7b", "ministral-8b-latest", "ministral-3b-latest", "pixtral-12b-2409"]
  | grid =>
    ["text-standard", "text-prime", "text-max", "code-standard", "code-prime", "code-max",
      "agent-standard", "agent-prime", "agent-max", "gpt-sol-latest", "claude-opus-latest",
      "gemini-pro-latest", "minimax-latest", "glm-latest", "deepseek-pro-latest", "kimi-latest",
      "bytedance-pro-latest"]

def embeddingModels : Builtin → Option (List String)
  | openai => some ["text-embedding-3-small", "text-embedding-3-large", "text-embedding-ada-002"]
  | mistral => some ["mistral-embed", "codestral-embed"]
  | groq | grid => some []
  | anthropic | gemini => none

def moderationModels : Builtin → Option (List String)
  | openai =>
    some ["omni-moderation-latest", "omni-moderation-2024-09-26", "text-moderation-latest",
      "text-moderation-stable"]
  | groq | mistral | grid => some []
  | anthropic | gemini => none

def imageModels : Builtin → Option (List String)
  | openai => some ["dall-e-2", "dall-e-3", "gpt-image-1"]
  | groq | mistral | grid => some []
  | anthropic | gemini => none

def all : List Builtin := [openai, anthropic, gemini, groq, mistral, grid]

end Builtin

structure Registration where
  name : String
  hint : ScopeHint
  models : List String
  embeddingModels : Option (List String)
  moderationModels : Option (List String)
  imageModels : Option (List String)
  apiKey : String
deriving DecidableEq

def Registration.provider (r : Registration) (id : ℕ) : Provider :=
  ⟨id, r.name, r.embeddingModels, r.moderationModels, r.imageModels⟩

def Builtin.registration (b : Builtin) (hint : ScopeHint) (apiKey : String) : Registration :=
  ⟨b.name, hint, b.models, b.embeddingModels, b.moderationModels, b.imageModels, apiKey⟩

structure Wired where
  registry : Registry
  built : List Registration

namespace Wired

def empty : Wired := ⟨newRegistry, []⟩

variable (w : Wired)

def register (r : Registration) : Wired :=
  ⟨w.registry.registerHint r.name r.hint (r.provider w.built.length) r.models, w.built ++ [r]⟩

def registerAll (rs : List Registration) : Wired := rs.foldl register w

def apiKey (p : Provider) : String :=
  ((w.built[p.id]?).map Registration.apiKey).getD ""

def sentKey (p : Provider) (ctx : Ctx) : String :=
  match ctx.callerCredentialFrom with
  | some cred => cred.secret
  | none => w.apiKey p

end Wired

structure Config where
  keyMode : KeyMode
  allowSharedKeys : Bool
  envKey : Builtin → String

def registerBuiltinCatalog : List Registration :=
  Builtin.all.map fun b => b.registration publicHint ""

def registerProviders (cfg : Config) : List Registration :=
  if cfg.keyMode ≠ .shared ∧ cfg.allowSharedKeys = false then registerBuiltinCatalog
  else registerBuiltinCatalog ++
    (Builtin.all.filter fun b => cfg.envKey b ≠ "").map fun b =>
      b.registration ⟨.unset, ""⟩ (cfg.envKey b)

structure Credential where
  id : String
  orgID : String
  userID : Option String
  provider : String
  baseURL : String
  secret : String
  enabled : Bool
  chatModels : List String
  embedModels : List String

variable (rows : List Credential)

def loadEnabledCredentials (orgID : String) : List Credential :=
  rows.filter fun c => c.orgID = orgOrDefault orgID ∧ c.userID = none ∧ c.enabled = true

def builtinFor (provider : String) : Option Builtin :=
  if provider = "openai" then some .openai
  else if provider = "anthropic" then some .anthropic
  else if provider = "gemini" then some .gemini
  else if provider = "groq" then some .groq
  else if provider = "mistral" then some .mistral
  else if provider = "grid" ∨ provider = "the_grid" then some .grid
  else none

def scopeHintFor (ownerID : String) : ScopeHint :=
  if ownerID ≠ "" then ⟨.scopeUser, ownerID⟩ else ⟨.scopeOrg, ""⟩

def userCompat (c : Credential) : Registration :=
  ⟨c.provider, scopeHintFor (c.userID.getD ""),
    c.chatModels.map fun m => "user/" ++ c.provider ++ "/" ++ m,
    some (c.embedModels.map fun m => "user/" ++ c.provider ++ "/" ++ m), none, none, c.secret⟩

def storedRegistration (c : Credential) : Option Registration :=
  match builtinFor c.provider with
  | some b => some (b.registration ⟨.unset, ""⟩ c.secret)
  | none => if c.baseURL = "" then none else some (userCompat c)

def storedRegistrations : List Registration :=
  (loadEnabledCredentials rows "default").filterMap storedRegistration

variable (w : Wired)

def registerStoredCredentials (rows : List Credential) (loaded : Bool) : Wired :=
  if loaded = true then w.registerAll (storedRegistrations rows) else w

def boot (cfg : Config) (rows : List Credential) (loaded : Bool) : Wired :=
  registerStoredCredentials (Wired.empty.registerAll (registerProviders cfg)) rows loaded

variable {r : Registration}

lemma mem_registerProviders {cfg : Config} (h : r ∈ registerProviders cfg) :
    ∃ b : Builtin, r = b.registration publicHint "" ∨
      r = b.registration ⟨.unset, ""⟩ (cfg.envKey b) := by
  have hcatalog : r ∈ registerBuiltinCatalog → ∃ b : Builtin, r = b.registration publicHint "" := by
    intro hr
    obtain ⟨b, -, rfl⟩ := mem_map.mp hr
    exact ⟨b, rfl⟩
  unfold registerProviders at h
  split at h
  · obtain ⟨b, hb⟩ := hcatalog h
    exact ⟨b, .inl hb⟩
  rcases mem_append.mp h with hr | hr
  · obtain ⟨b, hb⟩ := hcatalog hr
    exact ⟨b, .inl hb⟩
  · obtain ⟨b, -, rfl⟩ := mem_map.mp hr
    exact ⟨b, .inr rfl⟩

lemma mem_storedRegistrations {rows : List Credential} : r ∈ storedRegistrations rows ↔
      ∃ c ∈ rows, (c.orgID = orgOrDefault "default" ∧ c.userID = none ∧ c.enabled = true) ∧
        storedRegistration c = some r := by
  unfold storedRegistrations loadEnabledCredentials
  simp only [mem_filterMap, mem_filter, decide_eq_true_eq, and_assoc]

lemma storedRegistration_secret {c : Credential} (h : storedRegistration c = some r)
    (secret : String) : r.apiKey = c.secret ∧
      storedRegistration { c with secret := secret } = some { r with apiKey := secret } := by
  unfold storedRegistration at h ⊢
  dsimp only
  split at h
  · cases h
    exact ⟨rfl, rfl⟩
  by_cases hbase : c.baseURL = ""
  · rw [if_pos hbase] at h
    cases h
  · rw [if_neg hbase] at h ⊢
    cases h
    exact ⟨rfl, rfl⟩

namespace Wired

lemma registerAll_cons (r : Registration) (rs : List Registration) :
    w.registerAll (r :: rs) = (w.register r).registerAll rs := rfl

@[simp] lemma built_registerAll (rs : List Registration) :
    (w.registerAll rs).built = w.built ++ rs := by
  induction rs generalizing w with
  | nil => exact (append_nil _).symm
  | cons r rs ih =>
    rw [registerAll_cons, ih]
    exact append_assoc _ _ _

lemma getElem?_built_registerAll (r : Registration) (rs : List Registration) :
    (w.registerAll (r :: rs)).built[(r.provider w.built.length).id]? = some r := by
  have hid : (r.provider w.built.length).id = w.built.length := rfl
  rw [built_registerAll, hid, getElem?_append_right (le_refl _), Nat.sub_self]
  rfl

variable {w : Wired} {p : Provider}

lemma apiKey_of_built {r : Registration} (h : w.built[p.id]? = some r) : w.apiKey p = r.apiKey := by
  unfold apiKey
  rw [h]
  rfl

lemma apiKey_registerAll (h : p.id < w.built.length) (rs : List Registration) :
    (w.registerAll rs).apiKey p = w.apiKey p := by
  unfold apiKey
  rw [built_registerAll, getElem?_append_left h]

lemma lookup_providers_registerAll {rs : List Registration} {name : String}
    (h : (w.registerAll rs).registry.providers.lookup name = some p) :
    (∃ r ∈ rs, r.name = name ∧ (w.registerAll rs).built[p.id]? = some r) ∨
      ((∀ r ∈ rs, r.name ≠ name) ∧ w.registry.providers.lookup name = some p) := by
  induction rs generalizing w with
  | nil => exact .inr ⟨fun _ hr => absurd hr not_mem_nil, h⟩
  | cons r rs ih =>
    rcases ih h with ⟨r', hr', hname, hbuilt⟩ | ⟨hnone, hbefore⟩
    · exact .inl ⟨r', mem_cons_of_mem r hr', hname, hbuilt⟩
    have hinsert : (w.registry.providers.insert r.name
        (r.provider w.built.length)).lookup name = some p := hbefore
    rcases lookup_insert_eq_some hinsert with ⟨rfl, rfl⟩ | ⟨hne, hold⟩
    · refine .inl ⟨r, mem_cons_self, rfl, ?_⟩
      exact getElem?_built_registerAll w r rs
    refine .inr ⟨?_, hold⟩
    intro r' hr'
    rcases mem_cons.mp hr' with rfl | hr'
    · exact Ne.symm hne
    · exact hnone r' hr'

lemma lookup_byModel_registerAll {rs : List Registration} {m : String}
    (h : (w.registerAll rs).registry.byModel.lookup m = some p) :
    (∃ r ∈ rs, m ∈ r.models ∧ (w.registerAll rs).built[p.id]? = some r) ∨
      ((∀ r ∈ rs, m ∉ r.models) ∧ w.registry.byModel.lookup m = some p) := by
  induction rs generalizing w with
  | nil => exact .inr ⟨fun _ hr => absurd hr not_mem_nil, h⟩
  | cons r rs ih =>
    rcases ih h with ⟨r', hr', hlists, hbuilt⟩ | ⟨hnone, hbefore⟩
    · exact .inl ⟨r', mem_cons_of_mem r hr', hlists, hbuilt⟩
    have hset : (setAll r.models (r.provider w.built.length)
        w.registry.byModel).lookup m = some p := hbefore
    rw [lookup_setAll] at hset
    split_ifs at hset with hlists
    · rw [Option.some.injEq] at hset
      subst hset
      refine .inl ⟨r, mem_cons_self, hlists, ?_⟩
      exact getElem?_built_registerAll w r rs
    · refine .inr ⟨?_, hset⟩
      intro r' hr'
      rcases mem_cons.mp hr' with rfl | hr'
      · exact hlists
      · exact hnone r' hr'

end Wired

def Reachable (r : Registry) (p : Provider) : Prop :=
  (∃ name, r.providers.lookup name = some p) ∨ ∃ m, r.byModel.lookup m = some p

lemma reachable_registerAll {w : Wired} {rs : List Registration} {p : Provider}
    (h : Reachable (w.registerAll rs).registry p) :
    (∃ r ∈ rs, (w.registerAll rs).built[p.id]? = some r) ∨ Reachable w.registry p := by
  rcases h with ⟨name, hname⟩ | ⟨m, hm⟩
  · rcases Wired.lookup_providers_registerAll hname with ⟨r, hr, -, hbuilt⟩ | ⟨-, hold⟩
    · exact .inl ⟨r, hr, hbuilt⟩
    · exact .inr (.inl ⟨name, hold⟩)
  · rcases Wired.lookup_byModel_registerAll hm with ⟨r, hr, -, hbuilt⟩ | ⟨-, hold⟩
    · exact .inl ⟨r, hr, hbuilt⟩
    · exact .inr (.inr ⟨m, hold⟩)

lemma reachable_of_resolve {r : Registry} {m fwd : String} {p : Provider}
    (h : r.resolve m = .ok (p, fwd)) : Reachable r p := by
  unfold Registry.resolve at h
  dsimp only at h
  split at h
  · rename_i name rest _
    split at h
    · rename_i q hq
      cases h
      exact .inl ⟨name, hq⟩
    split at h
    · rename_i q hq
      cases h
      exact .inr ⟨m, hq⟩
    · cases h
  · split at h
    · rename_i q hq
      cases h
      exact .inr ⟨m, hq⟩
    · cases h

end FfxNexus.StoredProviders
