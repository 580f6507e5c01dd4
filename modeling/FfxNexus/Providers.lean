/-
**The provider registry** (`internal/gateway/provider.go`).
-/
import FfxNexus.Go
import FfxNexus.Machine
import Mathlib.Data.List.Sort
import Mathlib.Data.String.Basic

namespace FfxNexus.Providers
open Go

structure Provider where
  id : ℕ
  name : String
  embeddingModels : Option (List String)
  moderationModels : Option (List String)
  imageModels : Option (List String)
deriving DecidableEq

inductive Scope where
  | unset | scopePublic | scopeOrg | scopeUser
deriving DecidableEq

structure ScopeHint where
  scope : Scope
  ownerID : String
deriving DecidableEq

def ScopeHint.isZero (h : ScopeHint) : Bool := h.scope = .unset

def publicHint : ScopeHint := ⟨.scopePublic, ""⟩

structure Registry where
  providers : GoMap String Provider
  byModel : GoMap String Provider
  modelHints : GoMap String ScopeHint
  providerHint : GoMap String ScopeHint

def newRegistry : Registry := ⟨∅, ∅, ∅, ∅⟩

variable (r : Registry) (ps : List Provider) (model : String)
  (name : String) (p : Provider) (models : List String)

def Registry.registerHint (hint : ScopeHint) (p : Provider)
    (models : List String) : Registry :=
  let hint := if hint.isZero then publicHint else hint
  { providers := r.providers.insert name p
    byModel := setAll models p r.byModel
    modelHints := setAll models hint r.modelHints
    providerHint := r.providerHint.insert name hint }

def Registry.register : Registry :=
  r.registerHint p.name ⟨.unset, ""⟩ p models

def Registry.updateModels :
    Registry × Bool :=
  match r.providers.lookup name with
  | none => (r, false)
  | some p =>
    let hint := (r.providerHint.lookup name).getD ⟨.unset, ""⟩
    let stale := r.byModel.keys.filter fun id => r.byModel.lookup id = some p
    ({ r with
        byModel := setAll models p (deleteWhere (· = p) r.byModel)
        modelHints := setAll models hint (stale.foldl (fun hs id => hs.erase id) r.modelHints) },
      true)

def noProvider : String := "no provider registered for model " ++ model.quote

def Registry.resolve : Except String (Provider × String) :=
  let exact :=
    match r.byModel.lookup model with
    | some p => .ok (p, model)
    | none => .error (noProvider model)
  match cut model '/' with
  | some (name, rest) =>
    match r.providers.lookup name with
    | some p => .ok (p, rest)
    | none => exact
  | none => exact

def Registry.allModels : List String :=
  r.byModel.keys.insertionSort (· ≤ ·)

def firstCapable {α : Type} (models : Provider → Option (List String))
    (pick : Provider → List String → Option α) (ps : List Provider) : Option (Provider × α) :=
  ps.findSome? fun p => (models p).bind fun ms => (pick p ms).map (p, ·)

def pickPrefixed (name rest : String) (p : Provider) (ms : List String) : Option String :=
  if p.name ≠ name then none else ms.find? (· = rest)

def resolveEmbedding : Option Provider :=
  match cut model '/' with
  | some (name, rest) =>
    (firstCapable Provider.embeddingModels (pickPrefixed name rest) ps).map Prod.fst
  | none =>
    (firstCapable Provider.embeddingModels (fun _ ms => ms.find? (· = model)) ps).map Prod.fst

def pickModeration (ms : List String) : Option String :=
  match ms.find? fun m => model = "" ∨ model = m with
  | some m => some m
  | none =>
    match cut model '/' with
    | some (name, rest) => pickPrefixed name rest p ms
    | none => none

def resolveModeration : Option (Provider × String) :=
  firstCapable Provider.moderationModels (pickModeration model) ps

def pickImage (_ : Provider) (ms : List String) : Option String :=
  if model = "" ∧ 0 < ms.length then ms.head? else ms.find? (· = model)

def resolveImage : Option (Provider × String) :=
  match cut model '/' with
  | some (name, rest) => firstCapable Provider.imageModels (pickPrefixed name rest) ps
  | none => firstCapable Provider.imageModels (pickImage model) ps

inductive Command where
  | register (p : Provider) (models : List String)
  | registerHint (name : String) (hint : ScopeHint) (p : Provider) (models : List String)
  | updateModels (name : String) (models : List String)

def registry : Machine Registry Command (Option Bool) where
  step r
    | .register p models => (r.register p models, none)
    | .registerHint name hint p models => (r.registerHint name hint p models, none)
    | .updateModels name models => ((r.updateModels name models).1,
        some (r.updateModels name models).2)

def Command.lists : Command → Option (Provider × List String)
  | .register p models => some (p, models)
  | .registerHint _ _ p models => some (p, models)
  | .updateModels name models => (r.providers.lookup name).map (·, models)

structure Ledger where
  reg : Registry
  catalog : Provider → List String
  lister : String → Option Provider

variable (l : Ledger) (cmds : List Command)

def newLedger : Ledger := ⟨newRegistry, fun _ => [], fun _ => none⟩

def ledger : Machine Ledger Command (Option Bool) where
  step l c :=
    let next := registry.step l.reg c
    match c.lists l.reg with
    | none => ({ l with reg := next.1 }, next.2)
    | some (p, models) =>
      (⟨next.1, Function.update l.catalog p models,
        fun m => if m ∈ models then some p else l.lister m⟩, next.2)

lemma ledger_reg : (ledger.run l cmds).reg = registry.run l.reg cmds := by
  induction cmds generalizing l with
  | nil => rfl
  | cons c cmds ih =>
    rw [Machine.run_cons, Machine.run_cons, ih]
    congr 1
    simp only [ledger]
    split <;> rfl

def Registry.Registered : Prop :=
  ∃ name, r.providers.lookup name = some p

lemma step_of_lists_none {r : Registry} {c : Command} (h : c.lists r = none) :
    (registry.step r c).1 = r := by
  cases c with
  | register p models => cases h
  | registerHint name hint p models => cases h
  | updateModels name models =>
    have hp : r.providers.lookup name = none := Option.map_eq_none_iff.mp h
    simp [registry, Registry.updateModels, hp]

lemma byModel_step {r : Registry} {c : Command} {p : Provider} {models : List String}
    (h : c.lists r = some (p, models)) (m : String) :
    (m ∈ models → (registry.step r c).1.byModel.lookup m = some p) ∧
      (m ∉ models → r.byModel.lookup m ≠ some p →
        (registry.step r c).1.byModel.lookup m = r.byModel.lookup m) := by
  have registers : (registry.step r c).1.byModel = setAll models p r.byModel →
      (m ∈ models → (registry.step r c).1.byModel.lookup m = some p) ∧
        (m ∉ models → r.byModel.lookup m ≠ some p →
          (registry.step r c).1.byModel.lookup m = r.byModel.lookup m) := by
    intro hby
    rw [hby, lookup_setAll]
    exact ⟨fun hm => if_pos hm, fun hm _ => if_neg hm⟩
  cases c with
  | register p' models' =>
    obtain ⟨rfl, rfl⟩ : p' = p ∧ models' = models := by simpa [Command.lists] using h
    exact registers rfl
  | registerHint name hint p' models' =>
    obtain ⟨rfl, rfl⟩ : p' = p ∧ models' = models := by simpa [Command.lists] using h
    exact registers rfl
  | updateModels name models' =>
    obtain ⟨q, hq, hpair⟩ := Option.map_eq_some_iff.mp h
    obtain ⟨rfl, rfl⟩ : q = p ∧ models' = models := by simpa using hpair
    simp only [registry, Registry.updateModels, hq, lookup_setAll, lookup_deleteWhere]
    refine ⟨fun hm => if_pos hm, fun hm hown => ?_⟩
    rw [if_neg hm]
    cases hm' : r.byModel.lookup m with
    | none => rfl
    | some q' =>
      have hne : q' ≠ q := fun heq => hown (by rw [hm', heq])
      simp [hne]

def Ledger.Indexed : Prop :=
  ∀ m p, l.lister m = some p → m ∈ l.catalog p → l.reg.byModel.lookup m = some p

lemma indexed_step (c : Command) (h : l.Indexed) : (ledger.step l c).1.Indexed := by
  intro m p hlister hcat
  simp only [ledger] at hlister hcat ⊢
  cases hlists : c.lists l.reg with
  | none =>
    simp only [hlists] at hlister hcat ⊢
    rw [step_of_lists_none hlists]
    exact h m p hlister hcat
  | some lists =>
    obtain ⟨p', models⟩ := lists
    simp only [hlists] at hlister hcat ⊢
    obtain ⟨hlisted, hkept⟩ := byModel_step hlists m
    by_cases hm : m ∈ models
    · obtain rfl : p' = p := by simpa [hm] using hlister
      exact hlisted hm
    rw [if_neg hm] at hlister
    have hne : p ≠ p' := by
      rintro rfl
      rw [Function.update_self] at hcat
      exact hm hcat
    rw [Function.update_of_ne hne] at hcat
    have hold := h m p hlister hcat
    rw [hkept hm (by rw [hold]; exact fun heq => hne (Option.some.inj heq)), hold]

lemma resolve_eq (m : String) :
    (∃ name rest q, cut m '/' = some (name, rest) ∧ r.providers.lookup name = some q ∧
        r.resolve m = .ok (q, rest)) ∨
      ((∀ name rest, cut m '/' = some (name, rest) → r.providers.lookup name = none) ∧
        r.resolve m = match r.byModel.lookup m with
          | some p => .ok (p, m)
          | none => .error (noProvider m)) := by
  unfold Registry.resolve
  cases hcut : cut m '/' with
  | none => exact .inr ⟨by simp, rfl⟩
  | some pair =>
    obtain ⟨name, rest⟩ := pair
    cases hq : r.providers.lookup name with
    | some q => exact .inl ⟨name, rest, q, rfl, hq, by simp [hq]⟩
    | none =>
      refine .inr ⟨?_, by simp [hq]⟩
      rintro _ _ ⟨⟩
      exact hq

theorem resolve_listed (m : String) (p : Provider)
    (hreg : (registry.run newRegistry cmds).Registered p)
    (hcat : m ∈ (ledger.run newLedger cmds).catalog p)
    (hlast : (ledger.run newLedger cmds).lister m = some p) :
    ∃ q fwd, (registry.run newRegistry cmds).resolve m = .ok (q, fwd) ∧
      (registry.run newRegistry cmds).Registered q ∧
      ((q = p ∧ fwd = m ∧ ∀ name rest, cut m '/' = some (name, rest) →
          (registry.run newRegistry cmds).providers.lookup name = none) ∨
        ∃ name, cut m '/' = some (name, fwd) ∧ m = name ++ "/" ++ fwd ∧
          (registry.run newRegistry cmds).providers.lookup name = some q) := by
  -- the invariant places the id; what is left is which of `Resolve`'s two tables answers
  have hindexed : (ledger.run newLedger cmds).Indexed :=
    ledger.run_invariant (P := Ledger.Indexed) (by intro _ _ h; cases h) indexed_step cmds
  have hby := hindexed m p hlast hcat
  rw [ledger_reg] at hby
  rcases resolve_eq (registry.run newRegistry cmds) m with
    ⟨name, rest, q, hcut, hq, hres⟩ | ⟨hnone, hres⟩
  · have hm := cut_eq_some hcut
    exact ⟨q, rest, hres, ⟨name, hq⟩, .inr ⟨name, hcut, hm, hq⟩⟩
  · have hby : (registry.run newRegistry cmds).byModel.lookup m = some p := hby
    rw [hby] at hres
    exact ⟨p, m, hres, hreg, .inl ⟨rfl, rfl, hnone⟩⟩

def openai : Provider := ⟨1, "openai", none, none, none⟩

def groq : Provider := ⟨2, "groq", none, none, none⟩

theorem resolve_listed_plain : ∃ q fwd, (registry.run newRegistry [.register openai ["gpt-4o"],
        .register groq ["llama-3.3-70b"]]).resolve "gpt-4o" = .ok (q, fwd) ∧
      (registry.run newRegistry [.register openai ["gpt-4o"],
        .register groq ["llama-3.3-70b"]]).Registered q := by
  obtain ⟨q, fwd, hres, hreg, -⟩ :=
    resolve_listed [.register openai ["gpt-4o"], .register groq ["llama-3.3-70b"]] "gpt-4o" openai
      ⟨"openai", by decide⟩ (by decide) (by decide)
  exact ⟨q, fwd, hres, hreg⟩

theorem resolve_prefix_shadows :
    let cmds := [Command.register openai ["gpt-4o"], .register groq ["openai/gpt-oss-120b"]]
    (registry.run newRegistry cmds).Registered groq ∧
    "openai/gpt-oss-120b" ∈ (ledger.run newLedger cmds).catalog groq ∧
    (registry.run newRegistry cmds).resolve "openai/gpt-oss-120b" =
      .ok (openai, "gpt-oss-120b") ∧
    "openai/gpt-oss-120b" ∉ (ledger.run newLedger cmds).catalog openai := by
  refine ⟨⟨"groq", by decide⟩, by decide, by rfl, by decide⟩

end FfxNexus.Providers
