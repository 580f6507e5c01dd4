/-
**A provider-scoped key.** The entries of a key's `AllowedModels` may name a provider:
`openai/gpt-4.1-nano`.
-/
import FfxNexus.Gateway

namespace FfxNexus.ScopedKeys
open Go Providers Gateway List

def slug (p m : String) : String := p ++ "/" ++ m

variable (r : Registry)

variable (allowed : List String)

def ProviderScoped : Prop :=
  ∀ e ∈ allowed, ∃ p m, e = slug p m ∧ (r.providers.lookup p).isSome

def Listed (p : Provider) (fwd : String) : Prop :=
  ∃ name, r.providers.lookup name = some p ∧ slug name fwd ∈ allowed

def ResolvesListed (model : String) : Prop :=
  ∃ p fwd, r.resolve model = .ok (p, fwd) ∧ Listed r allowed p fwd

def StaysOnProvider (ctx : Ctx) : Prop :=
  ∀ model, modelAllowed ctx model = true → ResolvesListed r ctx.allowedModels model

def Indexed (id : String) : Prop :=
  ∃ p, r.byModel.lookup id = some p ∧ Listed r allowed p id

def Unnamed (id : String) : Prop :=
  ∀ q rest, cut id '/' = some (q, rest) → r.providers.lookup q = none

structure Anchored (r : Registry) (allowed : List String) (id : String) : Prop where
  named : ∀ q rest p, cut id '/' = some (q, rest) → r.providers.lookup q = some p →
    Listed r allowed p rest
  unnamed : Unnamed r id → Indexed r allowed id

/-- **The condition**: there is an entry, every bare id is anchored, and so is an entry whose first
part is not a registered name. -/
def BareIdsAnchored : Prop :=
  allowed ≠ [] ∧ ∀ e ∈ allowed, ∀ q m, cut e '/' = some (q, m) →
    (r.providers.lookup q = none → Indexed r allowed e) ∧ Anchored r allowed m

section
variable {r : Registry} {allowed : List String}

lemma resolvesListed_iff_anchored {id : String} :
    ResolvesListed r allowed id ↔ Anchored r allowed id := by
  unfold ResolvesListed
  rcases resolve_eq r id with ⟨name, rest, q, hcut, hq, hres⟩ | ⟨hnone, hres⟩
  · -- a registered prefix decides, and the index is not asked
    rw [hres]
    constructor
    · rintro ⟨p, fwd, hok, hlisted⟩
      obtain ⟨rfl, rfl⟩ : q = p ∧ rest = fwd := by simpa using hok
      refine ⟨?_, ?_⟩
      · intro q' rest' p' hcut' hp'
        obtain ⟨rfl, rfl⟩ : name = q' ∧ rest = rest' := by simpa [hcut] using hcut'
        obtain rfl : q = p' := by simpa [hq] using hp'
        exact hlisted
      · intro hun
        have hnone := hun name rest hcut
        rw [hq] at hnone
        cases hnone
    · intro hanch
      exact ⟨q, rest, rfl, hanch.named name rest q hcut hq⟩
  · rw [hres]
    constructor
    · rintro ⟨p, fwd, hok, hlisted⟩
      refine ⟨?_, ?_⟩
      · intro q' rest' p' hcut' hp'
        rw [hnone q' rest' hcut'] at hp'
        cases hp'
      intro _
      cases hby : r.byModel.lookup id with
      | none =>
        rw [hby] at hok
        cases hok
      | some p' =>
        rw [hby] at hok
        obtain ⟨rfl, rfl⟩ : p' = p ∧ id = fwd := by simpa using hok
        exact ⟨p', hby, hlisted⟩
    · intro hanch
      obtain ⟨p, hby, hlisted⟩ := hanch.unnamed hnone
      rw [hby]
      exact ⟨p, id, rfl, hlisted⟩

lemma modelAllowed_iff {ctx : Ctx} (hne : ctx.allowedModels ≠ []) {model : String} :
    modelAllowed ctx model = true ↔ model ∈ ctx.allowedModels ∨
        ∃ e ∈ ctx.allowedModels, ∃ q, cut e '/' = some (q, model) := by
  have hlen : ¬ ctx.allowedModels.length = 0 := by
    rwa [length_eq_zero_iff]
  unfold modelAllowed
  rw [if_neg hlen, any_eq_true]
  constructor
  · rintro ⟨e, he, hor⟩
    rcases of_decide_eq_true hor with rfl | hrest
    · exact .inl he
    · obtain ⟨⟨q, rest⟩, hcut, rfl⟩ := Option.map_eq_some_iff.mp hrest
      exact .inr ⟨e, he, q, hcut⟩
  · rintro (hmem | ⟨e, he, q, hcut⟩)
    · exact ⟨model, hmem, by simp⟩
    · exact ⟨e, he, by simp [hcut]⟩

lemma cut_slug (p m : String) : ∃ q rest, cut (slug p m) '/' = some (q, rest) := by
  have hmem : '/' ∈ (slug p m).toList := by
    simp [slug]
  unfold cut
  rw [if_pos hmem]
  exact ⟨_, _, rfl⟩

lemma anchored_entry_iff {e q m : String} (he : e ∈ allowed) (hcut : cut e '/' = some (q, m)) :
    Anchored r allowed e ↔ (r.providers.lookup q = none → Indexed r allowed e) := by
  have hslug : slug q m = e := (cut_eq_some hcut).symm
  constructor
  · intro hanch hnone
    refine hanch.unnamed ?_
    intro q' rest' hcut'
    obtain ⟨rfl, rfl⟩ : q = q' ∧ m = rest' := by simpa [hcut] using hcut'
    exact hnone
  · intro hindexed
    refine ⟨?_, ?_⟩
    · intro q' rest' p' hcut' hp'
      obtain ⟨rfl, rfl⟩ : q = q' ∧ m = rest' := by simpa [hcut] using hcut'
      exact ⟨q, hp', by rwa [hslug]⟩
    · intro hun
      exact hindexed (hun q m hcut)

end

theorem staysOnProvider_iff (r : Registry) (ctx : Ctx)
    (hscoped : ProviderScoped r ctx.allowedModels) :
    StaysOnProvider r ctx ↔ BareIdsAnchored r ctx.allowedModels := by
  by_cases hne : ctx.allowedModels = []
  · -- an empty list accepts every string, and no string is listed
    constructor
    · intro hstays
      have hall : modelAllowed ctx "" = true := by simp [modelAllowed, hne]
      obtain ⟨p, fwd, -, name, -, hmem⟩ := hstays "" hall
      rw [hne] at hmem
      cases hmem
    · intro hcond
      exact absurd hne hcond.1
  · constructor
    · intro hstays
      refine ⟨hne, ?_⟩
      intro e he q m hcut
      have hentry := hstays e ((modelAllowed_iff hne).mpr (.inl he))
      have hbare := hstays m ((modelAllowed_iff hne).mpr (.inr ⟨e, he, q, hcut⟩))
      rw [resolvesListed_iff_anchored] at hentry hbare
      exact ⟨(anchored_entry_iff he hcut).mp hentry, hbare⟩
    · rintro ⟨-, hcond⟩ model hmodel
      rw [resolvesListed_iff_anchored]
      rcases (modelAllowed_iff hne).mp hmodel with hmem | ⟨e, he, q, hcut⟩
      · obtain ⟨p, m, rfl, -⟩ := hscoped model hmem
        obtain ⟨q, rest, hcut⟩ := cut_slug p m
        exact (anchored_entry_iff hmem hcut).mpr (hcond _ hmem q rest hcut).1
      · exact (hcond e he q model hcut).2

def nanoKey : Ctx where
  requestID := ""
  sessionID := ""
  orgID := "org"
  userID := "user"
  vkeyID := "vk"
  allowedModels := ["openai/gpt-4.1-nano"]
  minQuality := 0
  credential := none

def onlyOpenAI : Registry := newRegistry.register openai ["gpt-4.1-nano"]

def thenGroq : Registry := onlyOpenAI.register groq ["gpt-4.1-nano"]

lemma nanoKey_scoped {r : Registry} (hreg : (r.providers.lookup "openai").isSome) :
    ProviderScoped r nanoKey.allowedModels := by
  intro e he
  obtain rfl : e = "openai/gpt-4.1-nano" := by simpa [nanoKey] using he
  exact ⟨"openai", "gpt-4.1-nano", rfl, hreg⟩

theorem staysOnProvider_onlyOpenAI :
    ProviderScoped onlyOpenAI nanoKey.allowedModels ∧ StaysOnProvider onlyOpenAI nanoKey := by
  have hscoped : ProviderScoped onlyOpenAI nanoKey.allowedModels :=
    nanoKey_scoped (by decide)
  refine ⟨hscoped, (staysOnProvider_iff onlyOpenAI nanoKey hscoped).mpr ⟨by decide, ?_⟩⟩
  intro e he q m hcut
  obtain rfl : e = "openai/gpt-4.1-nano" := by simpa [nanoKey] using he
  obtain ⟨rfl, rfl⟩ : "openai" = q ∧ "gpt-4.1-nano" = m := by
    have hval : cut "openai/gpt-4.1-nano" '/' = some ("openai", "gpt-4.1-nano") := by
      decide
    simpa [hval] using hcut
  have hlisted : Listed onlyOpenAI nanoKey.allowedModels openai "gpt-4.1-nano" :=
    ⟨"openai", by decide, by decide⟩
  refine ⟨fun hnone => absurd hnone (by decide), ?_, ?_⟩
  · intro q' rest' p' hcut'
    cases hcut'
  · intro _
    exact ⟨openai, by decide, hlisted⟩

theorem scoped_key_leaves_provider : ProviderScoped thenGroq nanoKey.allowedModels ∧
      modelAllowed nanoKey "gpt-4.1-nano" = true ∧
      thenGroq.resolve "gpt-4.1-nano" = .ok (groq, "gpt-4.1-nano") ∧
      ¬ StaysOnProvider thenGroq nanoKey := by
  have hresolve : thenGroq.resolve "gpt-4.1-nano" = .ok (groq, "gpt-4.1-nano") := by rfl
  have hallowed : modelAllowed nanoKey "gpt-4.1-nano" = true := by decide
  refine ⟨nanoKey_scoped (by decide), hallowed, hresolve, ?_⟩
  intro hstays
  obtain ⟨p, fwd, hres, name, hname, hmem⟩ := hstays "gpt-4.1-nano" hallowed
  obtain ⟨rfl, rfl⟩ : groq = p ∧ "gpt-4.1-nano" = fwd := by simpa [hresolve] using hres
  have hslug : slug name "gpt-4.1-nano" = slug "openai" "gpt-4.1-nano" := by
    simpa [nanoKey, slug] using hmem
  have hopenai : name = "openai" := by
    have hchars := congrArg String.toList hslug
    simp only [slug, String.toList_append] at hchars
    exact String.toList_injective
      (append_cancel_right (append_cancel_right hchars))
  rw [hopenai] at hname
  exact absurd hname (by decide)

end FfxNexus.ScopedKeys
