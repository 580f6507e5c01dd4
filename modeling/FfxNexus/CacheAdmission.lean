/-
**Who may be answered from the cache.** A key has an allow-list and a quality gate, and
`resolveChain` applies both.
-/
import FfxNexus.CacheClient

namespace FfxNexus.CacheAdmission
open Interaction Gateway Chat Routing Dispatch SharedCache CacheClient List
open Semcache (Config Engine Memory sampleConfig)

def Routed (h : Handler) (model : String) : Prop :=
  h.router.isSome = true ∧ (routeCandidates h model).isSome = true

def Admits (h : Handler) (c : Client) (m : String) : Prop :=
  modelAllowed c.ctx m = true ∧
    (Routed h c.req.model → meetsQuality c.stats c.ctx.minQuality m = true)

def HitFor (E : Engine String) (P : Pool Ans (Memory (String × Origin)) Client (Reply ChatBody))
    (c : Client) (chain : List String) (origin : Origin) : Prop :=
  ∃ scope model prompt vec k now hit json,
    (c, .op (.cacheLookup chain scope model prompt vec) k) ∈ P.threads ∧
      P.shared.lookup (tagged E) (lookupCall now scope model prompt vec) = some hit ∧
      hit.responseJSON = some (json, origin)

section
variable {h : Handler} {c c' : Client} {m : String}

lemma mem_concreteModels {ctx : Ctx} {model : String} : m ∈ concreteModels h ctx model ↔
      m = model ∧ modelAllowed ctx m = true ∧ ∃ pf, h.registry.resolve m = .ok pf := by
  unfold concreteModels
  split
  · rename_i hno
    refine ⟨fun hm => absurd hm not_mem_nil, ?_⟩
    rintro ⟨rfl, hallowed, -⟩
    cases hno.symm.trans hallowed
  · rename_i hallowed
    rw [Bool.not_eq_false] at hallowed
    cases hres : h.registry.resolve model with
    | error err =>
      refine ⟨fun hm => absurd hm not_mem_nil, ?_⟩
      rintro ⟨rfl, -, pf, hpf⟩
      cases hres.symm.trans hpf
    | ok pf =>
      rw [mem_singleton]
      refine ⟨?_, And.left⟩
      rintro rfl
      exact ⟨rfl, hallowed, pf, hres⟩

lemma mem_routedModels {ctx : Ctx} {stats : Stats} {weights : Weights} {candidates : List String} :
    m ∈ routedModels ctx stats weights candidates ↔
      m ∈ candidates ∧ modelAllowed ctx m = true ∧ meetsQuality stats ctx.minQuality m = true := by
  unfold routedModels filterAllowed
  rw [mem_rank, mem_filter, and_assoc]

lemma mem_chainModels_iff (hmodel : c'.req.model = c.req.model)
    (hm : m ∈ chainModels h c'.ctx c'.stats c'.req.model) :
    m ∈ chainModels h c.ctx c.stats c.req.model ↔ Admits h c m := by
  rw [hmodel] at hm
  have concrete : m ∈ concreteModels h c'.ctx c.req.model →
      (m ∈ concreteModels h c.ctx c.req.model ↔ modelAllowed c.ctx m = true) := fun hm => by
    obtain ⟨heq, -, hres⟩ := mem_concreteModels.mp hm
    exact ⟨fun hm' => (mem_concreteModels.mp hm').2.1,
      fun hallowed => mem_concreteModels.mpr ⟨heq, hallowed, hres⟩⟩
  unfold Admits Routed
  unfold chainModels at hm ⊢
  cases hr : h.router with
  | none =>
    rw [hr] at hm
    exact (concrete hm).trans ⟨fun hallowed => ⟨hallowed, fun hrouted => by cases hrouted.1⟩,
      And.left⟩
  | some weights =>
    rw [hr] at hm
    cases hc : routeCandidates h c.req.model with
    | none =>
      rw [hc] at hm
      exact (concrete hm).trans ⟨fun hallowed => ⟨hallowed, fun hrouted => by cases hrouted.2⟩,
        And.left⟩
    | some candidates =>
      rw [hc] at hm
      rw [mem_routedModels]
      exact ⟨fun hm' => ⟨hm'.2.1, fun _ => hm'.2.2⟩,
        fun hgates => ⟨(mem_routedModels.mp hm).1, hgates.1, hgates.2 ⟨rfl, rfl⟩⟩⟩

end

theorem cached_producer_iff (E : Engine String) (h : Handler) (R : Set Client) (cfg : Config)
    (P : Pool Ans (Memory (String × Origin)) Client (Reply ChatBody)) (hP : Reach E h R cfg P)
    (c : Client) (chain : List String) (origin : Origin) (hhit : HitFor E P c chain origin) :
    (∀ m, m ∈ chain ↔ m ∈ chainModels h c.ctx c.stats c.req.model) ∧
      (origin.producer ∈ chain ↔ Admits h c origin.producer) := by
  obtain ⟨scope, model, prompt, vec, k, now, hit, json, hthread, hlookup, hresponse⟩ := hhit
  obtain ⟨hinv, hspecs⟩ := cache_invariant hP
  -- the request's own specification says what it looks up, the invariant what it finds
  obtain ⟨-, hinquiry⟩ := (hspecs _ hthread).1
  obtain ⟨c', -, hdeposit⟩ := hinv.hit hlookup hresponse
  refine ⟨hinquiry.chain_iff, (hinquiry.chain_iff _).trans ?_⟩
  exact mem_chainModels_iff (hdeposit.model_eq.symm.trans hinquiry.model_eq) hdeposit.producer_mem

def narrowCaller : Ctx := { caller with vkeyID := "vk-2", allowedModels := ["gpt-4o-mini"] }

def deposit : Origin := ⟨"gpt-4o", caller, plainRequest "fast"⟩

def filled : Memory (String × Origin) :=
  (serve (plainResponse "gpt-4o") caller (plainRequest "fast") 15
    (Semcache.newMemory sampleConfig)).1

def asking (ctx : Ctx) : Memory (String × Origin) × GProg (Reply ChatBody) :=
  serve (plainResponse "gpt-4o") ctx (plainRequest "fast") 9 filled

def lookup? : Op → Option (List String × String × String × String × List ℚ)
  | .cacheLookup chain scope model prompt vec => some (chain, scope, model, prompt, vec)
  | _ => none

lemma hitFor_asking (ctx : Ctx) (chain : List String)
    (hnext : (asking ctx).2.next?.bind lookup? = some (chain, "org-1", "fast", "hello", []))
    (hfound : (asking ctx).1.lookup (tagged sampleEngine)
      (lookupCall 0 "org-1" "fast" "hello" []) = some ⟨some ("R", deposit), 1⟩) :
    ∃ P, Reach sampleEngine cachingHandler Set.univ sampleConfig P ∧
      HitFor sampleEngine P (sampleClient ctx (plainRequest "fast")) chain deposit := by
  have hfilled := reach_serve (Set.mem_univ (sampleClient caller (plainRequest "fast"))) rfl
    (plainResponse "gpt-4o") 15 .init
  have hreach := reach_serve (Set.mem_univ (sampleClient ctx (plainRequest "fast"))) rfl
    (plainResponse "gpt-4o") 9 hfilled
  obtain ⟨o, ho, hlookup⟩ := Option.bind_eq_some_iff.mp hnext
  obtain ⟨k, hk⟩ := Prog.eq_op_of_next? ho
  cases o with
  | cacheLookup chain' scope model prompt vec =>
    cases hlookup
    refine ⟨_, hreach, "org-1", "fast", "hello", [], k, 0, _, "R", ?_, hfound, rfl⟩
    exact mem_append_right _ (mem_singleton.mpr (congrArg _ hk.symm))
  | _ => cases hlookup

theorem cached_producer_iff_again : ∃ P, Reach sampleEngine cachingHandler Set.univ sampleConfig P ∧
      HitFor sampleEngine P (sampleClient caller (plainRequest "fast"))
        ["gpt-4o", "gpt-4o-mini"] deposit ∧ (deposit.producer ∈ ["gpt-4o", "gpt-4o-mini"] ↔
        Admits cachingHandler (sampleClient caller (plainRequest "fast")) deposit.producer) := by
  obtain ⟨P, hP, hhit⟩ := hitFor_asking caller ["gpt-4o", "gpt-4o-mini"]
    (by with_unfolding_all decide) (by with_unfolding_all decide)
  exact ⟨P, hP, hhit, (cached_producer_iff sampleEngine cachingHandler _ sampleConfig P hP _ _ _
    hhit).2⟩

theorem cached_outside_allowList : ∃ P, Reach sampleEngine cachingHandler Set.univ sampleConfig P ∧
      HitFor sampleEngine P (sampleClient narrowCaller (plainRequest "fast")) ["gpt-4o-mini"]
        deposit ∧
      deposit.producer ∉ ["gpt-4o-mini"] ∧ modelAllowed narrowCaller deposit.producer = false := by
  obtain ⟨P, hP, hhit⟩ := hitFor_asking narrowCaller ["gpt-4o-mini"] (by decide)
    (by with_unfolding_all decide)
  exact ⟨P, hP, hhit, by decide, by decide⟩

end FfxNexus.CacheAdmission
