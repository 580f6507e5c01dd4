/-
**Failover on the translated surfaces.** The unary dispatch of `/v1/responses` and `/v1/messages`
walks a chain of its own and names a failed candidate `upstream_error_failover` in its trace.
-/
import FfxNexus.Dispatch

namespace FfxNexus.TranslatedFailover
open Go Interaction Schema Providers Gateway Translated Effects List
open Interaction.Prog hiding perform
open Dispatch (blankCodec blankText caller plainRequest plainResponse)

/-- The answer to the credential lookup and to the call of each candidate, by its place in the
chain. -/
structure Fates where
  credential : ℕ → CredentialAnswer
  unary : ℕ → Except String ChatCompletionResponse
  stream : ℕ → Except String UpstreamStream

def Fates.rely (F : Fates) : (o : Op) → Ans o → Prop
  | .resolveCredential cand _ _ _, a => a = F.credential cand.index
  | .chatCompletion cand _ _ _, r => r = F.unary cand.index
  | .chatCompletionStream cand _ _ _, r => r = F.stream cand.index
  | _, _ => True

lemma Fates.rely_some (F : Fates) (o : Op) : ∃ x, F.rely o x := by
  obtain ⟨x⟩ := Dispatch.answer_nonempty o
  cases o <;> first | exact ⟨_, rfl⟩ | exact ⟨x, trivial⟩

def Follows (F : Fates) (log : List GEvent) : Prop := ∀ e ∈ log, F.rely e.1 e.2

@[simp] lemma follows_append {F : Fates} {l l' : List GEvent} :
    Follows F (l ++ l') ↔ Follows F l ∧ Follows F l' := forall_mem_append

lemma follows_cons {F : Fates} {e : GEvent} {l : List GEvent} :
    Follows F (e :: l) ↔ F.rely e.1 e.2 ∧ Follows F l := forall_mem_cons

inductive Surface where
  | responses | messages

def Surface.execute : Surface → Handler → Ctx → ChatCompletionRequest →
    GProg (Option ChatCompletionResponse × Option Trace)
  | .responses => executeResponsesUnary
  | .messages => executeMessagesUnary

def target (ref : ProviderRef) : Provider × String := (ref.provider, ref.forwardModel)

/-- Each candidate up to the first that succeeds is called once, in chain order, for the model its
provider knows it by, and nobody else is. -/
def FirstSuccessWins (F : Fates) (refs : List ProviderRef) (log : List GEvent)
    (result : Option ChatCompletionResponse) : Prop :=
  ∀ k resp, k < refs.length → F.unary k = .ok resp → (∀ j < k, ∃ err, F.unary j = .error err) →
    result = some resp ∧ called log = (refs.take (k + 1)).map target

def firstRefused (F : Fates) (h : Handler) : Prop :=
  h.credResolver = true ∧ h.keyMode = .strictBYOK ∧ ∃ err, F.credential 0 = .failed err

def FailoverNotNeeded (F : Fates) (h : Handler) (chainLen : ℕ) : Prop :=
  (¬ firstRefused F h ∧ ∃ resp, F.unary 0 = .ok resp) ∨
    ∀ k < chainLen, ∃ err, F.unary k = .error err

section
variable {F : Fates} {h : Handler} {ctx : Ctx} {req : ChatCompletionRequest} {log : List GEvent}

lemma pickResponsesChain_ne_nil {model : String} {refs : List ProviderRef}
    (hrefs : pickResponsesChain h model = some refs) : refs ≠ [] := by
  unfold pickResponsesChain at hrefs
  dsimp only at hrefs
  split at hrefs
  · rename_i hpos
    cases hrefs
    exact ne_nil_of_length_pos hpos
  · obtain ⟨ref, -, rfl⟩ := Option.map_eq_some_iff.mp hrefs
    exact cons_ne_nil _ _

lemma lookupCredential_answer {cand : Candidate} {name : String} {a : Option CredentialAnswer}
    (hrun : (lookupCredential h cand ctx name).Runs log a) (hF : Follows F log) :
    a = if h.credResolver = true ∧ h.keyMode ≠ .shared then some (F.credential cand.index)
      else none := by
  unfold lookupCredential at hrun
  split_ifs at hrun ⊢
  · obtain ⟨x, rest, rfl, hret⟩ := hrun.first
    obtain ⟨rfl, rfl⟩ := hret.done
    exact congrArg some (follows_cons.mp hF).1
  · exact (hrun.done).2

lemma translatedAttempt_first {chainLen : ℕ} {t : Trace} {start : Int} {ref : ProviderRef}
    {r : Option ChatCompletionResponse × Trace}
    (hrun : (translatedAttempt h ctx req chainLen t start ⟨0, ref.model⟩ ref).Runs log r)
    (hF : Follows F log) : (firstRefused F h ∧ r.1 = none ∧ called log = []) ∨
      (¬ firstRefused F h ∧ r.1 = (F.unary 0).toOption ∧ called log = [target ref]) := by
  obtain ⟨l1, a, l2, rfl, hlookup, hrun1⟩ := hrun.split
  have hcalled := (lookupCredential_within ..).called_eq_nil hlookup rfl
  obtain ⟨hF1, hF2⟩ := follows_append.mp hF
  have ha := lookupCredential_answer hlookup hF1
  split at hrun1
  · rename_i err hmode
    left
    obtain ⟨l3, ms, _, rfl, hms, hret⟩ := hrun1.split
    obtain ⟨rfl, rfl⟩ := hret.done
    split_ifs at ha with hon
    refine ⟨⟨hon.1, hmode, err, (Option.some.inj ha).symm⟩, rfl, ?_⟩
    rw [called_append, called_append, hcalled, (sinceMs_within _).called_eq_nil hms rfl]
    rfl
  · rename_i a _ _ hno
    right
    have hnot : ¬ firstRefused F h := by
      rintro ⟨hres, hmode, err, hfailed⟩
      rw [if_pos ⟨hres, by rw [hmode]; decide⟩, hfailed] at ha
      exact hno err ha hmode
    obtain ⟨y, l3, rfl, hrun2⟩ := hrun1.first
    obtain rfl : y = F.unary 0 := (follows_cons.mp hF2).1
    have hafter : ∀ {β : Type} {k : Int → β} {l : List GEvent} {x : β},
        (sinceMs start >>= fun ms => pure (k ms)).Runs l x → called l = [] ∧ ∃ ms, x = k ms := by
      intro β k l x hl
      obtain ⟨ms, hms, rfl⟩ := hl.map
      exact ⟨(sinceMs_within _).called_eq_nil hms rfl, ms, rfl⟩
    have hlog : ∀ {o : Op} {x : Ans o}, chatCall? o = some (target ref) → called l3 = [] →
        called (l1 ++ ⟨o, x⟩ :: l3) = [target ref] := by
      intro o x ho hl
      rw [called_append, hcalled]
      unfold called at hl ⊢
      rw [filterMap_cons, ho, hl]
      rfl
    cases hy : F.unary 0 with
    | error err =>
      rw [hy] at hrun2
      obtain ⟨hl, ms, rfl⟩ := hafter hrun2
      exact ⟨hnot, rfl, hlog rfl hl⟩
    | ok resp =>
      rw [hy] at hrun2
      obtain ⟨hl, ms, rfl⟩ := hafter hrun2
      exact ⟨hnot, rfl, hlog rfl hl⟩

lemma execute_first (s : Surface) {refs : List ProviderRef}
    (hrefs : pickResponsesChain h req.model = some refs)
    {r : Option ChatCompletionResponse × Option Trace}
    (hrun : (s.execute h ctx req).Runs log r) (hF : Follows F log) :
    (firstRefused F h ∧ r.1 = none ∧ called log = []) ∨
      (¬ firstRefused F h ∧ r.1 = (F.unary 0).toOption ∧
        called log = (refs.take 1).map target) := by
  have hrun : (executeTranslated h ctx req).Runs log r := by cases s <;> exact hrun
  unfold executeTranslated at hrun
  rw [hrefs] at hrun
  obtain ⟨ref, rest, rfl⟩ := exists_cons_of_ne_nil (pickResponsesChain_ne_nil hrefs)
  obtain ⟨l1, t, _, rfl, htrace, hrun1⟩ := hrun.split
  obtain ⟨start, _, rfl, hrun2⟩ := hrun1.first
  obtain ⟨l2, x, _, rfl, hattempt, hret⟩ := hrun2.split
  obtain ⟨rfl, rfl⟩ := hret.done
  rw [follows_append, follows_cons, append_nil] at hF
  have hcalled : called (l1 ++ ⟨.now, start⟩ :: (l2 ++ [])) = called l2 := by
    rw [called_append, (newTrace_within ..).called_eq_nil htrace rfl, append_nil]
    rfl
  rw [hcalled]
  exact translatedAttempt_first hattempt hF.2.2

end

theorem translated_failover_iff (s : Surface) (F : Fates) (h : Handler) (ctx : Ctx)
    (req : ChatCompletionRequest) (refs : List ProviderRef)
    (hrefs : pickResponsesChain h req.model = some refs) :
    (∀ log r, (s.execute h ctx req).Runs log r → Follows F log →
      FirstSuccessWins F refs log r.1) ↔ FailoverNotNeeded F h refs.length := by
  constructor
  · intro hwins
    obtain ⟨r, log, hrun, hF⟩ := exists_yields F.rely_some (s.execute h ctx req)
    by_cases hsome : ∃ k, k < refs.length ∧ ∃ resp, F.unary k = .ok resp
    · -- the first success can only be at the head: the dispatch calls nobody else
      classical
      obtain ⟨hlt, resp, hk⟩ := Nat.find_spec hsome
      have hbefore : ∀ j < Nat.find hsome, ∃ err, F.unary j = .error err := by
        intro j hj
        cases hu : F.unary j with
        | error err => exact ⟨err, rfl⟩
        | ok resp' =>
          exact absurd ⟨by omega, resp', hu⟩ (Nat.find_min hsome hj)
      obtain ⟨hresult, hcalled⟩ := hwins log r hrun hF _ resp hlt hk hbefore
      rcases execute_first s hrefs hrun hF with ⟨-, hnone, -⟩ | ⟨hnot, -, hfirst⟩
      · rw [hnone] at hresult
        cases hresult
      have hlen := congrArg length (hcalled.symm.trans hfirst)
      rw [length_map, length_map, length_take, length_take] at hlen
      have hzero : Nat.find hsome = 0 := by omega
      rw [hzero] at hk
      exact .inl ⟨hnot, resp, hk⟩
    · refine .inr fun k hk => ?_
      cases hu : F.unary k with
      | error err => exact ⟨err, rfl⟩
      | ok resp => exact absurd ⟨k, hk, resp, hu⟩ hsome
  · rintro (⟨hnot, resp0, hok⟩ | hnone) log r hrun hF k resp hk hresp hbefore
    · have hk0 : k = 0 := by
        by_contra hne
        obtain ⟨err, herr⟩ := hbefore 0 (Nat.pos_of_ne_zero hne)
        rw [hok] at herr
        cases herr
      subst hk0
      rcases execute_first s hrefs hrun hF with ⟨hrefused, -⟩ | ⟨-, hresult, hcalled⟩
      · exact absurd hrefused hnot
      · rw [hresp] at hresult
        exact ⟨hresult, hcalled⟩
    · -- nobody succeeds, so there is no first success to ask about
      obtain ⟨err, herr⟩ := hnone k hk
      rw [hresp] at herr
      cases herr

def pairHandler : Handler :=
  { newHandler (newRegistry.register openai ["gpt-4o", "gpt-4o-mini"]) true true
      blankCodec blankText with
    groups := (∅ : GoMap String (List String)).insert "fast" ["gpt-4o", "gpt-4o-mini"] }

def pairRefs : List ProviderRef :=
  [⟨"gpt-4o", openai, "gpt-4o"⟩, ⟨"gpt-4o-mini", openai, "gpt-4o-mini"⟩]

lemma pairRefs_eq : pickResponsesChain pairHandler (plainRequest "fast").model =
    some pairRefs := by decide

def failingBelow (n : ℕ) : Fates where
  credential _ := .notFound
  unary i := if i < n then .error "overloaded" else .ok (plainResponse "gpt-4o-mini")
  stream _ := .error "overloaded"

theorem translated_failover_iff_head : FailoverNotNeeded (failingBelow 0) pairHandler 2 ∧
      ∀ log r, (Surface.responses.execute pairHandler caller
          (plainRequest "fast")).Runs log r → Follows (failingBelow 0) log →
        FirstSuccessWins (failingBelow 0) pairRefs log r.1 := by
  have hneed : FailoverNotNeeded (failingBelow 0) pairHandler 2 := by
    refine .inl ⟨?_, _, rfl⟩
    rintro ⟨hres, -⟩
    cases hres
  exact ⟨hneed, (translated_failover_iff .responses (failingBelow 0) pairHandler caller
    (plainRequest "fast") _ pairRefs_eq).mpr hneed⟩

theorem translated_no_failover : ∃ log r, (Surface.responses.execute pairHandler caller
        (plainRequest "fast")).Runs log r ∧ Follows (failingBelow 1) log ∧
      (failingBelow 1).unary 1 = .ok (plainResponse "gpt-4o-mini") ∧
      r.1 = none ∧ called log = [(openai, "gpt-4o")] := by
  obtain ⟨r, log, hrun, hF⟩ := exists_yields (failingBelow 1).rely_some
    (Surface.responses.execute pairHandler caller (plainRequest "fast"))
  refine ⟨log, r, hrun, hF, rfl, ?_⟩
  rcases execute_first .responses pairRefs_eq hrun hF with ⟨⟨hres, -⟩, -⟩ | ⟨-, hresult, hcalled⟩
  · cases hres
  · exact ⟨hresult, hcalled⟩

end FfxNexus.TranslatedFailover
