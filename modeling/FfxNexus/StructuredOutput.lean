/-
**Structured output across requests.** A unary chat request that wants JSON is answered with a text
that its guardrail accepts, or not at all.
-/
import FfxNexus.CacheClient

namespace FfxNexus.StructuredOutput
open Interaction Schema Gateway Chat SharedCache CacheClient Guardrails List
open Semcache (Engine Memory sampleConfig)
open Dispatch (caller jsonRequest plainRequest plainResponse)

def Uniform (R : Set Client) : Prop :=
  ∀ a ∈ R, ∀ b ∈ R, cacheEligible a.req = true → cacheEligible b.req = true →
    cacheScope a.ctx = cacheScope b.ctx → a.req.model = b.req.model →
    wantsJSON b.req.responseFormat = true →
    wantsJSON a.req.responseFormat = true ∧
      schemaBytes a.req.responseFormat = schemaBytes b.req.responseFormat

lemma Uniform.found {h : Handler} {R : Set Client} {c : Client} {json : String}
    {cached : ChatCompletionResponse} (huniform : Uniform R) (hfound : Found h R c json)
    (hcached : h.codec.unmarshal json = some cached) : Validated h c.req cached := by
  intro hjson content hcontent
  obtain ⟨hc, heligible, c', hc', origin, hdeposit⟩ := hfound
  obtain ⟨resp, hencoded, hvalid⟩ := hdeposit.encoded
  obtain ⟨hwants, hschema⟩ := huniform c' hc' c hc hdeposit.eligible heligible
    hdeposit.scope_eq.symm hdeposit.model_eq.symm hjson
  obtain ⟨-, htext⟩ := h.codec.faithful resp json cached hencoded hcached
  rw [← hschema]
  exact hvalid hwants content (htext.symm.trans hcontent)

theorem structured_output (E : Engine String) (h : Handler) (R : Set Client)
    (cfg : Semcache.Config) (huniform : Uniform R)
    (P : Pool Ans (Memory (String × Origin)) Client (Reply ChatBody)) (hP : Reach E h R cfg P)
    (c : Client) (cost : ℚ) (resp : ChatCompletionResponse)
    (hdone : (c, .ret (.ok (.completion cost resp))) ∈ P.threads)
    (hjson : wantsJSON c.req.responseFormat = true) (content : String)
    (hcontent : resp.content? = some content) :
    (checkJSONOutput h.guard content (schemaBytes c.req.responseFormat)).blocked = false := by
  have hanswered : answered h (Found h R) c (.ok (.completion cost resp)) :=
    (cache_invariant hP).2 _ hdone
  rcases hanswered with hvalid | ⟨json, cached, hfound, hcached, htext⟩
  · exact hvalid hjson content hcontent
  · exact huniform.found hfound hcached hjson content (htext.symm.trans hcontent)

def jsonClient : Client := sampleClient caller jsonRequest

def textClient : Client := sampleClient caller (plainRequest "gpt-4o")

def jsonResponse : ChatCompletionResponse := (plainResponse "gpt-4o").setContent "true"

def priced (resp : ChatCompletionResponse) (cost : ℚ) : ChatCompletionResponse :=
  { resp with usage := { resp.usage with costUSD := cost } }

theorem structured_output_alone : Uniform {jsonClient} ∧ ∃ P cost resp,
      Reach sampleEngine cachingHandler {jsonClient} sampleConfig P ∧
      (jsonClient, .ret (.ok (.completion cost resp))) ∈ P.threads ∧ resp.content? = some "true" ∧
      (checkJSONOutput cachingHandler.guard "true" (schemaBytes jsonRequest.responseFormat)).blocked
        = false := by
  have huniform : Uniform {jsonClient} := by
    rintro a rfl b rfl - - - - hjson
    exact ⟨hjson, rfl⟩
  have hreach := reach_serve (R := {jsonClient}) (m := Semcache.newMemory sampleConfig)
    (Set.mem_singleton jsonClient) rfl jsonResponse 14 .init
  have hdone : (serve jsonResponse caller jsonRequest 14 (Semcache.newMemory sampleConfig)).2 =
      .ret (.ok (.completion (3 / 40000) (priced jsonResponse (3 / 40000)))) :=
    Prog.eq_ret_of_result? (by with_unfolding_all decide)
  rw [hdone] at hreach
  exact ⟨huniform, _, _, _, hreach, mem_singleton_self _, rfl,
    structured_output sampleEngine cachingHandler _ sampleConfig huniform _ hreach jsonClient _ _
      (mem_singleton_self _) rfl "true" rfl⟩

theorem cached_text_for_json :
    ∃ P cost resp, Reach sampleEngine cachingHandler {textClient, jsonClient} sampleConfig P ∧
      (jsonClient, .ret (.ok (.completion cost resp))) ∈ P.threads ∧
      wantsJSON jsonRequest.responseFormat = true ∧ resp.content? = some "hi" ∧
      (checkJSONOutput cachingHandler.guard "hi" (schemaBytes jsonRequest.responseFormat)).blocked
        = true := by
  have hfilled := reach_serve (R := {textClient, jsonClient})
    (m := Semcache.newMemory sampleConfig) (Set.mem_insert textClient _) rfl
    (plainResponse "gpt-4o") 14 .init
  have hreach := reach_serve (Set.mem_insert_of_mem _ (Set.mem_singleton jsonClient)) rfl
    (plainResponse "gpt-4o") 14 hfilled
  have hdone : (serve (plainResponse "gpt-4o") caller jsonRequest 14
      (serve (plainResponse "gpt-4o") caller (plainRequest "gpt-4o") 14
        (Semcache.newMemory sampleConfig)).1).2 =
      .ret (.ok (.completion 0 (priced (plainResponse "gpt-4o") 0))) :=
    Prog.eq_ret_of_result? (by with_unfolding_all decide)
  rw [hdone] at hreach
  exact ⟨_, _, _, hreach, mem_append_right _ (mem_singleton_self _), rfl, rfl, rfl⟩

end FfxNexus.StructuredOutput
