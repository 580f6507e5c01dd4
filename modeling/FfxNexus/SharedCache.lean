/-
**Requests over one semantic cache**: any number of unary chat requests, of any keys, interleaved
over one in-memory cache, operation by operation.
-/
import FfxNexus.Dispatch

namespace FfxNexus.SharedCache
open Go Interaction Schema Providers Routing Gateway Chat Dispatch
open Guardrails hiding Config
open Interaction.Prog hiding perform
open Semcache (Bytes Config Engine Hit LookupCall Memory StoreCall StoredEntry newMemory redisKey
  sampleConfig)

structure Client where
  ctx : Ctx
  req : ChatCompletionRequest
  stats : Stats

def starts (h : Handler) (R : Set Client) (c : Client) (p : GProg (Reply ChatBody)) : Prop :=
  c ∈ R ∧ c.req.stream = false ∧ ∃ flusher, p = chatCompletions h c.ctx flusher (.ok c.req)

def utf8 (s : String) : Bytes := s.toByteArray.data.toList

lemma utf8_injective : Function.Injective utf8 := by
  intro s t h
  have hdata : s.toByteArray.data = t.toByteArray.data := Array.toList_inj.mp h
  exact String.toByteArray_inj.mp (ByteArray.ext hdata)

def cacheKey (scope model : String) : Bytes := redisKey (utf8 scope) (utf8 model)

lemma cacheKey_injective {scope model scope' model' : String}
    (h : cacheKey scope model = cacheKey scope' model') : scope = scope' ∧ model = model' := by
  obtain ⟨hscope, hmodel⟩ := Semcache.redisKey_injective h
  exact ⟨utf8_injective hscope, utf8_injective hmodel⟩

def lookupCall (now : Int) (scope model prompt : String) (vec : List ℚ) : LookupCall :=
  ⟨now, utf8 scope, utf8 model, utf8 prompt, vec⟩

def storeCall {β : Type} (now : Int) (scope model prompt : String) (vec : List ℚ) (b : β) :
    StoreCall β :=
  ⟨now, utf8 scope, utf8 model, utf8 prompt, vec, some b⟩

def mapHit {β γ : Type} (f : β → γ) (hit : Hit β) : Hit γ :=
  ⟨hit.responseJSON.map f, hit.similarity⟩

def world {β : Type} (E : Engine β) (put : String → Origin → β) (get : β → String) (c : Client)
    (m : Memory β) : (o : Op) → Ans o → Memory β → Prop
  | .cacheLookup _ scope model prompt vec, x, m' =>
    m' = m ∧ ((∃ err, x = .error err) ∨ ∃ now,
      x = .ok ((m.lookup E (lookupCall now scope model prompt vec)).map (mapHit get)))
  | .cacheStore origin scope model prompt vec json, x, m' =>
    ((∃ err, x = .error err) ∧ m' = m) ∨
      (x = .ok () ∧ ∃ now, m' = m.store E (storeCall now scope model prompt vec (put json origin)))
  | .readStats, x, m' => x = c.stats ∧ m' = m
  | _, _, m' => m' = m

variable (E : Engine String) (resp : ChatCompletionResponse) (ctx : Ctx)
  (req : ChatCompletionRequest) (m : Memory (String × Origin))

def tagged : Engine (String × Origin) :=
  ⟨E.promptHash, E.cosineSimilarity, fun b => E.isEmpty b.1⟩

abbrev taggedWorld : Client → Memory (String × Origin) → (o : Op) → Ans o →
    Memory (String × Origin) → Prop :=
  world (tagged E) Prod.mk Prod.fst

abbrev Reach (h : Handler) (R : Set Client) (cfg : Config) :
    Pool Ans (Memory (String × Origin)) Client (Reply ChatBody) → Prop :=
  Pool.Reachable (starts h R) (taggedWorld E) (newMemory cfg)

def sampleEngine : Engine String where
  promptHash p := toString (p.map UInt8.toNat)
  cosineSimilarity _ _ := 0
  isEmpty b := b = ""

def sampleCodec : ResponseCodec where
  marshal r := if r = plainResponse "gpt-4o" then some "R" else none
  unmarshal b := if b = "R" then some (plainResponse "gpt-4o") else none
  faithful r b r' hr hr' := by
    split at hr
    · split at hr'
      · cases hr'
        subst r
        exact ⟨rfl, rfl⟩
      · cases hr'
    · cases hr

def sampleGuard : Guard :=
  ⟨⟨false, false, 0, true⟩, [], ⟨noMatch, noMatch, noMatch, noMatch⟩,
    ⟨fun s => if s = "true" then none else some "invalid character", fun _ => true,
      fun _ _ => none⟩⟩

def cachingHandler : Handler :=
  { newHandler (newRegistry.register openai ["gpt-4o", "gpt-4o-mini"]) true true sampleCodec
      blankText with
    router := some defaultWeights
    groups := (∅ : GoMap String (List String)).insert "fast" ["gpt-4o", "gpt-4o-mini"]
    guard := some sampleGuard
    scache := some ⟨false, Semcache.effectiveConfig sampleConfig, .inr rfl⟩ }

def sampleOutside :
    (o : Op) → Ans o × Memory (String × Origin)
  | .cacheLookup _ scope model prompt vec =>
    (.ok ((m.lookup (tagged sampleEngine) (lookupCall 0 scope model prompt vec)).map
      (mapHit Prod.fst)), m)
  | .cacheStore origin scope model prompt vec json =>
    (.ok (), m.store (tagged sampleEngine) (storeCall 0 scope model prompt vec (json, origin)))
  | .readStats => (fun _ => none, m)
  | .chatCompletion _ _ _ _ => (.ok resp, m)
  | o => (noKeys.oracle o, m)

def sampleClient : Client := ⟨ctx, req, fun _ => none⟩

lemma sampleOutside_world (o : Op) :
    taggedWorld sampleEngine (sampleClient ctx req) m o (sampleOutside resp m o).1
      (sampleOutside resp m o).2 := by
  cases o with
  | cacheLookup chain scope model prompt vec => exact ⟨rfl, .inr ⟨0, rfl⟩⟩
  | cacheStore origin scope model prompt vec json => exact .inr ⟨rfl, 0, rfl⟩
  | readStats => exact ⟨rfl, rfl⟩
  | _ => rfl

def serve (n : ℕ)
    (m : Memory (String × Origin)) : Memory (String × Origin) × GProg (Reply ChatBody) :=
  Prog.advance (sampleOutside resp) n m (chatCompletions cachingHandler ctx true (.ok req))

lemma reach_serve {R : Set Client} {ctx : Ctx} {req : ChatCompletionRequest}
    {m : Memory (String × Origin)} {ts : List (Client × GProg (Reply ChatBody))}
    (hR : sampleClient ctx req ∈ R) (hunary : req.stream = false)
    (resp : ChatCompletionResponse) (n : ℕ)
    (hP : Reach sampleEngine cachingHandler R sampleConfig ⟨m, ts⟩) :
    Reach sampleEngine cachingHandler R sampleConfig
      ⟨(serve resp ctx req n m).1, ts ++ [(sampleClient ctx req, (serve resp ctx req n m).2)]⟩ :=
  Pool.Reachable.advance (sampleOutside_world resp ctx req) n
    (hP.step (.spawn ⟨hR, hunary, true, rfl⟩))

end FfxNexus.SharedCache
