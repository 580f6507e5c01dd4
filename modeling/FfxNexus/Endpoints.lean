/-
**The endpoints that reach a provider.**
-/
import FfxNexus.Chat
import FfxNexus.Translated

namespace FfxNexus.Endpoints
open Schema Providers Gateway Chat Translated

inductive Capability where
  | embeddings | moderations | images
deriving DecidableEq

variable (h : Handler) (k : Capability) (ctx : Ctx) (req : CapabilityRequest)

def Capability.call (cand : Candidate) (p : Provider) (ctx : Ctx)
    (req : CapabilityRequest) : GProg (Except String String) :=
  match k with
  | .embeddings => perform (.embed cand p ctx req)
  | .moderations => perform (.moderate cand p ctx req)
  | .images => perform (.generateImages cand p ctx req)

def Capability.resolve (ps : List Provider) (model : String) :
    Option (Provider × String) :=
  match k with
  | .embeddings => (resolveEmbedding ps model).map (·, model)
  | .moderations => resolveModeration ps model
  | .images => resolveImage ps model

def Capability.missing : Capability → String
  | .embeddings => "no embeddings provider registered for model "
  | .moderations => "no moderation provider registered for model "
  | .images => "no image provider registered for model "

def Capability.upstream : Capability → String
  | .embeddings => "embeddings upstream error: "
  | .moderations => "moderation upstream error: "
  | .images => "image generation upstream error: "

def Capability.inputMissing : Bool :=
  match k with
  | .images => Guardrails.trimSpace req.input.toList = []
  | _ => req.input = "" ∨ Guardrails.trimSpace req.input.toList = "null".toList

def Capability.refusal : Option String :=
  if k = .embeddings ∧ req.model = "" then some "model is required"
  else if k.inputMissing req then
    some (if k = .images then "prompt is required" else "input is required")
  else none

def registered : List Provider := h.registry.providers.entries.map fun e => e.snd

def withModel (resolvedModel : String) : CapabilityRequest :=
  if req.model = "" then { req with model := resolvedModel } else req

def callCapability (k : Capability) (p : Provider)
    (req : CapabilityRequest) : GProg (Reply String) := do
  let cand : Candidate := ⟨0, req.model⟩
  let answer ← lookupCredential h cand ctx p.name
  match ← k.call cand p (overrideContext ctx answer) req with
  | .error err => return writeError h 502 "upstream_error" (k.upstream ++ err)
  | .ok resp => return .ok resp

def Capability.badEncoding : Bool :=
  k = .embeddings ∧ req.encodingFormat ∉ ["", "float", "base64"]

def capability (k : Capability)
    (body : Except String CapabilityRequest) : GProg (Reply String) :=
  match body with
  | .error err => pure (writeError h 400 "invalid_request_error" ("invalid JSON body: " ++ err))
  | .ok req =>
    match k.refusal req with
    | some msg => pure (writeError h 400 "invalid_request_error" msg)
    | none => do
        let order ← perform (.rangeProviders (registered h))
        match k.resolve order.val req.model with
        | none => return writeError h 404 "model_not_found" (k.missing ++ req.model)
        | some (p, resolvedModel) =>
          if k.badEncoding req then
            return writeError h 400 "invalid_request_error"
              "encoding_format must be \"float\" or \"base64\""
          else callCapability h ctx k p (withModel req resolvedModel)

inductive Request where
  | chat (body : Except String ChatCompletionRequest)
  | responses (body : Except String ResponsesRequest)
  | messages (body : Except String MessagesRequest)
  | capability (k : Capability) (body : Except String CapabilityRequest)

inductive Body where
  | chat (b : ChatBody)
  | responses (b : ResponsesBody)
  | messages (b : MessagesBody)
  | capability (b : String)

def Reply.wrap {β : Type} (f : β → Body) : Reply β → Reply Body
  | .error status errType msg => .error status errType msg
  | .ok b => .ok (f b)

def serve (flusher : Bool) : Request → GProg (Reply Body)
  | .chat body => do return Reply.wrap .chat (← chatCompletions h ctx flusher body)
  | .responses body => do return Reply.wrap .responses (← responses h ctx flusher body)
  | .messages body => do return Reply.wrap .messages (← messages h ctx flusher body)
  | .capability k body => do return Reply.wrap .capability (← capability h ctx k body)

end FfxNexus.Endpoints
