/-
**What a call costs** (`internal/gateway/pricing.go`), over exact rationals.
-/
import FfxNexus.Go
import FfxNexus.Schema

namespace FfxNexus.Pricing
open Go Schema

structure Price where
  inPerM : ℚ
  outPerM : ℚ
deriving DecidableEq

structure DetailedPrice where
  price : Price
  cachedInPerM : ℚ
  reasoningOutPerM : ℚ
deriving DecidableEq

def pricingTable : List (String × Price) :=
  [ ("gpt-4o", ⟨2.50, 10.00⟩), ("gpt-4o-mini", ⟨0.15, 0.60⟩), ("gpt-4.1", ⟨2.00, 8.00⟩),
    ("gpt-4.1-mini", ⟨0.40, 1.60⟩), ("gpt-4.1-nano", ⟨0.10, 0.40⟩), ("o3", ⟨2.00, 8.00⟩),
    ("o4-mini", ⟨1.10, 4.40⟩), ("claude-opus-4-1", ⟨15.00, 75.00⟩),
    ("claude-sonnet-4-5", ⟨3.00, 15.00⟩), ("claude-haiku-4-5", ⟨1.00, 5.00⟩),
    ("claude-3-7-sonnet-latest", ⟨3.00, 15.00⟩), ("claude-3-5-haiku-latest", ⟨0.80, 4.00⟩),
    ("gemini-2.5-pro", ⟨1.25, 10.00⟩), ("gemini-2.5-flash", ⟨0.30, 2.50⟩),
    ("gemini-2.0-flash", ⟨0.10, 0.40⟩), ("groq/llama-3.3-70b-versatile", ⟨0.59, 0.79⟩),
    ("groq/llama-3.3-70b-specdec", ⟨0.59, 0.79⟩), ("groq/llama-3.1-8b-instant", ⟨0.05, 0.08⟩),
    ("groq/llama-3.1-70b-versatile", ⟨0.59, 0.79⟩), ("groq/llama3-8b-8192", ⟨0.05, 0.08⟩),
    ("groq/llama3-70b-8192", ⟨0.59, 0.79⟩), ("groq/mixtral-8x7b-32768", ⟨0.27, 0.27⟩),
    ("groq/gemma2-9b-it", ⟨0.20, 0.20⟩), ("groq/llama-guard-3-8b", ⟨0.20, 0.20⟩),
    ("mistral/mistral-large-latest", ⟨2.00, 6.00⟩), ("mistral/mistral-medium-latest", ⟨0.40, 2.00⟩),
    ("mistral/mistral-small-latest", ⟨0.20, 0.60⟩), ("mistral/mistral-small-2409", ⟨0.20, 0.60⟩),
    ("mistral/codestral-latest", ⟨0.30, 0.90⟩), ("mistral/codestral-2405", ⟨0.30, 0.90⟩),
    ("mistral/open-mistral-7b", ⟨0.25, 0.25⟩), ("mistral/open-mixtral-8x7b", ⟨0.27, 0.27⟩),
    ("mistral/ministral-8b-latest", ⟨0.10, 0.10⟩), ("mistral/ministral-3b-latest", ⟨0.04, 0.04⟩),
    ("mistral/pixtral-12b-2409", ⟨0.15, 0.15⟩), ("grid/text-standard", ⟨0.20, 0.50⟩),
    ("grid/text-prime", ⟨0.50, 1.50⟩), ("grid/text-max", ⟨1.50, 4.50⟩),
    ("grid/code-standard", ⟨0.30, 0.90⟩), ("grid/code-prime", ⟨0.70, 2.10⟩),
    ("grid/code-max", ⟨2.10, 6.30⟩), ("grid/agent-standard", ⟨0.40, 1.20⟩),
    ("grid/agent-prime", ⟨1.00, 3.00⟩), ("grid/agent-max", ⟨3.00, 9.00⟩) ]

def detailedPricingTable : List (String × DetailedPrice) :=
  [ ("claude-opus-4-1", ⟨⟨15.00, 75.00⟩, 1.50, 0⟩), ("claude-sonnet-4-5", ⟨⟨3.00, 15.00⟩, 0.30, 0⟩),
    ("claude-haiku-4-5", ⟨⟨1.00, 5.00⟩, 0.10, 0⟩),
    ("claude-3-7-sonnet-latest", ⟨⟨3.00, 15.00⟩, 0.30, 0⟩),
    ("claude-3-5-haiku-latest", ⟨⟨0.80, 4.00⟩, 0.08, 0⟩), ("o3", ⟨⟨2.00, 8.00⟩, 0, 8.00⟩),
    ("o4-mini", ⟨⟨1.10, 4.40⟩, 0, 4.40⟩) ]

def familyAliases : List (String × String) :=
  [ ("gpt-4o-mini", "gpt-4o-mini"), ("gpt-4o", "gpt-4o"), ("gpt-4.1-mini", "gpt-4.1-mini"),
    ("gpt-4.1-nano", "gpt-4.1-nano"), ("gpt-4.1", "gpt-4.1"), ("o4-mini", "o4-mini"),
    ("o3", "o3"), ("claude-3-7-sonnet", "claude-3-7-sonnet-latest"),
    ("claude-3-5-haiku", "claude-3-5-haiku-latest"), ("claude-opus", "claude-opus-4-1"),
    ("claude-sonnet", "claude-sonnet-4-5"), ("claude-haiku", "claude-haiku-4-5"),
    ("gemini-2.5-pro", "gemini-2.5-pro"), ("gemini-2.5-flash", "gemini-2.5-flash"),
    ("gemini-2.0-flash", "gemini-2.0-flash"), ("text-standard", "grid/text-standard"),
    ("text-prime", "grid/text-prime"), ("text-max", "grid/text-max"),
    ("code-standard", "grid/code-standard"), ("code-prime", "grid/code-prime"),
    ("code-max", "grid/code-max"), ("agent-standard", "grid/agent-standard"),
    ("agent-prime", "grid/agent-prime"), ("agent-max", "grid/agent-max") ]

def hasPrefix (s pre : String) : Bool := pre.toList.isPrefixOf s.toList

def matchAliasIn {α : Type} (table : List (String × α)) (model : String) : Option α :=
  familyAliases.findSome? fun a => if hasPrefix model a.1 then table.lookup a.2 else none

def matchIn {α : Type} (table : List (String × α)) (model : String) : Option α :=
  if model = "" then none
  else
    let stripped :=
      match cut model '/' with
      | none => none
      | some (_, rest) => table.lookup rest <|> matchAliasIn table rest
    table.lookup model <|> stripped <|> matchAliasIn table model

def matchPrice (model : String) : Option Price := matchIn pricingTable model

def matchDetailed (model : String) : Option DetailedPrice := matchIn detailedPricingTable model

def firstOf {α : Type} (find : String → Option α) (requestModel responseModel : String) :
    Option α :=
  match find requestModel with
  | some x => some x
  | none =>
    if responseModel ≠ "" ∧ responseModel ≠ requestModel then find responseModel else none

def applyBasic (p : Price) (inTokens outTokens : Int) : ℚ :=
  (inTokens / 1000000 : ℚ) * p.inPerM + (outTokens / 1000000 : ℚ) * p.outPerM

def cachedShare (usage : Option Usage) (inTokens : Int) : Int :=
  match usage.bind Usage.promptTokenDetails with
  | some d => if 0 < d.cachedTokens then min d.cachedTokens inTokens else 0
  | none => 0

def reasoningShare (usage : Option Usage) (outTokens : Int) : Int :=
  match usage.bind Usage.completionTokenDetails with
  | some d => if 0 < d.reasoningTokens then min d.reasoningTokens outTokens else 0
  | none => 0

def applyDetailed (dp : DetailedPrice) (inTokens outTokens : Int) (usage : Option Usage) : ℚ :=
  let cachedInRate := if dp.cachedInPerM = 0 then dp.price.inPerM else dp.cachedInPerM
  let reasoningOutRate :=
    if dp.reasoningOutPerM = 0 then dp.price.outPerM else dp.reasoningOutPerM
  let cachedIn := cachedShare usage inTokens
  let reasoningOut := reasoningShare usage outTokens
  let uncached := max (inTokens - cachedIn) 0
  let regularOut := if outTokens - reasoningOut < 0 then outTokens else outTokens - reasoningOut
  (uncached / 1000000 : ℚ) * dp.price.inPerM + (cachedIn / 1000000 : ℚ) * cachedInRate +
    (regularOut / 1000000 : ℚ) * dp.price.outPerM + (reasoningOut / 1000000 : ℚ) * reasoningOutRate

variable (requestModel responseModel : String)

def costForModel (inTokens outTokens : Int)
    (useDetail : Bool) (usage : Option Usage) : ℚ :=
  let basic :=
    match firstOf matchPrice requestModel responseModel with
    | some p => applyBasic p inTokens outTokens
    | none => 0
  if useDetail then
    match firstOf matchDetailed requestModel responseModel with
    | some dp => applyDetailed dp inTokens outTokens usage
    | none => basic
  else basic

def costUSD (inTokens outTokens : Int) : ℚ :=
  costForModel requestModel responseModel inTokens outTokens false none

def tableCostUSD (usage : Option Usage) : ℚ :=
  match usage with
  | none => costUSD requestModel responseModel 0 0
  | some u =>
    let detail := PromptTokenDetails.hasDetail u.promptTokenDetails ||
      CompletionTokenDetails.hasDetail u.completionTokenDetails
    if detail ∧ (firstOf matchDetailed requestModel responseModel).isSome then
      costForModel requestModel responseModel u.promptTokens u.completionTokens true (some u)
    else costUSD requestModel responseModel u.promptTokens u.completionTokens

def resolveCostUSD (upstreamReported : ℚ) (requestModel responseModel : String)
    (usage : Option Usage) : ℚ :=
  if 0 < upstreamReported then upstreamReported
  else tableCostUSD requestModel responseModel usage

lemma resolveCostUSD_reported {c : ℚ} (h : 0 < c) (requestModel responseModel : String)
    (usage : Option Usage) : resolveCostUSD c requestModel responseModel usage = c :=
  if_pos h

lemma resolveCostUSD_table {c : ℚ} (h : ¬ 0 < c) (requestModel responseModel : String)
    (usage : Option Usage) : resolveCostUSD c requestModel responseModel usage =
      tableCostUSD requestModel responseModel usage :=
  if_neg h

end FfxNexus.Pricing
