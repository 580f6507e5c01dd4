/-
**Inline guardrails** (`internal/guardrails/guardrails.go`, `schema.go`): the checks of a prompt
before any upstream call, and of the output after it.
-/
import Mathlib.Data.List.Basic

namespace FfxNexus.Guardrails

structure Regex where
  source : String
  matchString : String → Bool
  replaceAllString : String → String → String

/-- The pattern of a rule that is off in the samples. -/
def noMatch : Regex := ⟨"", fun _ => false, fun s _ => s⟩

structure PiiPatterns where
  email : Regex
  ssn : Regex
  phone : Regex
  card : Regex

structure JsonEngine where
  unmarshalError : String → Option String
  schemaCompiles : String → Bool
  validateError : String → String → Option String

structure Config where
  blockPIIInput : Bool
  redactPIIOutput : Bool
  maxInputChars : Int
  validateJSONOutput : Bool

structure Guard where
  cfg : Config
  denyCompiled : List Regex
  pii : PiiPatterns
  json : JsonEngine

structure Finding where
  blocked : Bool
  rule : String
  reason : String

def allow : Finding := ⟨false, "", ""⟩

def block (rule reason : String) : Finding := ⟨true, rule, reason⟩

def piiHits (pii : PiiPatterns) (text : String) : List String :=
  [(pii.email, "email"), (pii.ssn, "ssn"), (pii.phone, "phone"), (pii.card, "card")].filterMap
    fun p => if p.1.matchString text then some p.2 else none

variable (g : Option Guard) (s : List Char)

def checkInput (prompt : String) : Finding :=
  match g with
  | none => allow
  | some g =>
    if 0 < g.cfg.maxInputChars ∧ g.cfg.maxInputChars < prompt.utf8ByteSize then
      block "max_input_chars" "request prompt exceeds the configured maximum length"
    else if g.cfg.blockPIIInput ∧ 0 < (piiHits g.pii prompt).length then
      block "pii_input" ("request prompt contains disallowed PII: " ++
        String.intercalate ", " (piiHits g.pii prompt))
    else
      match g.denyCompiled.find? fun re => re.matchString prompt with
      | some re => block "deny_pattern"
          ("request prompt matches a blocked pattern: " ++ re.source)
      | none => allow

def redactionMask : String := "[REDACTED]"

def redactOutput (text : String) : String × Bool :=
  match g with
  | none => (text, false)
  | some g =>
    if g.cfg.redactPIIOutput = false ∨ text = "" then (text, false)
    else
      let redacted := [g.pii.email, g.pii.ssn, g.pii.phone, g.pii.card].foldl
        (fun t re => re.replaceAllString t redactionMask) text
      (redacted, redacted ≠ text)

def checkJSONOutput (output schema : String) : Finding :=
  match g with
  | none => allow
  | some g =>
    if g.cfg.validateJSONOutput = false then allow
    else if output = "" then
      block "json_output" "response is empty but a JSON response_format was requested"
    else
      match g.json.unmarshalError output with
      | some err => block "json_output" ("response is not valid JSON: " ++ err)
      | none =>
        if schema = "" ∨ g.json.schemaCompiles schema = false then allow
        else
          match g.json.validateError schema output with
          | some err => block "json_schema"
              ("response does not conform to the requested JSON schema: " ++ err)
          | none => allow

def isSpace (c : Char) : Bool :=
  c.toNat ∈ [9, 10, 11, 12, 13, 32, 0x85, 0xa0, 0x1680, 0x2028, 0x2029, 0x202f, 0x205f, 0x3000] ||
    (decide (0x2000 ≤ c.toNat) && decide (c.toNat ≤ 0x200a))

def trimSpace : List Char :=
  ((s.dropWhile isSpace).reverse.dropWhile isSpace).reverse

def lastIndex (s pat : List Char) : Option ℕ :=
  (List.range (s.length + 1)).reverse.find? fun i => pat.isPrefixOf (s.drop i)

def fence : List Char := "```".toList

def stripCodeFence : List Char :=
  if fence.isPrefixOf s = false then s
  else if '\n' ∈ s then
    let body := (s.dropWhile (· ≠ '\n')).tail
    trimSpace (match lastIndex body fence with
      | some i => body.take i
      | none => body)
  else s

def extractLoop (opening closing : Char) (depth : Int) (inStr esc : Bool) (seen : List Char) :
    List Char → Option (List Char)
  | [] => none
  | c :: rest =>
    if inStr then
      if esc then extractLoop opening closing depth true false (c :: seen) rest
      else if c = '\\' then extractLoop opening closing depth true true (c :: seen) rest
      else if c = '"' then extractLoop opening closing depth false false (c :: seen) rest
      else extractLoop opening closing depth true false (c :: seen) rest
    else if c = '"' then extractLoop opening closing depth true false (c :: seen) rest
    else if c = opening then
      extractLoop opening closing (depth + 1) false false (c :: seen) rest
    else if c = closing then
      if depth - 1 = 0 then some (c :: seen).reverse
      else extractLoop opening closing (depth - 1) false false (c :: seen) rest
    else extractLoop opening closing depth false false (c :: seen) rest

def extractBracketed : Option (List Char) :=
  match s.dropWhile fun c => c ≠ '{' ∧ c ≠ '[' with
  | [] => none
  | '{' :: rest => extractLoop '{' '}' 0 false false [] ('{' :: rest)
  | c :: rest => extractLoop '[' ']' 0 false false [] (c :: rest)

def repairJSON (s : String) : Option String :=
  let trimmed := trimSpace s.toList
  let stripped := stripCodeFence trimmed
  let candidate := trimSpace ((extractBracketed stripped).getD stripped)
  if candidate = [] ∨ candidate = trimmed then none else some (String.ofList candidate)

example : repairJSON "Sure: [1, 2] as asked." = some "[1, 2]" := by decide

end FfxNexus.Guardrails
