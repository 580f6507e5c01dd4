/-
**Redaction of a trace** (`RedactPII` and `InspectPII` of
`internal/evaluators/heuristic/patterns.go`).
-/
import FfxNexus.Evals.Redaction

namespace FfxNexus.Evals.Heuristic
open List Gateway Regexp

def piiMask : List Char := "[REDACTED:pii]".toList

def masked (ps : List Regexp) (s : List Char) : List Char :=
  ps.foldl (fun out p => replaceAll p out piiMask) s

def redact (s : String) : String :=
  if s = "" then s else String.ofList (masked piiPatterns s.toList)

def redactPII (t : Trace) : Trace :=
  if t.inputMessages = "" ∧ t.outputMessages = "" then t
  else { t with
    inputMessages := redact t.inputMessages, outputMessages := redact t.outputMessages }

def numbers : List Regexp :=
  [grouped '-' [3, 2, 4], times 9 digit, grouped ' ' [3, 3, 4], residentNumber]

end FfxNexus.Evals.Heuristic
