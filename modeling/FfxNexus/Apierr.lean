/-
**Scrubbing of error texts** (`Scrub` of `internal/apierr/apierr.go`): every occurrence of a
protected signature is replaced by a marker. The signatures are ASCII, so it makes no difference
whether a text is taken by bytes (`scrub`) or by characters (`scrubText`).
-/
import FfxNexus.Adapters.OpenAISSE
import FfxNexus.Replace

namespace FfxNexus.Apierr
open List Replace
open Adapters.OpenAISSE (Bytes ascii text)

def redactedMarker : Bytes := 0x1a :: (ascii "[NEXUS_REDACTED]" ++ [0x1a])

def slackPrefix : Bytes := ascii "xoxb-"

def ghTokenPrefix : Bytes := ascii "ghp_"

def protectedSignatures : List Bytes :=
  ["SQLSTATE", "ERROR:", "pq:", "goroutine ", ".go:", "/Users/", "/home/", "127.0.0.1",
    "localhost", "metadata.google.internal", "sk-"].map ascii ++
  [slackPrefix, ghTokenPrefix] ++
  ["postgres://", "clickhouse://", "redis://", "AKIA", "PRIVATE KEY", "prompt_content=",
    "messages=[", "org_id="].map ascii

def scrub (s : Bytes) : Bytes :=
  protectedSignatures.foldl (fun s sig => replaceAll s sig redactedMarker) s

lemma apart_marker {sig : Bytes} (h : sig ∈ protectedSignatures) :
    Replace.Apart redactedMarker sig := by
  have hmarker : ∀ sig ∈ protectedSignatures,
      sig ≠ [] ∧ 0x1a ∉ sig ∧ ¬ sig <:+: ascii "[NEXUS_REDACTED]" := by decide
  obtain ⟨hne, hsub, hmid⟩ := hmarker sig h
  exact ⟨hne, 0x1a, _, 0x1a, rfl, hsub, hsub, hmid⟩

theorem scrub_clean (s : Bytes) :
    (∀ sig ∈ protectedSignatures, ¬ sig <:+: scrub s) ∧ scrub (scrub s) = scrub s := by
  have hclean : ∀ sig ∈ protectedSignatures, ¬ sig <:+: scrub s :=
    fun sig h => not_infix_foldl (apart_marker h) (.inl h)
  exact ⟨hclean, foldl_of_not_infix hclean⟩

lemma scrub_eq_self_iff (s : Bytes) : scrub s = s ↔ ∀ sig ∈ protectedSignatures, ¬ sig <:+: s :=
  foldl_eq_self_iff fun _ => apart_marker

def signatureTexts : List (List Char) := protectedSignatures.map fun sig => (text sig).toList

def markerText : List Char := (text redactedMarker).toList

def scrubText (s : String) : String :=
  String.ofList (signatureTexts.foldl (fun s sig => replaceAll s sig markerText) s.toList)

lemma apart_markerText {sig : List Char} (h : sig ∈ signatureTexts) :
    Replace.Apart markerText sig := by
  have hmarker : ∀ sig ∈ signatureTexts,
      sig ≠ [] ∧ Char.ofNat 0x1a ∉ sig ∧ ¬ sig <:+: "[NEXUS_REDACTED]".toList := by decide
  obtain ⟨hne, hsub, hmid⟩ := hmarker sig h
  exact ⟨hne, _, _, _, by decide, hsub, hsub, hmid⟩

lemma scrubText_eq_self_iff (s : String) :
    scrubText s = s ↔ ∀ sig ∈ signatureTexts, ¬ sig <:+: s.toList := by
  rw [← foldl_eq_self_iff fun _ => apart_markerText, ← String.toList_inj, scrubText,
    String.toList_ofList]

/-! ## Secrets -/

def secretSignatures : List Bytes :=
  [ascii "sk-", slackPrefix, ghTokenPrefix, ascii "AKIA", ascii "postgres://",
    ascii "clickhouse://", ascii "redis://"]

/-- A body in pieces, each a signature of its own or free of them, before the rest of the text; no
signature lies across a cut. -/
def Legible (rest : Bytes) : List Bytes → Prop
  | [] => True
  | w :: ws => (w ∈ protectedSignatures ∨ ∀ sig ∈ protectedSignatures, ¬ sig <:+: w) ∧
      (∀ sig ∈ protectedSignatures, Uncrossed sig w (ws.flatten ++ rest)) ∧ Legible rest ws

instance (rest : Bytes) : (ws : List Bytes) → Decidable (Legible rest ws)
  | [] => .isTrue trivial
  | _ :: ws => by
    have := instDecidableLegible rest ws
    unfold Legible
    infer_instance

/-- What the text shows of a piece. -/
def shown (w : Bytes) : Bytes := if w ∈ protectedSignatures then redactedMarker else w

/-- A secret in its place: no signature lies across its start, across the end of `p` or across a
cut of the body. -/
structure Placed (x p : Bytes) (b : List Bytes) (y : Bytes) : Prop where
  secret : p ∈ secretSignatures
  before : ∀ sig ∈ protectedSignatures, Uncrossed sig x (p ++ (b.flatten ++ y))
  after : ∀ sig ∈ protectedSignatures, Uncrossed sig p (b.flatten ++ y)
  body : Legible y b

end FfxNexus.Apierr
