/-
**Redaction of responses** (`internal/guardrails/guardrails.go`), with the patterns of the package.
-/
import FfxNexus.Evals.Redaction

namespace FfxNexus.Guardrails
open Regexp List
open Evals (digit bounded grouped emailPattern)

def optional (a : Regexp) : Regexp := upTo 1 a

def separator : Regexp :=
  optional (.char fun c => c ∈ ['\t', '\n', '\x0c', '\r', ' ', '.', '-'])

def reEmail : Regexp := emailPattern

def countryCode : Regexp :=
  .seq (optional (lit '+')) (.seq digit (.seq (upTo 2 digit) separator))

def areaCode : Regexp :=
  .seq (optional (lit '(')) (.seq (times 3 digit) (.seq (optional (lit ')')) separator))

def rePhone : Regexp :=
  bounded (.seq (optional countryCode)
    (.seq areaCode (.seq (times 3 digit) (.seq separator (times 4 digit)))))

def reSSN : Regexp := bounded (grouped '-' [3, 2, 4])

def reCard : Regexp :=
  let part : Regexp := .seq digit (optional (.char fun c => c ∈ [' ', '-']))
  bounded (.seq (times 13 part) (upTo 3 part))

def compiled (source : String) (r : Regexp) : Regex where
  source := source
  matchString s := r.matchString s.toList
  replaceAllString s repl := String.ofList (replaceAll r s.toList repl.toList)

def builtinPatterns : PiiPatterns where
  email := compiled "[a-zA-Z0-9._%+\\-]+@[a-zA-Z0-9.\\-]+\\.[a-zA-Z]\x7b2,\x7d" reEmail
  ssn := compiled "\\b\\d\x7b3\x7d-\\d\x7b2\x7d-\\d\x7b4\x7d\\b" reSSN
  phone := compiled ("\\b(?:\\+?\\d\x7b1,3\x7d[\\s.\\-]?)?(?:\\(?\\d\x7b3\x7d\\)?[\\s.\\-]?)" ++
    "\\d\x7b3\x7d[\\s.\\-]?\\d\x7b4\x7d\\b") rePhone
  card := compiled "\\b(?:\\d[ \\-]?)\x7b13,16\x7d\\b" reCard

def numbers : List Regexp := [reSSN, rePhone, reCard]

variable (s : List Char)

def Unmatched : Prop := ∀ q ∈ reEmail :: numbers, ¬ Found q s

lemma piiHits_eq_nil_iff (s : String) : piiHits builtinPatterns s = [] ↔ Unmatched s.toList := by
  have hmatch : ∀ q : Regexp, ¬ Found q s.toList ↔ q.matchString s.toList = false := by
    intro q
    rw [← matchString_iff, Bool.not_eq_true]
  simp only [piiHits, builtinPatterns, compiled, Unmatched, numbers, forall_mem_cons, hmatch,
    filterMap_eq_nil_iff]
  simp

lemma numbers_bounded {r : Regexp} (hr : r ∈ numbers) :
    r.nullable = false ∧ Framed r ∧ Walled r := by
  have hbounded : ∀ {m : Regexp}, m.contextFree = true → m.nullable = false →
      (bounded m).nullable = false ∧ Framed (bounded m) ∧ Walled (bounded m) := by
    intro m hfree hnull
    refine ⟨?_, framed_bounded hfree hnull, walled_bounded m⟩
    simp [bounded, nullable, hnull]
  simp only [numbers, mem_cons, not_mem_nil, or_false] at hr
  rcases hr with rfl | rfl | rfl
  · exact hbounded rfl rfl
  · exact hbounded rfl rfl
  · exact hbounded rfl rfl

lemma framed_of_mem {q : Regexp} (hq : q ∈ reEmail :: numbers) : Framed q := by
  rcases mem_cons.mp hq with rfl | hq
  · exact framed_of_contextFree rfl
  · exact (numbers_bounded hq).2.1

lemma separates_mask {q : Regexp} (hq : q ∈ reEmail :: numbers) :
    Separates q redactionMask.toList := by
  have hall : ∀ q ∈ reEmail :: numbers, q.alphabet '[' = false ∧ q.alphabet ']' = false ∧
      matchString q "REDACTED".toList = false := by decide
  obtain ⟨hopen, hclose, hinner⟩ := hall q hq
  refine ⟨'[', "REDACTED".toList, ']', by decide, hopen, by decide, hclose, by decide, ?_⟩
  rw [← matchString_iff, hinner]
  exact Bool.false_ne_true

def masked : List Char :=
  (reEmail :: numbers).foldl (fun s r => replaceAll r s redactionMask.toList) s

lemma unmatched_masked : Unmatched (masked s) := by
  intro q hq
  rw [masked, foldl_cons]
  refine not_found_foldl (fun r hr => numbers_bounded hr) (framed_of_mem hq) (separates_mask hq) ?_
  rcases mem_cons.mp hq with rfl | hnumber
  · -- addresses are replaced first, and the numbers bring none back
    left
    rw [found_replaceAll (separates_mask hq)]
    rintro ⟨p, hp, hfound⟩
    exact not_found_of_mem_pieces rfl rfl hp hfound
  · exact .inr hnumber

lemma masked_of_unmatched {s : List Char} (hs : Unmatched s) : masked s = s := by
  have hkept : ∀ rs : List Regexp, (∀ r ∈ rs, ¬ Found r s) →
      rs.foldl (fun s r => replaceAll r s redactionMask.toList) s = s := by
    intro rs hrs
    induction rs with
    | nil => rfl
    | cons r rs ih =>
      obtain ⟨hr, hrest⟩ := forall_mem_cons.mp hrs
      rw [foldl_cons, replaceAll_of_not_found hr]
      exact ih hrest
  exact hkept _ hs

lemma redactOutput_masked {g : Guard} (hon : g.cfg.redactPIIOutput = true)
    (hpii : g.pii = builtinPatterns) (t : String) : redactOutput (some g) t =
      (String.ofList (masked t.toList), decide (String.ofList (masked t.toList) ≠ t)) := by
  have hempty : masked [] = [] :=
    masked_of_unmatched ((piiHits_eq_nil_iff "").mp (by decide))
  by_cases ht : t = ""
  · subst ht
    rw [redactOutput, if_pos (.inr rfl), String.toList_empty, hempty]
    rfl
  have hrun : ¬ (g.cfg.redactPIIOutput = false ∨ t = "") := by simp [hon, ht]
  have hfold : [builtinPatterns.email, builtinPatterns.ssn, builtinPatterns.phone,
      builtinPatterns.card].foldl (fun t re => re.replaceAllString t redactionMask) t =
      String.ofList (masked t.toList) := by
    simp [builtinPatterns, compiled, masked, numbers]
  rw [redactOutput, if_neg hrun, hpii]
  rw [hfold]

theorem redactOutput_clean (g : Guard) (t : String) (hon : g.cfg.redactPIIOutput = true)
    (hpii : g.pii = builtinPatterns) : piiHits g.pii (redactOutput (some g) t).1 = [] ∧
      redactOutput (some g) (redactOutput (some g) t).1 = ((redactOutput (some g) t).1, false) := by
  have hclean : Unmatched (masked t.toList) := unmatched_masked t.toList
  rw [redactOutput_masked hon hpii, hpii, redactOutput_masked hon hpii]
  constructor
  · rw [piiHits_eq_nil_iff, String.toList_ofList]
    exact hclean
  · rw [String.toList_ofList, masked_of_unmatched hclean]
    simp

def redactingGuard : Guard :=
  ⟨⟨false, true, 0, false⟩, [], builtinPatterns, ⟨fun _ => none, fun _ => false, fun _ _ => none⟩⟩

theorem redactOutput_clean_contact :
    redactingGuard.cfg.redactPIIOutput = true ∧ redactingGuard.pii = builtinPatterns ∧
      redactOutput (some redactingGuard) "a@b.com-555-123-4567, 123-45-6789" =
        ("[REDACTED]-[REDACTED], [REDACTED]", true) ∧
      piiHits redactingGuard.pii "[REDACTED]-[REDACTED], [REDACTED]" = [] := by
  have hout : redactOutput (some redactingGuard) "a@b.com-555-123-4567, 123-45-6789" =
      ("[REDACTED]-[REDACTED], [REDACTED]", true) := by decide
  have hclean := (redactOutput_clean redactingGuard "a@b.com-555-123-4567, 123-45-6789" rfl rfl).1
  exact ⟨rfl, rfl, hout, hclean⟩

end FfxNexus.Guardrails
