/-
**String literals of JSON**: what a literal stands for, as a decoder reads it.
-/
import Mathlib.Data.List.Basic

namespace FfxNexus.StringLiteral

def hexDigit (c : Char) : Option ℕ :=
  if '0' ≤ c ∧ c ≤ '9' then some (c.toNat - '0'.toNat)
  else if 'a' ≤ c ∧ c ≤ 'f' then some (c.toNat - 'a'.toNat + 10)
  else if 'A' ≤ c ∧ c ≤ 'F' then some (c.toNat - 'A'.toNat + 10)
  else none

def hex4 (a b c d : Char) : Option ℕ := do
  let a ← hexDigit a
  let b ← hexDigit b
  let c ← hexDigit c
  let d ← hexDigit d
  return ((a * 16 + b) * 16 + c) * 16 + d

def simpleEscape (c : Char) : Option Char :=
  if c = '"' ∨ c = '\\' ∨ c = '/' then some c
  else if c = 'b' then some (Char.ofNat 8)
  else if c = 'f' then some (Char.ofNat 12)
  else if c = 'n' then some '\n'
  else if c = 'r' then some '\r'
  else if c = 't' then some '\t'
  else none

def surrogatePair (high low : ℕ) : Option Char :=
  if 0xd800 ≤ high ∧ high < 0xdc00 ∧ 0xdc00 ≤ low ∧ low < 0xe000 then
    some (Char.ofNat ((high - 0xd800) * 0x400 + (low - 0xdc00) + 0x10000))
  else none

def unicodeEscape (n : ℕ) (rest : List Char) : Char × List Char :=
  if 0xd800 ≤ n ∧ n < 0xe000 then
    match rest with
    | '\\' :: 'u' :: a :: b :: c :: d :: rest' =>
      match (hex4 a b c d).bind (surrogatePair n) with
      | some r => (r, rest')
      | none => (Char.ofNat 0xfffd, rest)
    | _ => (Char.ofNat 0xfffd, rest)
  else (Char.ofNat n, rest)

def nextChar : List Char → Option (Char × List Char)
  | '\\' :: 'u' :: a :: b :: c :: d :: rest =>
    (hex4 a b c d).map fun n => unicodeEscape n rest
  | '\\' :: e :: rest => (simpleEscape e).map fun r => (r, rest)
  | '\\' :: [] => none
  | c :: rest => if c = '"' ∨ c.toNat < 0x20 then none else some (c, rest)
  | [] => none

def unquoteInner : ℕ → List Char → Option (List Char)
  | _, [] => some []
  | 0, _ :: _ => none
  | fuel + 1, c :: cs =>
    match nextChar (c :: cs) with
    | none => none
    | some (r, rest) => (unquoteInner fuel rest).map (r :: ·)

def unquote (raw : String) : Option String :=
  match raw.toList with
  | '"' :: rest =>
    if rest.getLast? = some '"' then
      (unquoteInner rest.length rest.dropLast).map String.ofList
    else none
  | _ => none

lemma length_unicodeEscape (n : ℕ) (rest : List Char) :
    (unicodeEscape n rest).2.length ≤ rest.length := by
  unfold unicodeEscape
  split
  · split
    · split
      · simp only [List.length_cons]
        omega
      · exact Nat.le_refl _
    · exact Nat.le_refl _
  · exact Nat.le_refl _

lemma length_nextChar {cs rest : List Char} {r : Char} (hnext : nextChar cs = some (r, rest)) :
    rest.length < cs.length := by
  unfold nextChar at hnext
  split at hnext
  · rename_i a b c d tail
    obtain ⟨n, -, heq⟩ := Option.map_eq_some_iff.mp hnext
    have hshort : rest.length ≤ tail.length := by
      have := length_unicodeEscape n tail
      rwa [heq] at this
    simp only [List.length_cons]
    omega
  · obtain ⟨e, -, heq⟩ := Option.map_eq_some_iff.mp hnext
    obtain ⟨-, rfl⟩ := Prod.mk.inj heq
    simp only [List.length_cons]
    omega
  · simp at hnext
  · split at hnext
    · simp at hnext
    · obtain ⟨-, rfl⟩ := Prod.mk.inj (Option.some.inj hnext)
      simp
  · simp at hnext

lemma length_unquoteInner {fuel : ℕ} {cs rs : List Char} (hrs : unquoteInner fuel cs = some rs) :
    rs.length ≤ cs.length := by
  fun_induction unquoteInner fuel cs generalizing rs with
  | case1 => simp_all
  | case2 => simp at hrs
  | case3 => simp at hrs
  | case4 fuel c cs r rest hnext ih =>
    obtain ⟨tail, htail, rfl⟩ := Option.map_eq_some_iff.mp hrs
    have hshort := length_nextChar hnext
    have htail' := ih htail
    simp only [List.length_cons] at hshort ⊢
    omega

lemma unquote_length {raw s : String} (hs : unquote raw = some s) :
    (∃ rest, raw.toList = '"' :: rest) ∧ s.length + 2 ≤ raw.length := by
  unfold unquote at hs
  split at hs
  · rename_i rest hraw
    split at hs
    · rename_i hlast
      obtain ⟨rs, hrs, rfl⟩ := Option.map_eq_some_iff.mp hs
      have hinner := length_unquoteInner hrs
      have hpos : rest ≠ [] := by
        rintro rfl
        simp at hlast
      have hrest := List.length_pos_iff.mpr hpos
      have hlength : raw.length = rest.length + 1 := by
        rw [← String.length_toList, hraw, List.length_cons]
      refine ⟨⟨rest, hraw⟩, ?_⟩
      rw [hlength, String.length_ofList]
      rw [List.length_dropLast] at hinner
      omega
    · simp at hs
  · simp at hs

end FfxNexus.StringLiteral
