/-
**The texts of JSON**: the grammar of values over lists of characters, from white space and strings
up to objects and arrays.
-/
import Mathlib.Data.List.Basic

open List

namespace FfxNexus.JsonText

def Ws (w : List Char) : Prop := ∀ c ∈ w, c ∈ [' ', '\t', '\n', '\r']

def isHex (c : Char) : Bool :=
  c.isDigit || c ∈ ['a', 'b', 'c', 'd', 'e', 'f', 'A', 'B', 'C', 'D', 'E', 'F']

inductive Contents : List Char → Prop
  | nil : Contents []
  | plain {c : Char} {s : List Char} (hquote : c ≠ '"') (hslash : c ≠ '\\')
      (hcontrol : 0x20 ≤ c.toNat) (hs : Contents s) : Contents (c :: s)
  | escape {c : Char} {s : List Char} (hc : c ∈ ['"', '\\', '/', 'b', 'f', 'n', 'r', 't'])
      (hs : Contents s) : Contents ('\\' :: c :: s)
  | unicode {h₁ h₂ h₃ h₄ : Char} {s : List Char} (hhex : ∀ h ∈ [h₁, h₂, h₃, h₄], isHex h = true)
      (hs : Contents s) : Contents ('\\' :: 'u' :: h₁ :: h₂ :: h₃ :: h₄ :: s)

def StringText (s : List Char) : Prop := ∃ inner, Contents inner ∧ s = '"' :: (inner ++ ['"'])

def Digits (ds : List Char) : Prop := ds ≠ [] ∧ ∀ c ∈ ds, c.isDigit = true

def IntText (ds : List Char) : Prop := Digits ds ∧ (ds.head? = some '0' → ds = ['0'])

def FracText (f : List Char) : Prop := f = [] ∨ ∃ ds, f = '.' :: ds ∧ Digits ds

def ExpText (e : List Char) : Prop :=
  e = [] ∨ ∃ mark sign ds, e = mark :: (sign ++ ds) ∧ mark ∈ ['e', 'E'] ∧
    sign ∈ [[], ['+'], ['-']] ∧ Digits ds

def NumberText (n : List Char) : Prop :=
  ∃ sign int frac exp, n = sign ++ int ++ frac ++ exp ∧ sign ∈ [[], ['-']] ∧ IntText int ∧
    FracText frac ∧ ExpText exp

inductive Phrase
  | value
  | object
  | array
  | member
  | members
  | element
  | elements

inductive Derives : Phrase → List Char → Prop
  | literal {x : List Char} (hx : x ∈ ["true".toList, "false".toList, "null".toList]) :
      Derives .value x
  | number {x : List Char} (hx : NumberText x) : Derives .value x
  | string {x : List Char} (hx : StringText x) : Derives .value x
  | ofObject {x : List Char} (hx : Derives .object x) : Derives .value x
  | ofArray {x : List Char} (hx : Derives .array x) : Derives .value x
  | emptyObject {w : List Char} (hw : Ws w) : Derives .object ('{' :: (w ++ ['}']))
  | object {x : List Char} (hx : Derives .members x) : Derives .object ('{' :: (x ++ ['}']))
  | emptyArray {w : List Char} (hw : Ws w) : Derives .array ('[' :: (w ++ [']']))
  | array {x : List Char} (hx : Derives .elements x) : Derives .array ('[' :: (x ++ [']']))
  | element {w x w' : List Char} (hw : Ws w) (hx : Derives .value x) (hw' : Ws w') :
      Derives .element (w ++ x ++ w')
  | oneElement {x : List Char} (hx : Derives .element x) : Derives .elements x
  | moreElements {x y : List Char} (hx : Derives .element x) (hy : Derives .elements y) :
      Derives .elements (x ++ ',' :: y)
  | member {w k w' x : List Char} (hw : Ws w) (hk : StringText k) (hw' : Ws w')
      (hx : Derives .element x) : Derives .member (w ++ k ++ w' ++ ':' :: x)
  | oneMember {x : List Char} (hx : Derives .member x) : Derives .members x
  | moreMembers {x y : List Char} (hx : Derives .member x) (hy : Derives .members y) :
      Derives .members (x ++ ',' :: y)

def Document (x : List Char) : Prop := Derives .object x ∨ Derives .array x

def marks : List Char := ['"', '{', '}', '[', ']']

inductive Nested : List Char → Prop
  | nil : Nested []
  | plain {c : Char} {s : List Char} (hc : c ∉ marks) (hs : Nested s) : Nested (c :: s)
  | string {q s : List Char} (hq : StringText q) (hs : Nested s) : Nested (q ++ s)
  | braces {inner s : List Char} (hinner : Nested inner) (hs : Nested s) :
      Nested ('{' :: (inner ++ '}' :: s))
  | brackets {inner s : List Char} (hinner : Nested inner) (hs : Nested s) :
      Nested ('[' :: (inner ++ ']' :: s))

namespace Nested

lemma append {s t : List Char} (hs : Nested s) (ht : Nested t) : Nested (s ++ t) := by
  induction hs with
  | nil => exact ht
  | plain hc _ ih => exact .plain hc ih
  | string hq _ ih =>
    rw [append_assoc]
    exact .string hq ih
  | braces hinner _ _ ih =>
    rw [cons_append, append_assoc]
    exact .braces hinner ih
  | brackets hinner _ _ ih =>
    rw [cons_append, append_assoc]
    exact .brackets hinner ih

lemma of_plain {s : List Char} (hs : ∀ c ∈ s, c ∉ marks) : Nested s := by
  induction s with
  | nil => exact .nil
  | cons c s ih =>
    obtain ⟨hc, hrest⟩ := forall_mem_cons.mp hs
    exact .plain hc (ih hrest)

lemma of_ws {w : List Char} (hw : Ws w) : Nested w := by
  have hspaces : ∀ c ∈ [' ', '\t', '\n', '\r'], c ∉ marks := by simp [marks]
  exact of_plain fun c hc => hspaces c (hw c hc)

lemma of_string {q : List Char} (hq : StringText q) : Nested q := by
  have h : Nested (q ++ []) := .string hq .nil
  rwa [append_nil] at h

lemma of_digits {ds : List Char} (hds : Digits ds) : Nested ds := by
  refine of_plain fun c hc hmark => ?_
  have hdigit := hds.2 c hc
  have hnone : ∀ c ∈ marks, c.isDigit = false := by simp [marks]
  rw [hnone c hmark] at hdigit
  cases hdigit

lemma of_number {n : List Char} (hn : NumberText n) : Nested n := by
  obtain ⟨sign, int, frac, exp, rfl, hsign, ⟨hint, -⟩, hfrac, hexp⟩ := hn
  have hsigns : ∀ sign ∈ [[], ['+'], ['-']], ∀ c ∈ sign, c ∉ marks := by simp [marks]
  have hmarks : ∀ c ∈ ['e', 'E', '.'], c ∉ marks := by simp [marks]
  have hminus : Nested sign := by
    refine of_plain (hsigns sign ?_)
    simp only [mem_cons, not_mem_nil, or_false] at hsign ⊢
    exact hsign.imp_right .inr
  have hfraction : Nested frac := by
    rcases hfrac with rfl | ⟨ds, rfl, hds⟩
    · exact .nil
    · exact .plain (hmarks '.' (by decide)) (of_digits hds)
  have hexponent : Nested exp := by
    rcases hexp with rfl | ⟨mark, sign, ds, rfl, hmark, hsign, hds⟩
    · exact .nil
    · refine .plain (hmarks mark ?_) ((of_plain (hsigns sign hsign)).append (of_digits hds))
      simp only [mem_cons, not_mem_nil, or_false] at hmark ⊢
      exact hmark.imp_right .inl
  exact ((hminus.append (of_digits hint)).append hfraction).append hexponent

end Nested

lemma Derives.nested {p : Phrase} {x : List Char} (h : Derives p x) : Nested x := by
  have hcomma : ',' ∉ marks := by decide
  have hcolon : ':' ∉ marks := by decide
  induction h with
  | literal hx =>
    have hplain : ∀ x ∈ ["true".toList, "false".toList, "null".toList], ∀ c ∈ x, c ∉ marks := by
      simp [marks]
    exact .of_plain (hplain _ hx)
  | number hx => exact .of_number hx
  | string hx => exact .of_string hx
  | ofObject _ ih => exact ih
  | ofArray _ ih => exact ih
  | emptyObject hw => exact .braces (.of_ws hw) .nil
  | object _ ih => exact .braces ih .nil
  | emptyArray hw => exact .brackets (.of_ws hw) .nil
  | array _ ih => exact .brackets ih .nil
  | element hw _ hw' ih => exact ((Nested.of_ws hw).append ih).append (.of_ws hw')
  | oneElement _ ih => exact ih
  | moreElements _ _ ihx ihy => exact ihx.append (.plain hcomma ihy)
  | member hw hk hw' _ ih =>
    exact (((Nested.of_ws hw).append (.of_string hk)).append (.of_ws hw')).append
      (.plain hcolon ih)
  | oneMember _ ih => exact ih
  | moreMembers _ _ ihx ihy => exact ihx.append (.plain hcomma ihy)

lemma Document.split {x : List Char} (h : Document x) :
    ∃ inner, Nested inner ∧ (x = '{' :: (inner ++ ['}']) ∨ x = '[' :: (inner ++ [']'])) := by
  rcases h with h | h
  · cases h with
    | emptyObject hw => exact ⟨_, .of_ws hw, .inl rfl⟩
    | object hx => exact ⟨_, hx.nested, .inl rfl⟩
  · cases h with
    | emptyArray hw => exact ⟨_, .of_ws hw, .inr rfl⟩
    | array hx => exact ⟨_, hx.nested, .inr rfl⟩

end FfxNexus.JsonText
