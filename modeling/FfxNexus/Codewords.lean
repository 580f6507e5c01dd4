/-
**Trimming by a code.** A list is trimmed by taking codewords off its front as long as it starts
with one, and then off its back.
-/
import Mathlib.Data.List.Infix

namespace FfxNexus.Codewords
open List
variable {α : Type} [DecidableEq α]

def strip (code : List (List α)) : ℕ → List α → List α
  | 0, l => l
  | n + 1, l =>
    match code.find? (·.isPrefixOf l) with
    | some w => strip code n (l.drop w.length)
    | none => l

def stripFront (code : List (List α)) (l : List α) : List α := strip code l.length l

def stripBack (code : List (List α)) (l : List α) : List α :=
  (stripFront (code.map List.reverse) l.reverse).reverse

def trim (code : List (List α)) (l : List α) : List α := stripBack code (stripFront code l)

structure PrefixCode (code : List (List α)) : Prop where
  ne_nil : ∀ w ∈ code, w ≠ []
  prefixFree : ∀ w ∈ code, ∀ w' ∈ code, w <+: w' → w = w'

structure SyncCode (code : List (List α)) : Prop extends PrefixCode code where
  suffixFree : ∀ w ∈ code, ∀ w' ∈ code, w <:+ w' → w = w'
  sync : ∀ w ∈ code, ∀ a ∈ w.tail, ∀ w' ∈ code, w'.head? ≠ some a

def Solid (code : List (List α)) (a : α) : Prop := ∀ w ∈ code, a ∉ w

variable {code : List (List α)} {w l : List α}

lemma starts_cases (code : List (List α)) (l : List α) :
    (∃ w rest, w ∈ code ∧ l = w ++ rest) ∨ ∀ w ∈ code, ¬ w <+: l := by
  by_cases hsome : ∃ w ∈ code, w <+: l
  · obtain ⟨w, hw, rest, hrest⟩ := hsome
    exact .inl ⟨w, rest, hw, hrest.symm⟩
  · exact .inr fun w hw hpre => hsome ⟨w, hw, hpre⟩

lemma find_none (hnone : ∀ w ∈ code, ¬ w <+: l) : code.find? (·.isPrefixOf l) = none := by
  rw [find?_eq_none]
  intro w hw hpre
  exact hnone w hw ( isPrefixOf_iff_prefix.mp hpre)

lemma PrefixCode.find_word (hcode : PrefixCode code) (hw : w ∈ code) (l : List α) :
    code.find? (·.isPrefixOf (w ++ l)) = some w := by
  have hsome : (code.find? (·.isPrefixOf (w ++ l))).isSome = true := by
    rw [find?_isSome]
    exact ⟨w, hw, isPrefixOf_iff_prefix.mpr (prefix_append w l)⟩
  obtain ⟨c, hc⟩ := Option.isSome_iff_exists.mp hsome
  have hmem : c ∈ code := mem_of_find?_eq_some hc
  have hfound := find?_some hc
  have hpre : c <+: w ++ l := isPrefixOf_iff_prefix.mp hfound
  rcases prefix_or_prefix_of_prefix hpre (prefix_append w l) with h | h
  · rw [hc, hcode.prefixFree c hmem w hw h]
  · rw [hc, hcode.prefixFree w hw c hmem h]

omit [DecidableEq α] in
lemma PrefixCode.length_pos (hcode : PrefixCode code) (hw : w ∈ code) : 0 < w.length :=
  length_pos_iff.mpr (hcode.ne_nil w hw)

lemma strip_none (hnone : ∀ w ∈ code, ¬ w <+: l) (n : ℕ) : strip code n l = l := by
  cases n with
  | zero => rfl
  | succ n => rw [strip, find_none hnone]

lemma PrefixCode.strip_word (hcode : PrefixCode code) (hw : w ∈ code) (n : ℕ) (l : List α) :
    strip code (n + 1) (w ++ l) = strip code n l := by
  rw [strip, hcode.find_word hw]
  dsimp only
  rw [drop_left]

lemma PrefixCode.strip_enough (hcode : PrefixCode code) {n m : ℕ} (hn : l.length ≤ n)
    (hm : l.length ≤ m) : strip code n l = strip code m l := by
  induction n generalizing l m with
  | zero =>
    obtain rfl : l = [] := length_eq_zero_iff.mp (by omega)
    rw [strip_none fun w hw hpre => hcode.ne_nil w hw (prefix_nil.mp hpre),
      strip_none fun w hw hpre => hcode.ne_nil w hw (prefix_nil.mp hpre)]
  | succ n ih =>
    rcases starts_cases code l with ⟨w, rest, hw, rfl⟩ | hnone
    · have hpos := hcode.length_pos hw
      rw [length_append] at hn hm
      obtain ⟨m, rfl⟩ : ∃ m', m = m' + 1 := ⟨m - 1, by omega⟩
      rw [hcode.strip_word hw, hcode.strip_word hw]
      exact ih (by omega) (by omega)
    · rw [strip_none hnone, strip_none hnone]

lemma length_strip_le (code : List (List α)) (n : ℕ) (l : List α) :
    (strip code n l).length ≤ l.length := by
  induction n generalizing l with
  | zero => exact le_rfl
  | succ n ih =>
    rw [strip]
    cases code.find? (·.isPrefixOf l) with
    | none => exact le_rfl
    | some w =>
      refine (ih _).trans ?_
      rw [length_drop]
      omega

lemma PrefixCode.stripFront_word (hcode : PrefixCode code) (hw : w ∈ code) (l : List α) :
    stripFront code (w ++ l) = stripFront code l := by
  have hpos := hcode.length_pos hw
  obtain ⟨n, hn⟩ : ∃ n, (w ++ l).length = n + 1 :=
    ⟨(w ++ l).length - 1, by rw [length_append]; omega⟩
  rw [stripFront, hn, hcode.strip_word hw]
  rw [length_append] at hn
  exact hcode.strip_enough (by omega) le_rfl

lemma stripFront_none (hnone : ∀ w ∈ code, ¬ w <+: l) : stripFront code l = l :=
  strip_none hnone l.length

lemma stripFront_solid {a : α} (hne : ∀ w ∈ code, w ≠ []) (ha : Solid code a) (l : List α) :
    stripFront code (a :: l) = a :: l := by
  refine stripFront_none ?_
  intro w hw hpre
  cases w with
  | nil => exact hne [] hw rfl
  | cons b w =>
    obtain ⟨rfl, -⟩ := cons_prefix_cons.mp hpre
    exact ha _ hw mem_cons_self

omit [DecidableEq α] in
lemma SyncCode.reverse (hcode : SyncCode code) : PrefixCode (code.map reverse) := by
  constructor
  · intro w hw
    obtain ⟨v, hv, rfl⟩ := mem_map.mp hw
    simpa using hcode.ne_nil v hv
  · intro w hw w' hw' hpre
    obtain ⟨v, hv, rfl⟩ := mem_map.mp hw
    obtain ⟨v', hv', rfl⟩ := mem_map.mp hw'
    rw [hcode.suffixFree v hv v' hv' ( reverse_prefix.mp hpre)]

lemma SyncCode.stripBack_word (hcode : SyncCode code) (hw : w ∈ code) (l : List α) :
    stripBack code (l ++ w) = stripBack code l := by
  rw [stripBack, stripBack, reverse_append, hcode.reverse.stripFront_word (mem_map_of_mem hw)]

lemma stripBack_none (hnone : ∀ w ∈ code, ¬ w <:+ l) : stripBack code l = l := by
  rw [stripBack, stripFront_none, reverse_reverse]
  intro w hw hpre
  obtain ⟨v, hv, rfl⟩ := mem_map.mp hw
  exact hnone v hv ( reverse_prefix.mp hpre)

lemma ends_cases (code : List (List α)) (l : List α) :
    (∃ w front, w ∈ code ∧ l = front ++ w) ∨ ∀ w ∈ code, ¬ w <:+ l := by
  by_cases hsome : ∃ w ∈ code, w <:+ l
  · obtain ⟨w, hw, front, hfront⟩ := hsome
    exact .inl ⟨w, front, hw, hfront.symm⟩
  · exact .inr fun w hw hsuf => hsome ⟨w, hw, hsuf⟩

@[elab_as_elim] lemma SyncCode.back_induction {P : List α → Prop} (hcode : SyncCode code)
    (hword : ∀ rest w, w ∈ code → P rest → P (rest ++ w))
    (hstop : ∀ l, (∀ w ∈ code, ¬ w <:+ l) → P l) (l : List α) : P l := by
  induction hn : l.length using Nat.strong_induction_on generalizing l with
  | _ n ih =>
    rcases ends_cases code l with ⟨w, rest, hw, rfl⟩ | hnone
    · have hpos := hcode.length_pos hw
      rw [length_append] at hn
      exact hword rest w hw (ih rest.length (by omega) rest rfl)
    · exact hstop l hnone

lemma SyncCode.stripBack_solid {a : α} (hcode : SyncCode code) (ha : Solid code a)
    (front l : List α) : stripBack code (front ++ a :: l) = front ++ a :: stripBack code l := by
  refine hcode.back_induction (fun rest w hw ih => ?_) (fun l hnone => ?_) l
  · have happend : front ++ a :: (rest ++ w) = (front ++ a :: rest) ++ w := by simp
    rw [happend, hcode.stripBack_word hw, hcode.stripBack_word hw]
    exact ih
  · rw [stripBack_none hnone, stripBack_none]
    intro w hw hsuf
    have htail : l <:+ front ++ a :: l := ⟨front ++ [a], by simp⟩
    rcases suffix_or_suffix_of_suffix hsuf htail with h | h
    · exact hnone w hw h
    obtain ⟨x, rfl⟩ := h
    obtain ⟨t, ht⟩ := hsuf
    have happend : (t ++ x) ++ l = (front ++ [a]) ++ l := by simpa using ht
    have hlast : t ++ x = front ++ [a] := append_cancel_right happend
    cases x using reverseRecOn with
    | nil => exact hnone _ hw (suffix_refl _)
    | append_singleton x b =>
      rw [← append_assoc] at hlast
      obtain rfl : b = a := by simpa using (append_inj' hlast rfl).2
      exact ha _ hw (by simp)

lemma SyncCode.trim_append_word (hcode : SyncCode code) (hw : w ∈ code) (l : List α) :
    trim code (l ++ w) = trim code l := by
  unfold trim
  -- on the length of what is before it, whose front is stripped first
  induction hn : l.length using Nat.strong_induction_on generalizing l with
  | _ n ih =>
    rcases starts_cases code l with ⟨c, rest, hc, rfl⟩ | hnone
    · have hpos := hcode.length_pos hc
      rw [length_append] at hn
      rw [append_assoc, hcode.stripFront_word hc, hcode.stripFront_word hc]
      exact ih rest.length (by omega) rest rfl
    · rcases starts_cases code (l ++ w) with ⟨c, rest, hc, heq⟩ | hnone'
      · cases l with
        | nil =>
          rw [nil_append, ← append_nil w, hcode.stripFront_word hw]
        | cons a l =>
          exfalso
          obtain ⟨rest', hcut⟩ : ∃ x, c = a :: l ++ x ∧ x ++ rest = w := by
            rcases append_eq_append_iff.mp heq with ⟨x, hx, hrest⟩ | ⟨x, hx, hrest⟩
            · exact ⟨x, hx, hrest.symm⟩
            · exact absurd ⟨x, hx.symm⟩ (hnone c hc)
          obtain ⟨rfl, hrest⟩ := hcut
          cases rest' with
          | nil => exact hnone _ hc (by simp)
          | cons b x =>
            refine hcode.sync _ hc b (by simp) w hw ?_
            rw [← hrest]
            rfl
      · rw [stripFront_none hnone, stripFront_none hnone', hcode.stripBack_word hw]

lemma SyncCode.trim_stripBack (hcode : SyncCode code) (l : List α) :
    trim code (stripBack code l) = trim code l := by
  refine hcode.back_induction (fun rest w hw ih => ?_) (fun l hnone => ?_) l
  · rw [hcode.stripBack_word hw, hcode.trim_append_word hw]
    exact ih
  · rw [stripBack_none hnone]

lemma SyncCode.trim_solid {a b : α} (hcode : SyncCode code) (ha : Solid code a)
    (hb : Solid code b) (front l : List α) (hfront : (front ++ b :: l).head? = some a) :
    trim code (front ++ b :: l) = front ++ b :: stripBack code l := by
  obtain ⟨rest, hrest⟩ : ∃ rest, front ++ b :: l = a :: rest := by
    cases hcons : front ++ b :: l with
    | nil => simp at hcons
    | cons x rest =>
      rw [hcons] at hfront
      obtain rfl : x = a := by simpa using hfront
      exact ⟨rest, rfl⟩
  rw [trim, hrest, stripFront_solid hcode.ne_nil ha, ← hrest, hcode.stripBack_solid hb]

end FfxNexus.Codewords
