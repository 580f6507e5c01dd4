/-
**Machines driven by a list of commands**, and length-prefixed framing.
-/
import Mathlib.Data.List.Induction
import Mathlib.Data.Nat.Digits.Defs

open List Nat

namespace FfxNexus

structure Machine (σ ι ο : Type) where
  step : σ → ι → σ × ο

namespace Machine
variable {σ σ' ι ο : Type}

def run (M : Machine σ ι ο) (s : σ) (is : List ι) : σ :=
  is.foldl (fun s i => (M.step s i).1) s

def trace (M : Machine σ ι ο) : σ → List ι → List ο
  | _, [] => []
  | s, i :: is => (M.step s i).2 :: trace M (M.step s i).1 is

def traceOf (M : Machine σ ι ο) (p : ι → Bool) : σ → List ι → List ο
  | _, [] => []
  | s, i :: is =>
    if p i then (M.step s i).2 :: traceOf M p (M.step s i).1 is
    else traceOf M p (M.step s i).1 is

variable (s : σ) {M : Machine σ ι ο}

section
variable (M : Machine σ ι ο)

@[simp] lemma run_nil : M.run s [] = s := rfl

@[simp] lemma run_cons (i : ι) (is : List ι) : M.run s (i :: is) = M.run (M.step s i).1 is := rfl

lemma run_append (is js : List ι) : M.run s (is ++ js) = M.run (M.run s is) js := by
  simp only [run, foldl_append]

lemma run_snoc (is : List ι) (i : ι) : M.run s (is ++ [i]) = (M.step (M.run s is) i).1 := by
  simp only [run_append, run_cons, run_nil]

lemma run_invariant {P : σ → Prop} {s : σ} (h0 : P s)
    (hstep : ∀ s i, P s → P (M.step s i).1) (is : List ι) : P (M.run s is) := by
  induction is generalizing s with
  | nil => exact h0
  | cons i is ih => exact ih (hstep s i h0)

lemma exists_origin {P : σ → Prop} {B : σ → ι → Prop} {s : σ} (h0 : ¬ P s)
    (hstep : ∀ s i, P (M.step s i).1 → P s ∨ B s i) {is : List ι} (h : P (M.run s is)) :
    ∃ before i after, is = before ++ i :: after ∧ B (M.run s before) i := by
  induction is using reverseRecOn with
  | nil => exact absurd h h0
  | append_singleton is i ih =>
    rw [run_snoc] at h
    rcases hstep _ _ h with h | h
    · obtain ⟨before, j, after, rfl, hj⟩ := ih h
      exact ⟨before, j, after ++ [i], by simp, hj⟩
    · exact ⟨is, i, [], rfl, h⟩

end

def Along (M : Machine σ ι ο) (ok : σ → ι → Prop) (s : σ) (is : List ι) : Prop :=
  ∀ before i after, is = before ++ i :: after → ok (M.run s before) i

variable {ok : σ → ι → Prop} {s : σ} {i : ι} {is : List ι}

lemma Along.head (h : M.Along ok s (i :: is)) : ok s i :=
  h [] i is rfl

lemma Along.tail (h : M.Along ok s (i :: is)) : M.Along ok (M.step s i).1 is := by
  intro before j after heq
  exact h (i :: before) j after (by rw [heq]; rfl)

lemma along_nil : M.Along ok s [] := by
  intro before i after heq
  simp at heq

lemma along_cons : M.Along ok s (i :: is) ↔ ok s i ∧ M.Along ok (M.step s i).1 is := by
  constructor
  · intro h
    exact ⟨h.head, h.tail⟩
  · rintro ⟨hi, his⟩ before j after heq
    cases before with
    | nil =>
      obtain ⟨rfl, -⟩ := cons.inj heq
      exact hi
    | cons i' before =>
      obtain ⟨rfl, hrest⟩ := cons.inj heq
      exact his before j after hrest

lemma along_append {js : List ι} :
    M.Along ok s (is ++ js) ↔ M.Along ok s is ∧ M.Along ok (M.run s is) js := by
  induction is generalizing s with
  | nil => exact ⟨fun h => ⟨along_nil, h⟩, And.right⟩
  | cons i is ih => rw [cons_append, along_cons, along_cons, ih, run_cons, and_assoc]

variable {P : σ → Prop}

lemma Along.run (hstep : ∀ s i, P s → ok s i → P (M.step s i).1)
    (h : M.Along ok s is) (h0 : P s) : P (M.run s is) := by
  induction is generalizing s with
  | nil => exact h0
  | cons i is ih =>
    exact ih h.tail (hstep s i h0 h.head)

lemma run_iff_along_of {I : σ → Prop} (hkeep : ∀ s i, I s → I (M.step s i).1)
    (hstep : ∀ s i, I s → (P (M.step s i).1 ↔ P s ∧ ok s i)) (hs : I s) (is : List ι) :
    P (M.run s is) ↔ P s ∧ M.Along ok s is := by
  induction is generalizing s with
  | nil => exact ⟨fun h => ⟨h, along_nil⟩, And.left⟩
  | cons i is ih =>
    rw [run_cons, ih (hkeep s i hs), hstep s i hs, and_assoc, ← along_cons]

lemma run_iff_along (hstep : ∀ s i, P (M.step s i).1 ↔ P s ∧ ok s i) (s : σ)
    (is : List ι) : P (M.run s is) ↔ P s ∧ M.Along ok s is :=
  run_iff_along_of (I := fun _ => True) (fun _ _ h => h) (fun s i _ => hstep s i) trivial is

lemma Along.invariant (hstep : ∀ s i, P s → ok s i → P (M.step s i).1)
    (h : M.Along ok s is) (h0 : P s) : M.Along (fun s i => P s ∧ ok s i) s is := by
  intro before i after heq
  refine ⟨?_, h before i after heq⟩
  induction before generalizing s is with
  | nil => exact h0
  | cons j before ih =>
    subst heq
    exact ih h.tail (hstep s j h0 h.head) rfl

variable {N : Machine σ' ι ο} {R : σ → σ' → Prop} {t : σ'}

lemma trace_eq_of_simulation (hstep : ∀ s t i, R s t → ok s i →
      R (M.step s i).1 (N.step t i).1 ∧ (M.step s i).2 = (N.step t i).2) (h0 : R s t)
    (h : M.Along ok s is) : M.trace s is = N.trace t is := by
  induction is generalizing s t with
  | nil => rfl
  | cons i is ih =>
    obtain ⟨hR, hans⟩ := hstep s t i h0 h.head
    simp only [trace, hans, ih hR h.tail]

variable {p : ι → Bool}

section
variable (M : Machine σ ι ο)

lemma traceOf_eq_nil (s : σ) (h : ∀ i ∈ is, p i = false) : M.traceOf p s is = [] := by
  induction is generalizing s with
  | nil => rfl
  | cons i is ih =>
    have hi := h i mem_cons_self
    rw [traceOf, hi]
    exact ih _ fun j hj => h j (mem_cons_of_mem i hj)

lemma trace_append (s : σ) (is js : List ι) :
    M.trace s (is ++ js) = M.trace s is ++ M.trace (M.run s is) js := by
  induction is generalizing s with
  | nil => rfl
  | cons i is ih => rw [cons_append, trace, trace, run_cons, ih, cons_append]

def upTo (is : ℕ → ι) (n : ℕ) : List ι := (List.range n).map is

lemma upTo_add (is : ℕ → ι) (n k : ℕ) :
    upTo is (n + k) = upTo is n ++ upTo (fun i => is (n + i)) k := by
  rw [upTo, range_add, map_append, map_map]
  rfl

lemma trace_upTo_succ (s : σ) (is : ℕ → ι) (n : ℕ) : M.trace s (upTo is (n + 1)) =
      M.trace s (upTo is n) ++ [(M.step (M.run s (upTo is n)) (is n)).2] := by
  rw [upTo_add, trace_append]
  rfl

lemma trace_upTo_prefix (s : σ) (is : ℕ → ι) {m n : ℕ} (h : m ≤ n) :
    M.trace s (upTo is m) <+: M.trace s (upTo is n) := by
  induction n, h using le_induction with
  | base => exact prefix_refl _
  | succ n _ ih =>
    rw [trace_upTo_succ]
    exact ih.trans (prefix_append _ _)

lemma traceOf_append (p : ι → Bool) (s : σ) (is js : List ι) :
    M.traceOf p s (is ++ js) = M.traceOf p s is ++ M.traceOf p (M.run s is) js := by
  induction is generalizing s with
  | nil => rfl
  | cons i is ih =>
    rw [cons_append, traceOf, traceOf, ih]
    split <;> rfl

lemma traceOf_sublist {q : ι → Bool} (s : σ)
    (h : ∀ i ∈ is, p i = true → q i = true) : (M.traceOf p s is).Sublist (M.traceOf q s is) := by
  induction is generalizing s with
  | nil => exact List.Sublist.refl _
  | cons i is ih =>
    have hrest := ih (M.step s i).1 fun j hj => h j (mem_cons_of_mem i hj)
    rw [traceOf, traceOf]
    by_cases hp : p i = true
    · rw [if_pos hp, if_pos (h i mem_cons_self hp)]
      exact hrest.cons_cons _
    rw [if_neg hp]
    split
    · exact hrest.cons _
    · exact hrest

lemma traceOf_eq_trace (s : σ) (h : ∀ i ∈ is, p i = true) : M.traceOf p s is = M.trace s is := by
  induction is generalizing s with
  | nil => rfl
  | cons i is ih =>
    rw [traceOf, trace, if_pos (h i mem_cons_self), ih _ fun j hj => h j (mem_cons_of_mem i hj)]

end

lemma traceOf_congr (p : ι → Bool) (h : M.trace s is = N.trace t is) :
    M.traceOf p s is = N.traceOf p t is := by
  induction is generalizing s t with
  | nil => rfl
  | cons i is ih =>
    rw [trace, trace, cons.injEq] at h
    rw [traceOf, traceOf, h.1, ih h.2]

lemma traceOf_eq_traceOf_filterMap {κ : Type} {M : Machine σ ι ο} {N : Machine σ' κ ο}
    {f : ι → Option κ} (hstep : ∀ s t, ∀ i ∈ is, ∀ j, R s t → f i = some j →
      R (M.step s i).1 (N.step t j).1 ∧ (M.step s i).2 = (N.step t j).2)
    (hskip : ∀ s t, ∀ i ∈ is, R s t → f i = none → R (M.step s i).1 t) (p : κ → Bool) (h0 : R s t) :
    M.traceOf (fun i => (f i).any p) s is = N.traceOf p t (is.filterMap f) := by
  induction is generalizing s t with
  | nil => rfl
  | cons i is ih =>
    have hrest : ∀ {s' t'}, R s' t' →
        M.traceOf (fun i => (f i).any p) s' is = N.traceOf p t' (is.filterMap f) :=
      ih (fun s' t' j hj => hstep s' t' j (mem_cons_of_mem i hj))
        (fun s' t' j hj => hskip s' t' j (mem_cons_of_mem i hj))
    cases hf : f i with
    | some j =>
      obtain ⟨hR, hans⟩ := hstep s t i mem_cons_self j h0 hf
      rw [filterMap_cons_some hf, traceOf, traceOf, hf, Option.any_some, hans, hrest hR]
    | none =>
      have hR := hskip s t i mem_cons_self h0 hf
      rw [filterMap_cons_none hf, traceOf, hf, Option.any_none, if_neg Bool.false_ne_true, hrest hR]

lemma traceOf_eq_trace_filter (hstep : ∀ s t, ∀ i ∈ is, R s t → p i = true →
      R (M.step s i).1 (N.step t i).1 ∧ (M.step s i).2 = (N.step t i).2)
    (hskip : ∀ s t, ∀ i ∈ is, R s t → p i = false → R (M.step s i).1 t) (h0 : R s t) :
    M.traceOf p s is = N.trace t (is.filter p) := by
  have hrule : M.traceOf (fun i => (Option.guard p i).any fun _ => true) s is =
      N.traceOf (fun _ => true) t (is.filterMap (Option.guard p)) := by
    refine traceOf_eq_traceOf_filterMap (R := R) ?_ ?_ _ h0
    · intro s t i hi j hR hf
      rw [Option.guard_eq_some_iff] at hf
      obtain ⟨rfl, hp⟩ := hf
      exact hstep s t i hi hR hp
    · intro s t i hi hR hf
      rw [Option.guard_eq_none_iff] at hf
      exact hskip s t i hi hR hf
  rw [← traceOf_eq_trace N t (p := fun _ => true) fun _ _ => rfl, ← filterMap_eq_filter, ← hrule]
  congr 1
  funext i
  cases hp : p i <;> simp [hp]

end Machine

namespace Framing
variable {α : Type}

def frame (digit : Char → α) (sep : α) (s : List α) : List α :=
  (toDigits 10 s.length).map digit ++ sep :: s

lemma toDigits_injective {m n : ℕ} (h : toDigits 10 m = toDigits 10 n) : m = n := by
  have := congrArg (ofDigitChars 10 · 0) h
  simpa only [ofDigitChars_ten_toDigits] using this

lemma append_sep_inj {sep : α} : ∀ {u v s t : List α}, sep ∉ u → sep ∉ v →
    u ++ sep :: s = v ++ sep :: t → u = v ∧ s = t
  | [], [], _, _, _, _, h => ⟨rfl, by simpa using h⟩
  | [], b :: v, _, _, _, hv, h => by
      simp only [nil_append, cons_append, cons.injEq] at h
      exact absurd (h.1 ▸ mem_cons_self) hv
  | a :: u, [], _, _, hu, _, h => by
      simp only [nil_append, cons_append, cons.injEq] at h
      exact absurd (h.1 ▸ mem_cons_self) hu
  | a :: u, b :: v, s, t, hu, hv, h => by
      simp only [cons_append, cons.injEq] at h
      obtain ⟨huv, hst⟩ := append_sep_inj (fun h' => hu (mem_cons_of_mem _ h'))
        (fun h' => hv (mem_cons_of_mem _ h')) h.2
      exact ⟨by rw [h.1, huv], hst⟩

lemma eq_of_map_eq {β : Type} {f : α → β} : ∀ {u v : List α},
    (∀ a ∈ u, ∀ b ∈ v, f a = f b → a = b) → u.map f = v.map f → u = v
  | [], [], _, _ => rfl
  | [], _ :: _, _, h => by simp at h
  | _ :: _, [], _, h => by simp at h
  | a :: u, b :: v, hf, h => by
      simp only [map_cons, cons.injEq] at h
      rw [hf a mem_cons_self b mem_cons_self h.1, eq_of_map_eq (fun c hc d hd =>
          hf c (mem_cons_of_mem _ hc) d (mem_cons_of_mem _ hd)) h.2]

lemma frame_append_inj {digit : Char → α} {sep : α}
    (hdigit : ∀ c d : Char, c.isDigit → d.isDigit → digit c = digit d → c = d)
    (hsep : ∀ c : Char, c.isDigit → digit c ≠ sep) {s s' t t' : List α}
    (h : frame digit sep s ++ t = frame digit sep s' ++ t') : s = s' ∧ t = t' := by
  have isDigit : ∀ (n : ℕ) (c : Char), c ∈ toDigits 10 n → c.isDigit := fun _ _ hc =>
    isDigit_of_mem_toDigits (by decide) (by decide) hc
  have nosep : ∀ n : ℕ, sep ∉ (toDigits 10 n).map digit := by
    intro n hmem
    obtain ⟨c, hc, hcs⟩ := mem_map.mp hmem
    exact hsep c (isDigit n c hc) hcs
  simp only [frame, append_assoc] at h
  obtain ⟨hlen, hrest⟩ := append_sep_inj (nosep _) (nosep _) h
  have hlen : s.length = s'.length := by
    apply toDigits_injective
    exact eq_of_map_eq (fun c hc d hd => hdigit c d (isDigit _ c hc) (isDigit _ d hd)) hlen
  exact append_inj hrest hlen

end Framing

end FfxNexus
