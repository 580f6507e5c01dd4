/-
**Regular expressions**, matched as RE2 does: at the leftmost position, and there by preference.
-/
import Mathlib.Data.List.Induction

open List

namespace FfxNexus

inductive Regexp
  | eps
  | char (p : Char → Bool)
  | boundary
  | seq (a b : Regexp)
  | alt (a b : Regexp)
  | star (a : Regexp)

namespace Regexp

def lit (c : Char) : Regexp := .char (· = c)

def plus (a : Regexp) : Regexp := .seq a (.star a)

def times : ℕ → Regexp → Regexp
  | 0, _ => .eps
  | n + 1, a => .seq a (times n a)

def upTo : ℕ → Regexp → Regexp
  | 0, _ => .eps
  | n + 1, a => .alt (.seq a (upTo n a)) .eps

def isWord (c : Char) : Bool := c.isAlphanum || c = '_'

def edge (before : Bool) (x : List Char) : Bool := x.getLast?.elim before isWord

def startsInWord (x : List Char) : Bool := x.head?.any isWord

inductive Matches : Regexp → Bool → List Char → List Char → Prop
  | eps {before : Bool} {post : List Char} : Matches .eps before [] post
  | char {p : Char → Bool} {c : Char} {before : Bool} {post : List Char} (h : p c = true) :
      Matches (.char p) before [c] post
  | boundary {before : Bool} {post : List Char} (h : before ≠ startsInWord post) :
      Matches .boundary before [] post
  | seq {a b : Regexp} {before : Bool} {x y post : List Char} (ha : Matches a before x (y ++ post))
      (hb : Matches b (edge before x) y post) : Matches (.seq a b) before (x ++ y) post
  | left {a b : Regexp} {before : Bool} {x post : List Char} (h : Matches a before x post) :
      Matches (.alt a b) before x post
  | right {a b : Regexp} {before : Bool} {x post : List Char} (h : Matches b before x post) :
      Matches (.alt a b) before x post
  | done {a : Regexp} {before : Bool} {post : List Char} : Matches (.star a) before [] post
  | more {a : Regexp} {before : Bool} {x y post : List Char} (hx : x ≠ [])
      (ha : Matches a before x (y ++ post)) (hrest : Matches (.star a) (edge before x) y post) :
      Matches (.star a) before (x ++ y) post

def Found (r : Regexp) (s : List Char) : Prop :=
  ∃ a x b, s = a ++ x ++ b ∧ Matches r (edge false a) x b

def iterate (f : Bool → List Char → List (List Char × List Char)) :
    ℕ → Bool → List Char → List (List Char × List Char)
  | 0, _, rest => [([], rest)]
  | n + 1, before, rest =>
    ((f before rest).filter (·.1 ≠ [])).flatMap (fun m =>
      (iterate f n (edge before m.1) m.2).map fun m' => (m.1 ++ m'.1, m'.2)) ++ [([], rest)]

def spans : Regexp → Bool → List Char → List (List Char × List Char)
  | .eps, _, rest => [([], rest)]
  | .char _, _, [] => []
  | .char p, _, c :: rest => if p c then [([c], rest)] else []
  | .boundary, before, rest => if before ≠ startsInWord rest then [([], rest)] else []
  | .seq a b, before, rest => (spans a before rest).flatMap fun m =>
    (spans b (edge before m.1) m.2).map fun m' => (m.1 ++ m'.1, m'.2)
  | .alt a b, before, rest => spans a before rest ++ spans b before rest
  | .star a, before, rest => iterate (spans a) rest.length before rest

def find (r : Regexp) : Bool → List Char → Option (List Char × List Char × List Char)
  | before, [] => (spans r before []).head?.map fun m => ([], m)
  | before, c :: rest =>
    match (spans r before (c :: rest)).head? with
    | some m => some ([], m)
    | none => (find r (isWord c) rest).map fun m => (c :: m.1, m.2)

def matchString (r : Regexp) (s : List Char) : Bool := (find r false s).isSome

def piecesFrom (r : Regexp) : ℕ → Bool → List Char → List (List Char)
  | 0, _, rest => [rest]
  | n + 1, before, rest =>
    match find r before rest with
    | none => [rest]
    | some m => m.1 :: piecesFrom r n (edge (edge before m.1) m.2.1) m.2.2

def pieces (r : Regexp) (s : List Char) : List (List Char) := piecesFrom r (s.length + 1) false s

def replaceAll (r : Regexp) (s repl : List Char) : List Char := repl.intercalate (pieces r s)

variable {n : ℕ} {before : Bool} {rest : List Char}

lemma mem_iterate {a : Regexp} {f : Bool → List Char → List (List Char × List Char)}
    (hf : ∀ before rest m, m ∈ f before rest ↔ rest = m.1 ++ m.2 ∧ Matches a before m.1 m.2)
    {m : List Char × List Char} (hn : rest.length ≤ n) :
    m ∈ iterate f n before rest ↔ rest = m.1 ++ m.2 ∧ Matches (.star a) before m.1 m.2 := by
  induction n generalizing before rest m with
  | zero =>
    have hrest : rest = [] := length_eq_zero_iff.mp (Nat.le_zero.mp hn)
    subst hrest
    simp only [iterate, mem_singleton]
    constructor
    · rintro rfl
      exact ⟨rfl, .done⟩
    · rintro ⟨heq, -⟩
      obtain ⟨h1, h2⟩ := append_eq_nil_iff.mp heq.symm
      exact Prod.ext h1 h2
  | succ n ih =>
    simp only [iterate, mem_append, mem_flatMap, mem_filter, mem_map, mem_singleton]
    constructor
    · rintro (⟨m1, ⟨hm1, hne⟩, m2, hm2, rfl⟩ | rfl)
      · obtain ⟨rfl, ha⟩ := (hf _ _ _).mp hm1
        have hne' : m1.1 ≠ [] := by simpa using hne
        have hlen : m1.2.length ≤ n := by
          have hpos := length_pos_iff.mpr hne'
          rw [length_append] at hn
          omega
        obtain ⟨hsplit, hrest⟩ := (ih hlen).mp hm2
        refine ⟨by rw [append_assoc, ← hsplit], .more hne' ?_ hrest⟩
        rw [← hsplit]
        exact ha
      · exact ⟨rfl, .done⟩
    · rintro ⟨rfl, hstar⟩
      obtain ⟨mid, post⟩ := m
      cases hstar with
      | done => exact Or.inr rfl
      | @more _ _ x y _ hx ha hrest =>
        left
        have hlen : (y ++ post).length ≤ n := by
          have hpos := length_pos_iff.mpr hx
          change (x ++ y ++ post).length ≤ n + 1 at hn
          simp only [length_append] at hn ⊢
          omega
        refine ⟨(x, y ++ post), ⟨(hf _ _ _).mpr ⟨by simp, ha⟩, by simpa using hx⟩,
          (y, post), (ih hlen).mpr ⟨rfl, hrest⟩, rfl⟩

variable {r : Regexp}

lemma mem_spans {m : List Char × List Char} :
    m ∈ spans r before rest ↔ rest = m.1 ++ m.2 ∧ Matches r before m.1 m.2 := by
  induction r generalizing before rest m with
  | eps =>
    simp only [spans, mem_singleton]
    constructor
    · rintro rfl
      exact ⟨rfl, .eps⟩
    · rintro ⟨rfl, h⟩
      obtain ⟨mid, post⟩ := m
      cases h
      rfl
  | char p =>
    obtain ⟨mid, post⟩ := m
    constructor
    · intro h
      cases rest with
      | nil => cases h
      | cons c rest =>
        simp only [spans] at h
        split_ifs at h with hp
        · obtain ⟨rfl, rfl⟩ := Prod.mk.inj (mem_singleton.mp h)
          exact ⟨rfl, .char hp⟩
        · cases h
    · rintro ⟨rfl, h⟩
      cases h with
      | char hp => simp [spans, hp]
  | boundary =>
    obtain ⟨mid, post⟩ := m
    constructor
    · intro h
      simp only [spans] at h
      split_ifs at h with hb
      · obtain ⟨rfl, rfl⟩ := Prod.mk.inj (mem_singleton.mp h)
        exact ⟨rfl, .boundary hb⟩
      · cases h
    · rintro ⟨rfl, h⟩
      cases h with
      | boundary hb => simp [spans, hb]
  | seq a b iha ihb =>
    simp only [spans, mem_flatMap, mem_map]
    constructor
    · rintro ⟨m1, hm1, m2, hm2, rfl⟩
      obtain ⟨rfl, ha⟩ := iha.mp hm1
      obtain ⟨hsplit, hb⟩ := ihb.mp hm2
      refine ⟨by rw [append_assoc, ← hsplit], .seq ?_ hb⟩
      rw [← hsplit]
      exact ha
    · rintro ⟨rfl, h⟩
      obtain ⟨mid, post⟩ := m
      cases h with
      | @seq _ _ _ x y _ ha hb =>
        exact ⟨(x, y ++ post), iha.mpr ⟨by simp, ha⟩, (y, post), ihb.mpr ⟨rfl, hb⟩, rfl⟩
  | alt a b iha ihb =>
    simp only [spans, mem_append, iha, ihb]
    constructor
    · rintro (⟨rfl, h⟩ | ⟨rfl, h⟩)
      · exact ⟨rfl, .left h⟩
      · exact ⟨rfl, .right h⟩
    · rintro ⟨rfl, h⟩
      obtain ⟨mid, post⟩ := m
      cases h with
      | left h => exact Or.inl ⟨rfl, h⟩
      | right h => exact Or.inr ⟨rfl, h⟩
  | star a iha =>
    exact mem_iterate (fun _ _ _ => iha) (Nat.le_refl _)

lemma edge_append (before : Bool) (x y : List Char) :
    edge before (x ++ y) = edge (edge before x) y := by
  unfold edge
  cases y using reverseRecOn with
  | nil => simp
  | append_singleton y c => simp [← append_assoc]

def FoundFrom (r : Regexp) (before : Bool) (s : List Char) : Prop :=
  ∃ a x b, s = a ++ x ++ b ∧ Matches r (edge before a) x b

variable {x : List Char}

lemma spans_eq_nil {b : List Char} (h : spans r before (x ++ b) = []) : ¬ Matches r before x b := by
  intro hm
  have hmem : (x, b) ∈ spans r before (x ++ b) := mem_spans.mpr ⟨rfl, hm⟩
  rw [h] at hmem
  cases hmem

variable {s : List Char}

lemma find_eq_none_iff : find r before s = none ↔ ¬ FoundFrom r before s := by
  induction s generalizing before with
  | nil =>
    unfold find
    rw [Option.map_eq_none_iff, head?_eq_none_iff]
    constructor
    · rintro h ⟨a, x, b, heq, hm⟩
      obtain ⟨hax, rfl⟩ := append_eq_nil_iff.mp heq.symm
      obtain ⟨rfl, rfl⟩ := append_eq_nil_iff.mp hax
      exact spans_eq_nil h hm
    · intro h
      rw [eq_nil_iff_forall_not_mem]
      intro m hm
      obtain ⟨heq, hmatch⟩ := mem_spans.mp hm
      exact h ⟨[], m.1, m.2, heq, hmatch⟩
  | cons c s ih =>
    unfold find
    constructor
    · intro h
      cases hspans : spans r before (c :: s) with
      | cons m ms =>
        rw [hspans] at h
        cases h
      | nil =>
        rw [hspans] at h
        simp only [head?_nil, Option.map_eq_none_iff] at h
        rintro ⟨a, x, b, heq, hm⟩
        cases a with
        | nil =>
          exact spans_eq_nil (heq ▸ hspans) hm
        | cons c' a =>
          obtain ⟨rfl, rfl⟩ := cons.inj heq
          have hedge : edge before (c :: a) = edge (isWord c) a := by
            rw [← singleton_append, edge_append]
            rfl
          rw [hedge] at hm
          exact ih.mp h ⟨a, x, b, rfl, hm⟩
    · intro h
      have hnil : spans r before (c :: s) = [] := by
        rw [eq_nil_iff_forall_not_mem]
        intro m hm
        obtain ⟨heq, hmatch⟩ := mem_spans.mp hm
        exact h ⟨[], m.1, m.2, heq, hmatch⟩
      rw [hnil]
      simp only [head?_nil, Option.map_eq_none_iff]
      refine ih.mpr ?_
      rintro ⟨a, x, b, rfl, hm⟩
      refine h ⟨c :: a, x, b, rfl, ?_⟩
      rw [← singleton_append, edge_append]
      exact hm

lemma matchString_iff : matchString r s = true ↔ Found r s := by
  unfold matchString
  rw [Option.isSome_iff_ne_none, ne_eq, find_eq_none_iff, not_not]
  rfl

instance (r : Regexp) (s : List Char) : Decidable (Found r s) :=
  decidable_of_iff _ matchString_iff

lemma find_eq_some {m : List Char × List Char × List Char} (h : find r before s = some m) :
    s = m.1 ++ m.2.1 ++ m.2.2 ∧ Matches r (edge before m.1) m.2.1 m.2.2 ∧
      ∀ a b, m.1 = a ++ b → b ≠ [] → ∀ x y, b ++ m.2.1 ++ m.2.2 = x ++ y →
        ¬ Matches r (edge before a) x y := by
  induction s generalizing before m with
  | nil =>
    obtain ⟨m', hm', rfl⟩ := Option.map_eq_some_iff.mp h
    obtain ⟨heq, hmatch⟩ := mem_spans.mp (mem_of_head? hm')
    refine ⟨heq, hmatch, fun a b hab hb => ?_⟩
    exact absurd (append_eq_nil_iff.mp hab.symm).2 hb
  | cons c s ih =>
    unfold find at h
    cases hspans : spans r before (c :: s) with
    | cons m' ms =>
      rw [hspans] at h
      obtain rfl := Option.some.inj h
      have hmem : m' ∈ spans r before (c :: s) := by
        rw [hspans]
        exact mem_cons_self
      obtain ⟨heq, hmatch⟩ := mem_spans.mp hmem
      refine ⟨heq, hmatch, fun a b hab hb => ?_⟩
      exact absurd (append_eq_nil_iff.mp hab.symm).2 hb
    | nil =>
      rw [hspans] at h
      obtain ⟨m', hm', rfl⟩ := Option.map_eq_some_iff.mp h
      obtain ⟨heq, hmatch, hfirst⟩ := ih hm'
      have hedge : ∀ a, edge before (c :: a) = edge (isWord c) a := by
        intro a
        rw [← singleton_append, edge_append]
        rfl
      refine ⟨by rw [heq]; rfl, by rw [hedge]; exact hmatch, fun a b hab hb x y hxy => ?_⟩
      cases a with
      | nil =>
        subst hab
        apply spans_eq_nil
        rw [← hxy, ← hspans, heq]
        rfl
      | cons c' a =>
        obtain ⟨rfl, hrest⟩ := cons.inj hab
        rw [hedge]
        exact hfirst a b hrest hb x y hxy

def alphabet : Regexp → Char → Bool
  | .eps, _ => false
  | .char p, c => p c
  | .boundary, _ => false
  | .seq a b, c => a.alphabet c || b.alphabet c
  | .alt a b, c => a.alphabet c || b.alphabet c
  | .star a, c => a.alphabet c

variable {post : List Char}

section
variable (h : Matches r before x post)
include h

lemma Matches.alphabet {c : Char} (hc : c ∈ x) : r.alphabet c = true := by
  induction h with
  | eps => cases hc
  | char hp =>
    rw [mem_singleton.mp hc]
    exact hp
  | boundary _ => cases hc
  | seq _ _ iha ihb =>
    rcases mem_append.mp hc with hc | hc
    · simp [Regexp.alphabet, iha hc]
    · simp [Regexp.alphabet, ihb hc]
  | left _ ih => simp [Regexp.alphabet, ih hc]
  | right _ ih => simp [Regexp.alphabet, ih hc]
  | done => cases hc
  | more _ _ _ iha ihrest =>
    rcases mem_append.mp hc with hc | hc
    · exact iha hc
    · exact ihrest hc

def nullable : Regexp → Bool
  | .eps => true
  | .char _ => false
  | .boundary => true
  | .seq a b => a.nullable && b.nullable
  | .alt a b => a.nullable || b.nullable
  | .star _ => true

lemma Matches.ne_nil (hr : r.nullable = false) : x ≠ [] := by
  induction h with
  | eps => cases hr
  | char _ => simp
  | boundary _ => cases hr
  | seq _ _ iha ihb =>
    simp only [nullable, Bool.and_eq_false_iff] at hr
    rcases hr with hr | hr
    · simp [iha hr]
    · simp [ihb hr]
  | left _ ih =>
    simp only [nullable, Bool.or_eq_false_iff] at hr
    exact ih hr.1
  | right _ ih =>
    simp only [nullable, Bool.or_eq_false_iff] at hr
    exact ih hr.2
  | done => cases hr
  | more hx _ _ _ _ => simp [hx]

lemma Matches.congr {post' : List Char}
    (hpost : startsInWord post' = startsInWord post) : Matches r before x post' := by
  have happend : ∀ {post post' : List Char} (y : List Char),
      startsInWord post' = startsInWord post →
      startsInWord (y ++ post') = startsInWord (y ++ post) := by
    intro post post' y hpost
    cases y with
    | nil => exact hpost
    | cons c y => rfl
  induction h generalizing post' with
  | eps => exact .eps
  | char hp => exact .char hp
  | boundary hb => exact .boundary (hpost ▸ hb)
  | seq _ _ iha ihb => exact .seq (iha (happend _ hpost)) (ihb hpost)
  | left _ ih => exact .left (ih hpost)
  | right _ ih => exact .right (ih hpost)
  | done => exact .done
  | more hx _ _ iha ihrest => exact .more hx (iha (happend _ hpost)) (ihrest hpost)

end

lemma found_cut {c : Char} (hc : r.alphabet c = false) (hword : isWord c = false)
    (u v : List Char) : Found r (u ++ c :: v) ↔ Found r u ∨ Found r v := by
  have hstarts : ∀ b : List Char, startsInWord (b ++ c :: v) = startsInWord b := by
    intro b
    cases b with
    | nil => simp [startsInWord, hword]
    | cons c' b => rfl
  have hedge : ∀ a : List Char, edge false (u ++ c :: a) = edge false a := by
    intro a
    have hcut : edge (edge false u) [c] = false := hword
    rw [← singleton_append, edge_append, edge_append, hcut]
  constructor
  · rintro ⟨a, x, b, heq, hm⟩
    have hout : c ∉ x := by
      intro hx
      have halpha := hm.alphabet hx
      rw [hc] at halpha
      cases halpha
    have hbefore : ∀ a x b' : List Char, Matches r (edge false a) x (b' ++ c :: v) →
        Found r (a ++ x ++ b') :=
      fun a x b' hm => ⟨a, x, b', rfl, hm.congr (hstarts b').symm⟩
    rw [append_assoc] at heq
    rcases append_eq_append_iff.mp heq with ⟨a', rfl, hrest⟩ | ⟨u', rfl, hrest⟩
    · cases a' with
      | nil =>
        cases x with
        | nil =>
          obtain rfl : c :: v = b := hrest
          left
          simpa using hbefore u [] [] (by simpa using hm)
        | cons c' x =>
          obtain ⟨rfl, -⟩ := cons.inj hrest
          exact absurd mem_cons_self hout
      | cons c' a' =>
        obtain ⟨rfl, rfl⟩ := cons.inj hrest
        rw [hedge] at hm
        exact Or.inr ⟨a', x, b, by simp, hm⟩
    · left
      rcases append_eq_append_iff.mp hrest with ⟨b', rfl, rfl⟩ | ⟨x', rfl, hrest'⟩
      · simpa using hbefore a x b' hm
      cases x' with
      | nil =>
        obtain rfl : c :: v = b := hrest'
        simpa using hbefore a u' [] (by simpa using hm)
      | cons c' x' =>
        obtain ⟨rfl, -⟩ := cons.inj hrest'
        exact absurd (mem_append_right _ mem_cons_self) hout
  · rintro (⟨a, x, b, rfl, hm⟩ | ⟨a, x, b, rfl, hm⟩)
    · refine ⟨a, x, b ++ c :: v, by simp, hm.congr (hstarts b)⟩
    · refine ⟨u ++ c :: a, x, b, by simp, ?_⟩
      rw [hedge]
      exact hm

structure Separates (r : Regexp) (repl : List Char) : Prop where
  split : ∃ l inner e, repl = l :: (inner ++ [e]) ∧ r.alphabet l = false ∧ isWord l = false ∧
    r.alphabet e = false ∧ isWord e = false ∧ ¬ Found r inner

variable {repl : List Char}

lemma Separates.found_append (h : Separates r repl) (u v : List Char) :
    Found r (u ++ repl ++ v) ↔ Found r u ∨ Found r v := by
  obtain ⟨l, inner, e, rfl, hl, hlword, he, heword, hinner⟩ := h.split
  have heq : u ++ l :: (inner ++ [e]) ++ v = u ++ l :: (inner ++ e :: v) := by simp
  rw [heq, found_cut hl hlword, found_cut he heword]
  simp [hinner]

lemma Separates.found_intercalate (h : Separates r repl) (p : List Char) (ps : List (List Char)) :
    Found r (repl.intercalate (p :: ps)) ↔ ∃ q ∈ p :: ps, Found r q := by
  induction ps generalizing p with
  | nil => simp [intercalate]
  | cons p' ps ih =>
    have hcons : repl.intercalate (p :: p' :: ps) =
        p ++ repl ++ repl.intercalate (p' :: ps) := by
      simp [intercalate]
    rw [hcons, h.found_append, ih]
    simp

lemma piecesFrom_ne_nil (r : Regexp) (n : ℕ) (before : Bool) (s : List Char) :
    piecesFrom r n before s ≠ [] := by
  cases n with
  | zero => simp [piecesFrom]
  | succ n =>
    unfold piecesFrom
    cases find r before s with
    | none => simp
    | some m => simp

variable {q : Regexp}

lemma found_replaceAll (h : Separates q repl) (s : List Char) :
    Found q (replaceAll r s repl) ↔ ∃ p ∈ pieces r s, Found q p := by
  unfold replaceAll pieces
  obtain ⟨p, ps, hps⟩ :=
    exists_cons_of_ne_nil (piecesFrom_ne_nil r (s.length + 1) false s)
  rw [hps]
  exact h.found_intercalate p ps

def contextFree : Regexp → Bool
  | .eps => true
  | .char _ => true
  | .boundary => false
  | .seq a b => a.contextFree && b.contextFree
  | .alt a b => a.contextFree && b.contextFree
  | .star a => a.contextFree

lemma Matches.relocate {before' : Bool} {post' : List Char} (h : Matches r before x post)
    (hr : r.contextFree = true) : Matches r before' x post' := by
  induction h generalizing before' post' with
  | eps => exact .eps
  | char hp => exact .char hp
  | boundary _ => cases hr
  | seq _ _ iha ihb =>
    rw [contextFree, Bool.and_eq_true] at hr
    exact .seq (iha hr.1) (ihb hr.2)
  | left _ ih =>
    rw [contextFree, Bool.and_eq_true] at hr
    exact .left (ih hr.1)
  | right _ ih =>
    rw [contextFree, Bool.and_eq_true] at hr
    exact .right (ih hr.2)
  | done => exact .done
  | more hx _ _ iha ihrest => exact .more hx (iha hr) (ihrest hr)

variable {p : List Char}

lemma not_found_of_mem_piecesFrom (hnull : r.nullable = false) (hfree : r.contextFree = true)
    (hn : s.length < n) (hp : p ∈ piecesFrom r n before s) : ¬ Found r p := by
  induction n generalizing before s with
  | zero => exact absurd hn (Nat.not_lt_zero _)
  | succ n ih =>
    unfold piecesFrom at hp
    cases hfind : find r before s with
    | none =>
      rw [hfind] at hp
      obtain rfl := mem_singleton.mp hp
      rintro ⟨a, x, b, heq, hm⟩
      exact find_eq_none_iff.mp hfind ⟨a, x, b, heq, hm.relocate hfree⟩
    | some m =>
      rw [hfind] at hp
      obtain ⟨heq, hmatch, hfirst⟩ := find_eq_some hfind
      rcases mem_cons.mp hp with rfl | hp
      · -- a match in what was skipped would have been found first
        rintro ⟨a, x, b, hskip, hm⟩
        have hx := hm.ne_nil hnull
        rw [append_assoc] at hskip
        refine hfirst a (x ++ b) hskip (by simp [hx]) x (b ++ m.2.1 ++ m.2.2) (by simp) ?_
        exact hm.relocate hfree
      · have hpos := length_pos_iff.mpr (hmatch.ne_nil hnull)
        have hlen := congrArg length heq
        simp only [length_append] at hlen
        exact ih (by omega) hp

lemma not_found_of_mem_pieces (hnull : r.nullable = false) (hfree : r.contextFree = true)
    (hp : p ∈ pieces r s) : ¬ Found r p :=
  not_found_of_mem_piecesFrom hnull hfree (Nat.lt_succ_self _) hp

def Framed (q : Regexp) : Prop :=
  ∀ ⦃before before' : Bool⦄ ⦃x post post' : List Char⦄, Matches q before x post →
    (before' = before ∨ before' ≠ startsInWord (x ++ post')) →
    (startsInWord post' = startsInWord post ∨ edge before' x ≠ startsInWord post') →
    Matches q before' x post'

def Walled (r : Regexp) : Prop :=
  ∀ ⦃before : Bool⦄ ⦃x post : List Char⦄, Matches r before x post →
    before ≠ startsInWord (x ++ post) ∧ edge before x ≠ startsInWord post

lemma framed_of_contextFree (hq : q.contextFree = true) : Framed q :=
  fun _ _ _ _ _ hm _ _ => hm.relocate hq

lemma matches_bounded {m : Regexp} : Matches (.seq .boundary (.seq m .boundary)) before x post ↔
      before ≠ startsInWord (x ++ post) ∧ Matches m before x post ∧
        edge before x ≠ startsInWord post := by
  constructor
  · intro h
    cases h with
    | seq hstart hrest =>
      cases hstart with
      | boundary hbefore =>
        cases hrest with
        | seq hm hend =>
          cases hend with
          | boundary hafter =>
            rw [append_nil] at hbefore ⊢
            exact ⟨hbefore, hm, hafter⟩
  · rintro ⟨hbefore, hm, hafter⟩
    have hend : Matches (.seq m .boundary) before (x ++ []) post := .seq hm (.boundary hafter)
    rw [append_nil] at hend
    exact .seq (x := []) (.boundary hbefore) hend

lemma walled_bounded (m : Regexp) : Walled (.seq .boundary (.seq m .boundary)) := by
  intro before x post h
  obtain ⟨hbefore, -, hafter⟩ := matches_bounded.mp h
  exact ⟨hbefore, hafter⟩

lemma startsInWord_append (hx : x ≠ []) (post post' : List Char) :
    startsInWord (x ++ post) = startsInWord (x ++ post') := by
  obtain ⟨c, x, rfl⟩ := exists_cons_of_ne_nil hx
  rfl

lemma edge_of_ne_nil (hx : x ≠ []) (before before' : Bool) : edge before x = edge before' x := by
  unfold edge
  rw [getLast?_eq_some_getLast hx]
  rfl

lemma framed_bounded {m : Regexp} (hfree : m.contextFree = true) (hnull : m.nullable = false) :
    Framed (.seq .boundary (.seq m .boundary)) := by
  intro before before' x post post' h hstart hend
  obtain ⟨hbefore, hm, hafter⟩ := matches_bounded.mp h
  have hx := hm.ne_nil hnull
  refine matches_bounded.mpr ⟨?_, hm.relocate hfree, ?_⟩
  · rcases hstart with rfl | hstart
    · rw [startsInWord_append hx post' post]
      exact hbefore
    · exact hstart
  · rcases hend with hpost | hend
    · rw [hpost, edge_of_ne_nil hx before' before]
      exact hafter
    · exact hend

lemma Framed.extend (hq : Framed q) {a b : List Char}
    (hstart : before = false ∨ before ≠ startsInWord (a ++ x ++ b ++ rest))
    (hend : rest = [] ∨ edge before (a ++ x ++ b) ≠ startsInWord rest)
    (hm : Matches q (edge false a) x b) : Matches q (edge before a) x (b ++ rest) := by
  apply hq hm
  · by_cases ha : a = []
    · subst ha
      rcases hstart with rfl | hstart
      · exact .inl rfl
      · right
        simpa [edge] using hstart
    · exact .inl (edge_of_ne_nil ha before false)
  · by_cases hb : b = []
    · subst hb
      rcases hend with rfl | hend
      · exact .inl rfl
      · right
        rw [append_nil, edge_append] at hend
        simpa using hend
    · left
      rw [startsInWord_append hb rest [], append_nil]

lemma foundFrom_of_mem_piecesFrom (hq : Framed q) (hr : Walled r)
    (hstart : before = false ∨ before ≠ startsInWord s) (hp : p ∈ piecesFrom r n before s)
    (hfound : Found q p) : FoundFrom q before s := by
  obtain ⟨a, x, b, rfl, hm⟩ := hfound
  have hwhole : ∀ {before : Bool}, before = false ∨ before ≠ startsInWord (a ++ x ++ b) →
      FoundFrom q before (a ++ x ++ b) := by
    intro before hstart
    refine ⟨a, x, b, rfl, ?_⟩
    have hext : Matches q (edge before a) x (b ++ []) :=
      hq.extend (by simpa using hstart) (.inl rfl) hm
    rwa [append_nil] at hext
  induction n generalizing before s with
  | zero =>
    obtain rfl := mem_singleton.mp hp
    exact hwhole hstart
  | succ n ih =>
    unfold piecesFrom at hp
    cases hfind : find r before s with
    | none =>
      rw [hfind] at hp
      obtain rfl := mem_singleton.mp hp
      exact hwhole hstart
    | some m =>
      rw [hfind] at hp
      obtain ⟨hsplit, hmatch, -⟩ := find_eq_some hfind
      obtain ⟨hfront, hback⟩ := hr hmatch
      rcases mem_cons.mp hp with hfirst | hrest
      · rw [← hfirst, append_assoc] at hsplit
        rw [← hfirst] at hfront
        subst hsplit
        exact ⟨a, x, b ++ (m.2.1 ++ m.2.2), by simp, hq.extend hstart (.inr hfront) hm⟩
      · obtain ⟨a', x', b', hsplit', hm'⟩ := ih (.inr hback) hrest
        refine ⟨m.1 ++ m.2.1 ++ a', x', b', ?_, ?_⟩
        · rw [hsplit, hsplit']
          simp
        · rw [edge_append, edge_append]
          exact hm'

lemma found_of_mem_pieces (hq : Framed q) (hr : Walled r) (hp : p ∈ pieces r s)
    (hfound : Found q p) : Found q s :=
  foundFrom_of_mem_piecesFrom hq hr (.inl rfl) hp hfound

lemma not_found_of_mem_piecesFrom_walled (hnull : r.nullable = false) (hframed : Framed r)
    (hwalled : Walled r) (hstart : before = false ∨ before ≠ startsInWord s) (hn : s.length < n)
    (hp : p ∈ piecesFrom r n before s) : ¬ Found r p := by
  induction n generalizing before s with
  | zero => exact absurd hn (Nat.not_lt_zero _)
  | succ n ih =>
    unfold piecesFrom at hp
    cases hfind : find r before s with
    | none =>
      rw [hfind] at hp
      intro hfound
      have hmem : p ∈ piecesFrom r 0 before s := hp
      exact find_eq_none_iff.mp hfind
        (foundFrom_of_mem_piecesFrom hframed hwalled hstart hmem hfound)
    | some m =>
      rw [hfind] at hp
      obtain ⟨hsplit, hmatch, hleft⟩ := find_eq_some hfind
      obtain ⟨hfront, hback⟩ := hwalled hmatch
      rcases mem_cons.mp hp with rfl | hrest
      · -- a match in what was skipped would have been found first
        rintro ⟨a, x, b, hskip, hm⟩
        have hx := hm.ne_nil hnull
        rw [hsplit, hskip, append_assoc (a ++ x ++ b)] at hstart
        rw [hskip] at hfront
        have hext := hframed.extend hstart (.inr hfront) hm
        rw [append_assoc] at hskip
        exact hleft a (x ++ b) hskip (by simp [hx]) x (b ++ (m.2.1 ++ m.2.2)) (by simp) hext
      · have hpos := length_pos_iff.mpr (hmatch.ne_nil hnull)
        have hlen := congrArg length hsplit
        simp only [length_append] at hlen
        exact ih (.inr hback) (by omega) hrest

lemma not_found_of_mem_pieces_walled (hnull : r.nullable = false) (hframed : Framed r)
    (hwalled : Walled r) (hp : p ∈ pieces r s) : ¬ Found r p :=
  not_found_of_mem_piecesFrom_walled hnull hframed hwalled (.inl rfl) (Nat.lt_succ_self _) hp

/-- A match at the start of a text, where a word begins. -/
def Starts (q : Regexp) (before : Bool) (s : List Char) : Prop :=
  startsInWord s = true ∧ ∃ x b, s = x ++ b ∧ Matches q before x b

lemma FoundFrom.append_left (h : FoundFrom q (edge before a) s) : FoundFrom q before (a ++ s) := by
  obtain ⟨a', x, b, rfl, hm⟩ := h
  exact ⟨a ++ a', x, b, by simp, by rwa [edge_append]⟩

lemma replaceAll_of_not_found (h : ¬ Found r s) (repl : List Char) : replaceAll r s repl = s := by
  have hnone : find r false s = none := find_eq_none_iff.mpr h
  unfold replaceAll pieces piecesFrom
  rw [hnone]
  simp [intercalate]

lemma not_found_foldl {rs : List Regexp}
    (hrs : ∀ r ∈ rs, r.nullable = false ∧ Framed r ∧ Walled r) (hframed : Framed q)
    (hsep : Separates q repl) (hq : ¬ Found q s ∨ q ∈ rs) :
    ¬ Found q (rs.foldl (fun s r => replaceAll r s repl) s) := by
  induction rs generalizing s with
  | nil =>
    rcases hq with hq | hq
    · exact hq
    · cases hq
  | cons r rs ih =>
    obtain ⟨⟨hnull, hframed', hwalled⟩, hrest⟩ := forall_mem_cons.mp hrs
    refine ih hrest ?_
    rw [found_replaceAll hsep]
    rcases hq with hq | hq
    · left
      rintro ⟨p, hp, hfound⟩
      exact hq (found_of_mem_pieces hframed hwalled hp hfound)
    rcases mem_cons.mp hq with rfl | hq
    · left
      rintro ⟨p, hp, hfound⟩
      exact not_found_of_mem_pieces_walled hnull hframed' hwalled hp hfound
    · exact .inr hq

end Regexp

end FfxNexus
