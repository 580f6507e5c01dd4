/-
**The load balancer** (`internal/balancer/roundrobin.go`).
-/
import FfxNexus.Go
import FfxNexus.Machine
import FfxNexus.Routing
import FfxNexus.Swrr
import Mathlib.Algebra.BigOperators.Fin
import Mathlib.Data.List.GetD

namespace FfxNexus.Balancer
open Go List AList Function Machine

structure SwrrState where
  fingerprint : String
  current : List ℤ

abbrev WeightedRR : Type := GoMap String SwrrState

def fingerprint (ranked : List String) : String := "\x00".intercalate ranked

structure Scan where
  current : List ℤ
  total : ℤ
  best : ℕ

def scan (n : ℕ) (s : Scan) (i : ℕ) : Except (List ℤ) Scan :=
  match s.current[i]? with
  | none => .error s.current
  | some c =>
    let wi : ℤ := n - i
    let current := s.current.set i (c + wi)
    .ok ⟨current, s.total + wi, if current.getD s.best 0 < c + wi then i else s.best⟩

variable (st : Option SwrrState)

def stateFor (ranked : List String) : SwrrState :=
  match st with
  | some st =>
    if st.fingerprint = fingerprint ranked then st
    else ⟨fingerprint ranked, List.replicate ranked.length 0⟩
  | none => ⟨fingerprint ranked, List.replicate ranked.length 0⟩

def advance (ranked : List String) : SwrrState × Option ℕ :=
  match (List.range ranked.length).foldlM (scan ranked.length)
      ⟨(stateFor st ranked).current, 0, 0⟩ with
  | .error current => (⟨fingerprint ranked, current⟩, none)
  | .ok s =>
    (⟨fingerprint ranked, s.current.set s.best (s.current.getD s.best 0 - s.total)⟩, some s.best)

def next (w : WeightedRR) (groupKey : String) (ranked : List String) : WeightedRR × Option ℕ :=
  if ranked.length ≤ 1 then (w, some 0)
  else
    let r := advance (w.lookup groupKey) ranked
    (w.insert groupKey r.1, r.2)

structure Call where
  group : String
  ranked : List String
deriving DecidableEq

def balancer : Machine WeightedRR Call (Option ℕ) where
  step w c := next w c.group c.ranked

variable {w : WeightedRR}

lemma lookup_next_self {g : String} {ranked : List String} (hn : 2 ≤ ranked.length) :
    (next w g ranked).1.lookup g = some (advance (w.lookup g) ranked).1 := by
  have hmany : ¬ ranked.length ≤ 1 := by omega
  unfold next
  rw [if_neg hmany, lookup_insert]

lemma next_answer {g : String} {ranked : List String} (hn : 2 ≤ ranked.length) :
    (next w g ranked).2 = (advance (w.lookup g) ranked).2 := by
  have hmany : ¬ ranked.length ≤ 1 := by omega
  unfold next
  rw [if_neg hmany]

lemma next_few {g : String} {ranked : List String} (hn : ranked.length ≤ 1) :
    next w g ranked = (w, some 0) := by
  unfold next
  rw [if_pos hn]

lemma lookup_next_of_ne {g g' : String} (ranked : List String) (hg : g' ≠ g) :
    (next w g ranked).1.lookup g' = w.lookup g' := by
  by_cases hn : ranked.length ≤ 1
  · rw [next_few hn]
  · unfold next
    rw [if_neg hn, lookup_insert_ne hg]

structure Scanned (n : ℕ) (l : List ℤ) (k : ℕ) (s : Scan) : Prop where
  length_eq : s.current.length = l.length
  raised : ∀ j, j < k → s.current.getD j 0 = l.getD j 0 + (n - j)
  kept : ∀ j, k ≤ j → s.current.getD j 0 = l.getD j 0
  total_eq : s.total = ∑ j ∈ Finset.range k, ((n : ℤ) - j)
  best_lt : s.best < max k 1
  greatest : ∀ j, j < k → s.current.getD j 0 ≤ s.current.getD s.best 0
  leftmost : ∀ j, j < s.best → s.current.getD j 0 < s.current.getD s.best 0

lemma scanned_zero (n : ℕ) (l : List ℤ) : Scanned n l 0 ⟨l, 0, 0⟩ where
  length_eq := rfl
  raised := fun j hj => absurd hj (Nat.not_lt_zero j)
  kept := fun _ _ => rfl
  total_eq := rfl
  best_lt := Nat.one_pos
  greatest := fun j hj => absurd hj (Nat.not_lt_zero j)
  leftmost := fun j hj => absurd hj (Nat.not_lt_zero j)

variable {l : List ℤ}

lemma getD_set_self {i : ℕ} (hi : i < l.length) (v : ℤ) : (l.set i v).getD i 0 = v := by
  rw [getD_eq_getElem?_getD, getElem?_set_self hi, Option.getD_some]

lemma getD_set_of_ne (l : List ℤ) {i j : ℕ} (hj : j ≠ i) (v : ℤ) :
    (l.set i v).getD j 0 = l.getD j 0 := by
  rw [getD_eq_getElem?_getD, getElem?_set_ne hj.symm, getD_eq_getElem?_getD]

variable {n : ℕ}

lemma scanned_succ {k : ℕ} {s : Scan} (h : Scanned n l k s) (hk : k < l.length) :
    ∃ s', scan n s k = .ok s' ∧ Scanned n l (k + 1) s' := by
  have hlen : k < s.current.length := by
    rw [h.length_eq]
    exact hk
  have hget : s.current[k]? = some (l.getD k 0) := by
    rw [← h.kept k (le_refl k), getD_eq_getElem _ _ hlen, getElem?_eq_getElem hlen]
  have hself : (s.current.set k (l.getD k 0 + (n - k))).getD k 0 = l.getD k 0 + (n - k) :=
    getD_set_self hlen _
  have hother : ∀ j, j ≠ k →
      (s.current.set k (l.getD k 0 + (n - k))).getD j 0 = s.current.getD j 0 :=
    fun j hj => getD_set_of_ne _ hj _
  have hbest : s.best ≤ k := by
    have := h.best_lt
    omega
  unfold scan
  rw [hget]
  refine ⟨_, rfl, ?_⟩
  have hcommon : ∀ b : ℕ, b < k + 1 →
      (∀ j, j < k + 1 → (s.current.set k (l.getD k 0 + (n - k))).getD j 0 ≤
        (s.current.set k (l.getD k 0 + (n - k))).getD b 0) →
      (∀ j, j < b → (s.current.set k (l.getD k 0 + (n - k))).getD j 0 <
        (s.current.set k (l.getD k 0 + (n - k))).getD b 0) →
      Scanned n l (k + 1)
        ⟨s.current.set k (l.getD k 0 + (n - k)), s.total + (n - k), b⟩ := by
    intro b hb hgreatest hleftmost
    refine ⟨?_, ?_, ?_, ?_, ?_, hgreatest, hleftmost⟩
    · rw [length_set, h.length_eq]
    · intro j hj
      by_cases hjk : j = k
      · rw [hjk]
        exact hself
      · have hlt : j < k := by omega
        exact (hother j hjk).trans (h.raised j hlt)
    · intro j hj
      have hjk : j ≠ k := by omega
      have hle : k ≤ j := by omega
      exact (hother j hjk).trans (h.kept j hle)
    · rw [Finset.sum_range_succ, h.total_eq]
    · have hmax : max (k + 1) 1 = k + 1 := by omega
      rw [hmax]
      exact hb
  by_cases hlt : (s.current.set k (l.getD k 0 + (n - k))).getD s.best 0 < l.getD k 0 + (n - k)
  · -- a strictly greater weight is the new pick
    rw [if_pos hlt]
    have hne : s.best ≠ k := by
      intro heq
      rw [heq, hself] at hlt
      exact lt_irrefl _ hlt
    rw [hother _ hne] at hlt
    have hbelow : ∀ j, j < k →
        (s.current.set k (l.getD k 0 + (n - k))).getD j 0 < l.getD k 0 + (n - k) := by
      intro j hj
      rw [hother j (by omega)]
      exact lt_of_le_of_lt (h.greatest j hj) hlt
    apply hcommon k (Nat.lt_succ_self k)
    · intro j hj
      rw [hself]
      by_cases hjk : j = k
      · rw [hjk, hself]
      · exact le_of_lt (hbelow j (by omega))
    · intro j hj
      rw [hself]
      exact hbelow j hj
  · rw [if_neg hlt]
    rw [not_lt] at hlt
    by_cases hbk : s.best = k
    · -- only at the first place, which is compared with itself
      have hzero : k = 0 := by
        have := h.best_lt
        omega
      apply hcommon s.best (by omega)
      · intro j hj
        have hj0 : j = s.best := by omega
        rw [hj0]
      · intro j hj
        omega
    · have hbest' := hother s.best hbk
      apply hcommon s.best (by omega)
      · intro j hj
        by_cases hjk : j = k
        · rw [hjk, hself]
          exact hlt
        · rw [hother j hjk, hbest']
          exact h.greatest j (by omega)
      · intro j hj
        rw [hother j (by omega), hbest']
        exact h.leftmost j hj

lemma scan_upTo (n : ℕ) (l : List ℤ) {k : ℕ} (hk : k ≤ l.length) :
    ∃ s, (range k).foldlM (scan n) ⟨l, 0, 0⟩ = .ok s ∧ Scanned n l k s := by
  induction k with
  | zero => exact ⟨_, rfl, scanned_zero n l⟩
  | succ k ih =>
    obtain ⟨s, hs, hinv⟩ := ih (by omega)
    obtain ⟨s', hs', hinv'⟩ := scanned_succ hinv (by omega)
    refine ⟨s', ?_, hinv'⟩
    rw [range_succ, foldlM_append, hs]
    simp only [bind, Except.bind, foldlM_cons, hs']
    rfl

lemma scan_panics (hn : l.length < n) :
    ∃ current, (range n).foldlM (scan n) ⟨l, 0, 0⟩ = .error current := by
  obtain ⟨s, hs, hinv⟩ := scan_upTo n l (le_refl _)
  have hstop : scan n s l.length = .error s.current := by
    unfold scan
    rw [getElem?_eq_none (by rw [hinv.length_eq])]
  obtain ⟨m, rfl⟩ : ∃ m, n = l.length + 1 + m := ⟨n - (l.length + 1), by omega⟩
  refine ⟨s.current, ?_⟩
  rw [range_add, foldlM_append, range_succ, foldlM_append, hs]
  simp only [bind, Except.bind, foldlM_cons, hstop]

structure Picked (n : ℕ) (l l' : List ℤ) (i : ℕ) : Prop where
  length_eq : l'.length = l.length
  lt : i < n
  greatest : ∀ j, j < n → l.getD j 0 + (n - j) ≤ l.getD i 0 + (n - i)
  leftmost : ∀ j, j < i → l.getD j 0 + (n - j) < l.getD i 0 + (n - i)
  self : l'.getD i 0 = l.getD i 0 + (n - i) - ∑ j ∈ Finset.range n, ((n : ℤ) - j)
  others : ∀ j, j < n → j ≠ i → l'.getD j 0 = l.getD j 0 + (n - j)

lemma advance_picked {st : Option SwrrState} {ranked : List String} (hn : 0 < ranked.length)
    (hlen : ranked.length ≤ (stateFor st ranked).current.length) :
    ∃ l' i, advance st ranked = (⟨fingerprint ranked, l'⟩, some i) ∧
      Picked ranked.length (stateFor st ranked).current l' i := by
  obtain ⟨s, hs, hinv⟩ := scan_upTo ranked.length (stateFor st ranked).current hlen
  have hlt : s.best < ranked.length := by
    have := hinv.best_lt
    omega
  have hbest := hinv.raised s.best hlt
  have hin : s.best < s.current.length := by
    rw [hinv.length_eq]
    omega
  refine ⟨_, s.best, by rw [advance, hs], ?_, hlt, ?_, ?_, ?_, ?_⟩
  · rw [length_set, hinv.length_eq]
  · intro j hj
    rw [← hinv.raised j hj, ← hbest]
    exact hinv.greatest j hj
  · intro j hj
    rw [← hinv.raised j (by omega), ← hbest]
    exact hinv.leftmost j hj
  · rw [getD_set_self hin, hbest, hinv.total_eq]
  · intro j hj hne
    rw [getD_set_of_ne _ hne, hinv.raised j hj]

lemma advance_panics {st : Option SwrrState} {ranked : List String}
    (hlen : (stateFor st ranked).current.length < ranked.length) :
    (advance st ranked).2 = none := by
  obtain ⟨current, hcurrent⟩ := scan_panics hlen
  rw [advance, hcurrent]

lemma advance_fingerprint (ranked : List String) :
    (advance st ranked).1.fingerprint = fingerprint ranked := by
  unfold advance
  split <;> rfl

lemma two_mul_total (n : ℕ) : 2 * ∑ j ∈ Finset.range n, ((n : ℤ) - j) = n * (n + 1) := by
  have hgauss : ∀ k : ℕ, 2 * ∑ j ∈ Finset.range k, ((n : ℤ) - j) = k * (2 * n - k + 1) := by
    intro k
    induction k with
    | zero => simp
    | succ k ih =>
      rw [Finset.sum_range_succ, mul_add, ih]
      push_cast
      ring
  rw [hgauss n]
  ring

lemma exists_leftmost (hn : 0 < n) (c : Fin n → ℤ) :
    ∃ i, (∀ j, c j ≤ c i) ∧ ∀ j, j < i → c j < c i := by
  obtain ⟨m, -, hm⟩ := Finset.exists_max_image Finset.univ c ⟨⟨0, hn⟩, Finset.mem_univ _⟩
  obtain ⟨i, hi, hmin⟩ := WellFounded.has_min (wellFounded_lt (α := Fin n))
    {i | ∀ j, c j ≤ c i} ⟨m, fun j => hm j (Finset.mem_univ j)⟩
  refine ⟨i, hi, ?_⟩
  intro j hj
  by_contra hle
  rw [not_lt] at hle
  exact hmin j (fun j' => le_trans (hi j') hle) hj

noncomputable def byRank (n : ℕ) (hn : 0 < n) : Swrr.Scheme (Fin n) where
  weight := fun i => n - i
  pick := fun c => (exists_leftmost hn c).choose
  pick_max := fun c i => (exists_leftmost hn c).choose_spec.1 i
  total_pos := by
    apply Finset.sum_pos
    · intro i _
      have := i.isLt
      omega
    · exact ⟨⟨0, hn⟩, Finset.mem_univ _⟩

lemma cast_byRank_total (n : ℕ) (hn : 0 < n) :
    ((byRank n hn).total : ℤ) = ∑ j ∈ Finset.range n, ((n : ℤ) - j) := by
  unfold Swrr.Scheme.total byRank
  rw [Fin.sum_univ_eq_sum_range (fun i => n - i) n]
  push_cast
  apply Finset.sum_congr rfl
  intro j hj
  rw [Finset.mem_range] at hj
  omega

lemma byRank_total (n : ℕ) (hn : 0 < n) : (byRank n hn).total = n * (n + 1) / 2 := by
  have htwo := two_mul_total n
  rw [← cast_byRank_total n hn] at htwo
  have hnat : 2 * (byRank n hn).total = n * (n + 1) := by exact_mod_cast htwo
  omega

section
variable {ranked : List String} (hn : 0 < ranked.length)

lemma getD_ofFn {n : ℕ} (c : Fin n → ℤ) (i : Fin n) : (List.ofFn c).getD i 0 = c i := by
  rw [List.getD_eq_getElem _ _ (by simp), List.getElem_ofFn]

lemma cast_weight {n : ℕ} (h : 0 < n) (i : Fin n) : (((byRank n h).weight i : ℕ) : ℤ) = n - i := by
  unfold byRank
  dsimp only
  omega

lemma advance_ofFn {st : Option SwrrState} {c : Fin ranked.length → ℤ}
    (hst : (stateFor st ranked).current = List.ofFn c) : advance st ranked =
      (⟨fingerprint ranked, List.ofFn ((byRank _ hn).round c)⟩,
        some ((byRank _ hn).chosen c : ℕ)) := by
  have hlen : ranked.length ≤ (stateFor st ranked).current.length := by
    rw [hst, List.length_ofFn]
  obtain ⟨l', i, heq, hpicked⟩ := advance_picked hn hlen
  rw [hst] at hpicked
  have hraise : ∀ j : Fin ranked.length,
      (byRank _ hn).raise c j = (List.ofFn c).getD j 0 + (ranked.length - j) := by
    intro j
    rw [getD_ofFn]
    unfold Swrr.Scheme.raise
    rw [cast_weight]
  have hspec := (exists_leftmost hn ((byRank _ hn).raise c)).choose_spec
  have hchosen : ((byRank _ hn).chosen c : ℕ) = i := by
    have hgreatest := hspec.1 ⟨i, hpicked.lt⟩
    have hmine := hpicked.greatest ((byRank _ hn).chosen c) ((byRank _ hn).chosen c).isLt
    rw [← hraise] at hmine
    rw [hraise ⟨i, hpicked.lt⟩] at hgreatest
    rcases lt_trichotomy ((byRank _ hn).chosen c : ℕ) i with hlt | heq | hgt
    · have hless := hpicked.leftmost _ hlt
      rw [← hraise] at hless
      exact absurd hgreatest (not_le.mpr hless)
    · exact heq
    · have hless := hspec.2 ⟨i, hpicked.lt⟩ hgt
      rw [hraise ⟨i, hpicked.lt⟩] at hless
      exact absurd hmine (not_le.mpr hless)
  have hweights : l' = List.ofFn ((byRank _ hn).round c) := by
    apply List.ext_getElem
    · rw [hpicked.length_eq, List.length_ofFn, List.length_ofFn]
    · intro j hj hj'
      rw [List.length_ofFn] at hj'
      rw [List.getElem_ofFn, ← List.getD_eq_getElem _ 0 hj]
      unfold Swrr.Scheme.round
      by_cases hji : j = i
      · have hfin : (⟨j, hj'⟩ : Fin ranked.length) = (byRank _ hn).chosen c :=
          Fin.ext (hji.trans hchosen.symm)
        subst hji
        rw [if_pos hfin, hraise ⟨j, hj'⟩, cast_byRank_total]
        exact hpicked.self
      · have hfin : (⟨j, hj'⟩ : Fin ranked.length) ≠ (byRank _ hn).chosen c := by
          intro h
          exact hji ((congrArg Fin.val h).trans hchosen)
        rw [if_neg hfin, hraise ⟨j, hj'⟩]
        exact hpicked.others j hj' hji
  rw [heq, hweights, hchosen]

structure Seen (st : Option SwrrState) (k : ℕ) : Prop where
  current_eq : (stateFor st ranked).current = List.ofFn ((byRank _ hn).round^[k] 0)
  own : ∀ s ∈ st, s.fingerprint = fingerprint ranked

lemma seen_none : Seen hn none 0 := by
  refine ⟨?_, fun s hs => by cases hs⟩
  unfold stateFor
  apply ext_getElem
  · simp
  · intro j hj hj'
    simp

lemma seen_advance {st : Option SwrrState} {k : ℕ} (h : Seen hn st k) :
    Seen hn (some (advance st ranked).1) (k + 1) ∧
      (advance st ranked).2 = some ((byRank _ hn).chosen ((byRank _ hn).round^[k] 0) : ℕ) := by
  rw [advance_ofFn hn h.current_eq]
  refine ⟨⟨?_, ?_⟩, rfl⟩
  · unfold stateFor
    dsimp only
    rw [if_pos rfl, iterate_succ_apply']
  · intro s hs
    cases hs
    rfl

lemma Seen.current {st : SwrrState} {k : ℕ} (h : Seen hn (some st) k) :
    st.current = ofFn ((byRank _ hn).round^[k] 0) := by
  have hcurrent := h.current_eq
  unfold stateFor at hcurrent
  dsimp only at hcurrent
  rwa [if_pos (h.own st rfl)] at hcurrent

variable {calls : List Call}

variable {g : String}

lemma seen_run (hmany : 2 ≤ ranked.length) {w : WeightedRR} {k : ℕ} (h : Seen hn (w.lookup g) k)
    (hcalls : ∀ c ∈ calls, c.group = g → c.ranked = ranked) :
    ∃ m, Seen hn ((balancer.run w calls).lookup g) (k + m) ∧
      balancer.traceOf (fun c => c.group = g) w calls =
        ((byRank _ hn).choices ((byRank _ hn).round^[k] 0) m).map
          fun i : Fin ranked.length => some (i : ℕ) := by
  induction calls generalizing w k with
  | nil => exact ⟨0, h, rfl⟩
  | cons c calls ih =>
    have hrest : ∀ c' ∈ calls, c'.group = g → c'.ranked = ranked :=
      fun c' hc' => hcalls c' (mem_cons_of_mem c hc')
    rw [traceOf]
    by_cases hg : c.group = g
    · have hranked := hcalls c mem_cons_self hg
      obtain ⟨hseen, hanswer⟩ := seen_advance hn h
      have hstep : Seen hn ((balancer.step w c).1.lookup g) (k + 1) := by
        show Seen hn ((next w c.group c.ranked).1.lookup g) (k + 1)
        rw [hg, hranked, lookup_next_self hmany]
        exact hseen
      have hpick : (balancer.step w c).2 =
          some ((byRank _ hn).chosen ((byRank _ hn).round^[k] 0) : ℕ) := by
        show (next w c.group c.ranked).2 = _
        rw [hg, hranked, next_answer hmany]
        exact hanswer
      obtain ⟨m, hstate, htrace⟩ := ih hstep hrest
      refine ⟨m + 1, ?_, ?_⟩
      · rw [Nat.add_comm m 1, ← Nat.add_assoc]
        exact hstate
      · rw [if_pos (decide_eq_true hg), hpick, htrace, Swrr.Scheme.choices, map_cons,
          iterate_succ_apply']
    · have hstep : Seen hn ((balancer.step w c).1.lookup g) k := by
        show Seen hn ((next w c.group c.ranked).1.lookup g) k
        rw [lookup_next_of_ne _ (Ne.symm hg)]
        exact h
      obtain ⟨m, hstate, htrace⟩ := ih hstep hrest
      refine ⟨m, hstate, ?_⟩
      rw [if_neg (by rw [decide_eq_true_eq]; exact hg)]
      exact htrace

end

theorem rank_proportional (g : String) (ranked : List String) (hn : 2 ≤ ranked.length)
    (calls : List Call) (hcalls : ∀ c ∈ calls, c.group = g → c.ranked = ranked) :
    (∀ k, k + ranked.length * (ranked.length + 1) / 2 ≤
        (balancer.traceOf (fun c => c.group = g) ∅ calls).length → ∀ i, i < ranked.length →
        (((balancer.traceOf (fun c => c.group = g) ∅ calls).drop k).take
          (ranked.length * (ranked.length + 1) / 2)).count (some i) = ranked.length - i) ∧
    ∀ st, (balancer.run ∅ calls).lookup g = some st →
      st.current.length = ranked.length ∧ st.current.sum = 0 ∧
      (∀ c ∈ st.current, -((ranked.length * (ranked.length + 1) / 2 : ℕ) : ℤ) < c) ∧
      (ranked.length * (ranked.length + 1) / 2 ∣
          (balancer.traceOf (fun c => c.group = g) ∅ calls).length → ∀ c ∈ st.current, c = 0) := by
  have hpos : 0 < ranked.length := by omega
  obtain ⟨m, hseen, htrace⟩ := seen_run hpos hn (w := ∅) (k := 0) (g := g)
    (by rw [lookup_empty]; exact seen_none hpos) hcalls
  rw [iterate_zero, id_eq] at htrace
  rw [Nat.zero_add] at hseen
  rw [← byRank_total ranked.length hpos, htrace, length_map, Swrr.Scheme.length_choices]
  constructor
  · intro k hk i hi
    rw [← map_drop, ← map_take, Swrr.Scheme.take_drop_choices _ _ hk]
    have hinj : Injective fun j : Fin ranked.length => some (j : ℕ) := by
      intro a b hab
      exact Fin.ext (Option.some.inj hab)
    have hcount := count_map_of_injective
      ((byRank _ hpos).choices ((byRank _ hpos).round^[k] 0) (byRank _ hpos).total) _ hinj ⟨i, hi⟩
    rw [hcount, Swrr.Scheme.count_choices_window]
    rfl
  · intro st hst
    rw [hst] at hseen
    have hcurrent := hseen.current
    have hbalanced := (byRank _ hpos).balanced_iterate (byRank _ hpos).balanced_zero m
    rw [hcurrent]
    refine ⟨length_ofFn, ?_, ?_, ?_⟩
    · rw [sum_ofFn]
      exact hbalanced.sum_eq
    · intro c hc
      obtain ⟨i, rfl⟩ := mem_ofFn.mp hc
      exact hbalanced.lower i
    rintro ⟨q, rfl⟩ c hc
    obtain ⟨i, rfl⟩ := mem_ofFn.mp hc
    rw [Nat.mul_comm, Swrr.Scheme.iterate_round_mul_total]
    rfl

theorem rank_proportional_three : (balancer.traceOf (fun c => c.group = "fast") ∅
      (List.replicate 6 ⟨"fast", ["best", "mid", "cheap"]⟩)).count (some 0) = 3 := by
  have hall : ∀ c ∈ replicate 6 (⟨"fast", ["best", "mid", "cheap"]⟩ : Call),
      c.group = "fast" → c.ranked = ["best", "mid", "cheap"] := by
    intro c hc _
    rw [eq_of_mem_replicate hc]
  have hwindow := (rank_proportional "fast" ["best", "mid", "cheap"] (by decide) _ hall).1 0
    (by decide) 0 (by decide)
  exact hwindow

/-- **The weights are machine integers**: with what `Next` adds, none leaves the source's `int`. -/
theorem weights_fit (calls : List Call) (g : String) (ranked : List String) (st : SwrrState)
    (hn : 2 ≤ ranked.length) (hsmall : ranked.length ≤ 2 ^ 20)
    (hcalls : ∀ c ∈ calls, c.group = g → c.ranked = ranked)
    (hst : (balancer.run ∅ calls).lookup g = some st) :
    ∀ c ∈ st.current, -2 ^ 63 < c ∧ c + ranked.length < 2 ^ 63 := by
  have hpos : 0 < ranked.length := by omega
  obtain ⟨m, hseen, -⟩ := seen_run hpos hn (w := ∅) (k := 0) (g := g)
    (by rw [lookup_empty]; exact seen_none hpos) hcalls
  rw [hst] at hseen
  have hbalanced := (byRank _ hpos).balanced_iterate (byRank _ hpos).balanced_zero (0 + m)
  have htotal : (byRank _ hpos).total ≤ 2 ^ 40 := by
    have hprod : ranked.length * (ranked.length + 1) ≤ 2 ^ 20 * (2 ^ 20 + 1) :=
      Nat.mul_le_mul hsmall (by omega)
    rw [byRank_total]
    omega
  rw [hseen.current]
  intro c hc
  -- the weights add up to zero, so the lower bound of the others is an upper bound
  obtain ⟨i, rfl⟩ := mem_ofFn.mp hc
  have hlow := hbalanced.lower i
  have hup := hbalanced.upper i
  rw [Fintype.card_fin] at hup
  have hbound : (byRank _ hpos).total * (ranked.length - 1) ≤ 2 ^ 40 * 2 ^ 20 :=
    Nat.mul_le_mul htotal (by omega)
  have hcast : ((byRank _ hpos).total : ℤ) * (ranked.length - 1 : ℕ) ≤ 2 ^ 40 * 2 ^ 20 := by
    exact_mod_cast hbound
  omega

theorem weights_fit_two : -2 ^ 63 < (-1 : ℤ) ∧ (-1 : ℤ) + 2 < 2 ^ 63 :=
  weights_fit [⟨"fast", ["a", "b"]⟩] "fast" ["a", "b"] ⟨fingerprint ["a", "b"], [-1, 1]⟩
    (by decide) (by decide) (by simp) rfl (-1) (by decide)

structure Undisturbed (calls : List Call) : Prop where
  inRange : balancer.Along
    (fun w c => ∃ i, (next w c.group c.ranked).2 = some i ∧ i < c.ranked.length) ∅ calls
  alone : ∀ c, balancer.traceOf (fun c' => c' = c) ∅ calls =
    balancer.trace ∅ (calls.filter fun c' => c' = c)

/-- **The condition** on the lists of each group: none is empty, and only one has two names or more.
-/
structure Separate (P : String → List String → Prop) : Prop where
  nonempty : ∀ g ranked, P g ranked → ranked ≠ []
  single : ∀ g ranked ranked', P g ranked → P g ranked' → 2 ≤ ranked.length →
    2 ≤ ranked'.length → ranked = ranked'

section
variable {P : String → List String → Prop}

def Sized (P : String → List String → Prop) (w : WeightedRR) : Prop :=
  ∀ g st, w.lookup g = some st → ∃ ranked, P g ranked ∧ 2 ≤ ranked.length ∧
    st.fingerprint = fingerprint ranked ∧ st.current.length = ranked.length

variable {w : WeightedRR}

variable (hP : Separate P)
include hP

lemma length_stateFor (hw : Sized P w) {g : String} {ranked : List String}
    (hranked : P g ranked) (hn : 2 ≤ ranked.length) :
    (stateFor (w.lookup g) ranked).current.length = ranked.length := by
  unfold stateFor
  cases hst : w.lookup g with
  | none => exact length_replicate
  | some st =>
    obtain ⟨ranked', hranked', hn', hfp, hlen⟩ := hw g st hst
    have heq := hP.single g ranked ranked' hranked hranked' hn hn'
    rw [← heq] at hfp hlen
    dsimp only
    rw [if_pos hfp]
    exact hlen

lemma advance_sized (hw : Sized P w) {g : String} {ranked : List String}
    (hranked : P g ranked) (hn : 2 ≤ ranked.length) :
    ∃ l' i, advance (w.lookup g) ranked = (⟨fingerprint ranked, l'⟩, some i) ∧
      l'.length = ranked.length ∧ i < ranked.length := by
  have hlen := length_stateFor hP hw hranked hn
  obtain ⟨l', i, heq, hpicked⟩ := advance_picked (by omega) (le_of_eq hlen.symm)
  exact ⟨l', i, heq, hpicked.length_eq.trans hlen, hpicked.lt⟩

lemma sized_next (hw : Sized P w) {g : String} {ranked : List String}
    (hranked : P g ranked) : Sized P (next w g ranked).1 := by
  by_cases hn : ranked.length ≤ 1
  · rw [next_few hn]
    exact hw
  have hmany : 2 ≤ ranked.length := by omega
  intro g' st hst
  by_cases hg : g' = g
  · obtain ⟨l', i, heq, hlen, -⟩ := advance_sized hP hw hranked hmany
    rw [hg, lookup_next_self hmany, heq, Option.some.injEq] at hst
    rw [hg, ← hst]
    exact ⟨ranked, hranked, hmany, rfl, hlen⟩
  · rw [lookup_next_of_ne _ hg] at hst
    exact hw g' st hst

lemma inRange_next (hw : Sized P w) {g : String} {ranked : List String}
    (hranked : P g ranked) : ∃ i, (next w g ranked).2 = some i ∧ i < ranked.length := by
  by_cases hn : ranked.length ≤ 1
  · have hpos : ranked.length ≠ 0 := by
      intro h
      exact hP.nonempty g ranked hranked (length_eq_zero_iff.mp h)
    rw [next_few hn]
    exact ⟨0, rfl, by omega⟩
  · have hmany : 2 ≤ ranked.length := by omega
    obtain ⟨l', i, heq, -, hi⟩ := advance_sized hP hw hranked hmany
    exact ⟨i, by rw [next_answer hmany, heq], hi⟩

lemma alone_of_separate (hcalls : ∀ c ∈ calls, P c.group c.ranked) (c : Call) :
    balancer.traceOf (fun c' => c' = c) ∅ calls =
      balancer.trace ∅ (calls.filter fun c' => c' = c) := by
  by_cases hn : c.ranked.length ≤ 1
  · apply traceOf_eq_trace_filter (R := fun _ _ => True)
    · intro s t i _ _ hi
      rw [decide_eq_true_eq] at hi
      refine ⟨trivial, ?_⟩
      show (next s i.group i.ranked).2 = (next t i.group i.ranked).2
      rw [hi, next_few hn, next_few hn]
    · intros
      trivial
    · trivial
  · have hmany : 2 ≤ c.ranked.length := by omega
    by_cases hc : c ∈ calls
    swap
    · apply traceOf_eq_trace_filter (R := fun _ _ => True)
      · intro s t i hi _ hic
        rw [decide_eq_true_eq] at hic
        exact absurd (hic ▸ hi) hc
      · intros
        trivial
      · trivial
    apply traceOf_eq_trace_filter (R := fun s t => s.lookup c.group = t.lookup c.group)
    · intro s t i _ hR hi
      rw [decide_eq_true_eq] at hi
      subst hi
      constructor
      · show (next s i.group i.ranked).1.lookup i.group = (next t i.group i.ranked).1.lookup i.group
        rw [lookup_next_self hmany, lookup_next_self hmany, hR]
      · show (next s i.group i.ranked).2 = (next t i.group i.ranked).2
        rw [next_answer hmany, next_answer hmany, hR]
    · intro s t i hi hR hne
      rw [decide_eq_false_iff_not] at hne
      rw [← hR]
      show (next s i.group i.ranked).1.lookup c.group = s.lookup c.group
      by_cases hg : i.group = c.group
      · -- another list of the group, which is short
        have hfew : i.ranked.length ≤ 1 := by
          by_contra hlong
          have hi' := hcalls i hi
          rw [hg] at hi'
          have hranked := hP.single c.group i.ranked c.ranked hi' (hcalls c hc) (by omega) hmany
          apply hne
          calc i = ⟨i.group, i.ranked⟩ := rfl
            _ = c := by rw [hg, hranked]
        rw [next_few hfew]
      · exact lookup_next_of_ne _ (Ne.symm hg)
    · rfl

lemma undisturbed_of_separate (hcalls : ∀ c ∈ calls, P c.group c.ranked) : Undisturbed calls := by
  refine ⟨?_, alone_of_separate hP hcalls⟩
  have hempty : Sized P ∅ := by
    intro g st hst
    cases hst
  have hadmitted : balancer.Along (fun _ c => P c.group c.ranked) ∅ calls := by
    intro before c after heq
    apply hcalls
    rw [heq]
    exact mem_append_right _ mem_cons_self
  have hinv := hadmitted.invariant (P := Sized P) (fun w c hw hc => sized_next hP hw hc) hempty
  intro before c after heq
  obtain ⟨hw, hc⟩ := hinv before c after heq
  exact inRange_next hP hw hc

end

section

lemma getD_replicate_zero (n j : ℕ) : (replicate n (0 : ℤ)).getD j 0 = 0 := by
  rw [getD_eq_getElem?_getD, getElem?_replicate]
  split_ifs with hj
  · rfl
  · rfl

lemma first_pick {st : Option SwrrState} {ranked : List String} (hn : 2 ≤ ranked.length)
    (hst : (stateFor st ranked).current = replicate ranked.length 0) :
    ∃ l, advance st ranked = (⟨fingerprint ranked, l⟩, some 0) ∧
      Picked ranked.length (replicate ranked.length 0) l 0 := by
  have hlen : ranked.length ≤ (stateFor st ranked).current.length := by
    rw [hst, length_replicate]
  obtain ⟨l, i, heq, hpicked⟩ := advance_picked (by omega) hlen
  rw [hst] at hpicked
  have hzero : i = 0 := by
    have hfirst := hpicked.greatest 0 (by omega)
    rw [getD_replicate_zero, getD_replicate_zero] at hfirst
    omega
  subst hzero
  exact ⟨l, heq, hpicked⟩

lemma second_pick {st : Option SwrrState} {ranked : List String} {l : List ℤ}
    (hn : 2 ≤ ranked.length) (hl : Picked ranked.length (replicate ranked.length 0) l 0)
    (hst : (stateFor st ranked).current = l) : (advance st ranked).2 = some 1 := by
  have hlen : ranked.length ≤ (stateFor st ranked).current.length := by
    rw [hst, hl.length_eq, length_replicate]
  obtain ⟨l', i, heq, hpicked⟩ := advance_picked (by omega) hlen
  rw [hst] at hpicked
  have hself := hl.self
  have htotal := two_mul_total ranked.length
  have hone := hl.others 1 (by omega) (by omega)
  have hge := hpicked.greatest 1 (by omega)
  rw [getD_replicate_zero] at hself hone
  have hi : i = 1 := by
    rcases Nat.lt_trichotomy i 1 with hlt | heq | hgt
    · -- the first one has paid the total, which is three at least
      have hzero : i = 0 := by omega
      subst hzero
      have hsquare : (6 : ℤ) ≤ ranked.length * (ranked.length + 1) := by
        nlinarith
      omega
    · exact heq
    · have hother := hl.others i hpicked.lt (by omega)
      rw [getD_replicate_zero] at hother
      omega
  rw [heq, hi]

lemma stateFor_none (ranked : List String) :
    (stateFor none ranked).current = replicate ranked.length 0 := rfl

lemma stateFor_same {st : SwrrState} {ranked : List String}
    (h : st.fingerprint = fingerprint ranked) : stateFor (some st) ranked = st := by
  unfold stateFor
  dsimp only
  rw [if_pos h]

lemma stateFor_other {st : SwrrState} {ranked : List String}
    (h : st.fingerprint ≠ fingerprint ranked) :
    (stateFor (some st) ranked).current = replicate ranked.length 0 := by
  unfold stateFor
  dsimp only
  rw [if_neg h]

variable {g : String} {ranked ranked' : List String}

lemma next_first (hn : 2 ≤ ranked.length) : (next ∅ g ranked).2 = some 0 := by
  obtain ⟨l, heq, -⟩ := first_pick hn (stateFor_none ranked)
  rw [next_answer hn, lookup_empty, heq]

lemma disturbed_of_same (hne : ranked ≠ ranked') (hn : 2 ≤ ranked.length)
    (hle : ranked.length ≤ ranked'.length) (hfp : fingerprint ranked = fingerprint ranked') :
    ¬ Undisturbed [⟨g, ranked⟩, ⟨g, ranked'⟩] := by
  intro h
  have hn' : 2 ≤ ranked'.length := by omega
  obtain ⟨l, heq, hl⟩ := first_pick hn (stateFor_none ranked)
  have hlen : l.length = ranked.length := by
    rw [hl.length_eq, length_replicate]
  have hlookup : (next ∅ g ranked).1.lookup g = some ⟨fingerprint ranked, l⟩ := by
    rw [lookup_next_self hn, lookup_empty, heq]
  have hstate : stateFor ((next ∅ g ranked).1.lookup g) ranked' = ⟨fingerprint ranked, l⟩ := by
    rw [hlookup]
    exact stateFor_same hfp
  obtain ⟨i, hi, -⟩ := h.inRange [⟨g, ranked⟩] ⟨g, ranked'⟩ [] rfl
  have hanswer : (next (next ∅ g ranked).1 g ranked').2 =
      (advance ((next ∅ g ranked).1.lookup g) ranked').2 := next_answer hn'
  rcases Nat.lt_or_eq_of_le hle with hlt | hsame
  · have hpanic : (advance ((next ∅ g ranked).1.lookup g) ranked').2 = none := by
      apply advance_panics
      rw [hstate]
      show l.length < ranked'.length
      omega
    have hi' : (next (next ∅ g ranked).1 g ranked').2 = some i := hi
    rw [hanswer, hpanic] at hi'
    cases hi'
  · have hsecond : (next (next ∅ g ranked).1 g ranked').2 = some 1 := by
      rw [hanswer]
      apply second_pick hn' (l := l)
      · rw [← hsame]
        exact hl
      · rw [hstate]
    have halone := h.alone ⟨g, ranked'⟩
    have hcall : (⟨g, ranked⟩ : Call) ≠ ⟨g, ranked'⟩ := fun h => hne (Call.mk.inj h).2
    simp only [traceOf, trace, filter_cons, hcall, decide_false, decide_true,
      Bool.false_eq_true, if_true, if_false, filter_nil, cons.injEq, and_true] at halone
    have hfirst : (next ∅ g ranked').2 = some 0 := next_first hn'
    have hbad : (next (next ∅ g ranked).1 g ranked').2 = (next ∅ g ranked').2 := halone
    rw [hsecond, hfirst] at hbad
    cases hbad

lemma disturbed_of_other (hn : 2 ≤ ranked.length) (hn' : 2 ≤ ranked'.length)
    (hfp : fingerprint ranked ≠ fingerprint ranked') :
    ¬ Undisturbed [⟨g, ranked⟩, ⟨g, ranked'⟩, ⟨g, ranked⟩] := by
  intro h
  have hne : ranked ≠ ranked' := fun heq => hfp (congrArg fingerprint heq)
  have hcall : (⟨g, ranked'⟩ : Call) ≠ ⟨g, ranked⟩ := fun h => hne (Call.mk.inj h).2.symm
  have halone := h.alone ⟨g, ranked⟩
  simp only [traceOf, trace, filter_cons, hcall, decide_false, decide_true,
    Bool.false_eq_true, if_true, if_false, filter_nil, cons.injEq, and_true, true_and] at halone
  have hthird : (next (next (next ∅ g ranked).1 g ranked').1 g ranked).2 = some 0 := by
    have hstored : ((advance ((next ∅ g ranked).1.lookup g) ranked').1).fingerprint ≠
        fingerprint ranked := by
      rw [advance_fingerprint]
      exact Ne.symm hfp
    obtain ⟨l, heq, -⟩ := first_pick hn (stateFor_other hstored)
    rw [next_answer hn, lookup_next_self hn', heq]
  have hsecond : (next (next ∅ g ranked).1 g ranked).2 = some 1 := by
    obtain ⟨l, heq, hl⟩ := first_pick hn (stateFor_none ranked)
    rw [next_answer hn, lookup_next_self hn, lookup_empty, heq]
    apply second_pick hn hl
    rw [stateFor_same rfl]
  have hbad : (next (next (next ∅ g ranked).1 g ranked').1 g ranked).2 =
      (next (next ∅ g ranked).1 g ranked).2 := halone
  rw [hthird, hsecond] at hbad
  cases hbad

end

lemma separate_of_undisturbed {P : String → List String → Prop}
    (h : ∀ calls : List Call, (∀ c ∈ calls, P c.group c.ranked) → Undisturbed calls) :
    Separate P := by
  refine ⟨?_, ?_⟩
  · intro g ranked hranked hempty
    have hrun := h [⟨g, ranked⟩] (by
      intro c hc
      rw [mem_singleton.mp hc]
      exact hranked)
    obtain ⟨i, -, hi⟩ := hrun.inRange [] ⟨g, ranked⟩ [] rfl
    rw [hempty] at hi
    exact Nat.not_lt_zero i hi
  · intro g ranked ranked' hranked hranked' hn hn'
    by_contra hne
    have hmem : ∀ calls : List Call, (∀ c ∈ calls, c = ⟨g, ranked⟩ ∨ c = ⟨g, ranked'⟩) →
        Undisturbed calls := by
      intro calls hcalls
      apply h
      intro c hc
      rcases hcalls c hc with rfl | rfl
      · exact hranked
      · exact hranked'
    by_cases hfp : fingerprint ranked = fingerprint ranked'
    · rcases Nat.le_total ranked.length ranked'.length with hle | hle
      · exact disturbed_of_same (g := g) hne hn hle hfp (hmem _ (by simp))
      · exact disturbed_of_same (g := g) (Ne.symm hne) hn' hle hfp.symm (hmem _ (by simp))
    · exact disturbed_of_other (g := g) hn hn' hfp (hmem _ (by simp))

theorem undisturbed_iff (P : String → List String → Prop) :
    (∀ calls : List Call, (∀ c ∈ calls, P c.group c.ranked) → Undisturbed calls) ↔ Separate P := by
  constructor
  · exact separate_of_undisturbed
  · intro hP calls hcalls
    exact undisturbed_of_separate hP hcalls

theorem spread_disturbed :
    ¬ Undisturbed [⟨"fast", ["a", "b"]⟩, ⟨"fast", ["a", "c"]⟩, ⟨"fast", ["a", "b"]⟩] ∧
      balancer.trace ∅ [⟨"fast", ["a", "b"]⟩, ⟨"fast", ["a", "c"]⟩, ⟨"fast", ["a", "b"]⟩,
        ⟨"fast", ["a", "c"]⟩] = [some 0, some 0, some 0, some 0] ∧
      balancer.trace ∅ [⟨"fast", ["a\x00b", "c"]⟩, ⟨"fast", ["a", "b", "c"]⟩] = [some 0, none] := by
  refine ⟨?_, ?_, ?_⟩
  · apply disturbed_of_other (by decide) (by decide)
    decide
  · decide
  · decide

end FfxNexus.Balancer
