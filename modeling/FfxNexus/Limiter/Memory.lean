/-
**The in-memory request limiter** (`internal/limiter/memory.go`, `limiter.go`).
-/
import FfxNexus.Calendar
import FfxNexus.Go
import FfxNexus.Sorting
import Mathlib.Data.Set.Card

namespace FfxNexus.Limiter.Memory
open Go Calendar List AList Machine

def minuteOf (t : ℤ) : ℤ := t / 60000000000

def minuteWindow (t : ℤ) : String := String.ofList (minuteStamp (minuteOf t))

def rpmKey (keyID win : String) : String := "nexus:rpm:" ++ keyID ++ ":" ++ win

abbrev Rpm : Type := GoMap String ℤ

abbrev Order : Type := (keys : List String) → { order : List String // order.Perm keys }

variable (k : String) (order : Order)

def purge (order : List String) (rpm : Rpm) : Rpm :=
  order.foldl
    (fun rpm existing => if existing ≠ k ∧ 10000 < rpm.keys.length then rpm.erase existing else rpm)
    rpm

def allow (rpm : Rpm) (now : ℤ) (keyID : String) (rpmLimit : ℤ) (order : Order) : Rpm × Bool :=
  if rpmLimit ≤ 0 then (rpm, true)
  else
    let k := rpmKey keyID (minuteWindow now)
    let rpm := purge k (order rpm.keys) rpm
    let n := (rpm.lookup k).getD 0 + 1
    (rpm.insert k n, n ≤ rpmLimit)

structure Call where
  now : ℤ
  keyID : String
  rpmLimit : ℤ
  order : Order

def memory : Machine Rpm Call Bool where
  step rpm c := allow rpm c.now c.keyID c.rpmLimit c.order

def Clocked (calls : List Call) : Prop := calls.Pairwise fun c c' => c.now ≤ c'.now

def Limited (calls : List Call) : Prop :=
  ∀ (keyID : String) (minute rpmLimit : ℤ), 0 < rpmLimit →
    ((memory.traceOf (fun c => c.keyID = keyID ∧ minuteOf c.now = minute ∧ c.rpmLimit = rpmLimit) ∅
      calls).count true : ℤ) ≤ rpmLimit

abbrev Pair : Type := String × ℤ

def name (p : Pair) : String := rpmKey p.1 (String.ofList (minuteStamp p.2))

lemma name_injective : Function.Injective name := by
  rintro ⟨k, m⟩ ⟨k', m'⟩ h
  unfold name rpmKey at h
  have hlist := congrArg String.toList h
  simp only [String.toList_append, append_assoc] at hlist
  have hrest := append_cancel_left hlist
  have hcolon : ∀ minute : ℤ, ':' ∉ (minuteStamp minute).reverse := by
    intro minute hmem
    exact not_mem_minuteStamp minute (by decide) (by decide) (mem_reverse.mp hmem)
  have hreverse : (minuteStamp m).reverse ++ ':' :: k.toList.reverse =
      (minuteStamp m').reverse ++ ':' :: k'.toList.reverse := by
    have := congrArg reverse hrest
    simpa using this
  obtain ⟨hstamp, hkey⟩ := Framing.append_sep_inj (hcolon m) (hcolon m') hreverse
  have hminute := minuteStamp_injective (reverse_injective hstamp)
  have hkey := String.toList_injective (reverse_injective hkey)
  rw [hminute, hkey]

lemma lookup_purge_self (order : List String) (rpm : Rpm) :
    (purge k order rpm).lookup k = rpm.lookup k := by
  unfold purge
  induction order generalizing rpm with
  | nil => rfl
  | cons existing order ih =>
    rw [foldl_cons, ih]
    by_cases hdrop : existing ≠ k ∧ 10000 < rpm.keys.length
    · rw [if_pos hdrop, lookup_erase_ne (Ne.symm hdrop.1)]
    · rw [if_neg hdrop]

variable {rpm : Rpm}

lemma mem_of_mem_purge {k : String} {order : List String} {k' : String}
    (h : k' ∈ (purge k order rpm).keys) : k' ∈ rpm.keys := by
  unfold purge at h
  induction order generalizing rpm with
  | nil => exact h
  | cons existing order ih =>
    rw [foldl_cons] at h
    have hmem := ih h
    by_cases hdrop : existing ≠ k ∧ 10000 < rpm.keys.length
    · rw [if_pos hdrop] at hmem
      exact (mem_erase.mp hmem).2
    · rwa [if_neg hdrop] at hmem

lemma purge_of_few (order : List String) (h : rpm.keys.length ≤ 10000) :
    purge k order rpm = rpm := by
  unfold purge
  induction order with
  | nil => rfl
  | cons existing order ih =>
    rw [foldl_cons, if_neg (by omega)]
    exact ih

lemma purge_of_full {k existing : String} {order : List String} (hlen : rpm.keys.length = 10001)
    (hne : existing ≠ k) (hmem : existing ∈ rpm.keys) :
    purge k (existing :: order) rpm = rpm.erase existing := by
  have hdrop : existing ≠ k ∧ 10000 < rpm.keys.length := ⟨hne, by omega⟩
  have hrest : (rpm.erase existing).keys.length ≤ 10000 := by
    rw [keys_erase, length_erase_of_mem hmem]
    omega
  have hcons : purge k (existing :: order) rpm = purge k order (rpm.erase existing) := by
    unfold purge
    rw [foldl_cons, if_pos hdrop]
  rw [hcons, purge_of_few k order hrest]

def counter (rpm : Rpm) (p : Pair) : ℤ := (rpm.lookup (name p)).getD 0

def Call.pair (c : Call) : Pair := (c.keyID, minuteOf c.now)

variable {c : Call}

lemma step_unlimited (h : c.rpmLimit ≤ 0) (rpm : Rpm) : memory.step rpm c = (rpm, true) := by
  show allow rpm c.now c.keyID c.rpmLimit c.order = _
  unfold allow
  rw [if_pos h]

lemma step_limited (h : 0 < c.rpmLimit) (rpm : Rpm) :
    memory.step rpm c = ((purge (name c.pair) (c.order rpm.keys) rpm).insert (name c.pair)
      (counter rpm c.pair + 1), decide (counter rpm c.pair + 1 ≤ c.rpmLimit)) := by
  show allow rpm c.now c.keyID c.rpmLimit c.order = _
  have hkey : rpmKey c.keyID (minuteWindow c.now) = name c.pair := rfl
  unfold allow
  rw [if_neg (not_le.mpr h)]
  dsimp only
  rw [lookup_purge_self]
  rfl

lemma counter_step_self (h : 0 < c.rpmLimit) (rpm : Rpm) :
    counter (memory.step rpm c).1 c.pair = counter rpm c.pair + 1 := by
  rw [step_limited h]
  unfold counter
  rw [lookup_insert, Option.getD_some]

variable {p : Pair}

lemma counter_step_other (h : 0 < c.rpmLimit) (rpm : Rpm) (hp : p ≠ c.pair) :
    counter (memory.step rpm c).1 p = counter (purge (name c.pair) (c.order rpm.keys) rpm) p := by
  have hname : name p ≠ name c.pair := fun heq => hp (name_injective heq)
  rw [step_limited h]
  unfold counter
  rw [lookup_insert_ne hname]

lemma counter_eq_zero (h : name p ∉ rpm.keys) : counter rpm p = 0 := by
  unfold counter
  rw [lookup_eq_none.mpr h, Option.getD_none]

/-- **The condition**: in a minute with two keys, there are no more than 10000 pairs up to that
minute. -/
def Roomy (U : Set Pair) : Prop :=
  ∀ a b minute, (a, minute) ∈ U → (b, minute) ∈ U → a ≠ b →
    {p ∈ U | p.2 ≤ minute}.encard ≤ 10000

def Uses (U : Set Pair) (calls : List Call) : Prop := ∀ c ∈ calls, 0 < c.rpmLimit → c.pair ∈ U

def Known (U : Set Pair) (rpm : Rpm) (minute : ℤ) : Prop :=
  ∀ k ∈ rpm.keys, ∃ p ∈ U, p.2 ≤ minute ∧ name p = k

section
variable {U : Set Pair}
variable {rpm : Rpm}

lemma Known.mono {m m' : ℤ} (h : Known U rpm m) (hm : m ≤ m') : Known U rpm m' := by
  intro k hk
  obtain ⟨p, hp, hle, hname⟩ := h k hk
  exact ⟨p, hp, le_trans hle hm, hname⟩

lemma known_step {c : Call} (h : Known U rpm (minuteOf c.now))
    (hc : 0 < c.rpmLimit → c.pair ∈ U) : Known U (memory.step rpm c).1 (minuteOf c.now) := by
  by_cases hlimit : 0 < c.rpmLimit
  · intro k hk
    rw [step_limited hlimit, AList.mem_keys.symm, AList.mem_insert] at hk
    rcases hk with rfl | hk
    · exact ⟨c.pair, hc hlimit, le_refl _, rfl⟩
    · exact h k (mem_of_mem_purge hk)
  · rw [step_unlimited (not_lt.mp hlimit)]
    exact h

lemma length_keys_le {minute : ℤ} (h : Known U rpm minute) {n : ℕ}
    (hn : {p ∈ U | p.2 ≤ minute}.encard ≤ n) : rpm.keys.length ≤ n := by
  have hsub : (rpm.keys.toFinset : Set String) ⊆ name '' {p ∈ U | p.2 ≤ minute} := by
    intro k hk
    rw [Finset.mem_coe, mem_toFinset] at hk
    obtain ⟨p, hp, hle, hname⟩ := h k hk
    exact ⟨p, ⟨hp, hle⟩, hname⟩
  have hcard : (rpm.keys.toFinset.card : ℕ∞) ≤ n := by
    rw [← Set.encard_coe_eq_coe_finsetCard]
    exact le_trans (Set.encard_le_encard hsub) (le_trans (Set.encard_image_le _ _) hn)
  rw [toFinset_card_of_nodup rpm.keys_nodup] at hcard
  exact_mod_cast hcard

lemma counter_kept (hU : Roomy U) {c : Call} (hknown : Known U rpm (minuteOf c.now))
    (hlimit : 0 < c.rpmLimit) (hc : c.pair ∈ U) {p : Pair} (hp : p ≠ c.pair)
    (hminute : minuteOf c.now ≤ p.2) : counter (memory.step rpm c).1 p = counter rpm p := by
  rw [counter_step_other hlimit rpm hp]
  by_cases hmem : name p ∈ rpm.keys
  · -- the count is there, so that its minute has come: two keys are used in it
    obtain ⟨q, hq, hle, hname⟩ := hknown _ hmem
    have hqp := name_injective hname
    subst hqp
    have hnow : q.2 = minuteOf c.now := le_antisymm hle hminute
    have hkeys : q.1 ≠ c.keyID := by
      intro heq
      exact hp (Prod.ext heq hnow)
    have hroom := hU q.1 c.keyID (minuteOf c.now) (hnow ▸ hq) hc hkeys
    rw [purge_of_few _ _ (length_keys_le hknown hroom)]
  · rw [counter_eq_zero hmem, counter_eq_zero fun h => hmem (mem_of_mem_purge h)]

lemma count_passed_le (hU : Roomy U) (p : Pair) {limit : ℤ} (hpos : 0 < limit) {calls : List Call}
    (hclock : Clocked calls) (huses : Uses U calls)
    (hknown : ∀ c ∈ calls, Known U rpm (minuteOf c.now)) : ((memory.traceOf
      (fun c => c.keyID = p.1 ∧ minuteOf c.now = p.2 ∧ c.rpmLimit = limit) rpm
      calls).count true : ℤ) ≤ max 0 (limit - counter rpm p) := by
  induction calls generalizing rpm with
  | nil => exact le_max_left _ _
  | cons c calls ih =>
    obtain ⟨hfirst, hrest⟩ := pairwise_cons.mp hclock
    have hnow := hknown c mem_cons_self
    have huse := huses c mem_cons_self
    have hminute : ∀ c' ∈ calls, minuteOf c.now ≤ minuteOf c'.now :=
      fun c' hc' => Int.ediv_le_ediv (by norm_num) (hfirst c' hc')
    have htail := ih hrest (fun c' hc' => huses c' (mem_cons_of_mem c hc'))
      (fun c' hc' => (known_step hnow huse).mono (hminute c' hc'))
    rcases le_or_gt c.rpmLimit 0 with hfree | hlimit
    · -- a call without a limit is none of these, and counts nothing
      have hother : ¬ (c.keyID = p.1 ∧ minuteOf c.now = p.2 ∧ c.rpmLimit = limit) := by
        rintro ⟨-, -, heq⟩
        omega
      rw [step_unlimited hfree] at htail
      rw [traceOf, if_neg (by rw [decide_eq_true_eq]; exact hother),
        step_unlimited hfree]
      exact htail
    · by_cases hpair : p = c.pair
      · rw [hpair, counter_step_self hlimit] at htail
        rw [hpair, traceOf]
        by_cases hsame : c.keyID = c.pair.1 ∧ minuteOf c.now = c.pair.2 ∧ c.rpmLimit = limit
        · have hanswer : (memory.step rpm c).2 = decide (counter rpm c.pair + 1 ≤ limit) := by
            rw [step_limited hlimit, hsame.2.2]
          rw [if_pos (by rw [decide_eq_true_eq]; exact hsame), hanswer]
          by_cases hroom : counter rpm c.pair + 1 ≤ limit
          · rw [decide_eq_true hroom, count_cons_self]
            omega
          · rw [decide_eq_false hroom, count_cons_of_ne Bool.false_ne_true]
            omega
        · rw [if_neg (by rw [decide_eq_true_eq]; exact hsame)]
          omega
      · have hother : ¬ (c.keyID = p.1 ∧ minuteOf c.now = p.2 ∧ c.rpmLimit = limit) := by
          rintro ⟨hkey, hmin, -⟩
          exact hpair (Prod.ext hkey.symm hmin.symm)
        rcases le_or_gt (minuteOf c.now) p.2 with hle | hlate
        · rw [counter_kept hU hnow hlimit (huse hlimit) hpair hle] at htail
          rw [traceOf, if_neg (by rw [decide_eq_true_eq]; exact hother)]
          exact htail
        have hnone : ∀ c' ∈ c :: calls,
            decide (c'.keyID = p.1 ∧ minuteOf c'.now = p.2 ∧ c'.rpmLimit = limit) = false := by
          intro c' hc'
          rw [decide_eq_false_iff_not]
          rintro ⟨-, hmin, -⟩
          rcases mem_cons.mp hc' with rfl | hc'
          · omega
          · have := hminute c' hc'
            omega
        rw [traceOf_eq_nil _ _ hnone]
        exact le_max_left _ _

end

def useIn (p : Pair) : Call := ⟨p.2 * 60000000000, p.1, 1, order⟩

def inOrder : Order := fun keys => ⟨keys, .refl keys⟩

def first : Order := fun keys =>
  if h : k ∈ keys then ⟨k :: keys.erase k, (List.perm_cons_erase h).symm⟩ else ⟨keys, .refl keys⟩

lemma useIn_pair (p : Pair) : (useIn order p).pair = p := by
  unfold Call.pair useIn minuteOf
  rw [Int.mul_ediv_cancel _ (by norm_num)]

lemma useIn_limited (p : Pair) : 0 < (useIn order p).rpmLimit := one_pos

lemma useIn_selected (p : Pair) (a : String) (minute : ℤ) :
    ((useIn order p).keyID = a ∧ minuteOf (useIn order p).now = minute ∧
      (useIn order p).rpmLimit = 1) ↔ p = (a, minute) := by
  have hminute : minuteOf (useIn order p).now = p.2 := congrArg Prod.snd (useIn_pair order p)
  have hkey : (useIn order p).keyID = p.1 := rfl
  rw [hminute, Prod.ext_iff]
  exact ⟨fun h => ⟨h.1, h.2.1⟩, fun h => ⟨h.1, h.2, rfl⟩⟩

variable {l : List Pair}

lemma keys_run_use (hl : l.Nodup) (hlen : l.length ≤ 10000) :
    (memory.run ∅ (l.map (useIn inOrder))).keys.length = l.length ∧
      ∀ k, k ∈ (memory.run ∅ (l.map (useIn inOrder))).keys ↔ k ∈ l.map name := by
  induction l using reverseRecOn with
  | nil => exact ⟨rfl, fun k => by simp⟩
  | append_singleton l p ih =>
    rw [length_append] at hlen
    obtain ⟨hnodup, -, hdisjoint⟩ := nodup_append.mp hl
    obtain ⟨hcount, hmem⟩ := ih hnodup (by omega)
    have hnew : name p ∉ (memory.run ∅ (l.map (useIn inOrder))).keys := by
      rw [hmem]
      intro hin
      obtain ⟨q, hq, heq⟩ := mem_map.mp hin
      exact hdisjoint q hq p (mem_singleton.mpr rfl) (name_injective heq)
    rw [map_append, map_singleton, run_snoc, step_limited (useIn_limited _ _),
      useIn_pair, purge_of_few _ _ (by omega)]
    constructor
    · rw [keys_insert, length_cons, erase_of_not_mem hnew, hcount,
        length_append, length_singleton]
    · intro k
      rw [keys_insert, mem_cons, erase_of_not_mem hnew, hmem, map_append,
        mem_append, map_singleton, mem_singleton]
      exact or_comm

def overflow (l : List Pair) (a b : String) (minute : ℤ) : List Call :=
  l.map (useIn inOrder) ++ [useIn inOrder (a, minute), useIn (first (name (a, minute))) (b, minute),
    useIn inOrder (a, minute)]

variable {minute : ℤ}

lemma not_limited_overflow (hl : l.Nodup) (hlen : l.length = 10000) {a b : String}
    (hfresh : (a, minute) ∉ l) (hab : a ≠ b) : ¬ Limited (overflow l a b minute) := by
  intro h
  obtain ⟨hcount, hmem⟩ := keys_run_use hl (by omega)
  have hnew : name (a, minute) ∉ (memory.run ∅ (l.map (useIn inOrder))).keys := by
    rw [hmem]
    intro hin
    obtain ⟨q, hq, heq⟩ := mem_map.mp hin
    exact hfresh (name_injective heq ▸ hq)
  generalize hrpm : memory.run ∅ (l.map (useIn inOrder)) = rpm at hcount hnew
  have hone : memory.step rpm (useIn inOrder (a, minute)) =
      (rpm.insert (name (a, minute)) 1, true) := by
    rw [step_limited (useIn_limited _ _), useIn_pair, purge_of_few _ _ (by omega),
      counter_eq_zero hnew]
    rfl
  have hfull : (rpm.insert (name (a, minute)) 1).keys.length = 10001 := by
    rw [keys_insert, length_cons, erase_of_not_mem hnew]
    omega
  have hin : name (a, minute) ∈ (rpm.insert (name (a, minute)) 1).keys := by
    exact mem_cons_self
  have hpair : (a, minute) ≠ (b, minute) := fun heq => hab (Prod.mk.inj heq).1
  have hdropped : counter (memory.step (rpm.insert (name (a, minute)) 1)
      (useIn (first (name (a, minute))) (b, minute))).1 (a, minute) = 0 := by
    have horder : ((useIn (first (name (a, minute))) (b, minute)).order
        (rpm.insert (name (a, minute)) 1).keys : List String) =
        name (a, minute) :: (rpm.insert (name (a, minute)) 1).keys.erase (name (a, minute)) := by
      unfold useIn first
      dsimp only
      rw [dif_pos hin]
    rw [counter_step_other (useIn_limited _ _) _ (by rw [useIn_pair]; exact hpair), useIn_pair,
      horder, purge_of_full hfull (fun heq => hpair (name_injective heq)) hin]
    apply counter_eq_zero
    rw [keys_erase]
    exact fun hmem' => (List.Nodup.mem_erase_iff (keys_nodup _)).mp hmem' |>.1 rfl
  have hagain : ∀ rpm', counter rpm' (a, minute) = 0 →
      (memory.step rpm' (useIn inOrder (a, minute))).2 = true := by
    intro rpm' hzero
    rw [step_limited (useIn_limited _ _), useIn_pair, hzero]
    rfl
  have htwo := h a minute 1 one_pos
  have hbefore : ∀ c ∈ l.map (useIn inOrder),
      decide (c.keyID = a ∧ minuteOf c.now = minute ∧ c.rpmLimit = 1) = false := by
    intro c hc
    obtain ⟨q, hq, rfl⟩ := mem_map.mp hc
    rw [decide_eq_false_iff_not, useIn_selected]
    rintro rfl
    exact hfresh hq
  have hself : decide ((useIn inOrder (a, minute)).keyID = a ∧
      minuteOf (useIn inOrder (a, minute)).now = minute ∧
      (useIn inOrder (a, minute)).rpmLimit = 1) = true := by
    rw [decide_eq_true_eq, useIn_selected]
  have hother : decide ((useIn (first (name (a, minute))) (b, minute)).keyID = a ∧
      minuteOf (useIn (first (name (a, minute))) (b, minute)).now = minute ∧
      (useIn (first (name (a, minute))) (b, minute)).rpmLimit = 1) = false := by
    rw [decide_eq_false_iff_not, useIn_selected]
    exact Ne.symm hpair
  unfold overflow at htwo
  rw [traceOf_append, traceOf_eq_nil _ _ hbefore, hrpm] at htwo
  simp only [traceOf, hself, hother, if_true, Bool.false_eq_true, if_false, hone,
    hagain _ hdropped] at htwo
  norm_num at htwo

lemma clocked_overflow (hl : l.Pairwise fun p q => p.2 ≤ q.2) (hle : ∀ p ∈ l, p.2 ≤ minute)
    (a b : String) : Clocked (overflow l a b minute) := by
  have hnow : ∀ {order order' : Order} {p q : Pair}, p.2 ≤ q.2 →
      (useIn order p).now ≤ (useIn order' q).now := by
    intro order order' p q hpq
    show p.2 * 60000000000 ≤ q.2 * 60000000000
    omega
  unfold Clocked overflow
  rw [pairwise_append]
  refine ⟨?_, ?_, ?_⟩
  · rw [pairwise_map]
    exact hl.imp fun hpq => hnow hpq
  · simp only [pairwise_cons, mem_cons, not_mem_nil, or_false, forall_eq_or_imp,
      forall_eq, List.Pairwise.nil, and_true, false_imp_iff, implies_true]
    exact ⟨⟨hnow (le_refl _), hnow (le_refl _)⟩, hnow (le_refl _)⟩
  intro c hc c' hc'
  obtain ⟨p, hp, rfl⟩ := mem_map.mp hc
  simp only [mem_cons, not_mem_nil, or_false] at hc'
  rcases hc' with rfl | rfl | rfl
  · exact hnow (hle p hp)
  · exact hnow (hle p hp)
  · exact hnow (hle p hp)

lemma uses_overflow {U : Set Pair} (hl : ∀ p ∈ l, p ∈ U) {a b : String} (ha : (a, minute) ∈ U)
    (hb : (b, minute) ∈ U) : Uses U (overflow l a b minute) := by
  intro c hc _
  unfold overflow at hc
  rw [mem_append] at hc
  rcases hc with hc | hc
  · obtain ⟨p, hp, rfl⟩ := mem_map.mp hc
    rw [useIn_pair]
    exact hl p hp
  simp only [mem_cons, not_mem_nil, or_false] at hc
  rcases hc with rfl | rfl | rfl
  · rwa [useIn_pair]
  · rwa [useIn_pair]
  · rwa [useIn_pair]

lemma exists_sorted {S : Set Pair} (hS : ¬ S.encard ≤ 10000) (p : Pair) :
    ∃ l : List Pair, l.Nodup ∧ l.length = 10000 ∧ p ∉ l ∧ (∀ q ∈ l, q ∈ S) ∧
      l.Pairwise fun q q' => q.2 ≤ q'.2 := by
  have hmany : (10001 : ℕ) ≤ S.encard := by
    have hlt : ((10000 : ℕ) : ℕ∞) < S.encard := by exact_mod_cast not_le.mp hS
    exact_mod_cast Order.add_one_le_of_lt hlt
  obtain ⟨t, hsub, hcard⟩ := Set.exists_subset_encard_eq hmany
  have hfin : t.Finite := Set.finite_of_encard_eq_coe hcard
  have hkey : Sorting.ByKey (fun q q' : Pair => q.2 ≤ q'.2) Prod.snd := fun _ _ => Iff.rfl
  have hperm := perm_insertionSort (fun q q' : Pair => q.2 ≤ q'.2)
    (hfin.toFinset.erase p).toList
  have hlen : 10000 ≤ ((hfin.toFinset.erase p).toList.insertionSort
      fun q q' : Pair => q.2 ≤ q'.2).length := by
    have hF : hfin.toFinset.card = 10001 := by
      have := hfin.encard_eq_coe_toFinset_card
      rw [hcard] at this
      exact_mod_cast this.symm
    have hle := Finset.pred_card_le_card_erase (s := hfin.toFinset) (a := p)
    rw [hperm.length_eq, Finset.length_toList]
    omega
  have hmem : ∀ q ∈ ((hfin.toFinset.erase p).toList.insertionSort
      fun q q' : Pair => q.2 ≤ q'.2).take 10000, q ≠ p ∧ q ∈ S := by
    intro q hq
    have hq := hperm.mem_iff.mp (mem_of_mem_take hq)
    rw [Finset.mem_toList, Finset.mem_erase, Set.Finite.mem_toFinset] at hq
    exact ⟨hq.1, hsub hq.2⟩
  refine ⟨_, ?_, ?_, ?_, fun q hq => (hmem q hq).2, ?_⟩
  · exact (hperm.nodup_iff.mpr (Finset.nodup_toList _)).sublist (take_sublist _ _)
  · rw [length_take]
    omega
  · exact fun hp => (hmem p hp).1 rfl
  · exact (hkey.pairwise _).sublist (take_sublist _ _)

theorem rpm_limited_iff (U : Set Pair) :
    (∀ calls : List Call, Clocked calls → Uses U calls → Limited calls) ↔ Roomy U := by
  constructor
  · intro h a b minute ha hb hab
    by_contra hmany
    obtain ⟨l, hnodup, hlen, hfresh, hl, hsorted⟩ := exists_sorted hmany (a, minute)
    exact not_limited_overflow hnodup hlen hfresh hab
      (h _ (clocked_overflow hsorted (fun p hp => (hl p hp).2) a b)
        (uses_overflow (fun p hp => (hl p hp).1) ha hb))
  · intro hU calls hclock huses keyID minute rpmLimit hpos
    have hknown : ∀ c ∈ calls, Known U ∅ (minuteOf c.now) := by
      intro c _ k hk
      simp at hk
    have hbound := count_passed_le hU (keyID, minute) hpos hclock huses hknown
    have hzero : counter ∅ (keyID, minute) = 0 := counter_eq_zero (by simp)
    rw [hzero, sub_zero, max_eq_right hpos.le] at hbound
    exact hbound

def busyWeek : List Pair :=
  (List.range 10000).map fun i : ℕ => ("a", 1064521440 + (i : ℤ))

lemma mem_busyWeek (hp : p ∈ busyWeek) : ∃ i : ℕ, i < 10000 ∧ p = ("a", 1064521440 + (i : ℤ)) := by
  obtain ⟨i, hi, rfl⟩ := mem_map.mp hp
  exact ⟨i, mem_range.mp hi, rfl⟩

theorem counter_lost : Clocked (overflow busyWeek "a" "b" (1064521440 + 10000)) ∧
      ¬ Limited (overflow busyWeek "a" "b" (1064521440 + 10000)) := by
  constructor
  · apply clocked_overflow
    · unfold busyWeek
      rw [pairwise_map]
      refine pairwise_lt_range.imp fun {i j} hij => ?_
      show (1064521440 : ℤ) + i ≤ 1064521440 + j
      omega
    · intro p hp
      obtain ⟨i, hi, rfl⟩ := mem_busyWeek hp
      show (1064521440 : ℤ) + i ≤ 1064521440 + 10000
      omega
  · apply not_limited_overflow
    · refine nodup_range.map fun i j hij => ?_
      have := (Prod.mk.inj hij).2
      omega
    · unfold busyWeek
      rw [length_map, length_range]
    · intro hmem
      obtain ⟨i, hi, heq⟩ := mem_busyWeek hmem
      have := (Prod.mk.inj heq).2
      omega
    · decide

end FfxNexus.Limiter.Memory
