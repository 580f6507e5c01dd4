/-
**A protocol of blocks.** A writer opens blocks, each with a name and a kind, feeds them and closes
them, and the reader tells them apart by name only.
-/
import Mathlib.Data.List.Nodup

namespace FfxNexus.BlockProtocol
open List

inductive Mark (ι κ : Type) where
  | start (i : ι) (k : κ)
  | delta (i : ι) (k : κ)
  | stop (i : ι)

variable {ι κ : Type}

def Mark.started? : Mark ι κ → Option (ι × κ)
  | .start i k => some (i, k)
  | _ => none

def Mark.stopped? : Mark ι κ → Option ι
  | .stop i => some i
  | _ => none

variable (ms : List (Mark ι κ))

def started : List (ι × κ) := ms.filterMap Mark.started?

def names : List ι := (started ms).map Prod.fst

def stopped : List ι := ms.filterMap Mark.stopped?

structure Valid [DecidableEq ι] (ms : List (Mark ι κ)) : Prop where
  fresh : (names ms).Nodup
  fed : ∀ before i k after, ms = before ++ .delta i k :: after →
    (i, k) ∈ started before ∧ i ∉ stopped before
  closed : ∀ before i after, ms = before ++ .stop i :: after → i ∈ names before
  once : ∀ i ∈ names ms, (stopped ms).count i = 1

structure Feeding (ms : List (Mark ι κ)) : Prop where
  fresh : (names ms).Nodup
  fed : ∀ before i k after, ms = before ++ .delta i k :: after → (i, k) ∈ started before

variable (ms ns : List (Mark ι κ))

@[simp] lemma started_append :
    started (ms ++ ns) = started ms ++ started ns := filterMap_append

@[simp] lemma names_append : names (ms ++ ns) = names ms ++ names ns := by
  simp [names]

@[simp] lemma stopped_append :
    stopped (ms ++ ns) = stopped ms ++ stopped ns := filterMap_append

section
variable (i : ι) (k : κ) (ms : List (Mark ι κ))

@[simp] lemma started_nil : started ([] : List (Mark ι κ)) = [] := rfl

@[simp] lemma started_start : started (.start i k :: ms) = (i, k) :: started ms := rfl

@[simp] lemma started_delta : started (.delta i k :: ms) = started ms := rfl

@[simp] lemma names_nil : names ([] : List (Mark ι κ)) = [] := rfl

@[simp] lemma names_start : names (.start i k :: ms) = i :: names ms := rfl

@[simp] lemma names_delta : names (.delta i k :: ms) = names ms := rfl

@[simp] lemma stopped_nil : stopped ([] : List (Mark ι κ)) = [] := rfl

@[simp] lemma stopped_start : stopped (.start i k :: ms) = stopped ms := rfl

@[simp] lemma stopped_delta : stopped (.delta i k :: ms) = stopped ms := rfl

@[simp] lemma stopped_stop : stopped (.stop i :: ms) = i :: stopped ms := rfl

end

@[simp] lemma started_stops (is : List ι) : started (is.map (Mark.stop : ι → Mark ι κ)) = [] := by
  induction is with
  | nil => rfl
  | cons i is ih => exact ih

@[simp] lemma stopped_stops (is : List ι) : stopped (is.map (Mark.stop : ι → Mark ι κ)) = is := by
  induction is with
  | nil => rfl
  | cons i is ih => exact congrArg (i :: ·) ih

lemma feeding_nil : Feeding ([] : List (Mark ι κ)) := by
  refine ⟨nodup_nil, ?_⟩
  intro before i k after heq
  simp at heq

lemma snoc_eq_append_cons {ms before after : List (Mark ι κ)} {m x : Mark ι κ} :
    ms ++ [m] = before ++ x :: after ↔ (after = [] ∧ before = ms ∧ x = m) ∨
        ∃ after', after = after' ++ [m] ∧ ms = before ++ x :: after' := by
  constructor
  · intro heq
    rcases eq_nil_or_concat after with rfl | ⟨after', m', rfl⟩
    · obtain ⟨rfl, hm⟩ := append_inj' heq rfl
      obtain rfl := singleton_inj.mp hm
      exact .inl ⟨rfl, rfl, rfl⟩
    rw [concat_eq_append] at heq ⊢
    have hsplit : ms ++ [m] = (before ++ x :: after') ++ [m'] := by simpa using heq
    obtain ⟨rfl, hm⟩ := append_inj' hsplit rfl
    obtain rfl := singleton_inj.mp hm
    exact .inr ⟨after', rfl, rfl⟩
  · rintro (⟨rfl, rfl, rfl⟩ | ⟨after', rfl, rfl⟩)
    · rfl
    · simp

lemma feeding_start_iff {ms : List (Mark ι κ)} {i : ι} {k : κ} :
    Feeding (ms ++ [.start i k]) ↔ Feeding ms ∧ i ∉ names ms := by
  have hnames : names (ms ++ [Mark.start i k]) = names ms ++ [i] := by
    rw [names_append, names_start, names_nil]
  have hnodup : (names ms ++ [i]).Nodup ↔ i ∉ names ms ∧ (names ms).Nodup := by
    rw [← concat_eq_append, nodup_concat]
  constructor
  · intro hfeed
    have hfresh := hfeed.fresh
    rw [hnames, hnodup] at hfresh
    refine ⟨⟨hfresh.2, ?_⟩, hfresh.1⟩
    intro before j k' after heq
    exact hfeed.fed before j k' (after ++ [.start i k]) (by rw [heq]; simp)
  · rintro ⟨hfeed, hnew⟩
    refine ⟨?_, ?_⟩
    · rw [hnames, hnodup]
      exact ⟨hnew, hfeed.fresh⟩
    intro before j k' after heq
    rcases snoc_eq_append_cons.mp heq with ⟨-, -, hm⟩ | ⟨after', -, hms⟩
    · cases hm
    · exact hfeed.fed before j k' after' hms

lemma feeding_delta_iff {ms : List (Mark ι κ)} {i : ι} {k : κ} :
    Feeding (ms ++ [.delta i k]) ↔ Feeding ms ∧ (i, k) ∈ started ms := by
  have hnames : names (ms ++ [Mark.delta i k]) = names ms := by
    rw [names_append, names_delta, names_nil, append_nil]
  constructor
  · intro hfeed
    refine ⟨⟨hnames ▸ hfeed.fresh, ?_⟩, hfeed.fed ms i k [] rfl⟩
    intro before j k' after heq
    exact hfeed.fed before j k' (after ++ [.delta i k]) (by rw [heq]; simp)
  · rintro ⟨hfeed, hopen⟩
    refine ⟨hnames.symm ▸ hfeed.fresh, ?_⟩
    intro before j k' after heq
    rcases snoc_eq_append_cons.mp heq with ⟨-, rfl, hm⟩ | ⟨after', -, hms⟩
    · cases hm
      exact hopen
    · exact hfeed.fed before j k' after' hms

lemma valid_close_iff [DecidableEq ι] {ms : List (Mark ι κ)} {is : List ι}
    (hopen : stopped ms = []) (hall : is.Perm (names ms)) :
    Valid (ms ++ is.map .stop) ↔ Feeding ms := by
  have hnames : names (ms ++ is.map Mark.stop) = names ms := by
    simp [names]
  constructor
  · intro hvalid
    refine ⟨hnames ▸ hvalid.fresh, ?_⟩
    intro before i k after heq
    exact (hvalid.fed before i k (after ++ is.map .stop) (by rw [heq]; simp)).1
  · intro hfeed
    have place : ∀ {before after : List (Mark ι κ)} {x : Mark ι κ},
        ms ++ is.map Mark.stop = before ++ x :: after →
        (∃ after', ms = before ++ x :: after') ∨
          ∃ done i rest, is = done ++ i :: rest ∧ before = ms ++ done.map .stop ∧ x = .stop i := by
      intro before after x heq
      rcases append_eq_append_iff.mp heq with ⟨done, rfl, hrest⟩ | ⟨tail, rfl, hrest⟩
      · obtain ⟨l1, l2, rfl, rfl, hl2⟩ := map_eq_append_iff.mp hrest
        obtain ⟨i, rest, rfl, rfl, -⟩ := map_eq_cons_iff.mp hl2
        exact .inr ⟨l1, i, rest, rfl, rfl, rfl⟩
      cases tail with
      | nil =>
        obtain ⟨i, rest, rfl, rfl, -⟩ := map_eq_cons_iff.mp hrest.symm
        exact .inr ⟨[], i, rest, rfl, by simp, rfl⟩
      | cons y tail =>
        obtain ⟨rfl, -⟩ := cons.inj hrest
        exact .inl ⟨tail, rfl⟩
    refine ⟨hnames.symm ▸ hfeed.fresh, ?_, ?_, ?_⟩
    · intro before i k after heq
      rcases place heq with ⟨after', hms⟩ | ⟨done, j, rest, -, -, hx⟩
      · refine ⟨hfeed.fed before i k after' hms, ?_⟩
        have hnone : stopped before = [] := by
          rw [hms, stopped_append, append_eq_nil_iff] at hopen
          exact hopen.1
        rw [hnone]
        exact not_mem_nil
      · cases hx
    · intro before i after heq
      rcases place heq with ⟨after', hms⟩ | ⟨done, j, rest, his, rfl, hx⟩
      · -- nothing is closed before the end
        rw [hms] at hopen
        simp at hopen
      cases hx
      rw [names_append, mem_append]
      refine .inl (hall.mem_iff.mp ?_)
      rw [his]
      exact mem_append_right _ mem_cons_self
    · intro i hi
      rw [hnames] at hi
      rw [stopped_append, hopen, nil_append, stopped_stops, hall.count_eq i]
      exact count_eq_one_of_mem hfeed.fresh hi

end FfxNexus.BlockProtocol
