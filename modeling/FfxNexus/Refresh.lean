/-
**A copy refreshed after each write**, without a lock around the two.
-/
import Mathlib.Algebra.Order.Group.Multiset

namespace FfxNexus.Refresh
open Relation Multiset Option

inductive Phase (ν ω : Type)
  | writing (w : ω)
  | listing
  | replacing (v : ν)
  | returned

structure System (σ ν ω : Type) where
  store : σ
  snapshot : ν
  calls : Multiset (Phase ν ω)

variable {σ ν ω : Type} (apply : ω → σ → Option σ) (view : σ → ν) (lossy : Prop)

inductive Step : System σ ν ω → System σ ν ω → Prop
  | write {s s' : σ} {v : ν} {w : ω} {m : Multiset (Phase ν ω)} :
      apply w s = some s' → Step ⟨s, v, .writing w ::ₘ m⟩ ⟨s', v, .listing ::ₘ m⟩
  | list {s : σ} {v : ν} {m : Multiset (Phase ν ω)} :
      Step ⟨s, v, .listing ::ₘ m⟩ ⟨s, v, .replacing (view s) ::ₘ m⟩
  | listFails {s : σ} {v : ν} {m : Multiset (Phase ν ω)} :
      lossy → Step ⟨s, v, .listing ::ₘ m⟩ ⟨s, v, .returned ::ₘ m⟩
  | replace {s : σ} {v v' : ν} {m : Multiset (Phase ν ω)} :
      Step ⟨s, v, .replacing v' ::ₘ m⟩ ⟨s, v', .returned ::ₘ m⟩

abbrev Steps : System σ ν ω → System σ ν ω → Prop := ReflTransGen (Step apply view lossy)

def start (s : σ) (calls : List ω) : System σ ν ω := ⟨s, view s, map .writing calls⟩

def Converges (s : σ) (calls : List ω) : Prop :=
  ∀ c, Steps apply view lossy (start view s calls) c → (∀ p ∈ c.calls, p = .returned) →
    c.snapshot = view c.store

def runAll (s : σ) : List ω → Option σ
  | [] => some s
  | w :: ws => (apply w s).bind (runAll · ws)

def Steady (s : σ) (calls : List ω) : Prop :=
  ∀ before after, (before ++ after).Perm calls → (lossy ∨ before ≠ []) →
    ∀ s' s'', runAll apply s before = some s' → runAll apply s' after = some s'' →
      view s' = view s''

variable {apply view lossy} {s s' : σ} {calls : List ω} {m : Multiset (Phase ν ω)}

lemma runAll_append {ws ws' : List ω} (h : runAll apply s ws = some s') :
    runAll apply s (ws ++ ws') = runAll apply s' ws' := by
  induction ws generalizing s with
  | nil =>
    obtain rfl := some.inj h
    rfl
  | cons w ws ih =>
    obtain ⟨s1, hw, hws⟩ := bind_eq_some_iff.mp h
    rw [List.cons_append, runAll, hw]
    exact ih hws

lemma steps_write (v : ν) {ws : List ω} (h : runAll apply s ws = some s') :
    Steps apply view lossy ⟨s, v, map .writing ws + m⟩
      ⟨s', v, replicate ws.length .listing + m⟩ := by
  induction ws generalizing s m with
  | nil =>
    obtain rfl := some.inj h
    exact .refl
  | cons w ws ih =>
    obtain ⟨s1, hw, hws⟩ := bind_eq_some_iff.mp h
    rw [← cons_coe, map_cons, cons_add, List.length_cons, replicate_succ, cons_add]
    refine .head (.write hw) ?_
    rw [← add_cons, ← add_cons]
    exact ih hws

lemma steps_return (v : ν) (n : ℕ) : ∃ v', (lossy → v' = v) ∧ Steps apply view lossy
    ⟨s, v, replicate n .listing + m⟩ ⟨s, v', replicate n .returned + m⟩ := by
  induction n generalizing v m with
  | zero => exact ⟨v, fun _ => rfl, .refl⟩
  | succ n ih =>
    simp only [replicate_succ, cons_add]
    by_cases hlossy : lossy
    · obtain ⟨v', hv', hsteps⟩ := ih (m := .returned ::ₘ m) v
      simp only [add_cons] at hsteps
      exact ⟨v', hv', .head (.listFails hlossy) hsteps⟩
    · obtain ⟨v', -, hsteps⟩ := ih (m := .returned ::ₘ m) (view s)
      simp only [add_cons] at hsteps
      exact ⟨v', fun h => absurd h hlossy, .head .list (.head .replace hsteps)⟩

lemma steady_of_converges (h : Converges apply view lossy s calls) :
    Steady apply view lossy s calls := by
  intro before after hperm hcase s1 s2 hbefore hafter
  have hstart : start view s calls = ⟨s, view s, map .writing before + map .writing after⟩ := by
    rw [start, ← map_add, coe_add, coe_eq_coe.mpr hperm.symm]
  have hwritten : Steps apply view lossy (start view s calls)
      ⟨s1, view s, replicate before.length .listing + map .writing after⟩ :=
    hstart ▸ steps_write (view s) hbefore
  cases before with
  | nil =>
    obtain rfl := some.inj hbefore
    have hlossy : lossy := hcase.resolve_right fun hne => hne rfl
    obtain ⟨v', hv', hreturn⟩ : ∃ v', (lossy → v' = view s) ∧ Steps apply view lossy
        ⟨s2, view s, replicate after.length .listing + 0⟩
        ⟨s2, v', replicate after.length .returned + 0⟩ := steps_return _ _
    have hwritten : Steps apply view lossy (start view s calls)
        ⟨s, view s, map .writing after + 0⟩ := by simpa using hwritten
    have hsteps := (hwritten.trans (steps_write (view s) hafter)).trans hreturn
    rw [← hv' hlossy]
    refine h _ hsteps fun p hp => ?_
    rw [add_zero] at hp
    exact eq_of_mem_replicate hp
  | cons w ws =>
    have hlist : Steps apply view lossy (start view s calls) ⟨s1, view s,
        map .writing after + .replacing (view s1) ::ₘ replicate ws.length .listing⟩ := by
      refine hwritten.tail ?_
      rw [List.length_cons, replicate_succ, cons_add, add_cons, add_comm]
      exact .list
    have hall := hlist.trans (steps_write (view s) hafter)
    obtain ⟨v', -, hreturn⟩ : ∃ v', (lossy → v' = view s) ∧ Steps apply view lossy
        ⟨s2, view s, replicate (after.length + ws.length) .listing + {.replacing (view s1)}⟩
        ⟨s2, v', replicate (after.length + ws.length) .returned + {.replacing (view s1)}⟩ :=
      steps_return _ _
    rw [← singleton_add, add_comm {_}, ← add_assoc, ← replicate_add] at hall
    have hsteps := hall.trans hreturn
    rw [add_comm, singleton_add] at hsteps
    refine h _ (hsteps.tail .replace) fun p hp => ?_
    dsimp only at hp
    rcases mem_cons.mp hp with rfl | hp
    · rfl
    · exact eq_of_mem_replicate hp

def Phase.write? : Phase ν ω → Option ω
  | .writing w => some w
  | _ => none

def pending (m : Multiset (Phase ν ω)) : Multiset ω := m.filterMap Phase.write?

lemma pending_writing (w : ω) : pending (.writing w ::ₘ m) = w ::ₘ pending m :=
  filterMap_cons_some _ _ _ rfl

lemma pending_cons {p : Phase ν ω} (h : p.write? = none) : pending (p ::ₘ m) = pending m :=
  filterMap_cons_none _ _ h

variable (apply view s) in
def Seen (done : List ω) (v : ν) : Prop :=
  ∃ before, before <+: done ∧ before ≠ [] ∧ ∃ s', runAll apply s before = some s' ∧ view s' = v

variable (apply view lossy s) in
def Fits (done : List ω) (snapshot : ν) : Phase ν ω → Prop
  | .writing _ => True
  | .listing => done ≠ []
  | .replacing v => Seen apply view s done v
  | .returned => lossy ∨ Seen apply view s done snapshot

variable (apply view lossy s calls) in
structure Wrote (c : System σ ν ω) (done : List ω) : Prop where
  store : runAll apply s done = some c.store
  all : ↑done + pending c.calls = (calls : Multiset ω)
  fits : ∀ p ∈ c.calls, Fits apply view lossy s done c.snapshot p
  snapshot : c.snapshot = view s ∨ Seen apply view s done c.snapshot
  busy : done ≠ [] → c.calls ≠ 0

lemma Seen.mono {done done' : List ω} {v : ν} (h : Seen apply view s done v)
    (hdone : done <+: done') : Seen apply view s done' v := by
  obtain ⟨before, hbefore, hrest⟩ := h
  exact ⟨before, hbefore.trans hdone, hrest⟩

lemma wrote_step {c c' : System σ ν ω} {done : List ω}
    (h : Wrote apply view lossy s calls c done) (hstep : Step apply view lossy c c') :
    ∃ done', Wrote apply view lossy s calls c' done' := by
  have hall := h.all
  have hsame : ∀ {p p' : Phase ν ω} {m}, ↑done + pending (p ::ₘ m) = (calls : Multiset ω) →
      p.write? = none → p'.write? = none → ↑done + pending (p' ::ₘ m) = (calls : Multiset ω) := by
    intro p p' m hall hp hp'
    rw [← hall, pending_cons hp, pending_cons hp']
  cases hstep with
  | @write s1 s2 v w m hw =>
    refine ⟨done ++ [w], ?_, ?_, ?_, ?_, fun _ => cons_ne_zero⟩
    · rw [runAll_append h.store, runAll, hw]
      rfl
    · rw [← hall, pending_writing, pending_cons rfl, ← coe_add, coe_singleton, add_assoc,
        singleton_add]
    · have hmono := List.prefix_append done [w]
      refine forall_mem_cons.mpr ⟨by simp [Fits], fun p hp => ?_⟩
      have hfits := h.fits p (mem_cons_of_mem hp)
      cases p with
      | writing w' => trivial
      | listing => simp [Fits]
      | replacing v' => exact hfits.mono hmono
      | returned => exact hfits.imp_right fun hseen => hseen.mono hmono
    · exact h.snapshot.imp_right fun hseen => hseen.mono (List.prefix_append done [w])
  | @list s1 v m =>
    obtain ⟨hne, hm⟩ := forall_mem_cons.mp h.fits
    refine ⟨done, h.store, hsame hall rfl rfl, forall_mem_cons.mpr ⟨?_, hm⟩, h.snapshot,
      fun _ => cons_ne_zero⟩
    exact ⟨done, List.prefix_rfl, hne, s1, h.store, rfl⟩
  | @listFails s1 v m hlossy =>
    obtain ⟨-, hm⟩ := forall_mem_cons.mp h.fits
    exact ⟨done, h.store, hsame hall rfl rfl, forall_mem_cons.mpr ⟨.inl hlossy, hm⟩, h.snapshot,
      fun _ => cons_ne_zero⟩
  | @replace s1 v v' m =>
    obtain ⟨hseen, hm⟩ := forall_mem_cons.mp h.fits
    refine ⟨done, h.store, hsame hall rfl rfl,
      forall_mem_cons.mpr ⟨.inr hseen, fun p hp => ?_⟩, .inr hseen, fun _ => cons_ne_zero⟩
    cases p with
    | returned => exact .inr hseen
    | _ => exact hm _ hp

lemma wrote_steps {c : System σ ν ω} (h : Steps apply view lossy (start view s calls) c) :
    ∃ done, Wrote apply view lossy s calls c done := by
  induction h with
  | refl =>
    refine ⟨[], rfl, ?_, ?_, .inl rfl, fun hne => absurd rfl hne⟩
    · rw [coe_nil, zero_add, pending, start, filterMap_map]
      exact filterMap_some _
    · intro p hp
      dsimp only [start] at hp
      obtain ⟨w, -, rfl⟩ := mem_map.mp hp
      trivial
  | tail _ hstep ih =>
    obtain ⟨done, hdone⟩ := ih
    exact wrote_step hdone hstep

lemma converges_of_steady (h : Steady apply view lossy s calls) :
    Converges apply view lossy s calls := by
  intro c hsteps hreturned
  obtain ⟨done, hdone⟩ := wrote_steps hsteps
  have hpending : pending c.calls = 0 := by
    rw [eq_replicate.mpr ⟨rfl, hreturned⟩]
    induction card c.calls with
    | zero => rfl
    | succ n ih => exact (pending_cons rfl).trans ih
  have hperm : done.Perm calls := by
    rw [← coe_eq_coe, ← hdone.all, hpending, add_zero]
  have hsteady : ∀ before, before <+: done → (lossy ∨ before ≠ []) →
      ∀ s', runAll apply s before = some s' → view s' = view c.store := by
    rintro before ⟨after, rfl⟩ hcase s' hbefore
    refine h before after hperm hcase s' c.store hbefore ?_
    rw [← runAll_append hbefore]
    exact hdone.store
  have hseen : Seen apply view s done c.snapshot → c.snapshot = view c.store := by
    rintro ⟨before, hbefore, hne, s', hs', hv⟩
    exact hv ▸ hsteady before hbefore (.inr hne) s' hs'
  rcases hdone.snapshot with hinit | hs
  · by_cases hnone : done = []
    · subst hnone
      rw [hinit, some.inj hdone.store]
    · obtain ⟨p, hp⟩ := exists_mem_of_ne_zero (hdone.busy hnone)
      have hfits := hdone.fits p hp
      rw [hreturned p hp] at hfits
      rcases hfits with hlossy | hs
      · rw [hinit]
        exact hsteady [] List.nil_prefix (.inl hlossy) s rfl
      · exact hseen hs
  · exact hseen hs

end FfxNexus.Refresh
