/-
**Interaction programs**: code that talks to a world it does not control.
-/
import Mathlib.Data.List.Basic

open List

namespace FfxNexus.Interaction

inductive Prog {Op : Type} (Ans : Op → Type) (α : Type) where
  | ret (a : α)
  | op (o : Op) (k : Ans o → Prog Ans α)

namespace Prog
variable {Op : Type} {Ans : Op → Type} {α β γ : Type}

def bind : Prog Ans α → (α → Prog Ans β) → Prog Ans β
  | .ret a, f => f a
  | .op o k, f => .op o fun x => (k x).bind f

instance : Monad (Prog Ans) where
  pure := .ret
  bind := .bind

def perform (o : Op) : Prog Ans (Ans o) := .op o .ret

@[simp] lemma pure_eq (a : α) : (pure a : Prog Ans α) = .ret a := rfl

@[simp] lemma ret_bind (a : α) (f : α → Prog Ans β) : (Prog.ret a >>= f) = f a := rfl

@[simp] lemma op_bind (o : Op) (k : Ans o → Prog Ans α) (f : α → Prog Ans β) :
    (Prog.op o k >>= f) = .op o (fun x => k x >>= f) := rfl

lemma bind_assoc (p : Prog Ans α) (f : α → Prog Ans β) (g : β → Prog Ans γ) :
    (p >>= f) >>= g = p >>= fun x => f x >>= g := by
  induction p with
  | ret a => rfl
  | op o k ih =>
    exact congrArg (Prog.op o) (funext fun x => ih x)

abbrev Event (Ans : Op → Type) : Type := Sigma Ans

inductive Runs : Prog Ans α → List (Event Ans) → α → Prop where
  | ret (a : α) : Runs (.ret a) [] a
  | op {o : Op} {k : Ans o → Prog Ans α} {log : List (Event Ans)} {r : α} (x : Ans o) :
      Runs (k x) log r → Runs (.op o k) (⟨o, x⟩ :: log) r

variable {log : List (Event Ans)}

@[simp] lemma runs_ret {a r : α} : Runs (.ret a : Prog Ans α) log r ↔ log = [] ∧ r = a := by
  constructor
  · intro h; cases h; exact ⟨rfl, rfl⟩
  · rintro ⟨rfl, rfl⟩; exact .ret r

@[simp] lemma runs_op {o : Op} {k : Ans o → Prog Ans α} {r : α} :
    Runs (.op o k) log r ↔ ∃ x rest, log = ⟨o, x⟩ :: rest ∧ Runs (k x) rest r := by
  constructor
  · intro h
    cases h with
    | op x h => exact ⟨x, _, rfl, h⟩
  · rintro ⟨x, rest, rfl, h⟩
    exact .op x h

variable {r : β}

lemma Runs.done {a r : α} (h : Runs (.ret a : Prog Ans α) log r) : log = [] ∧ r = a :=
  runs_ret.mp h

lemma Runs.first {o : Op} {f : Ans o → Prog Ans β} (h : Runs (perform o >>= f) log r) :
    ∃ x rest, log = ⟨o, x⟩ :: rest ∧ Runs (f x) rest r :=
  runs_op.mp h

variable {p : Prog Ans α}

lemma runs_bind {f : α → Prog Ans β} : Runs (p >>= f) log r ↔
      ∃ before x after, log = before ++ after ∧ Runs p before x ∧ Runs (f x) after r := by
  induction p generalizing log with
  | ret a =>
    simp only [runs_ret]
    constructor
    · intro h; exact ⟨[], a, log, rfl, ⟨rfl, rfl⟩, h⟩
    · rintro ⟨_, _, after, rfl, ⟨rfl, rfl⟩, h⟩; exact h
  | op o k ih =>
    simp only [op_bind, runs_op, ih]
    constructor
    · rintro ⟨x, _, rfl, before, y, after, rfl, hp, hf⟩
      exact ⟨⟨o, x⟩ :: before, y, after, rfl, ⟨x, before, rfl, hp⟩, hf⟩
    · rintro ⟨_, y, after, rfl, ⟨x, before, rfl, hp⟩, hf⟩
      exact ⟨x, before ++ after, rfl, before, y, after, rfl, hp, hf⟩

lemma Runs.split {f : α → Prog Ans β} (h : Runs (p >>= f) log r) :
    ∃ before x after, log = before ++ after ∧ Runs p before x ∧ Runs (f x) after r :=
  runs_bind.mp h

lemma Runs.map {f : α → β} (h : Runs (p >>= fun x => .ret (f x)) log r) :
    ∃ x, Runs p log x ∧ r = f x := by
  obtain ⟨before, x, after, rfl, hp, hret⟩ := h.split
  obtain ⟨rfl, rfl⟩ := hret.done
  rw [append_nil]
  exact ⟨x, hp, rfl⟩

def Spec (rely : (o : Op) → Ans o → Prop) (guar : Op → Prop) (post : α → Prop) :
    Prog Ans α → Prop
  | .ret a => post a
  | .op o k => guar o ∧ ∀ x, rely o x → Spec rely guar post (k x)

section
variable {rely : (o : Op) → Ans o → Prop} {guar : Op → Prop}
variable {post : α → Prop}

@[simp] lemma spec_ret {a : α} : Spec rely guar post (.ret a) ↔ post a := Iff.rfl

@[simp] lemma spec_op {o : Op} {k : Ans o → Prog Ans α} : Spec rely guar post (.op o k) ↔
      guar o ∧ ∀ x, rely o x → Spec rely guar post (k x) := Iff.rfl

lemma spec_perform_bind {post : β → Prop} {o : Op} {f : Ans o → Prog Ans β} :
    Spec rely guar post (perform o >>= f) ↔
      guar o ∧ ∀ x, rely o x → Spec rely guar post (f x) := Iff.rfl

variable {p : Prog Ans α} {f : α → Prog Ans β}

lemma spec_bind {post : β → Prop} : Spec rely guar post (p >>= f) ↔
      Spec rely guar (fun x => Spec rely guar post (f x)) p := by
  induction p with
  | ret a => simp only [ret_bind, spec_ret]
  | op o k ih => simp only [op_bind, spec_op, ih]

lemma Spec.mono {post' : α → Prop} (h : Spec rely guar post p) (imp : ∀ a, post a → post' a) :
    Spec rely guar post' p := by
  induction p with
  | ret a => exact imp a h
  | op o k ih => exact ⟨h.1, fun x hx => ih x (h.2 x hx)⟩

variable {r : α}

lemma Runs.spec {log : List (Event Ans)} (h : Runs p log r) (hp : Spec rely guar post p)
    (hrely : ∀ e ∈ log, rely e.1 e.2) : (∀ e ∈ log, guar e.1) ∧ post r := by
  induction h with
  | ret a => exact ⟨by simp, hp⟩
  | op x _ ih =>
    have hx := hrely _ mem_cons_self
    obtain ⟨hguar, hpost⟩ := ih (hp.2 x hx) fun e he => hrely e (mem_cons_of_mem _ he)
    refine ⟨?_, hpost⟩
    intro e he
    rcases mem_cons.mp he with rfl | he
    · exact hp.1
    · exact hguar e he

lemma Spec.bind {post : β → Prop} (hp : Spec rely guar (fun _ => True) p)
    (hf : ∀ x, Spec rely guar post (f x)) : Spec rely guar post (p >>= f) :=
  spec_bind.mpr (hp.mono fun x _ => hf x)

lemma Spec.weaken {rely' : (o : Op) → Ans o → Prop} {guar' : Op → Prop}
    (h : Spec rely guar post p) (hrely : ∀ o x, rely' o x → rely o x)
    (hguar : ∀ o, guar o → guar' o) : Spec rely' guar' post p := by
  induction p with
  | ret a => exact h
  | op o k ih => exact ⟨hguar o h.1, fun x hx => ih x (h.2 x (hrely o x hx))⟩

def Yields (rely : (o : Op) → Ans o → Prop) (p : Prog Ans α) (r : α) : Prop :=
  ∃ log, Runs p log r ∧ ∀ e ∈ log, rely e.1 e.2

lemma yields_ret (a : α) : Yields rely (.ret a) a := ⟨[], .ret a, by simp⟩

lemma Yields.op {o : Op} {k : Ans o → Prog Ans α} {x : Ans o} (hx : rely o x)
    (h : Yields rely (k x) r) : Yields rely (.op o k) r := by
  obtain ⟨log, hrun, hlog⟩ := h
  refine ⟨⟨o, x⟩ :: log, .op x hrun, ?_⟩
  intro e he
  rcases mem_cons.mp he with rfl | he
  · exact hx
  · exact hlog e he

lemma yields_perform {o : Op} {x : Ans o} (hx : rely o x) : Yields rely (perform o) x :=
  (yields_ret x).op hx

lemma Yields.bind {x : α} {r : β} (hp : Yields rely p x) (hf : Yields rely (f x) r) :
    Yields rely (p >>= f) r := by
  obtain ⟨before, hrun, hbefore⟩ := hp
  obtain ⟨after, hrun', hafter⟩ := hf
  refine ⟨before ++ after, runs_bind.mpr ⟨before, x, after, rfl, hrun, hrun'⟩, ?_⟩
  intro e he
  rcases mem_append.mp he with he | he
  · exact hbefore e he
  · exact hafter e he

lemma exists_yields (hne : ∀ o, ∃ x, rely o x) (p : Prog Ans α) : ∃ r, Yields rely p r := by
  induction p with
  | ret a => exact ⟨a, yields_ret a⟩
  | op o k ih =>
    obtain ⟨x, hx⟩ := hne o
    obtain ⟨r, hr⟩ := ih x
    exact ⟨r, hr.op hx⟩

lemma Yields.spec (h : Yields rely p r) (hp : Spec rely guar post p) : post r := by
  obtain ⟨log, hrun, hlog⟩ := h
  exact (hrun.spec hp hlog).2

lemma spec_iff_runs (hne : ∀ o, ∃ x, rely o x) : Spec rely guar (fun _ => True) p ↔
      ∀ log r, Runs p log r → (∀ e ∈ log, rely e.1 e.2) → ∀ e ∈ log, guar e.1 := by
  constructor
  · intro h log r hrun hlog
    exact (hrun.spec h hlog).1
  · intro h
    induction p with
    | ret a => trivial
    | op o k ih =>
      have extend : ∀ x, rely o x → ∀ log r, Runs (k x) log r → (∀ e ∈ log, rely e.1 e.2) →
          ∀ e ∈ (⟨o, x⟩ :: log : List (Event Ans)), guar e.1 := by
        intro x hx log r hrun hlog
        refine h _ r (.op x hrun) ?_
        intro e he
        rcases mem_cons.mp he with rfl | he
        · exact hx
        · exact hlog e he
      refine ⟨?_, fun x hx => ih x fun log r hrun hlog e he => ?_⟩
      · -- the operation itself is seen only in a run that goes on to an end
        obtain ⟨x, hx⟩ := hne o
        obtain ⟨r, log, hrun, hlog⟩ := exists_yields hne (k x)
        exact extend x hx log r hrun hlog _ mem_cons_self
      · exact extend x hx log r hrun hlog e (mem_cons_of_mem _ he)

end

def execute (oracle : (o : Op) → Ans o) : Prog Ans α → List (Event Ans) × α
  | .ret a => ([], a)
  | .op o k =>
    let rest := execute oracle (k (oracle o))
    (⟨o, oracle o⟩ :: rest.1, rest.2)

lemma execute_runs (oracle : (o : Op) → Ans o) (p : Prog Ans α) :
    Runs p (execute oracle p).1 (execute oracle p).2 := by
  induction p with
  | ret a => exact .ret a
  | op o k ih => exact .op (oracle o) (ih (oracle o))

lemma answered_by_oracle (oracle : (o : Op) → Ans o) (p : Prog Ans α) :
    ∀ e ∈ (execute oracle p).1, e.2 = oracle e.1 := by
  induction p with
  | ret a => intro e he; cases he
  | op o k ih =>
    intro e he
    rcases mem_cons.mp he with rfl | he
    · rfl
    · exact ih (oracle o) e he

def advance {σ : Type} (f : σ → (o : Op) → Ans o × σ) : ℕ → σ → Prog Ans α → σ × Prog Ans α
  | 0, s, p => (s, p)
  | _ + 1, s, .ret a => (s, .ret a)
  | n + 1, s, .op o k => advance f n (f s o).2 (k (f s o).1)

def result? : Prog Ans α → Option α
  | .ret a => some a
  | .op _ _ => none

def next? : Prog Ans α → Option Op
  | .ret _ => none
  | .op o _ => some o

lemma eq_ret_of_result? {a : α} (h : p.result? = some a) : p = .ret a := by
  cases p with
  | ret b => exact congrArg Prog.ret (Option.some.inj h)
  | op o k => cases h

lemma eq_op_of_next? {o : Op} (h : p.next? = some o) : ∃ k, p = .op o k := by
  cases p with
  | ret a => cases h
  | op o' k =>
    obtain rfl := Option.some.inj h
    exact ⟨k, rfl⟩

variable {σ : Type} {rel : σ → σ → Prop} {inv : σ → Prop}
variable {world : σ → (o : Op) → Ans o → σ → Prop}
variable {guar : σ → (o : Op) → (Ans o → Option Op) → Prop}

def Guarded (rel : σ → σ → Prop) (inv : σ → Prop) (world : σ → (o : Op) → Ans o → σ → Prop)
    (guar : σ → (o : Op) → (Ans o → Option Op) → Prop) (post : σ → α → Prop) :
    Prog Ans α → σ → Prop
  | .ret a, s => post s a
  | .op o k, s => ∀ s', rel s s' → inv s' → guar s' o (fun x => (k x).next?) ∧
      ∀ x s'', world s' o x s'' → Guarded rel inv world guar post (k x) s''

variable {s : σ}

lemma guarded_perform_bind {post : σ → β → Prop} {o : Op} {f : Ans o → Prog Ans β} :
    Guarded rel inv world guar post (perform o >>= f) s ↔
      ∀ s', rel s s' → inv s' → guar s' o (fun x => (f x).next?) ∧
        ∀ x s'', world s' o x s'' → Guarded rel inv world guar post (f x) s'' := Iff.rfl

lemma Guarded.mono (htrans : ∀ s s' s'', rel s s' → rel s' s'' → rel s s'') {post : σ → α → Prop}
    {p : Prog Ans α} {s' : σ} (hpost : ∀ a, post s a → post s' a)
    (h : Guarded rel inv world guar post p s) (hrel : rel s s') :
    Guarded rel inv world guar post p s' := by
  cases p with
  | ret a => exact hpost a h
  | op o k => exact fun s'' hrel' hinv => h s'' (htrans _ _ _ hrel hrel') hinv

lemma guarded_bind
    (hguar : ∀ s o (n n' : Ans o → Option Op), (∀ x o', n x = some o' → n' x = some o') →
      guar s o n → guar s o n') {mid : σ → α → Prop} {post : σ → β → Prop} {p : Prog Ans α}
    {f : α → Prog Ans β} (hp : Guarded rel inv world guar mid p s)
    (hf : ∀ s a, mid s a → Guarded rel inv world guar post (f a) s) :
    Guarded rel inv world guar post (p >>= f) s := by
  induction p generalizing s with
  | ret a => exact hf s a hp
  | op o k ih =>
    intro s' hrel hinv
    obtain ⟨hop, hcont⟩ := hp s' hrel hinv
    refine ⟨hguar _ _ _ _ (fun x o' hnext => ?_) hop, fun x s'' hw => ih x (hcont x s'' hw)⟩
    obtain ⟨k', hk'⟩ := eq_op_of_next? hnext
    show ((k x) >>= f).next? = some o'
    rw [hk']
    rfl

end Prog

structure Pool {Op : Type} (Ans : Op → Type) (σ ι α : Type) where
  shared : σ
  threads : List (ι × Prog Ans α)

namespace Pool
variable {Op : Type} {Ans : Op → Type} {σ ι α : Type}

inductive Step (start : ι → Prog Ans α → Prop)
    (world : ι → σ → (o : Op) → Ans o → σ → Prop) : Pool Ans σ ι α → Pool Ans σ ι α → Prop where
  | spawn {s : σ} {ts : List (ι × Prog Ans α)} {t : ι} {p : Prog Ans α} :
      start t p → Step start world ⟨s, ts⟩ ⟨s, ts ++ [(t, p)]⟩
  | act {s s' : σ} {before after : List (ι × Prog Ans α)} {t : ι} {o : Op}
      {k : Ans o → Prog Ans α} {x : Ans o} :
      world t s o x s' →
        Step start world ⟨s, before ++ (t, .op o k) :: after⟩ ⟨s', before ++ (t, k x) :: after⟩

inductive Reachable (start : ι → Prog Ans α → Prop)
    (world : ι → σ → (o : Op) → Ans o → σ → Prop) (s₀ : σ) : Pool Ans σ ι α → Prop where
  | init : Reachable start world s₀ ⟨s₀, []⟩
  | step {P P' : Pool Ans σ ι α} :
      Reachable start world s₀ P → Step start world P P' → Reachable start world s₀ P'

variable {s₀ : σ} {start : ι → Prog Ans α → Prop}

variable {world : ι → σ → (o : Op) → Ans o → σ → Prop}

lemma Reachable.invariant {Inv : σ → Prop}
    {rely : ι → (o : Op) → Ans o → Prop} {guar : ι → Op → Prop} {post : ι → α → Prop}
    (hstart : ∀ t p, start t p → p.Spec (rely t) (guar t) (post t)) (hinit : Inv s₀)
    (hrely : ∀ t s o x s', Inv s → guar t o → world t s o x s' → rely t o x)
    (hinv : ∀ t s o x s', Inv s → guar t o → world t s o x s' → Inv s') {P : Pool Ans σ ι α}
    (hP : Reachable start world s₀ P) :
    Inv P.shared ∧ ∀ tp ∈ P.threads, tp.2.Spec (rely tp.1) (guar tp.1) (post tp.1) := by
  induction hP with
  | init => exact ⟨hinit, by simp⟩
  | step _ hs ih =>
    obtain ⟨hI, hT⟩ := ih
    cases hs with
    | spawn hst =>
      refine ⟨hI, ?_⟩
      intro tp htp
      rcases mem_append.mp htp with h | h
      · exact hT tp h
      · rw [mem_singleton.mp h]; exact hstart _ _ hst
    | @act s s' before after t o k x hw =>
      have hself := hT (t, .op o k) (by simp)
      obtain ⟨hguar, hcont⟩ := hself
      refine ⟨hinv t s o x s' hI hguar hw, ?_⟩
      intro tp htp
      rcases mem_append.mp htp with h | h
      · exact hT tp (mem_append_left _ h)
      · rcases mem_cons.mp h with rfl | h
        · exact hcont x (hrely t s o x s' hI hguar hw)
        · exact hT tp (mem_append_right _ (mem_cons_of_mem _ h))

lemma Reachable.guarded {world : σ → (o : Op) → Ans o → σ → Prop}
    {inv : σ → Prop} {rel : σ → σ → Prop} {guar : σ → (o : Op) → (Ans o → Option Op) → Prop}
    (htrans : ∀ s s' s'', rel s s' → rel s' s'' → rel s s'') (hstart : ∀ t p s, start t p → inv s →
      p.Guarded rel inv world guar (fun _ _ => True) s) (hinit : inv s₀)
    (hstep : ∀ s o n x s', inv s → guar s o n → world s o x s' → inv s' ∧ rel s s')
    (hrefl : ∀ s, rel s s) {P : Pool Ans σ ι α} (hP : Reachable start (fun _ => world) s₀ P) :
    inv P.shared ∧
      ∀ tp ∈ P.threads, tp.2.Guarded rel inv world guar (fun _ _ => True) P.shared := by
  induction hP with
  | init => exact ⟨hinit, by simp⟩
  | step _ hs ih =>
    obtain ⟨hI, hT⟩ := ih
    cases hs with
    | spawn hst =>
      refine ⟨hI, ?_⟩
      intro tp htp
      rcases mem_append.mp htp with h | h
      · exact hT tp h
      · rw [mem_singleton.mp h]
        exact hstart _ _ _ hst hI
    | @act s s' before after t o k x hw =>
      obtain ⟨hguar, hcont⟩ := hT (t, .op o k) (by simp) s (hrefl s) hI
      obtain ⟨hinv', hrel⟩ := hstep s o _ x s' hI hguar hw
      have hothers : ∀ tp ∈ before ++ after,
          tp.2.Guarded rel inv world guar (fun _ _ => True) s' := by
        intro tp htp
        refine Prog.Guarded.mono htrans (fun _ h => h) (hT tp ?_) hrel
        rcases mem_append.mp htp with h | h
        · exact mem_append_left _ h
        · exact mem_append_right _ (mem_cons_of_mem _ h)
      refine ⟨hinv', ?_⟩
      intro tp htp
      rcases mem_append.mp htp with h | h
      · exact hothers tp (mem_append_left _ h)
      · rcases mem_cons.mp h with rfl | h
        · exact hcont x s' hw
        · exact hothers tp (mem_append_right _ h)

lemma Reachable.advance {s : σ} {ts after : List (ι × Prog Ans α)} {t : ι}
    {p : Prog Ans α} {f : σ → (o : Op) → Ans o × σ}
    (hworld : ∀ s o, world t s o (f s o).1 (f s o).2) (n : ℕ)
    (hP : Reachable start world s₀ ⟨s, ts ++ (t, p) :: after⟩) : Reachable start world s₀
      ⟨(Prog.advance f n s p).1, ts ++ (t, (Prog.advance f n s p).2) :: after⟩ := by
  induction n generalizing s p with
  | zero => exact hP
  | succ n ih =>
    cases p with
    | ret a => exact hP
    | op o k => exact ih (hP.step (.act (hworld s o)))

end Pool

end FfxNexus.Interaction
