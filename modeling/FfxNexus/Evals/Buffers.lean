/-
**What becomes of a buffered trace** (`internal/evaluators/external/scheduler.go`). Locked sections
are atomic; taking a trace out and dispatching it are two steps of a drain, and any number of drains
may work on one buffer.
-/
import FfxNexus.Evals.Tenancy

open List

namespace FfxNexus.Evals

inductive SchedOp
  | enqueue (p : Plugin) (e : Entry)
  | reconcile (reg : Registry)
  | tick (i : ℕ)
  | exit (i : ℕ)
  | fireManual (p : Plugin)
  | fireScheduled (p : Plugin)
  | drain (i : ℕ) (delivered : Bool)
  | stop

inductive Moved
  | accepted (buffer : String) (e : Entry)
  | popped (buffer : String) (e : Entry)
  | sent (buffer : String) (x : Entry × ℕ) (delivered : Bool)

variable (name : String)

variable (moved : List (Option Moved))

def acceptedInto : List Entry :=
  moved.filterMap fun
    | some (.accepted buffer e) => if buffer = name then some e else none
    | _ => none

def poppedFrom : List Entry :=
  moved.filterMap fun
    | some (.popped buffer e) => if buffer = name then some e else none
    | _ => none

def sentFrom : List ((Entry × ℕ) × Bool) :=
  moved.filterMap fun
    | some (.sent buffer x delivered) => if buffer = name then some (x, delivered) else none
    | _ => none

def Drain.held (d : Drain) : Option (Entry × ℕ) :=
  if d.buffer = name then d.inFlight else none

namespace Scheduler

/-- The traces of a buffer that are with a drain. -/
def flights (s : Scheduler) (name : String) : List (Entry × ℕ) :=
  s.drains.filterMap (Drain.held name)

def perform (s : Scheduler) : SchedOp → Scheduler × Option Moved
  | .enqueue p e =>
    ((s.enqueue p e).1, if (s.enqueue p e).2 = none then some (.accepted p.name e) else none)
  | .reconcile reg => (s.reconcile reg, none)
  | .tick i => (s.tick i, none)
  | .exit i => (s.exit i, none)
  | .fireManual p => ((s.fireManual p).1, none)
  | .fireScheduled p => ((s.fireScheduled p).1, none)
  | .drain i delivered =>
    ((s.drainStep i delivered).1, s.drains[i]?.bind fun d => match d.inFlight with
      | some x => some (.sent d.buffer x delivered)
      | none => (s.queue d.buffer).head?.map (.popped d.buffer))
  | .stop => (s.stop, none)

def machine : Machine Scheduler SchedOp (Option Moved) := ⟨perform⟩

section
variable {s : Scheduler} {op : SchedOp} {name : String}

lemma tick_cases (s : Scheduler) (i : ℕ) :
    s.tick i = s ∨ ∃ l ∈ s.loops, s.tick i = s.beginDrain l.plugin l.buffer := by
  unfold tick
  cases hl : s.loops[i]? with
  | none => exact Or.inl rfl
  | some l => exact Or.inr ⟨l, mem_of_getElem? hl, rfl⟩

lemma exit_cases (s : Scheduler) (i : ℕ) : s.exit i = s ∨
    ∃ l, s.loops[i]? = some l ∧ l.cancelled = true ∧
      s.exit i = { s with loops := s.loops.eraseIdx i } := by
  unfold exit
  cases hl : s.loops[i]? with
  | none => exact Or.inl rfl
  | some l =>
    cases hcancelled : l.cancelled with
    | false => simp [hcancelled]
    | true => simp [hcancelled]

lemma Fires.cases {fire : Scheduler → Plugin → Scheduler × List Event} {trigger : Trigger}
    (h : Fires fire trigger) (s : Scheduler) (p : Plugin) :
    (fire s p).1 = s ∨ (s.stopped = false ∧ (fire s p).1 = s.beginDrain p p.name) := by
  rcases h s p with ⟨-, heq⟩ | ⟨-, err, heq⟩
  · rw [heq, Scheduler.fire, bufferFor]
    cases s.stopped with
    | true => exact Or.inl rfl
    | false => exact Or.inr ⟨rfl, rfl⟩
  · rw [heq]
    exact Or.inl rfl

lemma taken_withBuffer (s : Scheduler) (buf : PluginBuffer) (name other : String) :
    (s.withBuffer name buf).taken other = if other = name then buf.taken else s.taken other := by
  unfold taken withBuffer
  split_ifs with hname
  · subst hname
    simp
  · simp [AList.lookup_insert_ne hname]

lemma taken_enqueue (s : Scheduler) (p : Plugin) (e : Entry) (name : String) :
    (s.enqueue p e).1.taken name = s.taken name := by
  unfold enqueue bufferFor taken
  by_cases hname : name = p.name
  · subst hname
    split_ifs <;> simp
    split_ifs <;> simp
  · split_ifs <;> simp
    split_ifs <;> simp [AList.lookup_insert_ne hname]

lemma flights_beginDrain (s : Scheduler) (p : Plugin) (buffer name : String) :
    (s.beginDrain p buffer).flights name = s.flights name := by
  simp [flights, beginDrain, filterMap_append, Drain.held]

lemma flights_congr {t : Scheduler} (h : t.drains = s.drains) (name : String) :
    t.flights name = s.flights name := by
  rw [flights, h, flights]

lemma perform_cases (s : Scheduler) (op : SchedOp) :
    (∃ p e, op = .enqueue p e) ∨ (∃ i delivered, op = .drain i delivered) ∨
      ((s.perform op).2 = none ∧ (s.perform op).1.buffers = s.buffers ∧
        (s.perform op).1.defaultCap = s.defaultCap ∧
        ∀ name, (s.perform op).1.flights name = s.flights name) := by
  have hbegin := s.flights_beginDrain
  have hcongr := @flights_congr s
  have hreconcile (reg : Registry) := s.reconcile_frame reg
  have htick := s.tick_cases
  have hexit := s.exit_cases
  have hmanual := fires_fireManual.cases s
  have hscheduled := fires_fireScheduled.cases s
  cases op <;> grind [perform, SameButLoops, beginDrain, stop]

/-- The outcomes of a drain's step, up to the order in which the drains are listed. -/
inductive DrainTurn (s : Scheduler) (delivered : Bool) : Scheduler × Option Moved → Prop
  | absent : DrainTurn s delivered (s, none)
  | done {d : Drain} {rest drains : List Drain} (hs : s.drains.Perm (d :: rest))
      (hdrains : drains.Perm rest) (hfree : d.inFlight = none) :
      DrainTurn s delivered ({ s with drains := drains }, none)
  | pop {d : Drain} {rest drains : List Drain} {e : Entry} {b : PluginBuffer}
      (hs : s.drains.Perm (d :: rest)) (hfree : d.inFlight = none)
      (hqueue : s.queue d.buffer = e :: b.ll) (htaken : b.taken = s.taken d.buffer + 1)
      (hdrains : drains.Perm ({ d with inFlight := some (e, s.taken d.buffer) } :: rest)) :
      DrainTurn s delivered
        ({ s.withBuffer d.buffer b with drains := drains }, some (.popped d.buffer e))
  | dispatch {d : Drain} {rest drains : List Drain} {x : Entry × ℕ} {count : ℕ}
      (hs : s.drains.Perm (d :: rest)) (hx : d.inFlight = some x)
      (hdrains : drains.Perm ({ d with inFlight := none, count := count } :: rest)) :
      DrainTurn s delivered ({ s with drains := drains }, some (.sent d.buffer x delivered))

lemma drain_turn (s : Scheduler) (i : ℕ) (delivered : Bool) :
    DrainTurn s delivered (s.perform (.drain i delivered)) := by
  rw [perform]
  cases hd : s.drains[i]? with
  | none =>
    rw [drainStep_none hd]
    exact .absent
  | some d =>
    obtain ⟨hi, rfl⟩ := List.getElem?_eq_some_iff.mp hd
    have hs : s.drains.Perm (s.drains[i] :: s.drains.eraseIdx i) :=
      (getElem_cons_eraseIdx_perm hi).symm
    rw [Option.bind_some]
    cases hfree : s.drains[i].inFlight with
    | some x =>
      rw [drainStep_dispatch hd hfree]
      exact .dispatch hs hfree (set_perm_cons_eraseIdx hi _)
    | none =>
      cases hq : s.queue s.drains[i].buffer with
      | nil =>
        rw [drainStep_nil hd hfree hq]
        exact .done hs (.refl _) hfree
      | cons e rest =>
        rw [drainStep_pop hd hfree hq]
        exact .pop (b := { (s.buffers.lookup s.drains[i].buffer).getD {} with
          ll := rest, taken := s.taken s.drains[i].buffer + 1 }) hs hfree hq rfl
          (set_perm_cons_eraseIdx hi _)

variable {delivered : Bool}

variable {r : Scheduler × Option Moved}

/-- What a drain's step keeps: the frame, and that a drain's buffer is one a drain worked on. -/
lemma DrainTurn.frame (h : DrainTurn s delivered r) :
    r.1.schedules = s.schedules ∧ r.1.loops = s.loops ∧ r.1.stopped = s.stopped ∧
      r.1.defaultCap = s.defaultCap ∧ (∀ d ∈ r.1.drains, ∃ d' ∈ s.drains, d'.buffer = d.buffer) ∧
      ∀ name, r.1.queue name ≠ s.queue name ∨ sentFrom name [r.2] ≠ [] →
        ∃ d ∈ s.drains, d.buffer = name := by
  cases h with
  | absent => exact ⟨rfl, rfl, rfl, rfl, fun d hd => ⟨d, hd, rfl⟩, by simp [sentFrom]⟩
  | @done d rest drains hs hdrains hfree =>
    refine ⟨rfl, rfl, rfl, rfl, fun d' hd' => ⟨d', ?_, rfl⟩, by simp [sentFrom, queue]⟩
    exact hs.mem_iff.mpr (mem_cons_of_mem d (hdrains.mem_iff.mp hd'))
  | @pop d rest drains e buf hs hfree hqueue htaken hdrains =>
    have hd : d ∈ s.drains := hs.mem_iff.mpr mem_cons_self
    refine ⟨rfl, rfl, rfl, rfl, fun d' hd' => ?_, fun name hname => ⟨d, hd, ?_⟩⟩
    · rcases mem_cons.mp (hdrains.mem_iff.mp hd') with rfl | hd'
      · exact ⟨d, hd, rfl⟩
      · exact ⟨d', hs.mem_iff.mpr (mem_cons_of_mem d hd'), rfl⟩
    · by_contra hne
      have hsame : queue { s.withBuffer d.buffer buf with drains := drains } name = s.queue name :=
        (s.queue_withBuffer buf d.buffer name).trans (if_neg (Ne.symm hne))
      simp [hsame, sentFrom] at hname
  | @dispatch d rest drains x count hs hx hdrains =>
    have hd : d ∈ s.drains := hs.mem_iff.mpr mem_cons_self
    refine ⟨rfl, rfl, rfl, rfl, fun d' hd' => ?_, fun name hname => ⟨d, hd, ?_⟩⟩
    · rcases mem_cons.mp (hdrains.mem_iff.mp hd') with rfl | hd'
      · exact ⟨d, hd, rfl⟩
      · exact ⟨d', hs.mem_iff.mpr (mem_cons_of_mem d hd'), rfl⟩
    · by_contra hne
      simp [sentFrom, queue, hne] at hname

/-! ## Accounts -/

/-- What was accepted, in order, has been taken out or is in its buffer; what was taken out is
with one drain or was dispatched, each once under its number. -/
structure Accounted (s : Scheduler) (moved : List (Option Moved)) : Prop where
  order : ∀ name, acceptedInto name moved = poppedFrom name moved ++ s.queue name
  taken : ∀ name, s.taken name = (poppedFrom name moved).length
  once : ∀ name, ((sentFrom name moved).map Prod.fst ++ s.flights name).Perm
    (poppedFrom name moved).zipIdx

lemma accounted_new (maxBufferPerPlugin : Int) : Accounted (new maxBufferPerPlugin) [] :=
  ⟨fun _ => rfl, fun _ => rfl, fun _ => .refl _⟩

lemma Accounted.extend {t : Scheduler} {moved : List (Option Moved)} {m : Option Moved}
    (h : Accounted s moved)
    (hqueue : ∀ name, s.queue name ++ acceptedInto name [m] = poppedFrom name [m] ++ t.queue name)
    (htaken : ∀ name, t.taken name = s.taken name + (poppedFrom name [m]).length)
    (hflights : ∀ name, ((sentFrom name [m]).map Prod.fst ++ t.flights name).Perm
      (s.flights name ++ (poppedFrom name [m]).zipIdx (s.taken name))) :
    Accounted t (moved ++ [m]) := by
  have haccepted (name) : acceptedInto name (moved ++ [m]) =
      acceptedInto name moved ++ acceptedInto name [m] := filterMap_append ..
  have hpopped (name) : poppedFrom name (moved ++ [m]) =
      poppedFrom name moved ++ poppedFrom name [m] := filterMap_append ..
  have hsent (name) : sentFrom name (moved ++ [m]) =
      sentFrom name moved ++ sentFrom name [m] := filterMap_append ..
  refine ⟨fun name => ?_, fun name => ?_, fun name => ?_⟩
  · rw [haccepted, hpopped, h.order, append_assoc, hqueue, append_assoc]
  · rw [htaken, hpopped, length_append, h.taken]
  · rw [hsent, hpopped, zipIdx_append, Nat.zero_add, ← h.taken, map_append, append_assoc]
    refine ((hflights name).append_left _).trans ?_
    rw [← append_assoc]
    exact (h.once name).append_right _

lemma DrainTurn.accounted
    (hr : DrainTurn s delivered r) {moved : List (Option Moved)} (h : Accounted s moved) :
    Accounted r.1 (moved ++ [r.2]) := by
  have hperm {t : Scheduler} {drains : List Drain} (h : t.drains.Perm drains) (name : String) :
      (t.flights name).Perm (drains.filterMap (Drain.held name)) := h.filterMap _
  cases hr with
  | absent =>
    exact h.extend (by simp [acceptedInto, poppedFrom]) (by simp [poppedFrom])
      (by simp [sentFrom, poppedFrom])
  | @done d rest drains hs hdrains hfree =>
    refine h.extend (by simp [acceptedInto, poppedFrom, queue]) (by simp [poppedFrom, taken]) ?_
    intro name
    have hrest := hperm hs name
    rw [filterMap_cons_none (by simp [Drain.held, hfree])] at hrest
    simpa [sentFrom, poppedFrom] using
      (hperm (t := { s with drains := drains }) hdrains name).trans hrest.symm
  | @pop d rest drains e buf hs hfree hqueue htaken hdrains =>
    have hbuffer (name) : queue { s.withBuffer d.buffer buf with drains := drains } name =
        if name = d.buffer then buf.ll else s.queue name := s.queue_withBuffer buf d.buffer name
    have hcount (name) : taken { s.withBuffer d.buffer buf with drains := drains } name =
        if name = d.buffer then buf.taken else s.taken name := s.taken_withBuffer buf d.buffer name
    refine h.extend ?_ ?_ fun name => ?_
    · grind [acceptedInto, poppedFrom]
    · grind [poppedFrom]
    · have hrest := hperm hs name
      have hnew := hperm (t := { s.withBuffer d.buffer buf with drains := drains }) hdrains name
      rw [filterMap_cons_none (by simp [Drain.held, hfree])] at hrest
      by_cases hname : d.buffer = name
      · rw [filterMap_cons_some (by rw [Drain.held, if_pos hname])] at hnew
        simpa [sentFrom, poppedFrom, hname] using
          hnew.trans ((hrest.symm.cons _).trans (perm_append_singleton _ _).symm)
      · rw [filterMap_cons_none (by rw [Drain.held, if_neg hname])] at hnew
        simpa [sentFrom, poppedFrom, hname] using hnew.trans hrest.symm
  | @dispatch d rest drains x count hs hx hdrains =>
    refine h.extend (by simp [acceptedInto, poppedFrom, queue]) (by simp [poppedFrom, taken]) ?_
    intro name
    have hrest := hperm hs name
    have hnew := hperm (t := { s with drains := drains }) hdrains name
    rw [filterMap_cons_none (by simp [Drain.held])] at hnew
    by_cases hname : d.buffer = name
    · rw [filterMap_cons_some (by rw [Drain.held, if_pos hname, hx])] at hrest
      simpa [sentFrom, poppedFrom, hname] using (hnew.cons x).trans hrest.symm
    · rw [filterMap_cons_none (by rw [Drain.held, if_neg hname])] at hrest
      simpa [sentFrom, poppedFrom, hname] using hnew.trans hrest.symm

lemma Accounted.step {moved : List (Option Moved)} (h : Accounted s moved) (op : SchedOp) :
    Accounted (s.perform op).1 (moved ++ [(s.perform op).2]) := by
  rcases s.perform_cases op with ⟨p, e, rfl⟩ | ⟨i, delivered, rfl⟩ | ⟨hnone, hbuffers, -, hflights⟩
  · have hqueue := s.queue_enqueue_eq p e
    have hsame : (s.enqueue p e).1.drains = s.drains := by rw [s.enqueue_frame p e]
    refine h.extend ?_ ?_ ?_
    · grind [perform, acceptedInto, poppedFrom]
    · intro name
      rw [perform, taken_enqueue]
      grind [poppedFrom]
    · intro name
      rw [perform, flights_congr hsame]
      split_ifs <;> simp [sentFrom, poppedFrom]
  · exact (s.drain_turn i delivered).accounted h
  · rw [hnone]
    refine h.extend (fun name => ?_) (fun name => ?_) fun name => ?_
    · simp [acceptedInto, poppedFrom, queue, hbuffers]
    · rw [Scheduler.taken, hbuffers]
      rfl
    · simp [sentFrom, poppedFrom, hflights]

lemma DrainTurn.length_queue_le
    (h : DrainTurn s delivered r) (name : String) :
    (r.1.queue name).length ≤ (s.queue name).length := by
  cases h with
  | absent => exact le_rfl
  | done => exact le_rfl
  | dispatch => exact le_rfl
  | @pop d rest drains e buf hs hfree hqueue htaken hdrains =>
    have hbuffer : queue { s.withBuffer d.buffer buf with drains := drains } name =
        if name = d.buffer then buf.ll else s.queue name := s.queue_withBuffer buf d.buffer name
    grind

lemma length_queue_step (h : ∀ name, (s.queue name).length ≤ s.defaultCap) (op : SchedOp) :
    ∀ name, ((s.perform op).1.queue name).length ≤ (s.perform op).1.defaultCap := by
  intro name
  have hname := h name
  rcases s.perform_cases op with ⟨p, e, rfl⟩ | ⟨i, delivered, rfl⟩ | ⟨-, hbuffers, hcap, -⟩
  · rcases s.enqueue_cases p e with
      ⟨-, heq⟩ | ⟨-, -, heq⟩ | ⟨-, -, buf, hbuf, ⟨-, heq⟩ | ⟨hlt, heq⟩⟩
    · simpa [perform, heq] using hname
    · simpa [perform, heq] using hname
    · grind [perform, queue_withBuffer, withBuffer]
    · grind [perform, queue_withBuffer, withBuffer]
  · have hturn := s.drain_turn i delivered
    rw [hturn.frame.2.2.2.1]
    exact (hturn.length_queue_le name).trans hname
  · rw [hcap, queue, hbuffers]
    exact hname

lemma enqueue_bufferFull_iff {p : Plugin} (e : Entry)
    (hcap : (s.queue p.name).length ≤ s.defaultCap) : (s.enqueue p e).2 = some .bufferFull ↔
      p.send.trigger = .scheduled ∧ s.stopped = false ∧ (s.queue p.name).length = s.defaultCap := by
  rcases s.enqueue_cases p e with ⟨htrigger, heq⟩ | ⟨-, hstopped, heq⟩ |
    ⟨htrigger, hstopped, buf, hbuf, ⟨hfull, heq⟩ | ⟨hlt, heq⟩⟩
  · simp [heq, htrigger]
  · simp [heq, hstopped]
  · grind
  · grind

def Halted (s : Scheduler) : Prop := s.stopped = true ∧ s.schedules = ∅

lemma Halted.enqueue (h : s.Halted) (p : Plugin) (e : Entry) :
    (s.enqueue p e).1 = s ∧ (s.enqueue p e).2 ≠ none := by
  have hstopped := h.1
  rcases s.enqueue_cases p e with ⟨-, heq⟩ | ⟨-, -, heq⟩ | ⟨-, hrunning, -⟩
  · simp [heq]
  · simp [heq]
  · rw [hstopped] at hrunning
    cases hrunning

lemma Halted.perform_cases (h : s.Halted) (op : SchedOp) :
    (∃ i delivered, op = .drain i delivered) ∨
      ((s.perform op).2 = none ∧ (s.perform op).1.Halted ∧ (s.perform op).1.buffers = s.buffers ∧
        (∀ l ∈ (s.perform op).1.loops, ∃ l' ∈ s.loops, l'.buffer = l.buffer) ∧
        ∀ d ∈ (s.perform op).1.drains, d ∈ s.drains ∨ ∃ l ∈ s.loops, l.buffer = d.buffer) := by
  cases op with
  | drain i delivered => exact Or.inl ⟨i, delivered, rfl⟩
  | enqueue p e =>
    have henqueue := h.enqueue p e
    grind [perform, Halted]
  | reconcile reg => grind [perform, Halted, reconcile]
  | fireManual p =>
    have hfire := fires_fireManual.cases s p
    grind [perform, Halted]
  | fireScheduled p =>
    have hfire := fires_fireScheduled.cases s p
    grind [perform, Halted]
  | tick i =>
    have htick := s.tick_cases i
    grind [perform, Halted, beginDrain]
  | exit i =>
    have hexit := s.exit_cases i
    grind [perform, Halted, mem_of_mem_eraseIdx]
  | stop =>
    right
    refine ⟨rfl, ⟨rfl, rfl⟩, rfl, ?_, fun d hd => Or.inl hd⟩
    intro l hl
    obtain ⟨l', hl', rfl⟩ := mem_map.mp hl
    exact ⟨l', hl', rfl⟩

lemma Halted.perform (h : s.Halted) (op : SchedOp) : (s.perform op).1.Halted := by
  rcases h.perform_cases op with ⟨i, delivered, rfl⟩ | ⟨-, hhalted, -⟩
  · obtain ⟨hschedules, -, hstopped, -⟩ := (s.drain_turn i delivered).frame
    exact ⟨hstopped.trans h.1, hschedules.trans h.2⟩
  · exact hhalted

structure Abandoned (s : Scheduler) (name : String) : Prop where
  halted : s.Halted
  drains : ∀ d ∈ s.drains, d.buffer ≠ name
  loops : ∀ l ∈ s.loops, l.buffer ≠ name

lemma Abandoned.perform (h : s.Abandoned name) (op : SchedOp) :
    (s.perform op).1.Abandoned name ∧ (s.perform op).1.queue name = s.queue name ∧
      sentFrom name [(s.perform op).2] = [] := by
  have hhalted := h.halted.perform op
  rcases h.halted.perform_cases op with ⟨i, delivered, rfl⟩ | ⟨hnone, -, hbuffers, hloops, hdrains⟩
  · obtain ⟨-, hloops, -, -, hdrains, hmoved⟩ := (s.drain_turn i delivered).frame
    refine ⟨⟨hhalted, fun d hd => ?_, hloops ▸ h.loops⟩, ?_⟩
    · obtain ⟨d', hd', heq⟩ := hdrains d hd
      rw [← heq]
      exact h.drains d' hd'
    · by_contra hsame
      obtain ⟨d, hd, heq⟩ := hmoved name (not_and_or.mp hsame)
      exact h.drains d hd heq
  · refine ⟨⟨hhalted, ?_, ?_⟩, by rw [queue, hbuffers, queue], by rw [hnone]; rfl⟩
    · intro d hd
      rcases hdrains d hd with hd | ⟨l, hl, heq⟩
      · exact h.drains d hd
      · rw [← heq]
        exact h.loops l hl
    · intro l hl
      obtain ⟨l', hl', heq⟩ := hloops l hl
      rw [← heq]
      exact h.loops l' hl'

end

variable {s : Scheduler} {name : String}

structure Conserved (s : Scheduler) (moved : List (Option Moved)) : Prop extends
    Accounted s moved where
  cap : ∀ name, (s.queue name).length ≤ s.defaultCap
  full : ∀ p e, (s.enqueue p e).2 = some .bufferFull ↔
    p.send.trigger = .scheduled ∧ s.stopped = false ∧ (s.queue p.name).length = s.defaultCap
  /-- After `Stop`, nothing is accepted and no map is written. -/
  halted : s.stopped = true → (∀ p e, (s.enqueue p e).2 ≠ none) ∧
    ∀ op, (s.perform op).1.schedules = s.schedules ∧
      ((∀ i delivered, op ≠ .drain i delivered) → (s.perform op).1.buffers = s.buffers)
  /-- After `Stop`, what no drain and no flush loop holds stays where it is: it is discarded. -/
  discarded : s.stopped = true → ∀ name, (∀ d ∈ s.drains, d.buffer ≠ name) →
    (∀ l ∈ s.loops, l.buffer ≠ name) → ∀ ops, (machine.run s ops).queue name = s.queue name ∧
      sentFrom name (machine.trace s ops) = []

lemma accounted_run (maxBufferPerPlugin : Int) (ops : List SchedOp) :
    Accounted (machine.run (new maxBufferPerPlugin) ops)
      (machine.trace (new maxBufferPerPlugin) ops) := by
  induction ops using reverseRecOn with
  | nil => exact accounted_new maxBufferPerPlugin
  | append_singleton ops op ih =>
    rw [Machine.run_snoc, Machine.trace_append]
    exact ih.step op

lemma Abandoned.run (h : s.Abandoned name) (ops : List SchedOp) :
    (machine.run s ops).queue name = s.queue name ∧ sentFrom name (machine.trace s ops) = [] := by
  induction ops generalizing s with
  | nil => exact ⟨rfl, rfl⟩
  | cons op ops ih =>
    obtain ⟨habandoned, hqueue, hsent⟩ := h.perform op
    obtain ⟨hrun, htrace⟩ := ih habandoned
    refine ⟨hrun.trans hqueue, ?_⟩
    have hsplit : machine.trace s (op :: ops) =
        [(s.perform op).2] ++ machine.trace (s.perform op).1 ops := rfl
    simp only [sentFrom] at hsent htrace
    rw [hsplit, sentFrom, filterMap_append, hsent, htrace, nil_append]

lemma stopped_perform (s : Scheduler) {op : SchedOp} (hop : op ≠ .stop) :
    (s.perform op).1.stopped = s.stopped := by
  cases op with
  | enqueue p e => rw [perform, s.enqueue_frame p e]
  | reconcile reg => exact (s.reconcile_frame reg).2.2.1
  | tick i => grind [perform, s.tick_cases i, beginDrain]
  | exit i => grind [perform, s.exit_cases i]
  | fireManual p => grind [perform, fires_fireManual.cases s p, beginDrain]
  | fireScheduled p => grind [perform, fires_fireScheduled.cases s p, beginDrain]
  | drain i delivered => exact (s.drain_turn i delivered).frame.2.2.1
  | stop => exact absurd rfl hop

lemma halted_perform (h : s.stopped = true → s.Halted) (op : SchedOp)
    (hstopped : (s.perform op).1.stopped = true) : (s.perform op).1.Halted := by
  by_cases hs : s.stopped = true
  · exact (h hs).perform op
  by_cases hop : op = .stop
  · rw [hop]
    exact ⟨rfl, rfl⟩
  · rw [stopped_perform s hop] at hstopped
    exact absurd hstopped hs

theorem buffers_conserved (maxBufferPerPlugin : Int) (ops : List SchedOp) :
    Conserved (machine.run (new maxBufferPerPlugin) ops)
      (machine.trace (new maxBufferPerPlugin) ops) := by
  set s0 := new maxBufferPerPlugin
  have hhalted : (machine.run s0 ops).stopped = true → (machine.run s0 ops).Halted :=
    machine.run_invariant (P := fun s => s.stopped = true → s.Halted)
      (fun hstopped => absurd hstopped Bool.false_ne_true) (fun s op h => halted_perform h op) ops
  have hcap : ∀ name, ((machine.run s0 ops).queue name).length ≤ (machine.run s0 ops).defaultCap :=
    machine.run_invariant (P := fun s => ∀ name, (s.queue name).length ≤ s.defaultCap)
      (fun name => Nat.zero_le _) (fun s op h => length_queue_step h op) ops
  refine ⟨accounted_run maxBufferPerPlugin ops, hcap,
    fun p e => enqueue_bufferFull_iff e (hcap p.name), ?_, ?_⟩
  · intro hstopped
    have h := hhalted hstopped
    refine ⟨fun p e => (h.enqueue p e).2, fun op => ⟨?_, ?_⟩⟩
    · rw [(h.perform op).2, h.2]
    · intro hdrain
      rcases h.perform_cases op with ⟨i, delivered, rfl⟩ | ⟨-, -, hbuffers, -⟩
      · exact absurd rfl (hdrain i delivered)
      · exact hbuffers
  · intro hstopped name hdrains hloops
    exact Abandoned.run ⟨hhalted hstopped, hdrains, hloops⟩

end Scheduler

end FfxNexus.Evals
