/-
**The scheduler of evaluation plugins** (`internal/evaluators/external/scheduler.go`).
-/
import FfxNexus.Evals.Plugin
import FfxNexus.Gateway

open List

namespace FfxNexus.Evals
open Go Gateway

structure Entry where
  trace : Trace
  scope : List Record
deriving DecidableEq

/-- The list of a plugin's traces; `taken` counts those taken out so far (bookkeeping). -/
structure PluginBuffer where
  ll : List Entry := []
  dropped : ℕ := 0
  taken : ℕ := 0

structure ScheduledFlush where
  plugin : Plugin
  interval : Int

structure FlushLoop where
  plugin : Plugin
  buffer : String
  cancelled : Bool := false

/-- A goroutine in `drain` or `drainAll`. Between its two steps it holds a trace that is out of the
buffer and not yet dispatched; with it goes its number among those taken out. -/
structure Drain where
  plugin : Plugin
  buffer : String
  count : ℕ := 0
  inFlight : Option (Entry × ℕ) := none

structure Scheduler where
  buffers : GoMap String PluginBuffer
  schedules : GoMap String ScheduledFlush
  loops : List FlushLoop
  drains : List Drain
  stopped : Bool
  defaultCap : ℕ
  capPos : 0 < defaultCap

inductive SchedulerError
  | bufferFull
  | stopped
  | notBuffered (trigger : Trigger)
  | notManual (name : String) (trigger : Trigger)
  | notScheduled
deriving DecidableEq

inductive Event
  /-- `Evaluate` calls the dispatcher itself. -/
  | inline (t : Trace) (p : Plugin)
  /-- `Evaluate` hands the trace to the scorer in the process. -/
  | scored (t : Trace) (p : Plugin)
  /-- A drain sends a buffered trace. -/
  | flushed (e : Entry) (p : Plugin)
  /-- A call returns an error, or `Evaluate` logs it. -/
  | refused (err : SchedulerError)
  /-- A drain found its buffer empty and returns. -/
  | drained (count : ℕ)
deriving DecidableEq

namespace Scheduler

def new (maxBufferPerPlugin : Int) : Scheduler where
  buffers := ∅
  schedules := ∅
  loops := []
  drains := []
  stopped := false
  defaultCap := if maxBufferPerPlugin ≤ 0 then 4096 else maxBufferPerPlugin.toNat
  capPos := by
    split_ifs with h
    · decide
    · omega

variable (s : Scheduler)

variable (name : String)

def queue : List Entry := ((s.buffers.lookup name).getD {}).ll

def taken : ℕ := ((s.buffers.lookup name).getD {}).taken

def bufferFor : Option PluginBuffer :=
  if s.stopped then none else some ((s.buffers.lookup name).getD {})

variable (p : Plugin)

def enqueue (e : Entry) : Scheduler × Option SchedulerError :=
  if p.send.trigger ≠ .scheduled then (s, some (.notBuffered p.send.trigger))
  else
    match s.bufferFor p.name with
    | none => (s, some .stopped)
    | some buf =>
      if s.defaultCap ≤ buf.ll.length then
        ({ s with buffers := s.buffers.insert p.name { buf with dropped := buf.dropped + 1 } },
          some .bufferFull)
      else ({ s with buffers := s.buffers.insert p.name { buf with ll := buf.ll ++ [e] } }, none)

def cancel : Scheduler :=
  { s with
    loops := s.loops.map fun l => if l.buffer = name then { l with cancelled := true } else l }

def start (rec : Record) : Scheduler :=
  { s with
    schedules := s.schedules.insert name ⟨rec.plugin, rec.plugin.collect.interval⟩
    loops := s.loops ++ [{ plugin := rec.plugin, buffer := name }] }

def refresh (rec : Record) : Scheduler :=
  if rec.plugin.collect.interval ≤ 0 then s
  else
    match s.schedules.lookup name with
    | some cur =>
      if cur.interval = rec.plugin.collect.interval then s else (s.cancel name).start name rec
    | none => s.start name rec

def retire : Scheduler :=
  { s.cancel name with schedules := s.schedules.erase name }

def wanted (reg : Registry) : GoMap String Record :=
  reg.enabled.foldl
    (fun m rec =>
      if rec.plugin.send.trigger = .scheduled then m.insert rec.plugin.name rec else m) ∅

def reconcile (reg : Registry) (s : Scheduler) : Scheduler :=
  if s.stopped then s
  else
    let s := (wanted reg).entries.foldl (fun s e => s.refresh e.1 e.2) s
    (s.schedules.keys.filter (· ∉ wanted reg)).foldl retire s

def beginDrain (buffer : String) : Scheduler :=
  { s with drains := s.drains ++ [{ plugin := p, buffer := buffer }] }

def tick (i : ℕ) : Scheduler :=
  match s.loops[i]? with
  | none => s
  | some l => s.beginDrain l.plugin l.buffer

def exit (i : ℕ) : Scheduler :=
  if s.loops[i]?.any (·.cancelled) then { s with loops := s.loops.eraseIdx i } else s

def fire : Scheduler × List Event :=
  match s.bufferFor p.name with
  | none => (s, [.refused .stopped])
  | some _ => (s.beginDrain p p.name, [])

def fireManual : Scheduler × List Event :=
  if p.send.trigger ≠ .manual then (s, [.refused (.notManual p.name p.send.trigger)]) else s.fire p

def fireScheduled : Scheduler × List Event :=
  if p.send.trigger ≠ .scheduled then (s, [.refused .notScheduled]) else s.fire p

/-- One step of a drain: the first trace is taken out under the lock, or, if one is out, it is
dispatched. -/
def drainStep (i : ℕ) (delivered : Bool) : Scheduler × List Event :=
  match s.drains[i]? with
  | none => (s, [])
  | some d =>
    match d.inFlight with
    | some x =>
      ({ s with
          drains := s.drains.set i
            { d with inFlight := none, count := if delivered then d.count + 1 else d.count } },
        [.flushed x.1 d.plugin])
    | none =>
      match s.queue d.buffer with
      | [] => ({ s with drains := s.drains.eraseIdx i }, [.drained d.count])
      | e :: rest =>
        let buf := (s.buffers.lookup d.buffer).getD {}
        ({ s with
            buffers := s.buffers.insert d.buffer { buf with ll := rest, taken := buf.taken + 1 }
            drains := s.drains.set i { d with inFlight := some (e, buf.taken) } }, [])

def stop : Scheduler :=
  { s with
    stopped := true
    schedules := ∅
    loops := s.loops.map fun l => { l with cancelled := true } }

end Scheduler

def Registry.scheduled (reg : Registry) : List Record :=
  reg.enabled.filter fun rec => rec.plugin.send.trigger = .scheduled

namespace Scheduler

variable {delivered : Bool}

variable {s : Scheduler} {p : Plugin} {e : Entry} {name : String} {rec : Record} {reg : Registry}

def withBuffer (s : Scheduler) (name : String) (buf : PluginBuffer) : Scheduler :=
  { s with buffers := s.buffers.insert name buf }

section
variable (s : Scheduler)

lemma queue_withBuffer (buf : PluginBuffer) (name other : String) :
    (s.withBuffer name buf).queue other = if other = name then buf.ll else s.queue other := by
  unfold queue withBuffer
  split_ifs with hname
  · subst hname
    simp
  · simp [AList.lookup_insert_ne hname]

lemma enqueue_cases (p : Plugin) (e : Entry) :
    (p.send.trigger ≠ .scheduled ∧ s.enqueue p e = (s, some (.notBuffered p.send.trigger))) ∨
    (p.send.trigger = .scheduled ∧ s.stopped = true ∧ s.enqueue p e = (s, some .stopped)) ∨
    (p.send.trigger = .scheduled ∧ s.stopped = false ∧ ∃ buf : PluginBuffer,
      buf.ll = s.queue p.name ∧ ((s.defaultCap ≤ buf.ll.length ∧ s.enqueue p e =
          (s.withBuffer p.name { buf with dropped := buf.dropped + 1 }, some .bufferFull)) ∨
        (buf.ll.length < s.defaultCap ∧ s.enqueue p e =
          (s.withBuffer p.name { buf with ll := buf.ll ++ [e] }, none)))) := by
  unfold enqueue bufferFor
  by_cases htrigger : p.send.trigger = .scheduled
  · rw [if_neg (not_not.mpr htrigger)]
    split_ifs with hstopped
    · exact Or.inr (Or.inl ⟨htrigger, hstopped, rfl⟩)
    · refine Or.inr (Or.inr ⟨htrigger, Bool.eq_false_of_not_eq_true hstopped,
        (s.buffers.lookup p.name).getD {}, rfl, ?_⟩)
      by_cases hfull : s.defaultCap ≤ ((s.buffers.lookup p.name).getD {}).ll.length
      · exact Or.inl ⟨hfull, if_pos hfull⟩
      · exact Or.inr ⟨not_le.mp hfull, if_neg hfull⟩
  · exact Or.inl ⟨htrigger, if_pos htrigger⟩

lemma enqueue_frame (p : Plugin) (e : Entry) :
    (s.enqueue p e).1 = { s with buffers := (s.enqueue p e).1.buffers } := by
  rcases s.enqueue_cases p e with ⟨-, h⟩ | ⟨-, -, h⟩ | ⟨-, -, buf, -, ⟨-, h⟩ | ⟨-, h⟩⟩
  all_goals
    simp only [h, withBuffer]

lemma queue_enqueue_eq (p : Plugin) (e : Entry) (name : String) : (s.enqueue p e).1.queue name =
      s.queue name ++ if name = p.name ∧ (s.enqueue p e).2 = none then [e] else [] := by
  rcases s.enqueue_cases p e with ⟨-, h⟩ | ⟨-, -, h⟩ | ⟨-, -, buf, hbuf, ⟨-, h⟩ | ⟨-, h⟩⟩
  · simp [h]
  · simp [h]
  · rw [h, queue_withBuffer]
    grind
  · rw [h, queue_withBuffer]
    grind

lemma queue_enqueue (p : Plugin) (e : Entry) (name : String) :
    (s.enqueue p e).1.queue name = s.queue name ∨
      (name = p.name ∧ (s.enqueue p e).1.queue name = s.queue name ++ [e]) := by
  rw [queue_enqueue_eq]
  split_ifs with haccepted
  · exact Or.inr ⟨haccepted.1, rfl⟩
  · exact Or.inl (append_nil _)

end

lemma queue_enqueue_ne_nil (hs : s.stopped = false) (hp : p.send.trigger = .scheduled) :
    (s.enqueue p e).1.queue p.name ≠ [] := by
  have hcap := s.capPos
  rcases s.enqueue_cases p e with ⟨h, -⟩ | ⟨-, h, -⟩ | ⟨-, -, buf, hbuf, ⟨hfull, h⟩ | ⟨-, h⟩⟩
  · exact absurd hp h
  · rw [hs] at h
    cases h
  · rw [h, queue_withBuffer, if_pos rfl, ← length_pos_iff]
    exact lt_of_lt_of_le hcap hfull
  · simp [h, queue_withBuffer]

def enqueueAll (s : Scheduler) (recs : List Record) (e : Entry) : Scheduler :=
  recs.foldl (fun s rec => (s.enqueue rec.plugin e).1) s

variable {recs : List Record}

@[simp] lemma enqueueAll_cons :
    s.enqueueAll (rec :: recs) e = (s.enqueue rec.plugin e).1.enqueueAll recs e := rfl

lemma enqueueAll_frame (s : Scheduler) (recs : List Record) (e : Entry) :
    s.enqueueAll recs e = { s with buffers := (s.enqueueAll recs e).buffers } := by
  induction recs generalizing s with
  | nil => rfl
  | cons rec recs ih => rw [enqueueAll_cons, ih, enqueue_frame]

lemma mem_queue_enqueueAll {e' : Entry} (h : e' ∈ (s.enqueueAll recs e).queue name) :
    e' ∈ s.queue name ∨ (e' = e ∧ ∃ rec ∈ recs, rec.plugin.name = name) := by
  induction recs generalizing s with
  | nil => exact Or.inl h
  | cons rec recs ih =>
    rcases ih h with h | ⟨heq, rec', hmem, hname⟩
    · rcases s.queue_enqueue rec.plugin e name with hq | ⟨hname, hq⟩
      · rw [hq] at h
        exact Or.inl h
      · rw [hq, mem_append, mem_singleton] at h
        exact h.imp_right fun heq => ⟨heq, rec, mem_cons_self, hname.symm⟩
    · exact Or.inr ⟨heq, rec', mem_cons_of_mem _ hmem, hname⟩

lemma queue_enqueueAll_ne_nil (h : s.queue name ≠ []) : (s.enqueueAll recs e).queue name ≠ [] := by
  induction recs generalizing s with
  | nil => exact h
  | cons rec recs ih =>
    apply ih
    rcases s.queue_enqueue rec.plugin e name with hq | ⟨-, hq⟩
    · rw [hq]
      exact h
    · rw [hq]
      exact append_ne_nil_of_left_ne_nil h _

lemma queue_enqueueAll_of_mem (hs : s.stopped = false) (hmem : rec ∈ recs)
    (hscheduled : rec.plugin.send.trigger = .scheduled) :
    (s.enqueueAll recs e).queue rec.plugin.name ≠ [] := by
  induction recs generalizing s with
  | nil => cases hmem
  | cons rec' recs ih =>
    rw [enqueueAll_cons]
    rcases mem_cons.mp hmem with rfl | hmem
    · exact queue_enqueueAll_ne_nil (queue_enqueue_ne_nil hs hscheduled)
    · apply ih _ hmem
      rw [enqueue_frame]
      exact hs

def Loops (F : Plugin → String → Prop) (s : Scheduler) : Prop :=
  ∀ l ∈ s.loops, F l.plugin l.buffer

variable {F : Plugin → String → Prop}

lemma Loops.cancel (h : Loops F s) (name : String) : Loops F (s.cancel name) := by
  intro l hl
  obtain ⟨l', hl', rfl⟩ := mem_map.mp hl
  have hF := h l' hl'
  split_ifs <;> exact hF

lemma Loops.start (h : Loops F s) (hF : F rec.plugin name) : Loops F (s.start name rec) := by
  intro l hl
  rcases mem_append.mp hl with hl | hl
  · exact h l hl
  · rw [mem_singleton.mp hl]
    exact hF

lemma refresh_cases (s : Scheduler) (name : String) (rec : Record) :
    s.refresh name rec = s ∨ (0 < rec.plugin.collect.interval ∧
      ∃ t, (t = s ∨ t = s.cancel name) ∧ s.refresh name rec = t.start name rec) := by
  unfold refresh
  split_ifs with hivl
  · exact Or.inl rfl
  split
  · split_ifs
    · exact Or.inl rfl
    · exact Or.inr ⟨not_le.mp hivl, _, Or.inr rfl, rfl⟩
  · exact Or.inr ⟨not_le.mp hivl, _, Or.inl rfl, rfl⟩

lemma Loops.refresh (h : Loops F s) (hF : 0 < rec.plugin.collect.interval → F rec.plugin name) :
    Loops F (s.refresh name rec) := by
  rcases s.refresh_cases name rec with heq | ⟨hivl, t, rfl | rfl, heq⟩
  · rw [heq]
    exact h
  · rw [heq]
    exact h.start (hF hivl)
  · rw [heq]
    exact (h.cancel name).start (hF hivl)

lemma Loops.reconcile (h : Loops F s)
    (hF : ∀ name rec, (wanted reg).lookup name = some rec → 0 < rec.plugin.collect.interval →
      F rec.plugin name) : Loops F (s.reconcile reg) := by
  unfold Scheduler.reconcile
  split_ifs
  · exact h
  · have hrefreshed : Loops F ((wanted reg).entries.foldl (fun s e => s.refresh e.1 e.2) s) := by
      refine foldlRecOn _ _ h ?_
      intro s hs e he
      exact hs.refresh (hF e.1 e.2 (AList.mem_lookup_iff.mpr he))
    refine foldlRecOn _ _ hrefreshed ?_
    intro s hs name _
    exact hs.cancel name

def SameButLoops (s t : Scheduler) : Prop :=
  t.buffers = s.buffers ∧ t.drains = s.drains ∧ t.stopped = s.stopped ∧ t.defaultCap = s.defaultCap

lemma sameButLoops_refresh {t : Scheduler} (h : s.SameButLoops t) (name : String)
    (rec : Record) : s.SameButLoops (t.refresh name rec) := by
  rcases t.refresh_cases name rec with heq | ⟨-, t, rfl | rfl, heq⟩
  · rw [heq]
    exact h
  · rw [heq]
    exact h
  · rw [heq]
    exact h

lemma reconcile_frame (reg : Registry) (s : Scheduler) : s.SameButLoops (s.reconcile reg) := by
  unfold reconcile
  split_ifs
  · exact ⟨rfl, rfl, rfl, rfl⟩
  · refine foldlRecOn (motive := s.SameButLoops) _ _ ?_ (fun t ht name _ => ht)
    exact foldlRecOn (motive := s.SameButLoops) _ _ ⟨rfl, rfl, rfl, rfl⟩
      (fun t ht e _ => sameButLoops_refresh ht e.1 e.2)

def Runs (s : Scheduler) (p : Plugin) (name : String) : Prop :=
  ∃ l ∈ s.loops, l.plugin = p ∧ l.buffer = name

lemma Runs.cancel (h : s.Runs p name) (other : String) : (s.cancel other).Runs p name := by
  obtain ⟨l, hl, hp, hname⟩ := h
  refine ⟨_, mem_map.mpr ⟨l, hl, rfl⟩, ?_⟩
  split_ifs <;> exact ⟨hp, hname⟩

lemma Runs.start (h : s.Runs p name) (other : String) (rec : Record) :
    (s.start other rec).Runs p name := by
  obtain ⟨l, hl, hl'⟩ := h
  exact ⟨l, mem_append_left _ hl, hl'⟩

lemma Runs.refresh (h : s.Runs p name) (other : String) (rec : Record) :
    (s.refresh other rec).Runs p name := by
  rcases s.refresh_cases other rec with heq | ⟨-, t, rfl | rfl, heq⟩
  · rw [heq]
    exact h
  · rw [heq]
    exact h.start other rec
  · rw [heq]
    exact (h.cancel other).start other rec

lemma lookup_schedules_refresh {other : String} (hne : name ≠ other) :
    (s.refresh other rec).schedules.lookup name = s.schedules.lookup name := by
  rcases s.refresh_cases other rec with heq | ⟨-, t, rfl | rfl, heq⟩
  · rw [heq]
  · rw [heq]
    exact AList.lookup_insert_ne hne
  · rw [heq]
    exact AList.lookup_insert_ne hne

lemma runs_foldl_refresh {wanted : List (Sigma fun _ : String => Record)}
    (hnodup : wanted.NodupKeys) (hmem : ⟨name, rec⟩ ∈ wanted)
    (hivl : 0 < rec.plugin.collect.interval) (hnone : s.schedules.lookup name = none) :
    (wanted.foldl (fun s e => s.refresh e.1 e.2) s).Runs rec.plugin name := by
  induction wanted generalizing s with
  | nil => cases hmem
  | cons e wanted ih =>
    rw [nodupKeys_cons] at hnodup
    rw [foldl_cons]
    rcases mem_cons.mp hmem with rfl | hmem
    · -- the record's own turn; what follows keeps the loop
      refine foldlRecOn (motive := fun t : Scheduler => t.Runs rec.plugin name) _ _ ?_ ?_
      · have hstart : s.refresh name rec = s.start name rec := by
          unfold refresh
          rw [if_neg (not_le.mpr hivl), hnone]
        rw [hstart]
        exact ⟨_, mem_append_right _ (mem_singleton_self _), rfl, rfl⟩
      · intro t ht e _
        exact ht.refresh e.1 e.2
    · -- another name's turn leaves this name without a schedule
      refine ih hnodup.2 hmem ?_
      have hne : name ≠ e.1 := by
        intro heq
        have hkey : name ∈ wanted.keys := mem_keys_of_mem hmem
        rw [heq] at hkey
        exact hnodup.1 hkey
      rw [lookup_schedules_refresh hne]
      exact hnone

lemma runs_reconcile (hs : s.stopped = false) (hnone : s.schedules = ∅)
    (hwanted : (wanted reg).lookup name = some rec) (hivl : 0 < rec.plugin.collect.interval) :
    (s.reconcile reg).Runs rec.plugin name := by
  unfold reconcile
  rw [hs]
  refine foldlRecOn (motive := fun t : Scheduler => t.Runs rec.plugin name) _ _ ?_
    (fun t ht other _ => ht.cancel other)
  exact runs_foldl_refresh (wanted reg).nodupKeys (AList.mem_lookup_iff.mp hwanted) hivl
    (by rw [hnone]; exact AList.lookup_empty name)

lemma lookup_wanted_eq (reg : Registry) (name : String) : (wanted reg).lookup name =
    (reg.scheduled.filter fun rec => rec.plugin.name = name).getLast? :=
  lookup_foldl_insert (fun rec : Record => rec.plugin.send.trigger = .scheduled)
    (fun rec => rec.plugin.name) reg.enabled name

lemma lookup_wanted (h : (wanted reg).lookup name = some rec) :
    rec ∈ reg.enabled ∧ rec.plugin.name = name ∧ rec.plugin.send.trigger = .scheduled := by
  rw [lookup_wanted_eq] at h
  have hmem := mem_of_getLast? h
  rw [mem_filter, Registry.scheduled, mem_filter] at hmem
  exact ⟨hmem.1.1, of_decide_eq_true hmem.2, of_decide_eq_true hmem.1.2⟩

section
variable {i : ℕ} {d : Drain}

lemma drainStep_none (hd : s.drains[i]? = none) : s.drainStep i delivered = (s, []) := by
  unfold drainStep
  rw [hd]

lemma drainStep_dispatch {x : Entry × ℕ} (hd : s.drains[i]? = some d)
    (hx : d.inFlight = some x) : s.drainStep i delivered = ({ s with
          drains := s.drains.set i
            { d with inFlight := none, count := if delivered then d.count + 1 else d.count } },
        [.flushed x.1 d.plugin]) := by
  unfold drainStep
  rw [hd]
  simp only [hx]

lemma drainStep_nil (hd : s.drains[i]? = some d) (hfree : d.inFlight = none)
    (hq : s.queue d.buffer = []) : s.drainStep i delivered =
      ({ s with drains := s.drains.eraseIdx i }, [.drained d.count]) := by
  unfold drainStep
  rw [hd]
  simp only [hfree, hq]

lemma drainStep_pop {rest : List Entry} (hd : s.drains[i]? = some d) (hfree : d.inFlight = none)
    (hq : s.queue d.buffer = e :: rest) : s.drainStep i delivered = ({ s with
          buffers := s.buffers.insert d.buffer
            { (s.buffers.lookup d.buffer).getD {} with
              ll := rest, taken := s.taken d.buffer + 1 }
          drains := s.drains.set i { d with inFlight := some (e, s.taken d.buffer) } }, []) := by
  unfold drainStep
  rw [hd]
  simp only [hfree, hq, taken]

end

def Fires (fire : Scheduler → Plugin → Scheduler × List Event) (trigger : Trigger) : Prop :=
  ∀ s p, (p.send.trigger = trigger ∧ fire s p = s.fire p) ∨
    (p.send.trigger ≠ trigger ∧ ∃ err, fire s p = (s, [.refused err]))

lemma fires_fireManual : Fires fireManual .manual := by
  intro s p
  by_cases htrigger : p.send.trigger = .manual
  · exact Or.inl ⟨htrigger, if_neg (not_not.mpr htrigger)⟩
  · exact Or.inr ⟨htrigger, _, if_pos htrigger⟩

lemma fires_fireScheduled : Fires fireScheduled .scheduled := by
  intro s p
  by_cases htrigger : p.send.trigger = .scheduled
  · exact Or.inl ⟨htrigger, if_neg (not_not.mpr htrigger)⟩
  · exact Or.inr ⟨htrigger, _, if_pos htrigger⟩

lemma fire_of_running (hs : s.stopped = false) : s.fire p = (s.beginDrain p p.name, []) := by
  unfold fire bufferFor
  rw [hs]
  rfl

end Scheduler

end FfxNexus.Evals
