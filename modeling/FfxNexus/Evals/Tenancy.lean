/-
**Tenants and the scheduler** (`internal/evaluators/external/multi.go` and the shim of
`cmd/nexus/scheduler_shim.go` over the scheduler).
-/
import FfxNexus.Evals.Scheduler

namespace FfxNexus.Evals
open Gateway List

def sampleTrace : Float64 → ℚ → Bool
  | .nan, _ => false
  | .num p, roll => if 1 ≤ p then true else if p ≤ 0 then false else roll < p

def dispatchForwarded (s : Scheduler) (rec : Record) (e : Entry) : Scheduler × List Event :=
  match rec.plugin.send.trigger with
  | .onTrace => (s, [.inline e.trace rec.plugin])
  | .scheduled =>
    match s.enqueue rec.plugin e with
    | (s', some err) => (s', [.refused err])
    | (s', none) => (s', [])
  | .manual => (s, [])
  | .other _ => (s, [.inline e.trace rec.plugin])

def evaluateLoop (rolls : String → ℚ) (e : Entry) : List Record → Scheduler → Scheduler × List Event
  | [], s => (s, [])
  | rec :: recs, s =>
    if sampleTrace rec.plugin.send.sampling (rolls rec.plugin.name) = false then
      evaluateLoop rolls e recs s
    else if rec.plugin.service.type = .heuristic then
      let (s', events) := evaluateLoop rolls e recs s
      (s', .scored e.trace rec.plugin :: events)
    else
      let (s', sent) := dispatchForwarded s rec e
      let (s'', events) := evaluateLoop rolls e recs s'
      (s'', sent ++ events)

def evaluate (reg : Registry) (rolls : String → ℚ) (t : Trace) (s : Scheduler) :
    Scheduler × List Event :=
  let scope := reg.enabledForOrg t.orgID
  evaluateLoop rolls ⟨t, scope⟩ scope s

def pluginByNameForOrg (reg : Registry) (orgID name : String) : Option Plugin :=
  ((reg.enabledForOrg (normalizeOrgID orgID)).find? (·.plugin.name = name)).map (·.plugin)

structure System where
  reg : Registry
  sched : Scheduler

inductive Op
  | evaluate (t : Trace) (rolls : String → ℚ)
  | reconcile
  | load (reg : Registry)
  | tick (i : ℕ)
  | exit (i : ℕ)
  | fireManual (orgID name : String)
  | fireScheduled (orgID name : String)
  | drain (i : ℕ) (delivered : Bool)
  | stop

def System.fireBy (s : System) (fire : Scheduler → Plugin → Scheduler × List Event)
    (orgID name : String) : System × List Event :=
  match pluginByNameForOrg s.reg orgID name with
  | none => (s, [])
  | some p => ({ s with sched := (fire s.sched p).1 }, (fire s.sched p).2)

def System.step (s : System) : Op → System × List Event
  | .evaluate t rolls =>
    ({ s with sched := (Evals.evaluate s.reg rolls t s.sched).1 },
      (Evals.evaluate s.reg rolls t s.sched).2)
  | .reconcile => ({ s with sched := s.sched.reconcile s.reg }, [])
  | .load reg => ({ s with reg := reg }, [])
  | .tick i => ({ s with sched := s.sched.tick i }, [])
  | .exit i => ({ s with sched := s.sched.exit i }, [])
  | .fireManual orgID name => s.fireBy Scheduler.fireManual orgID name
  | .fireScheduled orgID name => s.fireBy Scheduler.fireScheduled orgID name
  | .drain i delivered =>
    ({ s with sched := (s.sched.drainStep i delivered).1 }, (s.sched.drainStep i delivered).2)
  | .stop => ({ s with sched := s.sched.stop }, [])

def system : Machine System Op (List Event) := ⟨System.step⟩

variable (maxBufferPerPlugin : Int)

def boot (reg : Registry) : System :=
  ⟨reg, Scheduler.new maxBufferPerPlugin⟩

structure CanBuffer (reg : Registry) (orgID : String) (p : Plugin) : Prop where
  inScope : ∃ rec ∈ reg.enabledForOrg orgID, rec.plugin = p
  remote : p.service.type ≠ .heuristic
  scheduled : p.send.trigger = .scheduled
  sampled : p.send.sampling.above 0

def CanFlush (reg : Registry) (p : Plugin) : Prop :=
  (∃ rec, (Scheduler.wanted reg).lookup p.name = some rec ∧ rec.plugin = p ∧
    0 < p.collect.interval) ∨
  (∃ orgID, pluginByNameForOrg reg orgID p.name = some p ∧
    (p.send.trigger = .manual ∨ p.send.trigger = .scheduled))

def Event.Apart : Event → Prop
  | .flushed e p => ∃ rec ∈ e.scope, rec.plugin = p
  | _ => True

section
variable {rolls : String → ℚ} {e e' : Entry} {s : Scheduler} {name : String}

lemma sampleTrace_pos {p : Float64} {roll : ℚ} (h : sampleTrace p roll = true) :
    p.above 0 = true := by
  cases p with
  | nan => cases h
  | num v =>
    refine decide_eq_true ?_
    rw [sampleTrace] at h
    split_ifs at h with hone hzero
    · exact lt_of_lt_of_le one_pos hone
    · exact not_le.mp hzero

lemma sampleTrace_zero {p : Float64} (h : p.above 0 = true) : sampleTrace p 0 = true := by
  cases p with
  | nan => cases h
  | num v => exact gate_zero (of_decide_eq_true h)

lemma dispatchForwarded_sched (s : Scheduler) (rec : Record) (e : Entry) :
    (dispatchForwarded s rec e).1 =
      if rec.plugin.send.trigger = .scheduled then (s.enqueue rec.plugin e).1 else s := by
  unfold dispatchForwarded
  cases htrigger : rec.plugin.send.trigger with
  | scheduled =>
    obtain ⟨s', err⟩ := s.enqueue rec.plugin e
    cases err <;> rfl
  | onTrace => rfl
  | manual => rfl
  | other text => rfl

def buffers (rolls : String → ℚ) (rec : Record) : Bool :=
  sampleTrace rec.plugin.send.sampling (rolls rec.plugin.name) &&
    rec.plugin.service.type ≠ .heuristic && rec.plugin.send.trigger = .scheduled

lemma evaluateLoop_sched (rolls : String → ℚ) (e : Entry) (recs : List Record) (s : Scheduler) :
    (evaluateLoop rolls e recs s).1 = s.enqueueAll (recs.filter (buffers rolls)) e := by
  induction recs generalizing s with
  | nil => rfl
  | cons rec recs ih =>
    by_cases hsample : sampleTrace rec.plugin.send.sampling (rolls rec.plugin.name) = true
    · by_cases hlocal : rec.plugin.service.type = .heuristic
      · have hnot : buffers rolls rec = false := by simp [buffers, hlocal]
        simp only [evaluateLoop, hsample, hlocal, if_true, filter_cons, hnot]
        exact ih s
      have hbuffers : buffers rolls rec = decide (rec.plugin.send.trigger = .scheduled) := by
        simp [buffers, hsample, hlocal]
      simp only [evaluateLoop, hsample, hlocal, if_false, filter_cons, hbuffers]
      rw [ih, dispatchForwarded_sched]
      by_cases htrigger : rec.plugin.send.trigger = .scheduled
      · simp [htrigger]
      · simp [htrigger]
    · have hnot : buffers rolls rec = false := by simp [buffers, hsample]
      simp only [evaluateLoop, hsample, filter_cons, hnot]
      exact ih s

lemma canBuffer_of_buffers {reg : Registry} {orgID : String} {rec : Record}
    (hmem : rec ∈ reg.enabledForOrg orgID) (h : buffers rolls rec = true) :
    CanBuffer reg orgID rec.plugin := by
  unfold buffers at h
  simp only [Bool.and_eq_true, decide_eq_true_eq] at h
  obtain ⟨⟨hsample, hremote⟩, hscheduled⟩ := h
  exact ⟨⟨rec, hmem, rfl⟩, hremote, hscheduled, sampleTrace_pos hsample⟩

lemma apart_of_mem_evaluateLoop {recs : List Record} {ev : Event}
    (h : ev ∈ (evaluateLoop rolls e recs s).2) : ev.Apart := by
  have hforward : ∀ (s : Scheduler) (rec : Record),
      ev ∈ (dispatchForwarded s rec e).2 → ev.Apart := by
    intro s rec h
    unfold dispatchForwarded at h
    split at h
    · rw [mem_singleton.mp h]
      trivial
    · split at h
      · rw [mem_singleton.mp h]
        trivial
      · cases h
    · cases h
    · rw [mem_singleton.mp h]
      trivial
  induction recs generalizing s with
  | nil => cases h
  | cons rec recs ih =>
    simp only [evaluateLoop] at h
    split_ifs at h
    · exact ih h
    · rcases mem_cons.mp h with rfl | h
      · trivial
      · exact ih h
    · rcases mem_append.mp h with h | h
      · exact hforward s rec h
      · exact ih h

end

def traceOf (orgID : String) : Trace := { (default : Trace) with orgID := orgID }

def OneVendor (regs : Set Registry) : Prop :=
  ∀ reg ∈ regs, ∀ reg' ∈ regs, ∀ (orgID : String) (p q : Plugin),
    CanBuffer reg orgID p → CanFlush reg' q → p.name = q.name → p = q

section
variable {regs : Set Registry} {s : System}

def BufferedFrom (regs : Set Registry) (name : String) (e : Entry) : Prop :=
  ∃ reg ∈ regs, ∃ p, e.scope = reg.enabledForOrg e.trace.orgID ∧
    CanBuffer reg e.trace.orgID p ∧ p.name = name

def FlushedBy (regs : Set Registry) (p : Plugin) (buffer : String) : Prop :=
  ∃ reg ∈ regs, CanFlush reg p ∧ p.name = buffer

structure Sourced (regs : Set Registry) (s : System) : Prop where
  reg : s.reg ∈ regs
  queues : ∀ name, ∀ e ∈ s.sched.queue name, BufferedFrom regs name e
  loops : s.sched.Loops (FlushedBy regs)
  drains : ∀ d ∈ s.sched.drains, FlushedBy regs d.plugin d.buffer ∧
    ∀ x, d.inFlight = some x → BufferedFrom regs d.buffer x.1

variable {reg : Registry}

lemma sourced_boot (hreg : reg ∈ regs) : Sourced regs (boot maxBufferPerPlugin reg) where
  reg := hreg
  queues := by
    intro name e he
    simp [boot, Scheduler.new, Scheduler.queue] at he
  loops := by
    intro l hl
    cases hl
  drains := by
    intro d hd
    cases hd

variable {orgID : String} {p : Plugin}

lemma pluginByNameForOrg_name {name : String} (h : pluginByNameForOrg reg orgID name = some p) :
    p.name = name := by
  obtain ⟨rec, hfind, rfl⟩ := Option.map_eq_some_iff.mp h
  simpa using find?_some hfind

lemma Sourced.beginDrain (h : Sourced regs s) {buffer : String} (hp : FlushedBy regs p buffer) :
    Sourced regs { s with sched := s.sched.beginDrain p buffer } where
  reg := h.reg
  queues := h.queues
  loops := h.loops
  drains := by
    intro d hd
    rcases mem_append.mp hd with hd | hd
    · exact h.drains d hd
    · rw [mem_singleton.mp hd]
      exact ⟨hp, fun _ => nofun⟩

variable {fire : Scheduler → Plugin → Scheduler × List Event}

lemma apart_of_mem_fireBy {trigger : Trigger} (hfire : Scheduler.Fires fire trigger)
    {name : String} {ev : Event} (hev : ev ∈ (s.fireBy fire orgID name).2) : ev.Apart := by
  unfold System.fireBy at hev
  split at hev
  · cases hev
  rename_i p hp
  rcases hfire s.sched p with ⟨-, hdrain⟩ | ⟨-, err, hrefused⟩
  · rw [hdrain] at hev
    unfold Scheduler.fire at hev
    split at hev
    · rw [mem_singleton.mp hev]
      trivial
    · cases hev
  · rw [hrefused] at hev
    rw [mem_singleton.mp hev]
    trivial

section
variable (h : Sourced regs s)
include h

lemma Sourced.fireBy {name : String} {trigger : Trigger}
    (hfire : Scheduler.Fires fire trigger) (htrigger : trigger = .manual ∨ trigger = .scheduled) :
    Sourced regs (s.fireBy fire orgID name).1 := by
  unfold System.fireBy
  split
  · exact h
  rename_i p hp
  have hname := pluginByNameForOrg_name hp
  subst hname
  rcases hfire s.sched p with ⟨heq, hdrain⟩ | ⟨-, err, hrefused⟩
  · rw [hdrain]
    subst heq
    unfold Scheduler.fire
    split
    · exact h
    · exact h.beginDrain ⟨s.reg, h.reg, Or.inr ⟨orgID, hp, htrigger⟩, rfl⟩
  · rw [hrefused]
    exact h

lemma Sourced.evaluate (t : Trace) (rolls : String → ℚ) :
    Sourced regs { s with sched := (Evals.evaluate s.reg rolls t s.sched).1 } := by
  unfold Evals.evaluate
  simp only [evaluateLoop_sched]
  refine ⟨h.reg, ?_, ?_, ?_⟩
  · intro name e he
    rcases Scheduler.mem_queue_enqueueAll he with he | ⟨rfl, rec, hmem, hname⟩
    · exact h.queues name e he
    · obtain ⟨hmem, hbuffers⟩ := mem_filter.mp hmem
      exact ⟨s.reg, h.reg, rec.plugin, rfl, canBuffer_of_buffers hmem hbuffers, hname⟩
  · rw [Scheduler.enqueueAll_frame]
    exact h.loops
  · rw [Scheduler.enqueueAll_frame]
    exact h.drains

lemma Sourced.reconcile : Sourced regs { s with sched := s.sched.reconcile s.reg } := by
  obtain ⟨hbuffers, hdrains, -⟩ := Scheduler.reconcile_frame s.reg s.sched
  refine ⟨h.reg, ?_, ?_, ?_⟩
  · intro name e he
    simp only [Scheduler.queue, hbuffers] at he
    exact h.queues name e he
  · refine h.loops.reconcile ?_
    intro name rec hwanted hivl
    obtain ⟨-, hname, -⟩ := Scheduler.lookup_wanted hwanted
    subst hname
    exact ⟨s.reg, h.reg, Or.inl ⟨rec, hwanted, rfl, hivl⟩, rfl⟩
  · intro d hd
    rw [hdrains] at hd
    exact h.drains d hd

lemma Sourced.drainStep (i : ℕ) (delivered : Bool) :
    Sourced regs { s with sched := (s.sched.drainStep i delivered).1 } := by
  cases hd : s.sched.drains[i]? with
  | none =>
    rw [Scheduler.drainStep_none hd]
    exact h
  | some d =>
    have hdrain := h.drains d (mem_of_getElem? hd)
    cases hfree : d.inFlight with
    | some x =>
      rw [Scheduler.drainStep_dispatch hd hfree]
      refine ⟨h.reg, h.queues, h.loops, fun d' hd' => ?_⟩
      rcases mem_or_eq_of_mem_set hd' with hd' | rfl
      · exact h.drains d' hd'
      · exact ⟨hdrain.1, fun _ => nofun⟩
    | none =>
      cases hq : s.sched.queue d.buffer with
      | nil =>
        rw [Scheduler.drainStep_nil hd hfree hq]
        exact ⟨h.reg, h.queues, h.loops, fun d' hd' => h.drains d' (mem_of_mem_eraseIdx hd')⟩
      | cons e rest =>
        rw [Scheduler.drainStep_pop hd hfree hq]
        refine ⟨h.reg, ?_, h.loops, ?_⟩
        · -- the buffer's own queue loses its first trace, the others stay
          intro name e' he'
          apply h.queues name e'
          by_cases hname : name = d.buffer
          · subst hname
            simp only [Scheduler.queue, AList.lookup_insert] at he'
            rw [hq]
            exact mem_cons_of_mem _ he'
          · simpa only [Scheduler.queue, AList.lookup_insert_ne hname] using he'
        · intro d' hd'
          rcases mem_or_eq_of_mem_set hd' with hd' | rfl
          · exact h.drains d' hd'
          · refine ⟨hdrain.1, fun x hx => ?_⟩
            obtain rfl := Option.some.inj hx
            exact h.queues d.buffer e (by simp [hq])

lemma Sourced.step {op : Op} (hload : ∀ reg, op = .load reg → reg ∈ regs) :
    Sourced regs (system.step s op).1 := by
  cases op with
  | evaluate t rolls => exact h.evaluate t rolls
  | reconcile => exact h.reconcile
  | load reg => exact ⟨hload reg rfl, h.queues, h.loops, h.drains⟩
  | tick i =>
    change Sourced regs { s with sched := s.sched.tick i }
    unfold Scheduler.tick
    split
    · exact h
    · rename_i l hl
      exact h.beginDrain (h.loops l (mem_of_getElem? hl))
  | exit i =>
    change Sourced regs { s with sched := s.sched.exit i }
    unfold Scheduler.exit
    split_ifs
    · exact ⟨h.reg, h.queues, fun l hl => h.loops l (mem_of_mem_eraseIdx hl), h.drains⟩
    · exact h
  | fireManual orgID name => exact h.fireBy Scheduler.fires_fireManual (Or.inl rfl)
  | fireScheduled orgID name => exact h.fireBy Scheduler.fires_fireScheduled (Or.inr rfl)
  | drain i delivered => exact h.drainStep i delivered
  | stop =>
    refine ⟨h.reg, h.queues, ?_, h.drains⟩
    intro l hl
    obtain ⟨l', hl', rfl⟩ := mem_map.mp hl
    exact h.loops l' hl'

lemma Sourced.apart (hone : OneVendor regs) {op : Op} {ev : Event}
    (hev : ev ∈ (system.step s op).2) : ev.Apart := by
  cases op with
  | evaluate t rolls => exact apart_of_mem_evaluateLoop hev
  | fireManual orgID name => exact apart_of_mem_fireBy Scheduler.fires_fireManual hev
  | fireScheduled orgID name => exact apart_of_mem_fireBy Scheduler.fires_fireScheduled hev
  | drain i delivered =>
    change ev ∈ (s.sched.drainStep i delivered).2 at hev
    cases hd : s.sched.drains[i]? with
    | none =>
      rw [Scheduler.drainStep_none hd] at hev
      cases hev
    | some d =>
      obtain ⟨⟨reg', hreg', hflush, hname'⟩, hflight⟩ := h.drains d (mem_of_getElem? hd)
      cases hfree : d.inFlight with
      | some x =>
        rw [Scheduler.drainStep_dispatch hd hfree, mem_singleton] at hev
        rw [hev]
        obtain ⟨reg, hreg, p, hscope, hbuffer, hname⟩ := hflight x hfree
        have heq : p = d.plugin :=
          hone reg hreg reg' hreg' _ p d.plugin hbuffer hflush (hname.trans hname'.symm)
        change ∃ rec ∈ x.1.scope, rec.plugin = d.plugin
        rw [hscope, ← heq]
        exact hbuffer.inScope
      | none =>
        cases hq : s.sched.queue d.buffer with
        | nil =>
          rw [Scheduler.drainStep_nil hd hfree hq, mem_singleton] at hev
          rw [hev]
          trivial
        | cons e rest =>
          rw [Scheduler.drainStep_pop hd hfree hq] at hev
          cases hev
  | reconcile => cases hev
  | load reg => cases hev
  | tick i => cases hev
  | exit i => cases hev
  | stop => cases hev

end

variable {q : Plugin}

lemma fireBy_sched (hfire : Scheduler.Fires fire q.send.trigger) (hs : s.sched.stopped = false)
    (hplugin : pluginByNameForOrg s.reg orgID q.name = some q) :
    (s.fireBy fire orgID q.name).1.sched = s.sched.beginDrain q q.name := by
  unfold System.fireBy
  rw [hplugin]
  rcases hfire s.sched q with ⟨-, hdrain⟩ | ⟨hne, -⟩
  · simp only [hdrain, Scheduler.fire_of_running hs]
  · exact absurd rfl hne

lemma exists_drain (hs : s.sched.stopped = false) (hidle : s.sched.drains = [])
    (hnone : s.sched.schedules = ∅) (hflush : CanFlush s.reg q) :
    ∃ ops, (∀ reg, Op.load reg ∉ ops) ∧
      (system.run s ops).sched.drains = [{ plugin := q, buffer := q.name }] ∧
      (system.run s ops).sched.buffers = s.sched.buffers := by
  have hbegin : ∀ (ops : List Op) (sched : Scheduler), (∀ reg, Op.load reg ∉ ops) →
      (system.run s ops).sched = sched.beginDrain q q.name →
      sched.buffers = s.sched.buffers → sched.drains = s.sched.drains →
      ∃ ops, (∀ reg, Op.load reg ∉ ops) ∧
        (system.run s ops).sched.drains = [{ plugin := q, buffer := q.name }] ∧
        (system.run s ops).sched.buffers = s.sched.buffers := by
    intro ops sched hops hrun hbuffers hdrains
    refine ⟨ops, hops, ?_, ?_⟩
    · rw [hrun, Scheduler.beginDrain, hdrains, hidle]
      rfl
    · rw [hrun]
      exact hbuffers
  rcases hflush with ⟨rec, hwanted, rfl, hivl⟩ | ⟨orgID, hplugin, htrigger⟩
  · obtain ⟨l, hl, hp, hbuffer⟩ := Scheduler.runs_reconcile hs hnone hwanted hivl
    obtain ⟨i, hi⟩ := mem_iff_getElem?.mp hl
    obtain ⟨hbuffers, hdrains, -⟩ := Scheduler.reconcile_frame s.reg s.sched
    refine hbegin [.reconcile, .tick i] _ (by simp) ?_ hbuffers hdrains
    change (s.sched.reconcile s.reg).tick i = _
    unfold Scheduler.tick
    rw [hi]
    simp only [hp, hbuffer]
  · rcases htrigger with htrigger | htrigger
    · have hfire : Scheduler.Fires Scheduler.fireManual q.send.trigger := by
        rw [htrigger]
        exact Scheduler.fires_fireManual
      exact hbegin [.fireManual orgID q.name] s.sched (by simp) (fireBy_sched hfire hs hplugin)
        rfl rfl
    · have hfire : Scheduler.Fires Scheduler.fireScheduled q.send.trigger := by
        rw [htrigger]
        exact Scheduler.fires_fireScheduled
      exact hbegin [.fireScheduled orgID q.name] s.sched (by simp) (fireBy_sched hfire hs hplugin)
        rfl rfl

lemma CanBuffer.buffers {rec : Record} (h : CanBuffer reg orgID rec.plugin) :
    buffers (fun _ => 0) rec = true := by
  have hsample : sampleTrace rec.plugin.send.sampling 0 = true := sampleTrace_zero h.sampled
  simp [Evals.buffers, hsample, h.remote, h.scheduled]

lemma exists_queue_evaluate (hbuffer : CanBuffer reg orgID p) (maxBufferPerPlugin : Int) :
    ∃ rest, (evaluate reg (fun _ => 0) (traceOf orgID) (Scheduler.new maxBufferPerPlugin)).1.queue
      p.name = ⟨traceOf orgID, reg.enabledForOrg orgID⟩ :: rest := by
  obtain ⟨rec, hmem, rfl⟩ := hbuffer.inScope
  have hmem := mem_filter.mpr ⟨hmem, hbuffer.buffers⟩
  unfold evaluate
  simp only [evaluateLoop_sched]
  have hne := Scheduler.queue_enqueueAll_of_mem (s := Scheduler.new maxBufferPerPlugin)
    (e := ⟨traceOf orgID, reg.enabledForOrg orgID⟩) rfl hmem hbuffer.scheduled
  obtain ⟨e, rest, hq⟩ := exists_cons_of_ne_nil hne
  refine ⟨rest, ?_⟩
  have he : e ∈ e :: rest := mem_cons_self
  rw [← hq] at he
  rcases Scheduler.mem_queue_enqueueAll he with hold | ⟨heq, -⟩
  · simp [Scheduler.new, Scheduler.queue] at hold
  · rw [← heq]
    exact hq

lemma exists_run_flushed {reg' : Registry} (hbuffer : CanBuffer reg orgID p)
    (hflush : CanFlush reg' q) (hname : p.name = q.name) (maxBufferPerPlugin : Int)
    (reg0 : Registry) : ∃ ops, (∀ r, Op.load r ∈ ops → r = reg ∨ r = reg') ∧
      Event.flushed ⟨traceOf orgID, reg.enabledForOrg orgID⟩ q ∈
        (system.step (system.run (boot maxBufferPerPlugin reg0) ops) (.drain 0 true)).2 := by
  let sched := (evaluate reg (fun _ => 0) (traceOf orgID) (Scheduler.new maxBufferPerPlugin)).1
  have hframe : sched = { Scheduler.new maxBufferPerPlugin with buffers := sched.buffers } := by
    unfold sched evaluate
    simp only [evaluateLoop_sched]
    exact Scheduler.enqueueAll_frame _ _ _
  obtain ⟨rest, hq⟩ := exists_queue_evaluate hbuffer maxBufferPerPlugin
  obtain ⟨ops, hops, hdrains, hbuffers⟩ := exists_drain (s := ⟨reg', sched⟩)
    (by rw [hframe]; rfl) (by rw [hframe]; rfl) (by rw [hframe]; rfl) hflush
  refine ⟨[.load reg, .evaluate (traceOf orgID) (fun _ => 0), .load reg'] ++ ops ++
    [.drain 0 true], ?_, ?_⟩
  · intro r hload
    simp only [mem_append, mem_cons, not_mem_nil, or_false, reduceCtorEq,
      false_or, Op.load.injEq, hops, or_false] at hload
    exact hload
  · have hrun : system.run (boot maxBufferPerPlugin reg0)
        ([.load reg, .evaluate (traceOf orgID) (fun _ => 0), .load reg'] ++ ops) =
          system.run ⟨reg', sched⟩ ops := by
      rfl
    have hqueue : (system.run ⟨reg', sched⟩ ops).sched.queue q.name =
        ⟨traceOf orgID, reg.enabledForOrg orgID⟩ :: rest := by
      rw [← hname, ← hq]
      unfold Scheduler.queue
      rw [hbuffers]
    -- one step takes the trace out, the next one sends it
    rw [Machine.run_append, hrun]
    have hpop : Scheduler.drainStep _ 0 true = _ :=
      Scheduler.drainStep_pop (by rw [hdrains]; rfl) rfl hqueue
    change _ ∈ (Scheduler.drainStep (Scheduler.drainStep _ 0 true).1 0 true).2
    rw [hpop, hdrains]
    exact mem_singleton_self _

theorem tenants_apart_iff (regs : Set Registry) (reg₀ : Registry) (hreg₀ : reg₀ ∈ regs) :
    (∀ ops : List Op, (∀ reg, Op.load reg ∈ ops → reg ∈ regs) →
      system.Along (fun s op => ∀ ev ∈ (system.step s op).2, ev.Apart)
        (boot maxBufferPerPlugin reg₀) ops) ↔ OneVendor regs := by
  constructor
  · intro hapart reg hreg reg' hreg' orgID p q hbuffer hflush hname
    obtain ⟨ops, hloads, hsent⟩ := exists_run_flushed hbuffer hflush hname maxBufferPerPlugin reg₀
    have hevent := hapart (ops ++ [.drain 0 true]) ?_ ops (.drain 0 true) [] rfl
    · -- the plugin it is sent with was in scope, where a name stands once
      obtain ⟨rec, hmem, rfl⟩ := hevent _ hsent
      obtain ⟨rec', hmem', rfl⟩ := hbuffer.inScope
      rw [Registry.eq_of_mem_enabledForOrg hmem' hmem hname]
    · intro r hload
      have hload : Op.load r ∈ ops := by simpa using hload
      rcases hloads r hload with rfl | rfl
      · exact hreg
      · exact hreg'
  · intro hone ops hloads
    have hok : system.Along (fun _ op => ∀ reg, op = Op.load reg → reg ∈ regs)
        (boot maxBufferPerPlugin reg₀) ops := by
      rintro before op after rfl reg rfl
      exact hloads reg (by simp)
    have hsourced := hok.invariant (P := Sourced regs) (fun s op h hload => h.step hload)
      (sourced_boot maxBufferPerPlugin hreg₀)
    intro before op after heq ev hev
    exact (hsourced before op after heq).1.apart hone hev

lemma oneVendor_of_name_inj
    (h : ∀ reg ∈ regs, ∀ reg' ∈ regs, ∀ rec ∈ reg.records, ∀ rec' ∈ reg'.records,
      rec.plugin.name = rec'.plugin.name → rec.plugin = rec'.plugin) : OneVendor regs := by
  intro reg hreg reg' hreg' orgID p q hbuffer hflush hname
  obtain ⟨rec, hmem, rfl⟩ := hbuffer.inScope
  obtain ⟨hrec, -⟩ := Registry.mem_enabledForOrg hmem
  have hflush : ∃ rec' ∈ reg'.records, rec'.plugin = q := by
    rcases hflush with ⟨rec', hwanted, hq, -⟩ | ⟨orgID', hplugin, -⟩
    · obtain ⟨hmem', -, -⟩ := Scheduler.lookup_wanted hwanted
      exact ⟨rec', (Registry.mem_enabled.mp hmem').1, hq⟩
    · obtain ⟨rec', hfind, hq⟩ := Option.map_eq_some_iff.mp hplugin
      exact ⟨rec', (Registry.mem_enabledForOrg (mem_of_find?_eq_some hfind)).1, hq⟩
  obtain ⟨rec', hrec', rfl⟩ := hflush
  exact h reg hreg reg' hreg' rec hrec rec' hrec' hname

end

def minutely (name endpoint : String) : Plugin where
  apiVersion := .v1alpha1
  kind := "EvalPlugin"
  name := name
  service :=
    { type := .langSmith
      endpoint := endpoint
      auth := { secretRef := name, keyRef := "api_key" } }
  send := { trigger := .scheduled, sampling := .num 1 }
  collect := { mode := .webhook, interval := 60000000000 }

def installed (orgID : String) (p : Plugin) : Record where
  plugin := p
  source := { kind := .database }
  enabled := true
  orgID := orgID

def twoTenants (name : String) : Registry :=
  (Registry.new.merge [installed "acme" (minutely "judge" "https://acme.example"),
    installed "globex" (minutely name "https://globex.example")]).1

theorem tenants_apart_two_names : OneVendor {twoTenants "grader"} ∧
      ∀ ops : List Op, (∀ reg, Op.load reg ∈ ops → reg ∈ ({twoTenants "grader"} : Set Registry)) →
        system.Along (fun s op => ∀ ev ∈ (system.step s op).2, ev.Apart)
          (boot 0 (twoTenants "grader")) ops := by
  have hone : OneVendor {twoTenants "grader"} := by
    apply oneVendor_of_name_inj
    rintro _ rfl _ rfl
    decide
  exact ⟨hone, (tenants_apart_iff 0 {twoTenants "grader"} (twoTenants "grader") rfl).mpr hone⟩

theorem other_tenants_vendor : ¬ ∀ (maxBufferPerPlugin : Int) (reg₀ : Registry) (ops : List Op),
      (∀ reg, Op.load reg ∉ ops) → system.Along (fun s op => ∀ ev ∈ (system.step s op).2, ev.Apart)
        (boot maxBufferPerPlugin reg₀) ops := by
  intro h
  let ops : List Op :=
    [.reconcile, .evaluate (traceOf "acme") (fun _ => 0), .tick 0, .drain 0 true]
  have hrun := h 0 (twoTenants "judge") (ops ++ [.drain 0 true]) (by simp [ops]) ops
    (.drain 0 true) [] rfl
  have hsent : Event.flushed
      ⟨traceOf "acme", [installed "acme" (minutely "judge" "https://acme.example")]⟩
      (minutely "judge" "https://globex.example") ∈
        (system.step (system.run (boot 0 (twoTenants "judge")) ops) (.drain 0 true)).2 := by
    decide
  obtain ⟨rec, hmem, hplugin⟩ := hrun _ hsent
  rw [mem_singleton.mp hmem] at hplugin
  exact absurd hplugin (by decide)

end FfxNexus.Evals
