/-
**Delivery of scheduled traces** (`internal/evaluators/external/scheduler.go`): which traces of a
fair run reach the vendor. Fairness is asked of what exists (a flush loop, a drain, a call of the
dispatcher); that a loop exists follows from what a sweep starts.
-/
import FfxNexus.Evals.Workers

open List

namespace FfxNexus.Evals.Scheduler
open Go

def before (cap : Int) (ops : ℕ → SchedOp) (n : ℕ) : Scheduler :=
  machine.run (new cap) (Machine.upTo ops n)

def movedBefore (cap : Int) (ops : ℕ → SchedOp) (n : ℕ) : List (Option Moved) :=
  machine.trace (new cap) (Machine.upTo ops n)

variable (cap : Int) (ops : ℕ → SchedOp)

/-- A drain of the buffer is about to take the next trace out. -/
def Waiting (name : String) (n : ℕ) : Prop :=
  ∃ d ∈ (before cap ops n).drains, d.buffer = name ∧ d.inFlight = none

structure Fair (p : Plugin) : Prop where
  scheduled : p.send.trigger = .scheduled
  running : ∀ n, ops n ≠ .stop
  enabled : ∀ n reg, ops n = .reconcile reg → ∃ rec ∈ reg.enabled, rec.plugin = p
  reconciles : ∀ n, ∃ m ≥ n, ∃ reg, ops m = .reconcile reg
  /-- While the plugin has a flush loop, one ticks, or a drain is still at work. -/
  ticks : ∀ n, (∀ m ≥ n, (before cap ops m).running p.name ≠ []) → ∃ m ≥ n,
    Waiting cap ops p.name m ∨ ∃ i l, ops m = .tick i ∧
      (before cap ops m).loops[i]? = some l ∧ l.buffer = p.name
  /-- Where a drain waits, one goes on. -/
  drains : ∀ n, Waiting cap ops p.name n → ∃ m ≥ n, ∃ i delivered d,
    ops m = .drain i delivered ∧ (before cap ops m).drains[i]? = some d ∧
      d.buffer = p.name ∧ d.inFlight = none
  /-- Every call of the dispatcher returns. -/
  returns : ∀ n, ∀ x ∈ (before cap ops n).flights p.name, ∃ m ≥ n,
    x ∉ (before cap ops m).flights p.name

/-- A sweep finds an enabled scheduled plugin of the name with an interval to tick by. -/
def Timed (name : String) : Prop :=
  ∀ n reg rec, ops n = .reconcile reg → (wanted reg).lookup name = some rec →
    0 < rec.plugin.collect.interval

/-- The trace accepted in the `k`-th place is at some time dispatched with success. -/
def Delivers (name : String) : Prop :=
  ∀ (n k : ℕ) (e : Entry),
    (acceptedInto name (movedBefore cap ops n))[k]? = some e →
    ∃ m, ((e, k), true) ∈ sentFrom name (movedBefore cap ops m)

variable {cap ops}

lemma accounted_before (n : ℕ) :
    Accounted (before cap ops n) (movedBefore cap ops n) :=
  accounted_run cap (Machine.upTo ops n)

lemma before_succ (n : ℕ) : before cap ops (n + 1) =
    ((before cap ops n).perform (ops n)).1 := by
  rw [before, Machine.upTo_add, Machine.run_append]
  rfl

variable {name : String} {m n k : ℕ} {e : Entry} {x : Entry × ℕ} {delivered : Bool}

lemma movedBefore_mono (h : m ≤ n) : movedBefore cap ops m <+:
    movedBefore cap ops n :=
  machine.trace_upTo_prefix _ ops h

lemma getElem?_of_isPrefix {α : Type} {l l' : List α} {a : α} (h : l <+: l')
    (hk : l[k]? = some a) : l'[k]? = some a := by
  obtain ⟨hlt, -⟩ := List.getElem?_eq_some_iff.mp hk
  obtain ⟨rest, rfl⟩ := h
  rw [getElem?_append_left hlt]
  exact hk

lemma acceptedInto_mono (h : m ≤ n) : acceptedInto name (movedBefore cap ops m) <+:
    acceptedInto name (movedBefore cap ops n) :=
  (movedBefore_mono h).filterMap _

lemma poppedFrom_mono (h : m ≤ n) : poppedFrom name (movedBefore cap ops m) <+:
    poppedFrom name (movedBefore cap ops n) :=
  (movedBefore_mono h).filterMap _

lemma sentFrom_mono (h : m ≤ n) : sentFrom name (movedBefore cap ops m) <+:
    sentFrom name (movedBefore cap ops n) :=
  (movedBefore_mono h).filterMap _

/-- A trace has left the buffer with a number, so it was accepted in that place. -/
lemma accepted_of_sent
    (h : ((e, k), delivered) ∈ sentFrom name (movedBefore cap ops n)) :
    (acceptedInto name (movedBefore cap ops n))[k]? = some e := by
  have haccounted : Accounted (before cap ops n) _ := accounted_before n
  have hmem : (e, k) ∈ (sentFrom name (movedBefore cap ops n)).map Prod.fst ++
      (before cap ops n).flights name :=
    mem_append_left _ (mem_map_of_mem h)
  have hpopped : (poppedFrom name (movedBefore cap ops n))[k]? = some e :=
    mem_zipIdx_iff_getElem?.mp ((haccounted.once name).mem_iff.mp hmem)
  obtain ⟨hlt, -⟩ := List.getElem?_eq_some_iff.mp hpopped
  rw [haccounted.order, getElem?_append_left hlt]
  exact hpopped

/-- One number is dispatched once, so with one result. -/
lemma sent_unique (htrue : (x, true) ∈ sentFrom name (movedBefore cap ops m))
    (hfalse : (x, false) ∈ sentFrom name (movedBefore cap ops n)) : False := by
  have hm := (sentFrom_mono (le_max_left m n)).subset htrue
  have hn := (sentFrom_mono (le_max_right m n)).subset hfalse
  have hnumbers : (poppedFrom name (movedBefore cap ops (max m n))).zipIdx.Nodup :=
    .of_map Prod.snd (by rw [zipIdx_map_snd]; exact nodup_range')
  have hnodup := ((accounted_before (max m n)).once name).symm.nodup hnumbers
  exact Bool.false_ne_true
    (congrArg Prod.snd (inj_on_of_nodup_map hnodup.of_append_left hn hm rfl))

/-! ## A loop for the plugin -/

lemma schedules_perform (s : Scheduler) {op : SchedOp} (hstop : op ≠ .stop)
    (hreconcile : ∀ reg, op ≠ .reconcile reg) : (s.perform op).1.schedules = s.schedules := by
  cases op with
  | enqueue p e => rw [perform, s.enqueue_frame p e]
  | reconcile reg => exact absurd rfl (hreconcile reg)
  | tick i => grind [perform, s.tick_cases i, beginDrain]
  | exit i => grind [perform, s.exit_cases i]
  | fireManual p => grind [perform, fires_fireManual.cases s p, beginDrain]
  | fireScheduled p => grind [perform, fires_fireScheduled.cases s p, beginDrain]
  | drain i delivered => exact (s.drain_turn i delivered).frame.1
  | stop => exact absurd rfl hstop

variable {p : Plugin}

lemma Fair.stopped (h : Fair cap ops p) (n : ℕ) :
    (before cap ops n).stopped = false := by
  induction n with
  | zero => rfl
  | succ n ih =>
    rw [before_succ, stopped_perform _ (h.running n)]
    exact ih

lemma Fair.exists_wanted (h : Fair cap ops p) {reg : Registry}
    (hop : ops n = .reconcile reg) : ∃ rec, (wanted reg).lookup p.name = some rec := by
  obtain ⟨rec, hmem, rfl⟩ := h.enabled n reg hop
  have hrec : rec ∈ reg.scheduled.filter fun r => r.plugin.name = rec.plugin.name := by
    rw [mem_filter, Registry.scheduled, mem_filter]
    exact ⟨⟨hmem, decide_eq_true h.scheduled⟩, decide_eq_true rfl⟩
  rw [lookup_wanted_eq]
  exact ⟨_, getLast?_eq_some_getLast (ne_nil_of_mem hrec)⟩

/-- A sweep starts a loop for the plugin, and every later one keeps one. -/
lemma Fair.exists_running (h : Fair cap ops p) (hivl : Timed ops p.name) :
    ∃ n, ∀ m ≥ n, (before cap ops m).running p.name ≠ [] := by
  have hsweep : ∀ n reg, ops n = .reconcile reg →
      (before cap ops (n + 1)).schedules.lookup p.name ≠ none := by
    intro n reg hop
    obtain ⟨rec, hwanted⟩ := h.exists_wanted hop
    have hpos := not_le.mpr (hivl n reg rec hop hwanted)
    rw [before_succ, hop, perform, lookup_schedules_reconcile (h.stopped n), hwanted,
      Option.bind_some, rescheduled]
    cases (before cap ops n).schedules.lookup p.name with
    | none => simp [hpos]
    | some cur => split_ifs <;> simp
  obtain ⟨n, -, reg, hop⟩ := h.reconciles 0
  refine ⟨n + 1, fun m hm => ?_⟩
  have hscheduled : (before cap ops m).schedules.lookup p.name ≠ none := by
    induction m, hm using Nat.le_induction with
    | base => exact hsweep n reg hop
    | succ m _ ih =>
      by_cases hreconcile : ∃ reg, ops m = .reconcile reg
      · obtain ⟨reg, hop⟩ := hreconcile
        exact hsweep m reg hop
      · rw [before_succ, schedules_perform _ (h.running m) (not_exists.mp hreconcile)]
        exact ih
  rw [before, (tracked_run cap (Machine.upTo ops m)).running, ← before]
  obtain ⟨cur, hcur⟩ := Option.ne_none_iff_exists'.mp hscheduled
  simp [hcur]

/-! ## Progress -/

lemma waiting_of_tick {i : ℕ} {l : FlushLoop} (hop : ops n = .tick i)
    (hl : (before cap ops n).loops[i]? = some l) (hname : l.buffer = name) :
    Waiting cap ops name (n + 1) := by
  refine ⟨{ plugin := l.plugin, buffer := l.buffer }, ?_, hname, rfl⟩
  rw [before_succ, hop, perform, tick, hl]
  exact mem_append_right _ (mem_singleton_self _)

/-- Again and again a drain takes the next trace out, or finds none. -/
lemma Fair.exists_turn (h : Fair cap ops p) (hivl : Timed ops p.name) (n : ℕ) :
    ∃ m ≥ n, (before cap ops m).queue p.name = [] ∨
      ∃ e, ((before cap ops m).perform (ops m)).2 = some (.popped p.name e) := by
  obtain ⟨n₀, hrunning⟩ := h.exists_running hivl
  have hwaiting : ∃ m ≥ n, Waiting cap ops p.name m := by
    obtain ⟨m, hm, hwaiting | ⟨i, l, hop, hl, hname⟩⟩ := h.ticks (max n n₀)
      fun m hm => hrunning m (le_trans (le_max_right n n₀) hm)
    · exact ⟨m, le_trans (le_max_left n n₀) hm, hwaiting⟩
    · exact ⟨m + 1, by omega, waiting_of_tick hop hl hname⟩
  obtain ⟨m, hm, hwaiting⟩ := hwaiting
  obtain ⟨m', hm', i, delivered, d, hop, hd, hname, hfree⟩ := h.drains m hwaiting
  refine ⟨m', hm.trans hm', ?_⟩
  cases hqueue : (before cap ops m').queue p.name with
  | nil => exact .inl rfl
  | cons e rest =>
    right
    refine ⟨e, ?_⟩
    rw [hop, perform, hd]
    simp [hfree, hname, hqueue]

lemma Fair.exists_popped (h : Fair cap ops p) (hivl : Timed ops p.name) (n : ℕ)
    (hk : k ≤ (acceptedInto p.name (movedBefore cap ops n)).length) :
    ∃ m ≥ n, k ≤ (poppedFrom p.name (movedBefore cap ops m)).length := by
  induction k with
  | zero => exact ⟨n, le_rfl, Nat.zero_le _⟩
  | succ k ih =>
    obtain ⟨m, hm, hlen⟩ := ih (by omega)
    obtain ⟨m', hm', hturn⟩ := h.exists_turn hivl m
    have hgrown : _ ≤ (poppedFrom p.name (movedBefore cap ops m')).length :=
      (poppedFrom_mono hm').length_le
    have haccepted : _ ≤ (acceptedInto p.name (movedBefore cap ops m')).length :=
      (acceptedInto_mono (hm.trans hm')).length_le
    rw [(accounted_before m').order, length_append] at haccepted
    rcases hturn with hempty | ⟨e, hpop⟩
    · rw [hempty, length_nil] at haccepted
      exact ⟨m', hm.trans hm', by omega⟩
    · refine ⟨m' + 1, by omega, ?_⟩
      have hone : poppedFrom p.name [some (.popped p.name e)] = [e] := by simp [poppedFrom]
      have hsucc : poppedFrom p.name (movedBefore cap ops (m' + 1)) =
          poppedFrom p.name (movedBefore cap ops m') ++ [e] := by
        rw [movedBefore, Machine.trace_upTo_succ, poppedFrom, filterMap_append, ← hone, ← hpop]
        rfl
      rw [hsucc, length_append, length_singleton]
      omega

lemma Fair.exists_sent (h : Fair cap ops p) (hivl : Timed ops p.name)
    (hk : (acceptedInto p.name (movedBefore cap ops n))[k]? = some e) :
    ∃ m delivered, ((e, k), delivered) ∈ sentFrom p.name (movedBefore cap ops m) := by
  obtain ⟨hlt, -⟩ := List.getElem?_eq_some_iff.mp hk
  obtain ⟨m, hm, hlen⟩ := h.exists_popped hivl n hlt
  have hpopped : (poppedFrom p.name (movedBefore cap ops m))[k]? = some e := by
    have haccepted := getElem?_of_isPrefix (acceptedInto_mono hm) hk
    rwa [(accounted_before m).order, getElem?_append_left hlen] at haccepted
  -- out of the buffer it is dispatched, or with a drain, whose call returns
  have hleft : ∀ m' ≥ m, (e, k) ∈
      (sentFrom p.name (movedBefore cap ops m')).map Prod.fst ++
        (before cap ops m').flights p.name := by
    intro m' hm'
    refine ((accounted_before m').once p.name).mem_iff.mpr (mem_zipIdx_iff_getElem?.mpr ?_)
    exact getElem?_of_isPrefix (poppedFrom_mono hm') hpopped
  have hsent : ∃ m', (e, k) ∈
      (sentFrom p.name (movedBefore cap ops m')).map Prod.fst := by
    rcases mem_append.mp (hleft m le_rfl) with hsent | hflight
    · exact ⟨m, hsent⟩
    · obtain ⟨m', hm', hback⟩ := h.returns m _ hflight
      exact ⟨m', (mem_append.mp (hleft m' hm')).resolve_right hback⟩
  obtain ⟨m', hsent⟩ := hsent
  obtain ⟨⟨x, delivered⟩, hmem, rfl⟩ := mem_map.mp hsent
  exact ⟨m', delivered, hmem⟩

/-- **Delivery in a fair run**: a plugin whose sweep has an interval loses exactly the traces whose
dispatch fails, since a trace is out of its buffer before it is dispatched. -/
theorem delivers_iff (h : Fair cap ops p) (hivl : Timed ops p.name) :
    Delivers cap ops p.name ↔
      ∀ n x, (x, false) ∉ sentFrom p.name (movedBefore cap ops n) := by
  constructor
  · rintro hdelivers n ⟨e, k⟩ hfailed
    obtain ⟨m, hm⟩ := hdelivers n k e (accepted_of_sent hfailed)
    exact sent_unique hm hfailed
  · intro hnone n k e hk
    obtain ⟨m, delivered, hsent⟩ := h.exists_sent hivl hk
    cases delivered with
    | true => exact ⟨m, hsent⟩
    | false => exact absurd hsent (hnone m _)

/-! ## Two runs without end -/

def judge : Plugin := minutely "judge" "https://acme.example"

def oneTenant (p : Plugin) : Registry := Registry.new.put (installed "acme" p)

/-- A trace is accepted, a drain takes it out, dispatches it and returns. -/
def round (delivered : Bool) : List SchedOp :=
  [.enqueue judge ⟨traceOf "acme", []⟩, .reconcile (oneTenant judge), .tick 0, .drain 0 true,
    .drain 0 delivered, .drain 0 true]

variable (first : Bool)

def rounds (n : ℕ) : SchedOp := (round (first || 6 ≤ n)).getD (n % 6) .stop

/-- The scheduler of the one plugin, with its loop running. -/
def looping (buf : PluginBuffer) (drains : List Drain) : Scheduler :=
  { new 0 with
    buffers := (∅ : GoMap String PluginBuffer).insert "judge" buf
    schedules := (∅ : GoMap String ScheduledFlush).insert "judge" ⟨judge, 60000000000⟩
    loops := [{ plugin := judge, buffer := "judge" }]
    drains }

lemma run_round (k : ℕ) :
    machine.run (looping { taken := k } []) (round true) = looping { taken := k + 1 } [] := by
  have hfilled (e : Entry) : (machine.step (looping { taken := k } []) (.enqueue judge e)).1 =
      looping { ll := [e], taken := k } [] := rfl
  have hswept (buf : PluginBuffer) : (machine.step (looping buf []) (.reconcile
      (oneTenant judge))).1 = looping buf [] := rfl
  simp only [round, Machine.run_cons, hfilled, hswept]
  rfl

lemma mem_rounds (n : ℕ) : rounds first n ∈ round (first || 6 ≤ n) := by
  have hlt : n % 6 < (round (first || 6 ≤ n)).length := Nat.mod_lt n (by decide)
  rw [rounds, getD_eq_getElem?_getD, getElem?_eq_getElem hlt]
  exact getElem_mem hlt

lemma rounds_later (k i : ℕ) : rounds first (6 * k + 6 + i) = (round true).getD (i % 6) .stop := by
  have hlater : (first || decide (6 ≤ 6 * k + 6 + i)) = true := by
    rw [decide_eq_true (by omega), Bool.or_true]
  rw [rounds, hlater]
  congr 1
  omega

lemma before_rounds (k i : ℕ) : before 0 (rounds first) (6 * k + 6 + i) =
    machine.run (looping { taken := k + 1 } [])
      (Machine.upTo (fun i => (round true).getD (i % 6) .stop) i) := by
  have hround : before 0 (rounds first) (6 * k + 6) = looping { taken := k + 1 } [] := by
    induction k with
    | zero =>
      have hops : Machine.upTo (rounds first) 6 = round first := by cases first <;> rfl
      rw [before, Nat.mul_zero, Nat.zero_add, hops]
      rfl
    | succ k ih =>
      have hsplit : 6 * (k + 1) + 6 = 6 * k + 6 + 6 := by omega
      have hops : Machine.upTo (fun i => (round true).getD (i % 6) .stop) 6 = round true := rfl
      rw [hsplit, before, Machine.upTo_add, Machine.run_append, ← before, ih]
      simp only [rounds_later, hops]
      exact run_round (k + 1)
  rw [before, Machine.upTo_add, Machine.run_append, ← before, hround]
  simp only [rounds_later]

lemma fair_rounds : Fair 0 (rounds first) judge where
  scheduled := rfl
  running := by
    intro n hstop
    have hmem := mem_rounds first n
    rw [hstop] at hmem
    simp [round] at hmem
  enabled := by
    intro n reg heq
    have hmem := mem_rounds first n
    rw [heq] at hmem
    obtain rfl : reg = oneTenant judge := by simpa [round] using hmem
    exact ⟨installed "acme" judge, by decide, rfl⟩
  reconciles := fun n => ⟨6 * n + 6 + 1, by omega, oneTenant judge, rounds_later first n 1⟩
  ticks := by
    intro n _
    refine ⟨6 * n + 6 + 2, by omega, .inr ⟨0, ⟨judge, "judge", false⟩, rounds_later first n 2, ?_,
      rfl⟩⟩
    rw [before_rounds]
    rfl
  drains := by
    intro n _
    refine ⟨6 * n + 6 + 3, by omega, 0, true, { plugin := judge, buffer := "judge" },
      rounds_later first n 3, ?_, rfl, rfl⟩
    rw [before_rounds]
    rfl
  returns := by
    intro n x _
    refine ⟨6 * n + 6 + 0, by omega, ?_⟩
    rw [before_rounds]
    exact not_mem_nil

lemma timed_rounds : Timed (rounds first) judge.name := by
  intro n reg rec heq hwanted
  have hmem := mem_rounds first n
  rw [heq] at hmem
  obtain rfl : reg = oneTenant judge := by simpa [round] using hmem
  have hjudge : (wanted (oneTenant judge)).lookup judge.name = some (installed "acme" judge) := rfl
  rw [hjudge] at hwanted
  obtain rfl := Option.some.inj hwanted
  decide

lemma drain_of_sent {s : Scheduler} {op : SchedOp} {buffer : String}
    (h : (s.perform op).2 = some (.sent buffer x delivered)) : ∃ i, op = .drain i delivered := by
  rcases s.perform_cases op with ⟨p, e, rfl⟩ | ⟨i, delivered, rfl⟩ | ⟨hnone, -⟩
  · grind [perform]
  · have hturn := s.drain_turn i delivered
    revert hturn h
    generalize s.perform (.drain i delivered) = r
    intro h hturn
    cases hturn <;> cases h
    exact ⟨i, rfl⟩
  · rw [hnone] at h
    cases h

lemma exists_drain_of_mem (h : (x, delivered) ∈ sentFrom name (movedBefore 0 ops n)) :
    ∃ m i, ops m = .drain i delivered := by
  rw [sentFrom, mem_filterMap] at h
  obtain ⟨moved, hmoved, hsent⟩ := h
  induction n with
  | zero => cases hmoved
  | succ n ih =>
    rw [movedBefore, Machine.trace_upTo_succ, mem_append, mem_singleton] at hmoved
    rcases hmoved with hmoved | rfl
    · exact ih hmoved
    · split at hsent
      · rename_i buffer x' delivered' hmoved
        split_ifs at hsent
        cases hsent
        exact ⟨n, drain_of_sent hmoved⟩
      · cases hsent

theorem delivers_all : Fair 0 (rounds true) judge ∧ Timed (rounds true) judge.name ∧
    Delivers 0 (rounds true) judge.name := by
  refine ⟨fair_rounds true, timed_rounds true,
    (delivers_iff (fair_rounds true) (timed_rounds true)).mpr fun n x hfailed => ?_⟩
  obtain ⟨m, i, hop⟩ := exists_drain_of_mem hfailed
  have hmem := mem_rounds true m
  rw [hop] at hmem
  simp [round] at hmem

/-- The vendor refuses the first trace and takes every later one: the first is never delivered. -/
theorem loses_first : Fair 0 (rounds false) judge ∧ Timed (rounds false) judge.name ∧
    (∀ n, ∃ m ≥ n, ∃ x, ((before 0 (rounds false) m).perform (rounds false m)).2 =
      some (.sent judge.name x true)) ∧ ¬ Delivers 0 (rounds false) judge.name := by
  refine ⟨fair_rounds false, timed_rounds false, fun n => ?_, fun h => ?_⟩
  · refine ⟨6 * n + 6 + 4, by omega, (⟨traceOf "acme", []⟩, n + 1), ?_⟩
    rw [before_rounds, rounds_later]
    rfl
  · obtain ⟨m, hm⟩ := h 1 0 ⟨traceOf "acme", []⟩ rfl
    have hfailed : ((⟨traceOf "acme", []⟩, 0), false) ∈
        sentFrom judge.name (movedBefore 0 (rounds false) 5) := mem_singleton_self _
    exact sent_unique hm hfailed

end FfxNexus.Evals.Scheduler
