/-
**The background workers of the plugins**: flush loops (`internal/evaluators/external/scheduler.go`,
`reconcile`) and pollers (`collector.go`, `syncPollers` and `runPoll`).
-/
import FfxNexus.Evals.Buffers
import FfxNexus.Evals.Collector

open List AList

namespace FfxNexus.Evals
open Go

section
variable {α β γ κ : Type} [DecidableEq κ]

lemma nodup_map_iff (key : α → κ) (l : List α) :
    (l.map key).Nodup ↔ ∀ k, (l.filter fun a => key a = k).length ≤ 1 := by
  rw [nodup_iff_count_le_one]
  refine forall_congr' fun k => ?_
  rw [count, countP_map, countP_eq_length_filter]
  rfl

lemma one_each_iff (g : α → Option β) (v : β → γ) (w : α → γ) (l : List α) :
    ((l.getLast?.bind g).map v).toList = l.map w ↔
      l.length ≤ 1 ∧ ∀ a ∈ l, (g a).map v = some (w a) := by
  match l with
  | [] => simp
  | [a] =>
    simp only [getLast?_singleton, Option.bind_some, map_singleton, mem_singleton,
      forall_eq, length_singleton, le_refl, true_and]
    generalize (g a).map v = o
    cases o <;> simp
  | a :: b :: l =>
    constructor
    · intro h
      generalize ((a :: b :: l).getLast?.bind g).map v = o at h
      cases o <;> simp at h
    · rintro ⟨hlen, -⟩
      simp at hlen

lemma one_per_key_iff {key : α → κ} {result : κ → Option β} {g : α → Option β} {l : List α}
    (hresult : ∀ k, result k = (l.filter fun a => key a = k).getLast?.bind g) (v : β → γ)
    (w : α → γ) : (∀ k, ((result k).map v).toList = (l.filter fun a => key a = k).map w) ↔
      (l.map key).Nodup ∧ ∀ a ∈ l, (g a).map v = some (w a) := by
  simp only [hresult, one_each_iff, nodup_map_iff, forall_and]
  refine and_congr_right fun _ => ⟨fun h a ha => ?_, fun h k a ha => ?_⟩
  · exact h (key a) a (mem_filter.mpr ⟨ha, decide_eq_true rfl⟩)
  · exact h a (mem_filter.mp ha).1

end

namespace Scheduler

def running (s : Scheduler) (name : String) : List Plugin :=
  (s.loops.filter fun l => !l.cancelled && l.buffer = name).map (·.plugin)

def Follows (reg : Registry) (s : Scheduler) : Prop :=
  ∀ name, s.running name =
    (reg.scheduled.filter fun rec => rec.plugin.name = name).map (·.plugin)

structure Tracked (s : Scheduler) : Prop where
  running : ∀ name, s.running name = ((s.schedules.lookup name).map (·.plugin)).toList
  interval : ∀ name cur, s.schedules.lookup name = some cur →
    cur.interval = cur.plugin.collect.interval ∧ 0 < cur.interval

variable {s : Scheduler} {name : String} {rec : Record} {reg : Registry}

lemma running_cancel (s : Scheduler) (name other : String) :
    (s.cancel name).running other = if other = name then [] else s.running other := by
  unfold running cancel
  induction s.loops with
  | nil => simp
  | cons l loops ih =>
    grind

lemma running_start (s : Scheduler) (name other : String) (rec : Record) :
    (s.start name rec).running other =
      s.running other ++ if other = name then [rec.plugin] else [] := by
  unfold running start
  by_cases hname : other = name
  · simp [hname]
  · simp [hname, Ne.symm hname]

lemma tracked_start (hnone : s.running name = [])
    (hother : ∀ other ≠ name, s.running other = ((s.schedules.lookup other).map (·.plugin)).toList)
    (hinterval : ∀ other cur, s.schedules.lookup other = some cur →
      cur.interval = cur.plugin.collect.interval ∧ 0 < cur.interval)
    (hivl : 0 < rec.plugin.collect.interval) : (s.start name rec).Tracked := by
  constructor
  · intro other
    rw [running_start]
    by_cases hname : other = name
    · subst hname
      simp [hnone, start]
    · simp [hname, hother other hname, start]
  · intro other cur hcur
    rcases lookup_insert_eq_some hcur with ⟨-, rfl⟩ | ⟨-, hcur⟩
    · exact ⟨rfl, hivl⟩
    · exact hinterval other cur hcur

lemma Tracked.refresh (h : s.Tracked) (name : String) (rec : Record) :
    (s.refresh name rec).Tracked := by
  unfold Scheduler.refresh
  split_ifs with hivl
  · exact h
  cases hcur : s.schedules.lookup name with
  | none =>
    refine tracked_start ?_ (fun other _ => h.running other) h.interval (not_le.mp hivl)
    rw [h.running, hcur]
    rfl
  | some cur =>
    simp only
    split_ifs
    · exact h
    · refine tracked_start ?_ ?_ h.interval (not_le.mp hivl)
      · rw [running_cancel, if_pos rfl]
      · intro other hname
        rw [running_cancel, if_neg hname]
        exact h.running other

lemma Tracked.retire (h : s.Tracked) (name : String) : (s.retire name).Tracked := by
  constructor
  · intro other
    have hlookup := h.running other
    have hcancel : (s.retire name).running other = (s.cancel name).running other := rfl
    rw [hcancel, running_cancel]
    by_cases hname : other = name
    · subst hname
      simp [Scheduler.retire]
    · simp [hname, hlookup, Scheduler.retire]
  · intro other cur hcur
    exact h.interval other cur (lookup_erase_eq_some hcur).2

lemma Tracked.reconcile (h : s.Tracked) (reg : Registry) : (s.reconcile reg).Tracked := by
  unfold Scheduler.reconcile
  split_ifs
  · exact h
  · refine foldlRecOn (motive := Tracked) _ _ ?_ (fun t ht name _ => ht.retire name)
    exact foldlRecOn (motive := Tracked) _ _ h (fun t ht e _ => ht.refresh e.1 e.2)

lemma tracked_of_same {t : Scheduler} (h : s.Tracked) (hloops : t.loops = s.loops)
    (hschedules : t.schedules = s.schedules) : t.Tracked := by
  obtain ⟨hrunning, hinterval⟩ := h
  constructor
  · unfold running at hrunning ⊢
    rw [hloops, hschedules]
    exact hrunning
  · rw [hschedules]
    exact hinterval

lemma filter_eraseIdx {α : Type} {p : α → Bool} {l : List α} {i : ℕ} {a : α}
    (h : l[i]? = some a) (ha : p a = false) : (l.eraseIdx i).filter p = l.filter p := by
  induction l generalizing i with
  | nil => rfl
  | cons b l ih =>
    cases i with
    | zero =>
      obtain rfl : b = a := by simpa using h
      simp [ha]
    | succ i => simp [filter_cons, ih h]

lemma Tracked.perform (h : s.Tracked) (op : SchedOp) : (s.perform op).1.Tracked := by
  cases op with
  | reconcile reg => exact h.reconcile reg
  | stop =>
    constructor
    · intro name
      simp [Scheduler.perform, Scheduler.stop, Scheduler.running]
    · intro name cur hcur
      simp [Scheduler.perform, Scheduler.stop] at hcur
  | exit i =>
    rcases s.exit_cases i with heq | ⟨l, hl, hcancelled, heq⟩
    · rw [Scheduler.perform, heq]
      exact h
    · rw [Scheduler.perform, heq]
      refine ⟨fun name => ?_, h.interval⟩
      have hsame :
          Scheduler.running { s with loops := s.loops.eraseIdx i } name = s.running name := by
        unfold Scheduler.running
        rw [filter_eraseIdx hl (by simp [hcancelled])]
      exact hsame.trans (h.running name)
  | enqueue p e =>
    refine tracked_of_same h ?_ ?_ <;> rw [Scheduler.perform, s.enqueue_frame p e]
  | tick i =>
    have hcases := s.tick_cases i
    exact tracked_of_same h (by grind [Scheduler.perform, beginDrain])
      (by grind [Scheduler.perform, beginDrain])
  | fireManual p =>
    have hcases := fires_fireManual.cases s p
    exact tracked_of_same h (by grind [Scheduler.perform, beginDrain])
      (by grind [Scheduler.perform, beginDrain])
  | fireScheduled p =>
    have hcases := fires_fireScheduled.cases s p
    exact tracked_of_same h (by grind [Scheduler.perform, beginDrain])
      (by grind [Scheduler.perform, beginDrain])
  | drain i delivered =>
    obtain ⟨hschedules, hloops, -⟩ := (s.drain_turn i delivered).frame
    exact tracked_of_same h hloops hschedules

lemma tracked_run (maxBufferPerPlugin : Int) (ops : List SchedOp) :
    (machine.run (new maxBufferPerPlugin) ops).Tracked :=
  machine.run_invariant ⟨fun name => rfl, fun name cur hcur => by cases hcur⟩
    (fun s op h => h.perform op) ops

def rescheduled (rec : Record) (cur : Option ScheduledFlush) : Option ScheduledFlush :=
  if rec.plugin.collect.interval ≤ 0 ∨
      cur.any (·.interval = rec.plugin.collect.interval) then cur
  else some ⟨rec.plugin, rec.plugin.collect.interval⟩

lemma lookup_schedules_refresh_self (s : Scheduler) (name : String) (rec : Record) :
    (s.refresh name rec).schedules.lookup name = rescheduled rec (s.schedules.lookup name) := by
  unfold refresh rescheduled
  by_cases hivl : rec.plugin.collect.interval ≤ 0
  · rw [if_pos hivl, if_pos (Or.inl hivl)]
  rw [if_neg hivl]
  cases hcur : s.schedules.lookup name with
  | none => simp [hivl, start]
  | some cur =>
    simp only [Option.any_some, decide_eq_true_eq, hivl, false_or]
    split_ifs
    · exact hcur
    · exact lookup_insert _

lemma lookup_schedules_retire (names : List String) (s : Scheduler) (name : String) :
    (names.foldl retire s).schedules.lookup name =
      if name ∈ names then none else s.schedules.lookup name := by
  induction names generalizing s with
  | nil => simp
  | cons other names ih =>
    rw [foldl_cons, ih]
    by_cases hname : name = other
    · subst hname
      simp [retire]
    · simp [hname, retire]

lemma lookup_schedules_reconcile (hs : s.stopped = false) (reg : Registry) (name : String) :
    (s.reconcile reg).schedules.lookup name =
      ((wanted reg).lookup name).bind (rescheduled · (s.schedules.lookup name)) := by
  have hrefreshed := view_foldl_entries (fun s name => s.schedules.lookup name)
    lookup_schedules_refresh_self (fun s other rec name hne => lookup_schedules_refresh hne)
    (wanted reg) s name
  unfold reconcile
  rw [hs, if_neg Bool.false_ne_true]
  simp only [lookup_schedules_retire, hrefreshed]
  cases hwanted : (wanted reg).lookup name with
  | none =>
    have hkeys : ¬ name ∈ wanted reg := AList.lookup_eq_none.mp hwanted
    simp only [hwanted] at hrefreshed
    by_cases hmem : name ∈ ((wanted reg).entries.foldl (fun s e => s.refresh e.1 e.2) s).schedules
    · simp [hkeys, ← AList.mem_keys, hmem]
    · have hnone := AList.lookup_eq_none.mpr hmem
      rw [hrefreshed] at hnone
      simp [hnone]
  | some rec =>
    have hkeys : name ∈ wanted reg := AList.lookup_isSome.mp (by rw [hwanted]; rfl)
    simp [hkeys]

structure Flushable (reg : Registry) (s : Scheduler) : Prop where
  names : (reg.scheduled.map (·.plugin.name)).Nodup
  interval : ∀ rec ∈ reg.scheduled, 0 < rec.plugin.collect.interval
  manifest : ∀ rec ∈ reg.scheduled, ∀ cur, s.schedules.lookup rec.plugin.name = some cur →
    cur.interval = rec.plugin.collect.interval → cur.plugin = rec.plugin

lemma rescheduled_iff {cur : Option ScheduledFlush} (h : ∀ c, cur = some c →
      c.interval = c.plugin.collect.interval ∧ 0 < c.interval) :
    (rescheduled rec cur).map (·.plugin) = some rec.plugin ↔ 0 < rec.plugin.collect.interval ∧
        ∀ c, cur = some c → c.interval = rec.plugin.collect.interval → c.plugin = rec.plugin := by
  unfold rescheduled
  cases cur with
  | none => grind
  | some c => grind

lemma follows_iff (h : s.Tracked) (hs : s.stopped = false) :
    Follows reg (s.reconcile reg) ↔ Flushable reg s := by
  have hresult : ∀ name, (s.reconcile reg).schedules.lookup name =
      (reg.scheduled.filter fun rec => rec.plugin.name = name).getLast?.bind
        fun rec => rescheduled rec (s.schedules.lookup rec.plugin.name) := by
    intro name
    rw [lookup_schedules_reconcile hs, lookup_wanted_eq]
    refine Option.bind_congr fun rec hrec => ?_
    rw [of_decide_eq_true (mem_filter.mp (mem_of_getLast? hrec)).2]
  unfold Follows
  simp only [(h.reconcile reg).running]
  rw [one_per_key_iff hresult]
  constructor
  · rintro ⟨hnames, hown⟩
    have hown := fun rec hrec => (rescheduled_iff (h.interval _)).mp (hown rec hrec)
    exact ⟨hnames, fun rec hrec => (hown rec hrec).1, fun rec hrec => (hown rec hrec).2⟩
  · intro hf
    exact ⟨hf.names, fun rec hrec => (rescheduled_iff (h.interval _)).mpr
      ⟨hf.interval rec hrec, hf.manifest rec hrec⟩⟩

end Scheduler

def Registry.polling (reg : Registry) : List Record :=
  reg.enabled.filter fun rec => rec.plugin.collect.mode = .poll

structure Poller where
  plugin : Plugin
  orgID : String
  interval : Int
  adapter : Bool

def pollerKey (orgID name : String) : String := normalizeOrgID orgID ++ "\x00" ++ name

def pollInterval (p : Plugin) : Int :=
  if p.collect.interval ≤ 0 then 60000000000 else p.collect.interval

section
variable (collects : ServiceType → Bool)

def startPoller (rec : Record) : Poller :=
  ⟨rec.plugin, rec.orgID, pollInterval rec.plugin, collects rec.plugin.service.type⟩

def wantedPollers (reg : Registry) : GoMap String Record :=
  reg.enabled.foldl
    (fun m rec =>
      if rec.plugin.collect.mode = .poll then m.insert (pollerKey rec.orgID rec.plugin.name) rec
      else m) ∅

def ensurePoller (running : GoMap String Poller) (key : String) (rec : Record) :
    GoMap String Poller :=
  if key ∈ running then running else running.insert key (startPoller collects rec)

def syncPollers (reg : Registry) (running : GoMap String Poller) : GoMap String Poller :=
  let kept := running.keys.foldl
    (fun m key => if key ∉ wantedPollers reg then m.erase key else m) running
  (wantedPollers reg).entries.foldl (fun m e => ensurePoller collects m e.1 e.2) kept

def pollers (regs : List Registry) : GoMap String Poller :=
  regs.foldl (fun running reg => syncPollers collects reg running) ∅

def PollersFollow (reg : Registry) (running : GoMap String Poller) : Prop :=
  ∀ key, (((running.lookup key).filter (·.adapter)).map fun p =>
      (p.plugin, p.orgID, p.interval)).toList =
    (reg.polling.filter fun rec => pollerKey rec.orgID rec.plugin.name = key).map fun rec =>
      (rec.plugin, rec.orgID, pollInterval rec.plugin)

lemma lookup_ensurePoller (m : GoMap String Poller) (key : String) (rec : Record) :
    (ensurePoller collects m key rec).lookup key =
      some ((m.lookup key).getD (startPoller collects rec)) := by
  unfold ensurePoller
  split_ifs with hmem
  · obtain ⟨p, hp⟩ := Option.isSome_iff_exists.mp (lookup_isSome.mpr hmem)
    rw [hp]
    rfl
  · rw [lookup_insert, lookup_eq_none.mpr hmem]
    rfl

variable {collects} {reg : Registry} {rec : Record} {running : GoMap String Poller}

lemma lookup_ensurePoller_ne (running : GoMap String Poller) (key : String) (rec : Record)
    (other : String) (hne : other ≠ key) :
    (ensurePoller collects running key rec).lookup other = running.lookup other := by
  unfold ensurePoller
  split_ifs
  · rfl
  · exact lookup_insert_ne hne

lemma lookup_syncPollers (reg : Registry) (running : GoMap String Poller) (key : String) :
    (syncPollers collects reg running).lookup key = ((wantedPollers reg).lookup key).map
      fun rec => (running.lookup key).getD (startPoller collects rec) := by
  have hkept := lookup_foldl_erase (fun key => decide (key ∉ wantedPollers reg)) running.keys
    running key
  simp only [decide_eq_true_eq] at hkept
  unfold syncPollers
  rw [view_foldl_entries (fun (m : GoMap String Poller) key => m.lookup key)
    (f := fun rec cur => some (cur.getD (startPoller collects rec)))
    (lookup_ensurePoller collects) lookup_ensurePoller_ne, hkept]
  cases hwanted : (wantedPollers reg).lookup key with
  | none =>
    have hkey : key ∉ wantedPollers reg := AList.lookup_eq_none.mp hwanted
    by_cases hmem : key ∈ running
    · simp [hkey, ← AList.mem_keys, hmem]
    · simp [AList.lookup_eq_none.mpr hmem]
  | some rec =>
    have hkey : key ∈ wantedPollers reg := AList.lookup_isSome.mp (by rw [hwanted]; rfl)
    simp [hkey]

def Started (collects : ServiceType → Bool) (running : GoMap String Poller) : Prop :=
  ∀ key p, running.lookup key = some p → p.interval = pollInterval p.plugin ∧
    p.adapter = collects p.plugin.service.type

lemma Started.syncPollers (h : Started collects running) (reg : Registry) :
    Started collects (syncPollers collects reg running) := by
  intro key p hp
  rw [lookup_syncPollers, Option.map_eq_some_iff] at hp
  obtain ⟨rec, -, rfl⟩ := hp
  cases hlookup : running.lookup key with
  | none => exact ⟨rfl, rfl⟩
  | some p => exact h key p hlookup

lemma started_pollers (regs : List Registry) : Started collects (pollers collects regs) := by
  refine foldlRecOn (motive := Started collects) _ _ ?_ (fun _ h reg _ => h.syncPollers reg)
  intro key p hp
  cases hp

structure Pollable (collects : ServiceType → Bool) (reg : Registry)
    (running : GoMap String Poller) : Prop where
  keys : (reg.polling.map fun rec => pollerKey rec.orgID rec.plugin.name).Nodup
  adapter : ∀ rec ∈ reg.polling, collects rec.plugin.service.type = true
  manifest : ∀ rec ∈ reg.polling, ∀ p,
    running.lookup (pollerKey rec.orgID rec.plugin.name) = some p →
    p.plugin = rec.plugin ∧ p.orgID = rec.orgID

lemma pollersFollow_iff (h : Started collects running) :
    PollersFollow reg (syncPollers collects reg running) ↔ Pollable collects reg running := by
  have hresult : ∀ key, ((syncPollers collects reg running).lookup key).filter (·.adapter) =
      (reg.polling.filter fun rec =>
        pollerKey rec.orgID rec.plugin.name = key).getLast?.bind fun rec =>
          (some ((running.lookup (pollerKey rec.orgID rec.plugin.name)).getD
            (startPoller collects rec))).filter (·.adapter) := by
    intro key
    have hwanted : (wantedPollers reg).lookup key =
        (reg.polling.filter fun rec => pollerKey rec.orgID rec.plugin.name = key).getLast? :=
      lookup_foldl_insert (fun rec : Record => rec.plugin.collect.mode = .poll)
        (fun rec => pollerKey rec.orgID rec.plugin.name) reg.enabled key
    rw [lookup_syncPollers, hwanted]
    cases hlast : (reg.polling.filter fun rec =>
        pollerKey rec.orgID rec.plugin.name = key).getLast? with
    | none => rfl
    | some rec =>
      rw [← of_decide_eq_true (mem_filter.mp (mem_of_getLast? hlast)).2]
      rfl
  unfold PollersFollow
  rw [one_per_key_iff hresult]
  have hown : ∀ rec : Record, (((some ((running.lookup (pollerKey rec.orgID rec.plugin.name)).getD
        (startPoller collects rec))).filter (·.adapter)).map
          fun p => (p.plugin, p.orgID, p.interval)) =
        some (rec.plugin, rec.orgID, pollInterval rec.plugin) ↔
      collects rec.plugin.service.type = true ∧
        ∀ p, running.lookup (pollerKey rec.orgID rec.plugin.name) = some p →
          p.plugin = rec.plugin ∧ p.orgID = rec.orgID := by
    intro rec
    cases hp : running.lookup (pollerKey rec.orgID rec.plugin.name) with
    | none => grind [startPoller]
    | some p =>
      obtain ⟨hinterval, hadapter⟩ := h _ p hp
      simp only [Option.filter_some]
      split_ifs with hpolls
      · grind
      · grind
  constructor
  · rintro ⟨hkeys, hall⟩
    exact ⟨hkeys, fun rec hrec => ((hown rec).mp (hall rec hrec)).1,
      fun rec hrec => ((hown rec).mp (hall rec hrec)).2⟩
  · intro hp
    exact ⟨hp.keys, fun rec hrec => (hown rec).mpr ⟨hp.adapter rec hrec, hp.manifest rec hrec⟩⟩

end

theorem workers_follow_iff (maxBufferPerPlugin : Int) (ops : List SchedOp)
    (collects : ServiceType → Bool) (regs : List Registry) (reg : Registry)
    (hrunning : (Scheduler.machine.run (Scheduler.new maxBufferPerPlugin) ops).stopped = false) :
    (Scheduler.Follows reg
        ((Scheduler.machine.run (Scheduler.new maxBufferPerPlugin) ops).reconcile reg) ↔
      Scheduler.Flushable reg (Scheduler.machine.run (Scheduler.new maxBufferPerPlugin) ops)) ∧
    (PollersFollow reg (syncPollers collects reg (pollers collects regs)) ↔
      Pollable collects reg (pollers collects regs)) := by
  have htracked := Scheduler.tracked_run maxBufferPerPlugin ops
  exact ⟨Scheduler.follows_iff htracked hrunning, pollersFollow_iff (started_pollers regs)⟩

def endpointAt (endpoint : String) : Registry :=
  Registry.new.put (installed "acme"
    { minutely "judge" endpoint with collect := { mode := .poll, interval := 60000000000 } })

theorem workers_follow_first : Scheduler.Follows (endpointAt "https://old.example")
        ((Scheduler.machine.run (Scheduler.new 0) []).reconcile
          (endpointAt "https://old.example")) ∧ PollersFollow (endpointAt "https://old.example")
        (syncPollers (fun _ => true) (endpointAt "https://old.example")
          (pollers (fun _ => true) [])) := by
  have hfollow := workers_follow_iff 0 [] (fun _ => true) [] (endpointAt "https://old.example") rfl
  refine ⟨hfollow.1.mpr ⟨by decide, by decide, ?_⟩,
    hfollow.2.mpr ⟨by decide, by decide, ?_⟩⟩
  · intro rec _ cur hcur
    cases hcur
  · intro rec _ p hp
    cases hp

theorem workers_keep_endpoint : ¬ Scheduler.Follows (endpointAt "https://new.example")
        ((Scheduler.machine.run (Scheduler.new 0)
          [.reconcile (endpointAt "https://old.example")]).reconcile
            (endpointAt "https://new.example")) ∧ ¬ PollersFollow (endpointAt "https://new.example")
        (syncPollers (fun _ => true) (endpointAt "https://new.example")
          (pollers (fun _ => true) [endpointAt "https://old.example"])) := by
  constructor
  · intro h
    have hjudge := h "judge"
    revert hjudge
    decide
  · intro h
    have hjudge := h (pollerKey "acme" "judge")
    revert hjudge
    decide

open Json in
structure PollTick where
  poller : Poller
  now : ℤ
  page : Option (List (Option Value))

def PollTick.key (t : PollTick) : String := pollerKey t.poller.orgID t.poller.plugin.name

structure VendorScore where
  plugin : String
  traceID : String
  name : String
  value : ℚ
deriving DecidableEq

def PollTick.returned (t : PollTick) : List VendorScore :=
  let mapping := t.poller.plugin.collect.mapping
  ((t.page.getD []).take 1000).filterMap fun raw => (decodeObject raw).map fun parsed =>
    { plugin := t.key
      traceID := pickString parsed [mapping.traceID, "trace_id"]
      name := pickString parsed [mapping.name, mapping.metric, "name"]
      value := pickFloat parsed mapping.score 0 }

def polling (c : Collector) : Machine (List (String × Score)) PollTick Unit where
  step rows t :=
    (rows ++ (c.applyAllForOrg t.now t.poller.plugin t.poller.orgID (t.page.getD [])).map
      (t.key, ·), ())

def vendorScore (row : String × Score) : VendorScore :=
  ⟨row.1, row.2.traceID, row.2.metric, row.2.score⟩

lemma vendorScore_applyAllForOrg {c : Collector} (hsink : c.sink = true) (t : PollTick) :
    ((c.applyAllForOrg t.now t.poller.plugin t.poller.orgID (t.page.getD [])).map
      (t.key, ·)).map vendorScore = t.returned := by
  rw [Collector.applyAllForOrg, hsink, if_neg (by decide), map_map,
    map_filterMap, PollTick.returned]
  congr 1
  funext raw
  unfold Collector.scoreFor apply
  cases decodeObject raw <;> rfl

lemma vendorScore_run {c : Collector} (hsink : c.sink = true) (rows : List (String × Score))
    (ticks : List PollTick) : ((polling c).run rows ticks).map vendorScore =
      rows.map vendorScore ++ ticks.flatMap PollTick.returned := by
  induction ticks generalizing rows with
  | nil => simp
  | cons t ticks ih =>
    rw [Machine.run_cons, ih, polling, map_append, vendorScore_applyAllForOrg hsink,
      flatMap_cons, append_assoc]

theorem scores_written_once_iff (c : Collector) (ticks : List PollTick) :
    (((polling c).run [] ticks).map vendorScore).Nodup ↔
      (c.sink = true → (ticks.flatMap PollTick.returned).Nodup) := by
  cases hsink : c.sink with
  | true =>
    rw [vendorScore_run hsink]
    simp
  | false =>
    have hnone : (polling c).run [] ticks = [] := by
      refine (polling c).run_invariant (P := (· = [])) rfl ?_ ticks
      rintro rows t rfl
      simp [polling, Collector.applyAllForOrg, hsink]
    simp [hnone]

def samePage : PollTick where
  poller := startPoller (fun _ => true)
    (installed "acme" { minutely "judge" "https://acme.example" with
        collect := { mode := .poll, interval := 60000000000 } })
  now := 0
  page := some [some (.obj [("trace_id", .str "t-1")])]

theorem score_written_twice :
    ¬ (((polling { registry := Registry.new }).run [] [samePage, samePage]).map
      vendorScore).Nodup := by
  decide

end FfxNexus.Evals
