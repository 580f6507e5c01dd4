/-
**Scheduled benchmarks** (`internal/cron/runner.go`, and the queries of
`internal/core/benchmark_schedules.go` it makes).
-/
import FfxNexus.Go
import FfxNexus.Machine
import Mathlib.Data.List.Dedup

namespace FfxNexus.Cron
open Go List AList Function

structure Plan where
  orgID : String := ""
  name : String := ""
  environments : List String := []
  model : String := ""
  numExamples : Int64 := 0
  rollouts : Int64 := 0
  viaGateway : Bool := false
  cadence : ℤ

structure Spec extends Plan where
  id : String
  nextLaunchAt : ℤ

structure Row extends Plan where
  nextLaunchAt : ℤ
  enabled : Bool := true
  lastRunID : String := ""
  lastLaunchedAt : Option ℤ := none

abbrev Table : Type := GoMap String Row

variable (table : Table) (now : ℤ)

def listDue (limit : ℕ) (pick : List String) : List Spec :=
  (pick.dedup.filterMap fun id => (table.lookup id).bind fun row =>
    if row.enabled = true ∧ row.nextLaunchAt ≤ now then
      some { row.toPlan with id := id, nextLaunchAt := row.nextLaunchAt }
    else none).take limit

def updateNextLaunchAt (id : String) (when : ℤ) : Table :=
  match table.lookup id with
  | some row => table.insert id { row with nextLaunchAt := when }
  | none => table

def markLaunched (id runID : String) (when : ℤ) : Table :=
  match table.lookup id with
  | some row => table.insert id { row with lastRunID := runID, lastLaunchedAt := some when }
  | none => table

inductive Phase
  | idle
  | firing (now : ℤ) (spec : Spec) (rest : List Spec)
  | stamping (now : ℤ) (spec : Spec) (runID : Option String) (rest : List Spec)
  | marking (now : ℤ) (spec : Spec) (runID : String) (rest : List Spec)
  | bumping (now : ℤ) (spec : Spec) (rest : List Spec)

def Phase.fire : List Spec → Phase
  | [] => .idle
  | spec :: rest => .firing now spec rest

def Phase.bump : List Spec → Phase
  | [] => .idle
  | spec :: rest => .bumping now spec rest

def hour : ℤ := 3600000000000

def isAutoRelaunchLookbackNeeded (spec : Spec) (clock : ℤ) : Bool :=
  spec.nextLaunchAt ≠ 0 && clock - spec.nextLaunchAt > max (5 * spec.cadence) hour

structure State where
  table : Table
  phase : ℕ → Phase := fun _ => .idle
  fired : List (String × ℤ) := []

inductive Cmd
  | list (replica : ℕ) (now : ℤ) (pick : Option (List String))
  | run (replica : ℕ) (outcome : Except String String)
  | stamp (replica : ℕ) (ok : Bool)
  | mark (replica : ℕ) (ok : Bool)
  | listStale (replica : ℕ) (now : ℤ) (pick : Option (List String))
  | bump (replica : ℕ) (clock : ℤ) (ok : Bool)

namespace State

def goTo (s : State) (i : ℕ) (p : Phase) : State := { s with phase := update s.phase i p }

def step (s : State) : Cmd → State
  | .list i now pick =>
    match s.phase i, pick with
    | .idle, some pick => s.goTo i (.fire now (listDue s.table now 64 pick))
    | _, _ => s
  | .run i outcome =>
    match s.phase i, outcome with
    | .firing now spec rest, .ok runID =>
      { s.goTo i (.stamping now spec (some runID) rest) with
        fired := (spec.id, spec.nextLaunchAt) :: s.fired }
    | .firing now spec rest, .error _ => s.goTo i (.stamping now spec none rest)
    | _, _ => s
  | .stamp i ok =>
    match s.phase i with
    | .stamping now spec runID rest =>
      let table :=
        if ok then updateNextLaunchAt s.table spec.id (now + spec.cadence) else s.table
      match runID with
      | none => { s with table := table }.goTo i (.fire now rest)
      | some runID => { s with table := table }.goTo i (.marking now spec runID rest)
    | _ => s
  | .mark i ok =>
    match s.phase i with
    | .marking now spec runID rest =>
      { s with table := if ok then markLaunched s.table spec.id runID now else s.table }.goTo i
        (.fire now rest)
    | _ => s
  | .listStale i now pick =>
    match s.phase i, pick with
    | .idle, some pick => s.goTo i (.bump now (listDue s.table now 256 pick))
    | _, _ => s
  | .bump i clock ok =>
    match s.phase i with
    | .bumping now spec rest =>
      { s with table :=
          if isAutoRelaunchLookbackNeeded spec clock = true ∧ ok = true then
            updateNextLaunchAt s.table spec.id now
          else s.table }.goTo i (.bump now rest)
    | _ => s

end State

def cron : Machine State Cmd Unit where
  step s c := (s.step c, ())

def LaunchedBy (s : State) (i : ℕ) (id : String) : Prop :=
  ∃ now spec runID rest, s.phase i = .stamping now spec (some runID) rest ∧ spec.id = id

def Forward (id : String) (when : ℤ) : Prop :=
  ∀ row, table.lookup id = some row → row.nextLaunchAt < when

def Exclusive (s : State) : Cmd → Prop
  | .run i (.ok _) => ∀ now spec rest, s.phase i = .firing now spec rest →
      (∃ row, s.table.lookup spec.id = some row ∧ row.nextLaunchAt = spec.nextLaunchAt) ∧
        ∀ j, ¬ LaunchedBy s j spec.id
  | .stamp i ok => ∀ now spec runID rest, s.phase i = .stamping now spec runID rest →
      (runID ≠ none → ok = true) ∧ (ok = true → Forward s.table spec.id (now + spec.cadence))
  | .bump i _ ok => ∀ now spec rest, s.phase i = .bumping now spec rest → ok = true →
      Forward s.table spec.id now
  | _ => True

structure Inv (s : State) : Prop where
  nodup : s.fired.Nodup
  past : ∀ id v, (id, v) ∈ s.fired → ∃ row, s.table.lookup id = some row ∧
    (v < row.nextLaunchAt ∨ (v ≤ row.nextLaunchAt ∧ ∃ i, LaunchedBy s i id))

lemma lookup_updateNextLaunchAt (id : String) (when : ℤ) (id' : String) :
    (updateNextLaunchAt table id when).lookup id' = if id' = id then
      (table.lookup id).map fun row => { row with nextLaunchAt := when } else table.lookup id' := by
  unfold updateNextLaunchAt
  cases hrow : table.lookup id with
  | none =>
    by_cases hid : id' = id
    · rw [if_pos hid, hid, hrow]
      rfl
    · rw [if_neg hid]
  | some row =>
    split_ifs with hid
    · rw [hid, lookup_insert]
      rfl
    · rw [lookup_insert_ne hid]

variable {id : String} {when : ℤ} {row : Row}

lemma lookup_markLaunched {table : Table} {runID : String} {id' : String}
    (h : table.lookup id' = some row) :
    ∃ row', (markLaunched table id runID when).lookup id' = some row' ∧
      row'.nextLaunchAt = row.nextLaunchAt := by
  unfold markLaunched
  cases hrow : table.lookup id with
  | none => exact ⟨row, h, rfl⟩
  | some row0 =>
    by_cases hid : id' = id
    · rw [hid, hrow, Option.some.injEq] at h
      rw [hid, lookup_insert]
      exact ⟨_, rfl, by rw [← h]⟩
    · exact ⟨row, (lookup_insert_ne hid).trans h, rfl⟩

lemma lookup_updateNextLaunchAt_forward {table : Table} (hforward : Forward table id when)
    {id' : String} (h : table.lookup id' = some row) :
    ∃ row', (updateNextLaunchAt table id when).lookup id' = some row' ∧
      (row.nextLaunchAt < row'.nextLaunchAt ∨ (id' ≠ id ∧ row' = row)) := by
  rw [lookup_updateNextLaunchAt]
  split_ifs with hid
  · rw [← hid, h]
    refine ⟨_, rfl, .inl ?_⟩
    rw [hid] at h
    exact hforward row h
  · exact ⟨row, h, .inr ⟨hid, rfl⟩⟩

variable {s : State} {i : ℕ}

lemma launchedBy_goTo_ne {j : ℕ} (p : Phase) (hij : j ≠ i) (h : LaunchedBy s j id) :
    LaunchedBy (s.goTo i p) j id := by
  obtain ⟨now, spec, runID, rest, hphase, hid⟩ := h
  refine ⟨now, spec, runID, rest, ?_, hid⟩
  show update s.phase i p j = _
  rw [update_of_ne hij]
  exact hphase

lemma launchedBy_goTo (p : Phase) (hi : ¬ LaunchedBy s i id) (h : ∃ j, LaunchedBy s j id) :
    ∃ j, LaunchedBy (s.goTo i p) j id := by
  obtain ⟨j, hj⟩ := h
  have hij : j ≠ i := by
    rintro rfl
    exact hi hj
  exact ⟨j, launchedBy_goTo_ne p hij hj⟩

lemma not_launchedBy {p : Phase} (hp : s.phase i = p)
    (h : ∀ now spec runID rest, p ≠ .stamping now spec (some runID) rest) (id : String) :
    ¬ LaunchedBy s i id := by
  rintro ⟨now, spec, runID, rest, hphase, -⟩
  exact h now spec runID rest (hp.symm.trans hphase)

section
variable (h : Inv s)
include h

lemma inv_of_forward {s' : State} (hfired : s'.fired = s.fired)
    (hrow : ∀ id row, s.table.lookup id = some row → ∃ row', s'.table.lookup id = some row' ∧
      (row.nextLaunchAt < row'.nextLaunchAt ∨ (row'.nextLaunchAt = row.nextLaunchAt ∧
        ((∃ i, LaunchedBy s i id) → ∃ i, LaunchedBy s' i id)))) : Inv s' := by
  refine ⟨hfired ▸ h.nodup, ?_⟩
  intro id v hv
  rw [hfired] at hv
  obtain ⟨row, hlookup, hpast⟩ := h.past id v hv
  obtain ⟨row', hlookup', hmove⟩ := hrow id row hlookup
  refine ⟨row', hlookup', ?_⟩
  rcases hmove with hlt | ⟨heq, hkeep⟩
  · left
    rcases hpast with hpast | ⟨hpast, -⟩
    · omega
    · omega
  · rw [heq]
    exact hpast.imp_right fun h => ⟨h.1, hkeep h.2⟩

lemma inv_goTo (hi : ∀ id, ¬ LaunchedBy s i id) (p : Phase) : Inv (s.goTo i p) :=
  inv_of_forward h rfl fun id row hrow =>
    ⟨row, hrow, .inr ⟨rfl, launchedBy_goTo p (hi id)⟩⟩

lemma inv_launch {now : ℤ} {spec : Spec} {rest : List Spec}
    (hi : ∀ id, ¬ LaunchedBy s i id) (hrow : s.table.lookup spec.id = some row)
    (hdue : row.nextLaunchAt = spec.nextLaunchAt) (hnobody : ∀ j, ¬ LaunchedBy s j spec.id)
    (runID : String) : Inv { s.goTo i (.stamping now spec (some runID) rest) with
      fired := (spec.id, spec.nextLaunchAt) :: s.fired } := by
  have hnew : (spec.id, spec.nextLaunchAt) ∉ s.fired := by
    intro hmem
    obtain ⟨row', hrow', hpast⟩ := h.past _ _ hmem
    rw [hrow, Option.some.injEq] at hrow'
    subst hrow'
    rcases hpast with hlt | ⟨-, j, hj⟩
    · omega
    · exact hnobody j hj
  refine ⟨nodup_cons.mpr ⟨hnew, h.nodup⟩, ?_⟩
  intro id v hv
  rcases mem_cons.mp hv with heq | hv
  · obtain ⟨rfl, rfl⟩ := Prod.mk.inj heq
    refine ⟨row, hrow, .inr ⟨hdue.ge, i, now, spec, runID, rest, ?_, rfl⟩⟩
    exact update_self _ _ _
  · obtain ⟨row', hrow', hpast⟩ := h.past id v hv
    exact ⟨row', hrow', hpast.imp_right fun h => ⟨h.1, launchedBy_goTo _ (hi id) h.2⟩⟩

lemma inv_forward (hforward : Forward s.table id when)
    (hi : ∀ id', id' ≠ id → ¬ LaunchedBy s i id') (p : Phase) :
    Inv ({ s with table := updateNextLaunchAt s.table id when }.goTo i p) := by
  refine inv_of_forward h rfl fun id' row hrow => ?_
  obtain ⟨row', hrow', hmove⟩ := lookup_updateNextLaunchAt_forward hforward hrow
  refine ⟨row', hrow', hmove.imp_right ?_⟩
  rintro ⟨hne, rfl⟩
  exact ⟨rfl, fun hl => launchedBy_goTo (s := { s with table := _ }) p (hi id' hne) hl⟩

lemma inv_stamp {now : ℤ} {spec : Spec} {runID : Option String} {rest : List Spec}
    (hphase : s.phase i = .stamping now spec runID rest) {ok : Bool}
    (hok : runID ≠ none → ok = true)
    (hforward : ok = true → Forward s.table spec.id (now + spec.cadence)) (p : Phase) :
    Inv ({ s with table := if ok then updateNextLaunchAt s.table spec.id (now + spec.cadence)
      else s.table }.goTo i p) := by
  by_cases hstamped : ok = true
  · simp only [if_pos hstamped]
    refine inv_forward h (hforward hstamped) ?_ p
    rintro id' hne ⟨_, spec', _, _, hphase', hid⟩
    rw [hphase] at hphase'
    obtain ⟨-, rfl, -⟩ := Phase.stamping.inj hphase'
    exact hne hid.symm
  · -- the stamp fails, so there was no launch
    simp only [if_neg hstamped]
    have hnone : runID = none := by
      by_contra hne
      exact hstamped (hok hne)
    exact inv_goTo h (not_launchedBy hphase (by simp [hnone])) p

lemma inv_mark (hi : ∀ id, ¬ LaunchedBy s i id) (id runID : String) (when : ℤ)
    (p : Phase) : Inv ({ s with table := markLaunched s.table id runID when }.goTo i p) := by
  refine inv_of_forward h rfl fun id' row hrow => ?_
  obtain ⟨row', hrow', hdue⟩ := lookup_markLaunched hrow
  refine ⟨row', hrow', .inr ⟨hdue, fun hl => ?_⟩⟩
  exact launchedBy_goTo (s := { s with table := _ }) p (hi id') hl

lemma inv_step {c : Cmd} (hc : Exclusive s c) : Inv (s.step c) := by
  cases c with
  | list i now pick =>
    cases hphase : s.phase i with
    | idle =>
      cases pick with
      | none => simpa only [State.step, hphase] using h
      | some pick =>
        simp only [State.step, hphase]
        exact inv_goTo h (not_launchedBy hphase (by simp)) _
    | _ => simpa only [State.step, hphase] using h
  | listStale i now pick =>
    cases hphase : s.phase i with
    | idle =>
      cases pick with
      | none => simpa only [State.step, hphase] using h
      | some pick =>
        simp only [State.step, hphase]
        exact inv_goTo h (not_launchedBy hphase (by simp)) _
    | _ => simpa only [State.step, hphase] using h
  | run i outcome =>
    cases hphase : s.phase i with
    | firing now spec rest =>
      have hi := not_launchedBy hphase (by simp)
      cases outcome with
      | error err =>
        simp only [State.step, hphase]
        exact inv_goTo h hi _
      | ok runID =>
        obtain ⟨⟨row, hrow, hdue⟩, hnobody⟩ := hc now spec rest hphase
        simp only [State.step, hphase]
        exact inv_launch h hi hrow hdue hnobody runID
    | _ => simpa only [State.step, hphase] using h
  | stamp i ok =>
    cases hphase : s.phase i with
    | stamping now spec runID rest =>
      obtain ⟨hok, hforward⟩ := hc now spec runID rest hphase
      cases runID with
      | none =>
        simp only [State.step, hphase]
        exact inv_stamp h hphase hok hforward _
      | some runID =>
        simp only [State.step, hphase]
        exact inv_stamp h hphase hok hforward _
    | _ => simpa only [State.step, hphase] using h
  | mark i ok =>
    cases hphase : s.phase i with
    | marking now spec runID rest =>
      have hi := not_launchedBy hphase (by simp)
      simp only [State.step, hphase]
      by_cases hok : ok = true
      · simp only [if_pos hok]
        exact inv_mark h hi spec.id runID now _
      · simp only [if_neg hok]
        exact inv_goTo h hi _
    | _ => simpa only [State.step, hphase] using h
  | bump i clock ok =>
    cases hphase : s.phase i with
    | bumping now spec rest =>
      have hi := not_launchedBy hphase (by simp)
      simp only [State.step, hphase]
      by_cases hbump : isAutoRelaunchLookbackNeeded spec clock = true ∧ ok = true
      · simp only [if_pos hbump]
        exact inv_forward h (hc now spec rest hphase hbump.2) (fun id' _ => hi id') _
      · simp only [if_neg hbump]
        exact inv_goTo h hi _
    | _ => simpa only [State.step, hphase] using h

end

theorem fires_once {table : Table} {cmds : List Cmd}
    (h : cron.Along Exclusive { table := table } cmds) (id : String) (v : ℤ) :
    (cron.run { table := table } cmds).fired.count (id, v) ≤ 1 := by
  have hinit : Inv { table := table } := ⟨nodup_nil, fun _ _ h => absurd h not_mem_nil⟩
  have hinv : Inv (cron.run { table := table } cmds) :=
    h.run (fun s c hs hc => inv_step hs hc) hinit
  exact nodup_iff_count_le_one.mp hinv.nodup (id, v)

def dueTable : Table := (∅ : Table).insert "s" { cadence := 10, nextLaunchAt := 5 }

theorem fires_once_of_one_replica : ("s", 5) ∈ (cron.run { table := dueTable }
      [.list 0 7 (some ["s"]), .run 0 (.ok "r-1"), .stamp 0 true]).fired ∧
    (cron.run { table := dueTable }
      [.list 0 7 (some ["s"]), .run 0 (.ok "r-1"), .stamp 0 true]).fired.count ("s", 5) ≤ 1 := by
  refine ⟨by decide, fires_once ?_ "s" 5⟩
  refine Machine.along_cons.mpr ⟨trivial, Machine.along_cons.mpr ⟨?_, Machine.along_cons.mpr
    ⟨?_, Machine.along_nil⟩⟩⟩
  · rintro now spec rest hphase
    obtain ⟨-, rfl, -⟩ := Phase.firing.inj hphase
    refine ⟨⟨_, lookup_insert _, rfl⟩, ?_⟩
    rintro (_ | j) ⟨_, _, _, _, hj, -⟩
    · cases hj
    · cases hj
  · rintro now spec runID rest hphase
    obtain ⟨rfl, rfl, -, -⟩ := Phase.stamping.inj hphase
    refine ⟨fun _ => rfl, fun _ row hrow => ?_⟩
    obtain rfl : _ = row := Option.some.inj ((lookup_insert _).symm.trans hrow)
    decide

theorem occurrence_fired_twice : (cron.run { table := dueTable }
      [.list 0 7 (some ["s"]), .list 1 7 (some ["s"]), .run 0 (.ok "r-1"),
        .run 1 (.ok "r-2")]).fired.count ("s", 5) = 2 ∧ (cron.run { table := dueTable }
      [.list 0 7 (some ["s"]), .run 0 (.ok "r-1"), .stamp 0 false, .mark 0 true,
        .list 0 37 (some ["s"]), .run 0 (.ok "r-2")]).fired.count ("s", 5) = 2 := by
  decide

end FfxNexus.Cron
