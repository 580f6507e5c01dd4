/-
**Migrations** (`Run` and `Pending` of `internal/migrate/migrate.go` over the executor of
`postgres.go`).
-/
import FfxNexus.Go
import FfxNexus.Machine

namespace FfxNexus.Migrate
open Go List

structure Migration where
  id : String
  ordinal : ℤ
  sql : String
  checksum : String

structure Migrations where
  all : List Migration
  sorted : all.Pairwise fun a b => a.ordinal < b.ordinal
  ids : (all.map Migration.id).Nodup

structure LedgerEntry where
  checksum : String
  success : Bool

structure Options where
  dryRun : Bool := false
  allowChecksumDrift : Bool := false

structure Result where
  applied : List String := []
  skipped : List String := []
  pending : List String := []
  adopted : Bool := false

inductive Phase
  | idle
  | waiting (opts : Options)
  | reading (opts : Options)
  | scanning (opts : Options) (applied : String → Option LedgerEntry) (rest : List Migration)
      (res : Result)
  | releasing (opts : Options) (res : Result) (err : Option String)
  | returned (opts : Options) (res : Result) (err : Option String)

structure State where
  ledger : GoMap String LedgerEntry := ∅
  committed : List Migration := []
  holder : Option ℕ := none
  phase : ℕ → Phase := fun _ => .idle

inductive Outcome
  | ok
  | sqlFails (err : String) (recorded : Bool)
  | fails (err : String) (committed : Bool)

inductive Cmd
  | call (i : ℕ) (opts : Options)
  | acquire (i : ℕ) (failure : Option String)
  | read (i : ℕ) (ensure applied schema : Except String Unit) (existing : Bool)
  | scan (i : ℕ) (outcome : Outcome)
  | release (i : ℕ)
  | crash (i : ℕ)

namespace State

variable (s : State)

def goTo (i : ℕ) (p : Phase) : State := { s with phase := Function.update s.phase i p }

def applied (id : String) : Option LedgerEntry :=
  (s.ledger.lookup id).filter LedgerEntry.success

variable (migs : Migrations)

def pending : List String :=
  (migs.all.filter fun m => (s.applied m.id).isNone).map Migration.id

def commit (m : Migration) : State :=
  { s with
    ledger := s.ledger.insert m.id ⟨m.checksum, true⟩
    committed := s.committed ++ [m] }

def recordFailure (m : Migration) : State :=
  { s with ledger := s.ledger.insert m.id ⟨m.checksum, false⟩ }

def finish (opts : Options) (res : Result) (err : Option String) : Phase :=
  if opts.dryRun then .returned opts res err else .releasing opts res err

def read (opts : Options)
    (ensure applied schema : Except String Unit) (existing : Bool) : Phase :=
  match ensure, applied with
  | .error err, _ => finish opts {} (some ("migrate[postgres]: creating ledger: " ++ err))
  | .ok (), .error err => finish opts {} (some err)
  | .ok (), .ok () =>
    if opts.dryRun then
      .returned opts
        { skipped := (migs.all.filter fun m => (s.applied m.id).isSome).map Migration.id
          pending := s.pending migs } none
    else if s.ledger.entries.any fun e => e.2.success then .scanning opts s.applied migs.all {}
    else
      match schema with
      | .error err => .releasing opts {} (some err)
      | .ok () => .scanning opts s.applied migs.all { adopted := existing }

def checksumMismatch (m : Migration) (prev : LedgerEntry) : String :=
  "migrate: applied migration has been modified on disk: " ++ m.id ++ " (ledger recorded " ++
    String.ofList (prev.checksum.toList.take 12) ++ ", file is now " ++
    String.ofList (m.checksum.toList.take 12) ++ "). " ++
    "An applied migration must never be edited - add a new one instead. " ++
    "If this edit is known-cosmetic and the schema is verified, re-run with " ++
    "--allow-checksum-drift"

def scan (i : ℕ) (opts : Options) (applied : String → Option LedgerEntry)
    (res : Result) (outcome : Outcome) : List Migration → State
  | [] => s.goTo i (.releasing opts res none)
  | m :: rest =>
    match applied m.id with
    | some prev =>
      if prev.checksum ≠ m.checksum ∧ opts.allowChecksumDrift = false then
        s.goTo i (.releasing opts res (some (checksumMismatch m prev)))
      else s.goTo i (.scanning opts applied rest { res with skipped := res.skipped ++ [m.id] })
    | none =>
      let failed (err : String) : Phase :=
        .releasing opts res (some ("migrate[postgres]: applying " ++ m.id ++ ": " ++ err))
      match outcome with
      | .ok =>
        (s.commit m).goTo i
          (.scanning opts applied rest { res with applied := res.applied ++ [m.id] })
      | .sqlFails err true => (s.recordFailure m).goTo i (failed err)
      | .sqlFails err false | .fails err false => s.goTo i (failed err)
      | .fails err true => (s.commit m).goTo i (failed err)

def unlock (i : ℕ) : State := if s.holder = some i then { s with holder := none } else s

def step (s : State) : Cmd → State
  | .call i opts =>
    match s.phase i with
    | .idle | .returned _ _ _ => s.goTo i (if opts.dryRun then .reading opts else .waiting opts)
    | _ => s
  | .acquire i failure =>
    match s.phase i, failure with
    | .waiting opts, some err => s.goTo i
        (.returned opts {} (some ("migrate[postgres]: acquiring migration lock: " ++ err)))
    | .waiting opts, none =>
      if s.holder = none then { s with holder := some i }.goTo i (.reading opts) else s
    | _, _ => s
  | .read i ensure applied schema existing =>
    match s.phase i with
    | .reading opts => s.goTo i (s.read migs opts ensure applied schema existing)
    | _ => s
  | .scan i outcome =>
    match s.phase i with
    | .scanning opts applied rest res => s.scan i opts applied res outcome rest
    | _ => s
  | .release i =>
    match s.phase i with
    | .releasing opts res err => (s.unlock i).goTo i (.returned opts res err)
    | _ => s
  | .crash i => (s.unlock i).goTo i .idle

end State

def driver (migs : Migrations) : Machine State Cmd Unit where
  step s c := (s.step migs c, ())

def Fits (migs : Migrations) (s : State) (i : ℕ) : Phase → Prop
  | .idle => True
  | .waiting opts => opts.dryRun = false
  | .reading opts => opts.dryRun = false → s.holder = some i
  | .scanning _ applied rest _ => s.holder = some i ∧ ∃ done, done ++ rest = migs.all ∧
      (∀ m ∈ done, m ∈ s.committed) ∧ ∀ m ∈ rest, (applied m.id).isSome ↔ m ∈ s.committed
  | .releasing _ _ err => s.holder = some i ∧ (err = none → s.committed = migs.all)
  | .returned opts _ err => opts.dryRun = false → err = none → s.committed = migs.all

structure Inv (migs : Migrations) (s : State) : Prop where
  ordered : s.committed <+: migs.all
  ledger : ∀ id, (s.applied id).isSome ↔ id ∈ s.committed.map Migration.id
  fits : ∀ i, Fits migs s i (s.phase i)

variable {migs : Migrations} {s t : State} {i j : ℕ} {p : Phase} {m : Migration}

lemma Fits.other (h : Fits migs s j p) (hj : s.holder ≠ some j)
    (hc : s.committed = migs.all → t.committed = migs.all) : Fits migs t j p := by
  cases p with
  | idle => trivial
  | waiting opts => exact h
  | reading opts => exact fun hdry => absurd (h hdry) hj
  | scanning opts applied rest res => exact absurd h.1 hj
  | releasing opts res err => exact absurd h.1 hj
  | returned opts res err => exact fun hdry herr => hc (h hdry herr)

lemma inv_goTo (hphase : t.phase = s.phase) (hordered : t.committed <+: migs.all)
    (hledger : ∀ id, (t.applied id).isSome ↔ id ∈ t.committed.map Migration.id)
    (hothers : ∀ j, j ≠ i → Fits migs t j (s.phase j)) (hp : Fits migs t i p) :
    Inv migs (t.goTo i p) := by
  refine ⟨hordered, hledger, fun j => ?_⟩
  dsimp only [State.goTo]
  by_cases hj : j = i
  · subst hj
    rw [Function.update_self]
    exact hp
  · rw [Function.update_of_ne hj, hphase]
    exact hothers j hj

lemma Inv.goTo (h : Inv migs s) (hp : Fits migs s i p) : Inv migs (s.goTo i p) :=
  inv_goTo rfl h.ordered h.ledger (fun j _ => h.fits j) hp

lemma nodup_all (migs : Migrations) : migs.all.Nodup := migs.ids.of_map

lemma Inv.applied_iff (h : Inv migs s) (hm : m ∈ migs.all) :
    (s.applied m.id).isSome ↔ m ∈ s.committed := by
  rw [h.ledger]
  constructor
  · intro hid
    obtain ⟨m', hm', heq⟩ := mem_map.mp hid
    exact inj_on_of_nodup_map migs.ids (h.ordered.subset hm') hm heq ▸ hm'
  · exact mem_map_of_mem

lemma prefix_of_forall_mem {α : Type} {done rest c : List α} (hnodup : (done ++ rest).Nodup)
    (hc : c <+: done ++ rest) (h : ∀ m ∈ done, m ∈ c) : done <+: c := by
  rcases prefix_or_prefix_of_prefix hc (prefix_append done rest) with ⟨r, rfl⟩ | hdone
  · have hr : r = [] := by
      refine eq_nil_iff_forall_not_mem.mpr fun x hx => ?_
      have hdisjoint := disjoint_of_nodup_append hnodup.of_append_left
      exact hdisjoint (h x (mem_append_right _ hx)) hx
    simp [hr]
  · exact hdone

lemma Inv.committed_eq (h : Inv migs s) {done rest : List Migration}
    (hall : done ++ m :: rest = migs.all) (hdone : ∀ m ∈ done, m ∈ s.committed)
    (hm : m ∉ s.committed) : s.committed = done := by
  have hordered := h.ordered
  rw [← hall] at hordered
  obtain ⟨r, hr⟩ := prefix_of_forall_mem (hall ▸ nodup_all migs) hordered hdone
  cases r with
  | nil => rw [← hr, append_nil]
  | cons x r =>
    rw [← hr, prefix_append_right_inj, cons_prefix_cons] at hordered
    rw [← hr, hordered.1] at hm
    exact absurd (mem_append_right _ mem_cons_self) hm

lemma applied_insert (s : State) (m : Migration) (e : LedgerEntry) (c : List Migration)
    (id : String) :
    ({ s with ledger := s.ledger.insert m.id e, committed := c } : State).applied id =
      if id = m.id then (some e).filter LedgerEntry.success else s.applied id := by
  unfold State.applied
  split_ifs with hid
  · rw [hid, AList.lookup_insert]
  · rw [AList.lookup_insert_ne hid]

lemma inv_scan (h : Inv migs s) {opts : Options} {applied : String → Option LedgerEntry}
    {rest : List Migration} {res : Result} (hp : Fits migs s i (.scanning opts applied rest res))
    (outcome : Outcome) : Inv migs (s.scan i opts applied res outcome rest) := by
  obtain ⟨hlock, done, hall, hdone, hrest⟩ := hp
  cases rest with
  | nil =>
    refine h.goTo ⟨hlock, fun _ => ?_⟩
    have hprefix := prefix_of_forall_mem (hall ▸ nodup_all migs) (hall ▸ h.ordered) hdone
    rw [append_nil] at hall
    exact h.ordered.eq_of_length_le (hall ▸ hprefix.length_le)
  | cons m rest =>
    have hrest' : ∀ m ∈ rest, (applied m.id).isSome ↔ m ∈ s.committed :=
      fun m hm => hrest m (mem_cons_of_mem _ hm)
    have hall' : (done ++ [m]) ++ rest = migs.all := by rw [← hall, append_assoc]; rfl
    have herror : ∀ err : String, some err = none → s.committed = migs.all := nofun
    unfold State.scan
    cases happlied : applied m.id with
    | some prev =>
      have hm : m ∈ s.committed := (hrest m mem_cons_self).mp (by rw [happlied]; rfl)
      dsimp only
      rw [happlied]
      dsimp only
      split_ifs
      · exact h.goTo (And.intro hlock (herror _))
      · refine h.goTo ⟨hlock, done ++ [m], hall', ?_, hrest'⟩
        exact forall_mem_append.mpr ⟨hdone, forall_mem_singleton.mpr hm⟩
    | none =>
      have hm : m ∉ s.committed := fun hm => by
        have := (hrest m mem_cons_self).mpr hm
        rw [happlied] at this
        cases this
      have hcommitted := h.committed_eq hall hdone hm
      have hothers : ∀ j, j ≠ i → s.holder ≠ some j := fun j hj heq =>
        hj (Option.some.inj (heq.symm.trans hlock))
      have hmem : m ∈ migs.all := by rw [← hall]; simp
      have hcommit : ∀ p, Fits migs (s.commit m) i p → Inv migs ((s.commit m).goTo i p) := by
        intro p hp
        refine inv_goTo (s := s) rfl ?_ ?_ (fun j hj => (h.fits j).other (hothers j hj) ?_) hp
        · exact ⟨rest, by rw [State.commit, hcommitted]; exact hall'⟩
        · intro id
          rw [State.commit, applied_insert, map_append]
          split_ifs with hid
          · simp [hid]
          · rw [h.ledger]
            simp [hid]
        · exact fun heq => absurd (heq ▸ hmem) hm
      dsimp only
      rw [happlied]
      cases outcome with
      | ok =>
        refine hcommit _ ?_
        refine ⟨hlock, done ++ [m], hall', ?_, fun x hx => ?_⟩
        · rw [State.commit, hcommitted]
          exact fun x hx => hx
        · have hne : x ≠ m := by
            rintro rfl
            have hnodup := nodup_all migs
            rw [← hall', nodup_append] at hnodup
            exact hnodup.2.2 x (by simp) x hx rfl
          rw [hrest' x hx, State.commit]
          simp [hne]
      | fails err committed =>
        cases committed with
        | true => exact hcommit _ (And.intro hlock nofun)
        | false => exact h.goTo (And.intro hlock (herror _))
      | sqlFails err recorded =>
        cases recorded with
        | false => exact h.goTo (And.intro hlock (herror _))
        | true =>
          refine inv_goTo (s := s) rfl h.ordered (fun id => ?_)
            (fun j hj => (h.fits j).other (hothers j hj) id) (And.intro hlock (herror _))
          rw [State.recordFailure, applied_insert, ← h.ledger]
          split_ifs with hid
          · rw [hid, h.applied_iff hmem]
            simp [hm]
          · rfl

lemma fits_read (h : Inv migs s) {opts : Options} (hp : Fits migs s i (.reading opts))
    (ensure applied schema : Except String Unit) (existing : Bool) :
    Fits migs s i (s.read migs opts ensure applied schema existing) := by
  have herror : ∀ res err, Fits migs s i (State.finish opts res (some err)) := by
    intro res err
    unfold State.finish
    split_ifs with hdry
    · exact nofun
    · exact And.intro (hp (eq_false_of_ne_true hdry)) nofun
  unfold State.read
  rcases ensure with err | u
  · exact herror _ _
  rcases applied with err | u'
  · exact herror _ _
  split_ifs with hdry
  · intro hwet
    rw [hdry] at hwet
    cases hwet
  all_goals have hlock := hp (eq_false_of_ne_true hdry)
  all_goals have hnone : ∀ m ∈ ([] : List Migration), m ∈ s.committed := forall_mem_nil _
  · exact ⟨hlock, [], rfl, hnone, fun m hm => h.applied_iff hm⟩
  · rcases schema with err | u''
    · exact And.intro hlock nofun
    · exact ⟨hlock, [], rfl, hnone, fun m hm => h.applied_iff hm⟩

lemma inv_unlock (h : Inv migs s) (hp : ∀ t, t.committed = s.committed → Fits migs t i p) :
    Inv migs ((s.unlock i).goTo i p) := by
  unfold State.unlock
  split_ifs with hlock
  · refine inv_goTo (s := s) rfl h.ordered h.ledger (fun j hj => ?_) (hp _ rfl)
    refine (h.fits j).other (fun heq => hj ?_) id
    exact Option.some.inj (heq.symm.trans hlock)
  · exact h.goTo (hp s rfl)

lemma inv_step (migs : Migrations) (s : State) (c : Cmd) (h : Inv migs s) :
    Inv migs (s.step migs c) := by
  cases c with
  | call i opts =>
    have hcall : Fits migs s i (if opts.dryRun then .reading opts else .waiting opts) := by
      split_ifs with hdry
      · intro hwet
        rw [hdry] at hwet
        cases hwet
      · exact eq_false_of_ne_true hdry
    unfold State.step
    dsimp only
    split
    · exact h.goTo hcall
    · exact h.goTo hcall
    · exact h
  | acquire i failure =>
    unfold State.step
    dsimp only
    split
    · exact h.goTo nofun
    · split_ifs with hfree
      · refine inv_goTo (s := s) rfl h.ordered h.ledger (fun j _ => ?_) fun _ => rfl
        exact (h.fits j).other (by simp [hfree]) id
      · exact h
    · exact h
  | read i ensure applied schema existing =>
    unfold State.step
    dsimp only
    split
    · rename_i opts hphase
      exact h.goTo (fits_read h (hphase ▸ h.fits i) ensure applied schema existing)
    · exact h
  | scan i outcome =>
    unfold State.step
    dsimp only
    split
    · rename_i opts applied rest res hphase
      exact inv_scan h (hphase ▸ h.fits i) outcome
    · exact h
  | release i =>
    unfold State.step
    dsimp only
    split
    · rename_i opts res err hphase
      have hp : Fits migs s i (.releasing opts res err) := hphase ▸ h.fits i
      exact inv_unlock h fun t ht _ herr => ht.trans (hp.2 herr)
    · exact h
  | crash i => exact inv_unlock h fun _ _ => trivial

lemma inv_run (migs : Migrations) (cmds : List Cmd) : Inv migs ((driver migs).run {} cmds) := by
  refine Machine.run_invariant (driver migs) ?_ (inv_step migs) cmds
  exact ⟨ nil_prefix, fun _ => by simp [State.applied], fun _ => trivial⟩

theorem migration_ledger (migs : Migrations) (cmds : List Cmd) :
    let s := (driver migs).run {} cmds
    s.committed <+: migs.all ∧ s.committed.Nodup ∧
      (∀ m ∈ migs.all, (s.applied m.id).isSome ↔ m ∈ s.committed) ∧
      ∀ i opts res, s.phase i = .returned opts res none → opts.dryRun = false →
        s.pending migs = [] := by
  have h := inv_run migs cmds
  refine ⟨h.ordered, (nodup_all migs).sublist h.ordered.sublist, fun m hm => h.applied_iff hm, ?_⟩
  intro i opts res hphase hwet
  have hp := h.fits i
  rw [hphase] at hp
  refine map_eq_nil_iff.mpr (filter_eq_nil_iff.mpr fun m hm => ?_)
  rw [Option.isNone_iff_eq_none, ← Option.not_isSome_iff_eq_none, not_not, h.applied_iff hm,
    hp hwet rfl]
  exact hm

def oneMigration : Migrations where
  all := [⟨"postgres/001_init.sql", 1, "CREATE TABLE virtual_keys ()", "9f"⟩]
  sorted := by simp
  ids := by simp

theorem dry_run_leaves_pending :
    let s := (driver oneMigration).run {}
      [.call 0 ⟨true, false⟩, .read 0 (.ok ()) (.ok ()) (.ok ()) false]
    (∃ opts res, s.phase 0 = .returned opts res none) ∧
      s.pending oneMigration = ["postgres/001_init.sql"] :=
  ⟨⟨_, _, rfl⟩, by decide⟩

end FfxNexus.Migrate
