/-
**Settled runs** (`PollOnce` and `Cancel` of `internal/benchmark/runner.go` over the UPDATE of
`internal/core/benchmark_runs.go`, which does not look at the status it replaces).
-/
import FfxNexus.Benchmark.Keys

namespace FfxNexus.Benchmark
open Go Interaction List

def VendorWorld (reports : Set Status) (s : State) : (o : Op) → Ans o → State → Prop
  | .evaluationStatus _ _, x, s' =>
    s' = s ∧ ∀ ev : Evaluation, x = Except.ok ev → normalizeStatus ev.status ∈ reports
  | o, x, s' => World s o x s'

inductive Starts : Call → Prog Ans Unit → Prop
  | poll : Starts .pollOnce Call.pollOnce.program
  | cancel (id : String) : Starts (.cancel id) (Call.cancel id).program

def Keyed (s : State) : Prop := ∀ id row, s.runs.lookup id = some row → row.run.id = id

def statusOf (s : State) (id : String) : Option Status :=
  (s.runs.lookup id).map fun row => row.run.status

def StaysSettled (reports : Set Status) : Prop :=
  ∀ s₀, Keyed s₀ → ∀ P P', Pool.Reachable Starts (fun _ => VendorWorld reports) s₀ P →
    Pool.Step Starts (fun _ => VendorWorld reports) P P' →
      ∀ id status, statusOf P.shared id = some status → settled status = true →
        statusOf P'.shared id = some status

def Frozen (s₀ : State) (id : String) : Prop :=
  ∃ status, statusOf s₀ id = some status ∧ settled status = true ∧ status ≠ .cancelled

structure Kept (s₀ s : State) : Prop where
  keyed : Keyed s
  frozen : ∀ id status, settled status = true → status ≠ .cancelled →
    (statusOf s id = some status ↔ statusOf s₀ id = some status)

def Told (s₀ : State) : (o : Op) → Ans o → Prop
  | .listUnsettled _, x => ∀ runs : List Run, x = Except.ok runs → ∀ run ∈ runs, ¬ Frozen s₀ run.id
  | .getRun _, x =>
    ∀ run : Run, x = Except.ok run → settled run.status = false → ¬ Frozen s₀ run.id
  | .evaluationStatus _ _, x =>
    ∀ ev : Evaluation, x = Except.ok ev → normalizeStatus ev.status = .cancelled
  | _, _ => True

def Cancels (s₀ : State) : Op → Prop
  | .updateProgress run => run.status = .cancelled ∧ ¬ Frozen s₀ run.id
  | .createRun _ | .deleteRun _ => False
  | _ => True

variable {s₀ s s' : State} {o : Op} {id : String} {run : Run} {reports : Set Status}

lemma statusOf_setRun {row : Stored} (id' : String) :
    statusOf (s.setRun id row run) id' = if id' = id then some run.status else statusOf s id' := by
  unfold statusOf State.setRun
  by_cases h : id' = id
  · subst h
    simp
  · simp [h]

lemma keyed_setRun (h : Keyed s) {row : Stored} (hid : run.id = id) :
    Keyed (s.setRun id row run) := by
  intro id' row' hrow'
  rcases lookup_insert_eq_some hrow' with ⟨rfl, rfl⟩ | ⟨-, hrow'⟩
  · exact hid
  · exact h id' row' hrow'

lemma kept_of_effect (hs : Kept s₀ s) (hop : Cancels s₀ o) (h : Effect s o s') :
    Kept s₀ s' ∧ ∀ id status, statusOf s id = some status → settled status = true →
      statusOf s' id = some status := by
  cases h with
  | none | minted _ _ | revoked _ => exact ⟨⟨hs.keyed, hs.frozen⟩, fun _ _ h _ => h⟩
  | inserted _ | deleted _ => exact hop.elim
  | @progressed run row hrow =>
    obtain ⟨hstatus, hfree⟩ := hop
    have hwritten : (row.run.progress run).status = .cancelled := hstatus
    refine ⟨⟨keyed_setRun hs.keyed (hs.keyed _ row hrow), fun id status hsettled hne => ?_⟩,
      fun id status hid hsettled => ?_⟩
    all_goals
      rw [statusOf_setRun, hwritten]
      split_ifs with heq
    · subst heq
      refine iff_of_false (fun h => hne (Option.some.inj h).symm) fun h => hfree ?_
      exact ⟨status, h, hsettled, hne⟩
    · exact hs.frozen id status hsettled hne
    · subst heq
      by_contra hne
      have hne : status ≠ .cancelled := fun h => hne (by rw [h])
      exact hfree ⟨status, (hs.frozen _ status hsettled hne).mp hid, hsettled, hne⟩
    · exact hid
  | @cleared id row hrow =>
    have hsame : ∀ id', statusOf (s.setRun id row { row.run with vkeyID := "" }) id' =
        statusOf s id' := by
      intro id'
      rw [statusOf_setRun]
      split_ifs with hid
      · subst hid
        rw [statusOf, hrow]
        rfl
      · rfl
    refine ⟨⟨keyed_setRun hs.keyed (hs.keyed _ row hrow), fun id' => ?_⟩, fun id' => ?_⟩
    · rw [hsame]
      exact hs.frozen id'
    · rw [hsame]
      exact fun _ h _ => h

lemma world_of_vendorWorld {x : Ans o} (h : VendorWorld reports s o x s') : World s o x s' := by
  cases o with
  | evaluationStatus token externalID => exact h.1
  | _ => exact h

lemma Kept.not_frozen (hs : Kept s₀ s) {row : Stored} (hrow : s.runs.lookup id = some row)
    (hopen : settled row.run.status = false) : ¬ Frozen s₀ row.run.id := by
  rintro ⟨status, hstatus, hsettled, hne⟩
  rw [hs.keyed id row hrow, ← hs.frozen id status hsettled hne, statusOf, hrow] at hstatus
  rw [← Option.some.inj hstatus, hopen] at hsettled
  cases hsettled

lemma told_of_world (hreports : ∀ status ∈ reports, status = .cancelled) (hs : Kept s₀ s)
    {x : Ans o} (hw : VendorWorld reports s o x s') : Told s₀ o x := by
  cases o with
  | listUnsettled limit =>
    rintro runs rfl run hrun
    obtain ⟨hopen, -, id, row, hrow, rfl⟩ := hw.2.2 run hrun
    exact hs.not_frozen hrow hopen
  | getRun id =>
    rintro run rfl hopen
    obtain ⟨-, row, hrow, rfl⟩ := hw
    exact hs.not_frozen hrow hopen
  | evaluationStatus token externalID => exact fun ev hev => hreports _ (hw.2 ev hev)
  | _ => trivial

abbrev Cancelling (s₀ : State) {α : Type} (p : Prog Ans α) : Prop :=
  p.Spec (Told s₀) (Cancels s₀) fun _ => True

lemma cancelling_revokeKey (run : Run) : Cancelling s₀ (revokeKey run) := by
  unfold revokeKey
  split_ifs
  · trivial
  · exact ⟨trivial, fun _ _ => trivial⟩

lemma cancelling_applyStatus (hrun : ¬ Frozen s₀ run.id) {ev : Evaluation}
    (hev : normalizeStatus ev.status = .cancelled) : Cancelling s₀ (applyStatus run ev) := by
  refine Prog.Spec.bind ?_ fun _ => ⟨⟨hev, hrun⟩, fun x _ => ?_⟩
  · unfold withdrawKey
    split_ifs
    · exact (cancelling_revokeKey _).bind fun _ => ⟨trivial, fun _ _ => trivial⟩
    · trivial
  · cases x <;> trivial

lemma cancelling_pollRuns (token : String) {runs : List Run}
    (h : ∀ run ∈ runs, ¬ Frozen s₀ run.id) : Cancelling s₀ (pollRuns token runs) := by
  induction runs with
  | nil => trivial
  | cons run runs ih =>
    have hrest := ih fun run hrun => h run (mem_cons_of_mem _ hrun)
    refine ⟨trivial, fun x hx => ?_⟩
    cases x with
    | error err => exact hrest
    | ok ev =>
      refine (cancelling_applyStatus (h run mem_cons_self) (hx ev rfl)).bind fun _ => ?_
      exact hrest.bind fun _ => trivial

lemma cancelling_pollOnce : Cancelling s₀ pollOnce := by
  refine Prog.spec_perform_bind.mpr ⟨trivial, fun x hx => ?_⟩
  cases x with
  | error err => trivial
  | ok runs =>
    dsimp only
    split_ifs
    · trivial
    · refine Prog.spec_perform_bind.mpr ⟨trivial, fun x _ => ?_⟩
      cases x with
      | error err => trivial
      | ok token =>
        dsimp only
        split_ifs
        · trivial
        · exact (cancelling_pollRuns token (hx runs rfl)).bind fun _ => trivial

lemma cancelling_settleCancelled (h : ¬ Frozen s₀ run.id) :
    Cancelling s₀ (settleCancelled run) := by
  refine (cancelling_revokeKey run).bind fun _ => ⟨⟨rfl, h⟩, fun x _ => ?_⟩
  cases x with
  | error err => trivial
  | ok u => exact ⟨trivial, fun _ _ => trivial⟩

lemma cancelling_cancel (id : String) : Cancelling s₀ (cancel id) := by
  refine Prog.spec_perform_bind.mpr ⟨trivial, fun x hx => ?_⟩
  cases x with
  | error err => trivial
  | ok run =>
    dsimp only
    split_ifs with hsettled hexternal
    · trivial
    all_goals have hrun := hx run rfl (eq_false_of_ne_true hsettled)
    · exact cancelling_settleCancelled hrun
    · refine Prog.spec_perform_bind.mpr ⟨trivial, fun x _ => ?_⟩
      cases x with
      | error err => trivial
      | ok token =>
        dsimp only
        split_ifs
        · trivial
        · exact ⟨trivial, fun _ _ => cancelling_settleCancelled hrun⟩

lemma cancelling_of_starts {c : Call} {p : Prog Ans Unit} (h : Starts c p) : Cancelling s₀ p := by
  cases h with
  | poll => exact cancelling_pollOnce.bind fun _ => trivial
  | cancel id => exact (cancelling_cancel id).bind fun _ => trivial

def word : Status → String
  | .pending => "PENDING"
  | .running => "RUNNING"
  | .completed => "COMPLETED"
  | .failed => "FAILED"
  | .cancelled => "CANCELLED"

def openRun : State where
  runs := AList.insert "run" ⟨{ id := "run", externalID := "evaluation", status := .running }, ""⟩ ∅

variable (status : Status)

def reporting (s : State) : (o : Op) → Ans o × State
  | .listUnsettled limit =>
    (.ok ((((s.runs.lookup "run").toList.map Stored.run).filter fun run =>
      settled run.status = false ∧ run.externalID ≠ "").take limit), s)
  | .evaluationStatus _ _ => (.ok { status := word status }, s)
  | o => clerk (.error "unavailable") true s o

lemma world_reporting {status : Status} (h : status ∈ reports) (s : State) (o : Op) :
    VendorWorld reports s o (reporting status s o).1 (reporting status s o).2 := by
  have hclerk := world_clerk (.error "unavailable") true s o
  cases o with
  | listUnsettled limit =>
    refine ⟨rfl, length_take_le _ _, fun run hrun => ?_⟩
    have hrun := mem_filter.mp (mem_of_mem_take hrun)
    obtain ⟨row, hrow, rfl⟩ := mem_map.mp hrun.1
    have hopen := of_decide_eq_true hrun.2
    exact ⟨hopen.1, hopen.2, "run", row, Option.mem_toList.mp hrow, rfl⟩
  | evaluationStatus token externalID =>
    refine ⟨rfl, ?_⟩
    rintro ev ⟨⟩
    have hword : normalizeStatus (word status) = status := by
      cases status <;> rfl
    rw [hword]
    exact h
  | _ => exact hclerk

def polled : State × Prog Ans Unit :=
  Prog.advance (reporting status) 3 openRun Call.pollOnce.program

def cancelled : State × Prog Ans Unit :=
  Prog.advance (reporting status) 16 (polled status).1 (Call.cancel "run").program

lemma status_overwritten {status : Status} (h : status ∈ reports) :
    ∃ P P', Pool.Reachable Starts (fun _ => VendorWorld reports) openRun P ∧
      Pool.Step Starts (fun _ => VendorWorld reports) P P' ∧
      statusOf P.shared "run" = some .cancelled ∧ statusOf P'.shared "run" = some status := by
  have hworld := world_reporting h
  have hpolled : Pool.Reachable Starts (fun _ => VendorWorld reports) openRun
      ⟨(polled status).1, [] ++ [(.pollOnce, (polled status).2)]⟩ := by
    refine Pool.Reachable.advance ?_ 3 (.step .init (.spawn .poll))
    exact hworld
  have hP : Pool.Reachable Starts (fun _ => VendorWorld reports) openRun
      ⟨(cancelled status).1,
        [(.pollOnce, (polled status).2)] ++ [(.cancel "run", (cancelled status).2)]⟩ := by
    refine Pool.Reachable.advance ?_ 16 (hpolled.step (.spawn (.cancel "run")))
    exact hworld
  have hwritten : statusOf (cancelled status).1 "run" = some .cancelled ∧
      (polled status).2.result? = none ∧ statusOf (Prog.advance (reporting status) 1
        (cancelled status).1 (polled status).2).1 "run" = some status := by
    cases status <;> decide
  obtain ⟨hcancelled, hbusy, hwritten⟩ := hwritten
  cases hnext : (polled status).2 with
  | ret a =>
    rw [hnext] at hbusy
    cases hbusy
  | op o k =>
    rw [hnext] at hwritten
    have hstep : Pool.Step Starts (fun _ => VendorWorld reports) ⟨(cancelled status).1,
        [] ++ (.pollOnce, .op o k) :: [(.cancel "run", (cancelled status).2)]⟩ _ :=
      .act (hworld (cancelled status).1 o)
    rw [← hnext] at hstep
    exact ⟨_, _, hP, hstep, hcancelled, hwritten⟩

theorem stays_settled_iff (reports : Set Status) :
    StaysSettled reports ↔ ∀ status ∈ reports, status = .cancelled := by
  constructor
  · intro h status hstatus
    obtain ⟨P, P', hP, hstep, hcancelled, hwritten⟩ := status_overwritten hstatus
    have hkeyed : Keyed openRun := by
      intro id row hrow
      rcases lookup_insert_eq_some hrow with ⟨rfl, rfl⟩ | ⟨-, hrow⟩
      · rfl
      · cases hrow
    have hkept := h openRun hkeyed P P' hP hstep "run" .cancelled hcancelled rfl
    exact Option.some.inj (hwritten.symm.trans hkept)
  · intro hreports s₀ hs0 P P' hP hstep id status hid hsettled
    have hkept : ∀ s o x s', Kept s₀ s → Cancels s₀ o → VendorWorld reports s o x s' →
        Kept s₀ s' ∧ ∀ id status, statusOf s id = some status → settled status = true →
          statusOf s' id = some status :=
      fun s o x s' hs hop hw => kept_of_effect hs hop (effect_of_world (world_of_vendorWorld hw))
    obtain ⟨hs, hthreads⟩ := hP.invariant (fun _ _ => cancelling_of_starts)
      (Kept.mk hs0 fun _ _ _ _ => Iff.rfl)
      (fun _ _ _ _ _ hs _ hw => told_of_world hreports hs hw)
      (fun _ s o x s' hs hop hw => (hkept s o x s' hs hop hw).1)
    cases hstep with
    | spawn => exact hid
    | @act s s' before after t o k x hw =>
      obtain ⟨hop, -⟩ := hthreads (t, .op o k) (by simp)
      exact (hkept s o x s' hs hop hw).2 id status hid hsettled

theorem cancelled_run_revived :
    ∃ P P', Pool.Reachable Starts (fun _ => VendorWorld Set.univ) openRun P ∧
      Pool.Step Starts (fun _ => VendorWorld Set.univ) P P' ∧
      statusOf P.shared "run" = some .cancelled ∧ statusOf P'.shared "run" = some .running :=
  status_overwritten (Set.mem_univ _)

end FfxNexus.Benchmark
