/-
**The keys of benchmark runs.** A run through the gateway gets a virtual key of its own, to be
revoked when the run has settled.
-/
import FfxNexus.Benchmark.Runner

open List Option

namespace FfxNexus.Benchmark
open Go Interaction

structure Stored where
  run : Run
  key : String

structure VirtualKey where
  orgID : String
  revoked : Bool
deriving DecidableEq

structure State where
  runs : GoMap String Stored := ∅
  keys : GoMap String VirtualKey := ∅
  known : List String := []
  forgotten : List String := []

def Run.progress (row r : Run) : Run :=
  { row with
    externalID := if r.externalID = "" then row.externalID else r.externalID
    status := r.status
    externalStatus := r.externalStatus
    avgScore := r.avgScore
    minScore := r.minScore
    maxScore := r.maxScore
    totalSamples := r.totalSamples
    metrics := if r.metrics = "" then row.metrics else r.metrics
    viewerURL := if r.viewerURL = "" then row.viewerURL else r.viewerURL
    error := r.error
    startedAt := r.startedAt <|> row.startedAt
    completedAt := r.completedAt <|> row.completedAt }

namespace State

variable (s : State)

def setKey (id : String) (key : VirtualKey) : State :=
  { s with keys := s.keys.insert id key }

def insertRun (run : Run) : State :=
  { s with runs := s.runs.insert run.id ⟨run, run.vkeyID⟩, known := run.id :: s.known }

def setRun (id : String) (row : Stored) (run : Run) : State :=
  { s with runs := s.runs.insert id { row with run := run } }

def forgetRun (id : String) (row : Stored) : State :=
  { s with runs := s.runs.erase id, forgotten := row.key :: s.forgotten }

end State

def OnOk {α : Type} (s s' : State) (x : Except String α) (effect : α → Prop) : Prop :=
  match x with
  | .error _ => s' = s
  | .ok a => effect a

variable (s : State)

def World : (o : Op) → Ans o → State → Prop
  | .createVirtualKey orgID _ _ _ _ _ _ _, x, s' =>
    OnOk s s' x fun key : String × String => key.1 ≠ "" ∧ s.keys.lookup key.1 = none ∧
      s' = s.setKey key.1 ⟨orgOr orgID, false⟩
  | .revokeVirtualKey orgID _ id, x, s' =>
    OnOk s s' x fun _ : Unit => ∃ key, s.keys.lookup id = some key ∧ key.orgID = orgID ∧
      s' = s.setKey id { key with revoked := true }
  | .createRun run, x, s' =>
    OnOk s s' x fun _ : Unit => run.id ≠ "" ∧ run.model ≠ "" ∧ run.provider ≠ "" ∧
      run.id ∉ s.known ∧ s' = s.insertRun run
  | .updateProgress run, x, s' =>
    OnOk s s' x fun _ : Unit => ∃ row, s.runs.lookup run.id = some row ∧
      s' = s.setRun run.id row (row.run.progress run)
  | .getRun id, x, s' =>
    OnOk s s' x fun run : Run => s' = s ∧ ∃ row, s.runs.lookup id = some row ∧ row.run = run
  | .listUnsettled limit, x, s' =>
    OnOk s s' x fun runs : List Run => s' = s ∧ runs.length ≤ limit ∧ ∀ run ∈ runs,
      settled run.status = false ∧ run.externalID ≠ "" ∧
        ∃ id row, s.runs.lookup id = some row ∧ row.run = run
  | .deleteRun id, x, s' =>
    OnOk s s' x fun _ : Unit => ∃ row, s.runs.lookup id = some row ∧ s' = s.forgetRun id row
  | .clearVKey id, x, s' =>
    OnOk s s' x fun _ : Unit => (s.runs.lookup id = none ∧ s' = s) ∨
      ∃ row, s.runs.lookup id = some row ∧ s' = s.setRun id row { row.run with vkeyID := "" }
  | _, _, s' => s' = s

inductive Effect (s : State) : Op → State → Prop
  | none (o : Op) : Effect s o s
  | minted {orgID actorID userID name id : String} {models : List String} {rpm : ℕ}
      {budget quality : ℚ} : id ≠ "" → s.keys.lookup id = .none →
      Effect s (.createVirtualKey orgID actorID userID name models rpm budget quality)
        (s.setKey id ⟨orgOr orgID, false⟩)
  | revoked {actorID id : String} {key : VirtualKey} : s.keys.lookup id = some key →
      Effect s (.revokeVirtualKey key.orgID actorID id) (s.setKey id { key with revoked := true })
  | inserted {run : Run} : run.id ∉ s.known → Effect s (.createRun run) (s.insertRun run)
  | progressed {run : Run} {row : Stored} : s.runs.lookup run.id = some row →
      Effect s (.updateProgress run) (s.setRun run.id row (row.run.progress run))
  | deleted {id : String} {row : Stored} : s.runs.lookup id = some row →
      Effect s (.deleteRun id) (s.forgetRun id row)
  | cleared {id : String} {row : Stored} : s.runs.lookup id = some row →
      Effect s (.clearVKey id) (s.setRun id row { row.run with vkeyID := "" })

variable {o : Op}

lemma effect_of_world {s s' : State} {x : Ans o} (h : World s o x s') : Effect s o s' := by
  have hnone : s' = s → Effect s o s' := fun heq => heq ▸ .none o
  cases o with
  | createVirtualKey orgID actorID userID name models rpm budget quality =>
    rcases x with err | ⟨id, secret⟩
    · exact hnone h
    · obtain ⟨hne, hnew, rfl⟩ := h
      exact .minted hne hnew
  | revokeVirtualKey orgID actorID id =>
    rcases x with err | u
    · exact hnone h
    · obtain ⟨key, hkey, rfl, rfl⟩ := h
      exact .revoked hkey
  | createRun run =>
    rcases x with err | u
    · exact hnone h
    · obtain ⟨-, -, -, hnew, rfl⟩ := h
      exact .inserted hnew
  | updateProgress run =>
    rcases x with err | u
    · exact hnone h
    · obtain ⟨row, hrow, rfl⟩ := h
      exact .progressed hrow
  | deleteRun id =>
    rcases x with err | u
    · exact hnone h
    · obtain ⟨row, hrow, rfl⟩ := h
      exact .deleted hrow
  | clearVKey id =>
    rcases x with err | u
    · exact hnone h
    · rcases h with ⟨-, heq⟩ | ⟨row, hrow, rfl⟩
      · exact hnone heq
      · exact .cleared hrow
  | getRun id =>
    rcases x with err | run
    · exact hnone h
    · exact hnone h.1
  | listUnsettled limit =>
    rcases x with err | runs
    · exact hnone h
    · exact hnone h.1
  | token | teamID | newRunID | environmentStatus | createEvaluation | evaluationStatus
  | cancelEvaluation => exact hnone h

def Revoked (id : String) : Prop :=
  id = "" ∨ ∃ key, s.keys.lookup id = some key ∧ key.revoked = true

def Held (id orgID : String) : Prop :=
  id = "" ∨ ∃ key, s.keys.lookup id = some key ∧ key.orgID = orgOr orgID

def Withdrawn (id : String) : Prop :=
  id ∈ s.known ∧ ∀ row, s.runs.lookup id = some row → Revoked s row.key

structure Snapshot (s : State) (run : Run) : Prop where
  known : run.id ∈ s.known
  held : Held s run.vkeyID run.orgID
  key : ∀ row, s.runs.lookup run.id = some row → run.vkeyID = row.key ∨ Revoked s row.key

structure Later (s s' : State) : Prop where
  known : ∀ id ∈ s.known, id ∈ s'.known
  rows : ∀ id ∈ s.known, ∀ row', s'.runs.lookup id = some row' →
    ∃ row, s.runs.lookup id = some row ∧ row.key = row'.key
  keys : ∀ id key, s.keys.lookup id = some key → ∃ key', s'.keys.lookup id = some key' ∧
    key'.orgID = key.orgID ∧ (key.revoked = true → key'.revoked = true)

namespace Later

lemma refl : Later s s :=
  ⟨fun _ h => h, fun _ _ row h => ⟨row, h, rfl⟩, fun _ key h => ⟨key, h, rfl, fun hr => hr⟩⟩

lemma trans {s s' s'' : State} (h : Later s s') (h' : Later s' s'') : Later s s'' where
  known := fun id hid => h'.known id (h.known id hid)
  rows := by
    intro id hid row'' hrow''
    obtain ⟨row', hrow', hkey'⟩ := h'.rows id (h.known id hid) row'' hrow''
    obtain ⟨row, hrow, hkey⟩ := h.rows id hid row' hrow'
    exact ⟨row, hrow, hkey.trans hkey'⟩
  keys := by
    intro id key hkey
    obtain ⟨key', hkey', horg, hrev⟩ := h.keys id key hkey
    obtain ⟨key'', hkey'', horg', hrev'⟩ := h'.keys id key' hkey'
    exact ⟨key'', hkey'', horg'.trans horg, fun hr => hrev' (hrev hr)⟩

variable {s s' : State} (h : Later s s')
include h

variable {id : String}

lemma revoked (hid : Revoked s id) : Revoked s' id := by
  rcases hid with hid | ⟨key, hkey, hrev⟩
  · exact .inl hid
  · obtain ⟨key', hkey', -, hrev'⟩ := h.keys id key hkey
    exact .inr ⟨key', hkey', hrev' hrev⟩

lemma held {orgID : String} (hid : Held s id orgID) : Held s' id orgID := by
  rcases hid with hid | ⟨key, hkey, horg⟩
  · exact .inl hid
  · obtain ⟨key', hkey', horg', -⟩ := h.keys id key hkey
    exact .inr ⟨key', hkey', horg'.trans horg⟩

lemma withdrawn (hid : Withdrawn s id) : Withdrawn s' id := by
  refine ⟨h.known id hid.1, ?_⟩
  intro row' hrow'
  obtain ⟨row, hrow, hkey⟩ := h.rows id hid.1 row' hrow'
  rw [← hkey]
  exact h.revoked (hid.2 row hrow)

lemma snapshot {run : Run} (hrun : Snapshot s run) : Snapshot s' run := by
  refine ⟨h.known _ hrun.known, h.held hrun.held, ?_⟩
  intro row' hrow'
  obtain ⟨row, hrow, hkey⟩ := h.rows _ hrun.known row' hrow'
  rw [← hkey]
  exact (hrun.key row hrow).imp_right h.revoked

end Later

variable {run : Run}

variable {β : Type} {post : State → β → Prop} {s : State}

lemma Snapshot.withdrawn (h : Snapshot s run) (hrev : Revoked s run.vkeyID) :
    Withdrawn s run.id := by
  refine ⟨h.known, ?_⟩
  intro row hrow
  rcases h.key row hrow with heq | hrow'
  · rw [← heq]
    exact hrev
  · exact hrow'

lemma later_of_effect {s s' : State} (h : Effect s o s') : Later s s' := by
  have hrefl := Later.refl s
  cases h with
  | none => exact hrefl
  | @minted _ _ _ _ id _ _ _ _ _ hnew =>
    refine ⟨hrefl.known, hrefl.rows, ?_⟩
    intro id' key' hkey'
    have hne : id' ≠ id := by
      rintro rfl
      rw [hnew] at hkey'
      cases hkey'
    exact ⟨key', (AList.lookup_insert_ne hne).trans hkey', rfl, fun hr => hr⟩
  | @revoked actorID id key hkey =>
    refine ⟨hrefl.known, hrefl.rows, ?_⟩
    intro id' key' hkey'
    by_cases hid : id' = id
    · subst hid
      rw [hkey, some.injEq] at hkey'
      rw [← hkey']
      exact ⟨_, AList.lookup_insert _, rfl, fun _ => rfl⟩
    · exact ⟨key', (AList.lookup_insert_ne hid).trans hkey', rfl, fun hr => hr⟩
  | @inserted run hnew =>
    refine ⟨fun id hid => mem_cons_of_mem _ hid, ?_, hrefl.keys⟩
    intro id hid row' hrow'
    rcases lookup_insert_eq_some hrow' with ⟨rfl, -⟩ | ⟨-, hrow⟩
    · exact absurd hid hnew
    · exact ⟨row', hrow, rfl⟩
  | @progressed run row hrow =>
    refine ⟨hrefl.known, ?_, hrefl.keys⟩
    intro id _ row' hrow'
    rcases lookup_insert_eq_some hrow' with ⟨rfl, rfl⟩ | ⟨-, hrow''⟩
    · exact ⟨row, hrow, rfl⟩
    · exact ⟨row', hrow'', rfl⟩
  | @deleted id row hrow =>
    refine ⟨hrefl.known, ?_, hrefl.keys⟩
    intro id' _ row' hrow'
    exact ⟨row', (lookup_erase_eq_some hrow').2, rfl⟩
  | @cleared id row hrow =>
    refine ⟨hrefl.known, ?_, hrefl.keys⟩
    intro id' _ row' hrow'
    rcases lookup_insert_eq_some hrow' with ⟨rfl, rfl⟩ | ⟨-, hrow''⟩
    · exact ⟨row, hrow, rfl⟩
    · exact ⟨row', hrow'', rfl⟩

structure Sound (s : State) : Prop where
  row : ∀ id row, s.runs.lookup id = some row → id ∈ s.known ∧ row.run.id = id ∧
    Held s row.key row.run.orgID ∧
    (row.run.vkeyID = row.key ∨ (row.run.vkeyID = "" ∧ Revoked s row.key))
  forgotten : ∀ id ∈ s.forgotten, Revoked s id

variable {id : String}

lemma Sound.snapshot (h : Sound s) {row : Stored}
    (hrow : s.runs.lookup id = some row) : Snapshot s row.run := by
  obtain ⟨hknown, hid, hheld, hkey⟩ := h.row id row hrow
  rw [← hid] at hknown
  refine ⟨hknown, ?_, ?_⟩
  · rcases hkey with heq | ⟨hempty, -⟩
    · rw [heq]
      exact hheld
    · exact .inl hempty
  · intro row' hrow'
    rw [hid, hrow, some.injEq] at hrow'
    rw [← hrow']
    exact hkey.imp_right fun h => h.2

def Allowed (s : State) : (o : Op) → (Ans o → Option Op) → Prop
  | .revokeVirtualKey orgID _ id, _ => ∃ key, s.keys.lookup id = some key ∧ key.orgID = orgID
  | .createRun run, _ => settled run.status = false ∧ Held s run.vkeyID run.orgID
  | .updateProgress run, next => settled run.status = true →
      ∀ row, s.runs.lookup run.id = some row → Revoked s row.key ∨
        ∀ x, ∃ orgID actorID, next x = some (.revokeVirtualKey orgID actorID row.key)
  | .clearVKey id, _ => ∀ row, s.runs.lookup id = some row → Revoked s row.key
  | .deleteRun id, _ => ∀ row, s.runs.lookup id = some row → Revoked s row.key
  | _, _ => True

def Reliable (s : State) : (o : Op) → Ans o → Prop
  | .revokeVirtualKey orgID _ id, x =>
    (∃ key, s.keys.lookup id = some key ∧ key.orgID = orgID) → x = Except.ok ()
  | .createEvaluation _ body, x => body.apiBaseURL ≠ "" → ∀ out : LaunchResult,
      x = Except.ok out → out.evaluationID ≠ "" → settled (normalizeStatus out.status) = false
  | _, _ => True

def ReliableWorld (s : State) (o : Op) (x : Ans o) (s' : State) : Prop :=
  World s o x s' ∧ Reliable s o x

lemma revoked_of_world {s s' : State} {orgID actorID : String}
    {x : Ans (.revokeVirtualKey orgID actorID id)}
    (hop : ∃ key, s.keys.lookup id = some key ∧ key.orgID = orgID)
    (hw : ReliableWorld s (.revokeVirtualKey orgID actorID id) x s') : Revoked s' id := by
  obtain ⟨hworld, hreliable⟩ := hw
  obtain rfl : x = Except.ok () := hreliable hop
  obtain ⟨key, -, -, rfl⟩ := hworld
  exact .inr ⟨_, AList.lookup_insert _, rfl⟩

lemma sound_of_effect {s s' : State} {next : Ans o → Option Op} (hs : Sound s)
    (hop : Allowed s o next) (h : Effect s o s') : Sound s' := by
  have hlater := later_of_effect h
  have hrest : ∀ id row, s.runs.lookup id = some row → id ∈ s'.known ∧ row.run.id = id ∧
      Held s' row.key row.run.orgID ∧
      (row.run.vkeyID = row.key ∨ (row.run.vkeyID = "" ∧ Revoked s' row.key)) := by
    intro id row hrow
    obtain ⟨hknown, hid, hheld, hkey⟩ := hs.row id row hrow
    exact ⟨hlater.known id hknown, hid, hlater.held hheld,
      hkey.imp_right fun h => ⟨h.1, hlater.revoked h.2⟩⟩
  have hforgotten : ∀ id ∈ s.forgotten, Revoked s' id :=
    fun id hid => hlater.revoked (hs.forgotten id hid)
  cases h with
  | none => exact hs
  | minted _ _ => exact ⟨hrest, hforgotten⟩
  | revoked _ => exact ⟨hrest, hforgotten⟩
  | @inserted run hnew =>
    refine ⟨?_, hforgotten⟩
    intro id row hrow
    rcases lookup_insert_eq_some hrow with ⟨rfl, rfl⟩ | ⟨-, hrow'⟩
    · exact ⟨mem_cons_self, rfl, hlater.held hop.2, .inl rfl⟩
    · exact hrest id row hrow'
  | @progressed run row hrow =>
    refine ⟨?_, hforgotten⟩
    intro id row' hrow'
    rcases lookup_insert_eq_some hrow' with ⟨rfl, rfl⟩ | ⟨-, hrow''⟩
    · exact hrest run.id row hrow
    · exact hrest id row' hrow''
  | @deleted id row hrow =>
    refine ⟨fun id' row' hrow' => hrest id' row' (lookup_erase_eq_some hrow').2, ?_⟩
    intro key hkey
    rcases mem_cons.mp hkey with rfl | hkey
    · exact hlater.revoked (hop row hrow)
    · exact hforgotten key hkey
  | @cleared id row hrow =>
    refine ⟨?_, hforgotten⟩
    intro id' row' hrow'
    rcases lookup_insert_eq_some hrow' with ⟨rfl, rfl⟩ | ⟨-, hrow''⟩
    · obtain ⟨hknown, hid, hheld, -⟩ := hrest id' row hrow
      exact ⟨hknown, hid, hheld, .inr ⟨rfl, hlater.revoked (hop row hrow)⟩⟩
    · exact hrest id' row' hrow''

abbrev Guarded {α : Type} (post : State → α → Prop) (p : Prog Ans α) (s : State) : Prop :=
  p.Guarded Later Sound ReliableWorld Allowed post s

lemma guarded_seq {α β : Type} {mid : State → α → Prop} {post : State → β → Prop}
    {p : Prog Ans α} {f : α → Prog Ans β} {s : State} (hp : Guarded mid p s)
    (hf : ∀ s a, mid s a → Guarded post (f a) s) : Guarded post (p >>= f) s := by
  refine Prog.guarded_bind ?_ hp hf
  intro s o n n' hnext hop
  cases o with
  | updateProgress run =>
    intro hsettled row hrow
    refine (hop hsettled row hrow).imp_right fun h x => ?_
    obtain ⟨orgID, actorID, hx⟩ := h x
    exact ⟨orgID, actorID, hnext x _ hx⟩
  | _ => exact hop

lemma guarded_call {f : Ans o → Prog Ans β} {s : State}
    (h : ∀ s', Later s s' → Sound s' → Allowed s' o (fun x => (f x).next?) ∧
      ∀ x s'', ReliableWorld s' o x s'' → Later s' s'' → Guarded post (f x) s'') :
    Guarded post (call o >>= f) s := by
  refine Prog.guarded_perform_bind.mpr fun s' hlater hsound => ?_
  obtain ⟨hop, hcont⟩ := h s' hlater hsound
  exact ⟨hop, fun x s'' hw => hcont x s'' hw (later_of_effect (effect_of_world hw.1))⟩

lemma guarded_plain {f : Ans o → Prog Ans β} {s : State}
    (hop : ∀ s', Later s s' → Allowed s' o (fun x => (f x).next?))
    (h : ∀ x s', Later s s' → Guarded post (f x) s') : Guarded post (call o >>= f) s := by
  refine guarded_call fun s' hlater _ => ⟨hop s' hlater, fun x s'' _ hlater' => ?_⟩
  exact h x s'' (hlater.trans hlater')

lemma guarded_revokeKey (run : Run) (h : Held s run.vkeyID run.orgID) :
    Guarded (fun s' _ => Later s s' ∧ Revoked s' run.vkeyID) (revokeKey run) s := by
  unfold revokeKey
  split_ifs with hkey
  · exact ⟨.refl s, .inl hkey⟩
  refine guarded_call fun s' hlater _ => ?_
  have hfound := (hlater.held h).resolve_left hkey
  exact ⟨hfound, fun x s'' hw hlater' => ⟨hlater.trans hlater', revoked_of_world hfound hw⟩⟩

lemma next?_revokeKey_bind (run : Run) (h : run.vkeyID ≠ "") (f : Unit → Prog Ans β) :
    (revokeKey run >>= f).next? =
      some (.revokeVirtualKey (orgOr run.orgID) run.createdBy run.vkeyID) := by
  unfold revokeKey
  rw [if_neg h]
  rfl

lemma guarded_withdrawKey (h : Snapshot s run) (status : Status) :
    Guarded (fun s' _ => Later s s' ∧ (settled status = true → Withdrawn s' run.id))
      (withdrawKey run status) s := by
  unfold withdrawKey
  split_ifs with hc
  · have hheld : Held s run.vkeyID (orgOr run.orgID) := by
      rw [Held, orgOr_orgOr]
      exact h.held
    refine guarded_seq (guarded_revokeKey { run with orgID := orgOr run.orgID } hheld) ?_
    rintro s1 - ⟨hlater, hrev⟩
    have hdone : Withdrawn s1 run.id := (hlater.snapshot h).withdrawn hrev
    refine guarded_plain (fun s2 hl => (hl.withdrawn hdone).2) fun _ s2 hl => ?_
    exact ⟨hlater.trans hl, fun _ => hl.withdrawn hdone⟩
  · refine ⟨.refl s, fun hsettled => h.withdrawn (.inl ?_)⟩
    by_contra hkey
    exact hc ⟨hsettled, hkey⟩

lemma guarded_applyStatus (h : Snapshot s run) (ev : Evaluation) :
    Guarded (fun s' _ => Later s s') (applyStatus run ev) s := by
  refine guarded_seq (guarded_withdrawKey h (normalizeStatus ev.status)) ?_
  rintro s1 - ⟨hlater, hdone⟩
  refine guarded_plain ?_ ?_
  · intro s2 hl hsettled row hrow
    exact .inl ((hl.withdrawn (hdone hsettled)).2 row hrow)
  · rintro (err | u) s2 hl
    · exact hlater.trans hl
    · exact hlater.trans hl

lemma guarded_pollRuns (token : String) {runs : List Run}
    (h : ∀ run ∈ runs, Snapshot s run) : Guarded (fun _ _ => True) (pollRuns token runs) s := by
  induction runs generalizing s with
  | nil => trivial
  | cons run runs ih =>
    have hrest : ∀ s', Later s s' → Guarded (fun _ _ => True) (pollRuns token runs) s' :=
      fun s' hl => ih fun run' hrun' => hl.snapshot (h run' (mem_cons_of_mem _ hrun'))
    refine guarded_plain (fun _ _ => trivial) ?_
    rintro (err | ev) s1 hl1
    · exact hrest s1 hl1
    · refine guarded_seq (guarded_applyStatus (hl1.snapshot (h run mem_cons_self)) ev) ?_
      intro s2 written hl2
      exact guarded_seq (hrest s2 (hl1.trans hl2)) fun _ _ _ => trivial

lemma guarded_pollOnce (s : State) : Guarded (fun _ _ => True) pollOnce s := by
  refine guarded_call fun s1 _ hsound => ⟨trivial, ?_⟩
  rintro (err | runs) s2 hw hl
  · trivial
  obtain ⟨rfl, -, hruns⟩ := hw.1
  have hsnap : ∀ run ∈ runs, Snapshot s2 run := by
    intro run hrun
    obtain ⟨-, -, id, row, hrow, rfl⟩ := hruns run hrun
    exact hsound.snapshot hrow
  show Guarded _ (ite _ _ _) s2
  split_ifs with hempty
  · trivial
  refine guarded_plain (fun _ _ => trivial) ?_
  rintro (err | token) s3 hl3
  · trivial
  show Guarded _ (ite _ _ _) s3
  split_ifs with htoken
  · trivial
  have hpoll := guarded_pollRuns token fun run hrun => hl3.snapshot (hsnap run hrun)
  exact guarded_seq hpoll fun _ _ _ => trivial

lemma guarded_getRun {f : Except String Run → Prog Ans β}
    {s : State} (herr : ∀ err s', Later s s' → Guarded post (f (.error err)) s')
    (hok : ∀ run s', Later s s' → Snapshot s' run → run.id = id → Guarded post (f (.ok run)) s') :
    Guarded post (call (.getRun id) >>= f) s := by
  refine guarded_call fun s1 hl hsound => ⟨trivial, ?_⟩
  rintro (err | run) s2 hw hl'
  · exact herr err s2 (hl.trans hl')
  · obtain ⟨rfl, row, hrow, rfl⟩ := hw.1
    exact hok row.run s2 hl (hsound.snapshot hrow) (hsound.row id row hrow).2.1

lemma guarded_settleCancelled {s0 s : State} (hl0 : Later s0 s) (h : Snapshot s run) :
    Guarded (fun s' _ => Later s0 s') (settleCancelled run) s := by
  refine guarded_seq (guarded_revokeKey run h.held) ?_
  rintro s1 - ⟨hl1, hrev⟩
  have hdone := (hl1.snapshot h).withdrawn hrev
  refine guarded_plain ?_ ?_
  · intro s2 hl2 _ row hrow
    exact .inl ((hl2.withdrawn hdone).2 row hrow)
  rintro (err | u) s2 hl2
  · exact (hl0.trans hl1).trans hl2
  · refine guarded_plain (fun s3 hl3 => ((hl2.trans hl3).withdrawn hdone).2) fun _ s3 hl3 => ?_
    exact ((hl0.trans hl1).trans hl2).trans hl3

lemma guarded_cancel (s : State) (id : String) :
    Guarded (fun s' _ => Later s s') (cancel id) s := by
  refine guarded_getRun (fun _ _ hl => hl) fun run s1 hl1 hsnap _ => ?_
  show Guarded _ (ite _ _ (ite _ _ _)) s1
  by_cases hsettled : settled run.status = true
  · rw [if_pos hsettled]
    exact hl1
  split_ifs with hexternal
  · exact guarded_settleCancelled hl1 hsnap
  refine guarded_plain (fun _ _ => trivial) ?_
  rintro (err | token) s2 hl2
  · exact hl1.trans hl2
  show Guarded _ (ite _ _ _) s2
  split_ifs with htoken
  · exact hl1.trans hl2
  refine guarded_plain (fun _ _ => trivial) fun _ s3 hl3 => ?_
  have hl := hl2.trans hl3
  exact guarded_settleCancelled (hl1.trans hl) (hl.snapshot hsnap)

lemma guarded_forget (h : Snapshot s run) : Guarded (fun _ _ => True) (forget run run.id) s := by
  refine guarded_seq (guarded_revokeKey run h.held) ?_
  rintro s1 - ⟨hl1, hrev⟩
  have hdone := (hl1.snapshot h).withdrawn hrev
  refine guarded_plain (fun s2 hl2 => (hl2.withdrawn hdone).2) ?_
  rintro (err | u) s2 -
  · trivial
  · trivial

lemma guarded_delete (s : State) (id : String) : Guarded (fun _ _ => True) (delete id) s := by
  refine guarded_getRun (fun _ _ _ => trivial) ?_
  rintro run s1 - hsnap rfl
  show Guarded _ (ite _ _ _) s1
  split_ifs with hsettled
  · exact guarded_forget hsnap
  · refine guarded_seq (guarded_cancel s1 run.id) fun s2 _ hl => ?_
    exact guarded_forget (hl.snapshot hsnap)

lemma guarded_resolveEnvironmentID (s : State) (token slug : String) :
    Guarded (fun s' _ => Later s s') (resolveEnvironmentID token slug) s := by
  unfold resolveEnvironmentID
  split_ifs
  · exact .refl s
  cases cut slug '/' with
  | none => exact .refl s
  | some parts =>
    show Guarded _ (ite _ _ _) s
    split_ifs
    · exact .refl s
    refine guarded_plain (fun _ _ => trivial) ?_
    rintro (err | id) s1 hl
    · exact hl
    show Guarded _ (ite _ _ _) s1
    split_ifs
    · exact hl
    · exact hl

lemma guarded_resolveEnvironmentIDs {s0 s : State} (hl : Later s0 s) (token : String)
    (slugs : List String) :
    Guarded (fun s' _ => Later s0 s') (resolveEnvironmentIDs token slugs) s := by
  induction slugs generalizing s with
  | nil => exact hl
  | cons slug slugs ih =>
    refine guarded_seq (guarded_resolveEnvironmentID s token slug) ?_
    rintro s1 (err | id) hl1
    · exact hl.trans hl1
    refine guarded_seq (ih (hl.trans hl1)) ?_
    rintro s2 (err | ids) hl2
    · exact hl2
    · exact hl2

lemma guarded_submit (s : State) (token : String) (req : LaunchRequest) :
    Guarded (fun s' out => Later s s' ∧ (out.2 = none → req.baseURL ≠ "" →
      settled (normalizeStatus out.1.status) = false)) (submit token req) s := by
  have hfail : ∀ (s' : State) (out : LaunchResult) (err : String), Later s s' → Later s s' ∧
      ((out, some err).2 = none → req.baseURL ≠ "" →
        settled (normalizeStatus (out, some err).1.status) = false) :=
    fun s' out err hl => ⟨hl, fun h => by cases h⟩
  unfold submit
  split_ifs with htoken
  · exact hfail s _ _ (.refl s)
  cases req.validate with
  | error err => exact hfail s _ _ (.refl s)
  | ok u =>
    refine guarded_seq (guarded_resolveEnvironmentIDs (.refl s) token req.environments) ?_
    rintro s1 (err | ids) hl1
    · exact hfail s1 _ _ hl1
    refine guarded_call fun s2 hl2 _ => ⟨trivial, ?_⟩
    rintro (err | out) s3 hw hl3
    · exact hfail s3 _ _ ((hl1.trans hl2).trans hl3)
    have hl := (hl1.trans hl2).trans hl3
    show Guarded _ (ite _ _ (ite _ _ _)) s3
    by_cases hid : out.evaluationID ≠ ""
    · rw [if_pos hid]
      exact ⟨hl, fun _ hbase => hw.2 hbase out rfl hid⟩
    split_ifs
    · exact hfail s3 _ _ hl
    · exact hfail s3 _ _ hl

lemma guarded_record (token : String) {req : LaunchRequest}
    (hheld : Held s run.vkeyID run.orgID) (hpending : settled run.status = false)
    (hbase : run.vkeyID ≠ "" → req.baseURL ≠ "") :
    Guarded (fun _ _ => True) (record token req run) s := by
  refine guarded_call fun s1 hl1 _ => ⟨⟨hpending, hl1.held hheld⟩, ?_⟩
  rintro (err | u) s2 hw hl2
  · have hheld2 := (hl1.trans hl2).held hheld
    exact guarded_seq (guarded_revokeKey run hheld2) fun _ _ _ => trivial
  have hsnap : Snapshot s2 run := by
    obtain ⟨-, -, -, -, rfl⟩ := hw.1
    refine ⟨mem_cons_self, (hl1.trans hl2).held hheld, ?_⟩
    intro row hrow
    rcases lookup_insert_eq_some hrow with ⟨-, rfl⟩ | ⟨hne, -⟩
    · exact .inl rfl
    · exact absurd rfl hne
  refine guarded_seq (guarded_submit s2 token req) ?_
  rintro s3 ⟨res, _ | err⟩ ⟨hl3, hunsettled⟩
  · refine guarded_plain ?_ fun _ _ _ => trivial
    intro s4 hl4 hsettled row hrow
    have hkey : run.vkeyID = "" := by
      by_contra hne
      have hfalse : settled (normalizeStatus res.status) = false := hunsettled rfl (hbase hne)
      exact absurd (hfalse.symm.trans hsettled) (by decide)
    exact .inl ((((hl3.trans hl4).snapshot hsnap).withdrawn (.inl hkey)).2 row hrow)
  · refine guarded_plain ?_ ?_
    · intro s4 hl4 _ row hrow
      rcases ((hl3.trans hl4).snapshot hsnap).key row hrow with hkey | hrev
      · by_cases hempty : run.vkeyID = ""
        · exact .inl (.inl (hkey.symm.trans hempty))
        right
        intro _
        rw [← hkey]
        exact ⟨_, _, next?_revokeKey_bind (run.refused res err) hempty _⟩
      · exact .inl hrev
    · intro _ s4 hl4
      have hheld4 := (hl3.trans hl4).held hsnap.held
      exact guarded_seq (guarded_revokeKey (run.refused res err) hheld4) fun _ _ _ => trivial

lemma guarded_mint (r : Runner) (spec : LaunchSpec) (token : String) (req : LaunchRequest)
    (id : String) (s : State) : Guarded (fun _ _ => True) (mint r spec token req id) s := by
  unfold mint
  by_cases hvia : spec.viaGateway = true
  · rw [if_pos hvia]
    by_cases hurl : r.gatewayURL = ""
    · rw [if_pos hurl]
      trivial
    rw [if_neg hurl]
    refine guarded_call fun s1 _ _ => ⟨trivial, ?_⟩
    rintro (err | ⟨key, secret⟩) s2 hw _
    · trivial
    refine guarded_record token ?_ rfl fun _ => ?_
    · -- the key is minted for the organisation that the row names
      obtain ⟨-, -, rfl⟩ := hw.1
      exact .inr ⟨_, AList.lookup_insert _, rfl⟩
    · intro hbase
      have hlen := congrArg String.length hbase
      simp [LaunchRequest.viaGateway] at hlen
  · rw [if_neg hvia]
    exact guarded_record token (.inl rfl) rfl fun h => absurd rfl h

lemma guarded_launch (r : Runner) (spec : LaunchSpec) (s : State) :
    Guarded (fun _ _ => True) (launch r spec) s := by
  refine guarded_plain (fun _ _ => trivial) ?_
  rintro (err | token) s1 _
  · trivial
  show Guarded _ (ite _ _ _) s1
  split_ifs with htoken
  · trivial
  refine guarded_plain (fun _ _ => trivial) ?_
  rintro (err | teamID) s2 _
  · trivial
  cases hval : (spec.request teamID).validate with
  | error err =>
    simp only [hval]
    trivial
  | ok u =>
    simp only [hval]
    exact guarded_plain (fun _ _ => trivial) fun id s3 _ => guarded_mint r spec token _ id s3

inductive Call
  | launch (r : Runner) (spec : LaunchSpec)
  | pollOnce
  | cancel (id : String)
  | delete (id : String)

def Call.program : Call → Prog Ans Unit
  | .launch r spec => do let _ ← Benchmark.launch r spec
  | .pollOnce => do let _ ← Benchmark.pollOnce
  | .cancel id => do let _ ← Benchmark.cancel id
  | .delete id => do let _ ← Benchmark.delete id

abbrev Reach (world : State → (o : Op) → Ans o → State → Prop) : Pool Ans State Call Unit → Prop :=
  Pool.Reachable (fun c p => p = c.program) (fun _ => world) {}

lemma guarded_program (c : Call) (s : State) : Guarded (fun _ _ => True) c.program s := by
  cases c with
  | launch r spec => exact guarded_seq (guarded_launch r spec s) fun _ _ _ => trivial
  | pollOnce => exact guarded_seq (guarded_pollOnce s) fun _ _ _ => trivial
  | cancel id => exact guarded_seq (guarded_cancel s id) fun _ _ _ => trivial
  | delete id => exact guarded_seq (guarded_delete s id) fun _ _ _ => trivial

variable {P : Pool Ans State Call Unit}

lemma sound_of_reach (hP : Reach ReliableWorld P) :
    Sound P.shared ∧ ∀ tp ∈ P.threads, Guarded (fun _ _ => True) tp.2 P.shared := by
  refine Pool.Reachable.guarded (fun _ _ _ h h' => h.trans h') ?_ ?_ ?_ Later.refl hP
  · rintro c p s rfl -
    exact guarded_program c s
  · exact ⟨fun _ _ h => absurd h (by simp), fun _ h => absurd h not_mem_nil⟩
  · intro s o next x s' hs hop hw
    have heffect := effect_of_world hw.1
    exact ⟨sound_of_effect hs hop heffect, later_of_effect heffect⟩

def AboutToRevoke (key : String) (p : Prog Ans Unit) : Prop :=
  ∃ orgID actorID, p.next? = some (.revokeVirtualKey orgID actorID key)

def Covered (P : Pool Ans State Call Unit) : Prop :=
  ∀ id row, P.shared.runs.lookup id = some row → settled row.run.status = true →
    Revoked P.shared row.key ∨ ∃ tp ∈ P.threads, AboutToRevoke row.key tp.2

lemma settled_of_effect {s s' : State} {next : Ans o → Option Op} (hop : Allowed s o next)
    (h : Effect s o s') {row' : Stored} (hrow' : s'.runs.lookup id = some row')
    (hsettled : settled row'.run.status = true) :
    ∃ row, s.runs.lookup id = some row ∧ row.key = row'.key ∧
      (settled row.run.status = true ∨ Revoked s row.key ∨
        ∀ x, ∃ orgID actorID, next x = some (.revokeVirtualKey orgID actorID row.key)) := by
  have hsame : s.runs.lookup id = some row' → ∃ row, s.runs.lookup id = some row ∧
      row.key = row'.key ∧ (settled row.run.status = true ∨ Revoked s row.key ∨
        ∀ x, ∃ orgID actorID, next x = some (.revokeVirtualKey orgID actorID row.key)) :=
    fun hrow => ⟨row', hrow, rfl, .inl hsettled⟩
  cases h with
  | none => exact hsame hrow'
  | minted _ _ => exact hsame hrow'
  | revoked _ => exact hsame hrow'
  | @inserted run hnew =>
    rcases lookup_insert_eq_some hrow' with ⟨rfl, rfl⟩ | ⟨-, hrow⟩
    · exact absurd (hop.1.symm.trans hsettled) (by decide)
    · exact hsame hrow
  | @progressed run row hrow =>
    rcases lookup_insert_eq_some hrow' with ⟨rfl, rfl⟩ | ⟨-, hrow''⟩
    · exact ⟨row, hrow, rfl, .inr (hop hsettled row hrow)⟩
    · exact hsame hrow''
  | @deleted id' row hrow => exact hsame (lookup_erase_eq_some hrow').2
  | @cleared id' row hrow =>
    rcases lookup_insert_eq_some hrow' with ⟨rfl, rfl⟩ | ⟨-, hrow''⟩
    · exact ⟨row, hrow, rfl, .inl hsettled⟩
    · exact hsame hrow''

lemma covered_of_reach (hP : Reach ReliableWorld P) : Covered P := by
  induction hP with
  | init => exact fun _ _ h => absurd h (by simp)
  | step hP hstep ih =>
    obtain ⟨hsound, hthreads⟩ := sound_of_reach hP
    cases hstep with
    | spawn _ =>
      intro id row hrow hsettled
      rcases ih id row hrow hsettled with hrev | ⟨tp, htp, habout⟩
      · exact .inl hrev
      · exact .inr ⟨tp, mem_append_left _ htp, habout⟩
    | @act s s' before after c o k x hw =>
      have hop := (hthreads (c, .op o k) (by simp) s (.refl s) hsound).1
      have heffect := effect_of_world hw.1
      have hlater := later_of_effect heffect
      intro id row' hrow' hsettled'
      obtain ⟨row, hrow, hkey, hcase⟩ := settled_of_effect hop heffect hrow' hsettled'
      rw [← hkey]
      rcases hcase with hsettled | hrev | hnext
      · rcases ih id row hrow hsettled with hrev | ⟨tp, htp, habout⟩
        · exact .inl (hlater.revoked hrev)
        rcases mem_append.mp htp with htp | htp
        · exact .inr ⟨tp, mem_append_left _ htp, habout⟩
        rcases mem_cons.mp htp with rfl | htp
        · obtain ⟨orgID, actorID, hnext⟩ := habout
          obtain rfl : o = _ := some.inj hnext
          exact .inl (revoked_of_world hop hw)
        · exact .inr ⟨tp, mem_append_right _ (mem_cons_of_mem _ htp), habout⟩
      · exact .inl (hlater.revoked hrev)
      · exact .inr ⟨(c, k x), by simp, hnext x⟩

theorem keys_revoked (hP : Reach ReliableWorld P) :
    (∀ id row, P.shared.runs.lookup id = some row → row.run.vkeyID = "" →
      Revoked P.shared row.key) ∧ ((∀ tp ∈ P.threads, tp.2.result? = some ()) →
      (∀ id row, P.shared.runs.lookup id = some row → settled row.run.status = true →
        Revoked P.shared row.key) ∧ ∀ key ∈ P.shared.forgotten, Revoked P.shared key) := by
  have hsound := (sound_of_reach hP).1
  refine ⟨?_, fun hidle => ⟨?_, hsound.forgotten⟩⟩
  · intro id row hrow hempty
    rcases (hsound.row id row hrow).2.2.2 with heq | ⟨-, hrev⟩
    · exact .inl (heq.symm.trans hempty)
    · exact hrev
  · intro id row hrow hsettled
    rcases covered_of_reach hP id row hrow hsettled with hrev | ⟨tp, htp, orgID, actorID, hnext⟩
    · exact hrev
    · rw [Prog.eq_ret_of_result? (hidle tp htp)] at hnext
      cases hnext

variable (verdict : Except String LaunchResult)

def clerk (revoking : Bool) (s : State) :
    (o : Op) → Ans o × State
  | .token => (.ok "token", s)
  | .teamID => (.ok "", s)
  | .newRunID => ("run", s)
  | .createVirtualKey orgID _ _ _ _ _ _ _ =>
    match s.keys.lookup "key" with
    | none => (.ok ("key", "secret"), s.setKey "key" ⟨orgOr orgID, false⟩)
    | some _ => (.error "taken", s)
  | .revokeVirtualKey orgID _ id =>
    match s.keys.lookup id with
    | some key =>
      if revoking = true ∧ key.orgID = orgID then
        (.ok (), s.setKey id { key with revoked := true })
      else (.error "unavailable", s)
    | none => (.error "not found", s)
  | .createRun run =>
    if run.id ≠ "" ∧ run.model ≠ "" ∧ run.provider ≠ "" ∧ run.id ∉ s.known then
      (.ok (), s.insertRun run)
    else (.error "refused", s)
  | .updateProgress run =>
    match s.runs.lookup run.id with
    | some row => (.ok (), s.setRun run.id row (row.run.progress run))
    | none => (.error "not found", s)
  | .getRun id =>
    match s.runs.lookup id with
    | some row => (.ok row.run, s)
    | none => (.error "not found", s)
  | .listUnsettled _ => (.error "unavailable", s)
  | .deleteRun id =>
    match s.runs.lookup id with
    | some row => (.ok (), s.forgetRun id row)
    | none => (.error "not found", s)
  | .clearVKey id =>
    match s.runs.lookup id with
    | some row => (.ok (), s.setRun id row { row.run with vkeyID := "" })
    | none => (.ok (), s)
  | .environmentStatus _ _ _ => (.ok "environment", s)
  | .createEvaluation _ _ => (verdict, s)
  | .evaluationStatus _ _ => (.error "unavailable", s)
  | .cancelEvaluation _ _ => (.ok (), s)

lemma world_clerk (revoking : Bool) (s : State) (o : Op) :
    World s o (clerk verdict revoking s o).1 (clerk verdict revoking s o).2 := by
  cases o with
  | createVirtualKey orgID actorID userID name models rpm budget quality =>
    cases hkey : s.keys.lookup "key" with
    | none => simp [clerk, hkey, World, OnOk]
    | some key => simp [clerk, hkey, World, OnOk]
  | revokeVirtualKey orgID actorID id =>
    cases hkey : s.keys.lookup id with
    | none => simp [clerk, hkey, World, OnOk]
    | some key =>
      by_cases hc : revoking = true ∧ key.orgID = orgID
      · simp [clerk, hkey, World, OnOk, hc]
      · simp [clerk, hkey, World, OnOk, hc]
  | createRun run =>
    by_cases hc : run.id ≠ "" ∧ run.model ≠ "" ∧ run.provider ≠ "" ∧ run.id ∉ s.known
    · simp [clerk, World, OnOk, hc]
    · simp only [clerk, World, OnOk, if_neg hc]
  | updateProgress run =>
    cases hrow : s.runs.lookup run.id with
    | none => simp [clerk, World, OnOk, hrow]
    | some row => simp [clerk, World, OnOk, hrow]
  | getRun id =>
    cases hrow : s.runs.lookup id with
    | none => simp [clerk, World, OnOk, hrow]
    | some row => simp [clerk, World, OnOk, hrow]
  | deleteRun id =>
    cases hrow : s.runs.lookup id with
    | none => simp [clerk, World, OnOk, hrow]
    | some row => simp [clerk, World, OnOk, hrow]
  | clearVKey id =>
    cases hrow : s.runs.lookup id with
    | none => simp [clerk, World, OnOk, hrow]
    | some row => simp [clerk, World, OnOk, hrow]
  | token | teamID | newRunID | listUnsettled | environmentStatus | createEvaluation
  | evaluationStatus | cancelEvaluation => rfl

def inTurn (f : State → (o : Op) → Ans o × State) (calls : List Call) :
    Pool Ans State Call Unit :=
  calls.foldl (fun P c =>
    let done := Prog.advance f 16 P.shared c.program
    ⟨done.1, P.threads ++ [(c, done.2)]⟩) ⟨{}, []⟩

lemma reach_inTurn {world : State → (o : Op) → Ans o → State → Prop}
    {f : State → (o : Op) → Ans o × State} (hf : ∀ s o, world s o (f s o).1 (f s o).2)
    (calls : List Call) : Reach world (inTurn f calls) := by
  induction calls using reverseRecOn with
  | nil => exact .init
  | append_singleton calls c ih =>
    unfold inTurn
    rw [foldl_append]
    exact Pool.Reachable.advance hf 16 (ih.step (.spawn rfl))

def gatewayRun : Call :=
  .launch ⟨"https://gateway.example"⟩
    { orgID := "acme", actorID := "root", environments := ["gsm8k"], model := "openai/gpt-4.1-nano"
      numExamples := 10, rollouts := 1, viaGateway := true }

def taken (status : String) : Except String LaunchResult :=
  .ok { evaluationID := "evaluation", status := status }

lemma reliable_clerk (err : String) (s : State) (o : Op) :
    ReliableWorld s o (clerk (.error err) true s o).1 (clerk (.error err) true s o).2 := by
  refine ⟨world_clerk (.error err) true s o, ?_⟩
  cases o with
  | revokeVirtualKey orgID actorID id =>
    rintro ⟨key, hkey, rfl⟩
    simp only [clerk, hkey]
    rfl
  | createEvaluation token body =>
    intro _ out h
    cases h
  | _ => trivial

theorem key_of_refused_run_revoked :
    ∃ P, Reach ReliableWorld P ∧ (∀ tp ∈ P.threads, tp.2.result? = some ()) ∧
      ∃ row, P.shared.runs.lookup "run" = some row ∧
        (row.run.status = .failed ∧ row.key = "key") ∧ Revoked P.shared row.key := by
  have hP := reach_inTurn (reliable_clerk "refused") [gatewayRun]
  have hidle : ∀ tp ∈ (inTurn (clerk (.error "refused") true) [gatewayRun]).threads,
      tp.2.result? = some () := by decide
  have hrow : ((inTurn (clerk (.error "refused") true) [gatewayRun]).shared.runs.lookup "run").any
      (fun row => row.run.status = .failed ∧ row.key = "key") = true := by decide
  obtain ⟨row, hrow, hkey⟩ := (any_eq_true _ _).mp hrow
  have hkey := of_decide_eq_true hkey
  refine ⟨_, hP, hidle, row, hrow, hkey, ?_⟩
  refine ((keys_revoked hP).2 hidle).1 "run" row hrow ?_
  rw [hkey.1]
  rfl

theorem live_key_of_settled_run : (∃ P, Reach World P ∧ (∀ tp ∈ P.threads, tp.2.result? = some ()) ∧
      ∃ row, P.shared.runs.lookup "run" = some row ∧ settled row.run.status = true ∧
        P.shared.keys.lookup row.key = some ⟨"acme", false⟩) ∧
    ∃ P, Reach World P ∧ (∀ tp ∈ P.threads, tp.2.result? = some ()) ∧
      ∃ row, P.shared.runs.lookup "run" = some row ∧ settled row.run.status = true ∧
        row.run.vkeyID = "" ∧ P.shared.keys.lookup row.key = some ⟨"acme", false⟩ := by
  constructor
  · have hidle : ∀ tp ∈ (inTurn (clerk (taken "COMPLETED") true) [gatewayRun]).threads,
        tp.2.result? = some () := by decide
    have hrow : ((inTurn (clerk (taken "COMPLETED") true) [gatewayRun]).shared.runs.lookup
        "run").any (fun row => settled row.run.status = true ∧
          (inTurn (clerk (taken "COMPLETED") true) [gatewayRun]).shared.keys.lookup row.key =
            some ⟨"acme", false⟩) = true := by decide
    obtain ⟨row, hrow, hkey⟩ := (any_eq_true _ _).mp hrow
    have hP := reach_inTurn (world_clerk (taken "COMPLETED") true) [gatewayRun]
    exact ⟨_, hP, hidle, row, hrow, of_decide_eq_true hkey⟩
  · have hidle : ∀ tp ∈ (inTurn (clerk (taken "RUNNING") false)
        [gatewayRun, .cancel "run"]).threads, tp.2.result? = some () := by decide
    have hrow : ((inTurn (clerk (taken "RUNNING") false)
        [gatewayRun, .cancel "run"]).shared.runs.lookup "run").any
          (fun row => settled row.run.status = true ∧ row.run.vkeyID = "" ∧
            (inTurn (clerk (taken "RUNNING") false)
              [gatewayRun, .cancel "run"]).shared.keys.lookup row.key =
                some ⟨"acme", false⟩) = true := by decide
    obtain ⟨row, hrow, hkey⟩ := (any_eq_true _ _).mp hrow
    have hP := reach_inTurn (world_clerk (taken "RUNNING") false) [gatewayRun, .cancel "run"]
    exact ⟨_, hP, hidle, row, hrow, of_decide_eq_true hkey⟩

end FfxNexus.Benchmark
