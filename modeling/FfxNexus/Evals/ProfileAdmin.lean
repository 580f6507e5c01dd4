/-
**Administration of evaluation profiles** (`internal/console/eval_profiles.go`, the store of
`cmd/nexus/profile_store.go` and the runtime that feeds the worker, `cmd/nexus/eval_runtime.go`).
-/
import FfxNexus.Console
import FfxNexus.Evals.Profile
import FfxNexus.Refresh
import Mathlib.Data.Prod.Lex

open List

namespace FfxNexus.Evals
open Go Gateway Sorting

structure ProfileStore where
  profiles : GoMap String EvalProfile
  keyed : ∀ id p, profiles.lookup id = some p → p.id = id ∧ p.id ≠ ""

namespace ProfileStore

def new : ProfileStore where
  profiles := ∅
  keyed := by simp

variable (s : ProfileStore)

def put (p : EvalProfile) (hp : p.id ≠ "") : ProfileStore where
  profiles := s.profiles.insert p.id p
  keyed := by
    intro id p' h
    rcases lookup_insert_eq_some h with ⟨rfl, rfl⟩ | ⟨-, h⟩
    · exact ⟨rfl, hp⟩
    · exact s.keyed id p' h

def delete (id : String) : ProfileStore where
  profiles := s.profiles.erase id
  keyed := by
    intro id' p h
    exact s.keyed id' p (lookup_erase_eq_some h).2

def unixEpoch : ℤ := 62135596800 * 10 ^ 9

variable (now : ℤ)

def nextID : String := "ep_" ++ toString (now - unixEpoch)

def stored (p : EvalProfile) : EvalProfile :=
  let p :=
    if p.id = "" then { p with id := nextID now }
    else
      match s.profiles.lookup p.id with
      | some existing => { p with createdAt := existing.createdAt }
      | none => p
  { p with
    createdAt := if p.createdAt = 0 then now else p.createdAt
    updatedAt := now }

lemma stored_orgID (p : EvalProfile) :
    (s.stored now p).orgID = p.orgID := by
  unfold stored
  split_ifs
  · rfl
  · simp only
    split <;> rfl

lemma stored_id (p : EvalProfile) :
    (s.stored now p).id = if p.id = "" then nextID now else p.id := by
  unfold stored
  split_ifs
  · rfl
  · simp only
    split <;> rfl

lemma stored_id_ne (p : EvalProfile) : (s.stored now p).id ≠ "" := by
  rw [stored_id]
  split_ifs with hid
  · simp [nextID]
  · exact hid

def save (p : EvalProfile) :
    Except String (ProfileStore × EvalProfile) :=
  match p.validate with
  | .error err => .error err
  | .ok () => .ok (s.put (s.stored now p) (s.stored_id_ne now p), s.stored now p)

def rows : List EvalProfile := s.profiles.entries.map Sigma.snd

def createdBefore (a b : EvalProfile) : Prop :=
  a.createdAt < b.createdAt ∨ (a.createdAt = b.createdAt ∧ a.id ≤ b.id)

instance : DecidableRel createdBefore := fun a b => by
  unfold createdBefore
  infer_instance

def list (orgID ownerUserID : String) : List EvalProfile :=
  (s.rows.filter fun p => (orgID = "" || p.visibleToOrg orgID) &&
    !(p.scope = .user && ownerUserID ≠ "" && p.ownerUserID ≠ ownerUserID)).insertionSort
      createdBefore

end ProfileStore

structure EvalRuntime where
  store : ProfileStore
  worker : Worker
  synced : worker.configuredProfiles = store.list "" ""

def EvalRuntime.commit (rt : EvalRuntime) (store : ProfileStore) : EvalRuntime where
  store := store
  worker := rt.worker.replaceProfiles (store.list "" "")
  synced := rfl

def ProfileKind.text : ProfileKind → String
  | .heuristicPII => "heuristic_pii"
  | .heuristicCompleteness => "heuristic_completeness"
  | .slmJudge => "slm_judge"
  | .remoteEval => "remote_eval"
  | .other text => text

def EvalRuntime.saveEvalProfile (rt : EvalRuntime) (now : ℤ) (p : EvalProfile) :
    Except String (EvalRuntime × EvalProfile) :=
  if rt.worker.pluginOnly ∧ (p.kind = .slmJudge ∨ p.kind = .remoteEval) then
    .error ("eval plugin-only mode is on: " ++ p.kind.text.quote ++
      " profiles need eval compute in the cluster (use an eval plugin, or unset " ++
      "NEXUS_EVAL_PLUGIN_ONLY)")
  else
    match rt.store.save now p with
    | .error err => .error err
    | .ok (store, p) => .ok (rt.commit store, p)

structure ProfilePatch where
  name : Option String := none
  kind : Option ProfileKind := none
  scope : Option Scope := none
  ownerUser : Option String := none
  endpoint : Option EvalEndpoint := none
  metrics : Option (List String) := none
  threshold : Option ℚ := none
  sampleRate : Option ℚ := none
  enabled : Option Bool := none

inductive Action
  | create (body : Option EvalProfile)
  | patch (id : String) (body : Option ProfilePatch)
  | delete (id : String)

structure Request where
  caller : Caller
  orgHeader : String := ""
  now : ℤ
  action : Action

inductive Reply
  | created (p : EvalProfile)
  | updated (p : EvalProfile)
  | deleted (id : String)
  | badRequest (err : String)
  | forbidden (err : String)
  | notFound (err : String)
  | internalError (err : String)

def Request.orgID (req : Request) : String :=
  if req.caller.orgID ≠ "" then req.caller.orgID
  else if trimmed req.orgHeader ≠ "" then trimmed req.orgHeader
  else "default"

def profileForOrg (rt : EvalRuntime) (orgID id : String) : Option EvalProfile :=
  (rt.store.profiles.lookup id).filter (·.visibleToOrg orgID)

def profileCallerCanWrite (p : EvalProfile) (caller : Caller) : Bool :=
  caller.admin || (p.scope = .user && p.ownerUserID = caller.id)

def applyProfilePatch (p : EvalProfile) (patch : ProfilePatch) : EvalProfile :=
  { p with
    name := (patch.name.map trimmed).getD p.name
    kind := patch.kind.getD p.kind
    scope := patch.scope.getD p.scope
    ownerUserID := patch.ownerUser.getD p.ownerUserID
    endpoint := patch.endpoint.getD p.endpoint
    metrics := patch.metrics.getD p.metrics
    threshold := patch.threshold.getD p.threshold
    sampleRate := patch.sampleRate.getD p.sampleRate
    enabled := patch.enabled.getD p.enabled }

section
variable (checkURL : String → Except String Unit)

def checkProfileEndpoint (p : EvalProfile) : Except String Unit :=
  if blank p.endpoint.baseURL ∨ p.endpoint.keySource = .builtin then .ok ()
  else
    match checkURL (trimmed p.endpoint.baseURL) with
    | .error err => .error ("endpoint.base_url is not an allowed destination: " ++ err)
    | .ok () => .ok ()

def checkAndSave (rt : EvalRuntime) (now : ℤ) (p : EvalProfile) (done : EvalProfile → Reply) :
    EvalRuntime × Reply :=
  match p.validate with
  | .error err => (rt, .badRequest err)
  | .ok () =>
    match checkProfileEndpoint checkURL p with
    | .error err => (rt, .badRequest err)
    | .ok () =>
      match rt.saveEvalProfile now p with
      | .error err => (rt, .internalError err)
      | .ok (rt', p) => (rt', done p)

def createEvalProfile (rt : EvalRuntime) (req : Request) (body : Option EvalProfile) :
    EvalRuntime × Reply :=
  if req.caller.admin = false then (rt, .forbidden "admin role required")
  else
    match body with
    | none => (rt, .badRequest "invalid JSON")
    | some p =>
      checkAndSave checkURL rt req.now { p with orgID := req.orgID, id := "" } .created

def patchEvalProfile (rt : EvalRuntime) (req : Request) (id : String)
    (body : Option ProfilePatch) : EvalRuntime × Reply :=
  match profileForOrg rt req.orgID id with
  | none => (rt, .notFound "eval profile not found")
  | some existing =>
    if profileCallerCanWrite existing req.caller = false then
      (rt, .forbidden "not your eval profile")
    else
      match body with
      | none => (rt, .badRequest "invalid JSON")
      | some patch =>
        checkAndSave checkURL rt req.now
          { applyProfilePatch existing patch with orgID := existing.orgID } .updated

def deleteEvalProfile (rt : EvalRuntime) (req : Request) (id : String) : EvalRuntime × Reply :=
  match profileForOrg rt req.orgID id with
  | none => (rt, .notFound "eval profile not found")
  | some existing =>
    if profileCallerCanWrite existing req.caller = false then
      (rt, .forbidden "not your eval profile")
    else (rt.commit (rt.store.delete id), .deleted id)

def console : Machine EvalRuntime Request Reply where
  step rt req :=
    match req.action with
    | .create body => createEvalProfile checkURL rt req body
    | .patch id body => patchEvalProfile checkURL rt req id body
    | .delete id => deleteEvalProfile rt req id

end

namespace ProfileStore
variable {s s' : ProfileStore} {p q : EvalProfile} {orgID id : String}

lemma mem_rows : p ∈ s.rows ↔ s.profiles.lookup p.id = some p := by
  constructor
  · intro h
    obtain ⟨⟨id, p'⟩, hmem, rfl⟩ := mem_map.mp h
    have hlook : s.profiles.lookup id = some p' := AList.mem_lookup_iff.mpr hmem
    rw [(s.keyed id p' hlook).1]
    exact hlook
  · intro h
    exact mem_map.mpr ⟨_, AList.mem_lookup_iff.mp h, rfl⟩

lemma rows_nodup (s : ProfileStore) : s.rows.Nodup := by
  have hids : s.rows.map (·.id) = s.profiles.keys := by
    unfold rows AList.keys keys
    rw [map_map]
    apply map_congr_left
    intro e he
    exact (s.keyed e.1 e.2 (AList.mem_lookup_iff.mpr he)).1
  apply List.Nodup.of_map (·.id)
  rw [hids]
  exact s.profiles.nodupKeys

def SameFor (orgID : String) (s s' : ProfileStore) : Prop :=
  ∀ p : EvalProfile, p.visibleToOrg orgID = true → (p ∈ s.rows ↔ p ∈ s'.rows)

lemma sameFor_put {hid : p.id ≠ ""} (hp : p.visibleToOrg orgID = false)
    (hold : ∀ q, s.profiles.lookup p.id = some q → q.visibleToOrg orgID = false) :
    SameFor orgID s (s.put p hid) := by
  intro q hq
  rw [mem_rows, mem_rows]
  change _ ↔ (s.profiles.insert p.id p).lookup q.id = some q
  by_cases hid : q.id = p.id
  · rw [hid, AList.lookup_insert, Option.some.injEq]
    constructor
    · intro hlook
      rw [hold q hlook] at hq
      cases hq
    · rintro rfl
      rw [hp] at hq
      cases hq
  · rw [AList.lookup_insert_ne hid]

lemma sameFor_delete (hold : ∀ q, s.profiles.lookup id = some q → q.visibleToOrg orgID = false) :
    SameFor orgID s (s.delete id) := by
  intro q hq
  rw [mem_rows, mem_rows]
  change _ ↔ (s.profiles.erase id).lookup q.id = some q
  by_cases hid : q.id = id
  · rw [hid, AList.lookup_erase]
    constructor
    · intro hlook
      rw [hold q hlook] at hq
      cases hq
    · intro hnone
      cases hnone
  · rw [AList.lookup_erase_ne hid]

def sortKey (p : EvalProfile) : ℤ ×ₗ String := toLex (p.createdAt, p.id)

lemma byKey_createdBefore : ByKey createdBefore sortKey := by
  intro a b
  unfold createdBefore sortKey
  rw [Prod.Lex.toLex_le_toLex]

lemma list_empty (s : ProfileStore) : s.list "" "" = s.rows.insertionSort createdBefore := by
  unfold list
  rw [filter_eq_self.mpr]
  intro p _
  simp

lemma filter_list_congr (h : SameFor orgID s s') : (s.list "" "").filter (·.visibleToOrg orgID) =
      (s'.list "" "").filter (·.visibleToOrg orgID) := by
  rw [list_empty, list_empty]
  refine byKey_createdBefore.filter_congr s.rows_nodup s'.rows_nodup h ?_
  intro a ha b hb hkey
  have hid : a.id = b.id := congrArg (fun k => (ofLex k).2) hkey
  have ha := mem_rows.mp ha
  rw [hid, mem_rows.mp hb, Option.some.injEq] at ha
  exact ha.symm

end ProfileStore

lemma collectEvaluators_congr {w w' : Worker} {t : Trace}
    (hjudges : w.judges = w'.judges) (hrate : w.judgeSampleRate = w'.judgeSampleRate)
    (honly : w.pluginOnly = w'.pluginOnly)
    (hvisible : w.configuredProfiles.filter (·.visibleToOrg t.orgID) =
      w'.configuredProfiles.filter (·.visibleToOrg t.orgID))
    (resolver : Option SecretResolver) (rolls : Rolls) :
    w.collectEvaluators t resolver rolls = w'.collectEvaluators t resolver rolls := by
  unfold Worker.collectEvaluators
  rw [hjudges, hrate, honly, hvisible]

section
variable {checkURL : String → Except String Unit} {rt : EvalRuntime} {req : Request}

lemma checkAndSave_cases (rt : EvalRuntime) (now : ℤ) (p : EvalProfile)
    (done : EvalProfile → Reply) : (checkAndSave checkURL rt now p done).1 = rt ∨
      (checkAndSave checkURL rt now p done).1 =
        rt.commit (rt.store.put (rt.store.stored now p) (rt.store.stored_id_ne now p)) := by
  unfold checkAndSave EvalRuntime.saveEvalProfile ProfileStore.save
  cases hvalid : p.validate with
  | error err => exact Or.inl rfl
  | ok u =>
    simp only
    split
    · exact Or.inl rfl
    · split_ifs
      · exact Or.inl rfl
      · exact Or.inr rfl

inductive Writes (s : ProfileStore) (req : Request) : ProfileStore → Prop
  | create {body : Option EvalProfile} {p : EvalProfile} (haction : req.action = .create body)
      (horg : p.orgID = req.orgID) (hid : p.id = ProfileStore.nextID req.now) (hne : p.id ≠ "") :
      Writes s req (s.put p hne)
  | patch {id : String} {body : Option ProfilePatch} {old p : EvalProfile}
      (haction : req.action = .patch id body) (hold : s.profiles.lookup id = some old)
      (hvisible : old.visibleToOrg req.orgID = true) (horg : p.orgID = old.orgID)
      (hid : p.id = id) (hne : p.id ≠ "") : Writes s req (s.put p hne)
  | delete {id : String} {old : EvalProfile} (haction : req.action = .delete id)
      (hold : s.profiles.lookup id = some old) (hvisible : old.visibleToOrg req.orgID = true) :
      Writes s req (s.delete id)

lemma profileForOrg_eq_some {orgID id : String} {p : EvalProfile}
    (h : profileForOrg rt orgID id = some p) :
    rt.store.profiles.lookup id = some p ∧ p.visibleToOrg orgID = true :=
  Option.filter_eq_some_iff.mp h

lemma step_cases (checkURL : String → Except String Unit) (rt : EvalRuntime) (req : Request) :
    ((console checkURL).step rt req).1 = rt ∨ ∃ store, Writes rt.store req store ∧
        ((console checkURL).step rt req).1 = rt.commit store := by
  unfold console
  cases haction : req.action with
  | create body =>
    simp only [haction, createEvalProfile]
    split_ifs
    · exact Or.inl rfl
    · cases body with
      | none => exact Or.inl rfl
      | some p =>
        refine (checkAndSave_cases rt req.now _ _).imp_right fun h => ⟨_, ?_, h⟩
        refine .create haction ?_ ?_ _
        · rw [ProfileStore.stored_orgID]
        · rw [ProfileStore.stored_id, if_pos rfl]
  | patch id body =>
    simp only [haction, patchEvalProfile]
    cases hp : profileForOrg rt req.orgID id with
    | none => exact Or.inl rfl
    | some existing =>
      obtain ⟨hold, hvisible⟩ := profileForOrg_eq_some hp
      obtain ⟨hid, hne⟩ := rt.store.keyed id existing hold
      simp only
      split_ifs
      · exact Or.inl rfl
      · cases body with
        | none => exact Or.inl rfl
        | some patch =>
          refine (checkAndSave_cases rt req.now _ _).imp_right fun h => ⟨_, ?_, h⟩
          refine .patch haction hold hvisible ?_ ?_ _
          · rw [ProfileStore.stored_orgID]
          · rw [ProfileStore.stored_id]
            exact (if_neg hne).trans hid
  | delete id =>
    simp only [haction, deleteEvalProfile]
    cases hp : profileForOrg rt req.orgID id with
    | none => exact Or.inl rfl
    | some existing =>
      obtain ⟨hold, hvisible⟩ := profileForOrg_eq_some hp
      simp only
      split_ifs
      · exact Or.inl rfl
      · exact Or.inr ⟨_, .delete haction hold hvisible, rfl⟩

def EvalProfile.ClusterWide (p : EvalProfile) : Prop := normalizeProfileOrgID p.orgID = ""

instance (p : EvalProfile) : Decidable p.ClusterWide := by
  unfold EvalProfile.ClusterWide
  infer_instance

lemma visibleToOrg_iff {p : EvalProfile} {orgID : String} : p.visibleToOrg orgID = true ↔
    p.ClusterWide ∨ normalizeProfileOrgID p.orgID = normalizeProfileOrgID orgID := by
  simp [EvalProfile.visibleToOrg, EvalProfile.ClusterWide]

def OwnRows (rt : EvalRuntime) (req : Request) : Prop :=
  match req.action with
  | .create _ => rt.store.profiles.lookup (ProfileStore.nextID req.now) = none
  | .patch id _ => ∀ p ∈ rt.store.profiles.lookup id, ¬ p.ClusterWide
  | .delete id => ∀ p ∈ rt.store.profiles.lookup id, ¬ p.ClusterWide

instance (rt : EvalRuntime) : DecidablePred (OwnRows rt)
  | ⟨_, _, now, .create _⟩ =>
    inferInstanceAs (Decidable (rt.store.profiles.lookup (ProfileStore.nextID now) = none))
  | ⟨_, _, _, .patch id _⟩ =>
    inferInstanceAs (Decidable (∀ p ∈ rt.store.profiles.lookup id, ¬ p.ClusterWide))
  | ⟨_, _, _, .delete id⟩ =>
    inferInstanceAs (Decidable (∀ p ∈ rt.store.profiles.lookup id, ¬ p.ClusterWide))

lemma visibleToOrg_eq_false {p : EvalProfile} {orgID other : String} (hp : ¬ p.ClusterWide)
    (hvisible : p.visibleToOrg orgID = true) (horg : normalizeProfileOrgID orgID ≠ "")
    (hother : other ≠ orgID) : p.visibleToOrg other = false := by
  have hown := (visibleToOrg_iff.mp hvisible).resolve_left hp
  rw [Bool.eq_false_iff, ne_eq, visibleToOrg_iff, hown]
  rintro (hwide | heq)
  · exact hp hwide
  unfold normalizeProfileOrgID at horg heq
  by_cases hdefault : orgID = "default"
  · exact horg (if_pos hdefault)
  rw [if_neg hdefault] at horg heq
  split_ifs at heq
  · exact horg heq
  · exact hother heq.symm

lemma Writes.sameFor {store : ProfileStore} {other : String} (h : Writes rt.store req store)
    (hown : OwnRows rt req) (horg : normalizeProfileOrgID req.orgID ≠ "")
    (hother : other ≠ req.orgID) : rt.store.SameFor other store := by
  cases h with
  | create haction horg' hid hne =>
    rename_i body p
    simp only [OwnRows, haction] at hown
    have hp : ¬ p.ClusterWide := by
      unfold EvalProfile.ClusterWide
      rw [horg']
      exact horg
    refine ProfileStore.sameFor_put (visibleToOrg_eq_false hp ?_ horg hother) ?_
    · simp [EvalProfile.visibleToOrg, horg']
    · intro q hq
      rw [hid, hown] at hq
      cases hq
  | patch haction hold hvisible horg' hid hne =>
    rename_i id body old p
    simp only [OwnRows, haction] at hown
    have hp := hown old hold
    have hinvisible := visibleToOrg_eq_false hp hvisible horg hother
    refine ProfileStore.sameFor_put ?_ ?_
    · unfold EvalProfile.visibleToOrg at hinvisible ⊢
      rw [horg']
      exact hinvisible
    intro q hq
    rw [hid, hold, Option.some.injEq] at hq
    rw [← hq]
    exact hinvisible
  | delete haction hold hvisible =>
    rename_i id old
    simp only [OwnRows, haction] at hown
    refine ProfileStore.sameFor_delete ?_
    intro q hq
    rw [hold, Option.some.injEq] at hq
    rw [← hq]
    exact visibleToOrg_eq_false (hown old hold) hvisible horg hother

def SameEvaluators (other : String) (rt rt' : EvalRuntime) : Prop :=
  ∀ (t : Trace) (resolver : Option SecretResolver) (rolls : Rolls), t.orgID = other →
    rt'.worker.collectEvaluators t resolver rolls = rt.worker.collectEvaluators t resolver rolls

lemma sameEvaluators_step {other : String} (hown : OwnRows rt req)
    (horg : normalizeProfileOrgID req.orgID ≠ "") (hother : other ≠ req.orgID) :
    SameEvaluators other rt ((console checkURL).step rt req).1 := by
  intro t resolver rolls ht
  rcases step_cases checkURL rt req with heq | ⟨store, hwrites, heq⟩
  · rw [heq]
  have hlist := ProfileStore.filter_list_congr (hwrites.sameFor hown horg hother)
  rw [heq]
  apply collectEvaluators_congr
  · rfl
  · rfl
  · rfl
  rw [ht, rt.synced]
  exact hlist.symm

end

theorem other_tenants_unaffected (checkURL : String → Except String Unit) (orgID : String)
    (horg : normalizeProfileOrgID orgID ≠ "") (rt : EvalRuntime) (reqs : List Request)
    (hcaller : ∀ req ∈ reqs, req.caller.orgID = orgID)
    (hown : (console checkURL).Along OwnRows rt reqs) (t : Trace) (ht : t.orgID ≠ orgID)
    (resolver : Option SecretResolver) (rolls : Rolls) :
    ((console checkURL).run rt reqs).worker.collectEvaluators t resolver rolls =
      rt.worker.collectEvaluators t resolver rolls := by
  have hne : orgID ≠ "" := by
    rintro rfl
    exact horg rfl
  induction reqs generalizing rt with
  | nil => rfl
  | cons req reqs ih =>
    have hreq : req.orgID = orgID := by
      have hcaller := hcaller req mem_cons_self
      unfold Request.orgID
      rw [hcaller, if_pos hne]
    rw [Machine.run_cons, ih _ (fun r hr => hcaller r (mem_cons_of_mem _ hr)) hown.tail]
    exact sameEvaluators_step hown.head (by rw [hreq]; exact horg) (by rw [hreq]; exact ht)
      t resolver rolls rfl

def runtimeWith (store : ProfileStore) : EvalRuntime where
  store := store
  worker := { configuredProfiles := store.list "" "" }
  synced := rfl

def judgeAt (baseURL : String) : EvalProfile where
  name := "judge"
  kind := .slmJudge
  endpoint := { baseURL := baseURL, model := "judge-1", keySource := .org }
  sampleRate := 1
  enabled := true

def defaultPII : EvalProfile where
  id := "default-pii"
  name := "PII heuristic"
  kind := .heuristicPII
  endpoint := { keySource := .builtin }
  sampleRate := 1
  enabled := true
  createdAt := 1

def seededStore : ProfileStore :=
  (ProfileStore.new.put defaultPII (by decide)).put
    { judgeAt "https://globex.example" with
      id := "ep_2", orgID := "globex", createdAt := 2 } (by decide)

def byAdmin (orgID : String) (now : ℤ) (action : Action) : Request where
  caller := { id := "u1", orgID := orgID, admin := true }
  now := now
  action := action

def acmeRequests : List Request :=
  [byAdmin "acme" 7 (.create (some (judgeAt "https://acme.example"))),
    byAdmin "acme" 8 (.patch "ep_-62135596799999999993" (some { enabled := some false })),
    byAdmin "acme" 9 (.delete "ep_-62135596799999999993")]

def evaluatorsOf (rt : EvalRuntime) (orgID : String) : List Built :=
  rt.worker.collectEvaluators { (default : Trace) with orgID } (some fun _ _ => .ok "sk") Rolls.zero

theorem other_tenants_unaffected_globex :
    evaluatorsOf ((console fun _ => .ok ()).run (runtimeWith seededStore) acmeRequests) "globex" =
      evaluatorsOf (runtimeWith seededStore) "globex" := by
  refine other_tenants_unaffected (fun _ => .ok ()) "acme" (by decide) (runtimeWith seededStore)
    acmeRequests (by decide) ?_ _ (by decide) _ _
  refine Machine.along_cons.mpr ⟨?_, Machine.along_cons.mpr ⟨?_, Machine.along_cons.mpr
    ⟨?_, Machine.along_nil⟩⟩⟩
  all_goals decide

theorem default_org_reaches_everyone :
    ¬ ∀ (checkURL : String → Except String Unit) (orgID : String) (rt : EvalRuntime)
      (reqs : List Request), (∀ req ∈ reqs, req.caller.orgID = orgID ∧ req.caller.admin = true) →
      ∀ (t : Trace), t.orgID ≠ orgID → ∀ (resolver : Option SecretResolver) (rolls : Rolls),
        ((console checkURL).run rt reqs).worker.collectEvaluators t resolver rolls =
          rt.worker.collectEvaluators t resolver rolls := by
  intro h
  let created := [byAdmin "default" 7 (.create (some (judgeAt "https://judge.example")))]
  have hsame : evaluatorsOf ((console fun _ => .ok ()).run (runtimeWith seededStore) created)
      "acme" = evaluatorsOf (runtimeWith seededStore) "acme" :=
    h _ "default" _ created (by decide) _ (by decide) _ _
  have hbefore : (evaluatorsOf (runtimeWith seededStore) "acme").map (·.evaluator) = [.pii] := by
    decide
  have hafter : (evaluatorsOf ((console fun _ => .ok ()).run (runtimeWith seededStore) created)
      "acme").map (·.evaluator) = [.pii, .slmJudge "https://judge.example" "judge-1" "sk"] := by
    decide
  rw [hsame, hbefore] at hafter
  exact absurd hafter (by decide)

inductive ProfileWrite
  | save (now : ℤ) (p : EvalProfile)
  | delete (id : String)

def ProfileWrite.apply (w : ProfileWrite) (s : ProfileStore) : Option ProfileStore :=
  match w with
  | .save now p => (s.save now p).toOption.map Prod.fst
  | .delete id => some (s.delete id)

def ProfileStore.all (s : ProfileStore) : List EvalProfile := s.list "" ""

def SnapshotConverges (lossy : Prop) (s : ProfileStore) (calls : List ProfileWrite) : Prop :=
  Refresh.Converges ProfileWrite.apply ProfileStore.all lossy s calls

theorem snapshot_converges_iff (lossy : Prop) (s : ProfileStore) (calls : List ProfileWrite) :
    SnapshotConverges lossy s calls ↔
      Refresh.Steady ProfileWrite.apply ProfileStore.all lossy s calls :=
  ⟨Refresh.steady_of_converges, Refresh.converges_of_steady⟩

theorem snapshot_stale : ¬ SnapshotConverges False ProfileStore.new
    [.save 1 { judgeAt "https://a.example" with id := "a" },
      .save 2 { judgeAt "https://b.example" with id := "b" }] := by
  intro h
  have hsteady := Refresh.steady_of_converges h [_] [_] (.refl _) (.inr (List.cons_ne_nil _ _))
    _ _ rfl rfl
  exact absurd (congrArg List.length hsteady) (by decide)

end FfxNexus.Evals
