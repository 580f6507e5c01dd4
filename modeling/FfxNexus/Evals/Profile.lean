/-
**Evaluation profiles and the worker** (`internal/evals`: `profiles.go`, the tenant boundary of
`profile_store.go`, and `Worker.collectEvaluators` of `worker.go`).
-/
import FfxNexus.Evals.Plugin
import FfxNexus.Gateway

namespace FfxNexus.Evals
open Gateway List

inductive KeySource
  | org
  | user
  | inline
  | builtin
  | empty
  | other (text : String)
deriving DecidableEq

inductive ProfileKind
  | heuristicPII
  | heuristicCompleteness
  | slmJudge
  | remoteEval
  | other (text : String)
deriving DecidableEq

inductive Scope
  | org
  | user
  | other (text : String)
deriving DecidableEq

structure EvalEndpoint where
  baseURL : String := ""
  model : String := ""
  keySource : KeySource := .empty
  keyRef : String := ""
deriving DecidableEq

structure EvalProfile where
  id : String := ""
  orgID : String := ""
  name : String := ""
  kind : ProfileKind
  scope : Scope := .org
  ownerUserID : String := ""
  endpoint : EvalEndpoint := {}
  metrics : List String := []
  threshold : ℚ := 0
  sampleRate : ℚ := 0
  enabled : Bool := false
  createdAt : ℤ := 0
  updatedAt : ℤ := 0
deriving DecidableEq

def ProfileKind.valid : ProfileKind → Bool
  | .other _ => false
  | _ => true

def ProfileKind.heuristic : ProfileKind → Bool
  | .heuristicPII | .heuristicCompleteness => true
  | _ => false

def EvalProfile.validate (p : EvalProfile) : Except String Unit := do
  require (!blank p.name) "name is required"
  require p.kind.valid
    "kind must be one of heuristic_pii | heuristic_completeness | slm_judge | remote_eval"
  require (p.scope = .org || p.scope = .user) "scope must be org or user"
  require (p.scope ≠ .user || !blank p.ownerUserID) "scope=user requires owner_user_id"
  require (0 ≤ p.sampleRate && p.sampleRate ≤ 1) "sample_rate must be in [0,1]"
  if p.kind.heuristic then
    require (p.endpoint.keySource = .empty || p.endpoint.keySource = .builtin)
      "heuristic profiles must use key_source=builtin"
  else do
    require (p.endpoint.baseURL ≠ "") "non-heuristic profiles require endpoint.base_url"
    require (p.endpoint.keySource ≠ .inline || p.endpoint.keyRef ≠ "")
      "key_source=inline requires a server-side key_ref token"

def normalizeProfileOrgID (orgID : String) : String :=
  if orgID = "default" then "" else orgID

def EvalProfile.visibleToOrg (p : EvalProfile) (orgID : String) : Bool :=
  normalizeProfileOrgID p.orgID = "" ||
    normalizeProfileOrgID p.orgID = normalizeProfileOrgID orgID

inductive Evaluator
  | pii
  | completeness
  | slmJudge (baseURL model apiKey : String)
  | remoteEval (baseURL : String) (metrics : List String) (apiKey : String)
  | legacy (name : String)
deriving DecidableEq

def trimRightSlash (s : String) : String :=
  String.ofList (s.toList.reverse.dropWhile (· = '/')).reverse

def newSLMJudge (baseURL model apiKey : String) : Option Evaluator :=
  if baseURL = "" ∨ model = "" then none
  else some (.slmJudge (trimRightSlash baseURL) model apiKey)

def newRemoteEvaluator (baseURL : String) (metrics : List String) (apiKey : String) :
    Option Evaluator :=
  if baseURL = "" then none else some (.remoteEval (trimRightSlash baseURL) metrics apiKey)

abbrev SecretResolver : Type := Trace → EvalEndpoint → Except String String

structure Built where
  evaluator : Evaluator
  profile : Option EvalProfile
deriving DecidableEq

structure Worker where
  judges : List String := []
  judgeSampleRate : ℚ := 0
  configuredProfiles : List EvalProfile := []
  pluginOnly : Bool := false

structure Rolls where
  profile : ℕ → ℚ
  judges : ℚ

def Rolls.zero : Rolls := ⟨fun _ => 0, 0⟩

def sampleJudge (rate roll : ℚ) : Bool :=
  if 1 ≤ rate then true else if rate ≤ 0 then false else roll < rate

variable (profiles : List EvalProfile)

def disabledByOwner (t : Trace) (kind : ProfileKind) : Bool :=
  t.userID ≠ "" && profiles.any fun ep =>
    ep.scope = .user && ep.ownerUserID = t.userID && !ep.enabled && ep.kind = kind

def admitted (t : Trace) (roll : ℚ) (ep : EvalProfile) : Bool :=
  ep.enabled && 0 < ep.sampleRate && (1 ≤ ep.sampleRate || sampleJudge ep.sampleRate roll) &&
    !(ep.scope = .org && disabledByOwner profiles t ep.kind)

def buildEvaluator (pluginOnly : Bool) (resolver : Option SecretResolver) (t : Trace)
    (ep : EvalProfile) : Option Evaluator :=
  match ep.kind with
  | .heuristicPII => some .pii
  | .heuristicCompleteness => some .completeness
  | kind =>
    if pluginOnly then none
    else
      match resolver with
      | none => none
      | some resolve =>
        match resolve t ep.endpoint with
        | .error _ => none
        | .ok secret =>
          if secret = "" then none
          else
            match kind with
            | .slmJudge => newSLMJudge ep.endpoint.baseURL ep.endpoint.model secret
            | .remoteEval => newRemoteEvaluator ep.endpoint.baseURL ep.metrics secret
            | _ => none

def Worker.collectEvaluators (w : Worker) (t : Trace) (resolver : Option SecretResolver)
    (rolls : Rolls) : List Built :=
  let mine := w.configuredProfiles.filter (·.visibleToOrg t.orgID)
  (mine.zipIdx.filterMap fun (ep, i) =>
    if admitted mine t (rolls.profile i) ep then
      (buildEvaluator w.pluginOnly resolver t ep).map fun ev => ⟨ev, some ep⟩
    else none) ++
  (if w.judges ≠ [] ∧ sampleJudge w.judgeSampleRate rolls.judges then
    w.judges.map fun name => ⟨.legacy name, none⟩
  else [])

def Worker.replaceProfiles (w : Worker) (profiles : List EvalProfile) : Worker :=
  { w with configuredProfiles := profiles }

section
variable {w : Worker} {t : Trace} {resolver : Option SecretResolver} {rolls : Rolls}
  {ep : EvalProfile}

lemma mem_collectEvaluators {b : Built} (h : b ∈ w.collectEvaluators t resolver rolls)
    (hep : b.profile = some ep) : ep ∈ w.configuredProfiles ∧ ep.visibleToOrg t.orgID = true ∧
      (∃ roll, admitted (w.configuredProfiles.filter (·.visibleToOrg t.orgID)) t roll ep = true) ∧
      buildEvaluator w.pluginOnly resolver t ep = some b.evaluator := by
  rcases mem_append.mp h with h | h
  · obtain ⟨⟨ep', i⟩, hmem, hbuilt⟩ := mem_filterMap.mp h
    have hmem : ep' ∈ w.configuredProfiles.filter (·.visibleToOrg t.orgID) := by
      obtain ⟨-, -, hget⟩ := mem_zipIdx hmem
      rw [hget]
      exact getElem_mem _
    simp only at hbuilt
    split_ifs at hbuilt with hadmitted
    obtain ⟨ev, hev, rfl⟩ := Option.map_eq_some_iff.mp hbuilt
    obtain rfl : ep' = ep := Option.some.inj hep
    obtain ⟨hsnapshot, hvisible⟩ := mem_filter.mp hmem
    exact ⟨hsnapshot, hvisible, ⟨_, hadmitted⟩, hev⟩
  · -- a judge wired at construction comes from no profile
    split_ifs at h
    · obtain ⟨name, -, rfl⟩ := mem_map.mp h
      cases hep
    · cases h

lemma collectEvaluators_of_mem (hsnapshot : ep ∈ w.configuredProfiles)
    (hvisible : ep.visibleToOrg t.orgID = true)
    (hadmitted : ∀ i, admitted (w.configuredProfiles.filter (·.visibleToOrg t.orgID)) t
      (rolls.profile i) ep = true)
    {ev : Evaluator} (hbuild : buildEvaluator w.pluginOnly resolver t ep = some ev) :
    ⟨ev, some ep⟩ ∈ w.collectEvaluators t resolver rolls := by
  have hmem : ep ∈ w.configuredProfiles.filter (·.visibleToOrg t.orgID) :=
    mem_filter.mpr ⟨hsnapshot, hvisible⟩
  obtain ⟨i, hi⟩ := mem_iff_getElem?.mp hmem
  refine mem_append_left _ (mem_filterMap.mpr ⟨(ep, i), mk_mem_zipIdx_iff_getElem?.mpr hi, ?_⟩)
  simp only [hadmitted i, if_true, hbuild, Option.map_some]

def EvalProfile.Buildable (pluginOnly : Bool) (ep : EvalProfile) : Prop :=
  match ep.kind with
  | .heuristicPII | .heuristicCompleteness => True
  | .slmJudge => pluginOnly = false ∧ ep.endpoint.baseURL ≠ "" ∧ ep.endpoint.model ≠ ""
  | .remoteEval => pluginOnly = false ∧ ep.endpoint.baseURL ≠ ""
  | .other _ => False

lemma buildable_of_buildEvaluator {pluginOnly : Bool} {ev : Evaluator}
    (h : buildEvaluator pluginOnly resolver t ep = some ev) : ep.Buildable pluginOnly := by
  unfold EvalProfile.Buildable
  unfold buildEvaluator at h
  cases hkind : ep.kind with
  | heuristicPII => trivial
  | heuristicCompleteness => trivial
  | slmJudge =>
    simp only [hkind] at h
    split_ifs at h with honly
    refine ⟨Bool.eq_false_of_not_eq_true honly, ?_⟩
    split at h
    · cases h
    split at h
    · cases h
    · unfold newSLMJudge at h
      split_ifs at h with hsecret hempty
      exact not_or.mp hempty
  | remoteEval =>
    simp only [hkind] at h
    split_ifs at h with honly
    refine ⟨Bool.eq_false_of_not_eq_true honly, ?_⟩
    split at h
    · cases h
    split at h
    · cases h
    · unfold newRemoteEvaluator at h
      split_ifs at h with hsecret hempty
      exact hempty
  | other text =>
    simp only [hkind] at h
    split_ifs at h
    split at h
    · cases h
    · split at h
      · cases h
      · split_ifs at h

lemma exists_buildEvaluator {pluginOnly : Bool} (h : ep.Buildable pluginOnly) :
    ∃ ev, buildEvaluator pluginOnly (some fun _ _ => .ok "secret") t ep = some ev := by
  unfold EvalProfile.Buildable at h
  unfold buildEvaluator
  cases hkind : ep.kind with
  | heuristicPII => exact ⟨_, rfl⟩
  | heuristicCompleteness => exact ⟨_, rfl⟩
  | slmJudge =>
    simp only [hkind] at h
    obtain ⟨honly, hurl, hmodel⟩ := h
    simp [honly, newSLMJudge, hurl, hmodel]
  | remoteEval =>
    simp only [hkind] at h
    obtain ⟨honly, hurl⟩ := h
    simp [honly, newRemoteEvaluator, hurl]
  | other text =>
    simp only [hkind] at h

structure RunsForOthers (pluginOnly : Bool) (t : Trace) (ep : EvalProfile) : Prop where
  scope : ep.scope = .user
  owner : ep.ownerUserID ≠ t.userID
  visible : ep.visibleToOrg t.orgID = true
  enabled : ep.enabled = true
  sampled : 0 < ep.sampleRate
  buildable : ep.Buildable pluginOnly

end

/-- The profiles that run on a trace are enabled, seen by its org and, in user scope, its user's. -/
def InScope (w : Worker) (snapshot : List EvalProfile) (t : Trace) : Prop :=
  ∀ (resolver : Option SecretResolver) (rolls : Rolls),
    ∀ b ∈ (w.replaceProfiles snapshot).collectEvaluators t resolver rolls,
      ∀ ep, b.profile = some ep → ep.enabled = true ∧ ep.visibleToOrg t.orgID = true ∧
        (ep.scope = .user → ep.ownerUserID = t.userID)

theorem user_scope_iff (w : Worker) (snapshot : List EvalProfile) (t : Trace) :
    InScope w snapshot t ↔ ∀ ep ∈ snapshot, ¬ RunsForOthers w.pluginOnly t ep := by
  constructor
  · intro h ep hep hruns
    obtain ⟨ev, hev⟩ := exists_buildEvaluator (t := t) hruns.buildable
    have hadmitted : ∀ profiles i, admitted profiles t (Rolls.zero.profile i) ep = true := by
      intro profiles i
      have hsample : sampleJudge ep.sampleRate 0 = true := gate_zero hruns.sampled
      simp [admitted, Rolls.zero, hruns.enabled, hruns.sampled, hruns.scope, hsample]
    have hmem : ⟨ev, some ep⟩ ∈ (w.replaceProfiles snapshot).collectEvaluators t
        (some fun _ _ => .ok "secret") Rolls.zero :=
      collectEvaluators_of_mem hep hruns.visible (hadmitted _) hev
    exact hruns.owner ((h _ _ _ hmem ep rfl).2.2 hruns.scope)
  · intro h resolver rolls b hb ep hep
    obtain ⟨hsnapshot, hvisible, ⟨roll, hadmitted⟩, hbuild⟩ := mem_collectEvaluators hb hep
    unfold admitted at hadmitted
    simp only [Bool.and_eq_true, decide_eq_true_eq] at hadmitted
    obtain ⟨⟨⟨henabled, hsampled⟩, -⟩, -⟩ := hadmitted
    refine ⟨henabled, hvisible, fun hscope => ?_⟩
    by_contra howner
    exact h ep hsnapshot
      ⟨hscope, howner, hvisible, henabled, hsampled, buildable_of_buildEvaluator hbuild⟩

def ownJudge : EvalProfile where
  id := "ep_1"
  orgID := "acme"
  name := "my judge"
  kind := .slmJudge
  scope := .user
  ownerUserID := "alice"
  endpoint := { baseURL := "https://judge.example/v1", model := "judge-1", keySource := .user }
  sampleRate := 1
  enabled := true

theorem other_users_judge : ¬ ∀ w snapshot t, InScope w snapshot t := by
  intro h
  have hbuilt := h {} [ownJudge] { (default : Trace) with orgID := "acme", userID := "bob" }
    (some fun _ _ => .ok "sk") Rolls.zero
    ⟨.slmJudge "https://judge.example/v1" "judge-1" "sk", some ownJudge⟩ (by decide)
    ownJudge rfl
  exact absurd (hbuilt.2.2 rfl) (by decide)

end FfxNexus.Evals
