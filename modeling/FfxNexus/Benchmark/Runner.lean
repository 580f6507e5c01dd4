/-
**Benchmark runs: the request, the row and the runner** (`internal/benchmark/types.go`, `runner.go`,
`client.go`, `resolve.go`, and `internal/core/benchmark_runs.go`).
-/
import FfxNexus.Console
import FfxNexus.Go
import FfxNexus.Interaction

namespace FfxNexus.Benchmark

inductive Status
  | pending
  | running
  | completed
  | failed
  | cancelled
deriving DecidableEq

def Status.text : Status → String
  | .pending => "pending"
  | .running => "running"
  | .completed => "completed"
  | .failed => "failed"
  | .cancelled => "cancelled"

def settled : Status → Bool
  | .completed | .failed | .cancelled => true
  | _ => false

def normalizeStatus : String → Status
  | "PENDING" => .pending
  | "COMPLETED" => .completed
  | "FAILED" | "TIMEOUT" => .failed
  | "CANCELLED" => .cancelled
  | _ => .running

structure Run where
  id : String
  orgID : String := ""
  provider : String := ""
  externalID : String := ""
  name : String := ""
  environments : List String := []
  model : String := ""
  numExamples : Int64 := 0
  rollouts : Int64 := 0
  viaGateway : Bool := false
  vkeyID : String := ""
  status : Status
  externalStatus : String := ""
  avgScore : Option ℚ := none
  minScore : Option ℚ := none
  maxScore : Option ℚ := none
  totalSamples : Option Int64 := none
  metrics : String := ""
  viewerURL : String := ""
  error : String := ""
  createdBy : String := ""
  startedAt : Option ℤ := none
  completedAt : Option ℤ := none
  scheduleID : String := ""

structure Evaluation where
  status : String
  totalSamples : Int64 := 0
  avgScore : Option ℚ := none
  minScore : Option ℚ := none
  maxScore : Option ℚ := none
  metrics : String := ""
  viewerURL : String := ""
  errorMessage : String := ""
  startedAt : Option ℤ := none
  completedAt : Option ℤ := none

structure LaunchResult where
  evaluationID : String := ""
  status : String := ""
  error : String := ""

structure LaunchRequest where
  scheduleID : String := ""
  environments : List String
  model : String
  numExamples : Int64
  rollouts : Int64
  name : String := ""
  baseURL : String := ""
  keyVar : String := ""
  secrets : List (String × String) := []
  timeoutMinutes : Int64 := 0
  teamID : String := ""

def maxTotalSamples : Int64 := 2000

namespace LaunchRequest
variable (r : LaunchRequest)

def totalSamples : Int64 := r.numExamples * r.rollouts

def invalid (what : String) : Except String Unit := .error ("benchmark: invalid request: " ++ what)

def secret (key : String) : String := (r.secrets.lookup key).getD ""

def validate : Except String Unit :=
  if r.environments = [] then invalid "at least one environment is required"
  else if "" ∈ r.environments then invalid "environment slug must not be empty"
  else if r.model = "" then invalid "model is required"
  else if r.numExamples < 1 then invalid "num_examples must be at least 1"
  else if r.rollouts < 1 then invalid "rollouts must be at least 1"
  else if r.totalSamples > maxTotalSamples then
    invalid (toString r.totalSamples ++ " total samples (" ++ toString r.numExamples ++
      " examples × " ++ toString r.rollouts ++ " rollouts) exceeds the " ++
      toString maxTotalSamples ++ " cap")
  else if r.timeoutMinutes ≠ 0 ∧ (r.timeoutMinutes < 120 ∨ r.timeoutMinutes > 1440) then
    invalid "timeout_minutes must be between 120 and 1440 when set"
  else if r.baseURL ≠ "" ∧ r.keyVar = "" then
    invalid "gateway-routed runs need an api key variable name"
  else if r.baseURL ≠ "" ∧ r.secret r.keyVar = "" then
    invalid ("gateway-routed runs need a secret for " ++ r.keyVar.quote)
  else .ok ()

structure WellFormed (r : LaunchRequest) : Prop where
  environments : r.environments ≠ []
  slugs : "" ∉ r.environments
  model : r.model ≠ ""
  examples : 1 ≤ r.numExamples.toInt
  rollouts : 1 ≤ r.rollouts.toInt
  timeout : ¬ (r.timeoutMinutes ≠ 0 ∧ (r.timeoutMinutes < 120 ∨ r.timeoutMinutes > 1440))
  keyVar : r.baseURL ≠ "" → r.keyVar ≠ ""
  secret : r.baseURL ≠ "" → r.secret r.keyVar ≠ ""

lemma refuse_eq_ok_iff {c : Prop} [Decidable c] {what : String} {rest : Except String Unit} :
    (if c then invalid what else rest) = .ok () ↔ ¬ c ∧ rest = .ok () := by
  split_ifs with hc
  · exact iff_of_false (fun h => by cases h) fun h => h.1 hc
  · exact (and_iff_right hc).symm

lemma validate_eq_ok_iff {r : LaunchRequest} :
    r.validate = .ok () ↔ r.WellFormed ∧ r.totalSamples.toInt ≤ 2000 := by
  have hlow : ∀ n : Int64, ¬ n < 1 ↔ 1 ≤ n.toInt := by
    intro n
    rw [Int64.lt_iff_toInt_lt, Int.not_lt]
    rfl
  have hcap : ¬ r.totalSamples > maxTotalSamples ↔ r.totalSamples.toInt ≤ 2000 := by
    rw [gt_iff_lt, Int64.lt_iff_toInt_lt, Int.not_lt]
    rfl
  unfold validate
  rw [refuse_eq_ok_iff, refuse_eq_ok_iff, refuse_eq_ok_iff, refuse_eq_ok_iff, refuse_eq_ok_iff,
    refuse_eq_ok_iff, refuse_eq_ok_iff, refuse_eq_ok_iff, refuse_eq_ok_iff, hlow, hlow, hcap]
  constructor
  · rintro ⟨henv, hslug, hmodel, hex, hro, hmany, htime, hkey, hsecret, -⟩
    exact ⟨⟨henv, hslug, hmodel, hex, hro, htime, fun hbase hvar => hkey ⟨hbase, hvar⟩,
      fun hbase hval => hsecret ⟨hbase, hval⟩⟩, hmany⟩
  · rintro ⟨hwf, hmany⟩
    exact ⟨hwf.environments, hwf.slugs, hwf.model, hwf.examples, hwf.rollouts, hmany, hwf.timeout,
      fun h => hwf.keyVar h.1 h.2, fun h => hwf.secret h.1 h.2, rfl⟩

def samples : ℤ := r.numExamples.toInt * r.rollouts.toInt

def Capped : Prop := 0 < r.samples ∧ r.samples ≤ 2000

def Representable : Prop :=
  r.samples < 2 ^ 63 ∨ 2000 < r.samples.bmod (2 ^ 64)

lemma totalSamples_toInt : r.totalSamples.toInt = r.samples.bmod (2 ^ 64) := Int64.toInt_mul _ _

lemma validate_capped_iff :
    (r.validate = .ok () → r.Capped) ↔ (r.WellFormed → r.Representable) := by
  rw [validate_eq_ok_iff, totalSamples_toInt]
  have hpos : r.WellFormed → 0 < r.samples := by
    intro hp
    exact Int.mul_pos hp.examples hp.rollouts
  have hfits : r.WellFormed → r.samples < 2 ^ 63 → r.samples.bmod (2 ^ 64) = r.samples := by
    intro hp hlt
    have hpos' := hpos hp
    apply Int.bmod_eq_of_le
    · omega
    · omega
  constructor
  · intro h hp
    by_contra hno
    obtain ⟨hbig, hsmall⟩ := not_or.mp hno
    have hcapped := (h ⟨hp, Int.not_lt.mp hsmall⟩).2
    omega
  · rintro h ⟨hp, hle⟩
    refine ⟨hpos hp, ?_⟩
    rcases h hp with hlt | hlarge
    · rw [hfits hp hlt] at hle
      exact hle
    · omega

end LaunchRequest

open Go Interaction List Prog

structure CreateRequest where
  environmentIDs : List String
  inferenceModel : String
  name : String
  teamID : String
  numExamples : Int64
  rolloutsPerExample : Int64
  timeoutMinutes : Option Int64
  apiBaseURL : String
  apiKeyVar : String
  customSecrets : List (String × String)

inductive Op
  | token
  | teamID
  | newRunID
  | createVirtualKey (orgID actorID userID name : String) (allowedModels : List String) (rpm : ℕ)
      (monthlyBudget minQuality : ℚ)
  | revokeVirtualKey (orgID actorID id : String)
  | createRun (run : Run)
  | updateProgress (run : Run)
  | getRun (id : String)
  | listUnsettled (limit : ℕ)
  | deleteRun (id : String)
  | clearVKey (id : String)
  | environmentStatus (token owner name : String)
  | createEvaluation (token : String) (body : CreateRequest)
  | evaluationStatus (token externalID : String)
  | cancelEvaluation (token externalID : String)

def Ans : Op → Type
  | .token | .teamID | .environmentStatus _ _ _ => Except String String
  | .newRunID => String
  | .createVirtualKey _ _ _ _ _ _ _ _ => Except String (String × String)
  | .getRun _ => Except String Run
  | .listUnsettled _ => Except String (List Run)
  | .createEvaluation _ _ => Except String LaunchResult
  | .evaluationStatus _ _ => Except String Evaluation
  | _ => Except String Unit

abbrev call (o : Op) : Prog Ans (Ans o) := perform o

def errNoToken : String := "benchmark: no provider API token configured"

def resolveEnvironmentID (token slug : String) : Prog Ans (Except String String) :=
  if slug = "" then
    return .error "benchmark: invalid request: environment slug must not be empty"
  else
    match cut slug '/' with
    | none => return .ok slug
    | some (owner, name) =>
      if owner = "" ∨ name = "" then
        return .error ("benchmark: invalid request: environment slug " ++ slug.quote ++
          " must be owner/name")
      else do
        match ← call (.environmentStatus token owner name) with
        | .error err => return .error err
        | .ok id =>
          if id = "" then
            return .error ("benchmark: environment " ++ slug.quote ++ " resolved to an empty id")
          else return .ok id

def resolveEnvironmentIDs (token : String) : List String → Prog Ans (Except String (List String))
  | [] => return .ok []
  | slug :: slugs => do
    match ← resolveEnvironmentID token slug with
    | .error err => return .error err
    | .ok id =>
      match ← resolveEnvironmentIDs token slugs with
      | .error err => return .error err
      | .ok ids => return .ok (id :: ids)

variable (token : String) (run : Run) (req : LaunchRequest) (id : String) (res : LaunchResult)

def LaunchRequest.body (environmentIDs : List String) : CreateRequest where
  environmentIDs := environmentIDs
  inferenceModel := req.model
  name := req.name
  teamID := trimmed req.teamID
  numExamples := req.numExamples
  rolloutsPerExample := req.rollouts
  timeoutMinutes := if req.timeoutMinutes > 0 then some req.timeoutMinutes else none
  apiBaseURL := req.baseURL
  apiKeyVar := req.keyVar
  customSecrets := req.secrets

def submit : Prog Ans (LaunchResult × Option String) :=
  if token = "" then return ({}, some errNoToken)
  else
    match req.validate with
    | .error err => return ({}, some err)
    | .ok () => do
      match ← resolveEnvironmentIDs token req.environments with
      | .error err => return ({}, some err)
      | .ok environmentIDs =>
        match ← call (.createEvaluation token (req.body environmentIDs)) with
        | .error err => return ({}, some err)
        | .ok out =>
          if out.evaluationID ≠ "" then return (out, none)
          else if out.error ≠ "" then
            return (out, some ("benchmark: launch returned no evaluation id: " ++ out.error))
          else return (out, some "benchmark: launch returned no evaluation id")

structure Runner where
  gatewayURL : String

structure LaunchSpec where
  orgID : String
  actorID : String
  name : String := ""
  scheduleID : String := ""
  environments : List String
  model : String
  numExamples : Int64
  rollouts : Int64
  timeoutMinutes : Int64 := 0
  viaGateway : Bool

variable (r : Runner) (spec : LaunchSpec)

def LaunchSpec.request (teamID : String) : LaunchRequest where
  environments := spec.environments
  model := spec.model
  numExamples := spec.numExamples
  rollouts := spec.rollouts
  name := spec.name
  timeoutMinutes := spec.timeoutMinutes
  teamID := teamID
  scheduleID := spec.scheduleID

def LaunchSpec.row : Run where
  id := id
  orgID := spec.orgID
  provider := "primeintellect"
  name := spec.name
  environments := spec.environments
  model := spec.model
  numExamples := spec.numExamples
  rollouts := spec.rollouts
  viaGateway := spec.viaGateway
  status := .pending
  createdBy := spec.actorID
  scheduleID := spec.scheduleID

def LaunchRequest.viaGateway (gatewayURL secret : String) : LaunchRequest :=
  { req with
    baseURL := gatewayURL ++ "/v1"
    keyVar := "NEXUS_API_KEY"
    secrets := [("NEXUS_API_KEY", secret)] }

def orgOr (orgID : String) : String := if orgID = "" then "default" else orgID

lemma orgOr_orgOr (orgID : String) : orgOr (orgOr orgID) = orgOr orgID := by
  by_cases h : orgID = ""
  · rw [h]
    rfl
  · rw [orgOr, orgOr, if_neg h, if_neg h]

def shortID : String := String.ofList (id.toList.take 8)

def allowedModelsForBenchmark (model : String) : List String :=
  if trimmed model = "" then []
  else
    match cut (trimmed model) '/' with
    | some (_, rest) => if rest = "" then [trimmed model] else [trimmed model, rest]
    | none => [trimmed model]

def runKeyRPM : ℕ := 120

def revokeKey : Prog Ans Unit :=
  if run.vkeyID = "" then return ()
  else do
    let _ ← call (.revokeVirtualKey (orgOr run.orgID) run.createdBy run.vkeyID)
    return ()

def Run.started : Run :=
  { run with
    externalID := res.evaluationID
    externalStatus := res.status
    status := normalizeStatus res.status
    error := if normalizeStatus res.status = .failed ∧ trimmed res.error ≠ "" then trimmed res.error
      else run.error }

def Run.refused (err : String) : Run :=
  { run with status := .failed, error := err, externalID := res.evaluationID }

def record (run : Run) :
    Prog Ans (Option Run × Option String) := do
  match ← call (.createRun run) with
  | .error err =>
    revokeKey run
    return (none, some ("benchmark: record run: " ++ err))
  | .ok () =>
    match ← submit token req with
    | (res, some err) =>
      let _ ← call (.updateProgress (run.refused res err))
      revokeKey (run.refused res err)
      return (some (run.refused res err), some err)
    | (res, none) =>
      let _ ← call (.updateProgress (run.started res))
      return (some (run.started res), none)

def mint (token : String) (req : LaunchRequest) (id : String) :
    Prog Ans (Option Run × Option String) :=
  if spec.viaGateway = true then
    if r.gatewayURL = "" then
      return (none, some ("benchmark: invalid request: " ++
        "gateway-routed runs need NEXUS_PUBLIC_GATEWAY_URL to be set"))
    else do
      match ← call (.createVirtualKey spec.orgID spec.actorID spec.actorID
        ("benchmark " ++ shortID id) (allowedModelsForBenchmark spec.model) runKeyRPM 0 0) with
      | .error err => return (none, some ("benchmark: mint gateway key: " ++ err))
      | .ok (key, secret) =>
        record token (req.viaGateway r.gatewayURL secret) { spec.row id with vkeyID := key }
  else record token req (spec.row id)

def launch : Prog Ans (Option Run × Option String) := do
  match ← call .token with
  | .error err => return (none, some err)
  | .ok token =>
    if token = "" then
      return (none, some (errNoToken ++
        ": paste the PrimeIntellect API key in the console before launching a run"))
    else
      match ← call .teamID with
      | .error err => return (none, some err)
      | .ok teamID =>
        match (spec.request teamID).validate with
        | .error err => return (none, some err)
        | .ok () =>
          let id ← call .newRunID
          mint r spec token (spec.request teamID) id

def Run.observed (ev : Evaluation) : Run where
  id := run.id
  externalID := run.externalID
  status := normalizeStatus ev.status
  externalStatus := ev.status
  avgScore := ev.avgScore
  minScore := ev.minScore
  maxScore := ev.maxScore
  totalSamples := if ev.totalSamples > 0 then some ev.totalSamples else none
  metrics := ev.metrics
  viewerURL := ev.viewerURL
  error := ev.errorMessage
  startedAt := ev.startedAt
  completedAt := ev.completedAt

def withdrawKey (status : Status) : Prog Ans Unit :=
  if settled status = true ∧ run.vkeyID ≠ "" then do
    revokeKey { run with orgID := orgOr run.orgID }
    let _ ← call (.clearVKey run.id)
    return ()
  else return ()

def applyStatus (ev : Evaluation) : Prog Ans Bool := do
  withdrawKey run (normalizeStatus ev.status)
  match ← call (.updateProgress (run.observed ev)) with
  | .error _ => return false
  | .ok () => return true

def pollRuns (token : String) : List Run → Prog Ans ℕ
  | [] => return 0
  | run :: runs => do
    match ← call (.evaluationStatus token run.externalID) with
    | .error _ => pollRuns token runs
    | .ok ev =>
      let written ← applyStatus run ev
      let changed ← pollRuns token runs
      return changed + written.toNat

def pollBatch : ℕ := 50

def pollOnce : Prog Ans (ℕ × Option String) := do
  match ← call (.listUnsettled pollBatch) with
  | .error err => return (0, some err)
  | .ok runs =>
    if runs.isEmpty then return (0, none)
    else
      match ← call .token with
      | .error _ => return (0, none)
      | .ok token =>
        if token = "" then return (0, none)
        else
          let changed ← pollRuns token runs
          return (changed, none)

def settleCancelled : Prog Ans (Option String) := do
  revokeKey run
  match ← call (.updateProgress
    { id := run.id, status := .cancelled, externalStatus := run.externalStatus }) with
  | .error err => return some err
  | .ok () =>
    let _ ← call (.clearVKey run.id)
    return none

def cancel : Prog Ans (Option String) := do
  match ← call (.getRun id) with
  | .error err => return some err
  | .ok run =>
    if settled run.status then
      return some ("benchmark: conflicting run state: run is already " ++ run.status.text)
    else if run.externalID = "" then settleCancelled run
    else
      match ← call .token with
      | .error err => return some err
      | .ok token =>
        if token = "" then return some errNoToken
        else
          let _ ← call (.cancelEvaluation token run.externalID)
          settleCancelled run

def forget : Prog Ans (Option String) := do
  revokeKey run
  match ← call (.deleteRun id) with
  | .error err => return some err
  | .ok () => return none

def delete : Prog Ans (Option String) := do
  match ← call (.getRun id) with
  | .error err => return some err
  | .ok run =>
    if settled run.status then forget run id
    else
      let _ ← cancel id
      forget run id

open LaunchRequest

def SubmitsCapped : Op → Prop
  | .createEvaluation _ body =>
    0 < body.numExamples.toInt * body.rolloutsPerExample.toInt ∧
      body.numExamples.toInt * body.rolloutsPerExample.toInt ≤ 2000
  | _ => True

instance : DecidablePred SubmitsCapped
  | .createEvaluation _ _ => inferInstanceAs (Decidable (_ ∧ _))
  | .token | .teamID | .newRunID | .createVirtualKey _ _ _ _ _ _ _ _ | .revokeVirtualKey _ _ _
  | .createRun _ | .updateProgress _ | .getRun _ | .listUnsettled _ | .deleteRun _ | .clearVKey _
  | .environmentStatus _ _ _ | .evaluationStatus _ _ | .cancelEvaluation _ _ => .isTrue trivial

abbrev KeepsCap {α : Type} (post : α → Prop) (p : Prog Ans α) : Prop :=
  p.Spec (fun _ _ => True) SubmitsCapped post

def Resolvable (slug : String) : Prop :=
  slug ≠ "" ∧ ∀ owner name, cut slug '/' = some (owner, name) → ¬ (owner = "" ∨ name = "")

structure LaunchSpec.Submittable (spec : LaunchSpec) (r : Runner) : Prop where
  wellFormed : (spec.request "").WellFormed
  slugs : ∀ slug ∈ spec.environments, Resolvable slug
  gateway : spec.viaGateway = true → r.gatewayURL ≠ ""

lemma keepsCap_resolveEnvironmentID (token slug : String) :
    KeepsCap (fun x => ∀ id, x = .ok id → Resolvable slug) (resolveEnvironmentID token slug) := by
  unfold resolveEnvironmentID
  split_ifs with hempty
  · intro id h
    cases h
  cases hcut : cut slug '/' with
  | none =>
    intro id _
    refine ⟨hempty, ?_⟩
    intro owner name h
    rw [hcut] at h
    cases h
  | some parts =>
    obtain ⟨owner, name⟩ := parts
    by_cases hpart : owner = "" ∨ name = ""
    · show KeepsCap _ (ite _ _ _)
      rw [if_pos hpart]
      intro id h
      cases h
    · show KeepsCap _ (ite _ _ _)
      rw [if_neg hpart]
      have hok : Resolvable slug := by
        refine ⟨hempty, ?_⟩
        intro owner' name' h
        rw [hcut] at h
        obtain ⟨rfl, rfl⟩ := Prod.mk.inj (Option.some.inj h)
        exact hpart
      refine ⟨trivial, ?_⟩
      rintro (err | id) -
      · intro id' h
        cases h
      show KeepsCap _ (ite _ _ _)
      split_ifs with hid
      · intro id' h
        cases h
      · exact fun _ _ => hok

lemma keepsCap_resolveEnvironmentIDs (slugs : List String) :
    KeepsCap (fun x => ∀ ids, x = .ok ids → ∀ slug ∈ slugs, Resolvable slug)
      (resolveEnvironmentIDs token slugs) := by
  induction slugs with
  | nil => exact fun _ _ slug hslug => absurd hslug not_mem_nil
  | cons slug slugs ih =>
    refine spec_bind.mpr ((keepsCap_resolveEnvironmentID token slug).mono ?_)
    rintro (err | id) hid
    · intro ids h
      cases h
    refine spec_bind.mpr (ih.mono ?_)
    rintro (err | ids) hids
    · intro ids' h
      cases h
    intro ids' _ slug' hslug'
    rcases mem_cons.mp hslug' with rfl | hslug'
    · exact hid id rfl
    · exact hids ids rfl slug' hslug'

lemma yields_resolveEnvironmentID {slug : String} (h : Resolvable slug) :
    ∃ id, (resolveEnvironmentID token slug).Yields (fun _ _ => True) (.ok id) := by
  unfold resolveEnvironmentID
  rw [if_neg h.1]
  cases hcut : cut slug '/' with
  | none => exact ⟨slug, yields_ret _⟩
  | some parts =>
    obtain ⟨owner, name⟩ := parts
    refine ⟨"id", ?_⟩
    show Yields _ (ite _ _ _) _
    rw [if_neg (h.2 owner name hcut)]
    refine Prog.Yields.bind (yields_perform (x := .ok "id") trivial) ?_
    exact yields_ret _

lemma yields_resolveEnvironmentIDs {slugs : List String} (h : ∀ slug ∈ slugs, Resolvable slug) :
    ∃ ids, (resolveEnvironmentIDs token slugs).Yields (fun _ _ => True) (.ok ids) := by
  induction slugs with
  | nil => exact ⟨[], yields_ret _⟩
  | cons slug slugs ih =>
    obtain ⟨id, hid⟩ := yields_resolveEnvironmentID token (h slug mem_cons_self)
    obtain ⟨ids, hids⟩ := ih fun slug' hslug' => h slug' (mem_cons_of_mem _ hslug')
    exact ⟨id :: ids, hid.bind (hids.bind (yields_ret _))⟩

lemma keepsCap_submit_iff {token : String} (htoken : token ≠ "") (req : LaunchRequest) :
    KeepsCap (fun _ => True) (submit token req) ↔
      (req.WellFormed → (∀ slug ∈ req.environments, Resolvable slug) → req.Representable) := by
  have hcap := validate_capped_iff req
  unfold submit
  rw [if_neg htoken]
  cases hval : req.validate with
  | error err =>
    refine iff_of_true trivial fun hwf _ => (hcap.mp ?_) hwf
    intro hok
    rw [hval] at hok
    cases hok
  | ok u =>
    have hwf := (validate_eq_ok_iff.mp hval).1
    refine spec_bind.trans ?_
    constructor
    · intro h _ hslugs
      obtain ⟨ids, hids⟩ := yields_resolveEnvironmentIDs token hslugs
      have hcreate : SubmitsCapped (.createEvaluation token (req.body ids)) := (hids.spec h).1
      exact hcap.mp (fun _ => hcreate) hwf
    · intro h
      refine (keepsCap_resolveEnvironmentIDs token req.environments).mono ?_
      rintro (err | ids) hids
      · trivial
      refine ⟨hcap.mpr (fun _ => h hwf (hids ids rfl)) hval, ?_⟩
      rintro (err | out) -
      · trivial
      · show KeepsCap _ (ite _ _ (ite _ _ _))
        split_ifs <;> trivial

lemma keepsCap_revokeKey : KeepsCap (fun _ => True) (revokeKey run) := by
  unfold revokeKey
  split_ifs with h
  · trivial
  · exact ⟨trivial, fun _ _ => trivial⟩

lemma keepsCap_record_iff (run : Run) : KeepsCap (fun _ => True) (record token req run) ↔
      KeepsCap (fun _ => True) (submit token req) := by
  constructor
  · intro h
    have hsubmit := (spec_perform_bind.mp h).2 (.ok ()) trivial
    exact (spec_bind.mp hsubmit).mono fun _ _ => trivial
  · intro h
    refine spec_perform_bind.mpr ⟨trivial, ?_⟩
    rintro (err | u) -
    · exact (keepsCap_revokeKey run).bind fun _ => trivial
    refine h.bind ?_
    rintro ⟨res, _ | err⟩
    · exact ⟨trivial, fun _ _ => trivial⟩
    · exact ⟨trivial, fun _ _ => (keepsCap_revokeKey _).bind fun _ => trivial⟩

lemma wellFormed_viaGateway {req : LaunchRequest} (h : req.WellFormed) {secret : String}
    (hsecret : secret ≠ "") (gatewayURL : String) : (req.viaGateway gatewayURL secret).WellFormed :=
  ⟨h.environments, h.slugs, h.model, h.examples, h.rollouts, h.timeout,
    fun _ => by simp [viaGateway],
    fun _ => by simpa [viaGateway, LaunchRequest.secret] using hsecret⟩

lemma keepsCap_mint_iff {token : String} (htoken : token ≠ "")
    {req : LaunchRequest} (hwf : req.WellFormed) (id : String) :
    KeepsCap (fun _ => True) (mint r spec token req id) ↔
      ((∀ slug ∈ req.environments, Resolvable slug) → (spec.viaGateway = true → r.gatewayURL ≠ "") →
        req.Representable) := by
  unfold mint
  by_cases hvia : spec.viaGateway = true
  · rw [if_pos hvia]
    by_cases hurl : r.gatewayURL = ""
    · rw [if_pos hurl]
      exact iff_of_true trivial fun _ h => absurd hurl (h hvia)
    rw [if_neg hurl]
    constructor
    · intro h hslugs _
      have hrecord := (spec_perform_bind.mp h).2 (.ok ("key", "secret")) trivial
      have hsubmit := (keepsCap_submit_iff htoken _).mp ((keepsCap_record_iff _ _ _).mp hrecord)
      exact hsubmit (wellFormed_viaGateway hwf (by decide) r.gatewayURL) hslugs
    · intro h
      refine spec_perform_bind.mpr ⟨trivial, ?_⟩
      rintro (err | ⟨key, secret⟩) -
      · trivial
      · refine (keepsCap_record_iff _ _ _).mpr ((keepsCap_submit_iff htoken _).mpr ?_)
        exact fun _ hslugs => h hslugs fun _ => hurl
  · rw [if_neg hvia, keepsCap_record_iff, keepsCap_submit_iff htoken]
    exact ⟨fun h hslugs _ => h hwf hslugs, fun h _ hslugs => h hslugs fun hv => absurd hv hvia⟩

lemma wellFormed_request_iff (teamID : String) :
    (spec.request teamID).WellFormed ↔ (spec.request "").WellFormed := by
  constructor
  · intro h
    exact ⟨h.environments, h.slugs, h.model, h.examples, h.rollouts, h.timeout, h.keyVar, h.secret⟩
  · intro h
    exact ⟨h.environments, h.slugs, h.model, h.examples, h.rollouts, h.timeout, h.keyVar, h.secret⟩

lemma keepsCap_launch_iff : KeepsCap (fun _ => True) (launch r spec) ↔
      (spec.Submittable r → (spec.request "").Representable) := by
  constructor
  · intro h hsub
    have hteam := (spec_perform_bind.mp h).2 (.ok "token") trivial
    have hvalidate := (spec_perform_bind.mp hteam).2 (.ok "") trivial
    cases hval : (spec.request "").validate with
    | error err =>
      refine (validate_capped_iff _).mp ?_ hsub.wellFormed
      intro hok
      rw [hval] at hok
      cases hok
    | ok u =>
      simp only [hval] at hvalidate
      have hmint := (spec_perform_bind.mp hvalidate).2 "id" trivial
      exact (keepsCap_mint_iff r spec (by decide) hsub.wellFormed "id").mp hmint
        hsub.slugs hsub.gateway
  · intro h
    refine spec_perform_bind.mpr ⟨trivial, ?_⟩
    rintro (err | token) -
    · trivial
    show KeepsCap _ (ite _ _ _)
    split_ifs with htoken
    · trivial
    refine spec_perform_bind.mpr ⟨trivial, ?_⟩
    rintro (err | teamID) -
    · trivial
    cases hval : (spec.request teamID).validate with
    | error err => simp only [hval]; trivial
    | ok u =>
      simp only [hval]
      have hwf := (validate_eq_ok_iff.mp hval).1
      refine spec_perform_bind.mpr ⟨trivial, fun id _ => ?_⟩
      refine (keepsCap_mint_iff r spec htoken hwf id).mpr fun hslugs hgateway => ?_
      exact h ⟨(wellFormed_request_iff spec teamID).mp hwf, hslugs, hgateway⟩

theorem cost_cap_iff (r : Runner) (spec : LaunchSpec) :
    ((req.validate = .ok () → req.Capped) ↔ (req.WellFormed → req.Representable)) ∧
      ((∀ log res, (launch r spec).Runs log res → ∀ e ∈ log, SubmitsCapped e.1) ↔
        (spec.Submittable r → (spec.request "").Representable)) := by
  refine ⟨validate_capped_iff req, ?_⟩
  have hne : ∀ o : Op, ∃ _ : Ans o, True := by
    intro o
    cases o
    case newRunID => exact ⟨"", trivial⟩
    all_goals exact ⟨.error "", trivial⟩
  rw [← keepsCap_launch_iff]
  constructor
  · intro h
    exact (spec_iff_runs hne).mpr fun log res hrun _ => h log res hrun
  · intro h log res hrun
    exact (spec_iff_runs hne).mp h log res hrun fun _ _ => trivial

def hugeSpec : LaunchSpec where
  orgID := "acme"
  actorID := "root"
  environments := ["gsm8k"]
  model := "openai/gpt-4.1-nano"
  numExamples := 4294967296
  rollouts := 4294967296
  viaGateway := false

def willing : (o : Op) → Ans o
  | .token => .ok "token"
  | .teamID => .ok ""
  | .newRunID => "run"
  | .createVirtualKey _ _ _ _ _ _ _ _ => .ok ("key", "secret")
  | .revokeVirtualKey _ _ _ => .ok ()
  | .createRun _ => .ok ()
  | .updateProgress _ => .ok ()
  | .getRun _ => .error "not found"
  | .listUnsettled _ => .ok []
  | .deleteRun _ => .ok ()
  | .clearVKey _ => .ok ()
  | .environmentStatus _ _ _ => .ok "environment"
  | .createEvaluation _ _ => .ok { evaluationID := "evaluation", status := "RUNNING" }
  | .evaluationStatus _ _ => .ok { status := "RUNNING" }
  | .cancelEvaluation _ _ => .ok ()

theorem huge_run_submitted :
    (hugeSpec.request "").validate = .ok () ∧ ¬ (hugeSpec.request "").Capped ∧
      ∃ e ∈ ((launch ⟨""⟩ hugeSpec).execute willing).1, ¬ SubmitsCapped e.1 := by
  have hwf : (hugeSpec.request "").WellFormed := by
    refine ⟨?_, ?_, ?_, ?_, ?_, ?_, ?_, ?_⟩ <;> decide
  refine ⟨validate_eq_ok_iff.mpr ⟨hwf, by decide⟩, ?_, by decide⟩
  unfold Capped
  decide

end FfxNexus.Benchmark
