/-
**Evaluation plugins** (`internal/evalplugin`): the manifest (`types.go`), its check (`validate.go`)
and the registry of all tenants' plugins (`registry.go`).
-/
import FfxNexus.Go
import FfxNexus.Guardrails
import Mathlib.Data.List.Sort
import Mathlib.Data.Rat.Defs

open List

namespace FfxNexus.Evals
open Go Guardrails

inductive APIVersion
  | v1alpha1
  | v1alpha2
  | other (text : String)
deriving DecidableEq

inductive ServiceType
  | langSmith
  | langfuse
  | datadog
  | braintrust
  | arize
  | otel
  | webhook
  | heuristic
  | confidentAI
  | arizePhoenix
  | collector
  | other (text : String)
deriving DecidableEq

inductive Trigger
  | onTrace
  | scheduled
  | manual
  | other (text : String)
deriving DecidableEq

inductive CollectMode
  | webhook
  | poll
  | other (text : String)
deriving DecidableEq

def APIVersion.text : APIVersion → String
  | .v1alpha1 => "nexus.io/v1alpha1"
  | .v1alpha2 => "nexus.io/v1alpha2"
  | .other text => text

def ServiceType.text : ServiceType → String
  | .langSmith => "langsmith"
  | .langfuse => "langfuse"
  | .datadog => "datadog"
  | .braintrust => "braintrust"
  | .arize => "arize"
  | .otel => "otel"
  | .webhook => "webhook"
  | .heuristic => "heuristic"
  | .confidentAI => "confident_ai"
  | .arizePhoenix => "arize_phoenix"
  | .collector => "otel_collector"
  | .other text => text

def Trigger.text : Trigger → String
  | .onTrace => "on_trace"
  | .scheduled => "scheduled"
  | .manual => "manual"
  | .other text => text

def CollectMode.text : CollectMode → String
  | .webhook => "webhook"
  | .poll => "poll"
  | .other text => text

/-- A slice of Go: `nil`, or its elements. -/
inductive Slice (α : Type)
  | nil
  | of (elems : List α)
deriving DecidableEq

def Slice.elems {α : Type} : Slice α → List α
  | .nil => []
  | .of elems => elems

/-- A number of a manifest. `.nan` is one for the decoder, and no comparison with it holds. -/
inductive Float64
  | nan
  | num (v : ℚ)
deriving DecidableEq

def Float64.above : Float64 → ℚ → Bool
  | .nan, _ => false
  | .num v, bound => bound < v

def Float64.below : Float64 → ℚ → Bool
  | .nan, _ => false
  | .num v, bound => v < bound

/-- A leaf of the arguments of a metric. -/
inductive Scalar
  | text (s : String)
  | number (x : Float64)
deriving DecidableEq

structure AuthSpec where
  secretRef : String := ""
  keyRef : String := ""
  inlineKey : String := ""
deriving DecidableEq

/-- The arguments are a tree; they are given by its leaves and the paths to them. -/
structure MetricSpec where
  name : String := ""
  args : List (String × Scalar) := []
deriving DecidableEq

structure ServiceSpec where
  type : ServiceType
  endpoint : String := ""
  auth : AuthSpec := {}
  metric : MetricSpec := {}
deriving DecidableEq

structure SendSpec where
  trigger : Trigger
  sampling : Float64 := .num 0
  payload : List (String × String) := []
  redact : Slice String := .nil
deriving DecidableEq

structure ResultMapping where
  name : String := ""
  score : String := ""
  label : String := ""
  explanation : String := ""
  traceID : String := ""
  metric : String := ""
deriving DecidableEq

structure CollectSpec where
  mode : CollectMode
  transport : String := ""
  interval : Int := 0
  mapping : ResultMapping := {}
deriving DecidableEq

structure Plugin where
  apiVersion : APIVersion
  kind : String
  name : String
  labels : List (String × String) := []
  service : ServiceSpec
  send : SendSpec
  collect : CollectSpec
  timeout : Int := 0
  flags : List String := []
deriving DecidableEq

def blank (s : String) : Bool := trimSpace s.toList = []

def require (ok : Bool) (message : String) : Except String Unit :=
  if ok then .ok () else .error message

@[simp] lemma require_eq_ok {ok : Bool} {message : String} {u : Unit} :
    require ok message = .ok u ↔ ok = true := by
  unfold require
  cases ok <;> simp

lemma bind_eq_ok_iff {check rest : Except String Unit} :
    (do check; rest) = .ok () ↔ check = .ok () ∧ rest = .ok () := by
  cases check with
  | error err => simp [bind, Except.bind]
  | ok u => simp [bind, Except.bind]

def reservedPluginNames : List String :=
  ["nexus", "system", "plugin", "default", "builtin", "heuristic", "external"]

def isLowerAlpha (c : Char) : Bool := 'a' ≤ c && c ≤ 'z'

def isLowerAlphaNum (c : Char) : Bool := isLowerAlpha c || ('0' ≤ c && c ≤ '9')

def validPluginName (name : String) : Bool :=
  match name.toList with
  | [] => false
  | first :: rest =>
    isLowerAlpha first && 2 ≤ rest.length && rest.length ≤ 63 &&
      rest.dropLast.all (fun c => isLowerAlphaNum c || c = '-') &&
      rest.getLast?.any isLowerAlphaNum

def validMetrics : List String := ["contains", "pii", "exact_match", "rouge_l"]

def retiredMetric : String → Option String
  | "hf_evaluate" => some "HuggingFace Evaluate"
  | "lighteval" => some "LightEval"
  | "ragas" => some "Ragas"
  | _ => none

def validateMetric (m : MetricSpec) (apiVersion : APIVersion) : Except String Unit := do
  require (apiVersion = .v1alpha2)
    "spec.service.metric is v1alpha2 only; set apiVersion accordingly"
  match retiredMetric m.name with
  | some vendor => .error ("spec.service.metric.name " ++ m.name.quote ++ " was removed: " ++
      vendor ++ " needs eval compute running inside Nexus. Use an external plugin (e.g. " ++
      "service.type=confident_ai) or one of: contains, pii, exact_match, rouge_l")
  | none =>
    require (m.name ∈ validMetrics)
      ("spec.service.metric.name " ++ m.name.quote ++ " is not supported")

def validateAuth (a : AuthSpec) : Except String Unit := do
  require (a.inlineKey = "") "spec.service.auth.inlineKey is forbidden; use secretRef or keyRef"
  require (!blank a.secretRef || !blank a.keyRef)
    "spec.service.auth requires either secretRef or keyRef"

def ServiceType.known : ServiceType → Bool
  | .other _ => false
  | _ => true

def ServiceType.newInV1alpha2 : ServiceType → Bool
  | .heuristic | .confidentAI | .arizePhoenix | .collector => true
  | _ => false

def APIVersion.known : APIVersion → Bool
  | .other _ => false
  | _ => true

def Trigger.known : Trigger → Bool
  | .other _ => false
  | _ => true

def CollectMode.known : CollectMode → Bool
  | .other _ => false
  | _ => true

variable (p : Plugin)

def validateHeader : Except String Unit := do
  require (!blank p.apiVersion.text)
    "apiVersion is required (use nexus.io/v1alpha1 or nexus.io/v1alpha2)"
  require p.apiVersion.known ("apiVersion " ++ p.apiVersion.text.quote ++
    " is not supported (use nexus.io/v1alpha1 or nexus.io/v1alpha2)")
  require (p.kind = "EvalPlugin") ("kind must be \"EvalPlugin\" (got " ++ p.kind.quote ++ ")")
  require (!blank p.name) "metadata.name is required"
  require (p.name ∉ reservedPluginNames) ("metadata.name " ++ p.name.quote ++ " is reserved")
  require (validPluginName p.name) ("metadata.name " ++ p.name.quote ++
    " does not match ^[a-z][a-z0-9-]\x7b1,62\x7d[a-z0-9]$")

def validateService : Except String Unit := do
  require p.service.type.known
    ("spec.service.type " ++ p.service.type.text.quote ++ " is not a supported type")
  require (p.service.type = .heuristic || !blank p.service.endpoint)
    "spec.service.endpoint is required"
  if p.service.type = .heuristic then validateMetric p.service.metric p.apiVersion else pure ()
  require (p.service.type ≠ .collector || p.collect.transport ∈ ["", "json", "otlp_http"])
    ("spec.collect.transport " ++ p.collect.transport.quote ++
      " is not supported (use \"json\" or \"otlp_http\")")
  if p.service.type = .heuristic then pure () else validateAuth p.service.auth

def validateFlow : Except String Unit := do
  require p.send.trigger.known
    ("spec.send.trigger " ++ p.send.trigger.text.quote ++ " is not supported")
  require (!p.send.sampling.below 0 && !p.send.sampling.above 1)
    "spec.send.sampling must be in [0,1]"
  p.send.redact.elems.forM fun r => require (r = "pii")
    ("spec.send.redact entry " ++ r.quote ++ " is not supported (only \"pii\" today)")
  require p.collect.mode.known
    ("spec.collect.mode " ++ p.collect.mode.text.quote ++ " is not supported")
  require (p.collect.mode ≠ .poll || 0 < p.collect.interval)
    "spec.collect.interval is required when mode=poll"
  require (p.apiVersion = .v1alpha2 || !p.service.type.newInV1alpha2)
    ("spec.service.type " ++ p.service.type.text.quote ++ " requires apiVersion nexus.io/v1alpha2")
  p.flags.forM fun f => require (f = "strict")
    ("spec.flags entry " ++ f.quote ++ " is not supported")

def validate : Except String Unit := do
  validateHeader p
  validateService p
  validateFlow p

lemma gate_zero {rate : ℚ} (h : 0 < rate) :
    (if 1 ≤ rate then true else if rate ≤ 0 then false else decide (0 < rate)) = true := by
  have hopen : ¬ rate ≤ 0 := Rat.not_le.mpr h
  rw [if_neg hopen, decide_eq_true h, ite_self]

inductive SourceKind
  | helm
  | database
deriving DecidableEq

structure Source where
  kind : SourceKind
  ref : String := ""
deriving DecidableEq

structure Record where
  plugin : Plugin
  source : Source
  enabled : Bool
  orgID : String := ""
deriving DecidableEq

def recordKey (orgID name : String) : String := orgID ++ "\x00" ++ name

structure Registry where
  all : GoMap String Record
  keyed : ∀ key rec, all.lookup key = some rec → key = recordKey rec.orgID rec.plugin.name

namespace Registry

def new : Registry where
  all := ∅
  keyed := by simp

def put (reg : Registry) (rec : Record) : Registry where
  all := reg.all.insert (recordKey rec.orgID rec.plugin.name) rec
  keyed := by
    intro key rec' h
    rcases lookup_insert_eq_some h with ⟨rfl, rfl⟩ | ⟨-, h⟩
    · rfl
    · exact reg.keyed key rec' h

def mergeOne (reg : Registry) (rec : Record) : Registry × Bool :=
  match validate rec.plugin with
  | .error _ => (reg, true)
  | .ok () =>
    match reg.all.lookup (recordKey rec.orgID rec.plugin.name) with
    | none => (reg.put rec, false)
    | some existing =>
      if existing.source.kind = .helm ∧ rec.source.kind = .database then (reg, true)
      else (reg.put rec, false)

def merge (reg : Registry) : List Record → Registry × List Record
  | [] => (reg, [])
  | rec :: recs =>
    let (reg', discarded) := reg.mergeOne rec
    let (reg'', rest) := merge reg' recs
    (reg'', if discarded then rec :: rest else rest)

def records (reg : Registry) : List Record := reg.all.entries.map Sigma.snd

variable {reg : Registry} {rec : Record}

lemma mem_records :
    rec ∈ reg.records ↔ reg.all.lookup (recordKey rec.orgID rec.plugin.name) = some rec := by
  constructor
  · intro h
    obtain ⟨⟨key, rec'⟩, hmem, rfl⟩ := mem_map.mp h
    have hlook : reg.all.lookup key = some rec' := AList.mem_lookup_iff.mpr hmem
    rw [← reg.keyed key rec' hlook]
    exact hlook
  · intro h
    exact mem_map.mpr ⟨_, AList.mem_lookup_iff.mp h, rfl⟩

variable {rec' : Record}

def byNameThenOrg (a b : Record) : Prop :=
  a.plugin.name < b.plugin.name ∨ (a.plugin.name = b.plugin.name ∧ a.orgID ≤ b.orgID)

instance : DecidableRel byNameThenOrg := fun a b => by
  unfold byNameThenOrg
  infer_instance

def enabled (reg : Registry) : List Record :=
  (reg.records.filter (·.enabled)).insertionSort byNameThenOrg

lemma mem_enabled : rec ∈ reg.enabled ↔ rec ∈ reg.records ∧ rec.enabled = true := by
  unfold enabled
  rw [mem_insertionSort, mem_filter]

def prefer (orgID : String) (byName : GoMap String Record) (rec : Record) : GoMap String Record :=
  if rec.enabled = false ∨ (rec.orgID ≠ "" ∧ rec.orgID ≠ orgID) then byName
  else
    match byName.lookup rec.plugin.name with
    | some prev => if prev.orgID ≠ "" then byName else byName.insert rec.plugin.name rec
    | none => byName.insert rec.plugin.name rec

def byName (reg : Registry) (orgID : String) : GoMap String Record :=
  reg.records.foldl (prefer orgID) ∅

def enabledForOrg (reg : Registry) (orgID : String) : List Record :=
  ((reg.byName orgID).entries.map Sigma.snd).insertionSort
    fun a b => a.plugin.name ≤ b.plugin.name

structure UsableBy (orgID : String) (rec : Record) : Prop where
  enabled : rec.enabled = true
  visible : rec.orgID = "" ∨ rec.orgID = orgID

variable {orgID name : String}

lemma usableBy_iff :
    UsableBy orgID rec ↔ ¬ (rec.enabled = false ∨ (rec.orgID ≠ "" ∧ rec.orgID ≠ orgID)) := by
  constructor
  · rintro ⟨henabled, hvisible⟩
    grind
  · intro h
    exact ⟨by grind, by grind⟩

def Best (orgID name : String) (passed : List Record) : Option Record → Prop
  | none => ∀ rec ∈ passed, rec.plugin.name = name → ¬ UsableBy orgID rec
  | some rec => rec ∈ passed ∧ rec.plugin.name = name ∧ UsableBy orgID rec ∧
      (rec.orgID = "" → ∀ rec' ∈ passed, rec'.plugin.name = name → UsableBy orgID rec' →
        rec'.orgID = "")

lemma best_prefer {passed : List Record} {m : GoMap String Record}
    (h : Best orgID name passed (m.lookup name)) :
    Best orgID name (passed ++ [rec]) ((prefer orgID m rec).lookup name) := by
  unfold prefer
  by_cases hname : name = rec.plugin.name
  · cases hm : m.lookup rec.plugin.name <;> grind [Best, usableBy_iff, AList.lookup_insert]
  · -- the turn of another name
    have hsame : (m.insert rec.plugin.name rec).lookup name = m.lookup name :=
      AList.lookup_insert_ne hname
    cases hm : m.lookup name <;> grind [Best]

lemma best_byName (reg : Registry) (orgID name : String) :
    Best orgID name reg.records ((reg.byName orgID).lookup name) := by
  unfold byName
  induction reg.records using reverseRecOn with
  | nil => exact fun rec hmem => absurd hmem not_mem_nil
  | append_singleton recs rec ih =>
    rw [foldl_append, foldl_cons]
    exact best_prefer ih

lemma lookup_byName (h : (reg.byName orgID).lookup name = some rec) :
    rec ∈ reg.records ∧ rec.plugin.name = name ∧ UsableBy orgID rec := by
  have hbest := best_byName reg orgID name
  rw [h] at hbest
  exact ⟨hbest.1, hbest.2.1, hbest.2.2.1⟩

lemma mem_enabledForOrg_iff :
    rec ∈ reg.enabledForOrg orgID ↔ (reg.byName orgID).lookup rec.plugin.name = some rec := by
  unfold enabledForOrg
  rw [mem_insertionSort, mem_map]
  constructor
  · rintro ⟨⟨name, rec'⟩, hmem, rfl⟩
    have hlook : (reg.byName orgID).lookup name = some rec' := AList.mem_lookup_iff.mpr hmem
    obtain ⟨-, hname, -⟩ := lookup_byName hlook
    rw [hname]
    exact hlook
  · intro h
    exact ⟨⟨_, rec⟩, AList.mem_lookup_iff.mp h, rfl⟩

lemma mem_enabledForOrg (h : rec ∈ reg.enabledForOrg orgID) :
    rec ∈ reg.records ∧ UsableBy orgID rec := by
  obtain ⟨hmem, -, huse⟩ := lookup_byName (mem_enabledForOrg_iff.mp h)
  exact ⟨hmem, huse⟩

lemma eq_of_mem_enabledForOrg (h : rec ∈ reg.enabledForOrg orgID)
    (h' : rec' ∈ reg.enabledForOrg orgID) (hname : rec.plugin.name = rec'.plugin.name) :
    rec = rec' := by
  rw [mem_enabledForOrg_iff] at h h'
  rw [hname, h', Option.some.injEq] at h
  exact h.symm

def lower (name : String) (best : Option Record) (rec : Record) : Option Record :=
  if rec.plugin.name ≠ name then best
  else
    match best with
    | none => some rec
    | some b => if rec.orgID < b.orgID then some rec else best

def lookup (reg : Registry) (name : String) : Option Record :=
  match reg.all.lookup (recordKey "" name) with
  | some rec => some rec
  | none => reg.records.foldl (lower name) none

def Names (reg : Registry) (name : String) : Prop :=
  ∃ rec ∈ reg.records,
    rec.plugin.name = name ∨ recordKey rec.orgID rec.plugin.name = recordKey "" name

lemma foldl_lower {recs : List Record} {best : Option Record}
    (h : recs.foldl (lower name) best = some rec) :
    best = some rec ∨ (rec ∈ recs ∧ rec.plugin.name = name) := by
  induction recs generalizing best with
  | nil => exact Or.inl h
  | cons r recs ih =>
    rcases ih h with hbest | ⟨hmem, hname⟩
    · unfold lower at hbest
      split_ifs at hbest with hr
      · exact Or.inl hbest
      have hname : r.plugin.name = name := not_not.mp hr
      cases best with
      | none =>
        obtain rfl := Option.some.inj hbest
        exact Or.inr ⟨mem_cons_self, hname⟩
      | some b =>
        simp only at hbest
        split_ifs at hbest with hlt
        · obtain rfl := Option.some.inj hbest
          exact Or.inr ⟨mem_cons_self, hname⟩
        · exact Or.inl hbest
    · exact Or.inr ⟨mem_cons_of_mem _ hmem, hname⟩

lemma foldl_lower_eq_none {recs : List Record} {best : Option Record}
    (h : recs.foldl (lower name) best = none) :
    best = none ∧ ∀ rec ∈ recs, rec.plugin.name ≠ name := by
  induction recs generalizing best with
  | nil => exact ⟨h, by simp⟩
  | cons r recs ih =>
    obtain ⟨hlower, hrest⟩ := ih h
    unfold lower at hlower
    split_ifs at hlower with hr
    · exact ⟨hlower, forall_mem_cons.mpr ⟨hr, hrest⟩⟩
    cases best with
    | none => simp at hlower
    | some b =>
      simp only at hlower
      split_ifs at hlower

lemma mem_records_of_lookup (h : reg.lookup name = some rec) : rec ∈ reg.records ∧
      (rec.plugin.name = name ∨ recordKey rec.orgID rec.plugin.name = recordKey "" name) := by
  unfold lookup at h
  cases hall : reg.all.lookup (recordKey "" name) with
  | some rec' =>
    rw [hall] at h
    obtain rfl := Option.some.inj h
    have hkey := reg.keyed _ _ hall
    exact ⟨mem_records.mpr (hkey ▸ hall), Or.inr hkey.symm⟩
  | none =>
    rw [hall] at h
    rcases foldl_lower h with hnone | ⟨hmem, hname⟩
    · cases hnone
    · exact ⟨hmem, Or.inl hname⟩

lemma lookup_isSome_iff : (∃ rec, reg.lookup name = some rec) ↔ reg.Names name := by
  constructor
  · rintro ⟨rec, h⟩
    exact ⟨rec, mem_records_of_lookup h⟩
  · rintro ⟨rec, hmem, hname⟩
    by_contra hno
    have hnone : reg.lookup name = none := by
      rw [Option.eq_none_iff_forall_ne_some]
      exact fun rec' h => hno ⟨rec', h⟩
    unfold lookup at hnone
    cases hall : reg.all.lookup (recordKey "" name) with
    | some rec' =>
      rw [hall] at hnone
      cases hnone
    | none =>
      rw [hall] at hnone
      rcases hname with hname | hkey
      · exact (foldl_lower_eq_none hnone).2 rec hmem hname
      · rw [mem_records, hkey, hall] at hmem
        cases hmem

end Registry

def legacyDefaultOrgID : String := "default"

def normalizeOrgID (orgID : String) : String :=
  if orgID = legacyDefaultOrgID then "" else orgID

def referring (name secretRef : String) : Record where
  plugin :=
    { apiVersion := .v1alpha1
      kind := "EvalPlugin"
      name := name
      service :=
        { type := .webhook
          endpoint := "https://collect.example"
          auth := { secretRef := secretRef, keyRef := "api_key" } }
      send := { trigger := .onTrace, sampling := .num 1 }
      collect := { mode := .webhook } }
  source := { kind := .database }
  enabled := true
  orgID := "acme"

def judgeOf (orgID : String) : Record := { referring "judge" "judge" with orgID := orgID }

end FfxNexus.Evals
