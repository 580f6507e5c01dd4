/-
**The scores that vendors send back** (`internal/evaluators/external/collector.go`, `Apply` of
`dispatcher.go`).
-/
import FfxNexus.Evals.Plugin
import FfxNexus.Json

namespace FfxNexus.Evals
open Json Option

structure Score where
  traceID : String
  orgID : String := ""
  evaluator : String
  metric : String
  score : ℚ
  passed : Bool
  rationale : String
  timestamp : ℤ

def pickString (m : Fields) : List String → String
  | [] => ""
  | k :: keys =>
    if k = "" then pickString m keys
    else
      match field m k with
      | some (.str s) => if s = "" then pickString m keys else s
      | _ => pickString m keys

def pickFloat (m : Fields) (key : String) (fallback : ℚ) : ℚ :=
  if key = "" then fallback
  else
    match field m key with
    | some (.num q) => q
    | _ => fallback

def passes (score : ℚ) (label : String) : Bool :=
  if label.toLower ∈ ["pass", "true", "1"] then true
  else if label.toLower ∈ ["fail", "false", "0"] then false
  else decide (1 / 2 ≤ score)

def decodeObject : Option Value → Option Fields
  | some (.obj fields) => some fields
  | some .null => some []
  | _ => none

variable (now : ℤ)

def apply (raw : Option Value) (mapping : ResultMapping) (pluginName : String) :
    Except String Score :=
  match decodeObject raw with
  | none => .error "decode vendor json"
  | some parsed =>
    let score := pickFloat parsed mapping.score 0
    .ok
      { traceID := pickString parsed [mapping.traceID, "trace_id"]
        evaluator := "plugin:" ++ pluginName
        metric := pickString parsed [mapping.name, mapping.metric, "name"]
        score := score
        passed := passes score (pickString parsed [mapping.label])
        rationale := pickString parsed [mapping.explanation, "comment"]
        timestamp := now }

def unattributedOrgID : String := "unattributed"

structure Collector where
  registry : Registry
  sink : Bool := true
  orgs : Option (String → Option String) := none

namespace Collector

variable (c : Collector)

def orgForTrace (traceID : String) : Option String :=
  if blank traceID then none else c.orgs.bind fun resolver => resolver traceID

def attributeOrg (pluginOrg traceID : String) : String :=
  let pluginOrg := normalizeOrgID pluginOrg
  let traceOrg :=
    match c.orgForTrace traceID with
    | some org => normalizeOrgID org
    | none => ""
  if traceOrg ≠ "" ∧ pluginOrg ≠ "" ∧ traceOrg ≠ pluginOrg then unattributedOrgID
  else if traceOrg ≠ "" then traceOrg
  else if pluginOrg ≠ "" then pluginOrg
  else unattributedOrgID

def scoreFor (p : Plugin) (pluginOrg : String) (raw : Option Value) :
    Option Score :=
  match apply now raw p.collect.mapping p.name with
  | .error _ => none
  | .ok sc => some { sc with orgID := c.attributeOrg pluginOrg sc.traceID }

def applyAllForOrg (p : Plugin) (pluginOrg : String)
    (payloads : List (Option Value)) : List Score :=
  if c.sink = false then [] else (payloads.take 1000).filterMap (c.scoreFor now p pluginOrg)

def bodyRecords : Option Value → List (Option Value)
  | some (.arr items) => items.map some
  | some .null => []
  | raw => [raw]

def webhook (pluginName : String) (body : Except String (Option Value)) :
    Except String (List Score) :=
  if c.sink = false then .error "sink is not configured"
  else
    match c.registry.lookup pluginName with
    | none => .error ("plugin " ++ pluginName.quote ++ " not loaded")
    | some rec =>
      if rec.plugin.collect.mode ≠ .webhook then
        .error ("plugin " ++ pluginName.quote ++ " is not in webhook collect mode")
      else
        match body with
        | .error err => .error err
        | .ok raw => .ok (c.applyAllForOrg now rec.plugin rec.orgID (bodyRecords raw))

end Collector

inductive Delivery
  | webhook (pluginName : String) (body : Except String (Option Value))
  | page (rec : Record) (payloads : List (Option Value))

namespace Collector

def written (c : Collector) (now : ℤ) : Delivery → List Score
  | .webhook pluginName body => (c.webhook now pluginName body).toOption.getD []
  | .page rec payloads => c.applyAllForOrg now rec.plugin rec.orgID payloads

def Shared (c : Collector) (name : String) : Prop :=
  ∃ rec ∈ c.registry.records, ∃ rec' ∈ c.registry.records,
    rec.plugin.name = name ∧ rec'.plugin.name = name ∧ rec.orgID ≠ rec'.orgID

structure Attributed (c : Collector) (sc : Score) : Prop where
  resolved : ∀ org, c.orgForTrace sc.traceID = some org →
    sc.orgID = org ∨ sc.orgID = unattributedOrgID
  unresolved : ∀ name, sc.evaluator = "plugin:" ++ name → c.orgForTrace sc.traceID = none →
    c.Shared name → sc.orgID = unattributedOrgID

def namedTrace (mapping : ResultMapping) (raw : Option Value) : Option String :=
  (decodeObject raw).map fun parsed => pickString parsed [mapping.traceID, "trace_id"]

def Attributable (c : Collector) (name traceID : String) : Prop :=
  (∃ org, c.orgForTrace traceID = some org ∧ normalizeOrgID org ≠ "") ∨
    (c.orgForTrace traceID = none ∧ ¬ c.Shared name)

def Unowned (orgID : String) : Prop :=
  normalizeOrgID orgID = "" ∨ normalizeOrgID orgID = unattributedOrgID

lemma normalizeOrgID_eq {orgID : String} (h : normalizeOrgID orgID ≠ "") :
    normalizeOrgID orgID = orgID := by
  unfold normalizeOrgID at h ⊢
  by_cases hdefault : orgID = legacyDefaultOrgID
  · rw [if_pos hdefault] at h
    exact absurd rfl h
  · rw [if_neg hdefault]

section
variable {c : Collector} {pluginOrg traceID : String}

lemma attributeOrg_of_known {org : String} (hknown : c.orgForTrace traceID = some org)
    (horg : normalizeOrgID org ≠ "") : c.attributeOrg pluginOrg traceID = org ∨
      c.attributeOrg pluginOrg traceID = unattributedOrgID := by
  unfold attributeOrg
  simp only [hknown]
  split_ifs
  · exact Or.inr rfl
  · exact Or.inl (normalizeOrgID_eq horg)

lemma attributeOrg_of_unknown
    (hunknown : ∀ org, c.orgForTrace traceID = some org → normalizeOrgID org = "") :
    c.attributeOrg pluginOrg traceID =
      if normalizeOrgID pluginOrg ≠ "" then normalizeOrgID pluginOrg else unattributedOrgID := by
  have htrace : (match c.orgForTrace traceID with
      | some org => normalizeOrgID org
      | none => "") = "" := by
    cases horg : c.orgForTrace traceID with
    | none => rfl
    | some org => exact hunknown org horg
  unfold attributeOrg
  simp only [htrace, ne_eq, not_true_eq_false, false_and, if_false]

lemma attributed_iff {sc : Score} {name : String} (hname : sc.evaluator = "plugin:" ++ name)
    (horg : sc.orgID = c.attributeOrg pluginOrg sc.traceID) :
    c.Attributed sc ↔ Unowned pluginOrg ∨ c.Attributable name sc.traceID := by
  by_cases hknown : ∃ org, c.orgForTrace sc.traceID = some org ∧ normalizeOrgID org ≠ ""
  · obtain ⟨org, hsome, hne⟩ := hknown
    refine ⟨fun _ => Or.inr (Or.inl ⟨org, hsome, hne⟩), fun _ => ⟨?_, ?_⟩⟩
    · intro org' hsome'
      obtain rfl : org = org' := some.inj (hsome.symm.trans hsome')
      rw [horg]
      exact attributeOrg_of_known hsome hne
    · intro _ _ hnone
      rw [hsome] at hnone
      cases hnone
  have hunknown : ∀ org, c.orgForTrace sc.traceID = some org → normalizeOrgID org = "" := by
    intro org hsome
    by_contra hne
    exact hknown ⟨org, hsome, hne⟩
  rw [attributeOrg_of_unknown hunknown] at horg
  by_cases hunowned : Unowned pluginOrg
  · have hnobody : sc.orgID = unattributedOrgID := by
      rw [horg]
      split_ifs with hempty
      · exact hunowned.resolve_left hempty
      · rfl
    exact ⟨fun _ => Or.inl hunowned, fun _ => ⟨fun _ _ => Or.inr hnobody, fun _ _ _ _ => hnobody⟩⟩
  · obtain ⟨hempty, hnobody⟩ := not_or.mp hunowned
    rw [if_pos hempty] at horg
    have hwritten : sc.orgID ≠ unattributedOrgID := horg ▸ hnobody
    constructor
    · intro hattr
      have hnone : c.orgForTrace sc.traceID = none := by
        rw [eq_none_iff_forall_ne_some]
        intro org hsome
        have heq : normalizeOrgID pluginOrg = org :=
          horg.symm.trans ((hattr.resolved org hsome).resolve_right hwritten)
        have hempty' := hunknown org hsome
        rw [← heq, normalizeOrgID_eq hempty] at hempty'
        exact hempty hempty'
      exact Or.inr (Or.inr ⟨hnone, fun h => hwritten (hattr.unresolved name hname hnone h)⟩)
    · rintro (h | h | ⟨hnone, hshared⟩)
      · exact absurd h hunowned
      · exact absurd h hknown
      refine ⟨fun org hsome => ?_, fun name' hname' _ h => ?_⟩
      · rw [hnone] at hsome
        cases hsome
      · rw [hname, String.append_right_inj] at hname'
        exact absurd (hname' ▸ h) hshared

lemma mem_applyAllForOrg {now : ℤ} {p : Plugin} {payloads : List (Option Value)} {sc : Score} :
    sc ∈ c.applyAllForOrg now p pluginOrg payloads ↔ c.sink = true ∧
      ∃ raw ∈ payloads.take 1000, c.scoreFor now p pluginOrg raw = some sc := by
  unfold applyAllForOrg
  cases c.sink with
  | false => simp
  | true => simp [List.mem_filterMap]

lemma scoreFor_eq_some {now : ℤ} {p : Plugin} {raw : Option Value} {sc : Score}
    (h : c.scoreFor now p pluginOrg raw = some sc) :
    namedTrace p.collect.mapping raw = some sc.traceID ∧ sc.evaluator = "plugin:" ++ p.name ∧
      sc.orgID = c.attributeOrg pluginOrg sc.traceID := by
  unfold scoreFor apply at h
  unfold namedTrace
  cases hraw : decodeObject raw with
  | none =>
    rw [hraw] at h
    cases h
  | some parsed =>
    simp only [hraw, some.injEq] at h
    rw [← h]
    simp only [map_some, and_self]

lemma exists_scoreFor {p : Plugin} {raw : Option Value} (now : ℤ)
    (h : namedTrace p.collect.mapping raw = some traceID) :
    ∃ sc, c.scoreFor now p pluginOrg raw = some sc ∧ sc.traceID = traceID := by
  unfold namedTrace at h
  unfold scoreFor apply
  cases hraw : decodeObject raw with
  | none =>
    rw [hraw] at h
    cases h
  | some parsed =>
    rw [hraw] at h
    exact ⟨_, rfl, some.inj h⟩

def AttributableAll (c : Collector) (rec : Record) (payloads : List (Option Value)) : Prop :=
  c.sink = true → ¬ Unowned rec.orgID → ∀ raw ∈ payloads.take 1000, ∀ traceID,
    namedTrace rec.plugin.collect.mapping raw = some traceID →
      c.Attributable rec.plugin.name traceID

lemma applyAllForOrg_attributed_iff (rec : Record) (payloads : List (Option Value)) :
    (∀ sc ∈ c.applyAllForOrg now rec.plugin rec.orgID payloads, c.Attributed sc) ↔
      c.AttributableAll rec payloads := by
  constructor
  · intro h hsink howned raw hraw traceID htrace
    obtain ⟨sc, hsc, rfl⟩ : ∃ sc, c.scoreFor now rec.plugin rec.orgID raw = some sc ∧
        sc.traceID = traceID := exists_scoreFor now htrace
    have hattr := h sc (mem_applyAllForOrg.mpr ⟨hsink, raw, hraw, hsc⟩)
    obtain ⟨-, hname, horg⟩ := scoreFor_eq_some hsc
    exact ((attributed_iff hname horg).mp hattr).resolve_left howned
  · intro h sc hsc
    obtain ⟨hsink, raw, hraw, hscore⟩ := mem_applyAllForOrg.mp hsc
    obtain ⟨htrace, hname, horg⟩ := scoreFor_eq_some hscore
    rw [attributed_iff hname horg]
    by_cases hunowned : Unowned rec.orgID
    · exact Or.inl hunowned
    · exact Or.inr (h hsink hunowned raw hraw _ htrace)

end

def Sound (c : Collector) : Delivery → Prop
  | .webhook pluginName body => ∀ rec raw, c.registry.lookup pluginName = some rec →
      rec.plugin.collect.mode = .webhook → body = .ok raw → c.AttributableAll rec (bodyRecords raw)
  | .page rec payloads => c.AttributableAll rec payloads

theorem scores_attributed_iff (c : Collector) (now : ℤ) (d : Delivery) :
    (∀ sc ∈ c.written now d, c.Attributed sc) ↔ c.Sound d := by
  cases d with
  | page rec payloads => exact applyAllForOrg_attributed_iff now rec payloads
  | webhook pluginName body =>
    have hsilent : (∀ sc ∈ ([] : List Score), c.Attributed sc) := by simp
    show (∀ sc ∈ (c.webhook now pluginName body).toOption.getD [], c.Attributed sc) ↔
      ∀ rec raw, _ → _ → _ → c.AttributableAll rec (bodyRecords raw)
    unfold webhook
    split_ifs with hsink
    · refine ⟨fun _ rec raw _ _ _ hsink' => ?_, fun _ => hsilent⟩
      rw [hsink] at hsink'
      cases hsink'
    cases hlookup : c.registry.lookup pluginName with
    | none => exact ⟨fun _ rec raw h => (by cases h), fun _ => hsilent⟩
    | some rec =>
      simp only
      by_cases hmode : rec.plugin.collect.mode = .webhook
      · rw [if_neg (not_not.mpr hmode)]
        cases body with
        | error err => exact ⟨fun _ rec' raw _ _ h => (by cases h), fun _ => hsilent⟩
        | ok raw =>
          show (∀ sc ∈ c.applyAllForOrg now rec.plugin rec.orgID (bodyRecords raw), _) ↔ _
          rw [applyAllForOrg_attributed_iff now rec (bodyRecords raw)]
          constructor
          · rintro h rec' raw' hrec - hraw
            obtain rfl := some.inj hrec
            obtain rfl := Except.ok.inj hraw
            exact h
          · intro h
            exact h rec raw rfl hmode rfl
      · rw [if_pos hmode]
        refine ⟨fun _ rec' raw hrec hmode' => ?_, fun _ => hsilent⟩
        obtain rfl := some.inj hrec
        exact absurd hmode' hmode

def twoJudges : Collector where
  registry := (Registry.new.put (judgeOf "acme")).put (judgeOf "globex")

theorem score_given_to_first_tenant :
    ¬ ∀ (c : Collector) (now : ℤ) (d : Delivery), ∀ sc ∈ c.written now d, c.Attributed sc := by
  intro h
  have hwritten : twoJudges.written 0
      (.webhook "judge" (.ok (some (.obj [("trace_id", .str "t-1")])))) =
      twoJudges.applyAllForOrg 0 (judgeOf "acme").plugin (judgeOf "acme").orgID
        [some (.obj [("trace_id", .str "t-1")])] := by
    rfl
  have hall := h twoJudges 0 (.webhook "judge" (.ok (some (.obj [("trace_id", .str "t-1")]))))
  rw [hwritten, applyAllForOrg_attributed_iff] at hall
  have hshared : twoJudges.Shared "judge" :=
    ⟨judgeOf "acme", by decide, judgeOf "globex", by decide, rfl, rfl, by decide⟩
  have hunowned : ¬ Unowned (judgeOf "acme").orgID := by
    unfold Unowned
    decide
  rcases hall rfl hunowned _ (List.mem_singleton_self _) "t-1" (by decide) with
    ⟨org, hsome, -⟩ | ⟨-, hno⟩
  · cases hsome
  · exact hno hshared

end Collector

end FfxNexus.Evals
