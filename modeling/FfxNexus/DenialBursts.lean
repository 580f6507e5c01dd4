/-
**Denied attempts in bursts** (`AuditDenial` of `internal/core/store.go` over the partial unique
index of `migrations/postgres/019_audit_aggregation.sql`).
-/
import FfxNexus.Apierr

namespace FfxNexus.Denials
open Apierr List
open Adapters.OpenAISSE (Bytes ascii)

structure AuditEvent where
  actorID : Bytes := []
  orgID : Bytes := []
  action : Bytes := []
  targetID : Bytes := []
  detail : Bytes := []

structure Denial where
  event : AuditEvent
  fp : Bytes
  windowStart : ℤ
  requestID : Bytes := []
  clientRequestID : Bytes := []
  now : ℤ := 0

structure AuditRow where
  orgID : Bytes
  actor : Bytes
  action : Bytes
  targetID : Bytes
  detail : Bytes
  requestID : Bytes
  clientRequestID : Bytes
  count : ℕ
  firstAt : Option ℤ
  lastAt : Option ℤ
  fingerprint : Bytes

def AuditRow.key (row : AuditRow) : Bytes × Bytes × Bytes × Option ℤ :=
  (row.action, row.actor, row.fingerprint, row.firstAt)

def orElse (s : Bytes) (fallback : String) : Bytes := if s = [] then ascii fallback else s

/-- The organisation a denial is of. -/
def Denial.org (d : Denial) : Bytes := orElse d.event.orgID "default"

def Denial.row (d : Denial) : AuditRow where
  orgID := orElse (scrub d.event.orgID) "default"
  actor := orElse (scrub d.event.actorID) "system"
  action := orElse d.event.action "unknown"
  targetID := scrub d.event.targetID
  detail := scrub d.event.detail
  requestID := d.requestID.take 256
  clientRequestID := d.clientRequestID
  count := 1
  firstAt := some d.windowStart
  lastAt := some d.now
  fingerprint := d.fp.take 32

def upsert (excluded : AuditRow) : List AuditRow → List AuditRow
  | [] => [excluded]
  | row :: log =>
    -- the index has no row with a count of zero
    if 0 < row.count ∧ row.key = excluded.key then
      { row with
        count := row.count + 1
        lastAt := excluded.lastAt
        detail := excluded.detail
        requestID := excluded.requestID } :: log
    else row :: upsert excluded log

def auditDenial (log : List AuditRow) (d : Denial) : List AuditRow := upsert d.row log

def total (org : Bytes) (log : List AuditRow) : ℕ :=
  (log.map fun row => if row.orgID = org then row.count else 0).sum

/-- From a log without bursts, the counts of each org add up to the number of its denials. -/
def Counted (ds : List Denial) : Prop :=
  ∀ log, (∀ row ∈ log, row.count = 0) → ∀ org,
    total org (ds.foldl auditDenial log) = ds.countP fun d => d.org = org

/-! ## Bursts of one organisation -/

variable {log : List AuditRow} {excluded : AuditRow}

lemma total_upsert (hnew : excluded.count = 1)
    (hlog : ∀ row ∈ log, 0 < row.count → row.key = excluded.key → row.orgID = excluded.orgID)
    (org : Bytes) :
    total org (upsert excluded log) = total org log + if excluded.orgID = org then 1 else 0 := by
  induction log with
  | nil => simp [upsert, total, hnew]
  | cons row log ih =>
    obtain ⟨hrow, hlog⟩ := forall_mem_cons.mp hlog
    unfold upsert
    by_cases hburst : 0 < row.count ∧ row.key = excluded.key
    · have horg := hrow hburst.1 hburst.2
      simp only [if_pos hburst, total, map_cons, sum_cons, horg]
      split_ifs <;> omega
    · have hrest := ih hlog
      simp only [if_neg hburst, total, map_cons, sum_cons] at hrest ⊢
      omega

variable {traffic : Set Denial}

variable (traffic) in
/-- The bursts of the log are each of a key and an organisation of the traffic. -/
def Known (log : List AuditRow) : Prop :=
  ∀ row ∈ log, 0 < row.count →
    ∃ d ∈ traffic, row.key = d.row.key ∧ row.orgID = d.row.orgID

lemma Known.upsert (hlog : Known traffic log)
    (hnew : ∃ d ∈ traffic, excluded.key = d.row.key ∧ excluded.orgID = d.row.orgID) :
    Known traffic (upsert excluded log) := by
  induction log with
  | nil => exact forall_mem_singleton.mpr fun _ => hnew
  | cons row log ih =>
    obtain ⟨hrow, hrest⟩ := forall_mem_cons.mp hlog
    unfold Denials.upsert
    split_ifs with hburst
    · exact forall_mem_cons.mpr ⟨fun _ => hrow hburst.1, hrest⟩
    · exact forall_mem_cons.mpr ⟨hrow, ih hrest⟩

lemma total_run (hapart : ∀ d ∈ traffic, ∀ d' ∈ traffic, d.row.key = d'.row.key →
      d.row.orgID = d'.row.orgID)
    {ds : List Denial} (hds : ∀ d ∈ ds, d ∈ traffic) (hlog : Known traffic log)
    (org : Bytes) : total org (ds.foldl auditDenial log) =
      total org log + ds.countP fun d => d.row.orgID = org := by
  induction ds generalizing log with
  | nil => rfl
  | cons d ds ih =>
    obtain ⟨hd, hds⟩ := forall_mem_cons.mp hds
    have hsame : ∀ row ∈ log, 0 < row.count → row.key = d.row.key →
        row.orgID = d.row.orgID := by
      intro row hrow hcount hkey
      obtain ⟨d', hd', hkey', horg'⟩ := hlog row hrow hcount
      rw [horg']
      exact hapart d' hd' d hd (hkey'.symm.trans hkey)
    rw [foldl_cons, auditDenial, ih hds (hlog.upsert ⟨d, hd, rfl, rfl⟩),
      total_upsert rfl hsame, countP_cons]
    simp only [decide_eq_true_eq]
    omega

lemma row_orgID_iff (d : Denial) :
    d.row.orgID = d.org ↔ ∀ sig ∈ protectedSignatures, ¬ sig <:+: d.event.orgID := by
  rw [← scrub_eq_self_iff]
  have hdefault : scrub (ascii "default") = ascii "default" := by decide
  have hempty : scrub [] = [] := by decide
  unfold Denial.org Denial.row orElse
  constructor
  · intro h
    by_cases hnone : d.event.orgID = []
    · rw [hnone, hempty]
    simp only [if_neg hnone] at h
    split_ifs at h with hgone
    · rw [← h, hdefault]
    · exact h
  · intro h
    simp only [h]

/-- **Bursts are counted per organisation** exactly for traffic in which no organisation's id
changes in `Scrub` and no two organisations share the key of a burst. -/
theorem bursts_counted_iff (traffic : Set Denial) : (∀ ds, (∀ d ∈ ds, d ∈ traffic) → Counted ds) ↔
      (∀ d ∈ traffic, ∀ sig ∈ protectedSignatures, ¬ sig <:+: d.event.orgID) ∧
      ∀ d ∈ traffic, ∀ d' ∈ traffic, d.row.key = d'.row.key → d.org = d'.org := by
  constructor
  · intro hcounted
    have hstored : ∀ d ∈ traffic, d.row.orgID = d.org := by
      intro d hd
      have hone := hcounted [d] (by simp [hd]) [] (forall_mem_nil _) d.org
      by_contra horg
      simp [auditDenial, upsert, total, horg] at hone
    refine ⟨fun d hd => (row_orgID_iff d).mp (hstored d hd), fun d hd d' hd' hkey => ?_⟩
    by_contra horg
    have htwo := hcounted [d, d'] (by simp [hd, hd']) [] (forall_mem_nil _) d.org
    have hcount : d.row.count = 1 := rfl
    simp [auditDenial, upsert, total, hcount, hkey, hstored d hd, Ne.symm horg] at htwo
  · rintro ⟨hclean, hapart⟩ ds hds log hlog org
    have hstored : ∀ d ∈ traffic, d.row.orgID = d.org :=
      fun d hd => (row_orgID_iff d).mpr (hclean d hd)
    have hrows : ∀ d ∈ traffic, ∀ d' ∈ traffic, d.row.key = d'.row.key →
        d.row.orgID = d'.row.orgID := by
      intro d hd d' hd' hkey
      rw [hstored d hd, hstored d' hd']
      exact hapart d hd d' hd' hkey
    have hnone : total org log = 0 := by
      refine sum_eq_zero fun n hn => ?_
      obtain ⟨row, hrow, rfl⟩ := mem_map.mp hn
      rw [hlog row hrow, ite_self]
    have hbursts : Known traffic log :=
      fun row hrow hcount => absurd (hlog row hrow) hcount.ne'
    rw [total_run hrows hds hbursts, hnone, Nat.zero_add]
    refine countP_congr fun d hd => ?_
    rw [hstored d (hds d hd)]

/-- Two organisations in one burst, and one whose id contains a signature. -/
theorem burst_of_two_orgs :
    let denied (org : String) : Denial :=
      ⟨{ orgID := ascii org, action := ascii "rate_limited" }, [0x6d], 0, [], [], 0⟩
    let log := [denied "acme", denied "beta"].foldl auditDenial []
    total (ascii "acme") log = 2 ∧ total (ascii "beta") log = 0 ∧
      total (ascii "helpdesk-eu") ([denied "helpdesk-eu"].foldl auditDenial []) = 0 := by
  decide

end FfxNexus.Denials
