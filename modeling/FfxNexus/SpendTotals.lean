/-
**Spend and statistics** (`DailySpendByDay`, `DailySpendSummary` and `WindowStatsRange` of
`internal/observability/reader.go`) over the rows of `gateway_traces`. Costs are rationals, times
are nanoseconds, and the zero time is `none`.
-/
import Mathlib.Algebra.BigOperators.Group.Finset.Piecewise
import Mathlib.Algebra.GroupWithZero.Nat
import Mathlib.Algebra.Order.Ring.Rat
import Mathlib.Data.Finset.Sort

namespace FfxNexus.SpendTotals
open List

/-! ## The three queries -/

structure TraceRow where
  orgID : String
  userID : String
  timestamp : ℤ
  inputTokens : ℕ
  outputTokens : ℕ
  costUSD : ℚ
  cacheHit : Bool

def defaultOrgID : String := "default"

def hour : ℤ := 3600 * 10 ^ 9

def orgScopeClause (orgID : String) (row : TraceRow) : Bool :=
  if orgID = defaultOrgID then row.orgID = orgID || row.orgID = "" else row.orgID = orgID

/-- The rest of all three `WHERE` clauses: the window and the user, if one is given. -/
def inWindow (since before : ℤ) (userID : String) (row : TraceRow) : Bool :=
  since ≤ row.timestamp && row.timestamp < before && (userID = "" || row.userID = userID)

def spent (orgID : String) (since before : ℤ) (userID : String) (row : TraceRow) : Bool :=
  row.orgID = orgID && inWindow since before userID row

structure Spend where
  costUSD : ℚ
  tokens : ℕ
  requests : ℕ
  cacheHits : ℕ

variable (rows : List TraceRow)

def sums : Spend where
  costUSD := (rows.map (·.costUSD)).sum
  tokens := (rows.map fun r => r.inputTokens + r.outputTokens).sum
  requests := rows.length
  cacheHits := rows.countP (·.cacheHit)

def toStartOfDay (row : TraceRow) : ℤ := row.timestamp / (24 * hour) * (24 * hour)

def dailySpendByDay (since before : ℤ) (orgID userID : String) :
    List (ℤ × Spend) :=
  let rows := rows.filter (spent orgID since before userID)
  ((rows.map toStartOfDay).toFinset.sort (· ≤ ·)).map fun day =>
    (day, sums (rows.filter (toStartOfDay · = day)))

/-- The query of `DailySpendSummary`, for its current window and the one before. -/
def summaryQuery (orgID : String)
    (curSince curUntil prevSince prevUntil : ℤ) (userID : String) : Spend × Spend :=
  (sums (rows.filter (spent orgID curSince curUntil userID)),
    sums (rows.filter (spent orgID prevSince prevUntil userID)))

def counted (orgID : String) (since before : ℤ) (userID : String) (row : TraceRow) : Bool :=
  orgScopeClause orgID row && inWindow since before userID row

structure Stats where
  totalRequests : ℕ
  totalInputTokens : ℕ
  totalOutputTokens : ℕ
  totalTokens : ℕ
  totalCostUSD : ℚ
  cacheHits : ℕ

def windowStatsRange (now : ℤ) (before since : Option ℤ)
    (orgID userID : String) : Stats :=
  let before := before.getD now
  let since := since.getD (before - hour)
  let rows := rows.filter (counted orgID since before userID)
  let input := (rows.map (·.inputTokens)).sum
  let output := (rows.map (·.outputTokens)).sum
  { totalRequests := rows.length, totalInputTokens := input, totalOutputTokens := output
    totalTokens := input + output, totalCostUSD := (rows.map (·.costUSD)).sum
    cacheHits := rows.countP (·.cacheHit) }

/-! ## Sums by day -/

lemma sum_map_filter_key {α M : Type} [AddCommMonoid M] (key : α → ℤ) (f : α → M)
    (keys : Finset ℤ) (l : List α) :
    ∑ k ∈ keys, ((l.filter (key · = k)).map f).sum = ((l.filter (key · ∈ keys)).map f).sum := by
  induction l with
  | nil => simp
  | cons a l ih =>
    have hsplit : ∀ k, (((a :: l).filter (key · = k)).map f).sum =
        (if key a = k then f a else 0) + ((l.filter (key · = k)).map f).sum := by
      intro k
      by_cases hk : key a = k
      · simp [hk]
      · simp [hk]
    simp only [hsplit]
    rw [Finset.sum_add_distrib, ih]
    by_cases ha : key a ∈ keys
    · simp [ha]
    · simp [ha]

/-- The rows of the days add up to the sum over the window, for whatever is summed. -/
lemma sum_days {M : Type} [AddCommMonoid M] (g : Spend → M) (f : TraceRow → M)
    (hg : ∀ rows, g (sums rows) = (rows.map f).sum) (rows : List TraceRow) (since before : ℤ)
    (orgID userID : String) :
    ((dailySpendByDay rows since before orgID userID).map fun d => g d.2).sum =
      g (sums (rows.filter (spent orgID since before userID))) := by
  unfold dailySpendByDay
  rw [hg, map_map, ((Finset.sort_perm_toList _ _).map _).sum_eq, Finset.sum_map_toList]
  simp only [Function.comp_apply, hg]
  rw [sum_map_filter_key, filter_eq_self.mpr]
  exact fun a ha => decide_eq_true (mem_toFinset.mpr (mem_map_of_mem ha))

/-! ## The same traffic -/

def Agree (now : ℤ) (orgID userID : String) (since before : ℤ) : Prop :=
  let days := dailySpendByDay rows since before orgID userID
  let stats := windowStatsRange rows now (some before) (some since) orgID userID
  ∀ prevSince prevUntil,
    let cur := (summaryQuery rows orgID since before prevSince prevUntil userID).1
    ((days.map (·.2.costUSD)).sum = cur.costUSD ∧ cur.costUSD = stats.totalCostUSD) ∧
      ((days.map (·.2.requests)).sum = cur.requests ∧ cur.requests = stats.totalRequests) ∧
      ((days.map (·.2.tokens)).sum = cur.tokens ∧ cur.tokens = stats.totalTokens)

lemma orgScopeClause_iff (orgID : String) (row : TraceRow) :
    orgScopeClause orgID row ↔ row.orgID = orgID ∨ orgID = defaultOrgID ∧ row.orgID = "" := by
  unfold orgScopeClause
  by_cases h : orgID = defaultOrgID
  · simp [h]
  · simp [h]

lemma counted_of_spent {orgID userID : String} {since before : ℤ} {row : TraceRow}
    (h : spent orgID since before userID row) : counted orgID since before userID row := by
  unfold spent at h
  unfold counted
  rw [Bool.and_eq_true, decide_eq_true_iff] at h
  rw [Bool.and_eq_true, orgScopeClause_iff]
  exact ⟨.inl h.1, h.2⟩

lemma spent_of_counted_iff {orgID userID : String} {since before : ℤ} {row : TraceRow} :
    (counted orgID since before userID row → spent orgID since before userID row) ↔
      (orgID = defaultOrgID → inWindow since before userID row → row.orgID ≠ "") := by
  unfold counted spent
  rw [Bool.and_eq_true, Bool.and_eq_true, decide_eq_true_iff, orgScopeClause_iff]
  constructor
  · rintro h rfl hwindow hempty
    exact absurd ((h ⟨.inr ⟨rfl, hempty⟩, hwindow⟩).1.symm.trans hempty) (by decide)
  · rintro h ⟨horg | ⟨hdefault, hempty⟩, hwindow⟩
    · exact ⟨horg, hwindow⟩
    · exact absurd hempty (h hdefault hwindow)

/-- **The same totals**, for every organisation but the default one; for that one if its window
holds no row without an organisation. -/
theorem totals_agree_iff (now : ℤ) (orgID userID : String)
    (since before : ℤ) : Agree rows now orgID userID since before ↔
      (orgID = defaultOrgID → ∀ r ∈ rows, inWindow since before userID r → r.orgID ≠ "") := by
  constructor
  · intro h hdefault r hr
    -- every row is one request, so equal numbers of requests leave no row counted and not spent
    have hsub : rows.filter (spent orgID since before userID) <+
        rows.filter (counted orgID since before userID) :=
      monotone_filter_right rows fun _ => counted_of_spent
    have heq := hsub.eq_of_length (h 0 0).2.1.2
    refine spent_of_counted_iff.mp (fun hcounted => ?_) hdefault
    have hmem := mem_filter.mpr ⟨hr, hcounted⟩
    rw [← heq] at hmem
    exact (mem_filter.mp hmem).2
  · intro h prevSince prevUntil
    have heq : rows.filter (counted orgID since before userID) =
        rows.filter (spent orgID since before userID) := filter_congr fun r hr =>
      Bool.eq_iff_iff.mpr
        ⟨spent_of_counted_iff.mpr fun hdefault => h hdefault r hr, counted_of_spent⟩
    refine ⟨⟨sum_days (·.costUSD) (·.costUSD) (fun _ => rfl) rows since before orgID userID, ?_⟩,
      ⟨sum_days (·.requests) (fun _ => 1) (fun _ => by simp [sums]) rows since before orgID userID,
        ?_⟩, ⟨sum_days (·.tokens) _ (fun _ => rfl) rows since before orgID userID, ?_⟩⟩
    · simp [windowStatsRange, heq, summaryQuery, sums]
    · simp [windowStatsRange, heq, summaryQuery, sums]
    · simp [windowStatsRange, heq, summaryQuery, sums]

theorem unattributed_row_disagrees :
    ¬ Agree [⟨"", "ann", 5, 1, 1, 2, false⟩] 10 "default" "" 0 10 := by
  intro h
  exact absurd (h 0 0).2.1.2 (by decide)

end FfxNexus.SpendTotals
