/-
**Buckets of the dashboard** (`BucketIntervalForWindow`, `denseGrid` and the `fillDense` family of
`internal/observability`), for rows grouped by the start of their interval. Times are nanoseconds
since the epoch, costs are rationals.
-/
import FfxNexus.SpendTotals
import Mathlib.Algebra.Ring.Divisibility.Basic

namespace FfxNexus.Charts
open List SpendTotals

/-! ## The grid -/

def second : ℤ := 10 ^ 9

def bucketIntervalForWindow (window : ℤ) : ℤ :=
  if window ≤ hour then 60 * second
  else if window ≤ 24 * hour then 300 * second
  else if window ≤ 7 * (24 * hour) then hour
  else if window ≤ 30 * (24 * hour) then 6 * hour
  else 24 * hour

def truncate (t interval : ℤ) : ℤ := t / interval * interval

def gridFrom (interval before t : ℤ) : List ℤ :=
  if t < before ∧ 0 < interval then t :: gridFrom interval before (t + interval) else []
termination_by (before - t).toNat

def gridStart (since interval : ℤ) : ℤ :=
  if truncate since interval < since then truncate since interval + interval
  else truncate since interval

def denseGrid (since before interval : ℤ) : List ℤ :=
  gridFrom interval before (gridStart since interval)

def unix (t : ℤ) : ℤ := t / second

def fillDense {M : Type} [Zero M] (sparse : List (ℤ × M)) (since before interval : ℤ) :
    List (ℤ × M) :=
  if interval ≤ 0 ∨ before ≤ since then sparse
  else
    let byUnix := sparse.map fun b =>
      (unix (truncate b.1 interval), truncate b.1 interval, b.2)
    (denseGrid since before interval).map fun t =>
      -- the last bucket written under a key stays
      ((byUnix.reverse.find? (·.1 = unix t)).map Prod.snd).getD (t, 0)

def fillDenseVolumeBuckets : List (ℤ × ℕ × ℕ) → ℤ → ℤ → ℤ → List (ℤ × ℕ × ℕ) := fillDense

def fillDenseTokenBuckets : List (ℤ × ℕ × ℕ) → ℤ → ℤ → ℤ → List (ℤ × ℕ × ℕ) := fillDense

def fillDenseCostBuckets : List (ℤ × ℚ) → ℤ → ℤ → ℤ → List (ℤ × ℚ) := fillDense

def fillDenseCacheBuckets : List (ℤ × ℕ × ℕ) → ℤ → ℤ → ℤ → List (ℤ × ℕ × ℕ) := fillDense

/-! ## The rows and their groups -/

structure Row where
  timestamp : ℤ
  ok : Bool
  input : ℕ
  output : ℕ
  usd : ℚ
  hit : Bool

def volume (r : Row) : ℕ × ℕ := if r.ok then (1, 0) else (0, 1)

def tokens (r : Row) : ℕ × ℕ := (r.input, r.output)

def cache (r : Row) : ℕ × ℕ := (if r.hit then 1 else 0, 1)

variable {M : Type} [AddCommMonoid M] {f : Row → M} {rows : List Row}
variable {since before interval t x : ℤ}

def groups (interval : ℤ) (f : Row → M) (rows : List Row) : List (ℤ × M) :=
  (rows.map fun r => truncate r.timestamp interval).dedup.map fun t =>
    (t, ((rows.filter fun r => truncate r.timestamp interval = t).map f).sum)

def Conserves (fill : List (ℤ × M) → ℤ → ℤ → ℤ → List (ℤ × M)) (f : Row → M) (rows : List Row)
    (since before : ℤ) : Prop :=
  let interval := bucketIntervalForWindow (before - since)
  let dense := fill (groups interval f rows) since before interval
  dense.Pairwise (·.1 < ·.1) ∧ (dense.map (·.2)).sum = (rows.map f).sum

def ChartsConserve (rows : List Row) (since before : ℤ) : Prop :=
  Conserves fillDenseVolumeBuckets volume rows since before ∧
    Conserves fillDenseTokenBuckets tokens rows since before ∧
    Conserves fillDenseCostBuckets Row.usd rows since before ∧
    Conserves fillDenseCacheBuckets cache rows since before

lemma interval_pos (window : ℤ) : 0 < bucketIntervalForWindow window ∧
    second ∣ bucketIntervalForWindow window := by
  unfold bucketIntervalForWindow
  split_ifs <;> decide

lemma mem_gridFrom (hpos : 0 < interval) :
    x ∈ gridFrom interval before t ↔ t ≤ x ∧ x < before ∧ interval ∣ x - t := by
  fun_induction gridFrom interval before t with
  | case1 t h ih =>
    have hshift : interval ∣ x - (t + interval) ↔ interval ∣ x - t := by
      rw [← sub_sub, dvd_sub_self_right]
    rw [mem_cons, ih, hshift]
    constructor
    · rintro (rfl | ⟨hle, hlt, hdvd⟩)
      · exact ⟨le_rfl, h.1, by simp⟩
      · exact ⟨by omega, hlt, hdvd⟩
    · rintro ⟨hle, hlt, hdvd⟩
      rcases hle.eq_or_lt with heq | hgt
      · exact .inl heq.symm
      · have := Int.le_of_dvd (by omega) hdvd
        exact .inr ⟨by omega, hlt, hdvd⟩
  | case2 t h =>
    refine iff_of_false not_mem_nil ?_
    rintro ⟨hle, hlt, -⟩
    exact h ⟨by omega, hpos⟩

lemma pairwise_gridFrom : (gridFrom interval before t).Pairwise (· < ·) := by
  fun_induction gridFrom interval before t with
  | case1 t h ih =>
    refine pairwise_cons.mpr ⟨fun x hx => ?_, ih⟩
    have := ((mem_gridFrom h.2).mp hx).1
    omega
  | case2 t h => exact .nil

lemma dvd_truncate : interval ∣ truncate t interval := dvd_mul_left _ _

lemma dvd_gridStart : interval ∣ gridStart since interval := by
  unfold gridStart
  split
  · exact dvd_add dvd_truncate dvd_rfl
  · exact dvd_truncate

/-- Among the starts of intervals, the grid has those in the window. -/
lemma mem_denseGrid (hpos : 0 < interval) (hx : interval ∣ x) :
    x ∈ denseGrid since before interval ↔ since ≤ x ∧ x < before := by
  have hle : gridStart since interval ≤ x ↔ since ≤ x := by
    have hlow := Int.ediv_mul_le since hpos.ne'
    have hhigh := Int.lt_ediv_add_one_mul_self since hpos
    rw [add_mul] at hhigh
    unfold gridStart truncate
    split
    · refine ⟨fun h => by omega, fun h => ?_⟩
      have := Int.le_of_dvd (a := interval) (b := x - since / interval * interval) (by omega)
        (dvd_sub hx (dvd_mul_left _ _))
      omega
    · omega
  unfold denseGrid
  rw [mem_gridFrom hpos, hle]
  exact ⟨fun h => ⟨h.1, h.2.1⟩, fun h => ⟨h.1, h.2, dvd_sub hx dvd_gridStart⟩⟩

lemma unix_injOn {y : ℤ} (hsec : second ∣ interval) (hx : interval ∣ x) (hy : interval ∣ y)
    (h : unix x = unix y) : x = y := by
  unfold unix at h
  rw [← Int.ediv_mul_cancel (hsec.trans hx), h, Int.ediv_mul_cancel (hsec.trans hy)]

lemma truncate_truncate (hpos : 0 < interval) :
    truncate (truncate t interval) interval = truncate t interval := by
  unfold truncate
  rw [Int.mul_ediv_cancel _ hpos.ne']

lemma fillDense_groups (hpos : 0 < interval) (hsec : second ∣ interval) (hlt : since < before) :
    fillDense (groups interval f rows) since before interval =
      (denseGrid since before interval).map fun t =>
        (t, ((rows.filter fun r => truncate r.timestamp interval = t).map f).sum) := by
  unfold fillDense
  rw [if_neg (by omega)]
  refine map_congr_left fun t ht => ?_
  have hdvd : interval ∣ t := (dvd_sub_left dvd_gridStart).mp ((mem_gridFrom hpos).mp ht).2.2
  cases hfind : find? _ _ with
  | none =>
    have hnone : rows.filter (fun r => truncate r.timestamp interval = t) = [] := by
      refine filter_eq_nil_iff.mpr fun r hr heq => find?_eq_none.mp hfind _ (mem_reverse.mpr <|
        mem_map_of_mem (mem_map_of_mem (mem_dedup.mpr (mem_map_of_mem hr)))) ?_
      exact decide_eq_true (congrArg unix ((truncate_truncate hpos).trans (of_decide_eq_true heq)))
    rw [hnone]
    rfl
  | some b =>
    have hkey := find?_some hfind
    have hmem := mem_reverse.mp (mem_of_find?_eq_some hfind)
    obtain ⟨g, hg, rfl⟩ := mem_map.mp hmem
    obtain ⟨s, hs, rfl⟩ := mem_map.mp hg
    obtain ⟨r, -, rfl⟩ := mem_map.mp (mem_dedup.mp hs)
    rw [decide_eq_true_iff, truncate_truncate hpos] at hkey
    rw [Option.map_some, Option.getD_some, truncate_truncate hpos,
      unix_injOn hsec dvd_truncate hdvd hkey]

/-! ## Conservation -/

/-- Every chart shows the rows whose interval starts in the window. -/
lemma fillDense_eq (f : Row → M) (rows : List Row) (hlt : since < before) :
    let interval := bucketIntervalForWindow (before - since)
    let dense := fillDense (groups interval f rows) since before interval
    dense.Pairwise (·.1 < ·.1) ∧ (dense.map (·.2)).sum = ((rows.filter fun r =>
      truncate r.timestamp interval ∈ denseGrid since before interval).map f).sum := by
  intro interval
  obtain ⟨hpos, hsec⟩ := interval_pos (before - since)
  rw [fillDense_groups hpos hsec hlt]
  refine ⟨pairwise_map.mpr pairwise_gridFrom, ?_⟩
  have hnodup : (denseGrid since before interval).Nodup := pairwise_gridFrom.imp ne_of_lt
  have hsum := sum_map_filter_key (fun r : Row => truncate r.timestamp interval) f
    (denseGrid since before interval).toFinset rows
  rw [sum_toFinset _ hnodup] at hsum
  rw [map_map]
  simpa only [Function.comp_def, mem_toFinset] using hsum

lemma conserves_of_starts (f : Row → M) (hlt : since < before)
    (hrows : ∀ r ∈ rows, since ≤ r.timestamp ∧ r.timestamp < before)
    (h : ∀ r ∈ rows, since ≤ truncate r.timestamp (bucketIntervalForWindow (before - since))) :
    Conserves fillDense f rows since before := by
  obtain ⟨hpairs, hsum⟩ := fillDense_eq f rows hlt
  have hpos := (interval_pos (before - since)).1
  refine ⟨hpairs, hsum.trans ?_⟩
  rw [filter_eq_self.mpr fun r hr => ?_]
  have hle := Int.ediv_mul_le r.timestamp hpos.ne'
  rw [decide_eq_true_iff, mem_denseGrid hpos dvd_truncate]
  exact ⟨h r hr, hle.trans_lt (hrows r hr).2⟩

lemma starts_of_volume (hlt : since < before)
    (h : Conserves fillDenseVolumeBuckets volume rows since before) :
    ∀ r ∈ rows, since ≤ truncate r.timestamp (bucketIntervalForWindow (before - since)) := by
  have hcount : ∀ l : List Row, (l.map volume).sum.1 + (l.map volume).sum.2 = l.length := by
    intro l
    induction l with
    | nil => rfl
    | cons r l ih =>
      rw [map_cons, sum_cons, length_cons, ← ih]
      unfold volume
      split
      · simp; omega
      · simp; omega
  have hsum := (fillDense_eq volume rows hlt).2.symm.trans h.2
  have hlength := congrArg (fun v : ℕ × ℕ => v.1 + v.2) hsum
  simp only [hcount] at hlength
  intro r hr
  have hmem := of_decide_eq_true (length_filter_eq_length_iff.mp hlength r hr)
  exact ((mem_denseGrid (interval_pos _).1 dvd_truncate).mp hmem).1

/-- **What the charts lose**: the rows whose interval starts before the window. -/
theorem charts_conserve_iff (rows : List Row) (since before : ℤ) (hlt : since < before)
    (hrows : ∀ r ∈ rows, since ≤ r.timestamp ∧ r.timestamp < before) :
    ChartsConserve rows since before ↔
      ∀ r ∈ rows, since ≤ truncate r.timestamp (bucketIntervalForWindow (before - since)) :=
  ⟨fun h => starts_of_volume hlt h.1, fun h =>
    ⟨conserves_of_starts _ hlt hrows h, conserves_of_starts _ hlt hrows h,
      conserves_of_starts _ hlt hrows h, conserves_of_starts _ hlt hrows h⟩⟩

theorem charts_conserve_minute : ChartsConserve [⟨0, true, 1, 1, 1, false⟩] 0 hour ↔
    ∀ r ∈ [(⟨0, true, 1, 1, 1, false⟩ : Row)],
      0 ≤ truncate r.timestamp (bucketIntervalForWindow (hour - 0)) :=
  charts_conserve_iff _ 0 hour (by decide) (by decide)

theorem half_minute_lost :
    ¬ ChartsConserve [⟨45 * second, true, 1, 1, 1, false⟩] (30 * second) hour := by
  intro h
  exact absurd (starts_of_volume (by decide) h.1 _ mem_cons_self) (by decide)

end FfxNexus.Charts
