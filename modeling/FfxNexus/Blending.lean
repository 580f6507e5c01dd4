/-
**Benchmark scores in the router** (`internal/router/bench_provider.go`), over exact rationals.
-/
import FfxNexus.Go
import FfxNexus.Routing
import Mathlib.Tactic.Ring

namespace FfxNexus.Routing
open Go

structure BenchmarkStats where
  avgScore : ℚ
  completedAt : Int

structure CombinedProvider where
  benchmarkWeight : ℚ
  weight_nonneg : 0 ≤ benchmarkWeight
  weight_le_one : benchmarkWeight ≤ 1
  freshness : BenchmarkStats → ℚ
  freshness_nonneg : ∀ b, 0 ≤ freshness b
  freshness_le_one : ∀ b, freshness b ≤ 1

def blendQuality (judge : ℚ) (bench : BenchmarkStats) (wB freshness : ℚ) : ℚ :=
  if wB ≤ 0 then judge
  else
    let wBench := if wB * freshness > 1 then 1 else wB * freshness
    judge * (1 - wBench) + bench.avgScore * wBench

def ModelStats.zero : ModelStats := ⟨0, 0, 0, 0, 0, 0, 0⟩

def statsOf (stats : Stats) (model : String) : ModelStats := (stats model).getD .zero

namespace CombinedProvider
variable (c : CombinedProvider)

def blended (b : BenchmarkStats) (s : ModelStats) : ModelStats :=
  { s with
    quality := blendQuality s.quality b c.benchmarkWeight (c.freshness b)
    qualitySamples := if s.qualitySamples > 0 then s.qualitySamples + 1 else 1 }

def modelStats (stats : Stats) (bench : GoMap String BenchmarkStats) : Stats :=
  if c.benchmarkWeight = 0 then stats
  else bench.entries.foldl
    (fun stats e => Function.update stats e.1 (some (c.blended e.2 (statsOf stats e.1)))) stats

def weight (b : BenchmarkStats) : ℚ := c.benchmarkWeight * c.freshness b

end CombinedProvider

def signals (stats : Stats) (bench : GoMap String BenchmarkStats) (model : String) : List ℚ :=
  let s := statsOf stats model
  (if 0 < s.qualitySamples then [s.quality] else []) ++
    ((bench.lookup model).toList.map BenchmarkStats.avgScore ++
      if 0 < s.safetySamples then [s.safetyPassRate] else [])

structure EvidenceOnly (c : CombinedProvider) (stats : Stats)
    (bench : GoMap String BenchmarkStats) : Prop where
  between : ∀ model b, bench.lookup model = some b → 0 < (statsOf stats model).qualitySamples →
    let q := (statsOf (c.modelStats stats bench) model).quality
    min (statsOf stats model).quality b.avgScore ≤ q ∧
      q ≤ max (statsOf stats model).quality b.avgScore
  alone : ∀ model b, bench.lookup model = some b → ¬ 0 < (statsOf stats model).qualitySamples →
    (statsOf (c.modelStats stats bench) model).quality = b.avgScore
  others : ∀ model, bench.lookup model = none → c.modelStats stats bench model = stats model
  gate : ∀ w candidates minQuality, ∀ model ∈ candidates, signals stats bench model ≠ [] →
    (∀ q ∈ signals stats bench model, minQuality ≤ q) →
    model ∈ rank w (c.modelStats stats bench) candidates minQuality

def Grounded (c : CombinedProvider) (s : ModelStats) (b : BenchmarkStats) : Prop :=
  (c.weight b = 1 ∨ s.quality = b.avgScore) ∧
    (c.benchmarkWeight = 0 → 0 < s.safetySamples ∨ b.avgScore ≤ explorationQuality)

variable {c : CombinedProvider} {stats : Stats} {bench : GoMap String BenchmarkStats}
variable {model : String} {b : BenchmarkStats}

lemma weight_mem (c : CombinedProvider) (b : BenchmarkStats) : 0 ≤ c.weight b ∧ c.weight b ≤ 1 :=
  ⟨mul_nonneg c.weight_nonneg (c.freshness_nonneg b),
    mul_le_one₀ c.weight_le_one (c.freshness_nonneg b) (c.freshness_le_one b)⟩

lemma blendQuality_eq (c : CombinedProvider) (judge : ℚ) (b : BenchmarkStats) :
    blendQuality judge b c.benchmarkWeight (c.freshness b) =
      judge * (1 - c.weight b) + b.avgScore * c.weight b := by
  have hle : ¬ c.benchmarkWeight * c.freshness b > 1 := not_lt.mpr (weight_mem c b).2
  unfold blendQuality CombinedProvider.weight
  by_cases hzero : c.benchmarkWeight ≤ 0
  · rw [if_pos hzero, le_antisymm hzero c.weight_nonneg]
    ring
  · rw [if_neg hzero, if_neg hle]

lemma modelStats_eq (hweight : c.benchmarkWeight ≠ 0) (model : String) :
    c.modelStats stats bench model = (bench.lookup model).elim (stats model)
      fun b => some (c.blended b (statsOf stats model)) := by
  unfold CombinedProvider.modelStats
  rw [if_neg hweight]
  exact view_foldl_entries (fun (stats : Stats) model => stats model)
    (f := fun b s => some (c.blended b (s.getD .zero))) (fun _ _ _ => Function.update_self ..)
    (fun _ _ _ _ hne => Function.update_of_ne hne ..) bench stats model

lemma quality_modelStats (hbench : bench.lookup model = some b) :
    (statsOf (c.modelStats stats bench) model).quality =
      (statsOf stats model).quality * (1 - c.weight b) + b.avgScore * c.weight b := by
  by_cases hweight : c.benchmarkWeight = 0
  · have hnone : c.weight b = 0 := by rw [CombinedProvider.weight, hweight, zero_mul]
    rw [CombinedProvider.modelStats, if_pos hweight, hnone]
    ring
  · rw [statsOf, modelStats_eq hweight, hbench]
    exact blendQuality_eq c _ b

lemma modelStats_of_not_benched (hbench : bench.lookup model = none) :
    c.modelStats stats bench model = stats model := by
  by_cases hweight : c.benchmarkWeight = 0
  · rw [CombinedProvider.modelStats, if_pos hweight]
  · rw [modelStats_eq hweight, hbench, Option.elim_none]

lemma between_of_weight {q a w : ℚ} (h : 0 ≤ w ∧ w ≤ 1) :
    min q a ≤ q * (1 - w) + a * w ∧ q * (1 - w) + a * w ≤ max q a := by
  have hrest : 0 ≤ 1 - w := sub_nonneg.mpr h.2
  constructor
  · calc min q a = min q a * (1 - w) + min q a * w := by ring
      _ ≤ q * (1 - w) + a * w := add_le_add (mul_le_mul_of_nonneg_right (min_le_left _ _) hrest)
          (mul_le_mul_of_nonneg_right (min_le_right _ _) h.1)
  · calc q * (1 - w) + a * w ≤ max q a * (1 - w) + max q a * w :=
          add_le_add (mul_le_mul_of_nonneg_right (le_max_left _ _) hrest)
            (mul_le_mul_of_nonneg_right (le_max_right _ _) h.1)
      _ = max q a := by ring

lemma blend_eq_iff {q a w : ℚ} : q * (1 - w) + a * w = a ↔ w = 1 ∨ q = a := by
  have hfactor : q * (1 - w) + a * w - a = (1 - w) * (q - a) := by ring
  rw [← sub_eq_zero, hfactor, mul_eq_zero, sub_eq_zero, sub_eq_zero, eq_comm (a := 1)]

lemma gateQuality_eq (stats : Stats) (model : String) :
    gateQuality stats model = effectiveQuality (statsOf stats model) := by
  unfold gateQuality statsOf
  cases stats model with
  | none => rfl
  | some s => rfl

variable {minQuality : ℚ}

lemma le_effectiveQuality {s : ModelStats} (hjudge : 0 < s.qualitySamples → minQuality ≤ s.quality)
    (hsafety : 0 < s.safetySamples → minQuality ≤ s.safetyPassRate)
    (hnone : ¬ 0 < s.qualitySamples → ¬ 0 < s.safetySamples → minQuality ≤ explorationQuality) :
    minQuality ≤ effectiveQuality s := by
  unfold effectiveQuality
  split_ifs with hq hs hs
  · linarith [hjudge hq, hsafety hs]
  · exact hjudge hq
  · exact hsafety hs
  · exact hnone hq hs

lemma le_gateQuality (hrow : ∀ b, bench.lookup model = some b →
      ¬ 0 < (statsOf stats model).qualitySamples → Grounded c (statsOf stats model) b)
    (hsome : signals stats bench model ≠ [])
    (hmeet : ∀ q ∈ signals stats bench model, minQuality ≤ q) :
    minQuality ≤ gateQuality (c.modelStats stats bench) model := by
  have hjudge : 0 < (statsOf stats model).qualitySamples →
      minQuality ≤ (statsOf stats model).quality := fun h => hmeet _ (by simp [signals, h])
  have hsafety : 0 < (statsOf stats model).safetySamples →
      minQuality ≤ (statsOf stats model).safetyPassRate := fun h => hmeet _ (by simp [signals, h])
  rw [gateQuality_eq]
  cases hbench : bench.lookup model with
  | none =>
    have hsame : statsOf (c.modelStats stats bench) model = statsOf stats model := by
      rw [statsOf, modelStats_of_not_benched hbench]
      rfl
    rw [hsame]
    refine le_effectiveQuality hjudge hsafety fun hq hs => absurd ?_ hsome
    simp [signals, hbench, hq, hs]
  | some b =>
    have havg : minQuality ≤ b.avgScore := hmeet _ (by simp [signals, hbench])
    by_cases hweight : c.benchmarkWeight = 0
    · rw [CombinedProvider.modelStats, if_pos hweight]
      refine le_effectiveQuality hjudge hsafety fun hq hs => ?_
      exact havg.trans (((hrow b hbench hq).2 hweight).resolve_left hs)
    · have hquality : (statsOf (c.modelStats stats bench) model).quality = _ :=
        quality_modelStats hbench
      have hblended : statsOf (c.modelStats stats bench) model =
          c.blended b (statsOf stats model) := by
        rw [statsOf, modelStats_eq hweight, hbench]
        rfl
      rw [hblended] at hquality ⊢
      refine le_effectiveQuality (fun _ => ?_) hsafety fun hq => absurd ?_ hq
      · rw [hquality]
        by_cases hq : 0 < (statsOf stats model).qualitySamples
        · exact (le_min (hjudge hq) havg).trans (between_of_weight (weight_mem c b)).1
        · rw [blend_eq_iff.mpr (hrow b hbench hq).1]
          exact havg
      · show 0 < if (statsOf stats model).qualitySamples > 0 then _ else (1 : Int)
        split_ifs <;> omega

theorem evidence_only_iff (c : CombinedProvider) (stats : Stats)
    (bench : GoMap String BenchmarkStats) :
    EvidenceOnly c stats bench ↔ ∀ model b, bench.lookup model = some b →
      ¬ 0 < (statsOf stats model).qualitySamples → Grounded c (statsOf stats model) b := by
  constructor
  · intro h model b hbench hq
    refine ⟨blend_eq_iff.mp ((quality_modelStats hbench).symm.trans (h.alone model b hbench hq)),
      fun hweight => ?_⟩
    by_contra hpoor
    rw [not_or, not_le] at hpoor
    obtain ⟨hs, hbetter⟩ := hpoor
    have hsignals : signals stats bench model = [b.avgScore] := by
      simp [signals, hbench, hq, hs]
    have hmem := h.gate defaultWeights [model] b.avgScore model (List.mem_singleton_self _)
      (by simp [hsignals]) (by simp [hsignals])
    have hmeets := (mem_rank.mp hmem).2
    have hpos : 0 < b.avgScore := lt_trans (by norm_num [explorationQuality]) hbetter
    rw [meetsQuality, gateQuality_eq, CombinedProvider.modelStats, if_pos hweight,
      effectiveQuality, if_neg hq, if_neg hs] at hmeets
    simp [hpos, hbetter] at hmeets
  · intro hrow
    refine ⟨?_, ?_, fun model => modelStats_of_not_benched, ?_⟩
    · intro model b hbench _
      simp only [quality_modelStats hbench]
      exact between_of_weight (weight_mem c b)
    · intro model b hbench hq
      rw [quality_modelStats hbench]
      exact blend_eq_iff.mpr (hrow model b hbench hq).1
    · intro w candidates minQuality model hmem hsome hmeet
      have hle := le_gateQuality (hrow model) hsome hmeet
      exact mem_rank.mpr ⟨hmem, by simp [meetsQuality, hle]⟩

def evenProvider : CombinedProvider where
  benchmarkWeight := 1 / 2
  weight_nonneg := by norm_num
  weight_le_one := by norm_num
  freshness _ := 1
  freshness_nonneg _ := by norm_num
  freshness_le_one _ := by norm_num

theorem unjudged_rejected : (statsOf (evenProvider.modelStats (fun _ => none)
        (AList.singleton "gpt-4o" ⟨1, 0⟩)) "gpt-4o").quality = 1 / 2 ∧
      rank defaultWeights (evenProvider.modelStats (fun _ => none)
        (AList.singleton "gpt-4o" ⟨1, 0⟩)) ["gpt-4o"] (6 / 10) = [] := by
  with_unfolding_all decide

end FfxNexus.Routing
