/-
**Quality-aware routing** (`internal/router/router.go`, `RotateChain` of
`internal/balancer/roundrobin.go`), over exact rationals.
-/
import FfxNexus.Sorting
import Mathlib.Data.List.Perm.Basic
import Mathlib.Tactic.Linarith

namespace FfxNexus.Routing
open List

structure ModelStats where
  quality : ℚ
  qualitySamples : Int
  safetyPassRate : ℚ
  safetySamples : Int
  avgLatencyMs : ℚ
  avgCostUSD : ℚ
  samples : Int
deriving DecidableEq

abbrev Stats := String → Option ModelStats

structure Weights where
  quality : ℚ
  cost : ℚ
  latency : ℚ

def defaultWeights : Weights := ⟨6 / 10, 2 / 10, 2 / 10⟩

variable (w : Weights) (ranked : List String) (stats : Stats) (model : String)
  (candidates : List String) (minQuality : ℚ)

def normalize : Weights :=
  let quality := max 0 w.quality
  let cost := max 0 w.cost
  let latency := max 0 w.latency
  let sum := quality + cost + latency
  if sum ≤ 0 then defaultWeights else ⟨quality / sum, cost / sum, latency / sum⟩

def explorationQuality : ℚ := 75 / 100

def effectiveQuality (s : ModelStats) : ℚ :=
  if 0 < s.qualitySamples then
    if 0 < s.safetySamples then 7 / 10 * s.quality + 3 / 10 * s.safetyPassRate else s.quality
  else if 0 < s.safetySamples then s.safetyPassRate
  else explorationQuality

def gateQuality : ℚ :=
  match stats model with
  | some s => effectiveQuality s
  | none => explorationQuality

def meetsQuality (model : String) : Bool :=
  ¬ (0 < minQuality ∧ gateQuality stats model < minQuality)

structure Cand where
  model : String
  quality : ℚ
  lat : ℚ
  cost : ℚ
  known : Bool

variable (cs : List Cand)

def candOf : Cand :=
  match stats model with
  | some s =>
    if 0 < s.samples then ⟨model, effectiveQuality s, s.avgLatencyMs, s.avgCostUSD, true⟩
    else ⟨model, effectiveQuality s, 0, 0, false⟩
  | none => ⟨model, explorationQuality, 0, 0, false⟩

def meanKnown (f : Cand → ℚ) (cs : List Cand) : ℚ :=
  let known := cs.filter Cand.known
  if known.length = 0 then 0 else (known.map f).sum / known.length

def fillUnknown : List Cand :=
  cs.map fun c =>
    if c.known then c else { c with lat := meanKnown Cand.lat cs, cost := meanKnown Cand.cost cs }

def minMax (f : Cand → ℚ) (cs : List Cand) : ℚ × ℚ :=
  match cs with
  | [] => (0, 0)
  | c :: cs => cs.foldl (fun mm c => (min mm.1 (f c), max mm.2 (f c))) (f c, f c)

def invNorm (v lo hi : ℚ) : ℚ := if hi ≤ lo then 1 else (hi - v) / (hi - lo)

def score (c : Cand) : ℚ :=
  let latRange := minMax Cand.lat cs
  let costRange := minMax Cand.cost cs
  w.quality * c.quality + w.latency * invNorm c.lat latRange.1 latRange.2 +
    w.cost * invNorm c.cost costRange.1 costRange.2

def rank :
    List String :=
  let cs := fillUnknown ((candidates.filter (meetsQuality stats minQuality)).map (candOf stats))
  (cs.insertionSort fun a b => score w cs b ≤ score w cs a).map Cand.model

@[simp] lemma candOf_model : (candOf stats model).model = model := by
  unfold candOf
  split
  · split <;> rfl
  · rfl

lemma fillUnknown_model : (fillUnknown cs).map Cand.model = cs.map Cand.model := by
  unfold fillUnknown
  rw [map_map]
  apply map_congr_left
  intro c _
  simp only [Function.comp_apply]
  split <;> rfl

lemma rank_perm : (rank w stats candidates minQuality).Perm
      (candidates.filter (meetsQuality stats minQuality)) := by
  refine ((perm_insertionSort _ _).map Cand.model).trans ?_
  rw [fillUnknown_model, map_map]
  have : Cand.model ∘ candOf stats = id := funext fun m => candOf_model stats m
  rw [this, map_id]

lemma mem_rank {w : Weights} {stats : Stats} {candidates : List String} {minQuality : ℚ}
    {m : String} : m ∈ rank w stats candidates minQuality ↔
      m ∈ candidates ∧ meetsQuality stats minQuality m = true := by
  rw [(rank_perm w stats candidates minQuality).mem_iff, mem_filter]

lemma normalize_nonneg :
    0 ≤ (normalize w).quality ∧ 0 ≤ (normalize w).cost ∧ 0 ≤ (normalize w).latency := by
  unfold normalize
  dsimp only
  split_ifs with hsum
  · unfold defaultWeights
    norm_num
  have hpos : 0 ≤ max 0 w.quality + max 0 w.cost + max 0 w.latency := le_of_not_ge hsum
  exact ⟨div_nonneg (le_max_left _ _) hpos, div_nonneg (le_max_left _ _) hpos,
    div_nonneg (le_max_left _ _) hpos⟩

lemma invNorm_anti {v v' : ℚ} (lo hi : ℚ) (h : v ≤ v') : invNorm v' lo hi ≤ invNorm v lo hi := by
  unfold invNorm
  by_cases hrange : hi ≤ lo
  · rw [if_pos hrange, if_pos hrange]
  · rw [if_neg hrange, if_neg hrange]
    have hpos : 0 < hi - lo := by linarith
    exact div_le_div_of_nonneg_right (by linarith) (le_of_lt hpos)

lemma score_lt_score {w : Weights} (hquality : 0 < w.quality) (hcost : 0 ≤ w.cost)
    (hlatency : 0 ≤ w.latency) (cs : List Cand) {a b : Cand} (hq : b.quality < a.quality)
    (hl : a.lat ≤ b.lat) (hc : a.cost ≤ b.cost) : score w cs b < score w cs a := by
  have hfirst : w.quality * b.quality < w.quality * a.quality :=
    mul_lt_mul_of_pos_left hq hquality
  have hsecond := mul_le_mul_of_nonneg_left
    (invNorm_anti (minMax Cand.lat cs).1 (minMax Cand.lat cs).2 hl) hlatency
  have hthird := mul_le_mul_of_nonneg_left
    (invNorm_anti (minMax Cand.cost cs).1 (minMax Cand.cost cs).2 hc) hcost
  unfold score
  linarith

lemma eq_of_mem_fillUnknown {stats : Stats} {models : List String} {c : Cand} {s : ModelStats}
    (hc : c ∈ fillUnknown (models.map (candOf stats))) (hs : stats c.model = some s)
    (hsamples : 0 < s.samples) :
    c = ⟨c.model, effectiveQuality s, s.avgLatencyMs, s.avgCostUSD, true⟩ := by
  obtain ⟨c0, hc0, heq⟩ := mem_map.mp hc
  obtain ⟨m, -, hm⟩ := mem_map.mp hc0
  have hmodel : c.model = m := by
    rw [← heq, ← candOf_model stats m, hm]
    by_cases hknown : c0.known = true
    · rw [if_pos hknown]
    · rw [if_neg hknown]
  have hcand : candOf stats m = ⟨m, effectiveQuality s, s.avgLatencyMs, s.avgCostUSD, true⟩ := by
    rw [hmodel] at hs
    unfold candOf
    rw [hs]
    dsimp only
    rw [if_pos hsamples]
  have hknown : c0.known = true := by rw [← hm, hcand]
  rw [if_pos hknown] at heq
  rw [hmodel, ← heq, ← hm, hcand]

lemma pairwise_score : (cs.insertionSort fun a b => score w cs b ≤ score w cs a).Pairwise
      fun a b => score w cs b ≤ score w cs a := by
  have hkey : Sorting.ByKey (fun a b => score w cs b ≤ score w cs a) fun c => -score w cs c := by
    intro a b
    exact neg_le_neg_iff.symm
  exact hkey.pairwise cs

theorem rank_sound : (rank (normalize w) stats candidates minQuality).Perm
        (candidates.filter (meetsQuality stats minQuality)) ∧
      ∀ (i j : ℕ) (a b : String) (sa sb : ModelStats),
        (rank (normalize w) stats candidates minQuality)[i]? = some a →
        (rank (normalize w) stats candidates minQuality)[j]? = some b →
        stats a = some sa → stats b = some sb → 0 < sa.samples → 0 < sb.samples →
        0 < (normalize w).quality → effectiveQuality sb < effectiveQuality sa →
        sa.avgLatencyMs ≤ sb.avgLatencyMs → sa.avgCostUSD ≤ sb.avgCostUSD → i < j := by
  refine ⟨rank_perm (normalize w) stats candidates minQuality, ?_⟩
  intro i j a b sa sb ha hb hsa hsb hna hnb hweight hquality hlat hcost
  obtain ⟨-, hcostWeight, hlatWeight⟩ := normalize_nonneg w
  unfold rank at ha hb
  rw [List.getElem?_map, Option.map_eq_some_iff] at ha hb
  obtain ⟨ca, hca, rfl⟩ := ha
  obtain ⟨cb, hcb, rfl⟩ := hb
  have hmemA := (List.mem_insertionSort _).mp (List.mem_of_getElem? hca)
  have hmemB := (List.mem_insertionSort _).mp (List.mem_of_getElem? hcb)
  have hA := eq_of_mem_fillUnknown hmemA hsa hna
  have hB := eq_of_mem_fillUnknown hmemB hsb hnb
  have hscore := score_lt_score hweight hcostWeight hlatWeight
    (fillUnknown ((candidates.filter (meetsQuality stats minQuality)).map (candOf stats)))
    (a := ca) (b := cb) (by rw [hA, hB]; exact hquality) (by rw [hA, hB]; exact hlat)
    (by rw [hA, hB]; exact hcost)
  have hsorted := pairwise_score (normalize w)
    (fillUnknown ((candidates.filter (meetsQuality stats minQuality)).map (candOf stats)))
  by_contra hle
  rcases Nat.lt_or_eq_of_le (Nat.le_of_not_lt hle) with hlt | heq
  · obtain ⟨hj, hjeq⟩ := List.getElem?_eq_some_iff.mp hcb
    obtain ⟨hi, hieq⟩ := List.getElem?_eq_some_iff.mp hca
    have hpair := List.pairwise_iff_getElem.mp hsorted j i hj hi hlt
    rw [hjeq, hieq] at hpair
    exact absurd hpair (not_le.mpr hscore)
  · rw [heq, hca, Option.some.injEq] at hcb
    rw [hcb] at hscore
    exact lt_irrefl _ hscore

def sampleStats (quality latency cost : ℚ) : ModelStats := ⟨quality, 10, 0, 0, latency, cost, 10⟩

theorem rank_sound_sample :
    rank (normalize ⟨-1, 0, 0⟩) (fun m => if m = "good" then some (sampleStats 1 5 1)
      else if m = "bad" then some (sampleStats (1 / 2) 9 3) else none) ["bad", "new", "good"] 0 =
        ["good", "new", "bad"] ∧ 0 < 2 := by
  refine ⟨by with_unfolding_all decide, ?_⟩
  apply (rank_sound ⟨-1, 0, 0⟩ (fun m => if m = "good" then some (sampleStats 1 5 1)
    else if m = "bad" then some (sampleStats (1 / 2) 9 3) else none) ["bad", "new", "good"] 0).2
    0 2 "good" "bad" (sampleStats 1 5 1) (sampleStats (1 / 2) 9 3)
  all_goals with_unfolding_all decide

def rotateChain (i : Fin ranked.length) : List String :=
  ranked.get i :: ranked.eraseIdx i

lemma rotateChain_perm (i : Fin ranked.length) : (rotateChain ranked i).Perm ranked :=
  getElem_cons_eraseIdx_perm i.isLt

end FfxNexus.Routing
