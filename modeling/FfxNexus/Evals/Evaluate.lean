/-
**Evaluating a trace under a deadline** (`evaluate` of `internal/evals/worker.go` and
`runEvaluators` of `scorebag.go`).
-/
import Mathlib.Data.List.MinMax
import FfxNexus.Gateway

namespace FfxNexus.Evals.TraceWorker
open Gateway List

structure TraceScore where
  orgID : String := ""
  userID : String := ""
  requestModel : String := ""
  evaluator : String
  metric : String
  score : ℚ

def traceModel (t : Trace) : String :=
  if t.responseModel ≠ "" then t.responseModel else t.requestModel

def TraceScore.stamp (t : Trace) (s : TraceScore) : TraceScore :=
  { s with
    userID := if s.userID = "" then t.userID else s.userID
    orgID := if s.orgID = "" then t.orgID else s.orgID
    requestModel := if s.requestModel = "" then traceModel t else s.requestModel }

structure Evaluation where
  result : Except String (List TraceScore)
  finish : Option ℕ

def Evaluation.scores (e : Evaluation) : List TraceScore :=
  match e.result with
  | .error _ => []
  | .ok s => s

def Evaluation.returned (e : Evaluation) (now : ℕ) : Bool := e.finish.any (· < now)

def joined (deadline : ℕ) (evals : List Evaluation) : ℕ :=
  if evals.all (·.returned deadline) then (evals.filterMap Evaluation.finish).foldr max 0
  else deadline

structure SinkCall where
  live : Bool
  scores : List TraceScore

def evaluate (deadline lag : ℕ) (t : Trace) (evals : List Evaluation) : Option SinkCall :=
  let now := joined deadline evals + lag
  let scs := (evals.filter fun e => e.returned (now + 1)).flatMap Evaluation.scores
  if scs.length = 0 then none else some ⟨now < deadline, scs.map (TraceScore.stamp t)⟩

def ScoresSaved (deadline lag : ℕ) (t : Trace) (evals : List Evaluation) : Prop :=
  ∀ e ∈ evals, e.returned deadline = true → ∀ s ∈ e.scores,
    ∃ call, evaluate deadline lag t evals = some call ∧ call.live = true ∧ s.stamp t ∈ call.scores

variable {deadline lag : ℕ} {t : Trace} {evals : List Evaluation} {e : Evaluation}

lemma all_returned (htime : joined deadline evals + lag < deadline) :
    evals.all (·.returned deadline) = true := by
  by_contra hall
  rw [joined, if_neg hall] at htime
  omega

lemma finish_le_joined (hall : evals.all (·.returned deadline) = true) (he : e ∈ evals) :
    ∃ n ∈ e.finish, n ≤ joined deadline evals := by
  obtain ⟨n, hn, -⟩ := (Option.any_eq_true _ _).mp (all_eq_true.mp hall e he)
  rw [joined, if_pos hall]
  exact ⟨n, hn, le_max_of_le (mem_filterMap.mpr ⟨e, he, hn⟩) le_rfl⟩

/-- The write begins in time if every evaluator, and so the last one, finishes early enough. -/
lemma joined_lt_iff (he : e ∈ evals) : joined deadline evals + lag < deadline ↔
    ∀ e ∈ evals, ∃ n ∈ e.finish, n + lag < deadline := by
  constructor
  · intro htime e he
    obtain ⟨n, hn, hle⟩ := finish_le_joined (all_returned htime) he
    exact ⟨n, hn, by omega⟩
  · intro hearly
    have hall : evals.all (·.returned deadline) = true := by
      refine all_eq_true.mpr fun e he => (Option.any_eq_true _ _).mpr ?_
      obtain ⟨n, hn, hlt⟩ := hearly e he
      exact ⟨n, hn, decide_eq_true (by omega)⟩
    have hmax : (evals.filterMap Evaluation.finish).foldr max 0 ≤ deadline - lag - 1 := by
      refine max_le_of_forall_le _ _ fun m hm => ?_
      obtain ⟨e, he, hm⟩ := mem_filterMap.mp hm
      obtain ⟨n, hn, hlt⟩ := hearly e he
      cases hm.symm.trans hn
      omega
    obtain ⟨n, -, hlt⟩ := hearly e he
    rw [joined, if_pos hall]
    omega

theorem scores_saved_iff (deadline lag : ℕ) (t : Trace) (evals : List Evaluation) :
    ScoresSaved deadline lag t evals ↔ (∀ e ∈ evals, ∃ n ∈ e.finish, n + lag < deadline) ∨
        ∀ e ∈ evals, e.returned deadline = true → e.scores = [] := by
  constructor
  · intro hsaved
    by_contra hnot
    rw [not_or] at hnot
    obtain ⟨hlate, hscored⟩ := hnot
    simp only [not_forall] at hscored
    obtain ⟨e, he, hreturned, hscores⟩ := hscored
    obtain ⟨s, hs⟩ := exists_mem_of_ne_nil _ hscores
    obtain ⟨call, hcall, hlive, -⟩ := hsaved e he hreturned s hs
    unfold evaluate at hcall
    simp only at hcall
    split_ifs at hcall
    cases hcall
    exact hlate ((joined_lt_iff he).mp (of_decide_eq_true hlive))
  · rintro (hearly | hnone) e he hreturned s hs
    · have htime : joined deadline evals + lag < deadline := (joined_lt_iff he).mpr hearly
      obtain ⟨n, hn, hle⟩ := finish_le_joined (all_returned htime) he
      have hjoined : e.returned (joined deadline evals + lag + 1) = true :=
        (Option.any_eq_true _ _).mpr ⟨n, hn, decide_eq_true (by omega)⟩
      have hmem : s ∈ (evals.filter fun e => e.returned (joined deadline evals + lag + 1)).flatMap
          Evaluation.scores :=
        mem_flatMap.mpr ⟨e, mem_filter.mpr ⟨he, hjoined⟩, hs⟩
      refine ⟨⟨true, _⟩, ?_, rfl, mem_map_of_mem hmem⟩
      unfold evaluate
      rw [if_neg fun hzero => ne_nil_of_mem hmem (length_eq_zero_iff.mp hzero)]
      simp [htime]
    · rw [hnone e he hreturned] at hs
      cases hs

def quick : Evaluation := ⟨.ok [⟨"", "", "", "heuristic", "quality", 1⟩], some 1⟩

theorem score_lost_with_hung :
    (evaluate 10 0 default [quick, ⟨.ok [], none⟩]).map SinkCall.live = some false := by
  decide

end FfxNexus.Evals.TraceWorker
