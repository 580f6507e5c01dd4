/-
**What a provider reports, what the gateway charges, and the bill of a unary chat request.**
Whenever the reported usage costs something, the caller's virtual key is to be charged that cost,
once (`SpendComplete`).
-/
import FfxNexus.Dispatch

namespace FfxNexus.Spend
open List
open Interaction Schema Providers Pricing Gateway Chat Effects
open Interaction.Prog hiding perform

structure Report where
  requestModel : String
  responseModel : String
  usage : Usage
deriving DecidableEq

def Report.cost (r : Report) : ℚ :=
  resolveCostUSD r.usage.estimatedCost r.requestModel r.responseModel (some r.usage)

variable (requestModel : String) (priced : Candidate → String) (events : List StreamEvent)

def responseReport (resp : ChatCompletionResponse) : Report :=
  ⟨requestModel, resp.model, resp.usage⟩

section

def chunks : List ChatCompletionChunk :=
  events.filterMap StreamEvent.chunk

def usages : List Usage :=
  (chunks events).filterMap ChatCompletionChunk.usage

def estimates : List ℚ :=
  ((usages events).map Usage.estimatedCost).filter (0 < ·)

def models : List String :=
  ((chunks events).map ChatCompletionChunk.model).filter (· ≠ "")

def streamModel : String := (models events).getLastD ""

def failed : Bool := events.any fun e => e.err.isSome

def streamReport : Option Report :=
  (usages events).getLast?.map fun u => ⟨requestModel, streamModel events, u⟩

variable {e : StreamEvent}

lemma chunks_cons_none (hc : e.chunk = none) : chunks (e :: events) = chunks events := by
  unfold chunks
  rw [filterMap_cons, hc]

lemma chunks_cons_some {c : ChatCompletionChunk} (events : List StreamEvent)
    (hc : e.chunk = some c) : chunks (e :: events) = c :: chunks events := by
  unfold chunks
  rw [filterMap_cons, hc]

lemma failed_cons (hok : e.err = none) : failed (e :: events) = failed events := by
  unfold failed
  rw [any_cons, hok]
  rfl

end

def answer? : GEvent → Option (Candidate × ChatCompletionResponse)
  | ⟨.chatCompletion cand _ _ _, .ok resp⟩ => some (cand, resp)
  | _ => none

def opened? : GEvent → Option (Candidate × UpstreamStream)
  | ⟨.chatCompletionStream cand _ _ _, .ok s⟩ => some (cand, s)
  | _ => none

def answers (log : List GEvent) : List (Candidate × ChatCompletionResponse) :=
  log.filterMap answer?

def opened (log : List GEvent) : List (Candidate × UpstreamStream) := log.filterMap opened?

def reported (log : List GEvent) : Option Report :=
  match (opened log).getLast? with
  | some (cand, s) => streamReport (priced cand) s.events
  | none => (answers log).getLast?.map fun a => responseReport (priced a.1) a.2

def SpendComplete (ctx : Ctx) (log : List GEvent) : Prop :=
  ∀ rep, reported priced log = some rep → 0 < rep.cost → spends log = [(ctx.vkeyID, rep.cost)]

def charge (ctx : Ctx) (cost : ℚ) : List (String × ℚ) :=
  if 0 < cost then [(ctx.vkeyID, cost)] else []

lemma charge_eq_iff {ctx : Ctx} {c x : ℚ} (hx : 0 < x) :
    charge ctx c = [(ctx.vkeyID, x)] ↔ c = x := by
  unfold charge
  split
  · simp
  · -- a cost that is not positive charges nothing, and `x` is positive
    rename_i hc
    refine ⟨fun h => (by cases h), fun h => absurd (h ▸ hx) hc⟩

structure Idle (log : List GEvent) : Prop where
  answers : answers log = []
  opened : opened log = []
  spends : spends log = []

variable {α : Type} {es : List Effect} {p : GProg α} {log l l' : List GEvent} {r : α}

@[simp] lemma answers_append (l l' : List GEvent) :
    answers (l ++ l') = answers l ++ answers l' := filterMap_append

@[simp] lemma opened_append (l l' : List GEvent) :
    opened (l ++ l') = opened l ++ opened l' := filterMap_append

lemma answer_cons (cand : Candidate) (q : Provider) (ctx : Ctx) (req : ChatCompletionRequest)
    (resp : ChatCompletionResponse) (l : List GEvent) :
    answers (⟨.chatCompletion cand q ctx req, .ok resp⟩ :: l) = (cand, resp) :: answers l ∧
      opened (⟨.chatCompletion cand q ctx req, .ok resp⟩ :: l) = opened l ∧
      spends (⟨.chatCompletion cand q ctx req, .ok resp⟩ :: l) = spends l :=
  ⟨rfl, rfl, rfl⟩

lemma idle_nil : Idle [] := ⟨rfl, rfl, rfl⟩

lemma Idle.append (h : Idle l) (h' : Idle l') : Idle (l ++ l') := by
  constructor
  · rw [answers_append, h.answers, h'.answers, nil_append]
  · rw [opened_append, h.opened, h'.opened, nil_append]
  · rw [spends_append, h.spends, h'.spends, nil_append]

lemma within_answers_eq_nil (h : Within es p) (hrun : p.Runs log r)
    (hx : decide (.call ∈ es) = false) : answers log = [] := by
  refine h.filterMap_eq_nil (fun e he => ?_) (of_decide_eq_false hx) hrun
  obtain ⟨o, x⟩ := e
  cases o <;> first | rfl | exact absurd rfl he

lemma within_opened_eq_nil (h : Within es p) (hrun : p.Runs log r)
    (hx : decide (.call ∈ es) = false) : opened log = [] := by
  refine h.filterMap_eq_nil (fun e he => ?_) (of_decide_eq_false hx) hrun
  obtain ⟨o, x⟩ := e
  cases o <;> first | rfl | exact absurd rfl he

lemma idle_of_within (h : Within es p) (hrun : p.Runs log r)
    (hcall : decide (.call ∈ es) = false) (hspend : decide (.spend ∈ es) = false) : Idle log :=
  ⟨within_answers_eq_nil h hrun hcall, within_opened_eq_nil h hrun hcall,
    h.spends_eq_nil hrun hspend⟩

variable {h : Handler} {ctx : Ctx}

lemma recordSpend_spends {cost : ℚ} {u : Unit} (hlim : h.limiter = true) (hkey : ctx.vkeyID ≠ "")
    (hrun : (recordSpend h ctx cost).Runs log u) : spends log = charge ctx cost := by
  unfold recordSpend at hrun
  unfold charge
  split at hrun
  · rename_i hoff
    obtain ⟨rfl, -⟩ := hrun.done
    rcases hoff with hoff | hcost
    · rw [hlim] at hoff
      cases hoff
    · rw [if_neg (not_lt.mpr hcost)]
      rfl
  · rename_i hon
    obtain ⟨x, rest, rfl, hret⟩ := hrun.first
    obtain ⟨rfl, -⟩ := hret.done
    rw [if_pos (not_le.mp (not_or.mp hon).2)]
    rfl

lemma closing_spends {β γ : Type} {es' : List Effect} {q : α → GProg β} {f : α → γ} {cost : ℚ}
    {c : γ} (hp : Within es p) (hes : decide (.spend ∈ es) = false)
    (hq : ∀ a, Within es' (q a)) (hes' : decide (.spend ∈ es') = false) (hlim : h.limiter = true)
    (hkey : ctx.vkeyID ≠ "")
    (hrun : (p >>= fun a => q a >>= fun _ => recordSpend h ctx cost >>= fun _ =>
      pure (f a)).Runs log c) : spends log = charge ctx cost := by
  obtain ⟨l1, a, _, rfl, hfirst, hrun1⟩ := hrun.split
  obtain ⟨l2, _, _, rfl, hsecond, hrun2⟩ := hrun1.split
  obtain ⟨l3, _, _, rfl, hspend, hret⟩ := hrun2.split
  obtain ⟨rfl, -⟩ := hret.done
  rw [spends_append, spends_append, spends_append, hp.spends_eq_nil hfirst hes,
    (hq a).spends_eq_nil hsecond hes', recordSpend_spends hlim hkey hspend, spends_nil,
    nil_append, nil_append, append_nil]

lemma newTrace_responseModel {req : ChatCompletionRequest} {provider : String} {t : Trace}
    (hrun : (newTrace h ctx req provider).Runs log t) : t.responseModel = "" := by
  obtain ⟨_, _, -, hrun1⟩ := hrun.first
  obtain ⟨_, _, -, hrun2⟩ := hrun1.first
  obtain ⟨_, _, -, hret⟩ := hrun2.first
  obtain ⟨-, rfl⟩ := hret.done
  rfl

lemma beginAttempt_models {req : ChatCompletionRequest} {cand : Candidate} {p : Provider}
    {reqTrace : Trace} {streamed : Bool} {begun : Trace × Int}
    (hrun : (beginAttempt h ctx req reqTrace cand p streamed).Runs log begun) :
    begun.1.requestModel = cand.model ∧ begun.1.responseModel = "" := by
  obtain ⟨_, t, _, -, htrace, hrun1⟩ := hrun.split
  obtain ⟨_, _, -, hret⟩ := hrun1.first
  obtain ⟨-, rfl⟩ := hret.done
  have hnone := newTrace_responseModel htrace
  exact ⟨rfl, hnone⟩

lemma idle_complete {priced : Candidate → String} {ctx : Ctx} {log : List GEvent}
    (hidle : Idle log) : SpendComplete priced ctx log := by
  intro rep hrep
  simp [reported, hidle.answers, hidle.opened] at hrep

open Endpoints

structure Bill where
  cost : ℚ
  inputTokens : Int
  outputTokens : Int
deriving DecidableEq

def Bill.zero : Bill := ⟨0, 0, 0⟩

def billOf (t : Trace) : Bill := ⟨t.costUSD, t.inputTokens, t.outputTokens⟩

def reportedSpend (h : Handler) (ctx : Ctx) (cost : ℚ) : List (String × ℚ) :=
  if h.limiter = true ∧ ctx.vkeyID ≠ "" then charge ctx cost else []

structure Written (h : Handler) (ctx : Ctx) (b : Bill) (log : List GEvent)
    (reply : Reply ChatBody) : Prop where
  traces : ∀ t ∈ records log, billOf t = b
  header : ∀ cost resp, reply = .ok (.completion cost resp) → cost = b.cost
  spends : spends log = reportedSpend h ctx b.cost

@[simp] lemma reportedSpend_zero (h : Handler) (ctx : Ctx) : reportedSpend h ctx 0 = [] := by
  simp [reportedSpend, charge]

structure Quiet (log : List GEvent) : Prop extends Idle log where
  records : records log = []

variable {b : Bill} {reply : Reply ChatBody}

lemma quiet_of_within (hp : Within es p) (hrun : p.Runs log r)
    (hcall : decide (.call ∈ es) = false) (hspend : decide (.spend ∈ es) = false)
    (hrecord : decide (.record ∈ es) = false) : Quiet log :=
  ⟨idle_of_within hp hrun hcall hspend, hp.records_eq_nil hrun hrecord⟩

lemma Quiet.append (hl : Quiet l) (hl' : Quiet l') : Quiet (l ++ l') := by
  refine ⟨hl.toIdle.append hl'.toIdle, ?_⟩
  rw [records_append, hl.records, hl'.records, nil_append]

lemma Written.prepend (hrecords : Effects.records l = []) (hspends : Effects.spends l = [])
    (hlog : Written h ctx b log reply) : Written h ctx b (l ++ log) reply := by
  refine ⟨?_, hlog.header, ?_⟩
  · rw [records_append, hrecords, nil_append]
    exact hlog.traces
  · rw [spends_append, hspends, nil_append]
    exact hlog.spends

lemma recordEvidence_records {t : Trace} {attempts : List ProviderAttempt}
    {reasons : List PolicyReason} {u : Unit}
    (hrun : (recordEvidence h t attempts reasons).Runs log u) :
    records log = if h.recorder = true then [evidence h t attempts reasons] else [] := by
  unfold recordEvidence at hrun
  by_cases hrec : h.recorder = true
  · rw [if_pos hrec] at hrun ⊢
    obtain ⟨x, rest, rfl, hret⟩ := runs_op.mp hrun
    obtain ⟨rfl, -⟩ := hret.done
    rfl
  · rw [if_neg hrec] at hrun ⊢
    obtain ⟨rfl, -⟩ := hrun.done
    rfl

lemma recordSpend_reported {cost : ℚ} {u : Unit}
    (hrun : (recordSpend h ctx cost).Runs log u) : spends log = reportedSpend h ctx cost := by
  unfold reportedSpend
  split_ifs with hon
  · exact recordSpend_spends hon.1 hon.2 hrun
  unfold recordSpend at hrun
  by_cases hoff : h.limiter = false ∨ cost ≤ 0
  · rw [if_pos hoff] at hrun
    obtain ⟨rfl, -⟩ := hrun.done
    rfl
  have hkey : ¬ ctx.vkeyID ≠ "" := by
    intro hkey
    refine hon ⟨?_, hkey⟩
    have hlim := (not_or.mp hoff).1
    simpa using hlim
  rw [if_neg hoff, if_neg hkey] at hrun
  obtain ⟨rfl, -⟩ := hrun.done
  rfl

def Recorded (h : Handler) (log : List GEvent) : Prop := h.recorder = true → records log ≠ []

lemma Recorded.prepend (hlog : Recorded h log) : Recorded h (l ++ log) := by
  intro hrec hnil
  rw [records_append] at hnil
  exact hlog hrec (append_eq_nil_iff.mp hnil).2

lemma written_of_evidence {t : Trace} (attempts : List ProviderAttempt)
    (reasons : List PolicyReason)
    (hrecords : records log = if h.recorder = true then [evidence h t attempts reasons] else [])
    (hbill : billOf t = b)
    (hheader : ∀ cost resp, reply = .ok (.completion cost resp) → cost = b.cost)
    (hspends : spends log = reportedSpend h ctx b.cost) :
    Written h ctx b log reply ∧ Recorded h log := by
  refine ⟨⟨?_, hheader, hspends⟩, ?_⟩
  · intro t' ht'
    rw [hrecords] at ht'
    by_cases hrec : h.recorder = true
    · rw [if_pos hrec] at ht'
      obtain rfl := mem_singleton.mp ht'
      exact hbill
    · rw [if_neg hrec] at ht'
      cases ht'
  · intro hrec
    rw [hrecords, if_pos hrec]
    exact cons_ne_nil _ _

lemma closing_written {t : α → Trace} {attempts : α → List ProviderAttempt}
    {reasons : α → List PolicyReason} {answer : α → Reply ChatBody}
    (hp : Within es p) (hrecord : decide (.record ∈ es) = false)
    (hspend : decide (.spend ∈ es) = false) (hbill : ∀ a, billOf (t a) = b)
    (hheader : ∀ a cost resp, answer a = .ok (.completion cost resp) → cost = b.cost)
    (hrun : (p >>= fun a => recordEvidence h (t a) (attempts a) (reasons a) >>= fun _ =>
      recordSpend h ctx b.cost >>= fun _ => pure (answer a)).Runs log reply) :
    Written h ctx b log reply ∧ Recorded h log := by
  obtain ⟨l1, a, _, rfl, hfirst, hrun1⟩ := hrun.split
  obtain ⟨l2, _, _, rfl, hevidence, hrun2⟩ := hrun1.split
  obtain ⟨_, hspent, rfl⟩ := hrun2.map
  refine written_of_evidence (t := t a) (attempts a) (reasons a) ?_ (hbill a) (hheader a) ?_
  · rw [records_append, records_append, hp.records_eq_nil hfirst hrecord,
      recordEvidence_records hevidence,
      (recordSpend_within ..).records_eq_nil hspent rfl, append_nil, nil_append]
  · rw [spends_append, spends_append, hp.spends_eq_nil hfirst hspend,
      (recordEvidence_within ..).spends_eq_nil hevidence rfl,
      recordSpend_reported hspent, nil_append, nil_append]

lemma closing_written_zero {t : α → Trace} {attempts : α → List ProviderAttempt}
    {reasons : α → List PolicyReason} {answer : α → Reply ChatBody}
    (hp : Within es p) (hrecord : decide (.record ∈ es) = false)
    (hspend : decide (.spend ∈ es) = false) (hbill : ∀ l a, p.Runs l a → billOf (t a) = .zero)
    (hheader : ∀ a cost resp, answer a = .ok (.completion cost resp) → cost = 0)
    (hrun : (p >>= fun a => recordEvidence h (t a) (attempts a) (reasons a) >>= fun _ =>
      pure (answer a)).Runs log reply) : Written h ctx .zero log reply ∧ Recorded h log := by
  obtain ⟨l1, a, _, rfl, hfirst, hrun1⟩ := hrun.split
  obtain ⟨_, hevidence, rfl⟩ := hrun1.map
  refine written_of_evidence (t := t a) (attempts a) (reasons a) ?_ (hbill l1 a hfirst)
    (hheader a) ?_
  · rw [records_append, hp.records_eq_nil hfirst hrecord, recordEvidence_records hevidence,
      nil_append]
  · rw [spends_append, hp.spends_eq_nil hfirst hspend,
      (recordEvidence_within ..).spends_eq_nil hevidence rfl]
    exact (reportedSpend_zero h ctx).symm

variable {req : ChatCompletionRequest} {cand : Candidate} {q : Provider} {t : Trace}

lemma newTrace_unpriced {provider : String} (hrun : (newTrace h ctx req provider).Runs log t) :
    billOf t = .zero := by
  obtain ⟨_, _, -, hrun1⟩ := hrun.first
  obtain ⟨_, _, -, hrun2⟩ := hrun1.first
  obtain ⟨_, _, -, hret⟩ := hrun2.first
  obtain ⟨-, rfl⟩ := hret.done
  rfl

lemma beginAttempt_unpriced {reqTrace : Trace} {streamed : Bool} {begun : Trace × Int}
    (hrun : (beginAttempt h ctx req reqTrace cand q streamed).Runs log begun) :
    billOf begun.1 = .zero := by
  obtain ⟨_, t, _, -, htrace, hrun1⟩ := hrun.split
  obtain ⟨_, _, -, hret⟩ := hrun1.first
  obtain ⟨-, rfl⟩ := hret.done
  have hzero := newTrace_unpriced htrace
  exact hzero

end FfxNexus.Spend
