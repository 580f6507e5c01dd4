/-
**What a unary chat request charges.** The responses of a run come from one candidate: the first,
and those of the correction loop.
-/
import FfxNexus.Spend.Bill

namespace FfxNexus.Spend
open List
open Interaction Schema Providers Guardrails Pricing Gateway Chat Translated Endpoints Effects
open Interaction.Prog hiding perform

section
variable {h : Handler} {ctx callCtx : Ctx} {req attempt : ChatCompletionRequest} {start : Int}
variable {chain : List String} {w : Walk} {cand : Candidate} {p : Provider} {fwd : String}
variable {vec : List ℚ} {t : Trace} {log : List GEvent} {reply : Reply ChatBody}

structure PricedAs (cand : Candidate) (resp : ChatCompletionResponse) (d : Draft) : Prop where
  usage : d.resp.usage = resp.usage
  requestModel : d.trace.requestModel = cand.model
  responseModel : d.trace.responseModel = resp.model

variable {resp : ChatCompletionResponse} {d : Draft}

lemma PricedAs.cost (hd : PricedAs cand resp d) :
    responseCost d.trace d.resp = (responseReport cand.model resp).cost := by
  unfold responseCost Report.cost responseReport
  rw [hd.usage, hd.requestModel, hd.responseModel]

variable (g : Option Guard)

lemma PricedAs.checkDraft (schema : String) (hd : PricedAs cand resp d) :
    PricedAs cand resp (checkDraft g schema d) := by
  refine ⟨?_, hd.requestModel, hd.responseModel⟩
  unfold Chat.checkDraft
  rw [setContent_usage]
  exact hd.usage

@[simp] lemma redactFirst_usage (resp : ChatCompletionResponse) :
    (redactFirst g resp).1.usage = resp.usage := by
  unfold redactFirst
  split
  · rfl
  dsimp only
  split
  · exact setContent_usage _ _
  · rfl

@[simp] lemma redactFirst_model (resp : ChatCompletionResponse) :
    (redactFirst g resp).1.model = resp.model := by
  unfold redactFirst
  split
  · rfl
  dsimp only
  split
  · exact setContent_model _ _
  · rfl

lemma PricedAs.retried (hd : PricedAs cand resp d) (g : Option Guard)
    (attempt : ChatCompletionRequest) (cresp : ChatCompletionResponse) :
    PricedAs cand cresp (d.retried attempt (redactFirst g cresp).1) :=
  ⟨redactFirst_usage g cresp, hd.requestModel, redactFirst_model g cresp⟩

variable (rs : List ChatCompletionResponse)

def promptTokens : Int :=
  (rs.map fun r => r.usage.promptTokens).sum

def completionTokens : Int :=
  (rs.map fun r => r.usage.completionTokens).sum

@[simp] lemma promptTokens_nil : promptTokens [] = 0 := rfl

@[simp] lemma completionTokens_nil : completionTokens [] = 0 := rfl

@[simp] lemma promptTokens_cons (r : ChatCompletionResponse) (rs : List ChatCompletionResponse) :
    promptTokens (r :: rs) = r.usage.promptTokens + promptTokens rs := by
  simp [promptTokens]

@[simp] lemma completionTokens_cons (r : ChatCompletionResponse)
    (rs : List ChatCompletionResponse) :
    completionTokens (r :: rs) = r.usage.completionTokens + completionTokens rs := by
  simp [completionTokens]

structure Corrections (accepted rejected : List ChatCompletionResponse) : Prop where
  accepted : ∀ r ∈ accepted, r.choices ≠ []
  rejected : rejected = [] ∨ ∃ e, rejected = [e] ∧ e.choices = []

variable {first : ChatCompletionResponse}

lemma correctionLoop_answers {g : Option Guard} {schema : String} {n : ℕ} {d' : Draft}
    (hd : PricedAs cand first d) (hrun : (correctionLoop g cand p callCtx schema n d).Runs log d') :
    ∃ accepted rejected, Corrections accepted rejected ∧
      answers log = (accepted ++ rejected).map (cand, ·) ∧ opened log = [] ∧
      PricedAs cand (accepted.getLastD first) d' ∧
      d'.trace.inputTokens = d.trace.inputTokens + promptTokens accepted ∧
      d'.trace.outputTokens = d.trace.outputTokens + completionTokens accepted := by
  have stop : ∀ {first : ChatCompletionResponse} {d d' : Draft}, PricedAs cand first d' →
      d'.trace = d.trace →
      ∃ accepted rejected, Corrections accepted rejected ∧
        ([] : List (Candidate × ChatCompletionResponse)) =
          (accepted ++ rejected).map (cand, ·) ∧ opened [] = [] ∧
        PricedAs cand (accepted.getLastD first) d' ∧
        d'.trace.inputTokens = d.trace.inputTokens + promptTokens accepted ∧
        d'.trace.outputTokens = d.trace.outputTokens + completionTokens accepted := by
    intro first d d' hd htrace
    refine ⟨[], [], ⟨by simp, .inl rfl⟩, rfl, rfl, hd, ?_, ?_⟩
    · rw [htrace, promptTokens_nil, add_zero]
    · rw [htrace, completionTokens_nil, add_zero]
  induction n generalizing d first log with
  | zero =>
    obtain ⟨rfl, rfl⟩ := hrun.done
    exact stop hd rfl
  | succ n ih =>
    rw [correctionLoop] at hrun
    split at hrun
    · obtain ⟨rfl, rfl⟩ := hrun.done
      exact stop hd rfl
    obtain ⟨x, rest, rfl, hrun1⟩ := hrun.first
    cases x with
    | error err =>
      obtain ⟨rfl, rfl⟩ := hrun1.done
      exact stop ⟨hd.usage, hd.requestModel, hd.responseModel⟩ rfl
    | ok cresp =>
      dsimp only at hrun1
      split at hrun1
      · -- a response without choices is dropped: it was reported, and is not what is charged
        rename_i hempty
        obtain ⟨rfl, rfl⟩ := hrun1.done
        refine ⟨[], [cresp], ⟨by simp, .inr ⟨cresp, rfl, hempty⟩⟩, rfl, rfl,
          ⟨hd.usage, hd.requestModel, hd.responseModel⟩, ?_, ?_⟩
        · rw [promptTokens_nil, add_zero]
        · rw [completionTokens_nil, add_zero]
      · rename_i hchoices
        have hd' := PricedAs.checkDraft g schema (hd.retried g
          (withSchemaCorrection d.attempt (d.resp.content?.getD "") d.finding.reason) cresp)
        obtain ⟨accepted, rejected, hc, hanswers, hopened, hpriced, hin, hout⟩ :=
          ih hd' hrun1
        have husage : (redactFirst g cresp).1.usage = cresp.usage := redactFirst_usage g cresp
        refine ⟨cresp :: accepted, rejected,
          ⟨forall_mem_cons.mpr ⟨hchoices, hc.accepted⟩, hc.rejected⟩, ?_, hopened, ?_, ?_, ?_⟩
        · exact congrArg ((cand, cresp) :: ·) hanswers
        · rw [getLastD_cons]
          exact hpriced
        · rw [hin, promptTokens_cons, ← add_assoc, ← husage]
          rfl
        · rw [hout, completionTokens_cons, ← add_assoc, ← husage]
          rfl

def answerCost (a : Candidate × ChatCompletionResponse) : ℚ := (responseReport a.1.model a.2).cost

def metered : List (Candidate × ChatCompletionResponse) → List (Candidate × ChatCompletionResponse)
  | [] => []
  | a :: as => a :: as.filter fun c => c.2.choices ≠ []

variable (as : List (Candidate × ChatCompletionResponse))

def billed : Bill where
  cost := ((metered as).getLast?.map answerCost).getD 0
  inputTokens := promptTokens ((metered as).map Prod.snd)
  outputTokens := completionTokens ((metered as).map Prod.snd)

variable {accepted rejected : List ChatCompletionResponse}

lemma metered_corrections
    (hc : Corrections accepted rejected) :
    metered ((first :: (accepted ++ rejected)).map (cand, ·)) =
      (first :: accepted).map (cand, ·) := by
  have haccepted : (accepted.map (cand, ·)).filter (fun c => decide (c.2.choices ≠ [])) =
      accepted.map (cand, ·) := by
    rw [filter_eq_self]
    intro c hmem
    obtain ⟨r, hr, rfl⟩ := mem_map.mp hmem
    exact decide_eq_true (hc.accepted r hr)
  have hrejected : (rejected.map (cand, ·)).filter (fun c => decide (c.2.choices ≠ [])) = [] := by
    rcases hc.rejected with rfl | ⟨e, rfl, hempty⟩
    · rfl
    · simp [hempty]
  rw [map_cons, metered, map_append, filter_append, haccepted, hrejected, append_nil, map_cons]

lemma billed_corrections
    (hc : Corrections accepted rejected) :
    billed ((first :: (accepted ++ rejected)).map (cand, ·)) =
      ⟨(responseReport cand.model (accepted.getLastD first)).cost,
        first.usage.promptTokens + promptTokens accepted,
        first.usage.completionTokens + completionTokens accepted⟩ := by
  have hsnd : ((first :: accepted).map (cand, ·)).map Prod.snd = first :: accepted := by
    rw [map_map]
    exact map_id _
  unfold billed
  rw [metered_corrections hc, hsnd, promptTokens_cons, completionTokens_cons, getLast?_map,
    getLast?_cons, getLastD_eq_getLast?]
  rfl

def FromOneCandidate : Prop :=
  as = [] ∨ ∃ cand first accepted rejected, Corrections accepted rejected ∧
    as = (first :: (accepted ++ rejected)).map (cand, ·)

structure Settled (h : Handler) (ctx : Ctx) (log : List GEvent) (reply : Reply ChatBody) :
    Prop where
  opened : opened log = []
  responses : FromOneCandidate (answers log)
  written : Written h ctx (billed (answers log)) log reply
  recorded : Recorded h log

lemma Settled.prepend {l : List GEvent} (hquiet : Quiet l) (hlog : Settled h ctx log reply) :
    Settled h ctx (l ++ log) reply := by
  have hanswers : answers (l ++ log) = answers log := by
    rw [answers_append, hquiet.answers, nil_append]
  refine ⟨?_, ?_, ?_, hlog.recorded.prepend⟩
  · rw [opened_append, hquiet.opened, hlog.opened, nil_append]
  · rw [hanswers]
    exact hlog.responses
  · rw [hanswers]
    exact hlog.written.prepend hquiet.records hquiet.spends

lemma settled_of_zero (hanswers : answers log = []) (hopened : opened log = [])
    (hlog : Written h ctx .zero log reply ∧ Recorded h log) : Settled h ctx log reply := by
  refine ⟨hopened, .inl hanswers, ?_, hlog.2⟩
  rw [hanswers]
  exact hlog.1

lemma serveFresh_written (hrun : (serveFresh h ctx req chain cand vec w t resp).Runs log reply) :
    Written h ctx ⟨responseCost t resp, t.inputTokens, t.outputTokens⟩ log reply ∧
      Recorded h log := by
  refine closing_written (fillCache_within ..) rfl rfl (fun _ => rfl) ?_ hrun
  rintro _ cost resp' ⟨⟩
  rfl

lemma schemaBlocked_written (hrun : (schemaBlocked h ctx chain cand start w d).Runs log reply) :
    Written h ctx ⟨responseCost d.trace d.resp, d.trace.inputTokens, d.trace.outputTokens⟩ log
      reply ∧ Recorded h log := by
  refine closing_written (sinceMs_within ..) rfl rfl (fun _ => rfl) ?_ hrun
  intro _ cost resp hreply
  cases hreply

lemma costUSD_no_tokens (requestModel responseModel : String) :
    costUSD requestModel responseModel 0 0 = 0 := by
  unfold costUSD costForModel
  split
  · simp [applyBasic]
  · rfl

lemma serveCached_written {cached : ChatCompletionResponse} (hbill : billOf t = .zero)
    (hrun : (serveCached h chain cand t start w cached).Runs log reply) :
    Written h ctx .zero log reply ∧ Recorded h log := by
  have hin : t.inputTokens = 0 := congrArg Bill.inputTokens hbill
  have hout : t.outputTokens = 0 := congrArg Bill.outputTokens hbill
  have hcost : costUSD t.requestModel cached.model t.inputTokens t.outputTokens = 0 := by
    rw [hin, hout]
    exact costUSD_no_tokens _ _
  refine closing_written_zero (sinceMs_within ..) rfl rfl ?_ ?_ hrun
  · intro _ ms _
    exact Bill.mk.injEq .. ▸ ⟨hcost, hin, hout⟩
  · rintro _ cost resp ⟨⟩
    exact hcost

def Unpriced (w : Walk) : Prop := ∀ t, w.lastTrace = some t → billOf t = .zero

variable {reqTrace : Trace}

lemma exhausted_written {streamed : Bool} (hreq : billOf reqTrace = .zero) (hw : Unpriced w)
    (hrun : (exhausted h reqTrace streamed start w).Runs log reply) :
    Written h ctx .zero log reply ∧ Recorded h log := by
  refine closing_written_zero (exhaustedTrace_within ..) rfl rfl ?_ ?_ hrun
  · intro l t' hrun'
    unfold exhaustedTrace at hrun'
    cases hlast : w.lastTrace with
    | some t =>
      rw [hlast] at hrun'
      obtain ⟨-, rfl⟩ := hrun'.done
      exact hw _ hlast
    | none =>
      rw [hlast] at hrun'
      obtain ⟨ms, -, rfl⟩ := hrun'.map
      exact hreq
  · intro _ cost resp hreply
    cases hreply

lemma missingCredential_unpriced {n : ℕ} {err : String} {w' : Walk} (hbill : billOf t = .zero)
    (hrun : (missingCredential n cand t start err w).Runs log w') : Unpriced w' := by
  obtain ⟨ms, -, rfl⟩ := hrun.map
  rintro t' ⟨⟩
  exact hbill

lemma unaryFailed_unpriced {err : String} {w' : Walk} (hbill : billOf t = .zero)
    (hrun : (unaryFailed h req chain cand t start err w).Runs log w') : Unpriced w' := by
  have hfailed : ∀ ms, Unpriced
      (failedWalk chain cand (failedTrace chain.length cand t ms err) err w) := by
    rintro ms t' ⟨⟩
    exact hbill
  obtain ⟨_, _, -, hrun1⟩ := hrun.first
  obtain ⟨_, ms, _, -, -, hrun2⟩ := hrun1.split
  split at hrun2
  · obtain ⟨_, _, -, hrun3⟩ := hrun2.first
    split at hrun3
    · obtain ⟨_, _, -, hret⟩ := hrun3.first
      obtain ⟨-, rfl⟩ := hret.done
      exact hfailed ms
    · obtain ⟨-, rfl⟩ := hrun3.done
      exact hfailed ms
  · obtain ⟨-, rfl⟩ := hrun2.done
    exact hfailed ms

lemma answerUpstream_settled (hmodel : t.requestModel = cand.model)
    (hrun : (answerUpstream h ctx req chain cand p callCtx attempt start vec w t resp).Runs
      log reply) : ∃ accepted rejected, Corrections accepted rejected ∧
      answers log = (accepted ++ rejected).map (cand, ·) ∧ opened log = [] ∧
      Written h ctx (billed ((resp :: (accepted ++ rejected)).map (cand, ·))) log reply ∧
      Recorded h log := by
  obtain ⟨l1, ms, l2, rfl, hms, hrun1⟩ := hrun.split
  have hquiet := quiet_of_within (sinceMs_within start) hms rfl rfl rfl
  dsimp only at hrun1
  split at hrun1
  · obtain ⟨l3, d, l4, rfl, hloop, hrun2⟩ := hrun1.split
    obtain ⟨accepted, rejected, hc, hanswers, hopened, hpriced, hin, hout⟩ :=
      correctionLoop_answers
        (PricedAs.checkDraft h.guard _ ⟨redactFirst_usage h.guard resp, hmodel, rfl⟩) hloop
    have hcost : responseCost d.stampAction.trace d.stampAction.resp = _ := hpriced.cost
    have hserved : answers l4 = [] ∧ opened l4 = [] ∧ Written h ctx
        ⟨responseCost d.stampAction.trace d.stampAction.resp, d.trace.inputTokens,
          d.trace.outputTokens⟩ l4 reply ∧ Recorded h l4 := by
      split at hrun2
      · exact ⟨within_answers_eq_nil (schemaBlocked_within ..) hrun2 rfl,
          within_opened_eq_nil (schemaBlocked_within ..) hrun2 rfl, schemaBlocked_written hrun2⟩
      · exact ⟨within_answers_eq_nil (serveFresh_within ..) hrun2 rfl,
          within_opened_eq_nil (serveFresh_within ..) hrun2 rfl, serveFresh_written hrun2⟩
    obtain ⟨hanswers4, hopened4, hwritten, hrecorded⟩ := hserved
    refine ⟨accepted, rejected, hc, ?_, ?_, ?_, hrecorded.prepend.prepend⟩
    · rw [answers_append, answers_append, hquiet.answers, hanswers, hanswers4, nil_append,
        append_nil]
    · rw [opened_append, opened_append, hquiet.opened, hopened, hopened4]
      rfl
    have hbill : billed ((resp :: (accepted ++ rejected)).map (cand, ·)) =
        ⟨responseCost d.stampAction.trace d.stampAction.resp, d.trace.inputTokens,
          d.trace.outputTokens⟩ := by
      rw [billed_corrections hc, hcost, hin, hout]
      rfl
    rw [hbill]
    have hwithin := correctionLoop_within h.guard cand p callCtx
      (schemaBytes req.responseFormat) h.selfCorrectMax
    exact (hwritten.prepend ((hwithin _).records_eq_nil hloop rfl)
      ((hwithin _).spends_eq_nil hloop rfl)).prepend hquiet.records hquiet.spends
  · have hbill : billed (([resp] : List ChatCompletionResponse).map (cand, ·)) =
        ⟨responseCost { t with responseModel := resp.model } (redactFirst h.guard resp).1,
          resp.usage.promptTokens, resp.usage.completionTokens⟩ := by
      have hnone : Corrections [] [] := ⟨by simp, .inl rfl⟩
      have hlone : billed ((resp :: ([] ++ [])).map (cand, ·)) = _ := billed_corrections hnone
      rw [promptTokens_nil, completionTokens_nil, add_zero, add_zero] at hlone
      refine hlone.trans ?_
      simp only [responseCost, redactFirst_usage, hmodel]
      rfl
    obtain ⟨hwritten, hrecorded⟩ := serveFresh_written hrun1
    refine ⟨[], [], ⟨by simp, .inl rfl⟩, ?_, ?_, ?_, hrecorded.prepend⟩
    · rw [answers_append, hquiet.answers, within_answers_eq_nil (serveFresh_within ..) hrun1 rfl]
      rfl
    · rw [opened_append, hquiet.opened, within_opened_eq_nil (serveFresh_within ..) hrun1 rfl]
      rfl
    · rw [append_nil, hbill]
      exact hwritten.prepend hquiet.records hquiet.spends

lemma unaryAttempt_settled {r : Round Walk (Reply ChatBody)}
    (hrun : (unaryAttempt h ctx req reqTrace chain w cand p fwd).Runs log r) :
    (∀ w', r = .next w' → Quiet log ∧ Unpriced w') ∧
      ∀ reply, r = .done reply → Settled h ctx log reply := by
  obtain ⟨l1, begun, _, rfl, hbegin, hrun1⟩ := hrun.split
  obtain ⟨l2, x, _, rfl, hinject, hrun2⟩ := hrun1.split
  have hfront : Quiet (l1 ++ l2) :=
    (quiet_of_within (beginAttempt_within ..) hbegin rfl rfl rfl).append
      (quiet_of_within (injectCredential_within ..) hinject rfl rfl rfl)
  have hmodel := (beginAttempt_models hbegin).1
  have hbill := beginAttempt_unpriced hbegin
  rw [← append_assoc]
  have decided : ∀ {before after : List GEvent}, Quiet before →
      ((∀ w', r = .next w' → Quiet after ∧ Unpriced w') ∧
        ∀ reply, r = .done reply → Settled h ctx after reply) →
      (∀ w', r = .next w' → Quiet (before ++ after) ∧ Unpriced w') ∧
        ∀ reply, r = .done reply → Settled h ctx (before ++ after) reply :=
    fun hbefore hafter =>
      ⟨fun w' hnext => ⟨hbefore.append (hafter.1 w' hnext).1, (hafter.1 w' hnext).2⟩,
        fun reply hdone => (hafter.2 reply hdone).prepend hbefore⟩
  refine decided hfront ?_
  match x with
  | .error err =>
    obtain ⟨w', hmissing, rfl⟩ := hrun2.map
    refine ⟨?_, fun reply hdone => by cases hdone⟩
    rintro w'' ⟨⟩
    exact ⟨quiet_of_within (missingCredential_within ..)
      hmissing rfl rfl rfl, missingCredential_unpriced hbill hmissing⟩
  | .ok (callCtx, source) =>
    obtain ⟨l3, y, _, rfl, hlookup, hrun3⟩ := hrun2.split
    refine decided (quiet_of_within (lookupCache_within ..) hlookup rfl rfl rfl) ?_
    cases y with
    | inl cached =>
      obtain ⟨reply', hserve, rfl⟩ := hrun3.map
      refine ⟨fun w' hnext => (by cases hnext), ?_⟩
      rintro reply ⟨⟩
      exact settled_of_zero (within_answers_eq_nil (serveCached_within ..) hserve rfl)
        (within_opened_eq_nil (serveCached_within ..) hserve rfl)
        (serveCached_written (by exact hbill) hserve)
    | inr vec =>
      obtain ⟨z, l4, rfl, hrun4⟩ := hrun3.first
      cases z with
      | error err =>
        obtain ⟨w', hfailed, rfl⟩ := hrun4.map
        refine ⟨?_, fun reply hdone => by cases hdone⟩
        rintro w'' ⟨⟩
        have hquiet := quiet_of_within (unaryFailed_within ..) hfailed rfl rfl rfl
        exact ⟨⟨⟨hquiet.answers, hquiet.opened, hquiet.spends⟩, hquiet.records⟩,
          unaryFailed_unpriced (by exact hbill) hfailed⟩
      | ok resp =>
        obtain ⟨reply', hanswer, rfl⟩ := hrun4.map
        refine ⟨fun w' hnext => (by cases hnext), ?_⟩
        rintro reply ⟨⟩
        obtain ⟨accepted, rejected, hc, hanswers, hopened, hwritten, hrecorded⟩ :=
          answerUpstream_settled (by exact hmodel) hanswer
        obtain ⟨hcons, hopened', -⟩ := answer_cons cand p callCtx
          { req with model := fwd } resp l4
        have hall : answers
            (⟨.chatCompletion cand p callCtx { req with model := fwd }, .ok resp⟩ :: l4) =
              (resp :: (accepted ++ rejected)).map (cand, ·) := by
          rw [hcons, hanswers, map_cons]
        refine ⟨hopened'.trans hopened, .inr ⟨cand, resp, accepted, rejected, hc, hall⟩,
          ?_, hrecorded⟩
        rw [hall]
        exact ⟨hwritten.traces, hwritten.header, hwritten.spends⟩

lemma unaryLoop_settled {i : ℕ} {rest : List String} (hreq : billOf reqTrace = .zero)
    (hw : Unpriced w) (hrun : (unaryLoop h ctx req start reqTrace chain i rest w).Runs log reply) :
    Settled h ctx log reply := by
  induction rest generalizing i w log with
  | nil =>
    exact settled_of_zero (within_answers_eq_nil (exhausted_within ..) hrun rfl)
      (within_opened_eq_nil (exhausted_within ..) hrun rfl)
      (exhausted_written hreq hw hrun)
  | cons m rest ih =>
    rw [unaryLoop] at hrun
    cases hm : h.registry.resolve m with
    | error err =>
      rw [hm] at hrun
      exact ih (by exact hw) hrun
    | ok pf =>
      rw [hm] at hrun
      obtain ⟨l1, r, l2, rfl, hattempt, hrun1⟩ := hrun.split
      obtain ⟨hnext, hdone⟩ := unaryAttempt_settled hattempt
      cases r with
      | next w' =>
        obtain ⟨hquiet, hw'⟩ := hnext w' rfl
        exact (ih hw' hrun1).prepend hquiet
      | done reply' =>
        obtain ⟨rfl, rfl⟩ := hrun1.done
        rw [append_nil]
        exact hdone _ rfl

lemma handleUnary_settled (hrun : (handleUnary h ctx chain req start).Runs log reply) :
    Settled h ctx log reply := by
  obtain ⟨l1, reqTrace, l2, rfl, htrace, hloop⟩ := hrun.split
  have hstart : Unpriced .start := by
    intro t ht
    cases ht
  exact (unaryLoop_settled (newTrace_unpriced htrace) hstart hloop).prepend
    (quiet_of_within (newTrace_within ..) htrace rfl rfl rfl)

structure Billed (ctx : Ctx) (cand : Candidate) (first : ChatCompletionResponse)
    (accepted rejected : List ChatCompletionResponse) (log : List GEvent) : Prop where
  corrections : Corrections accepted rejected
  opened : opened log = []
  spends : spends log =
    charge ctx (responseReport cand.model (accepted.getLastD first)).cost

def UnaryBilled (ctx : Ctx) (log : List GEvent) : Prop :=
  Idle log ∨ ∃ cand first accepted rejected,
    answers log = (first :: (accepted ++ rejected)).map (cand, ·) ∧
      Billed ctx cand first accepted rejected log

lemma UnaryBilled.prepend {l : List GEvent} (hidle : Idle l) (hlog : UnaryBilled ctx log) :
    UnaryBilled ctx (l ++ log) := by
  rcases hlog with hlog | ⟨cand, first, accepted, rejected, hanswers, hbilled⟩
  · exact .inl (hidle.append hlog)
  refine .inr ⟨cand, first, accepted, rejected, ?_, hbilled.corrections, ?_, ?_⟩
  · rw [answers_append, hidle.answers, hanswers, nil_append]
  · rw [opened_append, hidle.opened, hbilled.opened, nil_append]
  · rw [spends_append, hidle.spends, hbilled.spends, nil_append]

lemma handleUnary_billed (hlim : h.limiter = true) (hkey : ctx.vkeyID ≠ "")
    (hrun : (handleUnary h ctx chain req start).Runs log reply) : UnaryBilled ctx log := by
  have hsettled := handleUnary_settled hrun
  have hspends : spends log = charge ctx (billed (answers log)).cost := by
    rw [hsettled.written.spends, reportedSpend, if_pos ⟨hlim, hkey⟩]
  rcases hsettled.responses with hnone | ⟨cand, first, accepted, rejected, hc, hall⟩
  · refine .inl ⟨hnone, hsettled.opened, ?_⟩
    rw [hspends, hnone]
    simp [billed, metered, charge]
  · refine .inr ⟨cand, first, accepted, rejected, hall, hc, hsettled.opened, ?_⟩
    rw [hspends, hall, billed_corrections hc]

end

def UnaryMetered (as : List (Candidate × ChatCompletionResponse)) : Prop :=
  ∀ before prev last, as = before ++ [prev, last] → last.2.choices = [] →
    0 < (responseReport last.1.model last.2).cost →
    (responseReport prev.1.model prev.2).cost = (responseReport last.1.model last.2).cost

lemma map_cons_eq_append_pair {α γ : Type} {f : α → γ} {a : α} {l : List α}
    {before : List γ} {prev last : γ} (heq : (a :: l).map f = before ++ [prev, last]) :
    ∃ init x, l = init ++ [x] ∧ f x = last ∧ f (init.getLastD a) = prev := by
  rcases eq_nil_or_concat l with rfl | ⟨init, x, rfl⟩
  · exact absurd (congrArg length heq) (by simp)
  rw [concat_eq_append] at heq ⊢
  have hsplit : (a :: init).map f ++ [f x] = (before ++ [prev]) ++ [last] := by
    simpa using heq
  obtain ⟨hinit, hlast⟩ := append_inj' hsplit rfl
  refine ⟨init, x, rfl, singleton_inj.mp hlast, ?_⟩
  have hprev := congrArg getLast? hinit
  rw [getLast?_map, getLast?_cons, getLast?_concat] at hprev
  rw [getLastD_eq_getLast?]
  exact Option.some.inj hprev

lemma UnaryBilled.complete_iff {ctx : Ctx} {log : List GEvent} (hlog : UnaryBilled ctx log) :
    SpendComplete (fun cand => cand.model) ctx log ↔ UnaryMetered (answers log) := by
  rcases hlog with hidle | ⟨cand, first, accepted, rejected, hanswers, hbilled⟩
  · refine ⟨fun _ before prev last heq => ?_, fun _ => idle_complete hidle⟩
    rw [hidle.answers] at heq
    simp at heq
  have hreported : reported (fun cand => cand.model) log =
      some (responseReport cand.model ((accepted ++ rejected).getLastD first)) := by
    unfold reported
    rw [hbilled.opened, hanswers, getLast?_map, getLast?_cons, getLastD_eq_getLast?]
    rfl
  have hcomplete : SpendComplete (fun cand => cand.model) ctx log ↔
      (0 < (responseReport cand.model ((accepted ++ rejected).getLastD first)).cost →
        (responseReport cand.model (accepted.getLastD first)).cost =
          (responseReport cand.model ((accepted ++ rejected).getLastD first)).cost) := by
    unfold SpendComplete
    rw [hreported, hbilled.spends]
    simp only [Option.some.injEq, forall_eq']
    exact imp_congr_right fun hpos => charge_eq_iff hpos
  rw [hcomplete, hanswers]
  rcases hbilled.corrections.rejected with rfl | ⟨e, rfl, hempty⟩
  · -- the last response is the one charged, and it is the first or has a choice
    rw [append_nil]
    refine ⟨fun _ before prev last heq hnochoice => ?_, fun _ _ => rfl⟩
    obtain ⟨init, r, hinit, rfl, -⟩ := map_cons_eq_append_pair heq
    exact absurd hnochoice (hbilled.corrections.accepted r (by simp [hinit]))
  · rw [getLastD_concat]
    constructor
    · intro hcharged before prev last heq hnochoice
      obtain ⟨init, r, hinit, rfl, rfl⟩ := map_cons_eq_append_pair heq
      obtain ⟨rfl, hr⟩ := append_inj' hinit rfl
      obtain rfl := singleton_inj.mp hr
      exact hcharged
    · intro hmetered hpos
      rcases eq_nil_or_concat accepted with rfl | ⟨init, r, rfl⟩
      · exact hmetered [] (cand, first) (cand, e) rfl hempty hpos
      rw [concat_eq_append] at hmetered ⊢
      rw [getLastD_concat]
      refine hmetered ((first :: init).map (cand, ·)) (cand, r) (cand, e) ?_ hempty hpos
      simp

variable {h : Handler} {ctx : Ctx} {req : ChatCompletionRequest} {log : List GEvent}

structure Answered (log : List GEvent) (resp : Option ChatCompletionResponse)
    (responseModel : String) : Prop where
  opened : opened log = []
  spends : spends log = []
  answers : resp = none ∧ answers log = [] ∨
    ∃ cand r, resp = some r ∧ answers log = [(cand, r)] ∧ responseModel = r.model

lemma Idle.answered (hidle : Idle log) {m : String} : Answered log none m :=
  ⟨hidle.opened, hidle.spends, .inl ⟨rfl, hidle.answers⟩⟩

lemma Answered.prepend {l : List GEvent} {resp : Option ChatCompletionResponse} {m : String}
    (hidle : Idle l) (hlog : Answered log resp m) : Answered (l ++ log) resp m := by
  constructor
  · rw [opened_append, hidle.opened, hlog.opened, nil_append]
  · rw [spends_append, hidle.spends, hlog.spends, nil_append]
  · rw [answers_append, hidle.answers]
    exact hlog.answers

lemma translatedAttempt_answered {n : ℕ} {t : Trace} {start : Int} {cand : Candidate}
    {ref : ProviderRef} {x : Option ChatCompletionResponse × Trace}
    (hrun : (translatedAttempt h ctx req n t start cand ref).Runs log x) :
    Answered log x.1 x.2.responseModel := by
  obtain ⟨l1, answer, _, rfl, hlookup, hrun1⟩ := hrun.split
  refine .prepend (idle_of_within (lookupCredential_within ..) hlookup rfl rfl) ?_
  split at hrun1
  · obtain ⟨ms, hms, rfl⟩ := hrun1.map
    exact (idle_of_within (sinceMs_within _) hms rfl rfl).answered
  obtain ⟨y, l2, rfl, hrun2⟩ := hrun1.first
  cases y with
  | error err =>
    obtain ⟨ms, hms, rfl⟩ := hrun2.map
    have hidle := idle_of_within (sinceMs_within _) hms rfl rfl
    exact ⟨hidle.opened, hidle.spends, .inl ⟨rfl, hidle.answers⟩⟩
  | ok resp =>
    obtain ⟨ms, hms, rfl⟩ := hrun2.map
    have hidle := idle_of_within (sinceMs_within _) hms rfl rfl
    exact ⟨hidle.opened, hidle.spends,
      .inr ⟨cand, resp, rfl, congrArg ((cand, resp) :: ·) hidle.answers, rfl⟩⟩

lemma executeTranslated_answered {x : Option ChatCompletionResponse × Option Trace}
    (hrun : (executeTranslated h ctx req).Runs log x) :
    (x.2 = none ∧ Idle log) ∨ ∃ t, x.2 = some t ∧ Answered log x.1 t.responseModel := by
  unfold executeTranslated at hrun
  split at hrun
  · obtain ⟨rfl, rfl⟩ := hrun.done
    exact .inl ⟨rfl, idle_nil⟩
  rename_i refs hrefs
  obtain ⟨l1, t, _, rfl, htrace, hrun1⟩ := hrun.split
  obtain ⟨l2, start, _, rfl, hstart, hrun2⟩ := hrun1.split
  obtain ⟨r, hloop, rfl⟩ := hrun2.map
  refine .inr ⟨r.2, rfl, .prepend (idle_of_within (newTrace_within ..) htrace rfl rfl) <| .prepend
    (idle_of_within now_within hstart rfl rfl) ?_⟩
  cases refs with
  | nil =>
    obtain ⟨rfl, rfl⟩ := hloop.done
    exact idle_nil.answered
  | cons ref refs => exact translatedAttempt_answered hloop

lemma translated_complete {β : Type} {body : ℚ → ChatCompletionResponse → β} {reply : Reply β}
    (hlim : h.limiter = true) (hkey : ctx.vkeyID ≠ "") (hrun : (do
      let r ← executeTranslated h ctx req
      answerTranslated h ctx req body r).Runs log reply) :
    opened log = [] ∧ SpendComplete (fun _ => req.model) ctx log := by
  obtain ⟨l1, x, l2, rfl, hexecute, hanswer⟩ := hrun.split
  have hanswers := within_answers_eq_nil (answerTranslated_within ..) hanswer rfl
  have hopened := within_opened_eq_nil (answerTranslated_within ..) hanswer rfl
  unfold SpendComplete reported
  rw [opened_append, answers_append, hanswers, hopened]
  obtain ⟨resp?, t?⟩ := x
  rcases executeTranslated_answered hexecute with ⟨-, hidle⟩ | ⟨t, rfl, hanswered⟩
  · rw [hidle.opened, hidle.answers]
    exact ⟨rfl, fun rep hrep => by cases hrep⟩
  rw [hanswered.opened]
  refine ⟨rfl, fun rep hrep hpos => ?_⟩
  rcases hanswered.answers with ⟨-, hnone⟩ | ⟨cand, resp, rfl, hsome, hmodel⟩
  · rw [hnone] at hrep
    cases hrep
  rw [hsome] at hrep
  obtain rfl := Option.some.inj hrep
  obtain ⟨l3, _, _, rfl, hrecord, hrun1⟩ := hanswer.split
  obtain ⟨l4, _, _, rfl, hspend, hret⟩ := hrun1.split
  obtain ⟨rfl, -⟩ := hret.done
  rw [spends_append, spends_append, spends_append, hanswered.spends,
    (recordTrace_within ..).spends_eq_nil hrecord rfl, recordSpend_spends hlim hkey hspend, hmodel]
  simp only [append_nil, spends_nil]
  exact (charge_eq_iff hpos).mpr rfl

end FfxNexus.Spend
