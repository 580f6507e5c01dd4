/-
**What a stream charges.** A run opens at most one stream.
-/
import FfxNexus.Spend.Bill

namespace FfxNexus.Spend
open List Option
open Interaction Schema Providers Guardrails Pricing Gateway Chat Translated Endpoints Effects
open Interaction.Prog hiding perform

structure StreamBilled (charged : String → List StreamEvent → ℚ) (priced : Candidate → String)
    (ctx : Ctx) (log : List GEvent) : Prop where
  answers : answers log = []
  billed : opened log = [] ∨ ∃ cand s, opened log = [(cand, s)] ∧
    spends log = charge ctx (charged (priced cand) s.events)

def Fair (charged : String → List StreamEvent → ℚ) (requestModel : String)
    (events : List StreamEvent) : Prop :=
  ∀ rep, streamReport requestModel events = some rep → 0 < rep.cost →
    charged requestModel events = rep.cost

variable {h : Handler} {ctx : Ctx} {req : ChatCompletionRequest} {start : Int} {log : List GEvent}

section
variable {charged : String → List StreamEvent → ℚ} {priced : Candidate → String}

lemma Idle.streamBilled (hidle : Idle log) : StreamBilled charged priced ctx log :=
  ⟨hidle.answers, .inl hidle.opened⟩

lemma StreamBilled.prepend {l : List GEvent} (hidle : Idle l)
    (hlog : StreamBilled charged priced ctx log) : StreamBilled charged priced ctx (l ++ log) := by
  constructor
  · rw [answers_append, hidle.answers, hlog.answers, nil_append]
  · rw [opened_append, spends_append, hidle.opened, hidle.spends]
    exact hlog.billed

lemma StreamBilled.complete_iff (hlog : StreamBilled charged priced ctx log) :
    SpendComplete priced ctx log ↔ ∀ x ∈ opened log, Fair charged (priced x.1) x.2.events := by
  unfold SpendComplete reported
  rcases hlog.billed with hnone | ⟨cand, s, hopened, hspends⟩
  · -- no stream and no response: nothing is reported
    rw [hnone, hlog.answers]
    simp
  · rw [hopened, hspends, forall_mem_singleton]
    exact forall_congr' fun rep => imp_congr_right fun _ => imp_congr_right fun hpos =>
      charge_eq_iff hpos

structure Opens (cand : Candidate) (s : UpstreamStream) (log : List GEvent) : Prop where
  answers : answers log = []
  opened : opened log = [(cand, s)]
  spends : spends log = []

lemma Idle.refused (hidle : Idle log) (cand : Candidate) (q : Provider) (ctx : Ctx)
    (req : ChatCompletionRequest) (err : String) :
    Idle (⟨.chatCompletionStream cand q ctx req, .error err⟩ :: log) :=
  ⟨hidle.answers, hidle.opened, hidle.spends⟩

lemma Idle.opens (hidle : Idle log) (cand : Candidate) (q : Provider) (ctx : Ctx)
    (req : ChatCompletionRequest) (s : UpstreamStream) :
    Opens cand s (⟨.chatCompletionStream cand q ctx req, .ok s⟩ :: log) :=
  ⟨hidle.answers, congrArg ((cand, s) :: ·) hidle.opened, hidle.spends⟩

lemma Opens.prepend {cand : Candidate} {s : UpstreamStream} {l : List GEvent} (hidle : Idle l)
    (hopens : Opens cand s log) : Opens cand s (l ++ log) := by
  constructor
  · rw [answers_append, hidle.answers, hopens.answers, nil_append]
  · rw [opened_append, hidle.opened, hopens.opened, nil_append]
  · rw [spends_append, hidle.spends, hopens.spends, nil_append]

end

structure Fresh (cand : Candidate) (t : Trace) : Prop where
  requestModel : t.requestModel = cand.model
  responseModel : t.responseModel = ""
  unpriced : billOf t = .zero

variable {events : List StreamEvent} {c : ChatCompletionChunk}

section
variable {chain : List String} {w : Walk} {cand : Candidate} {p : Provider} {fwd : String}
variable {reqTrace : Trace} {reply : Reply ChatBody}

lemma streamAttempt_opens {r : Round Walk (Walk × Trace × UpstreamStream)}
    (hrun : (streamAttempt h ctx req reqTrace chain w cand p fwd).Runs log r) :
    (∃ w', r = .next w' ∧ Idle log) ∨
      ∃ w' t s, r = .done (w', t, s) ∧ Opens cand s log ∧ Fresh cand t := by
  obtain ⟨l1, begun, _, rfl, hbegin, hrun1⟩ := hrun.split
  obtain ⟨l2, x, _, rfl, hinject, hrun2⟩ := hrun1.split
  have hfront : Idle (l1 ++ l2) :=
    (idle_of_within (beginAttempt_within ..) hbegin rfl rfl).append
      (idle_of_within (injectCredential_within ..) hinject rfl rfl)
  obtain ⟨hrequest, hresponse⟩ := beginAttempt_models hbegin
  have hzero := beginAttempt_unpriced hbegin
  rw [← append_assoc]
  match x with
  | .error err =>
    obtain ⟨w', hmissing, rfl⟩ := hrun2.map
    exact .inl ⟨w', rfl, hfront.append
      (idle_of_within (missingCredential_within ..) hmissing rfl rfl)⟩
  | .ok (callCtx, source) =>
    obtain ⟨y, l3, rfl, hrun3⟩ := hrun2.first
    cases y with
    | error err =>
      obtain ⟨ms, hms, rfl⟩ := hrun3.map
      have hidle := idle_of_within (sinceMs_within _) hms rfl rfl
      exact .inl ⟨_, rfl, hfront.append (hidle.refused ..)⟩
    | ok s =>
      obtain ⟨rfl, rfl⟩ := hrun3.done
      exact .inr ⟨_, _, s, rfl, Opens.prepend hfront (idle_nil.opens ..),
        hrequest, hresponse, hzero⟩

lemma streamLoop_opens {i : ℕ} {rest : List String} {r : Walk × Option (Trace × UpstreamStream)}
    (hrun : (streamLoop h ctx req reqTrace chain i rest w).Runs log r) : (r.2 = none ∧ Idle log) ∨
      ∃ cand t s, r.2 = some (t, s) ∧ Opens cand s log ∧ Fresh cand t := by
  induction rest generalizing i w log with
  | nil =>
    obtain ⟨rfl, rfl⟩ := hrun.done
    exact .inl ⟨rfl, idle_nil⟩
  | cons m rest ih =>
    rw [streamLoop] at hrun
    cases hm : h.registry.resolve m with
    | error err =>
      rw [hm] at hrun
      exact ih hrun
    | ok pf =>
      rw [hm] at hrun
      obtain ⟨l1, x, l2, rfl, hattempt, hrun1⟩ := hrun.split
      rcases streamAttempt_opens hattempt with ⟨w', rfl, hidle⟩ | ⟨w', t, s, rfl, hopens, ht⟩
      · rcases ih hrun1 with ⟨hnone, hidle'⟩ | ⟨cand, t, s, hsome, hopens, ht⟩
        · exact .inl ⟨hnone, hidle.append hidle'⟩
        · exact .inr ⟨cand, t, s, hsome, hopens.prepend hidle, ht⟩
      · obtain ⟨rfl, rfl⟩ := hrun1.done
        rw [append_nil]
        exact .inr ⟨_, t, s, rfl, hopens, ht⟩

structure Known where
  usage : Option Usage
  cost : ℚ
  model : String

def Known.learn (k : Known) (e : StreamEvent) : Known :=
  match e.chunk with
  | none => k
  | some c => {
      usage := c.usage.or k.usage
      cost := (c.usage.map fun u => if 0 < u.estimatedCost then u.estimatedCost else k.cost).getD
        k.cost
      model := if c.model ≠ "" then c.model else k.model }

lemma foldl_learn (events : List StreamEvent) (k : Known) : events.foldl Known.learn k =
      ⟨((usages events).map some).getLastD k.usage, (estimates events).getLastD k.cost,
        (models events).getLastD k.model⟩ := by
  induction events generalizing k with
  | nil => rfl
  | cons e events ih =>
    rw [foldl_cons, ih]
    cases hc : e.chunk with
    | none =>
      simp only [Known.learn, hc, usages, estimates, models, chunks_cons_none events hc]
    | some c =>
      have hchunks := chunks_cons_some events hc
      have hmodels : (models (e :: events)).getLastD k.model =
          (models events).getLastD (if c.model ≠ "" then c.model else k.model) := by
        unfold models
        rw [hchunks, map_cons, filter_cons]
        by_cases hm : c.model = ""
        · simp [hm]
        · rw [if_pos (by simpa using hm), if_pos hm, getLastD_cons]
      rw [hmodels]
      cases hu : c.usage with
      | none => simp [Known.learn, hc, hu, usages, estimates, hchunks]
      | some u =>
        have husages : usages (e :: events) = u :: usages events := by
          unfold usages
          rw [hchunks, filterMap_cons, hu]
        have hestimates : (estimates (e :: events)).getLastD k.cost =
            (estimates events).getLastD
              (if 0 < u.estimatedCost then u.estimatedCost else k.cost) := by
          unfold estimates
          rw [husages, map_cons, filter_cons]
          by_cases hpos : 0 < u.estimatedCost
          · rw [if_pos (by simpa using hpos), if_pos hpos, getLastD_cons]
          · rw [if_neg (by simpa using hpos), if_neg hpos]
        rw [hestimates, husages, map_cons, getLastD_cons]
        simp [Known.learn, hc, hu]

def known (r : Relay) : Known := ⟨r.lastUsage, r.upstreamCost, r.trace.responseModel⟩

variable {r : Relay} {e : StreamEvent}

lemma known_observe {ms : Int} (hc : e.chunk = some c) :
    known (r.observe c ms) = (known r).learn e := by
  unfold Known.learn Relay.observe
  rw [hc]
  dsimp only
  cases hu : c.usage with
  | none => rfl
  | some u => rfl

lemma observe_requestModel {ms : Int} :
    (r.observe c ms).trace.requestModel = r.trace.requestModel := by
  unfold Relay.observe
  cases c.usage <;> rfl

lemma known_pass (r : Relay) (c : ChatCompletionChunk) (raw : Option String) :
    known (r.pass c raw) = known r := by
  cases raw <;> rfl

lemma pass_requestModel (r : Relay) (c : ChatCompletionChunk) (raw : Option String) :
    (r.pass c raw).trace.requestModel = r.trace.requestModel := by
  cases raw <;> rfl

variable {r' : Relay}

lemma relayEvent_known (hbare : e.err.isSome ∨ e.done = true → e.chunk = none)
    (hrun : (relayEvent h start r e).Runs log r') :
    known r' = (known r).learn e ∧ r'.trace.requestModel = r.trace.requestModel := by
  have unchanged : e.chunk = none → known r = (known r).learn e := fun hc => by
    unfold Known.learn
    rw [hc]
  unfold relayEvent at hrun
  split at hrun
  · rename_i err herr
    obtain ⟨-, rfl⟩ := hrun.done
    exact ⟨unchanged (hbare (.inl (by rw [herr]; rfl))), rfl⟩
  split at hrun
  · rename_i hdone
    obtain ⟨-, rfl⟩ := hrun.done
    exact ⟨unchanged (hbare (.inr hdone)), rfl⟩
  split at hrun
  · rename_i hc
    split at hrun
    · obtain ⟨-, rfl⟩ := hrun.done
      exact ⟨unchanged hc, rfl⟩
    · obtain ⟨-, rfl⟩ := hrun.done
      exact ⟨unchanged hc, rfl⟩
  · rename_i c hc
    obtain ⟨ms, -, rfl⟩ := hrun.map
    exact ⟨(known_pass ..).trans (known_observe hc),
      (pass_requestModel ..).trans observe_requestModel⟩

lemma relayLoop_known (hbare : ∀ e ∈ events, e.err.isSome ∨ e.done = true → e.chunk = none)
    (hrun : (relayLoop h start events r).Runs log r') :
    known r' = events.foldl Known.learn (known r) ∧
      r'.trace.requestModel = r.trace.requestModel := by
  induction events generalizing r log with
  | nil =>
    obtain ⟨-, rfl⟩ := hrun.done
    exact ⟨rfl, rfl⟩
  | cons e events ih =>
    obtain ⟨hfirst, hrest⟩ := forall_mem_cons.mp hbare
    obtain ⟨_, r1, _, -, hevent, hloop⟩ := hrun.split
    obtain ⟨hknown1, hmodel1⟩ := relayEvent_known hfirst hevent
    obtain ⟨hknown, hmodel⟩ := ih hrest hloop
    rw [hknown, hknown1]
    exact ⟨rfl, hmodel.trans hmodel1⟩

def chatCharge (requestModel : String) (events : List StreamEvent) : ℚ :=
  resolveCostUSD ((estimates events).getLastD 0) requestModel (streamModel events)
    (usages events).getLast?

lemma finishStream_spends (hlim : h.limiter = true) (hkey : ctx.vkeyID ≠ "")
    (hrun : (finishStream h ctx req start w r).Runs log reply) :
    spends log = charge ctx (resolveCostUSD r.upstreamCost r.trace.requestModel
      r.trace.responseModel r.lastUsage) :=
  closing_spends (sinceMs_within ..) rfl (fun _ => recordEvidence_within ..) rfl
    hlim hkey hrun

variable {s : UpstreamStream}

lemma relayLoop_charge {t : Trace} (hfresh : Fresh cand t)
    (hrun : (relayLoop h start s.events (.start t)).Runs log r) :
    resolveCostUSD r.upstreamCost r.trace.requestModel r.trace.responseModel r.lastUsage =
        chatCharge cand.model s.events ∧ r.lastUsage = (usages s.events).getLast? := by
  obtain ⟨hknown, hrequest⟩ := relayLoop_known s.protocol.bare hrun
  rw [foldl_learn] at hknown
  have hcost : r.upstreamCost = (estimates s.events).getLastD 0 := congrArg Known.cost hknown
  have hresponse : r.trace.responseModel = streamModel s.events := by
    rw [streamModel, ← hfresh.responseModel]
    exact congrArg Known.model hknown
  have husage : r.lastUsage = (usages s.events).getLast? := by
    have := congrArg Known.usage hknown
    rw [getLastD_eq_getLast?, getLast?_map] at this
    cases hu : (usages s.events).getLast? <;> rw [hu] at this <;> exact this
  refine ⟨?_, husage⟩
  rw [hcost, hrequest.trans hfresh.requestModel, hresponse, husage]
  rfl

lemma relay_spends {t : Trace} (hlim : h.limiter = true) (hkey : ctx.vkeyID ≠ "")
    (hfresh : Fresh cand t) (hrun : (do
      let r ← relayLoop h start s.events (.start t)
      finishStream h ctx req start w r).Runs log reply) : answers log = [] ∧ opened log = [] ∧
      spends log = charge ctx (chatCharge cand.model s.events) := by
  obtain ⟨l1, r, l2, rfl, hloop, hfinish⟩ := hrun.split
  have hidle := idle_of_within (relayLoop_within ..) hloop rfl rfl
  refine ⟨?_, ?_, ?_⟩
  · rw [answers_append, hidle.answers,
      within_answers_eq_nil (finishStream_within ..) hfinish rfl, nil_append]
  · rw [opened_append, hidle.opened,
      within_opened_eq_nil (finishStream_within ..) hfinish rfl, nil_append]
  · rw [spends_append, hidle.spends, nil_append, finishStream_spends hlim hkey hfinish,
      (relayLoop_charge hfresh hloop).1]

variable {flusher : Bool}

lemma handleStream_billed (hlim : h.limiter = true) (hkey : ctx.vkeyID ≠ "")
    (hrun : (handleStream h ctx flusher chain req start).Runs log reply) :
    StreamBilled chatCharge (fun cand => cand.model) ctx log := by
  unfold handleStream at hrun
  split at hrun
  · obtain ⟨rfl, -⟩ := hrun.done
    exact idle_nil.streamBilled
  obtain ⟨l1, reqTrace, _, rfl, htrace, hrun1⟩ := hrun.split
  obtain ⟨l2, x, l3, rfl, hloop, hrun2⟩ := hrun1.split
  refine .prepend (idle_of_within (newTrace_within ..) htrace rfl rfl) ?_
  obtain ⟨w, found⟩ := x
  rcases streamLoop_opens hloop with ⟨rfl, hidle⟩ | ⟨cand, t, s, rfl, hopens, hfresh⟩
  · exact (hidle.append (idle_of_within (exhausted_within ..) hrun2 rfl rfl)).streamBilled
  obtain ⟨hanswers, hopened, hspends⟩ := relay_spends hlim hkey hfresh hrun2
  constructor
  · rw [answers_append, hopens.answers, hanswers, nil_append]
  · refine .inr ⟨cand, s, ?_, ?_⟩
    · rw [opened_append, hopens.opened, hopened, append_nil]
    · rw [spends_append, hopens.spends, hspends, nil_append]

def streamBill (requestModel : String) (events : List StreamEvent) : Bill where
  cost := chatCharge requestModel events
  inputTokens := ((usages events).getLast?.map Usage.promptTokens).getD 0
  outputTokens := ((usages events).getLast?.map Usage.completionTokens).getD 0

def Counted (r : Relay) : Prop :=
  r.trace.inputTokens = (r.lastUsage.map Usage.promptTokens).getD 0 ∧
    r.trace.outputTokens = (r.lastUsage.map Usage.completionTokens).getD 0

lemma Counted.observe (hr : Counted r) (c : ChatCompletionChunk) (ms : Int) :
    Counted (r.observe c ms) := by
  unfold Relay.observe
  cases c.usage with
  | none => exact hr
  | some u => exact ⟨rfl, rfl⟩

lemma Counted.pass (hr : Counted r) (c : ChatCompletionChunk) (raw : Option String) :
    Counted (r.pass c raw) := by
  cases raw <;> exact hr

lemma Counted.relayEvent (hr : Counted r) (hrun : (relayEvent h start r e).Runs log r') :
    Counted r' := by
  unfold Chat.relayEvent at hrun
  split at hrun
  · obtain ⟨-, rfl⟩ := hrun.done
    exact hr
  split at hrun
  · obtain ⟨-, rfl⟩ := hrun.done
    exact hr
  split at hrun
  · split at hrun <;> obtain ⟨-, rfl⟩ := hrun.done <;> exact hr
  · obtain ⟨ms, -, rfl⟩ := hrun.map
    exact (hr.observe _ _).pass _ _

lemma Counted.relayLoop (hr : Counted r)
    (hrun : (relayLoop h start events r).Runs log r') : Counted r' := by
  induction events generalizing r log with
  | nil =>
    obtain ⟨-, rfl⟩ := hrun.done
    exact hr
  | cons e events ih =>
    obtain ⟨_, r1, _, -, hevent, hloop⟩ := hrun.split
    exact ih (hr.relayEvent hevent) hloop

lemma finishStream_written {b : Bill}
    (hcost : resolveCostUSD r.upstreamCost r.trace.requestModel r.trace.responseModel
      r.lastUsage = b.cost) (hinput : r.trace.inputTokens = b.inputTokens)
    (houtput : r.trace.outputTokens = b.outputTokens)
    (hrun : (finishStream h ctx req start w r).Runs log reply) :
    Written h ctx b log reply ∧ Recorded h log := by
  obtain ⟨cost, inputTokens, outputTokens⟩ := b
  subst hcost hinput houtput
  exact closing_written (sinceMs_within start) rfl rfl (fun _ => rfl)
    (fun _ _ _ heq => by cases heq) hrun

variable (hrun : (handleStream h ctx flusher chain req start).Runs log reply)
include hrun

variable (hopened : opened log = [(cand, s)])
include hopened

lemma handleStream_opened :
    ∃ front t w l1 r l2, log = front ++ (l1 ++ l2) ∧ records front = [] ∧ spends front = [] ∧
      Fresh cand t ∧ (relayLoop h start s.events (.start t)).Runs l1 r ∧
      (finishStream h ctx req start w r).Runs l2 reply := by
  unfold handleStream at hrun
  split at hrun
  · obtain ⟨rfl, -⟩ := hrun.done
    cases hopened
  obtain ⟨l1, reqTrace, _, rfl, htrace, hrun1⟩ := hrun.split
  obtain ⟨l2, x, l3, rfl, hloop, hrun2⟩ := hrun1.split
  obtain ⟨w, found⟩ := x
  have hquiet := quiet_of_within (newTrace_within ..) htrace rfl rfl rfl
  rw [opened_append, hquiet.opened, opened_append] at hopened
  rcases streamLoop_opens hloop with ⟨rfl, hidle⟩ | ⟨cand', t, s', rfl, hopens, hfresh⟩
  · -- no stream opened, and the reply that says so opens none
    rw [hidle.opened, within_opened_eq_nil (exhausted_within ..) hrun2 rfl] at hopened
    cases hopened
  obtain ⟨l4, r, l5, rfl, hrelay, hfinish⟩ := hrun2.split
  have hidle := idle_of_within (relayLoop_within ..) hrelay rfl rfl
  rw [hopens.opened, opened_append, hidle.opened,
    within_opened_eq_nil (finishStream_within ..) hfinish rfl] at hopened
  obtain ⟨rfl, rfl⟩ : cand' = cand ∧ s' = s := by simpa using hopened
  refine ⟨l1 ++ l2, t, w, l4, r, l5, by simp, ?_, ?_, hfresh, hrelay, hfinish⟩
  · rw [records_append, hquiet.records, (streamLoop_within ..).records_eq_nil hloop rfl, nil_append]
  · rw [spends_append, hquiet.spends, hopens.spends, nil_append]

lemma handleStream_written :
    Written h ctx (streamBill cand.model s.events) log reply ∧ Recorded h log := by
  obtain ⟨front, t, w, l1, r, l2, rfl, hrecords, hspends, hfresh, hrelay, hfinish⟩ :=
    handleStream_opened hrun hopened
  obtain ⟨hcharge, husage⟩ := relayLoop_charge hfresh hrelay
  have hstart : Counted (.start t) :=
    ⟨congrArg Bill.inputTokens hfresh.unpriced, congrArg Bill.outputTokens hfresh.unpriced⟩
  obtain ⟨hinput, houtput⟩ := hstart.relayLoop hrelay
  rw [husage] at hinput houtput
  obtain ⟨hwritten, hrecorded⟩ :=
    finishStream_written (b := streamBill cand.model s.events) hcharge hinput houtput hfinish
  have hwithin := relayLoop_within h start s.events (.start t)
  refine ⟨?_, hrecorded.prepend.prepend⟩
  exact (hwritten.prepend (hwithin.records_eq_nil hrelay rfl)
    (hwithin.spends_eq_nil hrelay rfl)).prepend hrecords hspends

lemma handleStream_reply : ∃ t l r cost, (relayLoop h start s.events (.start t)).Runs l r ∧
      reply = .ok (.stream r.writes cost) := by
  obtain ⟨front, t, w, l1, r, l2, -, -, -, -, hrelay, hfinish⟩ := handleStream_opened hrun hopened
  obtain ⟨_, ms, _, -, -, hrun1⟩ := hfinish.split
  obtain ⟨_, _, _, -, -, hrun2⟩ := hrun1.split
  obtain ⟨_, -, rfl⟩ := hrun2.map
  exact ⟨t, l1, r, _, hrelay, rfl⟩

end

variable (requestModel : String)

def ChatStreamMetered (events : List StreamEvent) : Prop :=
  ∀ u ∈ (usages events).getLast?, ¬ 0 < u.estimatedCost →
    0 < tableCostUSD requestModel (streamModel events) (some u) →
    ∀ e ∈ (estimates events).getLast?, e = tableCostUSD requestModel (streamModel events) (some u)

variable {events : List StreamEvent}

lemma estimates_getLast? {u : Usage} (hlast : (usages events).getLast? = some u)
    (hpos : 0 < u.estimatedCost) : (estimates events).getLast? = some u.estimatedCost := by
  obtain ⟨before, hsplit⟩ := getLast?_eq_some_iff.mp hlast
  unfold estimates
  rw [hsplit, map_append]
  simp [hpos]

lemma estimates_pos {e : ℚ} (hlast : (estimates events).getLast? = some e) : 0 < e := by
  have hmem := mem_of_getLast? hlast
  exact of_decide_eq_true (mem_filter.mp hmem).2

variable {m : String}

lemma chatCharge_fair_iff : Fair chatCharge m events ↔ ChatStreamMetered m events := by
  unfold Fair ChatStreamMetered streamReport chatCharge Report.cost
  rw [getLastD_eq_getLast?]
  cases hlast : (usages events).getLast? with
  | none => simp
  | some u =>
    simp only [map_some, some.injEq, forall_eq', mem_def]
    by_cases hpos : 0 < u.estimatedCost
    · simp only [estimates_getLast? hlast hpos, getD_some, hpos, not_true_eq_false,
        false_imp_iff, implies_true]
    rw [resolveCostUSD_table hpos]
    simp only [hpos, not_false_eq_true, true_imp_iff]
    refine imp_congr_right fun htable => ?_
    cases hest : (estimates events).getLast? with
    | none => simp [resolveCostUSD_table (lt_irrefl (0 : ℚ))]
    | some e => simp [resolveCostUSD_reported (estimates_pos hest)]

section
variable {respID model suffix : String}

lemma foldProg_keeps {σ α β : Type} {f : σ → α → GProg σ} {g : σ → β}
    (hf : ∀ {s a log s'}, (f s a).Runs log s' → g s' = g s) {as : List α} {s s' : σ}
    (hrun : (foldProg f as s).Runs log s') : g s' = g s := by
  -- on the list the fold runs over
  induction as generalizing s log with
  | nil =>
    obtain ⟨-, rfl⟩ := hrun.done
    rfl
  | cons a as ih =>
    obtain ⟨_, s1, _, -, hstep, hrest⟩ := hrun.split
    exact (ih hrest).trans (hf hstep)

lemma argumentsDelta_usage (st : ResponsesState) (idx : Int) (item : ToolItem) (delta : String) :
    (st.argumentsDelta idx item delta).1.usage = st.usage := by
  unfold ResponsesState.argumentsDelta
  split <;> rfl

lemma responsesToolCall_usage {st st' : ResponsesState} {tc : ToolCall}
    (hrun : (responsesToolCall suffix st tc).Runs log st') : st'.usage = st.usage := by
  obtain ⟨opened, hitem, rfl⟩ := hrun.map
  rw [argumentsDelta_usage, argumentsDelta_usage]
  unfold responsesToolItem at hitem
  split at hitem
  · obtain ⟨item, -, rfl⟩ := hitem.map
    rfl
  · obtain ⟨-, rfl⟩ := hitem.done
    rfl

lemma responsesChoice_usage {st st' : ResponsesState} {dc : ChunkChoice}
    (hrun : (responsesChoice suffix st dc).Runs log st') : st'.usage = st.usage := by
  obtain ⟨st1, htools, rfl⟩ := hrun.map
  refine (foldProg_keeps (g := ResponsesState.usage) responsesToolCall_usage htools).trans ?_
  unfold ResponsesState.textDelta
  split <;> rfl

variable {r : ResponsesRelay}

lemma responsesChunk_usage {r' : ResponsesRelay}
    (hrun : (responsesChunk suffix start r c).Runs log r') :
    r'.st.usage = c.usage.or r.st.usage ∧ r'.trace.responseModel = r.trace.responseModel := by
  obtain ⟨_, ms, _, -, -, hrun1⟩ := hrun.split
  obtain ⟨st, hchoices, rfl⟩ := hrun1.map
  exact ⟨foldProg_keeps (g := ResponsesState.usage) responsesChoice_usage hchoices, rfl⟩

structure ResponsesRelayed (events : List StreamEvent) (r : ResponsesRelay)
    (x : ResponsesRelay × Bool) : Prop where
  flag : x.2 = failed events
  usage : failed events = false → x.1.st.usage = ((usages events).map some).getLastD r.st.usage
  model : x.1.trace.responseModel = r.trace.responseModel

variable {x : ResponsesRelay × Bool}

lemma responsesEvents_relayed (hprotocol : StreamProtocol events)
    (hrun : (responsesEvents respID model suffix start events r).Runs log x) :
    ResponsesRelayed events r x := by
  induction events generalizing r log with
  | nil =>
    obtain ⟨-, rfl⟩ := hrun.done
    exact ⟨rfl, fun _ => rfl, rfl⟩
  | cons e events ih =>
    unfold responsesEvents at hrun
    split at hrun
    · rename_i err herr
      obtain ⟨ms, -, rfl⟩ := hrun.map
      have hfailed : failed (e :: events) = true := by
        unfold failed
        rw [any_cons, herr]
        rfl
      exact ⟨hfailed.symm, fun hok => absurd (hok.symm.trans hfailed) Bool.false_ne_true, rfl⟩
    · rename_i hok
      split at hrun
      · -- the end comes last, so no usage block follows it
        rename_i hdone
        obtain ⟨-, rfl⟩ := hrun.done
        obtain rfl := hprotocol.last [] e events rfl hdone
        have hc := hprotocol.bare e mem_cons_self (.inr hdone)
        refine ⟨(failed_cons [] hok).symm, fun _ => ?_, rfl⟩
        rw [usages, chunks_cons_none [] hc]
        rfl
      · split at hrun
        · rename_i hc
          obtain ⟨hfailed, husage, hmodel⟩ := ih hprotocol.tail hrun
          refine ⟨?_, ?_, hmodel⟩
          · rw [failed_cons events hok]
            exact hfailed
          · rw [failed_cons events hok, usages, chunks_cons_none events hc]
            exact husage
        · rename_i c hc
          obtain ⟨_, r1, _, -, hchunk, hrest⟩ := hrun.split
          obtain ⟨hadded, hkept⟩ := responsesChunk_usage hchunk
          obtain ⟨hfailed, husage, hmodel⟩ := ih hprotocol.tail hrest
          refine ⟨?_, ?_, hmodel.trans hkept⟩
          · rw [failed_cons events hok]
            exact hfailed
          rw [failed_cons events hok, usages, chunks_cons_some events hc]
          intro hfine
          rw [husage hfine, hadded, filterMap_cons]
          cases c.usage with
          | none => rfl
          | some u => rw [map_cons, getLastD_cons]; rfl

lemma responsesProviders_opens {i : ℕ} {refs : List ProviderRef}
    (hrun : (responsesProviders h ctx req respID suffix start i refs r).Runs log x) :
    (Idle log ∧ x.1.st = r.st ∧ x.2 = false) ∨ ∃ cand s t l, Opens cand s log ∧
      t.responseModel = r.trace.responseModel ∧
      (responsesEvents respID req.model suffix start s.events ⟨r.st, t, false⟩).Runs l x := by
  induction refs generalizing i r log with
  | nil =>
    obtain ⟨rfl, rfl⟩ := hrun.done
    exact .inl ⟨idle_nil, rfl, rfl⟩
  | cons ref refs ih =>
    obtain ⟨l1, answer, _, rfl, hlookup, hrun1⟩ := hrun.split
    have hfront := idle_of_within (lookupCredential_within ..) hlookup rfl rfl
    obtain ⟨y, l2, rfl, hrun2⟩ := hrun1.first
    cases y with
    | error err =>
      obtain ⟨l3, ms, l4, rfl, hms, hrest⟩ := hrun2.split
      have hclock := idle_of_within (sinceMs_within _) hms rfl rfl
      have hbefore := hfront.append (hclock.refused ⟨i, ref.model⟩ ref.provider
        (overrideContext ctx answer) { req with model := ref.forwardModel } err)
      rw [← cons_append, ← append_assoc]
      rcases ih hrest with ⟨hidle, hst⟩ | ⟨cand, s, t, l, hopens, hrelayed⟩
      · exact .inl ⟨hbefore.append hidle, hst⟩
      · exact .inr ⟨cand, s, t, l, hopens.prepend hbefore, hrelayed⟩
    | ok s =>
      have hidle := idle_of_within (responsesEvents_within ..) hrun2 rfl rfl
      refine .inr ⟨⟨i, ref.model⟩, s, _, l2, Opens.prepend hfront (hidle.opens ..), ?_, hrun2⟩
      rfl

def responsesCharge (events : List StreamEvent) : ℚ :=
  if failed events then 0
  else
    let u := (usages events).getLast?.getD .zero
    resolveCostUSD u.estimatedCost requestModel "" (some u)

lemma finishResponses_spends {reply : Reply ResponsesBody} (hlim : h.limiter = true)
    (hkey : ctx.vkeyID ≠ "")
    (hrun : (finishResponses h ctx req respID suffix start r).Runs log reply) :
    spends log = charge ctx (resolveCostUSD (r.st.usage.getD .zero).estimatedCost req.model
      r.trace.responseModel (some (r.st.usage.getD .zero))) :=
  closing_spends (sinceMs_within ..) rfl (fun _ => recordTrace_within ..) rfl
    hlim hkey hrun

lemma relayed_spends {reply : Reply ResponsesBody}
    (hlim : h.limiter = true) (hkey : ctx.vkeyID ≠ "") (hflag : x.2 = failed events)
    (husage : failed events = false → x.1.st.usage = (usages events).getLast?)
    (hmodel : x.1.trace.responseModel = "") (hrun : (if x.2 then do
        recordTrace x.1.trace return .ok (.stream x.1.st.out none)
      else finishResponses h ctx req respID suffix start x.1).Runs log reply) :
    spends log = charge ctx (responsesCharge req.model events) := by
  unfold responsesCharge
  rw [hflag] at hrun
  split at hrun
  · rename_i hfailed
    obtain ⟨l1, _, _, rfl, hrecord, hret⟩ := hrun.split
    obtain ⟨rfl, -⟩ := hret.done
    rw [spends_append, (recordTrace_within ..).spends_eq_nil hrecord rfl, if_pos hfailed]
    rfl
  · rename_i hfine
    rw [finishResponses_spends hlim hkey hrun, husage (Bool.not_eq_true _ ▸ hfine), hmodel,
      if_neg hfine]

lemma handleResponsesStream_billed {flusher : Bool} {reply : Reply ResponsesBody}
    (hlim : h.limiter = true) (hkey : ctx.vkeyID ≠ "")
    (hrun : (handleResponsesStream h ctx flusher req).Runs log reply) :
    StreamBilled responsesCharge (fun _ => req.model) ctx log := by
  unfold handleResponsesStream at hrun
  split at hrun
  · obtain ⟨rfl, -⟩ := hrun.done
    exact idle_nil.streamBilled
  split at hrun
  · obtain ⟨rfl, -⟩ := hrun.done
    exact idle_nil.streamBilled
  obtain ⟨l1, suffix, _, rfl, hid, hrun1⟩ := hrun.split
  obtain ⟨l2, _, _, rfl, hcreated, hrun2⟩ := hrun1.split
  obtain ⟨l3, start, _, rfl, hstart, hrun3⟩ := hrun2.split
  obtain ⟨l4, t, _, rfl, htrace, hrun4⟩ := hrun3.split
  obtain ⟨l5, x, l6, rfl, hproviders, hrun5⟩ := hrun4.split
  refine .prepend (idle_of_within newUUID_within hid rfl rfl) <|
    .prepend (idle_of_within now_within hcreated rfl rfl) <|
    .prepend (idle_of_within now_within hstart rfl rfl) <|
    .prepend (idle_of_within (newTrace_within ..) htrace rfl rfl) ?_
  have hwithin := within_ite (c := x.2 = true)
    (((recordTrace_within x.1.trace).mono (by decide)).bind fun _ =>
      within_pure (Reply.ok (ResponsesBody.stream x.1.st.out none)))
    (finishResponses_within h ctx req ("resp_" ++ suffix) suffix start x.1)
  have hanswers := within_answers_eq_nil hwithin hrun5 rfl
  have hopened := within_opened_eq_nil hwithin hrun5 rfl
  have hnone := newTrace_responseModel htrace
  rcases responsesProviders_opens hproviders with
    ⟨hidle, -⟩ | ⟨cand, s, t', l, hopens, hkept, hevents⟩
  · constructor
    · rw [answers_append, hidle.answers, hanswers, nil_append]
    · rw [opened_append, hidle.opened, hopened]
      exact .inl rfl
  · obtain ⟨hflag, husage, hmodel⟩ := responsesEvents_relayed s.protocol hevents
    constructor
    · rw [answers_append, hopens.answers, hanswers, nil_append]
    · refine .inr ⟨cand, s, ?_, ?_⟩
      · rw [opened_append, hopens.opened, hopened, append_nil]
      rw [spends_append, hopens.spends]
      have hmodel' := hmodel.trans (hkept.trans hnone)
      refine relayed_spends hlim hkey hflag (fun hfine => ?_) hmodel' hrun5
      rw [husage hfine, getLastD_eq_getLast?, getLast?_map]
      cases (usages s.events).getLast? <;> rfl

end

def ResponsesStreamMetered (events : List StreamEvent) : Prop :=
  ∀ u ∈ (usages events).getLast?, 0 < (⟨requestModel, streamModel events, u⟩ : Report).cost →
    failed events = false ∧ (¬ 0 < u.estimatedCost → tableCostUSD requestModel "" (some u) =
        tableCostUSD requestModel (streamModel events) (some u))

lemma responsesCharge_fair_iff :
    Fair responsesCharge m events ↔ ResponsesStreamMetered m events := by
  unfold Fair ResponsesStreamMetered streamReport responsesCharge Report.cost
  cases hlast : (usages events).getLast? with
  | none => simp
  | some u =>
    simp only [map_some, some.injEq, forall_eq', mem_def]
    refine imp_congr_right fun hpos => ?_
    cases hfailed : failed events with
    | true => simpa using ne_of_lt hpos
    | false =>
      by_cases hest : 0 < u.estimatedCost
      · simp [resolveCostUSD_reported hest, hest]
      · simp [resolveCostUSD_table hest, hest]

lemma messagesProviders_opens {chainLen i : ℕ} {refs : List ProviderRef} {st st' : MessagesState}
    (hrun : (messagesProviders h ctx req chainLen start i refs st).Runs log st') :
    (Idle log ∧ st' = st) ∨ ∃ cand s l, Opens cand s log ∧
      (messagesEvents s.events st).Runs l st' := by
  induction refs generalizing i st log with
  | nil =>
    obtain ⟨rfl, rfl⟩ := hrun.done
    exact .inl ⟨idle_nil, rfl⟩
  | cons ref refs ih =>
    obtain ⟨l1, answer, _, rfl, hlookup, hrun1⟩ := hrun.split
    obtain ⟨l2, t, _, rfl, htrace, hrun2⟩ := hrun1.split
    have hfront : Idle (l1 ++ l2) :=
      (idle_of_within (lookupCredential_within ..) hlookup rfl rfl).append
        (idle_of_within (newTrace_within ..) htrace rfl rfl)
    rw [← append_assoc]
    obtain ⟨y, l3, rfl, hrun3⟩ := hrun2.first
    cases y with
    | error err =>
      obtain ⟨l4, ms, _, rfl, hms, hrun4⟩ := hrun3.split
      obtain ⟨l5, _, l6, rfl, hrecord, hrest⟩ := hrun4.split
      have hleft := (idle_of_within (sinceMs_within _) hms rfl rfl).append
        (idle_of_within (recordTrace_within ..) hrecord rfl rfl)
      have hbefore := hfront.append (hleft.refused ⟨i, ref.model⟩ ref.provider
        (overrideContext ctx answer) { req with model := ref.forwardModel } err)
      rw [← append_assoc l4, ← cons_append, ← append_assoc]
      rcases ih hrest with ⟨hidle, hst⟩ | ⟨cand, s, l, hopens, hevents⟩
      · exact .inl ⟨hbefore.append hidle, hst⟩
      · exact .inr ⟨cand, s, l, hopens.prepend hbefore, hevents⟩
    | ok s =>
      have hidle := idle_of_within (messagesEvents_within ..) hrun3 rfl rfl
      exact .inr ⟨_, s, l3, Opens.prepend hfront (hidle.opens ..), hrun3⟩

def messagesCharge (_requestModel : String) (_events : List StreamEvent) : ℚ := 0

lemma handleMessagesStream_billed {flusher : Bool} {reply : Reply MessagesBody}
    (hrun : (handleMessagesStream h ctx flusher req).Runs log reply) :
    StreamBilled messagesCharge (fun _ => req.model) ctx log := by
  unfold handleMessagesStream at hrun
  split at hrun
  · obtain ⟨rfl, -⟩ := hrun.done
    exact idle_nil.streamBilled
  split at hrun
  · obtain ⟨rfl, -⟩ := hrun.done
    exact idle_nil.streamBilled
  obtain ⟨l1, id, _, rfl, hid, hrun1⟩ := hrun.split
  obtain ⟨l2, start, _, rfl, hstart, hrun2⟩ := hrun1.split
  obtain ⟨st, hproviders, -⟩ := hrun2.map
  refine .prepend (idle_of_within newUUID_within hid rfl rfl) <|
    .prepend (idle_of_within now_within hstart rfl rfl) ?_
  rcases messagesProviders_opens hproviders with ⟨hidle, -⟩ | ⟨cand, s, -, hopens, -⟩
  · exact hidle.streamBilled
  · exact ⟨hopens.answers, .inr ⟨cand, s, hopens.opened, hopens.spends⟩⟩

def MessagesStreamMetered (events : List StreamEvent) : Prop :=
  ∀ u ∈ (usages events).getLast?, ¬ 0 < (⟨requestModel, streamModel events, u⟩ : Report).cost

lemma messagesCharge_fair_iff : Fair messagesCharge m events ↔ MessagesStreamMetered m events := by
  unfold Fair MessagesStreamMetered streamReport messagesCharge
  cases hlast : (usages events).getLast? with
  | none => simp
  | some u =>
    simp only [map_some, some.injEq, forall_eq', mem_def]
    exact ⟨fun hfair hpos => (hfair hpos).not_lt hpos, fun hnone hpos => absurd hpos hnone⟩

end FfxNexus.Spend
