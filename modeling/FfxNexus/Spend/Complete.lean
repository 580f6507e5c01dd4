/-
**Spend completeness**, over the whole surface: what decides whether the cost that the provider of a
request reported is charged to the caller's key once (`Metered`).
-/
import FfxNexus.Spend.Stream
import FfxNexus.Spend.Unary
import Mathlib.Algebra.BigOperators.Group.List.Basic

namespace FfxNexus.Spend
open List
open Interaction Schema Providers Gateway Chat Translated Endpoints Effects
open Interaction.Prog hiding perform
open Dispatch (answering caller jsonRequest meteredHandler plainRequest plainResponse)

def chatModel (chat : Except String ChatCompletionRequest) : String :=
  match chat with
  | .ok req => req.model
  | .error _ => ""

def pricedAs : Request → Candidate → String
  | .responses (.ok body), _ => chatModel body.chat
  | .messages (.ok body), _ => chatModel body.chat
  | _, cand => cand.model

def Metered (req : Request) (log : List GEvent) : Prop :=
  match req with
  | .chat _ => UnaryMetered (answers log) ∧
      ∀ x ∈ opened log, ChatStreamMetered (pricedAs req x.1) x.2.events
  | .responses _ => ∀ x ∈ opened log, ResponsesStreamMetered (pricedAs req x.1) x.2.events
  | .messages _ => ∀ x ∈ opened log, MessagesStreamMetered (pricedAs req x.1) x.2.events
  | .capability _ _ => True

def IsChat : Request → Prop
  | .capability _ _ => False
  | _ => True

section
variable {h : Handler} {ctx : Ctx} {flusher : Bool} {log : List GEvent}

lemma chatCompletions_billed {body : Except String ChatCompletionRequest}
    {reply : Reply ChatBody} (hlim : h.limiter = true) (hkey : ctx.vkeyID ≠ "")
    (hrun : (chatCompletions h ctx flusher body).Runs log reply) :
    UnaryBilled ctx log ∨ StreamBilled chatCharge (fun cand => cand.model) ctx log := by
  unfold chatCompletions at hrun
  split at hrun
  · obtain ⟨rfl, -⟩ := hrun.done
    exact .inl (.inl idle_nil)
  split at hrun
  · obtain ⟨rfl, -⟩ := hrun.done
    exact .inl (.inl idle_nil)
  dsimp only at hrun
  split at hrun
  · obtain ⟨_, hblock, -⟩ := hrun.map
    exact .inl (.inl (idle_of_within (recordGuardrailBlock_within ..) hblock rfl rfl))
  obtain ⟨l1, x, l2, rfl, hchain, hrun1⟩ := hrun.split
  have hidle := idle_of_within (resolveChain_within ..) hchain rfl rfl
  cases x with
  | error reply' =>
    obtain ⟨rfl, -⟩ := hrun1.done
    rw [append_nil]
    exact .inl (.inl hidle)
  | ok chain =>
    obtain ⟨l3, start, l4, rfl, hstart, hrun2⟩ := hrun1.split
    have hfront := hidle.append
      (idle_of_within now_within hstart rfl rfl)
    rw [← append_assoc]
    split at hrun2
    · exact .inr ((handleStream_billed hlim hkey hrun2).prepend hfront)
    · exact .inl ((handleUnary_billed hlim hkey hrun2).prepend hfront)

lemma UnaryBilled.opened {ctx : Ctx} (hlog : UnaryBilled ctx log) : opened log = [] := by
  rcases hlog with hidle | ⟨_, _, _, _, -, hbilled⟩
  · exact hidle.opened
  · exact hbilled.opened

lemma complete_iff_forall_opened {priced : Candidate → String}
    {P : Candidate × UpstreamStream → Prop}
    (hlog : opened log = [] ∧ SpendComplete priced ctx log) :
    SpendComplete priced ctx log ↔ ∀ x ∈ opened log, P x := by
  refine iff_of_true hlog.2 ?_
  rw [hlog.1]
  exact fun x hx => absurd hx not_mem_nil

lemma refused_complete_iff {α : Type} {refusal reply : α} {priced : Candidate → String}
    {P : Candidate × UpstreamStream → Prop} (hrun : (Prog.ret refusal : GProg α).Runs log reply) :
    SpendComplete priced ctx log ↔ ∀ x ∈ opened log, P x := by
  obtain ⟨rfl, -⟩ := hrun.done
  exact complete_iff_forall_opened ⟨idle_nil.opened, idle_complete idle_nil⟩

lemma responses_complete_iff {body : Except String ResponsesRequest}
    {reply : Reply ResponsesBody} (hlim : h.limiter = true) (hkey : ctx.vkeyID ≠ "")
    (hrun : (responses h ctx flusher body).Runs log reply) :
    SpendComplete (pricedAs (.responses body)) ctx log ↔ Metered (.responses body) log := by
  unfold responses at hrun
  split at hrun
  · exact refused_complete_iff hrun
  rename_i req
  split at hrun
  · exact refused_complete_iff hrun
  obtain ⟨model, stream, _ | chat⟩ := req
  · exact refused_complete_iff hrun
  dsimp only at hrun
  split at hrun
  · refine (handleResponsesStream_billed hlim hkey hrun).complete_iff.trans ?_
    exact forall₂_congr fun x _ => responsesCharge_fair_iff
  · exact complete_iff_forall_opened (translated_complete hlim hkey hrun)

lemma messages_complete_iff {body : Except String MessagesRequest}
    {reply : Reply MessagesBody} (hlim : h.limiter = true) (hkey : ctx.vkeyID ≠ "")
    (hrun : (messages h ctx flusher body).Runs log reply) :
    SpendComplete (pricedAs (.messages body)) ctx log ↔ Metered (.messages body) log := by
  unfold messages at hrun
  split at hrun
  · exact refused_complete_iff hrun
  rename_i req
  split at hrun
  · exact refused_complete_iff hrun
  split at hrun
  · exact refused_complete_iff hrun
  obtain ⟨model, count, stream, _ | chat⟩ := req
  · exact refused_complete_iff hrun
  dsimp only at hrun
  split at hrun
  · -- the one surface whose streams are never charged; no limiter is needed to say so
    refine (handleMessagesStream_billed hrun).complete_iff.trans ?_
    exact forall₂_congr fun x _ => messagesCharge_fair_iff
  · exact complete_iff_forall_opened (translated_complete hlim hkey hrun)

lemma chat_complete_iff {body : Except String ChatCompletionRequest}
    {reply : Reply ChatBody} (hlim : h.limiter = true) (hkey : ctx.vkeyID ≠ "")
    (hrun : (chatCompletions h ctx flusher body).Runs log reply) :
    SpendComplete (pricedAs (.chat body)) ctx log ↔ Metered (.chat body) log := by
  rcases chatCompletions_billed hlim hkey hrun with hunary | hstream
  · refine hunary.complete_iff.trans (iff_self_and.mpr fun _ => ?_)
    rw [hunary.opened]
    exact fun x hx => absurd hx not_mem_nil
  refine (hstream.complete_iff.trans (forall₂_congr fun x _ => chatCharge_fair_iff)).trans
    (iff_and_self.mpr fun _ before prev last heq => ?_)
  rw [hstream.answers] at heq
  simp at heq

end

theorem spend_complete_iff (h : Handler) (ctx : Ctx) (flusher : Bool) (req : Request)
    (hlim : h.limiter = true) (hkey : ctx.vkeyID ≠ "") (hchat : IsChat req)
    (log : List GEvent) (reply : Reply Body) (hrun : (serve h ctx flusher req).Runs log reply) :
    SpendComplete (pricedAs req) ctx log ↔ Metered req log := by
  cases req with
  | chat body =>
    obtain ⟨_, hserve, -⟩ := hrun.map
    exact chat_complete_iff hlim hkey hserve
  | responses body =>
    obtain ⟨_, hserve, -⟩ := hrun.map
    exact responses_complete_iff hlim hkey hserve
  | messages body =>
    obtain ⟨_, hserve, -⟩ := hrun.map
    exact messages_complete_iff hlim hkey hserve
  | capability k body => exact hchat.elim

def pricedUsage : Usage := ⟨10, 5, 15, 1 / 100, 0, none, none⟩

def pricedStream : UpstreamStream where
  events := [⟨some ⟨"c-1", "chat.completion.chunk", 0, "gpt-4o", [], some pricedUsage⟩, none, none,
    false⟩, ⟨none, none, none, true⟩]
  protocol := by
    refine ⟨by decide, fun before e after heq hdone => ?_⟩
    rcases before with _ | ⟨b, _ | ⟨c, before⟩⟩
    · obtain ⟨rfl, -⟩ := List.cons.inj heq
      cases hdone
    · exact (List.cons.inj (List.cons.inj heq).2).2.symm
    · exact absurd (List.cons.inj (List.cons.inj heq).2).2 (by simp)

def reporting : (o : Op) → Ans o
  | .chatCompletion _ _ _ _ => .ok (plainResponse "gpt-4o")
  | o => answering pricedStream o

theorem spend_complete_iff_unary : (meteredHandler.limiter = true ∧ caller.vkeyID ≠ "") ∧
      ∃ log reply, (serve meteredHandler caller true
          (.chat (.ok (plainRequest "gpt-4o")))).Runs log reply ∧
        (reported (fun cand => cand.model) log).isSome ∧
        SpendComplete (pricedAs (.chat (.ok (plainRequest "gpt-4o")))) caller log := by
  have hkey : caller.vkeyID ≠ "" := by decide
  refine ⟨⟨rfl, hkey⟩, _, _, execute_runs reporting _, by with_unfolding_all decide, ?_⟩
  refine (spend_complete_iff meteredHandler caller true
    (.chat (.ok (plainRequest "gpt-4o"))) rfl hkey trivial _ _
    (execute_runs reporting _)).mpr ⟨?_, ?_⟩
  · intro before prev last heq
    have hone := congrArg length heq
    rw [show length (answers _) = 1 by with_unfolding_all decide] at hone
    simp at hone
  · have hnone : opened (execute reporting (serve meteredHandler caller true
        (.chat (.ok (plainRequest "gpt-4o"))))).1 = [] := by with_unfolding_all decide
    rw [hnone]
    exact fun x hx => absurd hx not_mem_nil

theorem messages_stream_unmetered : (meteredHandler.limiter = true ∧ caller.vkeyID ≠ "") ∧
      ∃ log reply rep, (serve meteredHandler caller true (.messages (.ok ⟨"gpt-4o", 1, true,
            .ok { plainRequest "gpt-4o" with stream := true }⟩))).Runs log reply ∧
        reported (fun _ => "gpt-4o") log = some rep ∧ 0 < rep.cost ∧ spends log = [] := by
  refine ⟨⟨rfl, by decide⟩, _, _, ⟨"gpt-4o", "gpt-4o", pricedUsage⟩, execute_runs reporting _,
    ?_, ?_, ?_⟩ <;> with_unfolding_all decide

/-! ## Self-correction -/

open Guardrails
variable (as : List (Candidate × ChatCompletionResponse)) (content : String)

def owed : ℚ := (as.map answerCost).sum

def fullBill : Bill :=
  { billed as with cost := owed as }

def unbilled :
    List (Candidate × ChatCompletionResponse) :=
  (metered as).dropLast ++ as.tail.filter fun c => c.2.choices = []

def UnbilledFree : Prop :=
  ((unbilled as).map answerCost).sum = 0

lemma owed_eq : owed as = (billed as).cost + ((unbilled as).map answerCost).sum := by
  cases as with
  | nil => simp [owed, billed, unbilled, metered]
  | cons a as =>
    have hne : metered (a :: as) ≠ [] := cons_ne_nil _ _
    have hlast : ((metered (a :: as)).map answerCost).sum =
        ((metered (a :: as)).dropLast.map answerCost).sum + (billed (a :: as)).cost := by
      have hsplit := dropLast_concat_getLast hne
      have hcost : (billed (a :: as)).cost = answerCost ((metered (a :: as)).getLast hne) := by
        simp only [billed, getLast?_eq_some_getLast hne, Option.map_some, Option.getD_some]
      rw [hcost]
      nth_rewrite 1 [← hsplit]
      rw [map_append, sum_append, map_singleton, sum_singleton]
    have hsplit : (as.map answerCost).sum =
        ((as.filter fun c => c.2.choices ≠ []).map answerCost).sum +
          ((as.filter fun c => c.2.choices = []).map answerCost).sum := by
      have hperm := filter_append_perm (fun c => decide (c.2.choices ≠ [])) as
      have hsum := (hperm.map answerCost).sum_eq
      rw [← hsum, map_append, sum_append]
      simp
    have howed : owed (a :: as) = ((metered (a :: as)).map answerCost).sum +
        ((as.filter fun c => c.2.choices = []).map answerCost).sum := by
      rw [owed, map_cons, sum_cons, hsplit, metered, map_cons, sum_cons, add_assoc]
    rw [howed, hlast, unbilled, map_append, sum_append, tail_cons]
    ring

theorem corrections_covered_iff (h : Handler) (ctx : Ctx) (chain : List String)
    (req : ChatCompletionRequest) (start : Int) (log : List GEvent) (reply : Reply ChatBody)
    (hrun : (handleUnary h ctx chain req start).Runs log reply) : (h.recorder = true →
      (Written h ctx (fullBill (answers log)) log reply ↔ UnbilledFree (answers log))) ∧
    (UnbilledFree (answers log) → Written h ctx (fullBill (answers log)) log reply) := by
  have hsettled := handleUnary_settled hrun
  have howed := owed_eq (answers log)
  have enough : UnbilledFree (answers log) →
      Written h ctx (fullBill (answers log)) log reply := by
    intro hfree
    have hbill : fullBill (answers log) = billed (answers log) := by
      unfold fullBill
      rw [howed, hfree, add_zero]
    rw [hbill]
    exact hsettled.written
  refine ⟨?_, enough⟩
  intro hrec
  refine ⟨?_, enough⟩
  intro hfull
  obtain ⟨t, ht⟩ := exists_mem_of_ne_nil _ (hsettled.recorded hrec)
  have hsame : fullBill (answers log) = billed (answers log) :=
    (hfull.traces t ht).symm.trans (hsettled.written.traces t ht)
  have hcost : owed (answers log) = (billed (answers log)).cost := congrArg Bill.cost hsame
  unfold UnbilledFree
  linarith

def trueOnly : JsonEngine :=
  ⟨fun s => if s = "true" then none else some "invalid character", fun _ => false, fun _ _ => none⟩

def correctingHandler : Handler :=
  { meteredHandler with
    guard := some ⟨⟨false, false, 0, true⟩, [], ⟨noMatch, noMatch, noMatch, noMatch⟩, trueOnly⟩
    selfCorrectMax := 1 }

def pricedResponse : ChatCompletionResponse :=
  { (plainResponse "gpt-4o").setContent content with usage := pricedUsage }

def correctable : (o : Op) → Ans o
  | .chatCompletion _ _ _ req =>
    .ok (pricedResponse (if req.messages.length = 1 then content else "true"))
  | o => reporting o

def correctedRun : List GEvent × Reply ChatBody :=
  execute (correctable content) (handleUnary correctingHandler caller ["gpt-4o"] jsonRequest 0)

theorem corrections_covered_valid :
    ((handleUnary correctingHandler caller ["gpt-4o"] jsonRequest 0).Runs
        (correctedRun "true").1 (correctedRun "true").2) ∧
      (answers (correctedRun "true").1).length = 1 ∧
      Written correctingHandler caller (fullBill (answers (correctedRun "true").1))
        (correctedRun "true").1 (correctedRun "true").2 := by
  have hrun := execute_runs (correctable "true")
    (handleUnary correctingHandler caller ["gpt-4o"] jsonRequest 0)
  refine ⟨hrun, by with_unfolding_all decide, ?_⟩
  exact (corrections_covered_iff correctingHandler caller ["gpt-4o"] jsonRequest 0 _ _
    hrun).2 (by unfold UnbilledFree; with_unfolding_all decide)

theorem correction_unbilled : ((handleUnary correctingHandler caller ["gpt-4o"] jsonRequest 0).Runs
        (correctedRun "oops").1 (correctedRun "oops").2) ∧
      wantsJSON jsonRequest.responseFormat = true ∧
      owed (answers (correctedRun "oops").1) = 2 / 100 ∧
      (records (correctedRun "oops").1).map billOf = [⟨1 / 100, 20, 10⟩] ∧
      spends (correctedRun "oops").1 = [(caller.vkeyID, 1 / 100)] ∧
      ¬ Written correctingHandler caller (fullBill (answers (correctedRun "oops").1))
        (correctedRun "oops").1 (correctedRun "oops").2 := by
  have hspends : spends (correctedRun "oops").1 = [(caller.vkeyID, 1 / 100)] := by
    with_unfolding_all decide
  refine ⟨execute_runs _ _, by decide, by with_unfolding_all decide,
    by with_unfolding_all decide, hspends, ?_⟩
  intro hwritten
  have hfull := hwritten.spends
  revert hfull
  with_unfolding_all decide

/-- **One bill, written three times**: whatever the cache, the failovers and the corrections do, one
candidate at most is paid, the trace, the header and the charge of the key carry the same numbers,
and these are zero if no provider has answered. -/
theorem accounts_agree (h : Handler) (ctx : Ctx) (chain : List String)
    (req : ChatCompletionRequest) (start : Int) (log : List GEvent) (reply : Reply ChatBody)
    (hrun : (handleUnary h ctx chain req start).Runs log reply) :
    FromOneCandidate (answers log) ∧ Recorded h log ∧
      ∃ b, Written h ctx b log reply ∧ (answers log = [] → b = .zero) := by
  have hsettled := handleUnary_settled hrun
  refine ⟨hsettled.responses, hsettled.recorded, _, hsettled.written, fun hnone => ?_⟩
  rw [hnone]
  rfl

theorem accounts_agree_corrected : ∃ b, Written correctingHandler caller b
    (correctedRun "oops").1 (correctedRun "oops").2 := by
  obtain ⟨-, -, b, hwritten, -⟩ := accounts_agree correctingHandler caller ["gpt-4o"]
    jsonRequest 0 _ _ (execute_runs (correctable "oops") _)
  exact ⟨b, hwritten⟩

end FfxNexus.Spend
