/-
**The cost on a chunk and the cost of the stream.** While a chat stream is relayed, every re-encoded
chunk with a usage block is stamped with a cost (`usage.cost_usd`); when the stream is over the cost
is computed again, for the trailer, the trace and the spend.
-/
import FfxNexus.Spend.Complete

namespace FfxNexus.Spend
open List Option
open Interaction Schema Providers Pricing Gateway Chat Endpoints Effects
open Interaction.Prog hiding perform
open Dispatch (answering blankCodec blankText caller meteredHandler plainRequest)

def ChatWrite.usage? : ChatWrite → Option Usage
  | .chunk c => c.usage
  | _ => none

def writtenUsages (writes : List ChatWrite) : List Usage := writes.filterMap ChatWrite.usage?

def usageOf (e : StreamEvent) : Option Usage := e.chunk.bind ChatCompletionChunk.usage

def Known.stamp (k : Known) (requestModel : String) (u : Usage) : Usage :=
  { u with costUSD := resolveCostUSD k.cost requestModel k.model (some u) }

def stamps (requestModel : String) : Known → List StreamEvent → List Usage
  | _, [] => []
  | k, e :: events =>
    ((usageOf e).map ((k.learn e).stamp requestModel)).toList ++
      stamps requestModel (k.learn e) events

section
variable {rm : String}

lemma writtenUsages_append (ws ws' : List ChatWrite) :
    writtenUsages (ws ++ ws') = writtenUsages ws ++ writtenUsages ws' :=
  filterMap_append

lemma stamps_append (k : Known) (es es' : List StreamEvent) :
    stamps rm k (es ++ es') = stamps rm k es ++ stamps rm (es.foldl Known.learn k) es' := by
  induction es generalizing k with
  | nil => rfl
  | cons e es ih => rw [cons_append, stamps, stamps, ih, foldl_cons, append_assoc]

lemma usages_cons (e : StreamEvent) (events : List StreamEvent) :
    usages (e :: events) = (usageOf e).toList ++ usages events := by
  unfold usageOf
  cases hc : e.chunk with
  | none =>
    rw [usages, chunks_cons_none events hc]
    rfl
  | some c =>
    rw [usages, chunks_cons_some events hc, filterMap_cons, bind_some]
    cases c.usage <;> rfl

lemma usages_append (es es' : List StreamEvent) : usages (es ++ es') = usages es ++ usages es' := by
  rw [usages, usages, usages, chunks, chunks, chunks, filterMap_append, filterMap_append]

lemma usages_split {before after : List StreamEvent} {e : StreamEvent} {u : Usage}
    (hu : usageOf e = some u) (hafter : usages after = []) :
    (usages (before ++ e :: after)).getLast? = some u := by
  rw [usages_append, usages_cons, hu, hafter]
  simp

lemma stamps_eq_nil {events : List StreamEvent} (hnone : usages events = []) (k : Known) :
    stamps rm k events = [] := by
  induction events generalizing k with
  | nil => rfl
  | cons e events ih =>
    rw [usages_cons, append_eq_nil_iff, toList_eq_nil_iff] at hnone
    rw [stamps, hnone.1, ih hnone.2]
    rfl

lemma relayEvent_stamps {h : Handler} {start : Int} {r r' : Relay} {e : StreamEvent}
    {log : List GEvent} (hbare : e.err.isSome ∨ e.done = true → e.chunk = none)
    (hraw : e.raw = none) (hrun : (relayEvent h start r e).Runs log r') :
    writtenUsages r'.writes = writtenUsages r.writes ++
      ((usageOf e).map (((known r).learn e).stamp r.trace.requestModel)).toList := by
  have silent : e.chunk = none → ∀ ws : List ChatWrite, writtenUsages ws = [] →
      writtenUsages (r.writes ++ ws) = writtenUsages r.writes ++
        ((usageOf e).map (((known r).learn e).stamp r.trace.requestModel)).toList := by
    intro hc ws hws
    rw [writtenUsages_append, hws, usageOf, hc]
    rfl
  unfold relayEvent at hrun
  cases herr : e.err with
  | some err =>
    rw [herr] at hrun
    obtain ⟨-, rfl⟩ := hrun.done
    exact silent (hbare (.inl (by rw [herr]; rfl))) _ rfl
  | none =>
    rw [herr] at hrun
    by_cases hdone : e.done = true
    · rw [if_pos hdone] at hrun
      obtain ⟨-, rfl⟩ := hrun.done
      exact silent (hbare (.inr hdone)) _ (by split <;> rfl)
    rw [if_neg hdone] at hrun
    cases hc : e.chunk with
    | none =>
      rw [hc, hraw] at hrun
      obtain ⟨-, rfl⟩ := hrun.done
      simpa using silent hc [] rfl
    | some c =>
      rw [hc, hraw] at hrun
      obtain ⟨ms, -, rfl⟩ := hrun.map
      have hwrites : (r.observe c ms).writes = r.writes := by
        unfold Relay.observe
        cases c.usage <;> rfl
      have hknown : known (r.observe c ms) = (known r).learn e := known_observe hc
      have hmodel : (r.observe c ms).trace.requestModel = r.trace.requestModel :=
        observe_requestModel
      have husage : ((r.observe c ms).stamp c).usage =
          (usageOf e).map (((known r).learn e).stamp r.trace.requestModel) := by
        rw [usageOf, hc, ← hknown, ← hmodel]
        rfl
      rw [Relay.pass, writtenUsages_append, hwrites, ← husage]
      cases hu : ((r.observe c ms).stamp c).usage <;>
        simp [writtenUsages, ChatWrite.usage?, hu]

lemma relayLoop_stamps {h : Handler} {start : Int} {r r' : Relay} {events : List StreamEvent}
    {log : List GEvent} (hbare : ∀ e ∈ events, e.err.isSome ∨ e.done = true → e.chunk = none)
    (hraw : ∀ e ∈ events, e.raw = none) (hrun : (relayLoop h start events r).Runs log r') :
    writtenUsages r'.writes =
      writtenUsages r.writes ++ stamps r.trace.requestModel (known r) events := by
  induction events generalizing r log with
  | nil =>
    obtain ⟨-, rfl⟩ := hrun.done
    rw [stamps, append_nil]
  | cons e events ih =>
    obtain ⟨hfirst, hrest⟩ := forall_mem_cons.mp hbare
    obtain ⟨hrawfirst, hrawrest⟩ := forall_mem_cons.mp hraw
    obtain ⟨_, r1, _, -, hevent, hloop⟩ := hrun.split
    obtain ⟨hknown, hmodel⟩ := relayEvent_known hfirst hevent
    rw [ih hrest hrawrest hloop, relayEvent_stamps hfirst hrawfirst hevent, hknown, hmodel,
      stamps, append_assoc]

lemma stamps_split {before after : List StreamEvent} {e : StreamEvent} {u : Usage}
    (hu : usageOf e = some u) (hafter : usages after = []) :
    (stamps rm ⟨none, 0, ""⟩ (before ++ e :: after)).getLast? =
      some { u with costUSD := chatCharge rm (before ++ [e]) } := by
  have hlearn : ((before.foldl Known.learn ⟨none, 0, ""⟩).learn e) =
      (before ++ [e]).foldl Known.learn ⟨none, 0, ""⟩ := by
    rw [foldl_append]
    rfl
  have hlast : (usages (before ++ [e])).getLast? = some u := usages_split hu rfl
  rw [stamps_append, stamps, hu, stamps_eq_nil hafter, hlearn, foldl_learn, append_nil,
    map_some, toList_some, getLast?_append, getLast?_singleton,
    some_or, Known.stamp, chatCharge, streamModel, hlast]

end

def CostSettled (requestModel : String) (events : List StreamEvent) : Prop :=
  ∀ before e after u, events = before ++ e :: after → usageOf e = some u → usages after = [] →
    estimates events ≠ [] ∨
      tableCostUSD requestModel (streamModel (before ++ [e])) (some u) =
        tableCostUSD requestModel (streamModel events) (some u)

section
variable {rm : String} {events before after : List StreamEvent} {e : StreamEvent} {u : Usage}

lemma exists_usages_split (hlast : (usages events).getLast? = some u) :
    ∃ before e after, events = before ++ e :: after ∧ usageOf e = some u ∧ usages after = [] := by
  induction events with
  | nil => cases hlast
  | cons e events ih =>
    rw [usages_cons] at hlast
    by_cases hnone : usages events = []
    · rw [hnone] at hlast
      refine ⟨[], e, events, rfl, ?_, hnone⟩
      cases hu : usageOf e with
      | none =>
        rw [hu] at hlast
        cases hlast
      | some u' =>
        rw [hu] at hlast
        exact hlast
    · rw [getLast?_append_of_ne_nil _ hnone] at hlast
      obtain ⟨before, e', after, rfl, hu, hafter⟩ := ih hlast
      exact ⟨e :: before, e', after, rfl, hu, hafter⟩

lemma estimates_split (hafter : usages after = []) :
    estimates (before ++ e :: after) = estimates (before ++ [e]) := by
  have hsame : usages (before ++ e :: after) = usages (before ++ [e]) := by
    rw [usages_append, usages_append, usages_cons, usages_cons, hafter]
    rfl
  rw [estimates, estimates, hsame]

lemma resolveCostUSD_eq_iff (c : ℚ) (m m' : String) (usage : Option Usage) :
    resolveCostUSD c rm m usage = resolveCostUSD c rm m' usage ↔
      0 < c ∨ tableCostUSD rm m usage = tableCostUSD rm m' usage := by
  by_cases hc : 0 < c
  · rw [resolveCostUSD_reported hc, resolveCostUSD_reported hc]
    exact iff_of_true rfl (.inl hc)
  · rw [resolveCostUSD_table hc, resolveCostUSD_table hc, or_iff_right hc]

lemma estimates_getLastD_pos : 0 < (estimates events).getLastD 0 ↔ estimates events ≠ [] := by
  rw [getLastD_eq_getLast?]
  cases hlast : (estimates events).getLast? with
  | none =>
    rw [getLast?_eq_none_iff] at hlast
    simp [hlast]
  | some c =>
    refine iff_of_true (estimates_pos hlast) ?_
    intro hnil
    rw [hnil] at hlast
    cases hlast

lemma chatCharge_split_iff (hu : usageOf e = some u) (hafter : usages after = []) :
    chatCharge rm (before ++ [e]) = chatCharge rm (before ++ e :: after) ↔
      estimates (before ++ e :: after) ≠ [] ∨
        tableCostUSD rm (streamModel (before ++ [e])) (some u) =
          tableCostUSD rm (streamModel (before ++ e :: after)) (some u) := by
  have hupto : (usages (before ++ [e])).getLast? = some u := usages_split hu rfl
  rw [chatCharge, chatCharge, hupto, usages_split hu hafter, ← estimates_split hafter,
    resolveCostUSD_eq_iff, estimates_getLastD_pos]

lemma stamps_charge_iff :
    (∀ u, (stamps rm ⟨none, 0, ""⟩ events).getLast? = some u → u.costUSD = chatCharge rm events) ↔
      CostSettled rm events := by
  constructor
  · intro hone before e after u hsplit hu hafter
    subst hsplit
    have hlast : (stamps rm ⟨none, 0, ""⟩ (before ++ e :: after)).getLast? = _ :=
      stamps_split hu hafter
    exact (chatCharge_split_iff hu hafter).mp (hone _ hlast)
  · intro hsettled stamped hlast
    cases husages : (usages events).getLast? with
    | none =>
      rw [stamps_eq_nil (getLast?_eq_none_iff.mp husages)] at hlast
      cases hlast
    | some u =>
      obtain ⟨before, e, after, rfl, hu, hafter⟩ := exists_usages_split husages
      rw [stamps_split hu hafter] at hlast
      obtain rfl := some.inj hlast
      exact (chatCharge_split_iff hu hafter).mpr (hsettled before e after u rfl hu hafter)

end

section
variable {h : Handler} {ctx : Ctx} {flusher : Bool} {chain : List String}
variable {req : ChatCompletionRequest} {start : Int} {cand : Candidate} {s : UpstreamStream}
variable {log : List GEvent} {reply : Reply ChatBody}

lemma handleStream_trailer (hrun : (handleStream h ctx flusher chain req start).Runs log reply)
    (hopened : opened log = [(cand, s)]) (hraw : ∀ e ∈ s.events, e.raw = none) :
    ∃ writes, reply = .ok (.stream writes (chatCharge cand.model s.events)) ∧
      writtenUsages writes = stamps cand.model ⟨none, 0, ""⟩ s.events := by
  obtain ⟨front, t, w, l1, r, l2, -, -, -, hfresh, hrelay, hfinish⟩ :=
    handleStream_opened hrun hopened
  obtain ⟨_, ms, _, -, -, hrun1⟩ := hfinish.split
  obtain ⟨_, _, _, -, -, hrun2⟩ := hrun1.split
  obtain ⟨_, -, rfl⟩ := hrun2.map
  have hwrites := relayLoop_stamps s.protocol.bare hraw hrelay
  have hmodel : (Relay.start t).trace.requestModel = cand.model := hfresh.requestModel
  have hknown : known (.start t) = ⟨none, 0, ""⟩ := by
    rw [← hfresh.responseModel]
    rfl
  rw [hmodel, hknown] at hwrites
  refine ⟨r.writes, ?_, hwrites⟩
  rw [(relayLoop_charge hfresh hrelay).1]

end

theorem stream_cost_one_iff (h : Handler) (ctx : Ctx) (flusher : Bool) (chain : List String)
    (req : ChatCompletionRequest) (start : Int) (cand : Candidate) (events : List StreamEvent)
    (log : List GEvent) (reply : Reply ChatBody)
    (hrun : (handleStream h ctx flusher chain req start).Runs log reply)
    (hopened : (opened log).map (fun o => (o.1, o.2.events)) = [(cand, events)])
    (hraw : ∀ e ∈ events, e.raw = none) : ∃ writes cost, reply = .ok (.stream writes cost) ∧
      (∀ t ∈ records log, t.costUSD = cost) ∧ spends log = reportedSpend h ctx cost ∧
      ((∀ u, (writtenUsages writes).getLast? = some u → u.costUSD = cost) ↔
        CostSettled cand.model events) := by
  obtain ⟨⟨cand', s⟩, hone, hsame⟩ := map_eq_singleton_iff.mp hopened
  obtain ⟨rfl, rfl⟩ := Prod.mk.inj hsame
  obtain ⟨writes, hreply, hwrites⟩ := handleStream_trailer hrun hone hraw
  obtain ⟨hwritten, -⟩ := handleStream_written hrun hone
  refine ⟨writes, _, hreply, ?_, hwritten.spends, ?_⟩
  · intro t ht
    exact congrArg Bill.cost (hwritten.traces t ht)
  · rw [hwrites]
    exact stamps_charge_iff

def pricedRun : List GEvent × Reply ChatBody :=
  execute reporting (handleStream meteredHandler caller true ["gpt-4o"] (plainRequest "gpt-4o") 0)

theorem stream_cost_one_reported :
    (handleStream meteredHandler caller true ["gpt-4o"] (plainRequest "gpt-4o")
        0).Runs pricedRun.1 pricedRun.2 ∧ (opened pricedRun.1).map (fun o => (o.1, o.2.events)) =
        [(⟨0, "gpt-4o"⟩, pricedStream.events)] ∧
      ∃ writes cost, pricedRun.2 = .ok (.stream writes cost) ∧
        ∀ u, (writtenUsages writes).getLast? = some u → u.costUSD = cost := by
  have hrun : (handleStream meteredHandler caller true ["gpt-4o"]
      (plainRequest "gpt-4o") 0).Runs pricedRun.1 pricedRun.2 := execute_runs _ _
  have hopened : (opened pricedRun.1).map (fun o => (o.1, o.2.events)) =
      [(⟨0, "gpt-4o"⟩, pricedStream.events)] := by with_unfolding_all decide
  obtain ⟨writes, cost, hreply, -, -, hone⟩ := stream_cost_one_iff _ _ _ _ _ _ _ _ _ _ hrun
    hopened (by decide)
  have hreported : estimates pricedStream.events ≠ [] := by with_unfolding_all decide
  exact ⟨hrun, hopened, writes, cost, hreply, hone.mpr fun _ _ _ _ _ _ _ => .inl hreported⟩

def renamedStream : UpstreamStream where
  events :=
    [ ⟨some ⟨"c-1", "chat.completion.chunk", 0, "gpt-4o-mini", [],
        some ⟨1000000, 1000000, 2000000, 0, 0, none, none⟩⟩, none, none, false⟩,
      ⟨some ⟨"c-1", "chat.completion.chunk", 0, "gpt-4o", [], none⟩, none, none, false⟩ ]
  protocol := by
    refine ⟨by decide, fun before e after heq hdone => ?_⟩
    have hmem : e ∈ before ++ e :: after := by simp
    rw [← heq] at hmem
    simp only [List.mem_cons, List.not_mem_nil, or_false] at hmem
    rcases hmem with rfl | rfl <;> cases hdone

def renamedRun : List GEvent × Reply ChatBody :=
  execute (answering renamedStream)
    (handleStream (newHandler (newRegistry.register openai ["house"]) true true
      blankCodec blankText) caller true ["house"]
      (plainRequest "house") 0)

theorem stream_cost_renamed : (opened renamedRun.1).map (fun o => (o.1, o.2.events)) =
        [(⟨0, "house"⟩, renamedStream.events)] ∧ (∀ e ∈ renamedStream.events, e.raw = none) ∧
      ∃ writes, renamedRun.2 = .ok (.stream writes (25 / 2)) ∧
        (writtenUsages writes).getLast?.map Usage.costUSD = some (3 / 4) := by
  have hopened : (opened renamedRun.1).map (fun o => (o.1, o.2.events)) =
      [(⟨0, "house"⟩, renamedStream.events)] := by with_unfolding_all decide
  have hraw : ∀ e ∈ renamedStream.events, e.raw = none := by decide
  obtain ⟨⟨cand, s⟩, hone, hsame⟩ := map_eq_singleton_iff.mp hopened
  obtain ⟨rfl, hevents⟩ := Prod.mk.inj hsame
  obtain ⟨writes, hreply, hwrites⟩ := handleStream_trailer (execute_runs _ _) hone
    (hevents ▸ hraw)
  have hcharge : chatCharge "house" renamedStream.events = 25 / 2 := by with_unfolding_all decide
  have hstamp : (stamps "house" ⟨none, 0, ""⟩ renamedStream.events).getLast?.map Usage.costUSD =
      some (3 / 4) := by with_unfolding_all decide
  rw [hevents, hcharge] at hreply
  rw [← hevents, ← hwrites] at hstamp
  exact ⟨hopened, hraw, writes, hreply, hstamp⟩

end FfxNexus.Spend
