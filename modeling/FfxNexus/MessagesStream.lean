/-
**The blocks of a Messages stream** (`internal/gateway/messages.go`, `handleMessagesStream`).
-/
import FfxNexus.BlockSlots
import FfxNexus.Spend.Stream

namespace FfxNexus.MessagesStream
open Interaction Schema Providers Gateway Translated Effects BlockProtocol BlockSlots List
open Interaction.Prog hiding perform
open Dispatch (answering caller meteredHandler plainRequest)

def mark? : MessagesEvent → Option (Mark Int Kind)
  | .textStart i => some (.start i .text)
  | .textDelta i _ => some (.delta i .text)
  | .toolStart i _ _ => some (.start i .tool)
  | .inputDelta i _ => some (.delta i .tool)
  | .blockStop i => some (.stop i)
  | _ => none

def isEnd : MessagesEvent → Bool
  | .messageDelta _ _ _ => true
  | .messageStop => true
  | _ => false

structure WellFormed (events : List MessagesEvent) : Prop where
  blocks : Valid (events.filterMap mark?)
  ending : ∃ body reason inputTokens outputTokens,
    events = body ++ [.messageDelta reason inputTokens outputTokens, .messageStop] ∧
      ∀ e ∈ body, isEnd e = false

def choicePieces (dc : ChunkChoice) : List Piece :=
  (if dc.delta.content = "" then [] else [.text]) ++
    dc.delta.toolCalls.map fun tc => .tool (tc.index.getD 0) (tc.functionArguments ≠ "")

def pieces : List StreamEvent → List Piece
  | [] => []
  | evt :: events =>
    match evt.err, evt.done, evt.chunk with
    | none, false, some c => c.choices.flatMap choicePieces ++ pieces events
    | _, _, _ => []

def delivered (log : List GEvent) : List StreamEvent :=
  (Spend.opened log).flatMap fun s => s.2.events

@[simp] lemma delivered_append (l l' : List GEvent) :
    delivered (l ++ l') = delivered l ++ delivered l' := by
  simp [delivered]

variable {log : List GEvent}

lemma delivered_idle (hidle : Spend.Idle log) : delivered log = [] := by
  rw [delivered, hidle.opened]
  rfl

lemma delivered_opens {cand : Candidate} {s : UpstreamStream} (hopens : Spend.Opens cand s log) :
    delivered log = s.events := by
  rw [delivered, hopens.opened]
  simp

def blocksOf (st : MessagesState) : Blocks where
  opened := st.textOpened
  tools := st.tools.map fun e => (e.1, e.2.idx)
  marks := st.out.filterMap mark?

def Keyed (b : Blocks) : Prop := (b.tools.map Prod.fst).Nodup

lemma Keyed.next {b : Blocks} (hb : Keyed b) (p : Piece) : Keyed (b.next p) := by
  cases p with
  | text => exact hb
  | tool idx fed =>
    cases hlook : b.tools.lookup idx with
    | some slot =>
      simp only [Blocks.next, hlook]
      exact hb
    | none =>
      simp only [Blocks.next, hlook, Keyed, map_append, map_singleton]
      rw [← concat_eq_append, nodup_concat]
      exact ⟨not_mem_keys hlook, hb⟩

lemma Keyed.foldl {b : Blocks} (hb : Keyed b) (ps : List Piece) :
    Keyed (ps.foldl Blocks.next b) := by
  induction ps generalizing b with
  | nil => exact hb
  | cons p ps ih => exact ih (hb.next p)

lemma textDelta_blocks (st : MessagesState) (text : String) : blocksOf (st.textDelta text) =
      (if text = "" then [] else [Piece.text]).foldl Blocks.next (blocksOf st) := by
  split_ifs with htext
  · simp [MessagesState.textDelta, htext]
  simp only [MessagesState.textDelta, if_neg htext, blocksOf, foldl_cons, foldl_nil,
    Blocks.next, filterMap_append]
  cases st.textOpened <;> rfl

variable {st st' : MessagesState}

lemma feedBlock_blocks {block : ToolBlock} {idx slot : Int} {arguments : String}
    (hkeys : (st.tools.map Prod.fst).Nodup) (hblock : (idx, block) ∈ st.tools)
    (hrun : (if arguments = "" then (pure st : GProg MessagesState) else pure { st with
        tools := setTool st.tools idx { block with inputBuf := block.inputBuf ++ arguments }
        out := st.out ++ [.inputDelta slot arguments] }).Runs log st') :
    blocksOf st' = { blocksOf st with
      marks := (blocksOf st).marks ++ feed slot (arguments ≠ "") } := by
  split_ifs at hrun with hargs
  · obtain ⟨-, rfl⟩ := hrun.done
    simp [feed, hargs]
  obtain ⟨-, rfl⟩ := hrun.done
  have htools := map_setTool ToolBlock.idx { block with inputBuf := block.inputBuf ++ arguments }
    hkeys hblock rfl
  simp only [blocksOf, htools, filterMap_append, feed, hargs, ne_eq, not_false_eq_true,
    decide_true, if_true]
  rfl

lemma messagesToolCall_blocks {tc : ToolCall} (hkeys : Keyed (blocksOf st))
    (hrun : (messagesToolCall st tc).Runs log st') : blocksOf st' =
      (blocksOf st).next (.tool (tc.index.getD 0) (tc.functionArguments ≠ "")) := by
  have hlook := lookup_map_snd ToolBlock.idx st.tools (tc.index.getD 0)
  have hkeys' : (st.tools.map Prod.fst).Nodup := by
    simpa [Keyed, blocksOf, Function.comp_def] using hkeys
  unfold messagesToolCall at hrun
  dsimp only at hrun
  cases hold : st.tools.lookup (tc.index.getD 0) with
  | none =>
    rw [hold] at hrun hlook
    obtain ⟨id, _, -, hfeed⟩ := hrun.first
    have hnew : (tc.index.getD 0) ∉ st.tools.map Prod.fst := not_mem_keys hold
    refine (feedBlock_blocks ?_ ?_ hfeed).trans ?_
    · rw [map_append, map_singleton, ← concat_eq_append, nodup_concat]
      exact ⟨hnew, hkeys'⟩
    · exact mem_append_right _ (mem_singleton_self _)
    have hview : (blocksOf st).tools.lookup (tc.index.getD 0) = none := hlook
    simp only [Blocks.next, hview]
    simp only [blocksOf, map_append, filterMap_append]
    rfl
  | some block =>
    rw [hold] at hrun hlook
    have hblock := Go.mem_of_lookup hold
    dsimp only at hrun
    generalize hnamed : (if tc.functionName ≠ "" ∧ block.name = "" then
      { block with name := tc.functionName } else block) = named at hrun
    have hidx : named.idx = block.idx := by
      rw [← hnamed]
      split <;> rfl
    have hmoved := map_setTool ToolBlock.idx _ hkeys' hblock hidx
    have hkept : (setTool st.tools (tc.index.getD 0) named).map Prod.fst =
        st.tools.map Prod.fst := by
      simpa [Function.comp_def] using congrArg (map Prod.fst) hmoved
    refine (feedBlock_blocks ?_ ?_ hrun).trans ?_
    · rw [hkept]
      exact hkeys'
    · exact mem_setTool named hblock
    have hview : (blocksOf st).tools.lookup (tc.index.getD 0) = some block.idx := hlook
    simp only [Blocks.next, hview]
    simp only [blocksOf, hmoved]
    rfl

lemma messagesChoice_blocks {dc : ChunkChoice} (hkeys : Keyed (blocksOf st))
    (hrun : (messagesChoice st dc).Runs log st') :
    blocksOf st' = (choicePieces dc).foldl Blocks.next (blocksOf st) := by
  obtain ⟨st1, htools, rfl⟩ := hrun.map
  have htext := textDelta_blocks st dc.delta.content
  have hkeys' : Keyed (blocksOf (st.textDelta dc.delta.content)) := by
    rw [htext]
    exact hkeys.foldl _
  have hfold := foldProg_view blocksOf
    (fun b tc => b.next (.tool (tc.index.getD 0) (tc.functionArguments ≠ ""))) Keyed
    (fun b tc hb => hb.next _) (fun _ _ _ _ hb h => messagesToolCall_blocks hb h) hkeys' htools
  rw [choicePieces, foldl_append, foldl_map, ← htext]
  exact hfold

lemma messagesEvents_blocks {events : List StreamEvent} (hkeys : Keyed (blocksOf st))
    (hrun : (messagesEvents events st).Runs log st') :
    blocksOf st' = (pieces events).foldl Blocks.next (blocksOf st) := by
  induction events generalizing st log with
  | nil =>
    obtain ⟨-, rfl⟩ := hrun.done
    rfl
  | cons evt events ih =>
    unfold messagesEvents at hrun
    split at hrun
    · rename_i err herr
      obtain ⟨-, rfl⟩ := hrun.done
      simp [pieces, herr, blocksOf, mark?]
    rename_i hok
    split at hrun
    · rename_i c hdone hchunk
      obtain ⟨_, st1, _, -, hchoices, hrest⟩ := hrun.split
      have hfold := foldProg_view blocksOf
        (fun b dc => (choicePieces dc).foldl Blocks.next b) Keyed
        (fun b dc hb => hb.foldl _) (fun _ _ _ _ hb h => messagesChoice_blocks hb h)
        (s := { st with
          inputTokens := (c.usage.map Usage.promptTokens).getD st.inputTokens
          outputTokens := (c.usage.map Usage.completionTokens).getD st.outputTokens })
        hkeys hchoices
      have hfirst : blocksOf st1 =
          (c.choices.flatMap choicePieces).foldl Blocks.next (blocksOf st) := by
        rw [foldl_flatMap]
        exact hfold
      have hpieces : pieces (evt :: events) =
          c.choices.flatMap choicePieces ++ pieces events := by
        simp [pieces, hok, hdone, hchunk]
      rw [hpieces, foldl_append, ← hfirst]
      exact ih (hfirst ▸ hkeys.foldl _) hrest
    · rename_i hstop
      obtain ⟨-, rfl⟩ := hrun.done
      have hpieces : pieces (evt :: events) = [] := by
        unfold pieces
        split
        · rename_i hdone hchunk
          exact absurd hchunk (hstop _ hdone)
        · rfl
      rw [hpieces]
      rfl

def ends (st : MessagesState) : List MessagesEvent := st.out.filter isEnd

def feedsBlock : MessagesEvent → Bool
  | .textStart _ => true
  | .textDelta _ _ => true
  | .toolStart _ _ _ => true
  | .inputDelta _ _ => true
  | _ => false

def frame (st : MessagesState) : List MessagesEvent := st.out.filter fun e => !feedsBlock e

lemma filter_frame {p : MessagesEvent → Bool} (hp : ∀ e, p e = true → feedsBlock e = false)
    (st : MessagesState) : (frame st).filter p = st.out.filter p := by
  unfold frame
  rw [filter_filter]
  refine filter_congr fun e _ => ?_
  cases hpe : p e with
  | true => rw [hp e hpe]; rfl
  | false => rfl

lemma ends_eq_of_frame (hframe : frame st' = frame st) : ends st' = ends st := by
  have hend : ∀ e, isEnd e = true → feedsBlock e = false := by
    intro e he
    cases e <;> first | rfl | cases he
  rw [ends, ends, ← filter_frame hend, ← filter_frame hend, hframe]

lemma textDelta_frame (st : MessagesState) (text : String) :
    frame (st.textDelta text) = frame st := by
  unfold MessagesState.textDelta frame
  split
  · rfl
  · cases st.textOpened <;> simp [feedsBlock]

lemma feedBlock_frame {tools : List (Int × ToolBlock)} {slot : Int} {arguments : String}
    (hrun : (if arguments = "" then (pure st : GProg MessagesState) else pure { st with
        tools := tools, out := st.out ++ [.inputDelta slot arguments] }).Runs log st') :
    frame st' = frame st := by
  split at hrun
  · obtain ⟨-, rfl⟩ := hrun.done
    rfl
  · obtain ⟨-, rfl⟩ := hrun.done
    simp [frame, feedsBlock]

lemma messagesToolCall_frame {tc : ToolCall} (hrun : (messagesToolCall st tc).Runs log st') :
    frame st' = frame st := by
  unfold messagesToolCall at hrun
  dsimp only at hrun
  split at hrun
  · obtain ⟨id, _, -, hfeed⟩ := hrun.first
    refine (feedBlock_frame hfeed).trans ?_
    simp [frame, feedsBlock]
  · exact (feedBlock_frame hrun).trans rfl

lemma messagesChoice_frame {dc : ChunkChoice} (hrun : (messagesChoice st dc).Runs log st') :
    frame st' = frame st := by
  obtain ⟨st1, htools, rfl⟩ := hrun.map
  have hkept := Spend.foldProg_keeps (g := frame) messagesToolCall_frame htools
  exact hkept.trans (textDelta_frame st _)

lemma messagesEvents_ends {events : List StreamEvent}
    (hrun : (messagesEvents events st).Runs log st') : ends st' = ends st := by
  induction events generalizing st log with
  | nil =>
    obtain ⟨-, rfl⟩ := hrun.done
    rfl
  | cons evt events ih =>
    unfold messagesEvents at hrun
    split at hrun
    · obtain ⟨-, rfl⟩ := hrun.done
      simp [ends, isEnd]
    split at hrun
    · obtain ⟨_, st1, _, -, hchoices, hrest⟩ := hrun.split
      have hkept := Spend.foldProg_keeps (g := frame) messagesChoice_frame hchoices
      exact (ih hrest).trans (ends_eq_of_frame hkept)
    · obtain ⟨-, rfl⟩ := hrun.done
      rfl

structure Written (log : List GEvent) (st : MessagesState) : Prop where
  blocks : blocksOf st = blocks.run .start (pieces (delivered log))
  ends : ends st = []

lemma Written.wellFormed_iff (hst : Written log st) :
    WellFormed (st.out ++ st.closing) ↔ Orderly (pieces (delivered log)) := by
  have hconsistent := consistent_run (pieces (delivered log))
  rw [← hst.blocks] at hconsistent
  have hmarks : (st.out ++ st.closing).filterMap mark? =
      (blocksOf st).marks ++ (blocksOf st).slots.map .stop := by
    simp only [MessagesState.closing, filterMap_append, filterMap_map, blocksOf,
      Blocks.slots, map_append, map_map]
    by_cases hopen : st.textOpened = true
    · simp [mark?, Function.comp_def, hopen]
    · simp [mark?, Function.comp_def, hopen]
  rw [← feeding_iff_orderly, ← hst.blocks,
    ← valid_close_iff hconsistent.open' hconsistent.names, ← hmarks]
  constructor
  · exact WellFormed.blocks
  · intro hblocks
    refine ⟨hblocks, st.out ++ ((if st.textOpened then [.blockStop 0] else []) ++
      st.tools.map fun e => .blockStop e.2.idx), _, _, _, (append_assoc ..).symm, ?_⟩
    · intro e he
      rcases mem_append.mp he with hout | hstop
      · have hnone := filter_eq_nil_iff.mp hst.ends e hout
        simpa using hnone
      rcases mem_append.mp hstop with htext | htool
      · split at htext
        · rw [mem_singleton.mp htext]
          rfl
        · cases htext
      · obtain ⟨t, -, rfl⟩ := mem_map.mp htool
        rfl

lemma handleMessagesStream_written {h : Handler} {ctx : Ctx} {flusher : Bool}
    {req : ChatCompletionRequest} {events : List MessagesEvent}
    (hrun : (handleMessagesStream h ctx flusher req).Runs log (.ok (.stream events))) :
    ∃ st, Written log st ∧ events = st.out ++ st.closing := by
  unfold handleMessagesStream at hrun
  split at hrun
  · obtain ⟨-, heq⟩ := hrun.done
    cases heq
  split at hrun
  · obtain ⟨-, heq⟩ := hrun.done
    cases heq
  obtain ⟨l1, id, _, rfl, hid, hrun1⟩ := hrun.split
  obtain ⟨l2, start, l3, rfl, hstart, hrun2⟩ := hrun1.split
  obtain ⟨st, hproviders, heq⟩ := hrun2.map
  cases heq
  have hfront := (Spend.idle_of_within newUUID_within hid rfl rfl).append
    (Spend.idle_of_within now_within hstart rfl rfl)
  rw [← append_assoc]
  refine ⟨st, ?_, rfl⟩
  rcases Spend.messagesProviders_opens hproviders with
    ⟨hidle, rfl⟩ | ⟨cand, s, l, hopens, hevents⟩
  · have hnone := delivered_idle (hfront.append hidle)
    refine ⟨?_, rfl⟩
    rw [hnone]
    rfl
  · have hsome := delivered_opens (hopens.prepend hfront)
    refine ⟨?_, ?_⟩
    · rw [hsome]
      exact messagesEvents_blocks (by exact nodup_nil) hevents
    · exact messagesEvents_ends hevents

theorem messages_wellFormed_iff (h : Handler) (ctx : Ctx) (flusher : Bool)
    (req : ChatCompletionRequest) (log : List GEvent) (events : List MessagesEvent)
    (hrun : (handleMessagesStream h ctx flusher req).Runs log (.ok (.stream events))) :
    WellFormed events ↔ Orderly (pieces (delivered log)) := by
  obtain ⟨st, hwritten, rfl⟩ := handleMessagesStream_written hrun
  exact hwritten.wellFormed_iff

variable (deltas : List Delta)

def streamOf : UpstreamStream where
  events := deltas.map fun d =>
    ⟨some ⟨"c-1", "chat.completion.chunk", 0, "gpt-4o", [⟨0, d, ""⟩], none⟩, none, none, false⟩
  protocol := by
    constructor
    · intro e he hend
      obtain ⟨d, -, rfl⟩ := List.mem_map.mp he
      simp at hend
    · intro before e after heq hdone
      have he : e ∈ deltas.map _ := heq ▸ List.mem_append_right before List.mem_cons_self
      obtain ⟨d, -, rfl⟩ := List.mem_map.mp he
      cases hdone

def saying (content : String) : Delta := ⟨"assistant", content, []⟩

def calling (index : Int) (id name arguments : String) : Delta :=
  ⟨"assistant", "", [⟨some index, id, "function", name, arguments, "", ""⟩]⟩

def messagesRun (s : UpstreamStream) : List GEvent × Reply MessagesBody :=
  execute (answering s) (handleMessagesStream meteredHandler caller true (plainRequest "gpt-4o"))

lemma messagesRun_runs {s : UpstreamStream} {reply : Reply MessagesBody}
    (hreply : (messagesRun s).2 = reply) :
    (handleMessagesStream meteredHandler caller true (plainRequest "gpt-4o")).Runs
      (messagesRun s).1 reply :=
  hreply ▸ execute_runs _ _

def textFirst : List Delta :=
  [saying "Let me look.", calling 0 "call_1" "lookup" "", calling 0 "" "" "null"]

def textFirstEvents : List MessagesEvent :=
  [.messageStart "msg_" "gpt-4o", .textStart 0, .textDelta 0 "Let me look.",
    .toolStart 1 "toolu_" "lookup", .inputDelta 1 "null", .blockStop 0, .blockStop 1,
    .messageDelta "" 0 0, .messageStop]

theorem messages_wellFormed_textFirst :
    (messagesRun (streamOf textFirst)).2 = .ok (.stream textFirstEvents) ∧
      WellFormed textFirstEvents := by
  have hreply : (messagesRun (streamOf textFirst)).2 = .ok (.stream textFirstEvents) := by decide
  have hpieces : pieces (delivered (messagesRun (streamOf textFirst)).1) =
      [.text, .tool 0 false, .tool 0 true] := by decide
  refine ⟨hreply, (messages_wellFormed_iff _ _ _ _ _ _ (messagesRun_runs hreply)).mpr ?_⟩
  rw [hpieces]
  simp [Orderly, late, early, Placed]

def toolFirst : List Delta := [calling 0 "call_1" "lookup" "", saying "Let me look."]

def toolFirstEvents : List MessagesEvent :=
  [.messageStart "msg_" "gpt-4o", .toolStart 0 "toolu_" "lookup", .textStart 0,
    .textDelta 0 "Let me look.", .blockStop 0, .blockStop 0, .messageDelta "" 0 0, .messageStop]

theorem messages_toolFirst_malformed :
    (handleMessagesStream meteredHandler caller true (plainRequest "gpt-4o")).Runs
        (messagesRun (streamOf toolFirst)).1 (.ok (.stream toolFirstEvents)) ∧
      ¬ WellFormed toolFirstEvents := by
  refine ⟨messagesRun_runs (by decide), ?_⟩
  intro hwell
  have hfresh := hwell.blocks.fresh
  revert hfresh
  decide

end FfxNexus.MessagesStream
