/-
**Anthropic messages, whole and streamed** (`toOpenAI` against `parseSSE`).
-/
import FfxNexus.Adapters.Anthropic
import FfxNexus.StringLiteral

namespace FfxNexus.Adapters.Anthropic
open Schema StringLiteral List

def piece (index : Int) (b : ContentBlock) (e : Event) : Option String :=
  if e.type = "content_block_delta" ∧ e.index = index then
    if b.type = "text" then (if e.delta.type = "text_delta" then some e.delta.text else none)
    else if e.delta.type = "input_json_delta" then unquote e.delta.partialJSON
    else none
  else none

def payload (b : ContentBlock) : String := if b.type = "text" then b.text else b.input

structure Starts (index : Int) (b : ContentBlock) (e : Event) : Prop where
  type : e.type = "content_block_start"
  index : e.index = index
  block : ∃ s, e.contentBlock = some s ∧ s.type = b.type ∧
    (b.type = "tool_use" → s.id = b.id ∧ s.name = b.name)

inductive SplitsBlock (index : Int) (b : ContentBlock) : List Event → Prop
  | mk (start : Event) (deltas : List Event) (pieces : List String) (stop : Event)
      (hstart : Starts index b start)
      (hdeltas : Forall₂ (fun e p => piece index b e = some p) deltas pieces)
      (hpayload : String.join pieces = payload b)
      (hstop : stop.type = "content_block_stop" ∧ stop.index = index) :
      SplitsBlock index b (start :: (deltas ++ [stop]))

inductive SplitsBlocks : Int → List ContentBlock → List Event → Prop
  | nil (index : Int) : SplitsBlocks index [] []
  | cons {index : Int} {b : ContentBlock} {bs : List ContentBlock} {here rest : List Event}
      (hhere : SplitsBlock index b here) (hrest : SplitsBlocks (index + 1) bs rest) :
      SplitsBlocks index (b :: bs) (here ++ rest)

def carries (e : Event) : Bool :=
  e.type = "content_block_start" ∨ e.type = "content_block_delta" ∨
    e.type = "content_block_stop" ∨ e.type = "message_delta"

structure Splits (ar : AnthropicResponse) (es : List Event) : Prop where
  stopped : ∃ e ∈ es, e.type = "message_stop"
  split : ∃ blocks ends, (beforeStop es).filter carries = blocks ++ ends ∧
    SplitsBlocks 0 ar.content blocks ∧ (∀ e ∈ ends, e.type = "message_delta") ∧
    (ends.map fun e => e.delta.stopReason).filter (· ≠ "") = [ar.stopReason].filter (· ≠ "")

def Known (b : ContentBlock) : Prop := b.type = "text" ∨ b.type = "tool_use"

inductive Fragments (b : ContentBlock) : List ToolCall → Prop
  | mk (raws pieces : List String)
      (hraws : Forall₂ (fun raw p => unquote raw = some p) raws pieces)
      (hinput : String.join pieces = b.input) :
      Fragments b (fragment b.id b.name "" :: raws.map (fragment b.id ""))

section
variable {model : String} {created : Int} {st : ParseState} {index : Int} {b : ContentBlock}
variable {e : Event} {p : String}

lemma piece_text (hb : b.type = "text") (hp : piece index b e = some p) :
    e.type = "content_block_delta" ∧ e.delta.type = "text_delta" ∧ e.delta.text = p := by
  unfold piece at hp
  split at hp
  · rename_i hdelta
    split at hp
    · rename_i htype
      exact ⟨hdelta.1, htype, Option.some.inj hp⟩
    · simp at hp
  · simp at hp

lemma not_text (hb : b.type = "tool_use") : b.type ≠ "text" := by
  rw [hb]
  decide

lemma piece_input (hb : b.type = "tool_use") (hp : piece index b e = some p) :
    e.type = "content_block_delta" ∧ e.index = index ∧ e.delta.type = "input_json_delta" ∧
      unquote e.delta.partialJSON = some p := by
  unfold piece at hp
  rw [if_neg (not_text hb)] at hp
  split at hp
  · rename_i hdelta
    split at hp
    · rename_i htype
      exact ⟨hdelta.1, hdelta.2, htype, hp⟩
    · simp at hp
  · simp at hp

lemma parseEvent_text (hb : b.type = "text") (hp : piece index b e = some p) :
    sending (parseEvent model created st e) =
      { sending st with text := (sending st).text ++ p } := by
  obtain ⟨htype, hdelta, rfl⟩ := piece_text hb hp
  by_cases hempty : e.delta.text = ""
  · simp [parseEvent, blockDelta, htype, hdelta, hempty]
  have hevent : parseEvent model created st e =
      { st with out := st.out ++ [chunkEvent model created ⟨"", e.delta.text, []⟩ "" none] } := by
    simp [parseEvent, blockDelta, htype, hdelta, hempty]
  rw [hevent, sending_snoc _ _ _ st.usage _ st.pendingToolDeltas]
  simp

lemma foldl_text (hb : b.type = "text") {deltas : List Event} {pieces : List String}
    (hdeltas : Forall₂ (fun e p => piece index b e = some p) deltas pieces) :
    sending (deltas.foldl (parseEvent model created) st) =
      { sending st with text := (sending st).text ++ String.join pieces } := by
  induction hdeltas generalizing st with
  | nil => simp
  | cons hp _ ih =>
    rw [foldl_cons, ih, parseEvent_text hb hp, String.join_cons, ← String.append_assoc]

lemma parseEvent_input (model : String) (created : Int) (hb : b.type = "tool_use")
    (hp : piece index b e = some p) {tc : ToolCall}
    (hlook : st.pendingToolDeltas.lookup index = some tc) :
    sending (parseEvent model created st e) =
        { sending st with calls := (sending st).calls ++ [fragment tc.id "" e.delta.partialJSON] } ∧
      ∃ tc', (parseEvent model created st e).pendingToolDeltas.lookup index = some tc' ∧
        tc'.id = tc.id := by
  obtain ⟨htype, hindex, hdelta, hraw⟩ := piece_input hb hp
  have hfull : e.delta.partialJSON ≠ "" := by
    intro hempty
    obtain ⟨⟨rest, hrest⟩, -⟩ := unquote_length hraw
    simp [hempty] at hrest
  have hevent : parseEvent model created st e =
      { st with
        pendingToolDeltas := putPending st.pendingToolDeltas index
          { tc with functionArguments := tc.functionArguments ++ e.delta.partialJSON }
        out := st.out ++ [chunkEvent model created
          ⟨"", "", [fragment tc.id "" e.delta.partialJSON]⟩ "" none] } := by
    simp [parseEvent, blockDelta, htype, hdelta, hfull, hindex, hlook]
  rw [hevent]
  refine ⟨?_, ?_⟩
  · rw [sending_snoc _ _ _ st.usage _ st.pendingToolDeltas]
    simp
  · exact ⟨_, lookup_putPending _ _ _, rfl⟩

lemma foldl_input (hb : b.type = "tool_use") {deltas : List Event} {pieces : List String}
    (hdeltas : Forall₂ (fun e p => piece index b e = some p) deltas pieces)
    {tc : ToolCall} (hlook : st.pendingToolDeltas.lookup index = some tc) :
    sending (deltas.foldl (parseEvent model created) st) = { sending st with
        calls := (sending st).calls ++
          deltas.map (fun e => fragment tc.id "" e.delta.partialJSON) } := by
  induction hdeltas generalizing st tc with
  | nil => simp
  | cons hp _ ih =>
    obtain ⟨hsent, tc', hlook', hid⟩ := parseEvent_input model created hb hp hlook
    rw [foldl_cons, ih hlook', hsent, hid]
    simp

lemma parseEvent_stop (hstop : e.type = "content_block_stop") :
    parseEvent model created st e = st := by
  simp [parseEvent, hstop]

lemma parseEvent_start_text (hb : b.type = "text") (hstart : Starts index b e) :
    parseEvent model created st e = st := by
  obtain ⟨s, hs, htype, -⟩ := hstart.block
  simp [parseEvent, blockStart, hstart.type, hs, htype, hb]

lemma parseEvent_start_tool (hb : b.type = "tool_use") (hstart : Starts index b e) :
    parseEvent model created st e = { st with
        pendingToolDeltas := putPending st.pendingToolDeltas index (fragment b.id b.name "")
        out := st.out ++ [chunkEvent model created
          ⟨"assistant", "", [fragment b.id b.name ""]⟩ "" none] } := by
  obtain ⟨s, hs, htype, hnames⟩ := hstart.block
  obtain ⟨hid, hname⟩ := hnames hb
  simp [parseEvent, blockStart, hstart.type, hstart.index, hs, htype, hb, hid, hname]

variable {es : List Event}

lemma foldl_textBlock (hb : b.type = "text") (hes : SplitsBlock index b es) :
    sending (es.foldl (parseEvent model created) st) =
      { sending st with text := (sending st).text ++ b.text } := by
  obtain ⟨start, deltas, pieces, stop, hstart, hdeltas, hpayload, hstop⟩ := hes
  rw [foldl_cons, foldl_append, parseEvent_start_text hb hstart, foldl_cons,
    foldl_nil, parseEvent_stop hstop.1, foldl_text hb hdeltas, hpayload, payload, if_pos hb]

lemma foldl_toolBlock (model : String) (created : Int) (st : ParseState)
    (hb : b.type = "tool_use") (hes : SplitsBlock index b es) :
    ∃ sent, Fragments b sent ∧ sending (es.foldl (parseEvent model created) st) =
      { sending st with calls := (sending st).calls ++ sent } := by
  obtain ⟨start, deltas, pieces, stop, hstart, hdeltas, hpayload, hstop⟩ := hes
  have hraws : Forall₂ (fun raw p => unquote raw = some p)
      (deltas.map fun e => e.delta.partialJSON) pieces := by
    rw [forall₂_map_left_iff]
    exact hdeltas.imp fun _ _ hp => (piece_input hb hp).2.2.2
  have hinput : String.join pieces = b.input := by
    rw [hpayload, payload, if_neg (not_text hb)]
  refine ⟨_, ⟨_, pieces, hraws, hinput⟩, ?_⟩
  rw [foldl_cons, foldl_append, parseEvent_start_tool hb hstart, foldl_cons,
    foldl_nil, parseEvent_stop hstop.1, foldl_input hb hdeltas (lookup_putPending _ _ _),
    sending_snoc _ _ _ st.usage _ st.pendingToolDeltas]
  simp [fragment]

end

def textOf (bs : List ContentBlock) : String :=
  String.join ((bs.filter (·.type = "text")).map ContentBlock.text)

def toolsOf (bs : List ContentBlock) : List ContentBlock := bs.filter (·.type = "tool_use")

lemma foldl_blocks (model : String) (created : Int) (st : ParseState) {index : Int}
    {bs : List ContentBlock} {es : List Event} (hknown : ∀ b ∈ bs, Known b)
    (hes : SplitsBlocks index bs es) : ∃ sent, Forall₂ Fragments (toolsOf bs) sent ∧
      sending (es.foldl (parseEvent model created) st) =
        ⟨(sending st).text ++ textOf bs, (sending st).calls ++ sent.flatten,
          (sending st).finish⟩ := by
  induction hes generalizing st with
  | nil index => exact ⟨[], .nil, by simp [textOf]⟩
  | @cons index b bs here rest hhere hrest ih =>
    have hknown' : ∀ b ∈ bs, Known b := fun b hb => hknown b (mem_cons_of_mem _ hb)
    obtain ⟨sent, hsent, heq⟩ := ih (here.foldl (parseEvent model created) st) hknown'
    rw [foldl_append]
    rcases hknown b mem_cons_self with hb | hb
    · refine ⟨sent, by simpa [toolsOf, hb] using hsent, ?_⟩
      rw [heq, foldl_textBlock hb hhere]
      simp [textOf, hb, String.append_assoc]
    obtain ⟨calls, hcalls, hblock⟩ := foldl_toolBlock model created st hb hhere
    refine ⟨calls :: sent, by simpa [toolsOf, hb] using ⟨hcalls, hsent⟩, ?_⟩
    rw [heq, hblock]
    simp [textOf, hb]

lemma mapAnthropicStop_ne_empty {s : String} (hs : s ≠ "") : mapAnthropicStop s ≠ "" := by
  unfold mapAnthropicStop
  repeat' split
  all_goals first | exact hs | decide

variable {model : String} {created : Int}

lemma parseEvent_end {st : ParseState} {e : Event}
    (he : e.type = "message_delta") : sending (parseEvent model created st e) = { sending st with
        finish := if e.delta.stopReason ≠ "" then mapAnthropicStop e.delta.stopReason
          else (sending st).finish } := by
  by_cases hstop : e.delta.stopReason = ""
  · simp only [parseEvent, messageDelta, he, hstop]
    rfl
  have hevent : ∃ usage, parseEvent model created st e =
      ⟨usage, st.pendingToolDeltas, st.out ++ [chunkEvent model created ⟨"", "", []⟩
        (mapAnthropicStop e.delta.stopReason) (some usage)]⟩ := by
    simp [parseEvent, messageDelta, he, hstop]
  obtain ⟨usage, hevent⟩ := hevent
  rw [hevent, sending_snoc _ _ _ st.usage _ st.pendingToolDeltas]
  simp [hstop, mapAnthropicStop_ne_empty hstop]

lemma foldl_ends {st : ParseState} {ends : List Event}
    (hends : ∀ e ∈ ends, e.type = "message_delta") :
    sending (ends.foldl (parseEvent model created) st) = { sending st with
        finish := (((ends.map fun e => e.delta.stopReason).filter (· ≠ "")).map
          mapAnthropicStop).getLastD (sending st).finish } := by
  induction ends generalizing st with
  | nil => rfl
  | cons e ends ih =>
    have hrest : ∀ e ∈ ends, e.type = "message_delta" :=
      fun e he => hends e (mem_cons_of_mem _ he)
    rw [foldl_cons, ih hrest, parseEvent_end (hends e mem_cons_self)]
    by_cases hstop : e.delta.stopReason = ""
    · simp [hstop]
    have hcons : ((e :: ends).map fun e => e.delta.stopReason).filter (· ≠ "") =
        e.delta.stopReason :: (ends.map fun e => e.delta.stopReason).filter (· ≠ "") := by
      simp [hstop]
    rw [hcons, map_cons, getLastD_cons, if_pos hstop]

lemma parseEvent_other {st : ParseState} {e : Event}
    (he : carries e = false) : parseEvent model created st e = st := by
  have hother : e.type ≠ "content_block_start" ∧ e.type ≠ "content_block_delta" ∧
      e.type ≠ "content_block_stop" ∧ e.type ≠ "message_delta" := by
    simpa [carries] using he
  obtain ⟨hstart, hdelta, -, hend⟩ := hother
  rw [parseEvent, if_neg hstart, if_neg hdelta, if_neg hend]

lemma foldl_carries (es : List Event) (st : ParseState) : es.foldl (parseEvent model created) st =
      (es.filter carries).foldl (parseEvent model created) st := by
  induction es generalizing st with
  | nil => rfl
  | cons e es ih =>
    cases he : carries e with
    | true => simp [he, ih]
    | false => simp [he, ih, parseEvent_other he]

lemma clientFold_split {decode : String → Option Event} {lines : List String}
    {ar : AnthropicResponse} (model : String) (created : Int) (scanErr : Option String)
    (hknown : ∀ b ∈ ar.content, Known b) (hsplit : Splits ar (eventsOf decode lines)) :
    ∃ sent, Forall₂ Fragments (toolsOf ar.content) sent ∧
      clientFold (chunksOf (parseSSE model created decode lines scanErr)) =
        ⟨textOf ar.content, sent.flatten.foldl foldCall [], mapAnthropicStop ar.stopReason⟩ := by
  obtain ⟨blocks, ends, hes, hblocks, hends, hreasons⟩ := hsplit.split
  obtain ⟨sent, hsent, hsending⟩ := foldl_blocks model created .start hknown hblocks
  have hfinish : (([ar.stopReason].filter (· ≠ "")).map mapAnthropicStop).getLastD "" =
      mapAnthropicStop ar.stopReason := by
    by_cases hempty : ar.stopReason = ""
    · simp [hempty]
      rfl
    · simp [hempty]
  refine ⟨sent, hsent, ?_⟩
  rw [clientFold_parseSSE, foldl_carries, hes, foldl_append, foldl_ends hends, hsending,
    hreasons, sending_start, hfinish]
  simp [Sending.folded]

lemma foldl_putBlock (bs : List ContentBlock) (acc : String × List ToolCall) :
    bs.foldl putBlock acc = (acc.1 ++ textOf bs,
        acc.2 ++ (toolsOf bs).map fun b => fragment b.id b.name (blockArguments b)) := by
  induction bs generalizing acc with
  | nil => simp [textOf, toolsOf]
  | cons b bs ih =>
    rw [foldl_cons, ih]
    by_cases htext : b.type = "text"
    · simp [putBlock, textOf, toolsOf, htext, String.append_assoc]
    · by_cases htool : b.type = "tool_use"
      · simp [putBlock, textOf, toolsOf, htool, fragment]
      · simp [putBlock, textOf, toolsOf, htext, htool]

section
variable {b : ContentBlock} {calls : List ToolCall} {raws pieces : List String}

lemma join_length (hraws : Forall₂ (fun raw p => unquote raw = some p) raws pieces) :
    (String.join pieces).length + 2 * raws.length ≤ (String.join raws).length := by
  induction hraws with
  | nil => simp
  | cons hraw _ ih =>
    have hlong := (unquote_length hraw).2
    simp only [String.join_cons, String.length_append, length_cons]
    omega

lemma Fragments.unindexed (hcalls : Fragments b calls) : ∀ tc ∈ calls, tc.index = none := by
  obtain ⟨raws, pieces, -, -⟩ := hcalls
  intro tc htc
  rcases mem_cons.mp htc with rfl | htc
  · rfl
  · obtain ⟨raw, -, rfl⟩ := mem_map.mp htc
    rfl

lemma unindexed_flatten {tools : List ContentBlock} {sent : List (List ToolCall)}
    (hsent : Forall₂ Fragments tools sent) : ∀ tc ∈ sent.flatten, tc.index = none := by
  induction hsent with
  | nil => simp
  | cons hcalls _ ih =>
    intro tc htc
    rw [flatten_cons, mem_append] at htc
    exact htc.elim (hcalls.unindexed tc) (ih tc)

lemma Fragments.arguments_ne (hcalls : Fragments b calls) :
    String.join (calls.map ToolCall.functionArguments) ≠ blockArguments b := by
  obtain ⟨raws, pieces, hraws, hinput⟩ := hcalls
  have hjoin : String.join ((fragment b.id b.name "" :: raws.map (fragment b.id "")).map
      ToolCall.functionArguments) = String.join raws := by
    simp [fragment, Function.comp_def]
  rw [hjoin]
  by_cases hempty : b.input = ""
  · rw [blockArguments, if_neg (not_not.mpr hempty)]
    cases hraws with
    | nil => decide
    | cons hraw _ =>
      obtain ⟨⟨rest, hrest⟩, -⟩ := unquote_length hraw
      intro hsame
      have hchars := congrArg String.toList hsame
      rw [String.join_cons, String.toList_append, hrest] at hchars
      simp at hchars
  · rw [blockArguments, if_pos hempty, ← hinput]
    intro hsame
    have hlong := join_length hraws
    rw [hsame] at hlong
    obtain rfl : raws = [] := length_eq_zero_iff.mp (by omega)
    obtain rfl : pieces = [] := by simpa using hraws
    exact hempty hinput.symm

end

structure Agrees (f : Folded) (resp : ChatCompletionResponse) : Prop where
  content : resp.choices.map (fun ch => ch.message.content) = [f.content]
  calls : resp.choices.flatMap (fun ch => ch.message.toolCalls.map fun tc =>
    (tc.id, tc.functionName, tc.functionArguments)) =
      f.calls.map fun e => (e.2.id, e.2.name, e.2.arguments)
  finish : resp.choices.map (fun ch => ch.finishReason) = [f.finishReason]

lemma calls_agree_iff {tools : List ContentBlock} {sent : List (List ToolCall)}
    (hsent : Forall₂ Fragments tools sent) :
    (tools.map fun b => (b.id, b.name, blockArguments b)) =
        (sent.flatten.foldl foldCall []).map (fun e => (e.2.id, e.2.name, e.2.arguments)) ↔
      tools = [] := by
  cases hsent with
  | nil => simp
  | @cons b calls tools sent hcalls hrest =>
    refine iff_of_false ?_ (cons_ne_nil _ _)
    intro hsame
    obtain ⟨tc, tcs, hflat⟩ : ∃ tc tcs, (calls :: sent).flatten = tc :: tcs := by
      obtain ⟨raws, pieces, -, -⟩ := hcalls
      exact ⟨_, _, rfl⟩
    obtain ⟨id, name, hfold⟩ := calls_unindexed tc tcs
      (hflat ▸ unindexed_flatten (.cons hcalls hrest))
    rw [hflat, hfold, ← hflat] at hsame
    have hlength := congrArg length hsame
    obtain rfl : tools = [] := by simpa using hlength
    obtain rfl : sent = [] := by simpa using hrest
    have harguments : blockArguments b =
        String.join (([calls].flatten).map ToolCall.functionArguments) := by
      simp only [map_cons, cons.injEq, Prod.mk.injEq] at hsame
      exact hsame.1.2.2
    rw [flatten_singleton] at harguments
    exact hcalls.arguments_ne harguments.symm

theorem anthropic_stream_agrees_iff (model : String) (created created' : Int)
    (decode : String → Option Event) (lines : List String) (scanErr : Option String)
    (ar : AnthropicResponse) (hknown : ∀ b ∈ ar.content, Known b)
    (hsplit : Splits ar (eventsOf decode lines)) :
    Agrees (clientFold (chunksOf (parseSSE model created decode lines scanErr)))
        (toOpenAI ar created') ↔ ∀ b ∈ ar.content, b.type ≠ "tool_use" := by
  obtain ⟨sent, hsent, hfold⟩ := clientFold_split model created scanErr hknown hsplit
  have hnone : toolsOf ar.content = [] ↔ ∀ b ∈ ar.content, b.type ≠ "tool_use" := by
    simp [toolsOf, filter_eq_nil_iff]
  have hunary : (toOpenAI ar created').choices.flatMap (fun ch => ch.message.toolCalls.map
      fun tc => (tc.id, tc.functionName, tc.functionArguments)) =
      (toolsOf ar.content).map fun b => (b.id, b.name, blockArguments b) := by
    simp [toOpenAI, foldl_putBlock, fragment]
  rw [← hnone, ← calls_agree_iff hsent]
  constructor
  · intro hagrees
    have hcalls := hagrees.calls
    rw [hunary, hfold] at hcalls
    exact hcalls
  · intro hcalls
    have htools := (calls_agree_iff hsent).mp hcalls
    refine ⟨?_, ?_, ?_⟩
    · simp [toOpenAI, foldl_putBlock, hfold]
    · rw [hunary, hfold]
      exact hcalls
    · simp [toOpenAI, foldl_putBlock, hfold, htools]

def starting (block : BlockStart) : Event :=
  { bare "content_block_start" with contentBlock := some block }

def saying (text : String) : Event :=
  { bare "content_block_delta" with delta := ⟨"text_delta", text, "", ""⟩ }

def inputting (raw : String) : Event :=
  { bare "content_block_delta" with delta := ⟨"input_json_delta", "", "", raw⟩ }

def ending (stopReason : String) : Event :=
  { bare "message_delta" with delta := ⟨"", "", stopReason, ""⟩ }

def inputLiteral : String := "\"\x7b\\\"q\\\":1\x7d\""

def helloPayloads : List (String × Event) :=
  [onWire (starting ⟨"text", "", ""⟩) (",\"content_block\":" ++ object "\"type\":\"text\""),
    onWire (saying "Hel") (",\"delta\":" ++ object "\"type\":\"text_delta\",\"text\":\"Hel\""),
    onWire (bare "ping") "",
    onWire (saying "lo") (",\"delta\":" ++ object "\"type\":\"text_delta\",\"text\":\"lo\""),
    onWire (bare "content_block_stop") "",
    onWire (ending "end_turn") (",\"delta\":" ++ object "\"stop_reason\":\"end_turn\""),
    onWire (bare "message_stop") ""]

def askingPayloads : List (String × Event) :=
  [onWire (starting ⟨"tool_use", "toolu_1", "lookup"⟩) (",\"content_block\":" ++
      object "\"type\":\"tool_use\",\"id\":\"toolu_1\",\"name\":\"lookup\""),
    onWire (inputting inputLiteral) (",\"delta\":" ++
      object ("\"type\":\"input_json_delta\",\"partial_json\":" ++ inputLiteral)),
    onWire (bare "content_block_stop") "",
    onWire (ending "tool_use") (",\"delta\":" ++ object "\"stop_reason\":\"tool_use\""),
    onWire (bare "message_stop") ""]

def sample : String → Option Event := decodeAmong (helloPayloads ++ askingPayloads)

def hello : AnthropicResponse :=
  ⟨"msg_1", "claude", [⟨"text", "Hello", "", "", ""⟩], "end_turn", 3, 4⟩

def helloLines : List String := wire helloPayloads

lemma eventsOf_helloLines : eventsOf sample helloLines = helloPayloads.map (·.2) :=
  filterMap_wire (by decide +kernel)

lemma splits_hello : Splits hello (eventsOf sample helloLines) where
  stopped := ⟨bare "message_stop", by rw [eventsOf_helloLines]; decide, rfl⟩
  split := by
    have hblock : SplitsBlock 0 ⟨"text", "Hello", "", "", ""⟩
        (starting ⟨"text", "", ""⟩ :: ([saying "Hel", saying "lo"] ++
          [bare "content_block_stop"])) :=
      .mk _ _ ["Hel", "lo"] _ ⟨rfl, rfl, _, rfl, rfl, by decide⟩
        (.cons (by decide) (.cons (by decide) .nil)) (by decide) (by decide)
    rw [eventsOf_helloLines]
    exact ⟨_, [ending "end_turn"], by decide, .cons hblock (.nil _), by decide, by decide⟩

theorem anthropic_stream_agrees_hello :
    (∀ b ∈ hello.content, Known b) ∧ Splits hello (eventsOf sample helloLines) ∧
      Agrees (clientFold (chunksOf (parseSSE "claude" 0 sample helloLines none)))
        (toOpenAI hello 0) := by
  have hknown : ∀ b ∈ hello.content, Known b := by simp [hello, Known]
  refine ⟨hknown, splits_hello,
    (anthropic_stream_agrees_iff _ _ _ _ _ _ _ hknown splits_hello).mpr ?_⟩
  simp [hello]

def asking : AnthropicResponse :=
  ⟨"msg_1", "claude", [⟨"tool_use", "", "toolu_1", "lookup", "\x7b\"q\":1\x7d"⟩], "tool_use", 3, 4⟩

def askingLines : List String := wire askingPayloads

lemma eventsOf_askingLines : eventsOf sample askingLines = askingPayloads.map (·.2) :=
  filterMap_wire (by decide +kernel)

lemma splits_asking : Splits asking (eventsOf sample askingLines) where
  stopped := ⟨bare "message_stop", by rw [eventsOf_askingLines]; decide, rfl⟩
  split := by
    have hblock : SplitsBlock 0 ⟨"tool_use", "", "toolu_1", "lookup", "\x7b\"q\":1\x7d"⟩
        (starting ⟨"tool_use", "toolu_1", "lookup"⟩ :: ([inputting inputLiteral] ++
          [bare "content_block_stop"])) :=
      .mk _ _ ["\x7b\"q\":1\x7d"] _ ⟨rfl, rfl, _, rfl, rfl, by decide⟩
        (.cons (by decide) .nil) (by decide) (by decide)
    rw [eventsOf_askingLines]
    exact ⟨_, [ending "tool_use"], by decide, .cons hblock (.nil _), by decide, by decide⟩

theorem anthropic_stream_literal : Splits asking (eventsOf sample askingLines) ∧
      (clientFold (chunksOf (parseSSE "claude" 0 sample askingLines none))).calls =
        [(0, ⟨"toolu_1", "lookup", inputLiteral⟩)] ∧
      (toOpenAI asking 0).choices.flatMap (fun ch => ch.message.toolCalls.map fun tc =>
        (tc.id, tc.functionName, tc.functionArguments)) =
        [("toolu_1", "lookup", "\x7b\"q\":1\x7d")] ∧
      ¬ Agrees (clientFold (chunksOf (parseSSE "claude" 0 sample askingLines none)))
        (toOpenAI asking 0) := by
  have hcalls : (clientFold (chunksOf (parseSSE "claude" 0 sample askingLines none))).calls =
      [(0, ⟨"toolu_1", "lookup", inputLiteral⟩)] := by
    rw [clientFold_parseSSE, eventsOf_askingLines]
    decide
  have hunary : (toOpenAI asking 0).choices.flatMap (fun ch => ch.message.toolCalls.map fun tc =>
      (tc.id, tc.functionName, tc.functionArguments)) =
      [("toolu_1", "lookup", "\x7b\"q\":1\x7d")] := by decide
  refine ⟨splits_asking, hcalls, hunary, ?_⟩
  intro hagrees
  have hsame := hagrees.calls
  rw [hcalls] at hsame
  revert hsame
  decide

end FfxNexus.Adapters.Anthropic
