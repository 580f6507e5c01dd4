/-
**Two translators of the Responses format** (`responsesToChat` of `internal/gateway/responses.go`
and `TransformCursorHybrid` of `internal/gateway/cursor_compat.go`).
-/
import FfxNexus.HybridDetection

namespace FfxNexus.ResponsesTranslators
open Schema JsonRecords CursorCompat HybridDetection Option List
open Guardrails (trimSpace)
open MessagesApi (opensWith isBlank)

structure ResponsesRequest where
  model : String
  input : String
  instructions : String
  temperature : Option ℚ
  topP : Option ℚ
  maxOutputTokens : Option Int
  stream : Bool
  tools : List Tool
  toolChoice : String
  parallelToolCalls : Option Bool
  reasoning : String
  streamOptions : String
  user : String
  nexusEval : Option NexusEvalContext

def readResponses (c : Codec) (ms : List (String × String)) : Option ResponsesRequest := do
  let model ← field "model" string "" ms
  let instructions ← field "instructions" string "" ms
  let temperature ← field "temperature" (pointer 0 fun raw _ => c.float raw) none ms
  let topP ← field "top_p" (pointer 0 fun raw _ => c.float raw) none ms
  let maxOutputTokens ← field "max_output_tokens" (pointer 0 fun raw _ => c.int raw) none ms
  let stream ← field "stream" boolean false ms
  let tools ← field "tools" (slice c.toReader zeroTool (unmarshalTool c)) .nil ms
  let parallelToolCalls ← field "parallel_tool_calls" (pointer false boolean) none ms
  let user ← field "user" string "" ms
  let nexusEval ← field "nexus_eval" (pointer (.nil, "") (readNexusEval c.toReader)) none ms
  return {
    model, instructions, temperature, topP, maxOutputTokens, stream, parallelToolCalls, user
    input := rawField "input" "" ms
    tools := tools.value
    toolChoice := rawField "tool_choice" "" ms
    reasoning := rawField "reasoning" "" ms
    streamOptions := rawField "stream_options" "" ms
    nexusEval := nexusEval.map fun ctx => ⟨ctx.1.value, ctx.2⟩ }

def chatMessage (r : Reader) (it : InputItem) : Option Message :=
  if it.role ∈ ["user", "system", "assistant", "developer"] then
    some (textMessage it.role (extractInputText r it.content))
  else if it.type = "function_call" then
    some (callMessage it.callID (String.ofList (trimSpace it.name.toList)) it.arguments)
  else if it.type = "function_call_output" then
    some ⟨"tool", it.outputString, it.name, [], it.callID⟩
  else none

def inputMessages (r : Reader) (raw : String) : Option (List Message) :=
  if isBlank raw then none
  else if opensWith '"' raw then
    (StringLiteral.unquote raw).map fun s => [textMessage "user" s]
  else if opensWith '[' raw = false then none else do
    let raws ← r.array raw
    let items ← raws.mapM (readItem r)
    return items.filterMap (chatMessage r)

def instructionMessages (instructions : String) : List Message :=
  if instructions = "" then [] else [textMessage "system" instructions]

def responsesToChat (r : Reader) (req : ResponsesRequest) : Option Request := do
  let messages ← inputMessages r req.input
  return {
    messages := instructionMessages req.instructions ++ messages
    model := req.model
    temperature := req.temperature
    topP := req.topP
    maxTokens := req.maxOutputTokens
    stream := req.stream
    tools := req.tools
    responseFormat := none
    nexusEval := req.nexusEval
    stop := []
    user := req.user
    toolChoice := ""
    streamOptions := ""
    reasoningEffort := ""
    parallelToolCalls := none
    extra := [] }

def KnownItem (it : InputItem) : Prop :=
  it.type ∈ ["", "message", "function_call", "function_call_output"]

def KnownInput (r : Reader) (raw : String) : Prop :=
  (opensWith '"' raw = true ∧ ∃ s, StringLiteral.unquote raw = some s) ∨
    (opensWith '[' raw = true ∧ ∃ raws items, r.array raw = some raws ∧
      raws.mapM (readItem r) = some items ∧ ∀ it ∈ items, KnownItem it)

structure ResponsesBody (ms : List (String × String)) : Prop where
  messages : values "messages" ms = []
  maxTokens : values "max_tokens" ms = []
  stop : values "stop" ms = []

structure Agree (a b : Request) : Prop where
  messages : a.messages = b.messages
  tools : a.tools = b.tools
  toolChoice : a.toolChoice = b.toolChoice
  parallelToolCalls : a.parallelToolCalls = b.parallelToolCalls
  reasoningEffort : a.reasoningEffort = b.reasoningEffort
  streamOptions : a.streamOptions = b.streamOptions
  user : a.user = b.user
  maxTokens : a.maxTokens = b.maxTokens
  temperature : a.temperature = b.temperature
  topP : a.topP = b.topP

def NoEffort (r : Reader) (reasoning : String) : Prop :=
  reasoning = "" ∨ reasoning = "null" ∨
    ∀ ms effort, members r reasoning = some ms → field "effort" string "" ms = some effort →
      effort = ""

/-- **The condition**: no field that one translator drops, and tools that are read alike. -/
structure ReadAlike (c : Codec) (ms : List (String × String)) : Prop where
  instructions : field "instructions" string "" ms = some ""
  tools : ToolsKept c ms
  toolChoice : isBlank (rawField "tool_choice" "" ms) = true
  parallelToolCalls : Absent "parallel_tool_calls" ms
  reasoning : NoEffort c.toReader (rawField "reasoning" "" ms)
  streamOptions : rawField "stream_options" "" ms = ""

section
variable {r : Reader}

lemma message_eq_chatMessage {it : InputItem} (h : KnownItem it) :
    it.message r = chatMessage r it := by
  unfold InputItem.message chatMessage
  split
  · rfl
  split
  · rfl
  split
  · rfl
  simp only [KnownItem, mem_cons, not_mem_nil, or_false] at h
  have hother : it.type ≠ "tool_use" ∧ it.type ≠ "tool_result" := by
    rcases h with h | h | h | h <;> rw [h] <;> decide
  rw [if_neg hother.1, if_neg hother.2]

lemma KnownInput.given {raw : String} (h : KnownInput r raw) :
    raw ≠ "" ∧ raw ≠ "null" ∧ isBlank raw = false := by
  have hopens : opensWith '"' raw = true ∨ opensWith '[' raw = true := by
    rcases h with ⟨h, -⟩ | ⟨h, -⟩
    · exact .inl h
    · exact .inr h
  have hblank : ∀ raw', isBlank raw' = true → opensWith '"' raw' = false ∧
      opensWith '[' raw' = false := by
    intro raw' hraw
    simp only [isBlank, decide_eq_true_eq] at hraw
    unfold opensWith
    rcases hraw with hraw | hraw <;> rw [hraw] <;> decide
  have hnot : isBlank raw = false := by
    rw [Bool.eq_false_iff]
    intro hraw
    obtain ⟨hquote, harray⟩ := hblank raw hraw
    rcases hopens with h | h
    · rw [hquote] at h
      cases h
    · rw [harray] at h
      cases h
  refine ⟨?_, ?_, hnot⟩
  · rintro rfl
    exact absurd hnot (by decide)
  · rintro rfl
    exact absurd hnot (by decide)

lemma inputMessages_eq {raw : String} (h : KnownInput r raw) :
    ∃ messages, inputMessages r raw = some messages ∧
      parseInputToMessages r raw = some messages := by
  obtain ⟨-, -, hblank⟩ := h.given
  unfold inputMessages parseInputToMessages
  simp only [hblank]
  rcases h with ⟨hquote, s, hs⟩ | ⟨harray, raws, items, hraws, hitems, hknown⟩
  · rw [if_pos hquote, if_pos hquote, hs]
    exact ⟨_, rfl, rfl⟩
  obtain ⟨-, hquote⟩ := array_not_blank harray
  have hsame : items.filterMap (InputItem.message r) = items.filterMap (chatMessage r) :=
    filterMap_congr fun it hit => message_eq_chatMessage (hknown it hit)
  rw [hquote, harray, hraws]
  simp [hitems, hsame]

end

section
variable {c : Codec} {ms : List (String × String)}
variable {req : ResponsesRequest}

section
variable (hreq : readResponses c ms = some req)
include hreq

lemma readResponses_eq_some :
    req.input = rawField "input" "" ms ∧ field "instructions" string "" ms = some req.instructions ∧
      (∃ t, field "tools" (slice c.toReader zeroTool (unmarshalTool c)) .nil ms = some t ∧
        req.tools = t.value) := by
  simp only [readResponses, bind_eq_bind, bind_eq_some_iff] at hreq
  obtain ⟨_, -, instructions, hinstructions, _, -, _, -, _, -, _, -, tools, htools, _, -, _, -, _,
    -, hmk⟩ := hreq
  obtain rfl := some.inj hmk
  exact ⟨rfl, hinstructions, tools, htools, rfl⟩

lemma readShared_responses (hbody : ResponsesBody ms) :
    ∃ shared, readShared c.toReader ms = some shared ∧ shared.messages = [] ∧
      shared.maxTokens = none ∧ shared.user = req.user ∧ shared.temperature = req.temperature ∧
      shared.topP = req.topP ∧ shared.parallelToolCalls = req.parallelToolCalls ∧
      shared.toolChoice = rawField "tool_choice" "" ms ∧
      shared.streamOptions = rawField "stream_options" "" ms := by
  simp only [readResponses, bind_eq_bind, bind_eq_some_iff] at hreq
  obtain ⟨model, hmodel, _, -, temperature, htemperature, topP, htopP, _, -, stream, hstream, _, -,
    parallel, hparallel, user, huser, _, -, hmk⟩ := hreq
  obtain rfl := some.inj hmk
  unfold readShared
  rw [hmodel, field_nil _ _ hbody.messages, htemperature, htopP, field_nil _ _ hbody.maxTokens,
    hstream, field_nil _ _ hbody.stop, huser, hparallel]
  exact ⟨_, rfl, rfl, rfl, rfl, rfl, rfl, rfl, rfl, rfl⟩

lemma readHybrid_responses :
    ∃ h, readHybrid c.toReader ms = some h ∧ h.maxOutputTokens = req.maxOutputTokens ∧
      h.input = rawField "input" "" ms ∧ h.reasoning = rawField "reasoning" "" ms ∧
      ∃ s, field "tools" (slice c.toReader "" fun raw _ => some raw) .nil ms = some s ∧
        h.tools = s.value := by
  simp only [readResponses, bind_eq_bind, bind_eq_some_iff] at hreq
  obtain ⟨_, -, _, -, _, -, _, -, limit, hlimit, _, -, tools, htools, _, -, _, -, _, -, hmk⟩ := hreq
  obtain rfl := some.inj hmk
  have hraws : field "tools" (slice c.toReader "" fun raw _ => some raw) .nil ms ≠ none := by
    rw [ne_eq, field_eq_none_iff (slice_eq_none_iff c.toReader ""
      fun raw (_ : String) => some_ne_none raw)]
    rintro ⟨raw, hraw, hnull, harray⟩
    obtain ⟨_, _, hread⟩ := exists_of_field htools hraw
    rcases slice_value hread with ⟨hnull', -⟩ | ⟨-, raws, _, harray', -⟩
    · rw [hnull] at hnull'
      cases hnull'
    · rw [harray] at harray'
      cases harray'
  obtain ⟨s, hs⟩ := ne_none_iff_exists'.mp hraws
  unfold readHybrid
  rw [hlimit, hs]
  exact ⟨_, rfl, rfl, rfl, rfl, s, rfl, rfl⟩

end

lemma responsesToChat_eq_some {r : Reader} {messages : List Message}
    (hinput : inputMessages r req.input = some messages) : ∃ a, responsesToChat r req = some a ∧
      a.messages = instructionMessages req.instructions ++ messages ∧ a.tools = req.tools ∧
      a.toolChoice = "" ∧ a.parallelToolCalls = none ∧ a.reasoningEffort = "" ∧
      a.streamOptions = "" ∧ a.user = req.user ∧ a.maxTokens = req.maxOutputTokens ∧
      a.temperature = req.temperature ∧ a.topP = req.topP := by
  unfold responsesToChat
  rw [hinput]
  exact ⟨_, rfl, rfl, rfl, rfl, rfl, rfl, rfl, rfl, rfl, rfl, rfl⟩

lemma transformCursorHybrid_eq_some {body : String} {shared : SharedFields} {h : HybridFields}
    {messages : List Message} (hmembers : members c.toReader body = some ms)
    (hshared : readShared c.toReader ms = some shared) (hh : readHybrid c.toReader ms = some h)
    (hmessages : hybridMessages c.toReader shared.messages h.input = some messages) :
    ∃ b, transformCursorHybrid c body = some b ∧ b.messages = messages ∧
      b.tools = h.tools.filterMap (normaliseTool c) ∧
      b.toolChoice = normaliseHybridToolChoice c shared.toolChoice ∧
      b.parallelToolCalls = shared.parallelToolCalls ∧
      b.reasoningEffort = reasoningEffort c.toReader h.reasoning ∧
      b.streamOptions = shared.streamOptions ∧ b.user = shared.user ∧
      b.maxTokens = shared.maxTokens.or h.maxOutputTokens ∧
      b.temperature = shared.temperature ∧ b.topP = shared.topP := by
  unfold transformCursorHybrid
  simp only [hmembers, hshared, hh, hmessages, bind_eq_bind, bind_some]
  exact ⟨_, rfl, rfl, rfl, rfl, rfl, rfl, rfl, rfl, rfl, rfl, rfl⟩

lemma instructionMessages_append_iff (instructions : String) (messages : List Message) :
    instructionMessages instructions ++ messages = messages ↔ instructions = "" := by
  rw [append_left_eq_self, instructionMessages]
  split
  · rename_i hempty
    exact iff_of_true rfl hempty
  · rename_i hgiven
    exact iff_of_false (cons_ne_nil _ _) hgiven

lemma normaliseHybridToolChoice_eq_empty_iff
    (hmarshal : ∀ type name, c.marshalChoice type name ≠ "") (raw : String) :
    normaliseHybridToolChoice c raw = "" ↔ isBlank raw = true := by
  unfold normaliseHybridToolChoice
  by_cases hempty : raw = ""
  · subst hempty
    exact iff_of_true rfl (by decide)
  rw [if_neg hempty]
  by_cases hblank : isBlank raw = true
  · rw [if_pos hblank]
    exact iff_of_true rfl hblank
  rw [if_neg hblank]
  refine iff_of_false ?_ hblank
  split
  · exact hempty
  split
  · exact hempty
  split
  · exact hempty
  · split
    · exact hmarshal _ _
    · exact hempty

lemma reasoningEffort_eq_empty_iff (r : Reader) (reasoning : String) :
    reasoningEffort r reasoning = "" ↔ NoEffort r reasoning := by
  unfold reasoningEffort NoEffort
  by_cases hempty : reasoning = ""
  · simp [hempty]
  by_cases hnull : reasoning = "null"
  · simp [hnull]
  rw [if_pos ⟨hempty, hnull⟩]
  simp only [hempty, hnull, false_or]
  cases hms : members r reasoning with
  | none => simp
  | some ms =>
    rw [bind_some]
    cases heffort : field "effort" string "" ms with
    | none =>
      refine iff_of_true rfl fun ms' effort hms' hread => ?_
      obtain rfl := some.inj hms'
      rw [heffort] at hread
      cases hread
    | some effort =>
      constructor
      · intro hnone ms' effort' hms' hread
        obtain rfl := some.inj hms'
        rw [heffort] at hread
        exact (some.inj hread).symm.trans hnone
      · intro hall
        exact hall ms effort rfl heffort

end

theorem translators_agree_iff (c : Codec) (hmarshal : ∀ type name, c.marshalChoice type name ≠ "")
    (body : String) (ms : List (String × String)) (req : ResponsesRequest)
    (hmembers : members c.toReader body = some ms) (hreq : readResponses c ms = some req)
    (hbody : ResponsesBody ms) (hinput : KnownInput c.toReader (rawField "input" "" ms)) :
    ∃ a b, responsesToChat c.toReader req = some a ∧ transformCursorHybrid c body = some b ∧
      (Agree a b ↔ ReadAlike c ms) := by
  obtain ⟨hraw, hinstructions, t, ht, htools⟩ := readResponses_eq_some hreq
  obtain ⟨shared, hshared, hnone, hlimit, huser, htemperature, htopP, hparallel, hchoice,
    hoptions⟩ := readShared_responses hreq hbody
  obtain ⟨h, hh, hmax, hinput', hreasoning, s, hs, hraws⟩ := readHybrid_responses hreq
  obtain ⟨messages, hmessages, hparsed⟩ := inputMessages_eq hinput
  obtain ⟨hempty, hnull, -⟩ := hinput.given
  have hhybrid : hybridMessages c.toReader shared.messages h.input = some messages := by
    rw [hybridMessages, hnone, hinput', if_neg (by simp), if_pos ⟨hempty, hnull⟩, hparsed]
  have habsent : req.parallelToolCalls = none ↔ Absent "parallel_tool_calls" ms := by
    simp only [readResponses, bind_eq_bind, bind_eq_some_iff] at hreq
    obtain ⟨_, -, _, -, _, -, _, -, _, -, _, -, _, -, parallel, hread, _, -, _, -, hmk⟩ := hreq
    obtain rfl := some.inj hmk
    exact pointer_field_eq_none_iff hread
  obtain ⟨a, ha, ham, hat, hach, hapa, haeff, haopt, hau, hamax, hatemp, hatop⟩ :=
    responsesToChat_eq_some (hraw ▸ hmessages)
  obtain ⟨b, hb, hbm, hbt, hbch, hbpa, hbeff, hbopt, hbu, hbmax, hbtemp, hbtop⟩ :=
    transformCursorHybrid_eq_some hmembers hshared hh hhybrid
  refine ⟨a, b, ha, hb, ?_⟩
  have hmessagesIff : a.messages = b.messages ↔ field "instructions" string "" ms = some "" := by
    rw [ham, hbm, instructionMessages_append_iff, hinstructions, some.injEq]
  have htoolsIff : a.tools = b.tools ↔ ToolsKept c ms := by
    rw [hat, hbt, htools, hraws, eq_comm, tools_eq_iff hs ht]
  have hchoiceIff : a.toolChoice = b.toolChoice ↔
      isBlank (rawField "tool_choice" "" ms) = true := by
    rw [hach, hbch, hchoice, eq_comm, normaliseHybridToolChoice_eq_empty_iff hmarshal]
  have hparallelIff : a.parallelToolCalls = b.parallelToolCalls ↔
      Absent "parallel_tool_calls" ms := by
    rw [hapa, hbpa, hparallel, eq_comm, habsent]
  have heffortIff : a.reasoningEffort = b.reasoningEffort ↔
      NoEffort c.toReader (rawField "reasoning" "" ms) := by
    rw [haeff, hbeff, hreasoning, eq_comm, reasoningEffort_eq_empty_iff]
  have hoptionsIff : a.streamOptions = b.streamOptions ↔
      rawField "stream_options" "" ms = "" := by
    rw [haopt, hbopt, hoptions, eq_comm]
  constructor
  · rintro ⟨hm, hto, hch, hpa, heff, hopt, -, -, -, -⟩
    exact ⟨hmessagesIff.mp hm, htoolsIff.mp hto, hchoiceIff.mp hch, hparallelIff.mp hpa,
      heffortIff.mp heff, hoptionsIff.mp hopt⟩
  · rintro ⟨hm, hto, hch, hpa, heff, hopt⟩
    refine ⟨hmessagesIff.mpr hm, htoolsIff.mpr hto, hchoiceIff.mpr hch, hparallelIff.mpr hpa,
      heffortIff.mpr heff, hoptionsIff.mpr hopt, ?_, ?_, ?_, ?_⟩
    · rw [hau, hbu, huser]
    · rw [hamax, hbmax, hlimit, hmax, none_or]
    · rw [hatemp, hbtemp, htemperature]
    · rw [hatop, hbtop, htopP]

def flatTool : String :=
  "\x7b\"type\":\"function\",\"name\":\"f\",\"parameters\":\x7b\x7d\x7d"

def toolBody : String :=
  "\x7b\"model\":\"m\",\"input\":[" ++ userTurn ++ "],\"tools\":[" ++ flatTool ++ "]\x7d"

def toolMembers : List (String × String) :=
  [("model", "\"m\""), ("input", "[" ++ userTurn ++ "]"), ("tools", "[" ++ flatTool ++ "]")]

def choosyBody : String :=
  "\x7b\"model\":\"m\",\"instructions\":\"be brief\",\"input\":\"hi\"," ++
    "\"tool_choice\":\"required\"\x7d"

def choosyMembers : List (String × String) :=
  [("model", "\"m\""), ("instructions", "\"be brief\""), ("input", "\"hi\""),
    ("tool_choice", "\"required\"")]

def bodyCodec : Codec where
  object raw :=
    if raw = toolBody then some toolMembers
    else if raw = choosyBody then some choosyMembers
    else if raw = userTurn then some [("role", "\"user\""), ("content", "\"hi\"")]
    else if raw = flatTool then
      some [("type", "\"function\""), ("name", "\"f\""), ("parameters", "\x7b\x7d")]
    else none
  array raw :=
    if raw = "[" ++ userTurn ++ "]" then some [userTurn]
    else if raw = "[" ++ flatTool ++ "]" then some [flatTool]
    else none
  float _ := none
  int _ := none
  marshalFunction name _ _ := name
  marshalGrammar name _ _ := some name
  marshalChoice _ _ := nestedChoice

theorem translators_agree_tools : members bodyCodec.toReader toolBody = some toolMembers ∧
      ∃ req a b, readResponses bodyCodec toolMembers = some req ∧
        responsesToChat bodyCodec.toReader req = some a ∧
        transformCursorHybrid bodyCodec toolBody = some b ∧ Agree a b := by
  have hmembers : members bodyCodec.toReader toolBody = some toolMembers := by decide +kernel
  have hbody : ResponsesBody toolMembers := ⟨by decide, by decide, by decide⟩
  have hitems : ([userTurn].mapM (readItem bodyCodec.toReader)).map (·.map (·.type)) =
      some [""] := by decide +kernel
  obtain ⟨items, hmapM, htypes⟩ := map_eq_some_iff.mp hitems
  have hinput : KnownInput bodyCodec.toReader (rawField "input" "" toolMembers) := by
    refine .inr ⟨by decide, [userTurn], items, by decide +kernel, hmapM, fun it hit => ?_⟩
    have htype : it.type ∈ [""] := htypes ▸ mem_map_of_mem hit
    simp [KnownItem, mem_singleton.mp htype]
  have hread : (readResponses bodyCodec toolMembers).isSome = true := by decide +kernel
  obtain ⟨req, hreq⟩ := isSome_iff_exists.mp hread
  have hraws : (field "tools" (slice bodyCodec.toReader "" fun raw _ => some raw) .nil
      toolMembers).map Slice.value = some [flatTool] := by decide +kernel
  have htools : (field "tools" (slice bodyCodec.toReader zeroTool (unmarshalTool bodyCodec)) .nil
      toolMembers).map Slice.value = some [⟨"function", "f", ""⟩] := by decide +kernel
  have hkept : ToolsKept bodyCodec toolMembers := by
    obtain ⟨s, hs, hvalue⟩ := map_eq_some_iff.mp hraws
    obtain ⟨t, ht, hvalue'⟩ := map_eq_some_iff.mp htools
    refine (tools_eq_iff hs ht).mp ?_
    rw [hvalue, hvalue']
    decide +kernel
  have habsent : Absent "parallel_tool_calls" toolMembers := by
    intro raw hraw
    cases hraw
  have hmarshal : ∀ type name, bodyCodec.marshalChoice type name ≠ "" :=
    fun _ _ => by change nestedChoice ≠ ""; decide
  obtain ⟨a, b, ha, hb, hagree⟩ := translators_agree_iff bodyCodec hmarshal toolBody toolMembers
    req hmembers hreq hbody hinput
  exact ⟨hmembers, req, a, b, hreq, ha, hb, hagree.mpr
    ⟨by decide, hkept, by decide, habsent, .inl (by decide), by decide⟩⟩

theorem translators_differ :
    members bodyCodec.toReader choosyBody = some choosyMembers ∧ ResponsesBody choosyMembers ∧
      KnownInput bodyCodec.toReader (rawField "input" "" choosyMembers) ∧
      ((readResponses bodyCodec choosyMembers).bind (responsesToChat bodyCodec.toReader)).map
          (fun a => (a.messages, a.toolChoice)) =
        some ([textMessage "system" "be brief", textMessage "user" "hi"], "") ∧
      (transformCursorHybrid bodyCodec choosyBody).map (fun b => (b.messages, b.toolChoice)) =
        some ([textMessage "user" "hi"], "\"required\"") :=
  ⟨by decide, ⟨by decide, by decide, by decide⟩,
    .inl ⟨by decide, "hi", by decide⟩, by decide, by decide⟩

end FfxNexus.ResponsesTranslators
