/-
**What the streaming adapters share**: how a line of server-sent events is read, and how an OpenAI
client puts the chunks of a stream together again.
-/
import FfxNexus.Translated

namespace FfxNexus.Adapters
open Schema Translated List String Guardrails

def dataLine (line : String) : Option String :=
  let line := trimSpace line.toList
  if "data:".toList.isPrefixOf line then
    some (ofList (trimSpace (line.drop "data:".length)))
  else none

/-- The text of a JSON object, from the text of its fields. -/
def object (fields : String) : String := "\x7b" ++ fields ++ "\x7d"

lemma dataLine_object (fields : String) :
    dataLine ("data: " ++ object fields) = some (object fields) := by
  have hlen : "data:".length = 5 := rfl
  simp [object, dataLine, trimSpace, isSpace, hlen, ← toList_inj]

/-- The stream that sends these objects, each paired with what it decodes to. -/
def wire {α : Type} (ps : List (String × α)) : List String :=
  ps.flatMap fun p => ["data: " ++ object p.1, ""]

def decodeAmong {α : Type} (ps : List (String × α)) (data : String) : Option α :=
  ps.findSome? fun p => if object p.1 = data then some p.2 else none

lemma filterMap_wire {α : Type} {decode : String → Option α} {ps : List (String × α)}
    (hdecode : ∀ p ∈ ps, decode (object p.1) = some p.2) :
    (wire ps).filterMap (fun line => (dataLine line).bind decode) = ps.map (·.2) := by
  have hblank : dataLine "" = none := rfl
  induction ps with
  | nil => rfl
  | cons p ps ih =>
    have hfirst := hdecode p mem_cons_self
    have hrest := ih fun q hq => hdecode q (mem_cons_of_mem p hq)
    rw [wire] at hrest
    simp [wire, dataLine_object, hblank, hfirst, hrest]

structure Call where
  id : String
  name : String
  arguments : String
deriving DecidableEq

structure Folded where
  content : String
  calls : List (Int × Call)
  finishReason : String

def foldCall (calls : List (Int × Call)) (tc : ToolCall) : List (Int × Call) :=
  match calls.lookup (tc.index.getD 0) with
  | none => calls ++ [(tc.index.getD 0, ⟨tc.id, tc.functionName, tc.functionArguments⟩)]
  | some call => setTool calls (tc.index.getD 0)
      ⟨if call.id = "" then tc.id else call.id,
        if call.name = "" then tc.functionName else call.name,
        call.arguments ++ tc.functionArguments⟩

def Folded.choice (f : Folded) (ch : ChunkChoice) : Folded where
  content := f.content ++ ch.delta.content
  calls := ch.delta.toolCalls.foldl foldCall f.calls
  finishReason := if ch.finishReason ≠ "" then ch.finishReason else f.finishReason

variable (chunks : List ChatCompletionChunk) (choices : List ChunkChoice)

def firstChoices : List ChunkChoice :=
  chunks.flatMap fun c => c.choices.filter (·.index = 0)

def clientFold : Folded :=
  (firstChoices chunks).foldl Folded.choice ⟨"", [], ""⟩

def chunksOf (events : List StreamEvent) : List ChatCompletionChunk :=
  events.filterMap StreamEvent.chunk

def callFragments : List ToolCall :=
  choices.flatMap fun ch => ch.delta.toolCalls

def lastFinish : String :=
  ((choices.map ChunkChoice.finishReason).filter (· ≠ "")).getLastD ""

lemma foldl_choice (f : Folded) : choices.foldl Folded.choice f =
      ⟨f.content ++ String.join (choices.map fun ch => ch.delta.content),
        (callFragments choices).foldl foldCall f.calls,
        ((choices.map ChunkChoice.finishReason).filter (· ≠ "")).getLastD f.finishReason⟩ := by
  induction choices generalizing f with
  | nil => simp [callFragments]
  | cons ch choices ih =>
    rw [foldl_cons, ih]
    have hcalls : (callFragments (ch :: choices)).foldl foldCall f.calls =
        (callFragments choices).foldl foldCall (ch.delta.toolCalls.foldl foldCall f.calls) := by
      rw [callFragments, flatMap_cons, foldl_append]
      rfl
    have hcontent : f.content ++ String.join ((ch :: choices).map fun ch => ch.delta.content) =
        f.content ++ ch.delta.content ++
          String.join (choices.map fun ch => ch.delta.content) := by
      rw [map_cons, String.join_cons, String.append_assoc]
    rw [hcalls, hcontent]
    by_cases hfinish : ch.finishReason = ""
    · simp [Folded.choice, hfinish]
    have hlast : ((ch :: choices).map ChunkChoice.finishReason).filter (· ≠ "") =
        ch.finishReason :: (choices.map ChunkChoice.finishReason).filter (· ≠ "") := by
      simp [hfinish]
    rw [hlast, getLastD_cons]
    simp only [Folded.choice, ne_eq, hfinish, not_false_eq_true, if_true]

lemma clientFold_eq : clientFold chunks =
      ⟨join ((firstChoices chunks).map fun ch => ch.delta.content),
        (callFragments (firstChoices chunks)).foldl foldCall [],
        lastFinish (firstChoices chunks)⟩ := by
  rw [clientFold, foldl_choice, empty_append]
  rfl

def chunkEvent (model : String) (created : Int) (delta : Delta) (finish : String)
    (usage : Option Usage) : StreamEvent :=
  ⟨some ⟨"chatcmpl-" ++ toString created, "chat.completion.chunk", created, model,
    [⟨0, delta, finish⟩], usage⟩, none, none, false⟩

def sentText (out : List StreamEvent) : String :=
  join ((firstChoices (chunksOf out)).map fun ch => ch.delta.content)

def sentCalls (out : List StreamEvent) : List ToolCall :=
  callFragments (firstChoices (chunksOf out))

def sentFinish (out : List StreamEvent) : String := lastFinish (firstChoices (chunksOf out))

section
variable (out : List StreamEvent) (model : String) (created : Int) (delta : Delta)
variable (finish : String) (usage : Option Usage)

lemma firstChoices_snoc :
    firstChoices (chunksOf (out ++ [chunkEvent model created delta finish usage])) =
      firstChoices (chunksOf out) ++ [⟨0, delta, finish⟩] := by
  simp [firstChoices, chunksOf, chunkEvent]

lemma sentText_snoc : sentText (out ++ [chunkEvent model created delta finish usage]) =
    sentText out ++ delta.content := by
  unfold sentText
  rw [firstChoices_snoc, map_append, join_append]
  simp [join]

lemma sentCalls_snoc : sentCalls (out ++ [chunkEvent model created delta finish usage]) =
    sentCalls out ++ delta.toolCalls := by
  unfold sentCalls callFragments
  rw [firstChoices_snoc, flatMap_append]
  simp

lemma sentFinish_snoc : sentFinish (out ++ [chunkEvent model created delta finish usage]) =
    if finish ≠ "" then finish else sentFinish out := by
  unfold sentFinish lastFinish
  rw [firstChoices_snoc, map_append, filter_append]
  by_cases hfinish : finish = ""
  · simp [hfinish]
  · simp [hfinish]

lemma clientFold_sent {last : StreamEvent} (hlast : last.chunk = none) :
    clientFold (chunksOf (out ++ [last])) =
      ⟨sentText out, (sentCalls out).foldl foldCall [], sentFinish out⟩ := by
  have hchunks : chunksOf (out ++ [last]) = chunksOf out := by
    simp [chunksOf, hlast]
  rw [hchunks, clientFold_eq]
  rfl

end

lemma calls_unindexed (tc : ToolCall) (tcs : List ToolCall)
    (hnone : ∀ t ∈ tc :: tcs, t.index = none) : ∃ id name, (tc :: tcs).foldl foldCall [] =
      [(0, ⟨id, name, String.join ((tc :: tcs).map ToolCall.functionArguments)⟩)] := by
  have hgrow : ∀ (ts : List ToolCall) (call : Call), (∀ t ∈ ts, t.index = none) →
      ∃ id name, ts.foldl foldCall [(0, call)] =
        [(0, ⟨id, name, call.arguments ++ String.join (ts.map ToolCall.functionArguments)⟩)] := by
    intro ts
    induction ts with
    | nil =>
      intro call _
      exact ⟨call.id, call.name, by simp⟩
    | cons t ts ih =>
      intro call hts
      have ht := hts t mem_cons_self
      obtain ⟨id, name, hrest⟩ := ih
        ⟨if call.id = "" then t.id else call.id, if call.name = "" then t.functionName
          else call.name, call.arguments ++ t.functionArguments⟩
        (fun x hx => hts x (mem_cons_of_mem _ hx))
      refine ⟨id, name, ?_⟩
      rw [foldl_cons, map_cons, String.join_cons, ← String.append_assoc, ← hrest]
      simp [foldCall, ht, setTool]
  have htc := hnone tc mem_cons_self
  obtain ⟨id, name, hrest⟩ := hgrow tcs ⟨tc.id, tc.functionName, tc.functionArguments⟩
    (fun t ht => hnone t (mem_cons_of_mem _ ht))
  refine ⟨id, name, ?_⟩
  rw [foldl_cons, map_cons, String.join_cons, ← hrest]
  simp [foldCall, htc]

end FfxNexus.Adapters
