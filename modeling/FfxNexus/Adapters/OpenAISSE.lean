/-
**Raw streams of OpenAI-compatible providers** (`internal/gateway/providers/openai.go`,
`parseOpenAISSEWithRaw`), and what `handleStream` writes for them.
-/
import Mathlib.Data.List.TakeWhile
import FfxNexus.Separated
import FfxNexus.Spend.Complete

namespace FfxNexus.Adapters.OpenAISSE
open Interaction Schema Gateway Chat Spend Separated List
open Interaction.Prog hiding perform
open Dispatch (answering caller meteredHandler plainRequest)

abbrev Bytes := List UInt8

def ascii (s : String) : Bytes := s.toList.map fun c => UInt8.ofNat c.toNat

variable (bs : Bytes)

def text : String := String.ofList (bs.map fun b => Char.ofNat b.toNat)

def lf : UInt8 := 10

def cr : UInt8 := 13

def spaces : List Bytes :=
  [[0x09], [0x0a], [0x0b], [0x0c], [0x0d], [0x20], [0xc2, 0x85], [0xc2, 0xa0],
    [0xe1, 0x9a, 0x80], [0xe2, 0x80, 0x80], [0xe2, 0x80, 0x81], [0xe2, 0x80, 0x82],
    [0xe2, 0x80, 0x83], [0xe2, 0x80, 0x84], [0xe2, 0x80, 0x85], [0xe2, 0x80, 0x86],
    [0xe2, 0x80, 0x87], [0xe2, 0x80, 0x88], [0xe2, 0x80, 0x89], [0xe2, 0x80, 0x8a],
    [0xe2, 0x80, 0xa8], [0xe2, 0x80, 0xa9], [0xe2, 0x80, 0xaf], [0xe2, 0x81, 0x9f],
    [0xe3, 0x80, 0x80]]

def trimLeft : ℕ → Bytes → Bytes
  | 0, bs => bs
  | n + 1, bs =>
    match spaces.find? (·.isPrefixOf bs) with
    | some space => trimLeft n (bs.drop space.length)
    | none => bs

def trimRight : ℕ → Bytes → Bytes
  | 0, bs => bs
  | n + 1, bs =>
    match spaces.find? (·.isSuffixOf bs) with
    | some space => trimRight n (bs.take (bs.length - space.length))
    | none => bs

def trimSpace : Bytes := trimRight bs.length (trimLeft bs.length bs)

def blank (line : Bytes) : Bool := (trimSpace line).length = 0

def maxTokenSize : ℕ := 1024 * 1024

def rawLines : List Bytes :=
  let pieces := bs.splitOn lf
  if pieces.getLast? = some [] then pieces.dropLast else pieces

def dropCR (line : Bytes) : Bytes := if line.getLast? = some cr then line.dropLast else line

inductive Ending where
  | eof
  | unexpectedEOF
  | failed (err : String)

def scan : List Bytes :=
  ((rawLines bs).takeWhile (·.length < maxTokenSize)).map dropCR

def scanErr (ending : Ending) : Option String :=
  if (rawLines bs).any (maxTokenSize ≤ ·.length) then some "bufio.Scanner: token too long"
  else
    match ending with
    | .failed err => some err
    | .eof | .unexpectedEOF => none

def writeLine (lines line : Bytes) : Bytes := lines ++ line ++ [lf]

def flush (lines : Bytes) : Option Bytes := if lines.length = 0 then none else some (lines ++ [lf])

def dataLine (raw : Bytes) : Bytes :=
  match (raw.splitOn lf).find? ((ascii "data:").isPrefixOf ·) with
  | some b => trimSpace (b.drop "data:".length)
  | none => []

variable (decode : Bytes → Except String ChatCompletionChunk)

def eventOf (raw : Bytes) : StreamEvent :=
  if 0 < (dataLine raw).length then
    if dataLine raw = ascii "[DONE]" then ⟨none, some (text raw), none, false⟩
    else
      match decode (dataLine raw) with
      | .error err => ⟨none, some (text raw), some ("decode chunk: " ++ err), false⟩
      | .ok chunk => ⟨some chunk, some (text raw), none, false⟩
  else ⟨none, some (text raw), none, false⟩

structure SseState where
  lines : Bytes
  out : List StreamEvent

def sseLine (st : SseState) (line : Bytes) :
    SseState :=
  if blank line then ⟨[], st.out ++ ((flush st.lines).map (eventOf decode)).toList⟩
  else { st with lines := writeLine st.lines line }

def parseOpenAISSEWithRaw (ending : Ending)
    (bs : Bytes) : List StreamEvent :=
  ((scan bs).foldl (sseLine decode) ⟨[], []⟩).out ++
    ((scanErr bs ending).map fun err => ⟨none, none, some err, false⟩).toList

def render (event : List Bytes) : Bytes := event.flatMap (· ++ [lf]) ++ [lf]

def normal : Bytes := (groups blank (rawLines bs)).flatMap render

def sseState
    (st : List (List Bytes) × List Bytes) : SseState :=
  ⟨st.2.flatMap (· ++ [lf]), st.1.map fun event => eventOf decode (render event)⟩

section
variable {decode : Bytes → Except String ChatCompletionChunk}

lemma flush_lines (lines : List Bytes) :
    flush (lines.flatMap (· ++ [lf])) = if lines.isEmpty then none else some (render lines) := by
  cases lines with
  | nil => rfl
  | cons line lines => simp [flush, render]

lemma sseLine_collect (st : List (List Bytes) × List Bytes) (line : Bytes) :
    sseLine decode (sseState decode st) line = sseState decode (collect blank st line) := by
  obtain ⟨events, kept⟩ := st
  cases hblank : blank line with
  | true =>
    simp only [sseLine, collect, hblank, sseState, flush_lines]
    cases kept <;> simp
  | false => simp [sseLine, collect, hblank, sseState, writeLine]

lemma foldl_sseLine (lines : List Bytes) : (lines.foldl (sseLine decode) ⟨[], []⟩).out =
      (closed blank lines).map fun event => eventOf decode (render event) := by
  have hfold : lines.foldl (sseLine decode) (sseState decode ([], [])) =
      sseState decode (lines.foldl (collect blank) ([], [])) :=
    foldl_hom _ sseLine_collect
  rw [foldl_collect] at hfold
  exact congrArg SseState.out hfold

end

lemma text_append (bs bs' : Bytes) : text (bs ++ bs') = text bs ++ text bs' := by
  simp [text]

lemma length_text : (text bs).length = bs.length := by
  simp [text]

lemma join_text (events : List (List Bytes)) :
    String.join (events.map fun event => text (render event)) = text (events.flatMap render) := by
  induction events with
  | nil => rfl
  | cons event events ih =>
    rw [map_cons, String.join_cons, ih, flatMap_cons, text_append]

variable {event : List Bytes}

lemma passThrough_render (hevent : event ≠ []) :
    passThrough (text (render event)) = text (render event) := by
  obtain ⟨lines, line, rfl⟩ : ∃ lines line, event = lines ++ [line] :=
    ⟨_, _, (dropLast_concat_getLast hevent).symm⟩
  have hend : text (render (lines ++ [line])) =
      text (lines.flatMap (· ++ [lf]) ++ line) ++ "\n\n" := by
    have hrender : render (lines ++ [line]) = lines.flatMap (· ++ [lf]) ++ line ++ [lf, lf] := by
      simp [render]
    rw [hrender, text_append]
    rfl
  unfold passThrough
  rw [hend]
  simp

def Undecodable (decode : Bytes → Except String ChatCompletionChunk) (line : Bytes) : Prop :=
  (ascii "data:").isPrefixOf line = true ∧
    let data := trimSpace (line.drop "data:".length)
    0 < data.length ∧ data ≠ ascii "[DONE]" ∧ ∃ err, decode data = .error err

variable (decode : Bytes → Except String ChatCompletionChunk)

lemma eventOf_raw (raw : Bytes) :
    (eventOf decode raw).raw = some (text raw) ∧ (eventOf decode raw).done = false := by
  unfold eventOf
  split
  · split
    · exact ⟨rfl, rfl⟩
    · split <;> exact ⟨rfl, rfl⟩
  · exact ⟨rfl, rfl⟩

lemma eventOf_bare (raw : Bytes)
    (herr : (eventOf decode raw).err.isSome) : (eventOf decode raw).chunk = none := by
  unfold eventOf at herr ⊢
  split at herr
  · rename_i hdata
    rw [if_pos hdata]
    split at herr
    · simp at herr
    rename_i hdone
    rw [if_neg hdone]
    cases hdecode : decode (dataLine raw) with
    | error err => rfl
    | ok chunk =>
      rw [hdecode] at herr
      simp at herr
  · simp at herr

lemma eventOf_err {decode : Bytes → Except String ChatCompletionChunk} {raw : Bytes}
    (hok : ∀ line ∈ raw.splitOn lf, ¬ Undecodable decode line) :
    (eventOf decode raw).err = none := by
  unfold eventOf
  split
  · rename_i hdata
    split
    · rfl
    rename_i hdone
    split
    · rename_i err herr
      unfold dataLine at hdata hdone herr
      split at hdata
      · rename_i line hfind
        simp only [hfind] at hdone herr
        refine absurd ?_ (hok line (mem_of_find?_eq_some hfind))
        exact ⟨find?_some hfind, hdata, hdone, err, herr⟩
      · simp at hdata
    · rfl
  · rfl

lemma lf_notMem_rawLines {bs line : Bytes} (hline : line ∈ rawLines bs) : lf ∉ line := by
  have hpiece : line ∈ bs.splitOn lf := by
    unfold rawLines at hline
    dsimp only at hline
    split at hline
    · exact dropLast_subset _ hline
    · exact hline
  intro hmem
  have hsep := sep_of_mem_splitOnP hpiece hmem
  simp at hsep

lemma splitOn_render (hevent : ∀ line ∈ event, lf ∉ line) (rest : Bytes) :
    (render event ++ rest).splitOn lf = event ++ [] :: rest.splitOn lf := by
  induction event with
  | nil => exact splitOn_append_cons_self_of_not_mem not_mem_nil rest
  | cons line event ih =>
    have hrender : render (line :: event) ++ rest = line ++ lf :: (render event ++ rest) := by
      simp [render]
    rw [hrender, splitOn_append_cons_self_of_not_mem (hevent line mem_cons_self),
      ih fun l hl => hevent l (mem_cons_of_mem _ hl)]
    rfl

lemma blank_nil : blank [] = true := by decide

lemma closed_err {decode : Bytes → Except String ChatCompletionChunk} {bs : Bytes}
    (hok : ∀ line ∈ rawLines bs, ¬ Undecodable decode line)
    (hevent : event ∈ closed blank (rawLines bs)) : (eventOf decode (render event)).err = none := by
  have hlines := (mem_of_collected blank (rawLines bs)).1 event hevent
  refine eventOf_err ?_
  rw [← append_nil (render event),
    splitOn_render fun line hline => lf_notMem_rawLines (hlines line hline)]
  intro line hline
  rcases mem_append.mp hline with h | h
  · exact hok line (hlines line h)
  obtain rfl : line = [] := by simpa using h
  rintro ⟨hdata, -⟩
  simp [ascii] at hdata

section
variable {h : Handler} {start : Int} {log : List GEvent}

def writeOf (e : StreamEvent) : ChatWrite :=
  match e.err with
  | some _ => .errorComment
  | none => .raw (passThrough (e.raw.getD ""))

lemma relayEvent_writes {r r' : Relay} {e : StreamEvent} (hdone : e.done = false)
    (hbytes : e.err = none → e.raw.isSome) (hrun : (relayEvent h start r e).Runs log r') :
    r'.writes = r.writes ++ [writeOf e] := by
  unfold relayEvent at hrun
  cases herr : e.err with
  | some err =>
    have hwrite : writeOf e = .errorComment := by
      unfold writeOf
      rw [herr]
    rw [herr] at hrun
    obtain ⟨-, rfl⟩ := hrun.done
    rw [hwrite]
  | none =>
    obtain ⟨bytes, hraw⟩ := Option.isSome_iff_exists.mp (hbytes herr)
    have hwrite : writeOf e = .raw (passThrough bytes) := by
      unfold writeOf
      rw [herr, hraw]
      rfl
    rw [herr, hraw] at hrun
    rw [if_neg (by simp [hdone])] at hrun
    rw [hwrite]
    cases hchunk : e.chunk with
    | none =>
      rw [hchunk] at hrun
      obtain ⟨-, rfl⟩ := hrun.done
      rfl
    | some c =>
      rw [hchunk] at hrun
      obtain ⟨ms, -, rfl⟩ := hrun.map
      unfold Relay.pass Relay.observe
      cases c.usage <;> rfl

lemma relayLoop_writes {events : List StreamEvent} {r r' : Relay}
    (hevents : ∀ e ∈ events, e.done = false ∧ (e.err = none → e.raw.isSome))
    (hrun : (relayLoop h start events r).Runs log r') :
    r'.writes = r.writes ++ events.map writeOf := by
  induction events generalizing r log with
  | nil =>
    obtain ⟨-, rfl⟩ := hrun.done
    simp
  | cons e events ih =>
    obtain ⟨hfirst, hrest⟩ := forall_mem_cons.mp hevents
    obtain ⟨_, r1, _, -, hevent, hloop⟩ := hrun.split
    rw [ih hrest hloop, relayEvent_writes hfirst.1 hfirst.2 hevent, append_assoc]
    rfl

end

def Delivers (reply : Reply ChatBody) (bs : Bytes) : Prop :=
  ∃ texts cost, reply = .ok (.stream (texts.map ChatWrite.raw) cost) ∧ String.join texts = text bs

section
variable {decode : Bytes → Except String ChatCompletionChunk} {ending : Ending} {bs : Bytes}

lemma parse_relayed : ∀ e ∈ parseOpenAISSEWithRaw decode ending bs,
      e.done = false ∧ (e.err = none → e.raw.isSome) := by
  intro e he
  unfold parseOpenAISSEWithRaw at he
  rw [foldl_sseLine] at he
  rcases mem_append.mp he with h | h
  · obtain ⟨event, -, rfl⟩ := mem_map.mp h
    obtain ⟨hraw, hdone⟩ := eventOf_raw decode (render event)
    exact ⟨hdone, fun _ => by simp [hraw]⟩
  cases herr : scanErr bs ending with
  | none => simp [herr] at h
  | some err =>
    obtain rfl : e = ⟨none, none, some err, false⟩ := by simpa [herr] using h
    exact ⟨rfl, fun h => by cases h⟩

lemma mem_parse_of_long (hlong : ∃ line ∈ rawLines bs, maxTokenSize ≤ line.length) :
    ⟨none, none, some "bufio.Scanner: token too long", false⟩ ∈
      parseOpenAISSEWithRaw decode ending bs := by
  have hany : (rawLines bs).any (maxTokenSize ≤ ·.length) = true := by
    simpa using hlong
  have herr : scanErr bs ending = some "bufio.Scanner: token too long" := by
    unfold scanErr
    rw [if_pos hany]
  unfold parseOpenAISSEWithRaw
  rw [herr]
  exact mem_append_right _ (mem_singleton.mpr rfl)

lemma errorComment_mem (hlong : ∃ line ∈ rawLines bs, maxTokenSize ≤ line.length) :
    .errorComment ∈ (parseOpenAISSEWithRaw decode ending bs).map writeOf :=
  mem_map.mpr ⟨_, mem_parse_of_long hlong, rfl⟩

section
variable (hshort : ∀ line ∈ rawLines bs, line.length < maxTokenSize)
include hshort

lemma scan_of_short : scan bs = (rawLines bs).map dropCR := by
  have htake : (rawLines bs).takeWhile (·.length < maxTokenSize) = rawLines bs :=
    takeWhile_eq_self_iff.mpr fun line hline => by simpa using hshort line hline
  rw [scan, htake]

lemma scanErr_of_short (hend : ∀ err, ending ≠ .failed err) : scanErr bs ending = none := by
  have hany : (rawLines bs).any (maxTokenSize ≤ ·.length) = false := by
    simpa using hshort
  unfold scanErr
  rw [if_neg (by simp [hany])]
  cases ending with
  | eof => rfl
  | unexpectedEOF => rfl
  | failed err => exact absurd rfl (hend err)

lemma parse_writes
    (hlf : ∀ line ∈ rawLines bs, line.getLast? ≠ some cr) (hend : ∀ err, ending ≠ .failed err)
    (hok : ∀ line ∈ rawLines bs, ¬ Undecodable decode line) :
    (parseOpenAISSEWithRaw decode ending bs).map writeOf =
      ((closed blank (rawLines bs)).map fun event => text (render event)).map ChatWrite.raw := by
  have hscan : scan bs = rawLines bs := by
    have hcr : ∀ line ∈ rawLines bs, dropCR line = id line := by
      intro line hline
      rw [dropCR, if_neg (hlf line hline), id]
    rw [scan_of_short hshort, map_congr_left hcr, map_id]
  have herr : scanErr bs ending = none := scanErr_of_short hshort hend
  unfold parseOpenAISSEWithRaw
  rw [hscan, herr, foldl_sseLine, Option.map_none, Option.toList_none, append_nil, map_map, map_map]
  refine map_congr_left ?_
  intro event hevent
  have hraw := (eventOf_raw decode (render event)).1
  simp only [Function.comp_apply, writeOf, closed_err hok hevent, hraw, Option.getD_some]
  rw [passThrough_render (ne_nil_of_mem_closed hevent)]

end

lemma text_closed_iff : text ((closed blank (rawLines bs)).flatMap render) = text (normal bs) ↔
      trailing blank (rawLines bs) = [] := by
  rw [normal, groups_eq, flatMap_append]
  cases htrailing : trailing blank (rawLines bs) with
  | nil => simp [text]
  | cons line lines =>
    refine iff_of_false ?_ (by simp)
    intro hsame
    have hlength := congrArg String.length hsame
    simp [length_text, render] at hlength

end

theorem passthrough_lossless_iff (h : Handler) (ctx : Ctx) (flusher : Bool) (chain : List String)
    (req : ChatCompletionRequest) (start : Int) (log : List GEvent) (reply : Reply ChatBody)
    (decode : Bytes → Except String ChatCompletionChunk) (ending : Ending) (bs : Bytes)
    (hrun : (handleStream h ctx flusher chain req start).Runs log reply)
    (hopened : (opened log).map (fun o => o.2.events) = [parseOpenAISSEWithRaw decode ending bs])
    (hend : ∀ err, ending ≠ .failed err) (hlf : ∀ line ∈ rawLines bs, line.getLast? ≠ some cr)
    (hok : ∀ line ∈ rawLines bs, ¬ Undecodable decode line) : Delivers reply (normal bs) ↔
      (∀ line ∈ rawLines bs, line.length < maxTokenSize) ∧
        ∀ line, (rawLines bs).getLast? = some line → blank line = true := by
  obtain ⟨⟨cand, s⟩, hone, hevents⟩ := map_eq_singleton_iff.mp hopened
  obtain ⟨t, l, r, cost, hrelay, hreply⟩ := handleStream_reply hrun hone
  have hwrites : r.writes = (parseOpenAISSEWithRaw decode ending bs).map writeOf := by
    have hrelayed := relayLoop_writes (hevents ▸ parse_relayed) hrelay
    rw [hevents] at hrelayed
    exact hrelayed
  rw [← trailing_eq_nil_iff, ← text_closed_iff, hreply, hwrites]
  by_cases hshort : ∀ line ∈ rawLines bs, line.length < maxTokenSize
  · rw [and_iff_right hshort, parse_writes hshort hlf hend hok, ← join_text]
    constructor
    · rintro ⟨texts, cost', hreply', hjoin⟩
      obtain ⟨hsame, -⟩ := ChatBody.stream.inj (Reply.ok.inj hreply')
      rw [map_injective_iff.mpr (fun _ _ heq => ChatWrite.raw.inj heq) hsame]
      exact hjoin
    · intro hsame
      exact ⟨_, cost, rfl, hsame⟩
  · refine iff_of_false ?_ fun hcond => hshort hcond.1
    rintro ⟨texts, cost', hreply', -⟩
    have hlong : ∃ line ∈ rawLines bs, maxTokenSize ≤ line.length := by
      simpa using hshort
    have hcomment : .errorComment ∈ (parseOpenAISSEWithRaw decode ending bs).map writeOf :=
      errorComment_mem hlong
    obtain ⟨hsame, -⟩ := ChatBody.stream.inj (Reply.ok.inj hreply')
    rw [hsame] at hcomment
    simp at hcomment

lemma parse_protocol (ending : Ending)
    (bs : Bytes) : StreamProtocol (parseOpenAISSEWithRaw decode ending bs) := by
  constructor
  · intro e he hend
    rw [(parse_relayed e he).1] at hend
    have herr : e.err.isSome := by simpa using hend
    unfold parseOpenAISSEWithRaw at he
    rw [foldl_sseLine] at he
    rcases mem_append.mp he with h | h
    · obtain ⟨event, -, rfl⟩ := mem_map.mp h
      exact eventOf_bare decode _ herr
    · obtain ⟨err, -, rfl⟩ := Option.map_eq_some_iff.mp (Option.mem_toList.mp h)
      rfl
  · intro before e after heq hdone
    have he : e ∈ parseOpenAISSEWithRaw decode ending bs :=
      heq ▸ mem_append_right before mem_cons_self
    rw [(parse_relayed e he).1] at hdone
    cases hdone

def bracedChunk (data : Bytes) : Except String ChatCompletionChunk :=
  if data.head? = some 123 then .ok ⟨"", "", 0, "", [], none⟩ else .error "invalid character"

def chatRun (bs : Bytes) : List GEvent × Reply ChatBody :=
  execute (answering
    ⟨parseOpenAISSEWithRaw bracedChunk .eof bs, parse_protocol bracedChunk .eof bs⟩)
    (handleStream meteredHandler caller true ["gpt-4o"] (plainRequest "gpt-4o") 0)

lemma chatRun_runs (bs : Bytes) :
    (handleStream meteredHandler caller true ["gpt-4o"] (plainRequest "gpt-4o")
      0).Runs (chatRun bs).1 (chatRun bs).2 := execute_runs _ _

def endedEvent : Bytes := ascii "data: \x7b\x7d\n\n"

def openEvent : Bytes := ascii "data: \x7b\x7d\n"

theorem passthrough_lossless_ended :
    (handleStream meteredHandler caller true ["gpt-4o"] (plainRequest "gpt-4o")
        0).Runs (chatRun endedEvent).1 (chatRun endedEvent).2 ∧
      (opened (chatRun endedEvent).1).map (fun o => o.2.events) =
        [parseOpenAISSEWithRaw bracedChunk .eof endedEvent] ∧
      Delivers (chatRun endedEvent).2 (normal endedEvent) := by
  have hopened : (opened (chatRun endedEvent).1).map (fun o => o.2.events) =
      [parseOpenAISSEWithRaw bracedChunk .eof endedEvent] := by with_unfolding_all decide
  refine ⟨chatRun_runs _, hopened, (passthrough_lossless_iff _ _ _ _ _ _ _ _ _ _ _
    (chatRun_runs _) hopened (fun _ => by simp) (by decide) ?_).mpr ⟨by decide, ?_⟩⟩
  · rintro line hline ⟨-, hdata, -, err, herr⟩
    rw [show rawLines endedEvent = [ascii "data: \x7b\x7d", []] by decide] at hline
    rcases mem_pair.mp hline with rfl | rfl
    · cases herr
    · cases hdata
  have hlast : (rawLines endedEvent).getLast? = some [] := by decide
  intro line hline
  obtain rfl := Option.some.inj (hlast.symm.trans hline)
  exact blank_nil

theorem passthrough_final_event_lost : (opened (chatRun openEvent).1).map (fun o => o.2.events) =
        [parseOpenAISSEWithRaw bracedChunk .eof openEvent] ∧
      (chatRun openEvent).2 = .ok (.stream [] 0) ∧ normal openEvent = endedEvent ∧
      ¬ Delivers (chatRun openEvent).2 (normal openEvent) := by
  have hreply : (chatRun openEvent).2 = .ok (.stream [] 0) := by with_unfolding_all decide
  have hnormal : normal openEvent = endedEvent := by decide
  refine ⟨by with_unfolding_all decide, hreply, hnormal, ?_⟩
  rintro ⟨texts, cost, hstream, hjoin⟩
  obtain ⟨hnone, -⟩ := ChatBody.stream.inj (Reply.ok.inj (hreply.symm.trans hstream))
  obtain rfl : texts = [] := map_eq_nil_iff.mp hnone.symm
  have hlength := congrArg String.length hjoin
  revert hlength
  decide

end FfxNexus.Adapters.OpenAISSE
