/-
**The two parsers of OpenAI-compatible streams** (`internal/gateway/providers/openai.go`).
-/
import FfxNexus.Codewords
import FfxNexus.Adapters.OpenAISSE

namespace FfxNexus.Adapters.OpenAISSE
open Schema Spend Separated Codewords List
variable (n : ℕ) (line : Bytes) (payload : Bytes) (bs : Bytes)

def scannerErr (ending : Ending) : Option String :=
  if (rawLines bs).any (maxTokenSize ≤ ·.length) then some "bufio.Scanner: token too long"
  else
    match ending with
    | .failed err => some err
    | .unexpectedEOF => some "unexpected EOF"
    | .eof => none

def parseLines (decode : Bytes → Except String ChatCompletionChunk) (err : Option String) :
    List Bytes → List StreamEvent
  | [] =>
    match err with
    | some err => [⟨none, none, some err, false⟩]
    | none => [⟨none, none, none, true⟩]
  | line :: lines =>
    let line := trimSpace line
    if line = [] ∨ (ascii "data:").isPrefixOf line = false then parseLines decode err lines
    else
      let data := trimSpace (line.drop "data:".length)
      if data = ascii "[DONE]" then [⟨none, none, none, true⟩]
      else
        match decode data with
        | .error err => [⟨none, none, some ("decode chunk: " ++ err), false⟩]
        | .ok chunk => ⟨some chunk, none, none, false⟩ :: parseLines decode err lines

def parseOpenAISSE (decode : Bytes → Except String ChatCompletionChunk) (ending : Ending)
    (bs : Bytes) : List StreamEvent :=
  parseLines decode (scannerErr bs ending) (scan bs)

lemma spaces_sync : SyncCode spaces where
  ne_nil := by decide
  prefixFree := by decide
  suffixFree := by decide
  sync := by decide +kernel

lemma trimLeft_eq_strip : trimLeft n bs = strip spaces n bs := by
  induction n generalizing bs with
  | zero => rfl
  | succ n ih =>
    rw [trimLeft, strip]
    cases spaces.find? (·.isPrefixOf bs) with
    | none => rfl
    | some space => exact ih _

lemma trimRight_eq_strip : trimRight n bs = (strip (spaces.map reverse) n bs.reverse).reverse := by
  induction n generalizing bs with
  | zero =>
    rw [trimRight, strip, reverse_reverse]
  | succ n ih =>
    have hfind : (spaces.map reverse).find? (·.isPrefixOf bs.reverse) =
        (spaces.find? (·.isSuffixOf bs)).map reverse := by
      rw [find?_map]
      rfl
    rw [trimRight, strip, hfind]
    cases hspace : spaces.find? (·.isSuffixOf bs) with
    | none =>
      dsimp only [Option.map_none]
      rw [reverse_reverse]
    | some space =>
      have hsuffix := find?_some hspace
      have hle : space.length ≤ bs.length :=
        (isSuffixOf_iff_suffix.mp hsuffix).length_le
      dsimp only [Option.map_some]
      rw [ih, length_reverse, reverse_take, Nat.sub_sub_self hle]

lemma trimSpace_eq_trim : trimSpace bs = trim spaces bs := by
  rw [trimSpace, trimLeft_eq_strip, trimRight_eq_strip, trim, stripBack, stripFront, stripFront]
  rw [spaces_sync.reverse.strip_enough _ le_rfl]
  rw [length_reverse]
  exact length_strip_le spaces _ bs

lemma trimSpace_dropCR : trimSpace (dropCR line) = trimSpace line := by
  rw [trimSpace_eq_trim, trimSpace_eq_trim, dropCR]
  by_cases hcr : line.getLast? = some cr
  · obtain ⟨init, rfl⟩ := getLast?_eq_some_iff.mp hcr
    have hspace : [cr] ∈ spaces := by decide
    rw [if_pos hcr, dropLast_concat, spaces_sync.trim_append_word hspace]
  · rw [if_neg hcr]

lemma blank_dropCR : blank (dropCR line) = blank line := by
  rw [blank, blank, trimSpace_dropCR]

lemma dropCR_append {front : Bytes} (hlast : front.getLast? ≠ some cr) (rest : Bytes) :
    dropCR (front ++ rest) = front ++ dropCR rest := by
  cases rest using reverseRecOn with
  | nil => rw [append_nil, dropCR, if_neg hlast, dropCR, if_neg (by simp), append_nil]
  | append_singleton rest b =>
    have hget : (front ++ (rest ++ [b])).getLast? = (rest ++ [b]).getLast? := by simp
    rw [dropCR, dropCR, hget]
    split
    · rw [← append_assoc, dropLast_concat, dropLast_concat]
    · rfl

def Other : Prop :=
  ascii ":" <+: line ∨ ascii "id" <+: line ∨ ascii "event" <+: line

lemma Other.cons {line : Bytes} (hline : Other line) :
    ∃ b rest, line = b :: rest ∧ Solid spaces b ∧ b ≠ 100 ∧ b ≠ cr := by
  have hsolid : Solid spaces 58 ∧ Solid spaces 105 ∧ Solid spaces 101 := by
    unfold Solid
    decide
  rcases hline with ⟨rest, rfl⟩ | ⟨rest, rfl⟩ | ⟨rest, rfl⟩
  · exact ⟨58, _, rfl, hsolid.1, by decide, by decide⟩
  · exact ⟨105, _, rfl, hsolid.2.1, by decide, by decide⟩
  · exact ⟨101, _, rfl, hsolid.2.2, by decide, by decide⟩

lemma Other.trimmed {line : Bytes} (hline : Other line) :
    ∃ b rest, trimSpace (dropCR line) = b :: rest ∧ b ≠ 100 := by
  obtain ⟨b, rest, rfl, hsolid, hb, -⟩ := hline.cons
  rw [trimSpace_dropCR, trimSpace_eq_trim]
  have htrim := spaces_sync.trim_solid hsolid hsolid [] rest rfl
  exact ⟨b, stripBack spaces rest, htrim, hb⟩

lemma Other.not_blank {line : Bytes} (hline : Other line) : blank (dropCR line) = false := by
  obtain ⟨b, rest, htrim, -⟩ := hline.trimmed
  rw [blank, htrim]
  rfl

lemma Other.not_data {line : Bytes} (hline : Other line) :
    (ascii "data:").isPrefixOf (dropCR line) = false := by
  obtain ⟨b, rest, rfl, -, hb, hcr⟩ := hline.cons
  have hlast : [b].getLast? ≠ some cr := by simpa using hcr
  have hcons : dropCR (b :: rest) = b :: dropCR rest := dropCR_append hlast rest
  have hdata : ascii "data:" = [100, 97, 116, 97, 58] := by decide
  rw [hcons, hdata, isPrefixOf_cons_cons, beq_false_of_ne hb.symm, Bool.false_and]

lemma dropCR_data : dropCR (ascii "data:" ++ payload) = ascii "data:" ++ dropCR payload :=
  dropCR_append (by decide) payload

lemma trimSpace_data :
    trimSpace (ascii "data:" ++ payload) = ascii "data:" ++ stripBack spaces payload := by
  have hsolid : Solid spaces 100 ∧ Solid spaces 58 := by
    unfold Solid
    decide
  have hdata : ∀ rest, ascii "data:" ++ rest = [100, 97, 116, 97] ++ 58 :: rest := by
    intro rest
    rfl
  rw [trimSpace_eq_trim, hdata, hdata,
    spaces_sync.trim_solid hsolid.1 hsolid.2 [100, 97, 116, 97] payload rfl]

lemma drop_data (rest : Bytes) : (ascii "data:" ++ rest).drop "data:".length = rest := by
  have hlength : "data:".length = (ascii "data:").length := by decide
  rw [hlength, drop_left]

lemma payload_trimmed :
    trimSpace ((trimSpace (dropCR (ascii "data:" ++ payload))).drop "data:".length) =
      trimSpace payload := by
  rw [dropCR_data, trimSpace_data, drop_data, trimSpace_eq_trim, spaces_sync.trim_stripBack,
    ← trimSpace_eq_trim, trimSpace_dropCR]

structure SseEvent where
  before : List Bytes
  payload : Bytes
  after : List Bytes
  stop : Bytes

def SseEvent.content (e : SseEvent) : List Bytes :=
  e.before ++ (ascii "data:" ++ e.payload) :: e.after

def SseEvent.lines (e : SseEvent) : List Bytes := e.content ++ [e.stop]

structure SseEvent.WellFormed (e : SseEvent) : Prop where
  others : ∀ line ∈ e.before ++ e.after, Other line
  blank_stop : blank e.stop = true
  lf_notMem : ∀ line ∈ e.lines, lf ∉ line

def unlines (lines : List Bytes) : Bytes := lines.flatMap (· ++ [lf])

def streamOf (events : List SseEvent) : Bytes := unlines (events.flatMap SseEvent.lines)

lemma rawLines_unlines {lines : List Bytes} (hlines : ∀ line ∈ lines, lf ∉ line) :
    rawLines (unlines lines) = lines := by
  have hsplit : (unlines lines).splitOn lf = lines ++ [[]] := by
    induction lines with
    | nil => rfl
    | cons line lines ih =>
      obtain ⟨hline, hrest⟩ := forall_mem_cons.mp hlines
      have hcons : unlines (line :: lines) = line ++ lf :: unlines lines := by
        simp [unlines]
      rw [hcons, splitOn_append_cons_self_of_not_mem hline, ih hrest]
      rfl
  unfold rawLines
  rw [hsplit]
  simp

section
variable {decode : Bytes → Except String ChatCompletionChunk} {e : SseEvent}

lemma lf_notMem_dropCR {line : Bytes} (hline : lf ∉ line) : lf ∉ dropCR line := by
  unfold dropCR
  split
  · exact fun hmem => hline (dropLast_subset _ hmem)
  · exact hline

lemma dataLine_content (he : e.WellFormed) :
    dataLine (render (e.content.map dropCR)) = trimSpace e.payload := by
  have hlf : ∀ line ∈ e.content.map dropCR, lf ∉ line := by
    intro line hline
    obtain ⟨raw, hraw, rfl⟩ := mem_map.mp hline
    exact lf_notMem_dropCR (he.lf_notMem raw (mem_append_left _ hraw))
  have hbefore : (e.before.map dropCR).find? ((ascii "data:").isPrefixOf ·) = none := by
    rw [find?_eq_none]
    intro line hline
    obtain ⟨raw, hraw, rfl⟩ := mem_map.mp hline
    rw [(he.others raw (mem_append_left _ hraw)).not_data]
    exact Bool.false_ne_true
  have hdata : (ascii "data:").isPrefixOf (ascii "data:" ++ dropCR e.payload) = true :=
    isPrefixOf_iff_prefix.mpr (prefix_append _ _)
  have hfind : ((render (e.content.map dropCR)).splitOn lf).find? ((ascii "data:").isPrefixOf ·) =
      some (ascii "data:" ++ dropCR e.payload) := by
    rw [← append_nil (render _), splitOn_render hlf, SseEvent.content, map_append,
      map_cons, dropCR_data, append_assoc, find?_append, hbefore, Option.none_or,
      cons_append, find?_cons_of_pos hdata]
  rw [dataLine, hfind]
  dsimp only
  rw [drop_data, trimSpace_dropCR]

lemma content_not_blank (he : e.WellFormed) :
    ∀ line ∈ e.content.map dropCR, blank line = false := by
  intro line hline
  obtain ⟨raw, hraw, rfl⟩ := mem_map.mp hline
  rcases mem_append.mp hraw with h | h
  · exact (he.others raw (mem_append_left _ h)).not_blank
  rcases mem_cons.mp h with rfl | h
  · rw [dropCR_data, blank, trimSpace_data]
    rfl
  · exact (he.others raw (mem_append_right _ h)).not_blank

lemma closed_events {events : List SseEvent} (hevents : ∀ e ∈ events, e.WellFormed) :
    closed blank ((events.flatMap SseEvent.lines).map dropCR) =
      events.map fun e => e.content.map dropCR := by
  induction events with
  | nil => rfl
  | cons e events ih =>
    obtain ⟨he, hrest⟩ := forall_mem_cons.mp hevents
    have hne : e.content.map dropCR ≠ [] := by simp [SseEvent.content]
    have hstop : blank (dropCR e.stop) = true := (blank_dropCR _).trans he.blank_stop
    have hlines : ((e :: events).flatMap SseEvent.lines).map dropCR =
        e.content.map dropCR ++ dropCR e.stop :: (events.flatMap SseEvent.lines).map dropCR := by
      simp [SseEvent.lines]
    rw [hlines, closed_append_cons (content_not_blank he) hne hstop, ih hrest]
    rfl

def Skipped : Prop :=
  trimSpace line = [] ∨ (ascii "data:").isPrefixOf (trimSpace line) = false

lemma parseLines_skipped {err : Option String} {lines rest : List Bytes}
    (hlines : ∀ line ∈ lines, Skipped line) :
    parseLines decode err (lines ++ rest) = parseLines decode err rest := by
  induction lines with
  | nil => rfl
  | cons line lines ih =>
    obtain ⟨hline, hrest⟩ := forall_mem_cons.mp hlines
    rw [cons_append, parseLines]
    dsimp only
    unfold Skipped at hline
    rw [if_pos hline, ih hrest]

lemma Other.skipped {line : Bytes} (hline : Other line) : Skipped (dropCR line) := by
  obtain ⟨b, rest, htrim, hb⟩ := hline.trimmed
  have hdata : ascii "data:" = [100, 97, 116, 97, 58] := by decide
  right
  rw [htrim, hdata, isPrefixOf_cons_cons, beq_false_of_ne hb.symm, Bool.false_and]

lemma skipped_stop (he : e.WellFormed) : Skipped (dropCR e.stop) := by
  left
  have hblank := he.blank_stop
  rw [← blank_dropCR, blank] at hblank
  simpa using hblank

lemma parseLines_event (he : e.WellFormed) (err : Option String) (rest : List Bytes) :
    parseLines decode err (e.lines.map dropCR ++ rest) =
      if trimSpace e.payload = ascii "[DONE]" then [⟨none, none, none, true⟩] else
        match decode (trimSpace e.payload) with
        | .error err => [⟨none, none, some ("decode chunk: " ++ err), false⟩]
        | .ok chunk => ⟨some chunk, none, none, false⟩ :: parseLines decode err rest := by
  have hothers : ∀ {lines : List Bytes}, lines ⊆ e.before ++ e.after →
      ∀ line ∈ lines.map dropCR, Skipped line := by
    intro lines hsub line hline
    obtain ⟨raw, hraw, rfl⟩ := mem_map.mp hline
    exact (he.others raw (hsub hraw)).skipped
  have hafter : ∀ line ∈ e.after.map dropCR ++ [dropCR e.stop], Skipped line := by
    intro line hline
    rcases mem_append.mp hline with h | h
    · exact hothers (subset_append_right _ _) line h
    · rw [mem_singleton.mp h]
      exact skipped_stop he
  have hlines : e.lines.map dropCR ++ rest =
      e.before.map dropCR ++ dropCR (ascii "data:" ++ e.payload) ::
        ((e.after.map dropCR ++ [dropCR e.stop]) ++ rest) := by
    simp [SseEvent.lines, SseEvent.content]
  have htrimmed : trimSpace (dropCR (ascii "data:" ++ e.payload)) =
      ascii "data:" ++ stripBack spaces (dropCR e.payload) := by
    rw [dropCR_data, trimSpace_data]
  have hread : ¬ Skipped (dropCR (ascii "data:" ++ e.payload)) := by
    unfold Skipped
    rw [htrimmed]
    rintro (hnil | hno)
    · cases hnil
    · cases hno
  rw [hlines, parseLines_skipped (hothers (subset_append_left _ _)), parseLines]
  dsimp only
  unfold Skipped at hread
  rw [if_neg hread, payload_trimmed, parseLines_skipped hafter]

def chunkOf (decode : Bytes → Except String ChatCompletionChunk) (e : SseEvent) :
    Option ChatCompletionChunk :=
  (decode (trimSpace e.payload)).toOption

structure Strict (decode : Bytes → Except String ChatCompletionChunk) : Prop where
  empty : ∀ c, decode [] ≠ .ok c
  mark : ∀ c, decode (ascii "[DONE]") ≠ .ok c

structure HasChunk (decode : Bytes → Except String ChatCompletionChunk) (e : SseEvent) : Prop
    extends e.WellFormed where
  decodes : ∃ c, decode (trimSpace e.payload) = .ok c

structure Marks (e : SseEvent) : Prop extends e.WellFormed where
  mark : trimSpace e.payload = ascii "[DONE]"

variable {events : List SseEvent} {last : SseEvent}

lemma HasChunk.payload_ne (hstrict : Strict decode) (he : HasChunk decode e) :
    trimSpace e.payload ≠ [] ∧ trimSpace e.payload ≠ ascii "[DONE]" := by
  obtain ⟨c, hc⟩ := he.decodes
  constructor
  · intro hnil
    rw [hnil] at hc
    exact hstrict.empty c hc
  · intro hmark
    rw [hmark] at hc
    exact hstrict.mark c hc

lemma parseLines_stream (hstrict : Strict decode) (hevents : ∀ e ∈ events, HasChunk decode e)
    (hlast : Marks last) (err : Option String) :
    parseLines decode err (((events ++ [last]).flatMap SseEvent.lines).map dropCR) =
      (events.filterMap (chunkOf decode)).map (fun c => ⟨some c, none, none, false⟩) ++
        [⟨none, none, none, true⟩] := by
  induction events with
  | nil =>
    have hlines : (([] ++ [last]).flatMap SseEvent.lines).map dropCR =
        last.lines.map dropCR ++ [] := by simp
    rw [hlines, parseLines_event hlast.toWellFormed, if_pos hlast.mark]
    rfl
  | cons e events ih =>
    obtain ⟨he, hrest⟩ := forall_mem_cons.mp hevents
    obtain ⟨c, hc⟩ := he.decodes
    have hlines : ((e :: events ++ [last]).flatMap SseEvent.lines).map dropCR =
        e.lines.map dropCR ++ ((events ++ [last]).flatMap SseEvent.lines).map dropCR := by
      simp
    have hchunk : chunkOf decode e = some c := by
      rw [chunkOf, hc]
      rfl
    rw [hlines, parseLines_event he.toWellFormed, if_neg (he.payload_ne hstrict).2, hc,
      filterMap_cons, hchunk]
    dsimp only
    rw [ih hrest]
    rfl

lemma eventOf_content (hstrict : Strict decode) (he : HasChunk decode e) :
    (eventOf decode (render (e.content.map dropCR))).chunk = chunkOf decode e ∧
      (eventOf decode (render (e.content.map dropCR))).err = none := by
  obtain ⟨c, hc⟩ := he.decodes
  obtain ⟨hnil, hmark⟩ := he.payload_ne hstrict
  rw [eventOf, dataLine_content he.toWellFormed, if_pos (length_pos_iff.mpr hnil),
    if_neg hmark, chunkOf, hc]
  exact ⟨rfl, rfl⟩

lemma eventOf_mark (hlast : Marks last) :
    (eventOf decode (render (last.content.map dropCR))).chunk = none ∧
      (eventOf decode (render (last.content.map dropCR))).err = none := by
  rw [eventOf, dataLine_content hlast.toWellFormed, hlast.mark]
  exact ⟨rfl, rfl⟩

structure ParsersAgree (decode : Bytes → Except String ChatCompletionChunk) (ending : Ending)
    (bs : Bytes) : Prop where
  chunks : chunks (parseOpenAISSE decode ending bs) =
    chunks (parseOpenAISSEWithRaw decode ending bs)
  err : ∀ e ∈ parseOpenAISSE decode ending bs, e.err = none
  err_raw : ∀ e ∈ parseOpenAISSEWithRaw decode ending bs, e.err = none

variable {ending : Ending}

lemma parsersAgree_of_short (hstrict : Strict decode)
    (hevents : ∀ e ∈ events, HasChunk decode e) (hlast : Marks last)
    (hend : ∀ err, ending ≠ .failed err)
    (hlines : rawLines (streamOf (events ++ [last])) = (events ++ [last]).flatMap SseEvent.lines)
    (hshort : ∀ line ∈ (events ++ [last]).flatMap SseEvent.lines, line.length < maxTokenSize) :
    ParsersAgree decode ending (streamOf (events ++ [last])) := by
  rw [← hlines] at hshort
  have hwf : ∀ e ∈ events ++ [last], e.WellFormed := by
    intro e he
    rcases mem_append.mp he with h | h
    · exact (hevents e h).toWellFormed
    · rw [mem_singleton.mp h]
      exact hlast.toWellFormed
  have hfirst : parseOpenAISSE decode ending (streamOf (events ++ [last])) =
      (events.filterMap (chunkOf decode)).map (fun c => ⟨some c, none, none, false⟩) ++
        [⟨none, none, none, true⟩] := by
    rw [parseOpenAISSE, scan_of_short hshort, hlines, parseLines_stream hstrict hevents hlast]
  have hsecond : parseOpenAISSEWithRaw decode ending (streamOf (events ++ [last])) =
      (events ++ [last]).map fun e => eventOf decode (render (e.content.map dropCR)) := by
    rw [parseOpenAISSEWithRaw, scanErr_of_short hshort hend, scan_of_short hshort, hlines,
      foldl_sseLine, closed_events hwf, map_map, Option.map_none, Option.toList_none, append_nil]
    rfl
  refine ⟨?_, ?_, ?_⟩
  · have hchunks : ∀ e ∈ events, (eventOf decode (render (e.content.map dropCR))).chunk =
        chunkOf decode e := fun e he => (eventOf_content hstrict (hevents e he)).1
    rw [hfirst, hsecond, Spend.chunks, Spend.chunks, filterMap_append, map_append,
      filterMap_append, filterMap_map, filterMap_map, map_singleton,
      filterMap_cons, filterMap_cons, (eventOf_mark hlast).1]
    rw [filterMap_congr (f := StreamEvent.chunk ∘ _) hchunks]
    simp
  · intro e he
    rw [hfirst] at he
    rcases mem_append.mp he with h | h
    · obtain ⟨c, -, rfl⟩ := mem_map.mp h
      rfl
    · rw [mem_singleton.mp h]
  · intro e he
    rw [hsecond] at he
    obtain ⟨e', he', rfl⟩ := mem_map.mp he
    rcases mem_append.mp he' with h | h
    · exact (eventOf_content hstrict (hevents e' h)).2
    · rw [mem_singleton.mp h]
      exact (eventOf_mark hlast).2

end

theorem parsers_agree_iff (decode : Bytes → Except String ChatCompletionChunk) (ending : Ending)
    (events : List SseEvent) (last : SseEvent) (hstrict : Strict decode)
    (hend : ∀ err, ending ≠ .failed err) (hevents : ∀ e ∈ events, HasChunk decode e)
    (hlast : Marks last) : ParsersAgree decode ending (streamOf (events ++ [last])) ↔
      ∀ line ∈ (events ++ [last]).flatMap SseEvent.lines, line.length < maxTokenSize := by
  have hlines : rawLines (streamOf (events ++ [last])) =
      (events ++ [last]).flatMap SseEvent.lines := by
    refine rawLines_unlines ?_
    intro line hline
    obtain ⟨e, he, hmem⟩ := mem_flatMap.mp hline
    rcases mem_append.mp he with h | h
    · exact (hevents e h).lf_notMem line hmem
    · rw [mem_singleton.mp h] at hmem
      exact hlast.lf_notMem line hmem
  constructor
  · intro hagree
    by_contra hnot
    have hlong : ∃ line ∈ rawLines (streamOf (events ++ [last])), maxTokenSize ≤ line.length := by
      rw [hlines]
      simpa using hnot
    cases hagree.err_raw _ (mem_parse_of_long hlong)
  · exact parsersAgree_of_short hstrict hevents hlast hend hlines

lemma bracedChunk_strict : Strict bracedChunk := by
  constructor
  · intro c hc
    cases hc
  · intro c hc
    cases hc

def paddedEvent : SseEvent := ⟨[ascii ": keep-alive"], ascii "  \x7b\x7d \r", [ascii "id: 7"], [cr]⟩

def endEvent : SseEvent := ⟨[], ascii " [DONE]", [], []⟩

lemma wellFormed_padded : paddedEvent.WellFormed where
  others := by
    unfold Other
    decide
  blank_stop := by decide
  lf_notMem := by decide

lemma marks_end : Marks endEvent where
  others := by simp [endEvent]
  blank_stop := by decide
  lf_notMem := by decide
  mark := by decide

theorem parsers_agree_padded :
    Strict bracedChunk ∧ (∀ e ∈ [paddedEvent], HasChunk bracedChunk e) ∧ Marks endEvent ∧
      ParsersAgree bracedChunk .eof (streamOf ([paddedEvent] ++ [endEvent])) := by
  have hevents : ∀ e ∈ [paddedEvent], HasChunk bracedChunk e := by
    intro e he
    rw [mem_singleton.mp he]
    have hpayload : trimSpace paddedEvent.payload = ascii "\x7b\x7d" := by decide
    refine ⟨wellFormed_padded, ?_⟩
    exact ⟨_, rfl⟩
  have hshort : ∀ line ∈ ([paddedEvent] ++ [endEvent]).flatMap SseEvent.lines,
      line.length < maxTokenSize := by decide
  exact ⟨bracedChunk_strict, hevents, marks_end, (parsers_agree_iff bracedChunk .eof [paddedEvent]
    endEvent bracedChunk_strict (fun _ => by simp) hevents marks_end).mpr hshort⟩

def commentEvent : SseEvent := ⟨[58 :: List.replicate n 97], ascii "[DONE]", [], []⟩

lemma commentEvent_lines : (commentEvent n).lines =
    [58 :: replicate n 97, ascii "data:" ++ ascii "[DONE]", []] := rfl

lemma marks_comment : Marks (commentEvent n) := by
  refine ⟨⟨?_, marks_end.blank_stop, ?_⟩, ?_⟩
  · intro line hline
    obtain rfl : line = 58 :: replicate n 97 := by simpa [commentEvent] using hline
    exact .inl ⟨replicate n 97, rfl⟩
  · intro line hline
    rw [commentEvent_lines] at hline
    simp only [mem_cons, not_mem_nil, or_false] at hline
    rcases hline with rfl | rfl | rfl
    · intro hmem
      rcases mem_cons.mp hmem with h | h
      · cases h
      · cases eq_of_mem_replicate h
    · decide
    · exact not_mem_nil
  · have hpayload : trimSpace (ascii "[DONE]") = ascii "[DONE]" := by decide
    exact hpayload

lemma rawLines_comment : rawLines (streamOf ([] ++ [commentEvent n])) = (commentEvent n).lines := by
  have hflat : ([] ++ [commentEvent n]).flatMap SseEvent.lines = (commentEvent n).lines := by
    simp
  exact rawLines_unlines (marks_comment n).lf_notMem

lemma parse_comment {n : ℕ} (hn : maxTokenSize ≤ n) :
    parseOpenAISSE bracedChunk .eof (streamOf ([] ++ [commentEvent n])) =
      [⟨none, none, some "bufio.Scanner: token too long", false⟩] := by
  have hlength : ¬ (58 :: replicate n 97 : Bytes).length < maxTokenSize := by
    rw [length_cons, length_replicate]
    omega
  have hscan : scan (streamOf ([] ++ [commentEvent n])) = [] := by
    rw [scan, rawLines_comment, commentEvent_lines,
      takeWhile_cons_of_neg (by simpa using hlength), map_nil]
  have hany : (rawLines (streamOf ([] ++ [commentEvent n]))).any (maxTokenSize ≤ ·.length) =
      true := by
    rw [rawLines_comment, commentEvent_lines]
    simpa using Or.inl hlength
  rw [parseOpenAISSE, hscan, scannerErr, if_pos hany]
  rfl

theorem parsers_refuse_long : Marks (commentEvent maxTokenSize) ∧
      ⟨none, none, some "bufio.Scanner: token too long", false⟩ ∈
        parseOpenAISSE bracedChunk .eof (streamOf ([] ++ [commentEvent maxTokenSize])) ∧
      ⟨none, none, some "bufio.Scanner: token too long", false⟩ ∈
        parseOpenAISSEWithRaw bracedChunk .eof (streamOf ([] ++ [commentEvent maxTokenSize])) := by
  refine ⟨marks_comment _, ?_, mem_parse_of_long ?_⟩
  · rw [parse_comment le_rfl]
    exact mem_singleton.mpr rfl
  rw [rawLines_comment]
  refine ⟨58 :: replicate maxTokenSize 97, mem_cons_self, ?_⟩
  rw [length_cons, length_replicate]
  exact Nat.le_succ _

end FfxNexus.Adapters.OpenAISSE
