/-
**The text of a Messages stream.** `handleMessagesStream` relays chunks until the first event that
is something else.
-/
import FfxNexus.TraceCount
import FfxNexus.Adapters.OpenAIParsers

namespace FfxNexus.MessagesText
open Interaction Schema Gateway Translated Effects Spend TraceCount List
open Adapters.OpenAISSE (Bytes Ending ascii text dataLine eventOf parseOpenAISSE parseLines
  parseOpenAISSEWithRaw)
open Interaction.Prog hiding perform
open MessagesStream (messagesRun messagesRun_runs)

def chunkText (c : ChatCompletionChunk) : String :=
  String.join (c.choices.map fun dc => dc.delta.content)

variable (st : MessagesState) (events : List StreamEvent)

def spoken : String := String.join ((chunks events).map chunkText)

def deltaText : MessagesEvent → Option String
  | .textDelta _ text => some text
  | _ => none

def emitted (events : List MessagesEvent) : String := String.join (events.filterMap deltaText)

def marksEnd (e : StreamEvent) : Bool :=
  e.raw.any fun bytes => dataLine (ascii bytes) = ascii "[DONE]"

def live : List StreamEvent :=
  events.takeWhile fun e => e.err.isNone && !e.done && !marksEnd e

def NoTextAfterPause : Prop :=
  ∀ e ∈ (live events).dropWhile (fun e => e.chunk.isSome), ∀ c ∈ e.chunk, chunkText c = ""

def TextDelivered (reply : Reply MessagesBody) (events : List StreamEvent) : Prop :=
  ∃ out, reply = .ok (.stream out) ∧ emitted out = spoken (live events)

lemma spoken_append (es es' : List StreamEvent) : spoken (es ++ es') = spoken es ++ spoken es' := by
  simp [spoken, chunks]

lemma spoken_cons_some {e : StreamEvent} {c : ChatCompletionChunk} (es : List StreamEvent)
    (hc : e.chunk = some c) : spoken (e :: es) = chunkText c ++ spoken es := by
  rw [spoken, chunks_cons_some es hc, map_cons, String.join_cons]
  rfl

lemma spoken_eq_empty_iff (es : List StreamEvent) :
    spoken es = "" ↔ ∀ e ∈ es, ∀ c ∈ e.chunk, chunkText c = "" := by
  induction es with
  | nil => simp [spoken, chunks]
  | cons e es ih =>
    rw [forall_mem_cons, ← ih]
    cases hc : e.chunk with
    | none => simp [spoken, chunks, hc]
    | some c =>
      rw [spoken_cons_some es hc]
      simp

lemma emitted_append (out out' : List MessagesEvent) :
    emitted (out ++ out') = emitted out ++ emitted out' := by
  simp [emitted]

lemma emitted_concat_silent {e : MessagesEvent} (out : List MessagesEvent)
    (he : deltaText e = none) : emitted (out ++ [e]) = emitted out := by
  rw [emitted, filterMap_append, filterMap_cons, he]
  simp [emitted]

lemma emitted_concat_text (out : List MessagesEvent) (index : Int) (content : String) :
    emitted (out ++ [.textDelta index content]) = emitted out ++ content := by
  rw [emitted_append]
  rfl

lemma emitted_closing : emitted st.closing = "" := by
  have hstops :
      (st.tools.map fun e => MessagesEvent.blockStop e.2.idx).filterMap deltaText = [] := by
    simp [deltaText]
  rw [MessagesState.closing, emitted, filterMap_append, filterMap_append, hstops]
  cases st.textOpened <;> rfl

section
variable {log : List GEvent}

lemma textDelta_emitted (content : String) :
    emitted (st.textDelta content).out = emitted st.out ++ content := by
  unfold MessagesState.textDelta
  split
  · rename_i hempty
    rw [hempty, String.append_empty]
  rw [emitted_concat_text]
  cases st.textOpened with
  | true => simp
  | false =>
    rw [if_neg Bool.false_ne_true, emitted_concat_silent]
    rfl

lemma messagesToolCall_emitted {st st' : MessagesState} {tc : ToolCall}
    (hrun : (messagesToolCall st tc).Runs log st') : emitted st'.out = emitted st.out := by
  have hfeed : ∀ {st1 : MessagesState} {tools : List (Int × ToolBlock)} {slot : Int}
      {arguments : String} {l : List GEvent},
      (if arguments = "" then (pure st1 : GProg MessagesState) else pure { st1 with
          tools := tools, out := st1.out ++ [.inputDelta slot arguments] }).Runs l st' →
      emitted st'.out = emitted st1.out := by
    intro st1 tools slot arguments l hl
    split at hl
    · obtain ⟨-, rfl⟩ := hl.done
      rfl
    · obtain ⟨-, rfl⟩ := hl.done
      exact emitted_concat_silent _ rfl
  unfold messagesToolCall at hrun
  dsimp only at hrun
  split at hrun
  · obtain ⟨id, _, -, hrest⟩ := hrun.first
    exact (hfeed hrest).trans (emitted_concat_silent _ rfl)
  · exact (hfeed hrun).trans rfl

lemma messagesChoice_emitted {st st' : MessagesState} {dc : ChunkChoice}
    (hrun : (messagesChoice st dc).Runs log st') :
    emitted st'.out = emitted st.out ++ dc.delta.content := by
  obtain ⟨st1, htools, rfl⟩ := hrun.map
  have hkept := foldProg_keeps (g := fun st => emitted (MessagesState.out st))
    messagesToolCall_emitted htools
  exact hkept.trans (textDelta_emitted st _)

lemma messagesEvents_emitted {events : List StreamEvent} {st st' : MessagesState}
    (hrun : (messagesEvents events st).Runs log st') :
    emitted st'.out = emitted st.out ++ spoken (events.takeWhile relays) := by
  induction events generalizing st log with
  | nil =>
    obtain ⟨-, rfl⟩ := hrun.done
    simp [spoken, chunks]
  | cons e events ih =>
    have hstop : relays e = false → st'.out = st.out →
        emitted st'.out = emitted st.out ++ spoken ((e :: events).takeWhile relays) := by
      intro he hout
      rw [hout, takeWhile_cons_of_neg (by simp [he])]
      simp [spoken, chunks]
    unfold messagesEvents at hrun
    cases herr : e.err with
    | some err =>
      rw [herr] at hrun
      obtain ⟨-, rfl⟩ := hrun.done
      rw [takeWhile_cons_of_neg (by simp [relays, herr])]
      rw [emitted_concat_silent _ rfl]
      simp [spoken, chunks]
    | none =>
      rw [herr] at hrun
      cases hdone : e.done with
      | true =>
        rw [hdone] at hrun
        obtain ⟨-, rfl⟩ := hrun.done
        exact hstop (by simp [relays, hdone]) rfl
      | false =>
        cases hc : e.chunk with
        | none =>
          rw [hdone, hc] at hrun
          obtain ⟨-, rfl⟩ := hrun.done
          exact hstop (by simp [relays, hc]) rfl
        | some c =>
          rw [hdone, hc] at hrun
          obtain ⟨_, st1, _, -, hchoices, hrest⟩ := hrun.split
          have hfold := foldProg_view (fun st => emitted (MessagesState.out st))
            (fun t dc => t ++ dc.delta.content) (fun _ => True) (fun _ _ _ => trivial)
            (fun _ _ _ _ _ hstep => messagesChoice_emitted hstep) trivial hchoices
          have hjoin : ∀ (cs : List ChunkChoice) (t : String),
              cs.foldl (fun t dc => t ++ dc.delta.content) t =
                t ++ String.join (cs.map fun dc => dc.delta.content) := by
            intro cs
            induction cs with
            | nil => simp
            | cons dc cs ihcs =>
              intro t
              rw [foldl_cons, ihcs, map_cons, String.join_cons, String.append_assoc]
          have hrelays : relays e = true := by simp [relays, herr, hdone, hc]
          have hfirst : emitted st1.out = emitted st.out ++ chunkText c := by
            rw [hfold, hjoin]
            rfl
          rw [ih hrest, hfirst, takeWhile_cons_of_pos hrelays,
            spoken_cons_some _ hc, String.append_assoc]

lemma handleMessagesStream_emitted {h : Handler} {ctx : Ctx} {flusher : Bool}
    {req : ChatCompletionRequest} {reply : Reply MessagesBody} {events : List StreamEvent}
    (hrun : (handleMessagesStream h ctx flusher req).Runs log reply)
    (hopened : (opened log).map (fun o => o.2.events) = [events]) :
    ∃ out, reply = .ok (.stream out) ∧ emitted out = spoken (events.takeWhile relays) := by
  unfold handleMessagesStream at hrun
  split at hrun
  · obtain ⟨rfl, -⟩ := hrun.done
    cases hopened
  split at hrun
  · obtain ⟨rfl, -⟩ := hrun.done
    cases hopened
  obtain ⟨l1, id, _, rfl, hid, hrun1⟩ := hrun.split
  obtain ⟨l2, start, l3, rfl, hstart, hrun2⟩ := hrun1.split
  obtain ⟨st, hproviders, rfl⟩ := hrun2.map
  have hfront : Idle (l1 ++ l2) :=
    (idle_of_within newUUID_within hid rfl rfl).append
      (idle_of_within now_within hstart rfl rfl)
  rw [← append_assoc, opened_append, hfront.opened] at hopened
  refine ⟨_, rfl, ?_⟩
  rcases messagesProviders_opens hproviders with ⟨hidle, -⟩ | ⟨cand, s, l, hopens, hevents⟩
  · rw [hidle.opened] at hopened
    cases hopened
  rw [hopens.opened] at hopened
  obtain rfl : s.events = events := by simpa using hopened
  rw [emitted_append, emitted_closing, String.append_empty, messagesEvents_emitted hevents]
  rfl

end

def MarkBare : Prop := ∀ e ∈ events, marksEnd e = true → e.chunk = none

lemma takeWhile_relays {events : List StreamEvent} (hbare : MarkBare events) :
    events.takeWhile relays = (live events).takeWhile fun e => e.chunk.isSome := by
  induction events with
  | nil => rfl
  | cons e events ih =>
    obtain ⟨hfirst, hrest⟩ := forall_mem_cons.mp hbare
    have htail := ih hrest
    unfold live at htail ⊢
    rw [takeWhile_cons, takeWhile_cons]
    by_cases hrelays : relays e = true
    · have hparts := hrelays
      simp only [relays, Bool.and_eq_true] at hparts
      obtain ⟨⟨herr, hdone⟩, hchunk⟩ := hparts
      have hmark : marksEnd e = false := by
        cases hm : marksEnd e with
        | false => rfl
        | true =>
          rw [hfirst hm] at hchunk
          cases hchunk
      rw [if_pos hrelays, herr, hdone, hmark, htail]
      simp [hchunk]
    · rw [if_neg hrelays]
      split
      · rename_i hlive
        simp only [Bool.and_eq_true] at hlive
        rw [takeWhile_cons_of_neg]
        intro hchunk
        exact hrelays (by simp only [relays, hlive.1.1, hlive.1.2, hchunk, Bool.and_self])
      · rfl

lemma textDelivered_iff {events : List StreamEvent} {out : List MessagesEvent}
    (hbare : MarkBare events) (hout : emitted out = spoken (events.takeWhile relays)) :
    TextDelivered (.ok (.stream out)) events ↔ NoTextAfterPause events := by
  have hsplit : spoken (live events) = emitted out ++
      spoken ((live events).dropWhile fun e => e.chunk.isSome) := by
    rw [hout, takeWhile_relays hbare, ← spoken_append, takeWhile_append_dropWhile]
  have hsame : TextDelivered (.ok (.stream out)) events ↔ emitted out = spoken (live events) := by
    constructor
    · rintro ⟨out', heq, htext⟩
      obtain rfl := MessagesBody.stream.inj (Reply.ok.inj heq)
      exact htext
    · intro htext
      exact ⟨out, rfl, htext⟩
  rw [hsame, hsplit, NoTextAfterPause, ← spoken_eq_empty_iff]
  constructor
  · intro htext
    have hlist := congrArg String.toList htext
    rw [String.toList_append] at hlist
    exact String.toList_eq_nil_iff.mp (self_eq_append_right.mp hlist)
  · intro hnone
    rw [hnone, String.append_empty]

section
variable {decode : Bytes → Except String ChatCompletionChunk} {ending : Ending} {bs : Bytes}

lemma ascii_text (bs : Bytes) : ascii (text bs) = bs := by
  have hcode : ∀ n < 256, (Char.ofNat n).toNat = n := by decide +kernel
  have hbyte : ∀ b : UInt8, UInt8.ofNat (Char.ofNat b.toNat).toNat = b := by
    intro b
    rw [hcode _ b.toNat_lt, UInt8.ofNat_toNat]
  simp only [ascii, text, String.toList_ofList, map_map]
  exact (map_congr_left fun b _ => hbyte b).trans (map_id bs)

lemma eventOf_marks {raw : Bytes} (hmark : marksEnd (eventOf decode raw) = true) :
    (eventOf decode raw).chunk = none := by
  rw [marksEnd, (Adapters.OpenAISSE.eventOf_raw decode raw).1] at hmark
  have hdata : dataLine raw = ascii "[DONE]" := by simpa [ascii_text] using hmark
  unfold eventOf
  split <;> rfl

lemma markBare_withRaw : MarkBare (parseOpenAISSEWithRaw decode ending bs) := by
  intro e he hmark
  unfold parseOpenAISSEWithRaw at he
  rw [Adapters.OpenAISSE.foldl_sseLine] at he
  rcases mem_append.mp he with hsent | herr
  · obtain ⟨event, -, rfl⟩ := mem_map.mp hsent
    exact eventOf_marks hmark
  · obtain ⟨err, -, rfl⟩ := Option.map_eq_some_iff.mp (Option.mem_toList.mp herr)
    rfl

lemma parseLines_shape (err : Option String) (lines : List Bytes) :
    ∀ e ∈ parseLines decode err lines,
      e.raw = none ∧ (e.err.isSome ∨ e.done = true ∨ e.chunk.isSome) := by
  have hlast : ∀ e ∈ parseLines decode err [],
      e.raw = none ∧ (e.err.isSome ∨ e.done = true ∨ e.chunk.isSome) := by
    cases err <;> simp [parseLines]
  induction lines with
  | nil => exact hlast
  | cons line lines ih =>
    unfold parseLines
    dsimp only
    split
    · exact ih
    split
    · simp
    · split
      · simp
      · exact forall_mem_cons.mpr ⟨⟨rfl, by simp⟩, ih⟩

lemma markBare_parse : MarkBare (parseOpenAISSE decode ending bs) := by
  intro e he hmark
  rw [marksEnd, (parseLines_shape _ _ e he).1] at hmark
  cases hmark

end

theorem messages_text_iff (h : Handler) (ctx : Ctx) (flusher : Bool) (req : ChatCompletionRequest)
    (decode : Bytes → Except String ChatCompletionChunk) (ending : Ending) (bs : Bytes)
    (events : List StreamEvent) (log : List GEvent) (reply : Reply MessagesBody)
    (hparsed : events = parseOpenAISSE decode ending bs ∨
      events = parseOpenAISSEWithRaw decode ending bs)
    (hrun : (handleMessagesStream h ctx flusher req).Runs log reply)
    (hopened : (opened log).map (fun o => o.2.events) = [events]) :
    TextDelivered reply events ↔ NoTextAfterPause events := by
  have hbare : MarkBare events := by
    rcases hparsed with rfl | rfl
    · exact markBare_parse
    · exact markBare_withRaw
  obtain ⟨out, rfl, hout⟩ := handleMessagesStream_emitted hrun hopened
  exact textDelivered_iff hbare hout

def wordChunk (word : String) : ChatCompletionChunk :=
  ⟨"c-1", "chat.completion.chunk", 0, "gpt-4o", [⟨0, ⟨"", word, []⟩, ""⟩], none⟩

def wordData (word : String) : Bytes :=
  ascii "\x7b\"choices\":[\x7b\"delta\":\x7b\"content\":\"" ++ ascii word ++
    ascii "\"\x7d\x7d]\x7d"

def wordOf (data : Bytes) : Except String ChatCompletionChunk :=
  if data = wordData "Hel" then .ok (wordChunk "Hel")
  else if data = wordData "lo" then .ok (wordChunk "lo")
  else .error "invalid"

def words (between : String) : Bytes :=
  ascii "data: " ++ wordData "Hel" ++ ascii "\n\n" ++ ascii between ++ ascii "data: " ++
    wordData "lo" ++ ascii "\n\ndata: [DONE]\n\n"

def wordsRun (between : String) : List GEvent × Reply MessagesBody :=
  messagesRun ⟨parseOpenAISSEWithRaw wordOf .eof (words between),
    Adapters.OpenAISSE.parse_protocol wordOf .eof _⟩

theorem messages_text_words : (opened (wordsRun "").1).map (fun o => o.2.events) =
        [parseOpenAISSEWithRaw wordOf .eof (words "")] ∧
      TextDelivered (wordsRun "").2 (parseOpenAISSEWithRaw wordOf .eof (words "")) := by
  have hopened : (opened (wordsRun "").1).map (fun o => o.2.events) =
      [parseOpenAISSEWithRaw wordOf .eof (words "")] := by decide
  have hpause : NoTextAfterPause (parseOpenAISSEWithRaw wordOf .eof (words "")) := by
    unfold NoTextAfterPause
    decide
  exact ⟨hopened, (messages_text_iff _ _ _ _ _ _ _ _ _ _ (.inr rfl) (messagesRun_runs rfl)
    hopened).mpr hpause⟩

theorem messages_text_cut :
    (opened (wordsRun ": keep-alive\n\n").1).map (fun o => o.2.events) =
        [parseOpenAISSEWithRaw wordOf .eof (words ": keep-alive\n\n")] ∧
      spoken (live (parseOpenAISSEWithRaw wordOf .eof (words ": keep-alive\n\n"))) = "Hello" ∧
      (∃ out, (wordsRun ": keep-alive\n\n").2 = .ok (.stream out) ∧
        emitted out = "Hel") ∧ ¬ TextDelivered (wordsRun ": keep-alive\n\n").2
        (parseOpenAISSEWithRaw wordOf .eof (words ": keep-alive\n\n")) := by
  have hopened : (opened (wordsRun ": keep-alive\n\n").1).map (fun o => o.2.events) =
      [parseOpenAISSEWithRaw wordOf .eof (words ": keep-alive\n\n")] := by decide
  have hspoken : spoken (live (parseOpenAISSEWithRaw wordOf .eof
      (words ": keep-alive\n\n"))) = "Hello" := by decide
  have hrelayed : spoken ((parseOpenAISSEWithRaw wordOf .eof
      (words ": keep-alive\n\n")).takeWhile relays) = "Hel" := by decide
  obtain ⟨out, hreply, hout⟩ := handleMessagesStream_emitted (messagesRun_runs rfl) hopened
  refine ⟨hopened, hspoken, ⟨out, hreply, hout.trans hrelayed⟩, ?_⟩
  rintro ⟨out', hreply', htext⟩
  obtain rfl := MessagesBody.stream.inj (Reply.ok.inj (hreply.symm.trans hreply'))
  rw [hspoken, hout] at htext
  revert htext
  decide

end FfxNexus.MessagesText
