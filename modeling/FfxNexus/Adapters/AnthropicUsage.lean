/-
**The usage of an Anthropic stream** (`parseSSE`, and what `handleStream` records of it).
-/
import FfxNexus.Adapters.Anthropic
import FfxNexus.BlockSlots
import FfxNexus.Spend.Stream
import FfxNexus.Spend.Unary

namespace FfxNexus.Adapters.Anthropic
open Schema Pricing Gateway Chat Spend BlockSlots List Option

def inputReport (e : Event) : Option Int :=
  if e.type = "message_start" then e.messageUsage.inputTokens
  else if e.type = "message_delta" then e.usage.inputTokens
  else none

def outputReport (e : Event) : Option Int :=
  if e.type = "message_delta" then e.usage.outputTokens else none

def lastInput (es : List Event) : Option Int := (es.filterMap inputReport).getLast?

def lastOutput (es : List Event) : Option Int := (es.filterMap outputReport).getLast?

def positiveOutputs (es : List Event) : List Int := (es.filterMap outputReport).filter (0 < ·)

def completed (es : List Event) : Int := (positiveOutputs es).getLastD 0

def opensTool (e : Event) : Bool :=
  e.type = "content_block_start" ∧ e.contentBlock.any (·.type = "tool_use")

def started (es : List Event) : List Int := (es.filter opensTool).map Event.index

def closes (e : Event) : Bool := e.type = "message_delta" ∧ e.delta.stopReason ≠ ""

def speaks (tools : List Int) (e : Event) : Bool :=
  opensTool e || closes e ||
    (e.type = "content_block_delta" ∧ (e.delta.type = "text_delta" ∧ e.delta.text ≠ "" ∨
        e.delta.type = "input_json_delta" ∧ e.delta.partialJSON ≠ "" ∧ e.index ∈ tools))

section
variable (model : String) (created : Int)

def parsed (es : List Event) : ParseState := es.foldl (parseEvent model created) .start

def sentAt (before : List Event) (e : Event) : List StreamEvent :=
  (parseEvent model created { parsed model created before with out := [] } e).out

variable (u : Usage)

def reading (evt : StreamEvent) : StreamEvent :=
  { evt with chunk := evt.chunk.map fun c => { c with usage := c.usage.map fun _ => u } }

inductive Sees : List Event → List Event → List StreamEvent → Prop
  | nil (before : List Event) : Sees before [] []
  | cons {before es : List Event} {e : Event} {seen : List StreamEvent} (later : List Event)
      (hlater : later <+: es) (hrest : Sees (before ++ [e]) es seen) :
      Sees before (e :: es)
        ((sentAt model created before e).map
          (reading (parsed model created (before ++ e :: later)).usage) ++ seen)

variable {model created}

lemma parsed_snoc (es : List Event) (e : Event) :
    parsed model created (es ++ [e]) = parseEvent model created (parsed model created es) e := by
  simp [parsed]

section
variable (st : ParseState)

lemma blockStart_usage (e : Event) : (blockStart model created st e).usage = st.usage := by
  unfold blockStart
  split
  · rfl
  · split <;> rfl

lemma blockDelta_usage (e : Event) : (blockDelta model created st e).usage = st.usage := by
  unfold blockDelta
  split
  · rfl
  · split
    · split <;> rfl
    · rfl

lemma messageDelta_usage (e : Event) : (messageDelta model created st e).usage =
      if 0 < e.usage.outputTokens.getD 0 then
        { st.usage with completionTokens := e.usage.outputTokens.getD 0 }
      else st.usage := by
  unfold messageDelta
  split <;> rfl

lemma parseEvent_usage (e : Event) : (parseEvent model created st e).usage = { st.usage with
        completionTokens := (positiveOutputs [e]).getLastD st.usage.completionTokens } := by
  by_cases hend : e.type = "message_delta"
  · have hevent : parseEvent model created st e = messageDelta model created st e := by
      simp [parseEvent, hend]
    rw [hevent, messageDelta_usage]
    cases hout : e.usage.outputTokens with
    | none => simp [positiveOutputs, outputReport, hend, hout]
    | some n =>
      by_cases hpos : 0 < n
      · simp [positiveOutputs, outputReport, hend, hout, hpos]
      · simp [positiveOutputs, outputReport, hend, hout, hpos]
  · have hnone : positiveOutputs [e] = [] := by
      simp [positiveOutputs, outputReport, hend]
    rw [hnone]
    unfold parseEvent
    split
    · exact blockStart_usage st e
    · split
      · exact blockDelta_usage st e
      · rfl

end

lemma positiveOutputs_append (es es' : List Event) :
    positiveOutputs (es ++ es') = positiveOutputs es ++ positiveOutputs es' := by
  simp [positiveOutputs]

lemma completed_append (es es' : List Event) :
    completed (es ++ es') = (positiveOutputs es').getLastD (completed es) := by
  rw [completed, completed, positiveOutputs_append]
  cases h : positiveOutputs es' using reverseRecOn with
  | nil => simp
  | append_singleton xs x => simp

lemma parsed_usage (es : List Event) :
    (parsed model created es).usage = { Usage.zero with completionTokens := completed es } := by
  induction es using reverseRecOn with
  | nil => rfl
  | append_singleton es e ih =>
    rw [parsed_snoc, parseEvent_usage, ih, completed_append]

variable (st : ParseState)

def kept : List Int := st.pendingToolDeltas.map Prod.fst

lemma mem_putPending {pending : List (Int × ToolCall)} {index i : Int} {tc : ToolCall} :
    i ∈ (putPending pending index tc).map Prod.fst ↔ i = index ∨ i ∈ pending.map Prod.fst := by
  by_cases heq : i = index <;> simp [putPending, heq]

def Sends (model : String) (created : Int) (tools : List Int) (e : Event) (usage : Usage)
    (sends : List StreamEvent) : Prop :=
  if speaks tools e then
    ∃ delta finish, sends =
      [chunkEvent model created delta finish (if closes e then some usage else none)]
  else sends = []

structure Steps (model : String) (created : Int) (st : ParseState) (e : Event) (st' : ParseState) :
    Prop where
  sends : ∃ sends, st'.out = st.out ++ sends ∧ Sends model created (kept st) e st'.usage sends
  keeps : ∀ i, i ∈ kept st' ↔ i ∈ kept st ∨ opensTool e = true ∧ i = e.index

variable {e : Event}

lemma Steps.silent {st st' : ParseState} (hsilent : speaks (kept st) e = false)
    (hout : st'.out = st.out) (hkept : kept st' = kept st) : Steps model created st e st' := by
  have hopens : opensTool e = false := by
    simp only [speaks, Bool.or_eq_false_iff] at hsilent
    exact hsilent.1.1
  refine ⟨⟨[], by simpa using hout, by simp [Sends, hsilent]⟩, ?_⟩
  intro i
  simp [hkept, hopens]

lemma Steps.speaking {st st' : ParseState} {delta : Delta} {finish : String}
    {usage : Option Usage} (hspeaks : speaks (kept st) e = true)
    (hout : st'.out = st.out ++ [chunkEvent model created delta finish usage])
    (husage : usage = if closes e then some st'.usage else none)
    (hkeeps : ∀ i, i ∈ kept st' ↔ i ∈ kept st ∨ opensTool e = true ∧ i = e.index) :
    Steps model created st e st' := by
  refine ⟨⟨_, hout, ?_⟩, hkeeps⟩
  rw [Sends, if_pos hspeaks]
  exact ⟨delta, finish, by rw [husage]⟩

lemma blockStart_steps (e : Event) (htype : e.type = "content_block_start") :
    Steps model created st e (blockStart model created st e) := by
  have hspeaks : speaks (kept st) e = e.contentBlock.any (·.type = "tool_use") := by
    simp [speaks, opensTool, closes, htype]
  unfold blockStart
  split
  · rename_i hblock
    exact .silent (by simp [hspeaks, hblock]) rfl rfl
  rename_i block hblock
  split
  · rename_i htool
    have hopens : opensTool e = true := by simp [opensTool, htype, hblock, htool]
    refine .speaking (by simp [hspeaks, hblock, htool]) rfl (by simp [closes, htype]) ?_
    intro i
    simp only [kept, mem_putPending, hopens, true_and]
    exact or_comm
  · rename_i htool
    exact .silent (by simp [hspeaks, hblock, htool]) rfl rfl

lemma blockDelta_steps (e : Event) (htype : e.type = "content_block_delta") :
    Steps model created st e (blockDelta model created st e) := by
  have hopens : opensTool e = false := by simp [opensTool, htype]
  have hcloses : closes e = false := by simp [closes, htype]
  have hspeaks : speaks (kept st) e =
      decide (e.delta.type = "text_delta" ∧ e.delta.text ≠ "" ∨
        e.delta.type = "input_json_delta" ∧ e.delta.partialJSON ≠ "" ∧ e.index ∈ kept st) := by
    simp [speaks, hopens, hcloses, htype]
  have hsame : ∀ st' : ParseState, kept st' = kept st →
      ∀ i, i ∈ kept st' ↔ i ∈ kept st ∨ opensTool e = true ∧ i = e.index := by
    intro st' hkept i
    simp [hkept, hopens]
  unfold blockDelta
  split
  · rename_i htext
    exact .speaking (by simp [hspeaks, htext]) rfl (by simp [hcloses]) (hsame _ rfl)
  rename_i htext
  split
  · rename_i hinput
    split
    · rename_i hlook
      refine .silent ?_ rfl rfl
      have hnot : e.index ∉ kept st := not_mem_keys hlook
      rw [hspeaks, decide_eq_false_iff_not]
      rintro (h | ⟨-, -, hmem⟩)
      · exact htext h
      · exact hnot hmem
    · rename_i tc hlook
      have hmem : e.index ∈ kept st := mem_map.mpr ⟨_, Go.mem_of_lookup hlook, rfl⟩
      refine .speaking (by simp [hspeaks, hinput, hmem]) rfl (by simp [hcloses]) ?_
      intro i
      simp only [kept, mem_putPending, hopens, Bool.false_eq_true, false_and, or_false,
        or_iff_right_iff_imp]
      rintro rfl
      exact hmem
  · rename_i hinput
    refine .silent ?_ rfl rfl
    rw [hspeaks, decide_eq_false_iff_not]
    rintro (h | ⟨hdelta, hfull, -⟩)
    · exact htext h
    · exact hinput ⟨hdelta, hfull⟩

lemma messageDelta_steps (e : Event) (htype : e.type = "message_delta") :
    Steps model created st e (messageDelta model created st e) := by
  have hopens : opensTool e = false := by simp [opensTool, htype]
  have hspeaks : speaks (kept st) e = closes e := by
    simp [speaks, hopens, htype]
  unfold messageDelta
  split
  · rename_i hstop
    have hcloses : closes e = true := by simp [closes, htype, hstop]
    refine .speaking (hspeaks.trans hcloses) rfl (by simp [hcloses]) ?_
    simp [kept, hopens]
  · rename_i hstop
    exact .silent (by simp [hspeaks, closes, hstop]) rfl rfl

variable (model created) in
lemma parseEvent_steps (e : Event) :
    Steps model created st e (parseEvent model created st e) := by
  unfold parseEvent
  split
  · rename_i htype
    exact blockStart_steps st e htype
  rename_i hstart
  split
  · rename_i htype
    exact blockDelta_steps st e htype
  rename_i hdelta
  split
  · rename_i htype
    exact messageDelta_steps st e htype
  · rename_i hend
    exact .silent (by simp [speaks, opensTool, closes, hstart, hdelta, hend]) rfl rfl

lemma started_snoc (es : List Event) (e : Event) :
    started (es ++ [e]) = started es ++ if opensTool e then [e.index] else [] := by
  by_cases ho : opensTool e = true <;> simp [started, ho]

lemma mem_kept_parsed (es : List Event) (i : Int) :
    i ∈ kept (parsed model created es) ↔ i ∈ started es := by
  induction es using reverseRecOn with
  | nil => simp [kept, parsed, started, ParseState.start]
  | append_singleton es e ih =>
    rw [parsed_snoc, (parseEvent_steps model created _ e).keeps, ih, started_snoc]
    by_cases ho : opensTool e = true <;> simp [ho]

lemma speaks_congr {tools tools' : List Int} (h : ∀ i, i ∈ tools ↔ i ∈ tools') (e : Event) :
    speaks tools e = speaks tools' e := by
  simp [speaks, h]

variable (model created) in
lemma sends_sentAt (before : List Event) (e : Event) :
    Sends model created (started before) e (parsed model created (before ++ [e])).usage
      (sentAt model created before e) := by
  obtain ⟨sends, hout, hsends⟩ := (parseEvent_steps model created
    { parsed model created before with out := [] } e).sends
  have husage : (parsed model created (before ++ [e])).usage =
      (parseEvent model created { parsed model created before with out := [] } e).usage := by
    rw [parsed_snoc, parseEvent_usage, parseEvent_usage]
  unfold Sends at hsends ⊢
  rw [sentAt, hout, husage, ← speaks_congr (fun i => mem_kept_parsed before i) e]
  exact hsends

lemma opensTool_of_silent {tools : List Int} (hsilent : speaks tools e = false) :
    opensTool e = false := by
  simp only [speaks, Bool.or_eq_false_iff] at hsilent
  exact hsilent.1.1

variable {before : List Event}

lemma started_silent {es : List Event} (hsilent : ∀ e ∈ es, speaks (started before) e = false) :
    started (before ++ es) = started before := by
  have hnone : es.filter opensTool = [] :=
    filter_eq_nil_iff.mpr fun e he => by simp [opensTool_of_silent (hsilent e he)]
  simp [started, hnone]

lemma seen_silent (hsilent : speaks (started before) e = false) :
    (sentAt model created before e).map (reading u) = [] := by
  have hsends := sends_sentAt model created before e
  rw [Sends, if_neg (by simp [hsilent])] at hsends
  rw [hsends, map_nil]

lemma seen_speaks (hspeaks : speaks (started before) e = true) :
    ∃ delta finish, (sentAt model created before e).map (reading u) =
      [chunkEvent model created delta finish (if closes e then some u else none)] := by
  have hsends := sends_sentAt model created before e
  rw [Sends, if_pos hspeaks] at hsends
  obtain ⟨delta, finish, hsent⟩ := hsends
  refine ⟨delta, finish, ?_⟩
  rw [hsent]
  cases hcloses : closes e <;> simp [reading, chunkEvent]

lemma seen_at_once (before : List Event) (e : Event) :
    (sentAt model created before e).map (reading (parsed model created (before ++ [e])).usage) =
      sentAt model created before e := by
  have hsends := sends_sentAt model created before e
  unfold Sends at hsends
  split at hsends
  · obtain ⟨delta, finish, hsent⟩ := hsends
    rw [hsent]
    cases closes e <;> rfl
  · rw [hsends, map_nil]

lemma parseEvent_out (e : Event) : (parseEvent model created st e).out =
      st.out ++ (parseEvent model created { st with out := [] } e).out := by
  unfold parseEvent
  split
  · unfold blockStart
    split
    · simp
    · split <;> simp
  · split
    · unfold blockDelta
      split
      · simp
      split
      · dsimp only
        split <;> simp
      · simp
    · split
      · unfold messageDelta
        split <;> simp
      · simp

lemma out_snoc (before : List Event) (e : Event) : (parsed model created (before ++ [e])).out =
      (parsed model created before).out ++ sentAt model created before e := by
  rw [parsed_snoc, parseEvent_out]
  rfl

variable {seen : List StreamEvent}

lemma Sees.silent {es : List Event} (hsees : Sees model created before es seen)
    (hsilent : ∀ e ∈ es, speaks (started before) e = false) : seen = [] := by
  induction hsees with
  | nil => rfl
  | @cons before es e seen later _ _ ih =>
    have he := hsilent e mem_cons_self
    have hstarted : started (before ++ [e]) = started before :=
      started_silent (by simpa using he)
    rw [seen_silent _ he]
    refine ih ?_
    rw [hstarted]
    exact fun e' he' => hsilent e' (mem_cons_of_mem _ he')

variable (model created) in
lemma exists_sees_sent (before es : List Event) : ∃ seen, Sees model created before es seen ∧
      (parsed model created (before ++ es)).out = (parsed model created before).out ++ seen := by
  induction es generalizing before with
  | nil => exact ⟨[], .nil before, by simp⟩
  | cons e es ih =>
    obtain ⟨seen, hseen, hout⟩ := ih (before ++ [e])
    have hcons := Sees.cons [] nil_prefix hseen
    rw [seen_at_once] at hcons
    refine ⟨_, hcons, ?_⟩
    rw [← append_assoc, ← out_snoc, ← hout]
    simp

variable (model created) in
lemma exists_sees_at (before xs : List Event) (e : Event) {ys later : List Event}
    (hlater : later <+: ys) : ∃ first rest, Sees model created before (xs ++ e :: ys)
        (first ++ ((sentAt model created (before ++ xs) e).map
          (reading (parsed model created (before ++ xs ++ e :: later)).usage) ++ rest)) ∧
      Sees model created (before ++ xs ++ [e]) ys rest := by
  induction xs generalizing before with
  | nil =>
    obtain ⟨rest, hrest, -⟩ := exists_sees_sent model created (before ++ [e]) ys
    refine ⟨[], rest, ?_, by simpa using hrest⟩
    simpa using Sees.cons later hlater hrest
  | cons x xs ih =>
    obtain ⟨first, rest, hsees, hrest⟩ := ih (before ++ [x])
    have hcons := Sees.cons [] nil_prefix hsees
    rw [← append_assoc] at hcons
    simp only [append_assoc before] at hcons hrest ⊢
    exact ⟨_, rest, hcons, hrest⟩

lemma Sees.at {xs ys : List Event} (hsees : Sees model created before (xs ++ e :: ys) seen) :
    ∃ first rest later, later <+: ys ∧ seen = first ++ ((sentAt model created (before ++ xs) e).map
        (reading (parsed model created (before ++ xs ++ e :: later)).usage) ++ rest) ∧
      Sees model created (before ++ xs ++ [e]) ys rest := by
  induction xs generalizing before seen with
  | nil =>
    cases hsees with
    | @cons _ _ _ seen later hlater hrest =>
      exact ⟨[], seen, later, hlater, by simp, by simpa using hrest⟩
  | cons x xs ih =>
    cases hsees with
    | cons later hlater hrest =>
      obtain ⟨first, rest, later', hlater', hseen, hrest'⟩ := ih hrest
      subst hseen
      simp only [append_assoc] at hrest' ⊢
      exact ⟨_, rest, later', hlater', (append_assoc _ first _).symm, hrest'⟩

lemma last_speaker (before es : List Event) : (∀ e ∈ es, speaks (started before) e = false) ∨
      ∃ xs d ys, es = xs ++ d :: ys ∧ speaks (started (before ++ xs)) d = true ∧
        ∀ e ∈ ys, speaks (started (before ++ xs ++ [d])) e = false := by
  induction es using reverseRecOn with
  | nil => exact .inl (by simp)
  | append_singleton es e ih =>
    cases he : speaks (started (before ++ es)) e with
    | true => exact .inr ⟨es, e, [], rfl, he, by simp⟩
    | false =>
      rcases ih with hsilent | ⟨xs, d, ys, rfl, hd, hsilent⟩
      · refine .inl ?_
        rw [started_silent hsilent] at he
        intro e' he'
        rcases mem_append.mp he' with h | h
        · exact hsilent e' h
        · rw [mem_singleton.mp h]
          exact he
      · refine .inr ⟨xs, d, ys ++ [e], by simp, hd, ?_⟩
        have hstarted := started_silent hsilent
        simp only [append_assoc, singleton_append] at hstarted he hsilent ⊢
        rw [hstarted] at he
        intro e' he'
        rcases mem_append.mp he' with h | h
        · exact hsilent e' h
        · rw [mem_singleton.mp h]
          exact he

lemma Sees.chunk {es : List Event} (hsees : Sees model created before es seen) {evt : StreamEvent}
    (hevt : evt ∈ seen) : ∃ delta finish usage, evt = chunkEvent model created delta finish usage ∧
      ∀ u ∈ usage, ∃ n, u = { Usage.zero with completionTokens := n } := by
  induction hsees with
  | nil => cases hevt
  | @cons before es e seen later _ _ ih =>
    rcases mem_append.mp hevt with hhere | hrest
    · cases he : speaks (started before) e with
      | false =>
        rw [seen_silent _ he] at hhere
        cases hhere
      | true =>
        obtain ⟨delta, finish, hseen⟩ := seen_speaks
          (parsed model created (before ++ e :: later)).usage he
        rw [hseen] at hhere
        refine ⟨delta, finish, _, mem_singleton.mp hhere, ?_⟩
        intro u hu
        rw [parsed_usage] at hu
        cases hcloses : closes e <;> simp [hcloses] at hu
        exact ⟨_, hu.symm⟩
    · exact ih hrest

end

def LastUsage (seen : List StreamEvent) (i o : Int) : Prop :=
  ∃ c u, (chunksOf seen).getLast? = some c ∧ c.usage = some u ∧
    u.promptTokens = i ∧ u.completionTokens = o

def ClosedWith (es : List Event) (o : Int) : Prop :=
  ∃ before d after, es = before ++ d :: after ∧ closes d = true ∧
    (∀ e ∈ after, speaks (started before) e = false) ∧
    completed (before ++ [d]) = o ∧ ∀ n ∈ positiveOutputs after, n = o

variable {d : Event}

lemma speaks_of_closes {tools : List Int} (hd : closes d = true) : speaks tools d = true := by
  simp [speaks, hd]

lemma started_closes {before : List Event} (hd : closes d = true) :
    started (before ++ [d]) = started before := by
  have hopens : opensTool d = false := by
    simp only [closes, decide_eq_true_eq] at hd
    simp [opensTool, hd.1]
  simp [started_snoc, hopens]

lemma mem_positiveOutputs {es : List Event} {n : Int} (hn : n ∈ positiveOutputs es) :
    ∃ later, later <+: es ∧ ∀ before, completed (before ++ later) = n := by
  obtain ⟨hmem, hpos⟩ := mem_filter.mp hn
  obtain ⟨e, he, hreport⟩ := mem_filterMap.mp hmem
  obtain ⟨xs, ys, rfl⟩ := append_of_mem he
  refine ⟨xs ++ [e], ⟨ys, by simp⟩, ?_⟩
  intro before
  have hlast : positiveOutputs [e] = [n] := by
    simpa [positiveOutputs, hreport] using hpos
  rw [← append_assoc, completed_append, hlast]
  rfl

lemma completed_later_iff {before after : List Event} {o : Int} :
    (∀ later, later <+: after → completed (before ++ d :: later) = o) ↔
      completed (before ++ [d]) = o ∧ ∀ n ∈ positiveOutputs after, n = o := by
  have hsplit : ∀ later, before ++ d :: later = before ++ [d] ++ later := by simp
  constructor
  · intro hlater
    refine ⟨hlater [] nil_prefix, ?_⟩
    intro n hn
    obtain ⟨later, hpre, hlast⟩ := mem_positiveOutputs hn
    rw [← hlater later hpre, hsplit, hlast]
  · rintro ⟨hnow, hall⟩ later ⟨rest, rfl⟩
    rw [hsplit, completed_append, hnow]
    have hsame : ∀ n ∈ positiveOutputs later, n = o := by
      intro n hn
      refine hall n ?_
      rw [positiveOutputs_append]
      exact mem_append_left _ hn
    rw [getLastD_eq_getLast?]
    cases hlast : (positiveOutputs later).getLast? with
    | none => rfl
    | some n => exact hsame n (mem_of_getLast? hlast)

section
variable {model : String} {created : Int} {es : List Event} {i o : Int}
variable {before : List Event}

lemma lastUsage_iff {later : List Event} {d : Event} (first : List StreamEvent)
    (hd : speaks (started before) d = true) :
    LastUsage (first ++ ((sentAt model created before d).map
        (reading (parsed model created (before ++ d :: later)).usage) ++ [])) i o ↔
      closes d = true ∧ i = 0 ∧ completed (before ++ d :: later) = o := by
  obtain ⟨delta, finish, hseen⟩ := seen_speaks
    (parsed model created (before ++ d :: later)).usage hd
  rw [hseen, parsed_usage]
  cases hcloses : closes d with
  | false => simp [LastUsage, chunksOf, chunkEvent]
  | true => simp [LastUsage, chunksOf, chunkEvent, Usage.zero, eq_comm]

lemma forall_lastUsage_iff : (∀ seen, Sees model created [] es seen → LastUsage seen i o) ↔
      i = 0 ∧ ClosedWith es o := by
  constructor
  · intro hall
    rcases last_speaker [] es with hsilent | ⟨before, d, after, rfl, hd, hsilent⟩
    · -- nothing is sent at all
      obtain ⟨seen, hseen, -⟩ := exists_sees_sent model created [] es
      obtain ⟨c, u, hlast, -⟩ := hall seen hseen
      rw [hseen.silent hsilent] at hlast
      cases hlast
    · have hread : ∀ later, later <+: after →
          closes d = true ∧ i = 0 ∧ completed (before ++ d :: later) = o := by
        intro later hlater
        obtain ⟨first, rest, hsees, hrest⟩ := exists_sees_at model created [] before d hlater
        rw [hrest.silent hsilent] at hsees
        exact (lastUsage_iff first hd).mp (hall _ hsees)
      obtain ⟨hcloses, hi, -⟩ := hread [] nil_prefix
      rw [started_closes hcloses] at hsilent
      obtain ⟨hnow, hlater⟩ := completed_later_iff.mp fun later h => (hread later h).2.2
      exact ⟨hi, before, d, after, rfl, hcloses, hsilent, hnow, hlater⟩
  · rintro ⟨hi, before, d, after, rfl, hcloses, hsilent, hnow, hlater⟩ seen hsees
    obtain ⟨first, rest, later, hpre, rfl, hrest⟩ := hsees.at
    have hsilent' : ∀ e ∈ after, speaks (started ([] ++ before ++ [d])) e = false := by
      rw [started_closes hcloses]
      exact hsilent
    rw [hrest.silent hsilent']
    exact (lastUsage_iff first (speaks_of_closes hcloses)).mpr
      ⟨hcloses, hi, completed_later_iff.mpr ⟨hnow, hlater⟩ later hpre⟩

lemma resolveCostUSD_counts (requestModel responseModel : String) {u : Usage}
    (hprompt : u.promptTokenDetails = none) (hcompletion : u.completionTokenDetails = none) :
    resolveCostUSD 0 requestModel responseModel (some u) =
      costUSD requestModel responseModel u.promptTokens u.completionTokens := by
  rw [resolveCostUSD_table (lt_irrefl 0)]
  simp [tableCostUSD, hprompt, hcompletion, PromptTokenDetails.hasDetail,
    CompletionTokenDetails.hasDetail]

lemma billed_message (cand : Candidate) (ar : AnthropicResponse) (created' : Int) :
    billed [(cand, toOpenAI ar created')] =
      ⟨costUSD cand.model ar.model ar.inputTokens ar.outputTokens, ar.inputTokens,
        ar.outputTokens⟩ := by
  have hcost : answerCost (cand, toOpenAI ar created') =
      costUSD cand.model ar.model ar.inputTokens ar.outputTokens := by
    rfl
  simp only [billed, metered, filter_nil, getLast?_singleton, map_some,
    getD_some, hcost, map_cons, map_nil, promptTokens_cons, promptTokens_nil,
    completionTokens_cons, completionTokens_nil, add_zero]
  rfl

lemma streamBill_seen {seen : List StreamEvent} {last : StreamEvent}
    (hsees : Sees model created before es seen) (hlast : last.chunk = none)
    (husage : LastUsage seen i o) (requestModel : String) :
    streamBill requestModel (seen ++ [last]) = ⟨costUSD requestModel model i o, i, o⟩ := by
  obtain ⟨c, u, hchunk, hsome, hi, ho⟩ := husage
  have hchunks : chunks (seen ++ [last]) = chunksOf seen := by
    simp [chunks, chunksOf, hlast]
  have hmem : ∀ c ∈ chunksOf seen, c.model = model ∧
      ∀ u ∈ c.usage, ∃ n, u = { Usage.zero with completionTokens := n } := by
    intro c hc
    obtain ⟨evt, hevt, hsent⟩ := mem_filterMap.mp hc
    obtain ⟨delta, finish, usage, rfl, hu⟩ := hsees.chunk hevt
    obtain rfl := some.inj hsent
    exact ⟨rfl, hu⟩
  obtain ⟨init, hinit⟩ : ∃ init, chunksOf seen = init ++ [c] :=
    (getLast?_eq_some_iff).mp hchunk
  have husages : (usages (seen ++ [last])).getLast? = some u := by
    simp [usages, hchunks, hinit, hsome]
  have hestimates : estimates (seen ++ [last]) = [] := by
    refine filter_eq_nil_iff.mpr ?_
    intro cost hcost
    obtain ⟨u', hu', rfl⟩ := mem_map.mp hcost
    rw [usages, hchunks] at hu'
    obtain ⟨c', hc', hsome'⟩ := mem_filterMap.mp hu'
    obtain ⟨n, rfl⟩ := (hmem c' hc').2 u' hsome'
    simp [Usage.zero]
  have hmodel : streamModel (seen ++ [last]) = model := by
    have hc := (hmem c (by simp [hinit])).1
    have hall : ∀ c' ∈ init, c'.model = model := fun c' hc' => (hmem c' (by simp [hinit, hc'])).1
    rw [streamModel, models, hchunks, hinit, map_append, filter_append]
    by_cases hempty : model = ""
    · have hnone : (init.map ChatCompletionChunk.model).filter (· ≠ "") = [] := by
        simpa [filter_eq_nil_iff] using fun c' hc' => (hall c' hc').trans hempty
      rw [hnone]
      simp [hc, hempty]
    · simp [hc, hempty]
  obtain ⟨n, rfl⟩ := (hmem c (by simp [hinit])).2 u hsome
  rw [streamBill, chatCharge, husages, hestimates, hmodel]
  simp only [getLastD_nil, map_some, getD_some]
  rw [resolveCostUSD_counts _ _ rfl rfl, ← hi, ← ho]

def BilledAsUnary (model : String) (seen : List StreamEvent) (i o : Int) : Prop :=
  ∀ (h : Handler) (ctx : Ctx) (flusher : Bool) (chain : List String)
    (req : ChatCompletionRequest) (start : Int) (log : List GEvent) (reply : Reply ChatBody)
    (cand : Candidate) (s : UpstreamStream) (last : StreamEvent) (ar : AnthropicResponse)
    (created : Int),
    (handleStream h ctx flusher chain req start).Runs log reply → opened log = [(cand, s)] →
    s.events = seen ++ [last] → last.chunk = none →
    ar.model = model → ar.inputTokens = i → ar.outputTokens = o →
    Written h ctx (billed [(cand, toOpenAI ar created)]) log reply

lemma Sees.billedAsUnary {seen : List StreamEvent} (hsees : Sees model created before es seen)
    (husage : LastUsage seen i o) : BilledAsUnary model seen i o := by
  intro h ctx flusher chain req start log reply cand s last ar created' hrun hopened hevents hlast
    hmodel hi ho
  have hwritten := (handleStream_written hrun hopened).1
  rw [hevents, streamBill_seen hsees hlast husage cand.model] at hwritten
  rw [billed_message, hmodel, hi, ho]
  exact hwritten

end

def UsageComplete (model : String) (created : Int) (es : List Event) : Prop :=
  ∀ i ∈ lastInput es, ∀ o ∈ lastOutput es, ∀ seen, Sees model created [] es seen →
    LastUsage seen i o ∧ BilledAsUnary model seen i o

theorem anthropic_usage_complete_iff (model : String) (created : Int)
    (decode : String → Option Event) (lines : List String)
    (hin : (lastInput (beforeStop (eventsOf decode lines))).isSome)
    (hout : (lastOutput (beforeStop (eventsOf decode lines))).isSome) :
    UsageComplete model created (beforeStop (eventsOf decode lines)) ↔
      lastInput (beforeStop (eventsOf decode lines)) = some 0 ∧
        ∃ o ∈ lastOutput (beforeStop (eventsOf decode lines)),
          ClosedWith (beforeStop (eventsOf decode lines)) o := by
  obtain ⟨i, hi⟩ := isSome_iff_exists.mp hin
  obtain ⟨o, ho⟩ := isSome_iff_exists.mp hout
  have hlast : (∀ seen, Sees model created [] (beforeStop (eventsOf decode lines)) seen →
      LastUsage seen i o) ↔ i = 0 ∧ ClosedWith (beforeStop (eventsOf decode lines)) o :=
    forall_lastUsage_iff
  rw [UsageComplete, hi, ho]
  simp only [mem_some_iff, forall_eq', exists_eq_left', some.injEq]
  rw [← hlast]
  constructor
  · intro hall seen hsees
    exact (hall seen hsees).1
  · intro hall seen hsees
    exact ⟨hall seen hsees, hsees.billedAsUnary (hall seen hsees)⟩

def usagePayloads (input : String) (n : Int) : List (String × Event) :=
  [onWire { bare "message_start" with messageUsage := ⟨some n, none⟩ } (",\"message\":" ++
      object ("\"usage\":" ++ object ("\"input_tokens\":" ++ input))),
    onWire { bare "message_delta" with
        delta := ⟨"", "", "end_turn", ""⟩, usage := ⟨none, some 15⟩ }
      (",\"delta\":" ++ object "\"stop_reason\":\"end_turn\"" ++ ",\"usage\":" ++
        object "\"output_tokens\":15"),
    onWire (bare "message_stop") ""]

def counting : String → Option Event :=
  decodeAmong (usagePayloads "0" 0 ++ usagePayloads "25" 25)

def freeLines : List String := wire (usagePayloads "0" 0)

lemma eventsOf_freeLines : eventsOf counting freeLines = (usagePayloads "0" 0).map (·.2) :=
  filterMap_wire (by decide +kernel)

def readLines : List String := wire (usagePayloads "25" 25)

lemma eventsOf_readLines : eventsOf counting readLines = (usagePayloads "25" 25).map (·.2) :=
  filterMap_wire (by decide +kernel)

theorem anthropic_usage_complete_free :
    (lastInput (beforeStop (eventsOf counting freeLines))).isSome ∧
      (lastOutput (beforeStop (eventsOf counting freeLines))).isSome ∧
      UsageComplete "claude-sonnet-4-5" 0 (beforeStop (eventsOf counting freeLines)) := by
  have hin : (lastInput (beforeStop (eventsOf counting freeLines))).isSome := by
    rw [eventsOf_freeLines]
    decide
  have hout : (lastOutput (beforeStop (eventsOf counting freeLines))).isSome := by
    rw [eventsOf_freeLines]
    decide
  refine ⟨hin, hout, (anthropic_usage_complete_iff _ _ _ _ hin hout).mpr ?_⟩
  rw [eventsOf_freeLines]
  exact ⟨by decide, 15, by decide, [_], _, [], rfl, by decide, by simp, by decide,
    by simp [positiveOutputs]⟩

theorem anthropic_input_lost : lastInput (beforeStop (eventsOf counting readLines)) = some 25 ∧
      lastOutput (beforeStop (eventsOf counting readLines)) = some 15 ∧
      (chunksOf (parseSSE "claude-sonnet-4-5" 0 counting readLines none)).map (fun c =>
        c.usage.map fun u => (u.promptTokens, u.completionTokens)) = [some (0, 15)] ∧
      ¬ UsageComplete "claude-sonnet-4-5" 0 (beforeStop (eventsOf counting readLines)) := by
  have hin : lastInput (beforeStop (eventsOf counting readLines)) = some 25 := by
    rw [eventsOf_readLines]
    decide
  have hout : lastOutput (beforeStop (eventsOf counting readLines)) = some 15 := by
    rw [eventsOf_readLines]
    decide
  have hsent : (chunksOf (parseSSE "claude-sonnet-4-5" 0 counting readLines none)).map (fun c =>
      c.usage.map fun u => (u.promptTokens, u.completionTokens)) = [some (0, 15)] := by
    simp only [parseSSE, eventsOf_readLines]
    decide
  refine ⟨hin, hout, hsent, ?_⟩
  intro hcomplete
  have hlast := forall_lastUsage_iff.mp fun seen hsees => (hcomplete 25 hin 15 hout seen hsees).1
  exact absurd hlast.1 (by decide)

end FfxNexus.Adapters.Anthropic
