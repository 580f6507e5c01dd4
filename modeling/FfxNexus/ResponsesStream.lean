/-
**A Responses stream** (`internal/gateway/responses.go`, `handleResponsesStream`) is to tell its
items apart by `output_index`, to add each of them once before it is fed and to close it once after,
and to end with everything the provider delivered for it.
-/
import FfxNexus.MessagesStream
import FfxNexus.ResponseItems

namespace FfxNexus.ResponsesStream
open Interaction Schema Gateway Translated Effects BlockProtocol BlockSlots List Spend
open ResponseItems ResponsesState
open Interaction.Prog hiding perform
open MessagesStream (delivered delivered_append delivered_idle delivered_opens streamOf saying
  calling)
open Dispatch (answering caller meteredHandler plainRequest)

def choiceFragments (dc : ChunkChoice) : List Fragment :=
  .text dc.delta.content :: dc.delta.toolCalls.map .call

def fragments : List StreamEvent → List Fragment
  | [] => []
  | evt :: events =>
    if evt.done then []
    else ((evt.chunk.map ChatCompletionChunk.choices).getD []).flatMap choiceFragments ++
      fragments events

def mark? : ResponsesEvent → Option (Mark String Kind)
  | .messageAdded id => some (.start id .text)
  | .textDelta id _ => some (.delta id .text)
  | .toolAdded item => some (.start item.itemID .tool)
  | .argumentsDelta id _ _ => some (.delta id .tool)
  | .messageDone id _ _ => some (.stop id)
  | .toolDone item _ => some (.stop item.itemID)
  | _ => none

def places : ResponsesEvent → List (String × Int)
  | .messageAdded id => [(id, 0)]
  | .textDelta id _ => [(id, 0)]
  | .toolAdded item => [(item.itemID, item.offset)]
  | .argumentsDelta id offset _ => [(id, offset)]
  | .textDone id _ => [(id, 0)]
  | .messageDone id _ _ => [(id, 0)]
  | .argumentsDone item _ => [(item.itemID, item.offset)]
  | .toolDone item _ => [(item.itemID, item.offset)]
  | .completed _ _ _ tools _ _ => tools.map fun item => (item.itemID, item.offset)
  | _ => []

def createdID? : ResponsesEvent → Option String
  | .created id _ _ => some id
  | _ => none

def Holds (suffix : String) (fs : List Fragment) (item : ToolItem) : Prop :=
  ∃ kind idx, item.itemID = toolID kind suffix idx ∧ item.arguments = inputOf fs idx

def Carries (suffix : String) (fs : List Fragment) : ResponsesEvent → Prop
  | .textDone _ text => text = contentOf fs
  | .messageDone _ text _ => text = contentOf fs
  | .argumentsDone item _ => Holds suffix fs item
  | .toolDone item _ => Holds suffix fs item
  | .completed _ _ text tools _ _ => text.getD "" = contentOf fs ∧
      (∀ item ∈ tools, Holds suffix fs item) ∧
      ∀ idx, called fs idx = true → ∃ item ∈ tools, ∃ kind, item.itemID = toolID kind suffix idx
  | _ => True

structure WellFormedAs (suffix : String) (fs : List Fragment) (events : List ResponsesEvent) :
    Prop where
  announced : events.filterMap createdID? = ["resp_" ++ suffix]
  distinct : ∀ a i b j, (a, i) ∈ events.flatMap places → (b, j) ∈ events.flatMap places →
    a ≠ b → i ≠ j
  protocol : Valid (events.filterMap mark?)
  carries : ∀ e ∈ events, Carries suffix fs e

def WellFormed (fs : List Fragment) (events : List ResponsesEvent) : Prop :=
  ∃ suffix, WellFormedAs suffix fs events

def itemOf (item : ToolItem) : Item := ⟨item.itemID, item.offset, item.arguments⟩

def itemsOf (st : ResponsesState) : Items where
  text := st.text
  tools := st.tools.map fun e => (e.1, itemOf e.2)
  marks := st.out.filterMap mark?
  places := st.out.flatMap places

variable {st st' : ResponsesState} {r : ResponsesRelay} {tc : ToolCall}

section
variable {suffix respID model : String} {start : Int} {log : List GEvent}

lemma textDelta_items (st : ResponsesState) (delta : String) :
    itemsOf (st.textDelta ("msg_" ++ suffix) delta) = (itemsOf st).say suffix delta := by
  by_cases hdelta : delta = ""
  · simp [textDelta, Items.say, hdelta]
  by_cases htext : st.text = none
  · have hview : (itemsOf st).text = none := htext
    simp only [textDelta, Items.say, if_neg hdelta, if_pos htext, if_pos hview]
    simp only [itemsOf, filterMap_append, flatMap_append]
    rfl
  · have hview : ¬ (itemsOf st).text = none := htext
    simp only [textDelta, Items.say, if_neg hdelta, if_neg htext, if_neg hview]
    simp only [itemsOf, filterMap_append, flatMap_append]
    rfl

lemma setTool_map {τ υ : Type} (f : τ → υ) (tools : List (Int × τ)) (idx : Int) (item : τ) :
    (setTool tools idx item).map (fun e => (e.1, f e.2)) =
      setTool (tools.map fun e => (e.1, f e.2)) idx (f item) := by
  unfold setTool
  rw [map_map, map_map]
  refine map_congr_left ?_
  intro e _
  by_cases hidx : e.1 = idx
  · simp [hidx]
  · simp [hidx]

lemma argumentsDelta_items (st : ResponsesState) (idx : Int) (item : ToolItem) (delta : String) :
    itemsOf (st.argumentsDelta idx item delta).1 = ((itemsOf st).feed idx (itemOf item) delta).1 ∧
      itemOf (st.argumentsDelta idx item delta).2 =
        ((itemsOf st).feed idx (itemOf item) delta).2 := by
  by_cases hdelta : delta = ""
  · simp [argumentsDelta, Items.feed, hdelta]
  refine ⟨?_, ?_⟩
  · simp only [argumentsDelta, Items.feed, if_neg hdelta, itemsOf, setTool_map,
      filterMap_append, flatMap_append]
    rfl
  · simp only [argumentsDelta, Items.feed, if_neg hdelta]
    rfl

lemma newToolItem_item {st : ResponsesState} {idx : Int} {item : ToolItem}
    (hrun : (newToolItem suffix st idx tc).Runs log item) : itemOf item =
      ⟨toolID (kindOf tc) suffix idx, if st.text.isSome then idx + 1 else idx, ""⟩ := by
  unfold newToolItem at hrun
  dsimp only at hrun
  split at hrun
  · obtain ⟨-, rfl⟩ := hrun.done
    rfl
  · obtain ⟨id, -, rfl⟩ := hrun.map
    rfl

lemma responsesToolItem_items {st : ResponsesState} {idx : Int}
    {x : ResponsesState × ToolItem} (hkeys : ((itemsOf st).shape.map Prod.fst).Nodup)
    (hrun : (responsesToolItem suffix st idx tc).Runs log x) :
    itemsOf x.1 = ((itemsOf st).openTool suffix (kindOf tc) idx).1 ∧
      itemOf x.2 = ((itemsOf st).openTool suffix (kindOf tc) idx).2 := by
  have hlook : (itemsOf st).tools.lookup idx = (st.tools.lookup idx).map itemOf :=
    lookup_map_snd itemOf st.tools idx
  unfold responsesToolItem at hrun
  split at hrun
  · rename_i hnone
    rw [hnone] at hlook
    obtain ⟨item, hitem, rfl⟩ := hrun.map
    have hnew := newToolItem_item hitem
    simp only [Items.openTool, hlook]
    refine ⟨?_, hnew⟩
    have hid : item.itemID = toolID (kindOf tc) suffix idx := congrArg Item.id hnew
    have hoffset : item.offset = if st.text.isSome then idx + 1 else idx :=
      congrArg Item.offset hnew
    simp only [itemsOf, map_append, filterMap_append, flatMap_append]
    simp only [map_cons, map_nil, filterMap_cons, filterMap_nil,
      flatMap_cons, flatMap_nil, mark?, places, hnew, hid, hoffset, append_nil]
    rfl
  · rename_i item hsome
    rw [hsome] at hlook
    obtain ⟨-, rfl⟩ := hrun.done
    have hkeys' : (st.tools.map Prod.fst).Nodup := by
      simpa [Items.shape, itemsOf, Function.comp_def] using hkeys
    have hkept := map_setTool itemOf (item.refresh tc) hkeys' (Go.mem_of_lookup hsome) rfl
    simp only [Items.openTool, hlook, Option.map_some]
    refine ⟨?_, rfl⟩
    simp only [itemsOf, hkept]

lemma responsesToolCall_items
    (hst : Tracked suffix (itemsOf st)) (hrun : (responsesToolCall suffix st tc).Runs log st') :
    itemsOf st' = (itemsOf st).call suffix tc := by
  obtain ⟨opened, hitem, rfl⟩ := hrun.map
  obtain ⟨hopen, hopen'⟩ := responsesToolItem_items hst.keys hitem
  obtain ⟨hfed, hfed'⟩ := argumentsDelta_items opened.1 (tc.index.getD 0) opened.2
    tc.functionArguments
  rw [hopen, hopen'] at hfed hfed'
  have hlast := (argumentsDelta_items (opened.1.argumentsDelta (tc.index.getD 0) opened.2
    tc.functionArguments).1 (tc.index.getD 0) (opened.1.argumentsDelta (tc.index.getD 0) opened.2
    tc.functionArguments).2 (customPart tc)).1
  rw [hfed, hfed'] at hlast
  exact hlast

lemma responsesChoice_items {dc : ChunkChoice}
    (hst : Tracked suffix (itemsOf st)) (hrun : (responsesChoice suffix st dc).Runs log st') :
    itemsOf st' = (choiceFragments dc).foldl (Items.next suffix) (itemsOf st) := by
  obtain ⟨st1, htools, rfl⟩ := hrun.map
  have htext : itemsOf (st.textDelta ("msg_" ++ suffix) dc.delta.content) =
      (itemsOf st).say suffix dc.delta.content := textDelta_items st _
  have hsaid : Tracked suffix (itemsOf (st.textDelta ("msg_" ++ suffix) dc.delta.content)) := by
    rw [htext]
    exact hst.say _
  have hfold := foldProg_view itemsOf (fun b tc => b.next suffix (.call tc)) (Tracked suffix)
    (fun b tc hb => hb.next _)
    (fun _ _ _ _ hb h => responsesToolCall_items hb h) hsaid htools
  rw [choiceFragments, foldl_cons, foldl_map]
  rw [htext] at hfold
  exact hfold

lemma Tracked.foldl {b : Items} (hb : Tracked suffix b) (fs : List Fragment) :
    Tracked suffix (fs.foldl (Items.next suffix) b) := by
  induction fs generalizing b with
  | nil => exact hb
  | cons f fs ih => exact ih (hb.next f)

lemma responsesChunk_items {r' : ResponsesRelay} {c : ChatCompletionChunk}
    (hr : Tracked suffix (itemsOf r.st)) (hrun : (responsesChunk suffix start r c).Runs log r') :
    itemsOf r'.st = (c.choices.flatMap choiceFragments).foldl (Items.next suffix)
      (itemsOf r.st) := by
  obtain ⟨_, ms, _, -, -, hrun1⟩ := hrun.split
  obtain ⟨st, hchoices, rfl⟩ := hrun1.map
  rw [foldl_flatMap]
  exact foldProg_view itemsOf
    (fun b dc => (choiceFragments dc).foldl (Items.next suffix) b) (Tracked suffix)
    (fun b dc hb => Tracked.foldl hb _) (fun _ _ _ _ hb h => responsesChoice_items hb h)
    (s := { r.st with usage := c.usage.or r.st.usage }) hr hchoices

lemma responsesEvents_items {events : List StreamEvent}
    {x : ResponsesRelay × Bool} (hr : Tracked suffix (itemsOf r.st))
    (hok : failed events = false)
    (hrun : (responsesEvents respID model suffix start events r).Runs log x) :
    itemsOf x.1.st = (fragments events).foldl (Items.next suffix) (itemsOf r.st) ∧ x.2 = false := by
  induction events generalizing r log with
  | nil =>
    obtain ⟨-, rfl⟩ := hrun.done
    exact ⟨rfl, rfl⟩
  | cons evt events ih =>
    unfold responsesEvents at hrun
    split at hrun
    · rename_i err herr
      simp [failed, herr] at hok
    rename_i hfine
    rw [failed_cons events hfine] at hok
    split at hrun
    · rename_i hdone
      obtain ⟨-, rfl⟩ := hrun.done
      simp [fragments, hdone]
    rename_i hgoes
    split at hrun
    · rename_i hnone
      have hfs : fragments (evt :: events) = fragments events := by
        simp [fragments, hgoes, hnone]
      rw [hfs]
      exact ih hr hok hrun
    · rename_i c hsome
      obtain ⟨_, r1, _, -, hchunk, hrest⟩ := hrun.split
      have hitems := responsesChunk_items hr hchunk
      have hfs : fragments (evt :: events) =
          c.choices.flatMap choiceFragments ++ fragments events := by
        simp [fragments, hgoes, hsome]
      rw [hfs, foldl_append, ← hitems]
      exact ih (hitems ▸ Tracked.foldl hr _) hok hrest

def feedsItem : ResponsesEvent → Bool
  | .messageAdded _ => true
  | .textDelta _ _ => true
  | .toolAdded _ => true
  | .argumentsDelta _ _ _ => true
  | _ => false

def envelope (st : ResponsesState) : List ResponsesEvent := st.out.filter fun e => !feedsItem e

lemma textDelta_envelope (st : ResponsesState) (msgID delta : String) :
    envelope (st.textDelta msgID delta) = envelope st := by
  unfold textDelta envelope
  split
  · rfl
  · cases st.text <;> simp [feedsItem]

lemma argumentsDelta_envelope (st : ResponsesState) (idx : Int) (item : ToolItem)
    (delta : String) : envelope (st.argumentsDelta idx item delta).1 = envelope st := by
  unfold argumentsDelta envelope
  split
  · rfl
  · simp [feedsItem]

lemma responsesToolCall_envelope
    (hrun : (responsesToolCall suffix st tc).Runs log st') : envelope st' = envelope st := by
  obtain ⟨opened, hitem, rfl⟩ := hrun.map
  rw [argumentsDelta_envelope, argumentsDelta_envelope]
  unfold responsesToolItem at hitem
  split at hitem
  · obtain ⟨item, -, rfl⟩ := hitem.map
    simp [envelope, feedsItem]
  · obtain ⟨-, rfl⟩ := hitem.done
    rfl

lemma responsesChoice_envelope {dc : ChunkChoice}
    (hrun : (responsesChoice suffix st dc).Runs log st') : envelope st' = envelope st := by
  obtain ⟨st1, htools, rfl⟩ := hrun.map
  exact (foldProg_keeps (g := envelope) responsesToolCall_envelope htools).trans
    (textDelta_envelope ..)

lemma responsesEvents_envelope {events : List StreamEvent}
    {x : ResponsesRelay × Bool} (hok : failed events = false)
    (hrun : (responsesEvents respID model suffix start events r).Runs log x) :
    envelope x.1.st = envelope r.st := by
  induction events generalizing r log with
  | nil =>
    obtain ⟨-, rfl⟩ := hrun.done
    rfl
  | cons evt events ih =>
    unfold responsesEvents at hrun
    split at hrun
    · rename_i err herr
      simp [failed, herr] at hok
    rename_i hfine
    rw [failed_cons events hfine] at hok
    split at hrun
    · obtain ⟨-, rfl⟩ := hrun.done
      rfl
    split at hrun
    · exact ih hok hrun
    obtain ⟨_, r1, _, -, hchunk, hrest⟩ := hrun.split
    obtain ⟨_, ms, _, -, -, hrun1⟩ := hchunk.split
    obtain ⟨st, hchoices, rfl⟩ := hrun1.map
    have hkept := foldProg_keeps (g := envelope) responsesChoice_envelope hchoices
    exact (ih hok hrest).trans hkept

end

structure Written (suffix : String) (fs : List Fragment) (st : ResponsesState) : Prop where
  items : itemsOf st = (items suffix).run .start fs
  announced : ∃ model createdAt, envelope st = [.created ("resp_" ++ suffix) model createdAt]

section
variable {suffix model : String} {fs : List Fragment} {st : ResponsesState} {cost : ℚ}
variable {status : FinalStatus}

def whole (suffix model : String) (st : ResponsesState) (cost : ℚ) (status : FinalStatus) :
    List ResponsesEvent :=
  st.out ++ closingEvents ("resp_" ++ suffix) model suffix st cost status

lemma mem_closingEvents (hfilter : st.text.filter (· ≠ "") = st.text) {respID : String}
    {e : ResponsesEvent} : e ∈ closingEvents respID model suffix st cost status ↔
      (∃ t, st.text = some t ∧
        (e = .textDone (msgID suffix) t ∨ e = .messageDone (msgID suffix) t status)) ∨
      (∃ x ∈ st.tools, e = .argumentsDone x.2 status ∨ e = .toolDone x.2 status) ∨
      e = .completed respID model st.text (st.tools.map Prod.snd) (st.usage.map fun u =>
        ⟨u.promptTokens, u.completionTokens, u.totalTokens, cost⟩) status := by
  unfold closingEvents
  simp only [hfilter, mem_append, mem_flatMap, mem_map, mem_singleton, or_assoc]
  refine or_congr ?_ (or_congr_left ?_)
  · cases st.text with
    | none => simp
    | some t => simp [msgID]
  constructor
  · rintro ⟨item, ⟨x, hx, rfl⟩, he⟩
    exact ⟨x, hx, by simpa using he⟩
  · rintro ⟨x, hx, he⟩
    exact ⟨x.2, ⟨x, hx, rfl⟩, by simpa using he⟩

lemma mem_owned {p : String × Int} : p ∈ (itemsOf st).owned suffix ↔
    (st.text.isSome = true ∧ p = (msgID suffix, 0)) ∨
      ∃ x ∈ st.tools, p = (x.2.itemID, x.2.offset) := by
  have hshape : (itemsOf st).shape.map Prod.snd =
      st.tools.map fun x => (x.2.itemID, x.2.offset) := by
    simp [Items.shape, itemsOf, itemOf]
  rw [Items.owned, hshape, mem_append, mem_map]
  refine or_congr ?_ ?_
  · obtain ⟨text, tools, usage, finish, out⟩ := st
    cases text with
    | none => simp [itemsOf]
    | some t => simp [itemsOf]
  · constructor
    · rintro ⟨x, hx, rfl⟩
      exact ⟨x, hx, rfl⟩
    · rintro ⟨x, hx, rfl⟩
      exact ⟨x, hx, rfl⟩

variable (hst : Written suffix fs st)
include hst

lemma Written.tracked : Tracked suffix (itemsOf st) :=
  hst.items ▸ tracked_run suffix fs

lemma Written.text : st.text = if contentOf fs = "" then none else some (contentOf fs) := by
  have htext := text_run suffix fs
  rw [← hst.items] at htext
  exact htext

lemma Written.text_filter : st.text.filter (· ≠ "") = st.text := by
  rw [hst.text]
  split_ifs with hnone
  · rfl
  · simp [hnone]

lemma Written.marks : (whole suffix model st cost status).filterMap mark? =
      (itemsOf st).marks ++ (((itemsOf st).opened suffix).map Prod.fst).map .stop := by
  have hfilter := hst.text_filter
  have htools : ((st.tools.map Prod.snd).flatMap fun item =>
      [ResponsesEvent.argumentsDone item status, .toolDone item status]).filterMap mark? =
        st.tools.map fun e => .stop e.2.itemID := by
    induction st.tools with
    | nil => rfl
    | cons e tools ih =>
      simp only [map_cons, flatMap_cons, filterMap_append, ih]
      rfl
  unfold whole closingEvents
  simp only [hfilter, filterMap_append, htools]
  obtain ⟨text, tools, usage, finish, out⟩ := st
  cases text with
  | none => simp [Items.opened, Items.shape, itemsOf, mark?, itemOf, Function.comp_def]
  | some t =>
    simp [Items.opened, Items.shape, itemsOf, mark?, itemOf, Function.comp_def, msgID,
      filterMap_cons]

lemma Written.mem_places {p : String × Int} :
    p ∈ (whole suffix model st cost status).flatMap places ↔ p ∈ (itemsOf st).owned suffix := by
  rw [whole, flatMap_append, mem_append, mem_flatMap (l := closingEvents ..)]
  simp only [mem_closingEvents hst.text_filter, mem_owned]
  constructor
  · rintro (hout | ⟨e, he, hp⟩)
    · exact mem_owned.mp (hst.tracked.places p hout)
    rcases he with ⟨t, htext, rfl | rfl⟩ | ⟨x, hx, rfl | rfl⟩ | rfl
    · exact .inl ⟨by simp [htext], mem_singleton.mp hp⟩
    · exact .inl ⟨by simp [htext], mem_singleton.mp hp⟩
    · exact .inr ⟨x, hx, mem_singleton.mp hp⟩
    · exact .inr ⟨x, hx, mem_singleton.mp hp⟩
    · simp only [places, map_map, mem_map] at hp
      obtain ⟨x, hx, rfl⟩ := hp
      exact .inr ⟨x, hx, rfl⟩
  · rintro (⟨hsome, rfl⟩ | ⟨x, hx, rfl⟩)
    · obtain ⟨t, htext⟩ := Option.isSome_iff_exists.mp hsome
      exact .inr ⟨_, .inl ⟨t, htext, .inl rfl⟩, mem_cons_self⟩
    · exact .inr ⟨_, .inr (.inl ⟨x, hx, .inl rfl⟩), mem_cons_self⟩

lemma Written.protocol : Valid ((whole suffix model st cost status).filterMap mark?) := by
  have htracked := hst.tracked
  rw [hst.marks]
  exact (valid_close_iff htracked.open' (htracked.started.map Prod.fst)).mpr htracked.feeding

lemma Written.distinct_iff :
    (∀ a i b j, (a, i) ∈ (whole suffix model st cost status).flatMap places →
      (b, j) ∈ (whole suffix model st cost status).flatMap places → a ≠ b → i ≠ j) ↔
      Orderly (piecesOf fs) := by
  have hids : (((itemsOf st).owned suffix).map Prod.fst).Nodup := by
    have hsame : ((itemsOf st).owned suffix).map Prod.fst =
        ((itemsOf st).opened suffix).map Prod.fst := by
      simp only [Items.owned, Items.opened]
      by_cases htext : (itemsOf st).text.isSome = true
      · simp [htext]
      · simp [htext]
    rw [hsame]
    exact (hst.tracked.started.map Prod.fst).nodup_iff.mpr hst.tracked.feeding.fresh
  simp only [hst.mem_places]
  rw [← owned_nodup_iff suffix fs, ← hst.items]
  constructor
  · intro hdistinct
    refine List.Nodup.map_on ?_ hids.of_map
    rintro ⟨a, i⟩ ha ⟨b, j⟩ hb hij
    by_contra hne
    refine hdistinct a i b j ha hb ?_ hij
    rintro rfl
    exact hne (Prod.ext rfl hij)
  · intro hnodup a i b j ha hb hne hij
    have hsame := inj_on_of_nodup_map hnodup ha hb hij
    exact hne (congrArg Prod.fst hsame)

lemma Written.tool {x : Int × ToolItem} (hx : x ∈ st.tools) :
    (∃ kind, x.2.itemID = toolID kind suffix x.1) ∧ called fs x.1 = true ∧
      x.2.arguments = takenOf fs x.1 := by
  have hmem : (x.1, x.2.itemID, x.2.offset) ∈ (itemsOf st).shape := by
    simp only [Items.shape, itemsOf, map_map, mem_map]
    exact ⟨x, hx, rfl⟩
  refine ⟨hst.tracked.ids _ hmem, ?_⟩
  have hkeys : ((itemsOf st).tools.map Prod.fst).Nodup := by
    simpa [Items.shape, Function.comp_def] using hst.tracked.keys
  have hlook : (itemsOf st).tools.lookup x.1 = some (itemOf x.2) :=
    lookup_of_mem hkeys (mem_map.mpr ⟨x, hx, rfl⟩)
  have hargs := args_run suffix fs x.1
  rw [← hst.items, Items.args, hlook] at hargs
  split_ifs at hargs with hcalled
  · exact ⟨hcalled, Option.some.inj hargs⟩
  · cases hargs

lemma Written.tool_exists {idx : Int}
    (hcalled : called fs idx = true) : ∃ x ∈ st.tools, x.1 = idx := by
  have hargs := args_run suffix fs idx
  rw [← hst.items, if_pos hcalled] at hargs
  obtain ⟨item, hlook, -⟩ := Option.map_eq_some_iff.mp hargs
  obtain ⟨x, hx, heq⟩ := mem_map.mp (Go.mem_of_lookup hlook)
  exact ⟨x, hx, congrArg Prod.fst heq⟩

lemma Written.holds_iff {x : Int × ToolItem} (hx : x ∈ st.tools) :
    Holds suffix fs x.2 ↔ takenOf fs x.1 = inputOf fs x.1 := by
  obtain ⟨⟨kind, hid⟩, -, hargs⟩ := hst.tool hx
  constructor
  · rintro ⟨kind', idx, hid', hall⟩
    obtain rfl := toolID_inj (hid.symm.trans hid')
    exact hargs.symm.trans hall
  · intro hall
    exact ⟨kind, x.1, hid, hargs.trans hall⟩

lemma Written.carries_out {suffix' : String} {e : ResponsesEvent}
    (he : e ∈ st.out) : Carries suffix' fs e := by
  obtain ⟨model, createdAt, henv⟩ := hst.announced
  by_cases hfeeds : feedsItem e = true
  · cases e <;> simp [feedsItem] at hfeeds <;> trivial
  have hmem : e ∈ envelope st := mem_filter.mpr ⟨he, by simpa using hfeeds⟩
  rw [henv] at hmem
  rw [mem_singleton.mp hmem]
  trivial

lemma Written.carries_iff :
    (∀ e ∈ whole suffix model st cost status, Carries suffix fs e) ↔ Typed fs := by
  rw [← takenOf_eq_inputOf_iff]
  constructor
  · intro hall idx hcalled
    obtain ⟨x, hx, rfl⟩ := hst.tool_exists hcalled
    have hdone : Carries suffix fs (.toolDone x.2 status) :=
      hall _ (mem_append_right _ ((mem_closingEvents hst.text_filter).mpr
        (.inr (.inl ⟨x, hx, .inr rfl⟩))))
    exact (hst.holds_iff hx).mp hdone
  · intro hall e he
    have hholds : ∀ x ∈ st.tools, Holds suffix fs x.2 := by
      intro x hx
      exact (hst.holds_iff hx).mpr (hall _ (hst.tool hx).2.1)
    have htext : st.text.getD "" = contentOf fs := by
      rw [hst.text]
      split_ifs with hnone
      · rw [hnone]
        rfl
      · rfl
    rcases mem_append.mp he with hout | hclose
    · exact hst.carries_out hout
    rcases (mem_closingEvents hst.text_filter).mp hclose with
      ⟨t, ht, rfl | rfl⟩ | ⟨x, hx, rfl | rfl⟩ | rfl
    · rw [ht] at htext
      exact htext
    · rw [ht] at htext
      exact htext
    · exact hholds x hx
    · exact hholds x hx
    refine ⟨htext, ?_, ?_⟩
    · intro item hitem
      obtain ⟨x, hx, rfl⟩ := mem_map.mp hitem
      exact hholds x hx
    · intro idx hcalled
      obtain ⟨x, hx, rfl⟩ := hst.tool_exists hcalled
      exact ⟨x.2, mem_map.mpr ⟨x, hx, rfl⟩, (hst.tool hx).1⟩

lemma Written.createdIDs :
    (whole suffix model st cost status).filterMap createdID? = ["resp_" ++ suffix] := by
  obtain ⟨model', createdAt, henv⟩ := hst.announced
  have hout : st.out.filterMap createdID? = (envelope st).filterMap createdID? := by
    rw [envelope, filterMap_filter]
    congr 1
    funext e
    cases e <;> rfl
  have hclose : (closingEvents ("resp_" ++ suffix) model suffix st cost status).filterMap
      createdID? = [] := by
    rw [filterMap_eq_nil_iff]
    intro e he
    rcases (mem_closingEvents hst.text_filter).mp he with
      ⟨t, -, rfl | rfl⟩ | ⟨x, -, rfl | rfl⟩ | rfl <;> rfl
  rw [whole, filterMap_append, hclose, hout, henv]
  rfl

lemma Written.wellFormed_iff :
    WellFormed fs (whole suffix model st cost status) ↔ Orderly (piecesOf fs) ∧ Typed fs := by
  constructor
  · rintro ⟨suffix', hwell⟩
    have hsame := hwell.announced.symm.trans hst.createdIDs
    obtain rfl := (String.append_right_inj _).mp (singleton_inj.mp hsame)
    exact ⟨hst.distinct_iff.mp hwell.distinct, hst.carries_iff.mp hwell.carries⟩
  · rintro ⟨horderly, htyped⟩
    exact ⟨suffix, hst.createdIDs, hst.distinct_iff.mpr horderly, hst.protocol,
      hst.carries_iff.mpr htyped⟩

end

lemma finishResponses_events {h : Handler} {ctx : Ctx} {req : ChatCompletionRequest}
    {respID suffix : String} {start : Int} {log : List GEvent}
    {events : List ResponsesEvent} {costUSD : Option ℚ}
    (hrun : (finishResponses h ctx req respID suffix start r).Runs log
      (.ok (.stream events costUSD))) :
    ∃ cost status, events = r.st.out ++ closingEvents respID req.model suffix r.st cost status := by
  obtain ⟨_, ms, _, -, -, hrun1⟩ := hrun.split
  obtain ⟨_, _, _, -, -, hrun2⟩ := hrun1.split
  obtain ⟨_, _, _, -, -, hret⟩ := hrun2.split
  obtain ⟨-, heq⟩ := hret.done
  cases heq
  exact ⟨_, _, rfl⟩

lemma handleResponsesStream_written {h : Handler} {ctx : Ctx} {flusher : Bool}
    {req : ChatCompletionRequest} {log : List GEvent} {events : List ResponsesEvent}
    {costUSD : Option ℚ} (hok : failed (delivered log) = false)
    (hrun : (handleResponsesStream h ctx flusher req).Runs log (.ok (.stream events costUSD))) :
    ∃ suffix st cost status, Written suffix (fragments (delivered log)) st ∧
      events = whole suffix req.model st cost status := by
  unfold handleResponsesStream at hrun
  split at hrun
  · obtain ⟨-, heq⟩ := hrun.done
    cases heq
  split at hrun
  · obtain ⟨-, heq⟩ := hrun.done
    cases heq
  obtain ⟨l1, suffix, _, rfl, hid, hrun1⟩ := hrun.split
  obtain ⟨l2, createdAt, _, rfl, hcreated, hrun2⟩ := hrun1.split
  obtain ⟨l3, start, _, rfl, hstart, hrun3⟩ := hrun2.split
  obtain ⟨l4, t, _, rfl, htrace, hrun4⟩ := hrun3.split
  obtain ⟨l5, x, l6, rfl, hproviders, hrun5⟩ := hrun4.split
  have hwithin := within_ite (c := x.2 = true)
    (((recordTrace_within x.1.trace).mono (by decide)).bind fun _ =>
      within_pure (Reply.ok (ResponsesBody.stream x.1.st.out none)))
    (finishResponses_within h ctx req ("resp_" ++ suffix) suffix start x.1)
  have hend : delivered l6 = [] := by
    rw [delivered, within_opened_eq_nil hwithin hrun5 rfl]
    rfl
  have hlog : delivered (l1 ++ (l2 ++ (l3 ++ (l4 ++ (l5 ++ l6))))) = delivered l5 := by
    simp only [delivered_append, hend, append_nil,
      delivered_idle (idle_of_within newUUID_within hid rfl rfl),
      delivered_idle (idle_of_within now_within hcreated rfl rfl),
      delivered_idle (idle_of_within now_within hstart rfl rfl),
      delivered_idle (idle_of_within (newTrace_within ..) htrace rfl rfl), nil_append]
  rw [hlog] at hok ⊢
  have hwritten : Written suffix (fragments (delivered l5)) x.1.st ∧ x.2 = false := by
    rcases responsesProviders_opens hproviders with
      ⟨hidle, hst, hflag⟩ | ⟨cand, s, t', l, hopens, -, hevents⟩
    · rw [delivered_idle hidle, hst]
      exact ⟨⟨rfl, _, _, rfl⟩, hflag⟩
    rw [delivered_opens hopens] at hok ⊢
    have hstart : Tracked suffix (itemsOf ⟨none, [], none, "",
        [.created ("resp_" ++ suffix) req.model (Semcache.unix createdAt)]⟩) :=
      tracked_start suffix
    obtain ⟨hitems, hflag⟩ := responsesEvents_items hstart hok hevents
    refine ⟨⟨?_, req.model, Semcache.unix createdAt, ?_⟩, hflag⟩
    · rw [hitems]
      rfl
    · exact responsesEvents_envelope hok hevents
  obtain ⟨hwritten, hflag⟩ := hwritten
  rw [hflag] at hrun5
  obtain ⟨cost, status, hevents⟩ := finishResponses_events hrun5
  exact ⟨suffix, x.1.st, cost, status, hwritten, hevents⟩

theorem responses_wellFormed_iff (h : Handler) (ctx : Ctx) (flusher : Bool)
    (req : ChatCompletionRequest) (log : List GEvent) (events : List ResponsesEvent)
    (costUSD : Option ℚ) (hok : failed (delivered log) = false)
    (hrun : (handleResponsesStream h ctx flusher req).Runs log (.ok (.stream events costUSD))) :
    WellFormed (fragments (delivered log)) events ↔
      Orderly (piecesOf (fragments (delivered log))) ∧ Typed (fragments (delivered log)) := by
  obtain ⟨suffix, st, cost, status, hwritten, rfl⟩ := handleResponsesStream_written hok hrun
  exact hwritten.wellFormed_iff

def responsesRun (deltas : List Delta) : List GEvent × Reply ResponsesBody :=
  execute (answering (streamOf deltas))
    (handleResponsesStream meteredHandler caller true (plainRequest "gpt-4o"))

lemma responsesRun_runs {deltas : List Delta} {reply : Reply ResponsesBody}
    (hreply : (responsesRun deltas).2 = reply) :
    (handleResponsesStream meteredHandler caller true (plainRequest "gpt-4o")).Runs
      (responsesRun deltas).1 reply :=
  hreply ▸ execute_runs _ _

def written (deltas : List Delta) : List ResponsesEvent :=
  match (responsesRun deltas).2 with
  | .ok (.stream events _) => events
  | _ => []

def patching (type name input : String) : Delta :=
  ⟨"assistant", "", [⟨some 0, "call_1", type, "", "", name, input⟩]⟩

def typedCall : List Delta :=
  [saying "Patching.", patching "custom" "apply_patch" "*** Begin", patching "custom" "" " Patch"]

theorem responses_wellFormed_typedCall :
    (responsesRun typedCall).2 = .ok (.stream (written typedCall) (some 0)) ∧
      failed (delivered (responsesRun typedCall).1) = false ∧
      WellFormed (fragments (delivered (responsesRun typedCall).1)) (written typedCall) := by
  have hreply : (responsesRun typedCall).2 = .ok (.stream (written typedCall) (some 0)) := by
    with_unfolding_all decide
  have hok : failed (delivered (responsesRun typedCall).1) = false := by
    with_unfolding_all decide
  refine ⟨hreply, hok,
    (responses_wellFormed_iff _ _ _ _ _ _ _ hok (responsesRun_runs hreply)).mpr ⟨?_, ?_⟩⟩
  · have hpieces : piecesOf (fragments (delivered (responsesRun typedCall).1)) =
        [.text, .tool 0 false, .tool 0 false] := by with_unfolding_all decide
    rw [hpieces]
    simp [Orderly, late, early, Placed]
  · have hfs : fragments (delivered (responsesRun typedCall).1) =
        typedCall.flatMap fun d => .text d.content :: d.toolCalls.map .call := by
      with_unfolding_all decide
    rw [hfs]
    simp [Typed, typedCall, saying, patching]

def untypedCall : List Delta :=
  [patching "custom" "apply_patch" "*** Begin", patching "" "" " Patch", saying "Patched."]

theorem responses_untypedCall_malformed :
    (handleResponsesStream meteredHandler caller true (plainRequest "gpt-4o")).Runs
        (responsesRun untypedCall).1 (.ok (.stream (written untypedCall) (some 0))) ∧
      failed (delivered (responsesRun untypedCall).1) = false ∧
      ("ctc__0", 0) ∈ (written untypedCall).flatMap places ∧
      ("msg_", 0) ∈ (written untypedCall).flatMap places ∧
      .toolDone ⟨.customToolCall, "ctc__0", "call_1", true, "apply_patch", 0, "*** Begin"⟩
        .incomplete ∈ written untypedCall ∧
      ¬ WellFormed (fragments (delivered (responsesRun untypedCall).1)) (written untypedCall) := by
  have hcall : ("ctc__0", 0) ∈ (written untypedCall).flatMap places := by with_unfolding_all decide
  have hmessage : ("msg_", 0) ∈ (written untypedCall).flatMap places := by with_unfolding_all decide
  refine ⟨responsesRun_runs (by with_unfolding_all decide), by with_unfolding_all decide, hcall,
    hmessage, by with_unfolding_all decide, ?_⟩
  rintro ⟨suffix, hwell⟩
  exact hwell.distinct _ _ _ _ hcall hmessage (by decide) rfl

end FfxNexus.ResponsesStream
