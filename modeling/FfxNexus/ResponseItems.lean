/-
**The items of a Responses stream**, apart from the handler that writes them: one message item for
the text and one item for each tool index.
-/
import FfxNexus.BlockSlots
import FfxNexus.Translated

namespace FfxNexus.ResponseItems
open Schema Translated BlockProtocol BlockSlots List

inductive Fragment where
  | text (content : String)
  | call (tc : ToolCall)
deriving DecidableEq

def Fragment.content : Fragment → String
  | .text s => s
  | .call _ => ""

def Fragment.isFor (idx : Int) : Fragment → Bool
  | .text _ => false
  | .call tc => tc.index.getD 0 = idx

def Fragment.input (idx : Int) : Fragment → String
  | .text _ => ""
  | .call tc => if tc.index.getD 0 = idx then tc.functionArguments ++ tc.customInput else ""

variable (fs : List Fragment) (tc : ToolCall)

def customPart : String := if tc.type = "custom" then tc.customInput else ""

def Fragment.taken (idx : Int) : Fragment → String
  | .text _ => ""
  | .call tc => if tc.index.getD 0 = idx then tc.functionArguments ++ customPart tc else ""

def Fragment.piece? : Fragment → Option Piece
  | .text s => if s = "" then none else some .text
  | .call tc => some (.tool (tc.index.getD 0) false)

def contentOf : String := String.join (fs.map Fragment.content)

def called (idx : Int) : Bool := fs.any (Fragment.isFor idx)

def inputOf (idx : Int) : String := String.join (fs.map (Fragment.input idx))

def takenOf (idx : Int) : String := String.join (fs.map (Fragment.taken idx))

def piecesOf : List Piece := fs.filterMap Fragment.piece?

lemma piecesOf_unfed : Unfed (piecesOf fs) := by
  intro idx fed hmem
  obtain ⟨f, -, hf⟩ := mem_filterMap.mp hmem
  cases f with
  | text s =>
    simp only [Fragment.piece?] at hf
    split at hf <;> simp at hf
  | call tc =>
    simp only [Fragment.piece?, Option.some.injEq, Piece.tool.injEq] at hf
    exact hf.2.symm

def Typed : Prop :=
  ∀ tc, .call tc ∈ fs → tc.customInput ≠ "" → tc.type = "custom"

lemma taken_eq_input_iff :
    customPart tc = tc.customInput ↔ (tc.customInput ≠ "" → tc.type = "custom") := by
  unfold customPart
  by_cases htype : tc.type = "custom"
  · simp [htype]
  rw [if_neg htype]
  constructor
  · intro heq hne
    exact absurd heq.symm hne
  · intro himp
    by_contra hne
    exact htype (himp (fun h => hne h.symm))

lemma length_taken_le (idx : Int) (f : Fragment) : (f.taken idx).length ≤ (f.input idx).length := by
  cases f with
  | text s => rfl
  | call tc =>
    simp only [Fragment.taken, Fragment.input, customPart]
    split
    · split <;> simp
    · rfl

lemma length_join (ss : List String) : (String.join ss).length = (ss.map String.length).sum := by
  induction ss with
  | nil => rfl
  | cons s ss ih => rw [String.join_cons, String.length_append, ih, map_cons, sum_cons]

lemma length_takenOf_le (idx : Int) : (takenOf fs idx).length ≤ (inputOf fs idx).length := by
  unfold takenOf inputOf
  rw [length_join, length_join]
  induction fs with
  | nil => simp
  | cons f fs ih =>
    exact Nat.add_le_add (length_taken_le idx f) ih

lemma takenOf_eq_inputOf_iff :
    (∀ idx, called fs idx = true → takenOf fs idx = inputOf fs idx) ↔ Typed fs := by
  constructor
  · intro hall tc hmem
    obtain ⟨before, after, rfl⟩ := append_of_mem hmem
    have hcalled : called (before ++ .call tc :: after) (tc.index.getD 0) = true := by
      simp [called, Fragment.isFor]
    have hsplit := congrArg String.length (hall _ hcalled)
    have hbefore := length_takenOf_le before (tc.index.getD 0)
    have hafter := length_takenOf_le after (tc.index.getD 0)
    simp only [takenOf, inputOf, map_append, map_cons, String.join_append,
      String.join_cons, Fragment.taken, Fragment.input, if_true, String.length_append] at hsplit
    simp only [takenOf, inputOf] at hbefore hafter
    intro hne
    by_contra htype
    have hlost : (customPart tc).length = 0 := by
      simp [customPart, htype]
    have hgiven : tc.customInput.length ≠ 0 := by
      simpa using hne
    omega
  · intro htyped idx _
    unfold takenOf inputOf
    congr 1
    refine map_congr_left ?_
    intro f hf
    cases f with
    | text s => rfl
    | call tc =>
      simp only [Fragment.taken, Fragment.input]
      rw [(taken_eq_input_iff tc).mpr (htyped tc hf)]

structure Item where
  id : String
  offset : Int
  arguments : String

structure Items where
  text : Option String
  tools : List (Int × Item)
  marks : List (Mark String Kind)
  places : List (String × Int)

variable (suffix : String)

def msgID : String := "msg_" ++ suffix

def toolID (kind : ItemType) (suffix : String) (idx : Int) : String :=
  (if kind = .customToolCall then "ctc_" else "fc_") ++ suffix ++ "_" ++ toString idx

def Items.say (b : Items) (s : String) : Items :=
  if s = "" then b
  else
    { b with
      text := some (b.text.getD "" ++ s)
      marks := b.marks ++ (if b.text = none then [.start (msgID suffix) .text] else []) ++
        [.delta (msgID suffix) .text]
      places := b.places ++ (if b.text = none then [(msgID suffix, 0)] else []) ++
        [(msgID suffix, 0)] }

def Items.openTool (b : Items) (kind : ItemType) (idx : Int) : Items × Item :=
  match b.tools.lookup idx with
  | some item => (b, item)
  | none =>
    let item : Item := ⟨toolID kind suffix idx, if b.text.isSome then idx + 1 else idx, ""⟩
    ({ b with
      tools := b.tools ++ [(idx, item)]
      marks := b.marks ++ [.start item.id .tool]
      places := b.places ++ [(item.id, item.offset)] }, item)

def Items.feed (b : Items) (idx : Int) (item : Item) (delta : String) : Items × Item :=
  if delta = "" then (b, item)
  else
    let item := { item with arguments := item.arguments ++ delta }
    ({ b with
      tools := setTool b.tools idx item
      marks := b.marks ++ [.delta item.id .tool]
      places := b.places ++ [(item.id, item.offset)] }, item)

def kindOf : ItemType :=
  if tc.type = "custom" then .customToolCall else .functionCall

def Items.call (b : Items) (tc : ToolCall) : Items :=
  let opened := b.openTool suffix (kindOf tc) (tc.index.getD 0)
  let fed := opened.1.feed (tc.index.getD 0) opened.2 tc.functionArguments
  (fed.1.feed (tc.index.getD 0) fed.2 (customPart tc)).1

def Items.next (b : Items) : Fragment → Items
  | .text s => b.say suffix s
  | .call tc => b.call suffix tc

def items : Machine Items Fragment Unit where
  step b f := (b.next suffix f, ())

variable (suffix : String) (b : Items) (fs : List Fragment)

lemma items_step (f : Fragment) : ((items suffix).step b f).1 = b.next suffix f := rfl

def Items.start : Items := ⟨none, [], [], []⟩

section
variable {suffix : String} {b : Items} {kind : ItemType} {idx : Int} {item : Item} {delta : String}

lemma openTool_lookup : (b.openTool suffix kind idx).1.tools.lookup idx =
    some (b.openTool suffix kind idx).2 := by
  cases hlook : b.tools.lookup idx with
  | some item => simp only [Items.openTool, hlook]
  | none => simp [Items.openTool, hlook, lookup_append_none _ hlook]

lemma feed_lookup (hitem : b.tools.lookup idx = some item) :
    (b.feed idx item delta).1.tools.lookup idx = some (b.feed idx item delta).2 := by
  by_cases hdelta : delta = ""
  · simpa [Items.feed, hdelta] using hitem
  · simp [Items.feed, hdelta, lookup_setTool, hitem]

def Items.args (b : Items) (idx : Int) : Option String := (b.tools.lookup idx).map Item.arguments

lemma args_openTool (j : Int) : (b.openTool suffix kind idx).1.args j =
    if j = idx then some ((b.args idx).getD "") else b.args j := by
  cases hlook : b.tools.lookup idx with
  | some item =>
    by_cases hj : j = idx
    · simp [Items.openTool, Items.args, hlook, hj]
    · simp [Items.openTool, hlook, hj]
  | none =>
    by_cases hj : j = idx
    · simp [Items.openTool, Items.args, hlook, hj, lookup_append_none _ hlook]
    · simp [Items.openTool, Items.args, hlook, hj, lookup_append_none _ hlook]

lemma args_feed (hitem : b.tools.lookup idx = some item) (j : Int) :
    (b.feed idx item delta).1.args j =
      if j = idx then some ((b.args idx).getD "" ++ delta) else b.args j := by
  by_cases hdelta : delta = ""
  · by_cases hj : j = idx
    · simp [Items.feed, hdelta, hj, Items.args, hitem]
    · simp [Items.feed, hdelta, hj]
  · by_cases hj : j = idx
    · simp [Items.feed, hdelta, hj, Items.args, lookup_setTool, hitem]
    · simp [Items.feed, hdelta, hj, Items.args, lookup_setTool]

end

lemma args_call (tc : ToolCall) (j : Int) : (b.call suffix tc).args j = if j = tc.index.getD 0 then
        some ((b.args j).getD "" ++ (tc.functionArguments ++ customPart tc)) else b.args j := by
  unfold Items.call
  rw [args_feed (feed_lookup openTool_lookup)]
  by_cases hj : j = tc.index.getD 0
  · subst hj
    rw [if_pos rfl, if_pos rfl, args_feed openTool_lookup, if_pos rfl, args_openTool]
    simp [String.append_assoc]
  · rw [if_neg hj, if_neg hj, args_feed openTool_lookup, if_neg hj, args_openTool, if_neg hj]

lemma takenOf_of_not_called {fs : List Fragment} {idx : Int} (hnone : called fs idx = false) :
    takenOf fs idx = "" := by
  induction fs with
  | nil => rfl
  | cons f fs ih =>
    simp only [called, any_cons, Bool.or_eq_false_iff] at hnone
    have hf : f.taken idx = "" := by
      cases f with
      | text s => rfl
      | call tc =>
        have hidx : ¬ tc.index.getD 0 = idx := by
          simpa [Fragment.isFor] using hnone.1
        simp [Fragment.taken, hidx]
    have hrest : takenOf fs idx = "" := ih hnone.2
    unfold takenOf at hrest ⊢
    rw [map_cons, String.join_cons, hf, hrest]
    rfl

lemma args_run (idx : Int) : ((items suffix).run .start fs).args idx =
      if called fs idx then some (takenOf fs idx) else none := by
  induction fs using reverseRecOn with
  | nil => rfl
  | append_singleton fs f ih =>
    have hcalled : called (fs ++ [f]) idx = (called fs idx || f.isFor idx) := by
      simp [called]
    have htaken : takenOf (fs ++ [f]) idx = takenOf fs idx ++ f.taken idx := by
      simp [takenOf, String.join_append]
    rw [Machine.run_snoc, items_step, hcalled, htaken]
    cases f with
    | text s =>
      have hsame : (Items.say suffix ((items suffix).run .start fs) s).args idx =
          ((items suffix).run .start fs).args idx := by
        unfold Items.say
        split <;> rfl
      simpa [Items.next, Fragment.isFor, Fragment.taken] using hsame.trans ih
    | call tc =>
      have hcall := args_call suffix ((items suffix).run .start fs) tc idx
      by_cases hidx : tc.index.getD 0 = idx
      · rw [ih] at hcall
        have hdone : (if called fs idx = true then some (takenOf fs idx) else none).getD "" =
            takenOf fs idx := by
          split_ifs with hold
          · rfl
          · rw [takenOf_of_not_called (by simpa using hold)]
            rfl
        rw [hdone] at hcall
        simpa [Items.next, Fragment.isFor, Fragment.taken, hidx] using hcall
      · rw [if_neg (fun h => hidx h.symm), ih] at hcall
        simpa [Items.next, Fragment.isFor, Fragment.taken, hidx] using hcall

lemma text_call (tc : ToolCall) : (b.call suffix tc).text = b.text := by
  have hfeed : ∀ (b : Items) (idx : Int) (item : Item) (delta : String),
      (b.feed idx item delta).1.text = b.text := by
    intro b idx item delta
    unfold Items.feed
    split <;> rfl
  have hopen : ∀ (kind : ItemType) (idx : Int), (b.openTool suffix kind idx).1.text = b.text := by
    intro kind idx
    unfold Items.openTool
    split <;> rfl
  unfold Items.call
  rw [hfeed, hfeed, hopen]

lemma text_run : ((items suffix).run .start fs).text =
      if contentOf fs = "" then none else some (contentOf fs) := by
  induction fs using reverseRecOn with
  | nil => rfl
  | append_singleton fs f ih =>
    have hcontent : contentOf (fs ++ [f]) = contentOf fs ++ f.content := by
      simp [contentOf]
    rw [Machine.run_snoc, items_step, hcontent]
    cases f with
    | call tc => simpa [Items.next, text_call, Fragment.content] using ih
    | text s =>
      by_cases hs : s = ""
      · simpa [Items.next, Items.say, hs, Fragment.content] using ih
      have hdone : (((items suffix).run .start fs).text.getD "") = contentOf fs := by
        rw [ih]
        split_ifs with hnone
        · rw [hnone]
          rfl
        · rfl
      simp [Items.next, Items.say, hs, Fragment.content, hdone]

lemma toList_toString_int (i : Int) : (toString i).toList =
    (if i < 0 then ['-'] else []) ++ Nat.toDigits 10 i.natAbs := by
  cases i with
  | ofNat n => simp [Int.repr]
  | negSucc n => simp [Int.repr]

lemma toString_int_inj {i j : Int} (heq : toString i = toString j) : i = j := by
  have hlist := congrArg String.toList heq
  rw [toList_toString_int, toList_toString_int] at hlist
  have hsign : ∀ (m : ℕ) (l : List Char), '-' :: l ≠ Nat.toDigits 10 m := by
    intro m l hl
    have hmem : '-' ∈ Nat.toDigits 10 m := hl ▸ mem_cons_self
    exact absurd (Nat.isDigit_of_mem_toDigits (by decide) (by decide) hmem) (by decide)
  by_cases hi : i < 0
  · by_cases hj : j < 0
    · rw [if_pos hi, if_pos hj] at hlist
      have habs := Framing.toDigits_injective (append_cancel_left hlist)
      omega
    · rw [if_pos hi, if_neg hj] at hlist
      exact absurd hlist (hsign _ _)
  · by_cases hj : j < 0
    · rw [if_neg hi, if_pos hj] at hlist
      exact absurd hlist.symm (hsign _ _)
    · rw [if_neg hi, if_neg hj] at hlist
      have habs := Framing.toDigits_injective hlist
      omega

lemma toolID_inj {kind kind' : ItemType} {suffix : String} {i j : Int}
    (heq : toolID kind suffix i = toolID kind' suffix j) : i = j := by
  have hrest : ∀ pre : String,
      pre ++ suffix ++ "_" ++ toString i = pre ++ suffix ++ "_" ++ toString j → i = j := by
    intro pre h
    exact toString_int_inj ((String.append_right_inj _).mp h)
  have hfirst := congrArg (fun s : String => s.toList.head?) heq
  cases kind <;> cases kind' <;> simp [toolID] at hfirst <;> exact hrest _ heq

lemma msgID_ne_toolID {kind : ItemType} {suffix : String} {i : Int} :
    msgID suffix ≠ toolID kind suffix i := by
  intro heq
  have hfirst := congrArg (fun s : String => s.toList.head?) heq
  cases kind <;> simp [toolID, msgID] at hfirst

def Items.shape (b : Items) : List (Int × String × Int) :=
  b.tools.map fun e => (e.1, e.2.id, e.2.offset)

def Items.opened (suffix : String) (b : Items) : List (String × Kind) :=
  (if b.text.isSome then [(msgID suffix, .text)] else []) ++
    b.shape.map fun e => (e.2.1, .tool)

def Items.owned (suffix : String) (b : Items) : List (String × Int) :=
  (if b.text.isSome then [(msgID suffix, 0)] else []) ++ b.shape.map Prod.snd

structure Tracked (suffix : String) (b : Items) : Prop where
  keys : (b.shape.map Prod.fst).Nodup
  ids : ∀ e ∈ b.shape, ∃ kind, e.2.1 = toolID kind suffix e.1
  started : (b.opened suffix).Perm (started b.marks)
  feeding : Feeding b.marks
  open' : stopped b.marks = []
  places : ∀ p ∈ b.places, p ∈ b.owned suffix

lemma tracked_start : Tracked suffix .start :=
  ⟨nodup_nil, fun _ he => (by cases he), List.Perm.refl _, feeding_nil, rfl,
    fun _ hp => (by cases hp)⟩

section
variable {suffix : String} {b : Items} {kind : ItemType} {idx : Int} {item : Item} {delta : String}

lemma shape_lookup : b.shape.lookup idx = (b.tools.lookup idx).map fun x => (x.id, x.offset) :=
  lookup_map_snd (fun x : Item => (x.id, x.offset)) b.tools idx

lemma shape_feed (hkeys : (b.shape.map Prod.fst).Nodup)
    (hitem : b.tools.lookup idx = some item) : (b.feed idx item delta).1.shape = b.shape := by
  by_cases hdelta : delta = ""
  · simp [Items.feed, hdelta]
  have hkeys' : (b.tools.map Prod.fst).Nodup := by
    simpa [Items.shape, Function.comp_def] using hkeys
  simp only [Items.feed, if_neg hdelta]
  exact map_setTool (fun x : Item => (x.id, x.offset)) _ hkeys' (Go.mem_of_lookup hitem) rfl

variable (hb : Tracked suffix b)
include hb

lemma Tracked.of_mem_names {id : String} (hid : id ∈ names b.marks) :
    (b.text ≠ none ∧ id = msgID suffix) ∨ ∃ e ∈ b.shape, ∃ kind, id = toolID kind suffix e.1 := by
  have hperm : ((b.opened suffix).map Prod.fst).Perm (names b.marks) := hb.started.map Prod.fst
  rw [← hperm.mem_iff] at hid
  simp only [Items.opened, map_append, map_map, mem_append, mem_map] at hid
  rcases hid with ⟨x, hx, rfl⟩ | ⟨e, he, rfl⟩
  · split at hx
    · rename_i htext
      rw [mem_singleton.mp hx]
      exact .inl ⟨Option.isSome_iff_ne_none.mp htext, rfl⟩
    · cases hx
  · exact .inr ⟨e, he, hb.ids e he⟩

lemma Tracked.fresh_toolID (hnew : idx ∉ b.shape.map Prod.fst) :
    toolID kind suffix idx ∉ names b.marks := by
  intro hmem
  rcases hb.of_mem_names hmem with ⟨-, hid⟩ | ⟨e, he, kind', hid⟩
  · exact msgID_ne_toolID hid.symm
  · exact hnew (mem_map.mpr ⟨e, he, toolID_inj hid.symm⟩)

lemma Tracked.fresh_msgID (hnone : b.text = none) : msgID suffix ∉ names b.marks := by
  intro hmem
  rcases hb.of_mem_names hmem with ⟨htext, -⟩ | ⟨e, -, kind', hid⟩
  · exact htext hnone
  · exact msgID_ne_toolID hid

lemma Tracked.say (s : String) : Tracked suffix (b.say suffix s) := by
  by_cases hs : s = ""
  · simpa [Items.say, hs] using hb
  cases htext : b.text with
  | none =>
    have hsay : b.say suffix s = ⟨some s, b.tools,
        b.marks ++ [.start (msgID suffix) .text] ++ [.delta (msgID suffix) .text],
        b.places ++ [(msgID suffix, 0)] ++ [(msgID suffix, 0)]⟩ := by
      simp [Items.say, hs, htext]
    have hstarted := hb.started
    have hplaces := hb.places
    simp only [Items.opened, Items.owned, htext] at hstarted hplaces
    rw [hsay]
    refine ⟨hb.keys, hb.ids, ?_, ?_, ?_, ?_⟩
    · simp only [Items.opened, started_append, started_start, started_delta, started_nil,
        append_nil]
      exact perm_append_comm.trans (hstarted.append_right [(msgID suffix, Kind.text)])
    · rw [feeding_delta_iff, feeding_start_iff]
      exact ⟨⟨hb.feeding, hb.fresh_msgID htext⟩, by simp⟩
    · simpa using hb.open'
    intro p hp
    simp only [mem_append, mem_singleton] at hp
    rcases hp with (hold | rfl) | rfl
    · exact mem_append_right _ (hplaces p hold)
    · exact mem_append_left _ mem_cons_self
    · exact mem_append_left _ mem_cons_self
  | some t =>
    have hsay : b.say suffix s = ⟨some (t ++ s), b.tools,
        b.marks ++ [.delta (msgID suffix) .text], b.places ++ [(msgID suffix, 0)]⟩ := by
      simp [Items.say, hs, htext]
    have hstarted := hb.started
    have hplaces := hb.places
    simp only [Items.opened, Items.owned, htext] at hstarted hplaces
    rw [hsay]
    refine ⟨hb.keys, hb.ids, ?_, ?_, ?_, ?_⟩
    · rw [started_append, started_delta, started_nil, append_nil]
      exact hstarted
    · rw [feeding_delta_iff]
      exact ⟨hb.feeding, hstarted.mem_iff.mp (mem_append_left _ mem_cons_self)⟩
    · simpa using hb.open'
    intro p hp
    rcases mem_append.mp hp with hold | hlast
    · exact hplaces p hold
    · rw [mem_singleton.mp hlast]
      exact mem_append_left _ mem_cons_self

lemma Tracked.openTool : Tracked suffix (b.openTool suffix kind idx).1 := by
  cases hlook : b.tools.lookup idx with
  | some item => simpa [Items.openTool, hlook] using hb
  | none =>
    have hnew : idx ∉ b.shape.map Prod.fst := by
      refine not_mem_keys ?_
      rw [shape_lookup, hlook]
      rfl
    obtain ⟨new, hid, hopen⟩ : ∃ new : Item, new.id = toolID kind suffix idx ∧
        (b.openTool suffix kind idx).1 = ⟨b.text, b.tools ++ [(idx, new)],
          b.marks ++ [.start new.id .tool], b.places ++ [(new.id, new.offset)]⟩ := by
      simp only [Items.openTool, hlook]
      exact ⟨_, rfl, rfl⟩
    have hshape : (b.openTool suffix kind idx).1.shape =
        b.shape ++ [(idx, new.id, new.offset)] := by
      rw [hopen]
      simp [Items.shape]
    refine ⟨?_, ?_, ?_, ?_, ?_, ?_⟩
    · rw [hshape, map_append, map_singleton, ← concat_eq_append, nodup_concat]
      exact ⟨hnew, hb.keys⟩
    · rw [hshape]
      intro e he
      rcases mem_append.mp he with hold | hlast
      · exact hb.ids e hold
      · rw [mem_singleton.mp hlast]
        exact ⟨kind, hid⟩
    · rw [Items.opened, hshape, hopen, map_append, ← append_assoc]
      rw [started_append]
      exact hb.started.append_right [(new.id, Kind.tool)]
    · rw [hopen, feeding_start_iff, hid]
      exact ⟨hb.feeding, hb.fresh_toolID hnew⟩
    · rw [hopen]
      simpa using hb.open'
    · rw [Items.owned, hshape, hopen, map_append, ← append_assoc]
      intro p hp
      rcases mem_append.mp hp with hold | hlast
      · exact mem_append_left _ (hb.places p hold)
      · exact mem_append_right _ hlast

lemma Tracked.feed (hitem : b.tools.lookup idx = some item) :
    Tracked suffix (b.feed idx item delta).1 := by
  by_cases hdelta : delta = ""
  · simpa [Items.feed, hdelta] using hb
  have hshape : (b.feed idx item delta).1.shape = b.shape := shape_feed hb.keys hitem
  obtain ⟨tools, hfeed⟩ : ∃ tools, (b.feed idx item delta).1 = ⟨b.text, tools,
      b.marks ++ [.delta item.id .tool], b.places ++ [(item.id, item.offset)]⟩ := by
    simp only [Items.feed, if_neg hdelta]
    exact ⟨_, rfl⟩
  have hmem : (idx, item.id, item.offset) ∈ b.shape :=
    mem_map.mpr ⟨_, Go.mem_of_lookup hitem, rfl⟩
  have hopened : (b.feed idx item delta).1.opened suffix = b.opened suffix := by
    rw [Items.opened, Items.opened, hshape, hfeed]
  have howned : (b.feed idx item delta).1.owned suffix = b.owned suffix := by
    rw [Items.owned, Items.owned, hshape, hfeed]
  refine ⟨hshape.symm ▸ hb.keys, hshape.symm ▸ hb.ids, ?_, ?_, ?_, ?_⟩
  · rw [hopened, hfeed]
    simpa using hb.started
  · rw [hfeed, feeding_delta_iff]
    refine ⟨hb.feeding, hb.started.mem_iff.mp (mem_append_right _ ?_)⟩
    exact mem_map.mpr ⟨_, hmem, rfl⟩
  · rw [hfeed]
    simpa using hb.open'
  rw [howned, hfeed]
  intro p hp
  rcases mem_append.mp hp with hold | hlast
  · exact hb.places p hold
  · rw [mem_singleton.mp hlast]
    exact mem_append_right _ (mem_map.mpr ⟨_, hmem, rfl⟩)

lemma Tracked.next (f : Fragment) : Tracked suffix (b.next suffix f) := by
  cases f with
  | text s => exact hb.say s
  | call tc => exact (hb.openTool.feed openTool_lookup).feed (feed_lookup openTool_lookup)

end

lemma tracked_run : Tracked suffix ((items suffix).run .start fs) :=
  (items suffix).run_invariant (tracked_start suffix) (fun _ f hb => hb.next f) fs

structure Numbered (b : Items) (slots : Blocks) : Prop where
  opened : slots.opened = b.text.isSome
  tools : slots.tools = b.shape.map fun e => (e.1, e.2.2)

lemma Numbered.next {suffix : String} {b : Items} {slots : Blocks} (hb : Tracked suffix b)
    (hslots : Numbered b slots) (f : Fragment) :
    Numbered (b.next suffix f) (f.piece?.toList.foldl Blocks.next slots) := by
  cases f with
  | text s =>
    by_cases hs : s = ""
    · simpa [Items.next, Items.say, Fragment.piece?, hs] using hslots
    have hpiece : (Fragment.text s).piece? = some .text := by
      simp [Fragment.piece?, hs]
    rw [hpiece]
    refine ⟨?_, ?_⟩
    · simp [Items.next, Items.say, hs, Blocks.next]
    · simpa [Items.next, Items.say, hs, Blocks.next, Items.shape] using hslots.tools
  | call tc =>
    have hfed : (b.next suffix (.call tc)).shape =
        (b.openTool suffix (kindOf tc) (tc.index.getD 0)).1.shape := by
      let opened := b.openTool suffix (kindOf tc) (tc.index.getD 0)
      have hopened : Tracked suffix opened.1 := hb.openTool
      have hfirst : Tracked suffix
          (opened.1.feed (tc.index.getD 0) opened.2 tc.functionArguments).1 :=
        hopened.feed openTool_lookup
      exact (shape_feed hfirst.keys (feed_lookup openTool_lookup)).trans
        (shape_feed hopened.keys openTool_lookup)
    have hpiece : (Fragment.call tc).piece? = some (.tool (tc.index.getD 0) false) := rfl
    have hlook : slots.tools.lookup (tc.index.getD 0) =
        (b.tools.lookup (tc.index.getD 0)).map Item.offset := by
      rw [hslots.tools, Items.shape, map_map]
      exact lookup_map_snd Item.offset b.tools (tc.index.getD 0)
    refine ⟨?_, ?_⟩
    · rw [hpiece]
      have htext : (b.next suffix (.call tc)).text = b.text := text_call suffix b tc
      rw [htext, ← hslots.opened]
      cases hold : slots.tools.lookup (tc.index.getD 0) with
      | none => simp [Blocks.next, hold]
      | some slot => simp [Blocks.next, hold]
    · rw [hfed]
      cases hold : b.tools.lookup (tc.index.getD 0) with
      | none =>
        rw [hold] at hlook
        have hnext : (slots.next (.tool (tc.index.getD 0) false)).tools =
            slots.tools ++ [(tc.index.getD 0, slots.slot (tc.index.getD 0))] := by
          simp [Blocks.next, hlook]
        have hopened : (b.openTool suffix (kindOf tc) (tc.index.getD 0)).1.shape =
            b.shape ++ [(tc.index.getD 0, toolID (kindOf tc) suffix (tc.index.getD 0),
              if b.text.isSome then tc.index.getD 0 + 1 else tc.index.getD 0)] := by
          simp [Items.openTool, hold, Items.shape]
        refine hnext.trans ?_
        rw [hopened, hslots.tools, map_append, Blocks.slot, hslots.opened]
        rfl
      | some item =>
        rw [hold] at hlook
        have hnext : (slots.next (.tool (tc.index.getD 0) false)).tools = slots.tools := by
          simp [Blocks.next, hlook]
        refine hnext.trans ?_
        simp only [Items.openTool, hold, hslots.tools]

lemma numbered_run : Numbered ((items suffix).run .start fs) (blocks.run .start (piecesOf fs)) := by
  induction fs using reverseRecOn with
  | nil => exact ⟨rfl, rfl⟩
  | append_singleton fs f ih =>
    have hpieces : piecesOf (fs ++ [f]) = piecesOf fs ++ f.piece?.toList := by
      rw [piecesOf, piecesOf]
      cases hf : f.piece? <;> simp [hf]
    rw [Machine.run_snoc, items_step, hpieces, Machine.run_append]
    exact ih.next (tracked_run suffix fs) f

lemma owned_nodup_iff :
    ((((items suffix).run .start fs).owned suffix).map Prod.snd).Nodup ↔ Orderly (piecesOf fs) := by
  have hslots := numbered_run suffix fs
  have heq : (((items suffix).run .start fs).owned suffix).map Prod.snd =
      (blocks.run .start (piecesOf fs)).slots := by
    rw [Blocks.slots, hslots.opened, hslots.tools, Items.owned, map_append]
    by_cases htext : ((items suffix).run .start fs).text.isSome = true
    · simp [htext]
    · simp [htext]
  rw [heq]
  exact slots_nodup_iff_orderly (piecesOf_unfed fs)

end FfxNexus.ResponseItems
