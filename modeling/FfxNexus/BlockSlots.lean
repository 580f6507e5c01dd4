/-
**How both translated streams number their blocks.** The text block has slot 0.
-/
import FfxNexus.BlockProtocol
import FfxNexus.Go
import FfxNexus.Machine

namespace FfxNexus.BlockSlots
open BlockProtocol List Prod Machine

inductive Kind where
  | text | tool

inductive Piece where
  | text
  | tool (idx : Int) (fed : Bool)
deriving DecidableEq

structure Blocks where
  opened : Bool
  tools : List (Int × Int)
  marks : List (Mark Int Kind)

def Blocks.start : Blocks := ⟨false, [], []⟩

def Blocks.slot (b : Blocks) (idx : Int) : Int := if b.opened then idx + 1 else idx

def Blocks.slots (b : Blocks) : List Int := (if b.opened then [0] else []) ++ b.tools.map snd

variable (slot : Int) (ps : List Piece) (fed : Bool)

def feed : List (Mark Int Kind) :=
  if fed then [.delta slot .tool] else []

def Blocks.next (b : Blocks) : Piece → Blocks
  | .text => ⟨true, b.tools,
      b.marks ++ (if b.opened then [] else [.start 0 .text]) ++ [.delta 0 .text]⟩
  | .tool idx fed =>
    match b.tools.lookup idx with
    | none => ⟨b.opened, b.tools ++ [(idx, b.slot idx)],
        b.marks ++ [.start (b.slot idx) .tool] ++ feed (b.slot idx) fed⟩
    | some _ => ⟨b.opened, b.tools, b.marks ++ feed (b.slot idx) fed⟩

def blocks : Machine Blocks Piece Unit where
  step b p := (b.next p, ())

def slotOk (b : Blocks) : Piece → Prop
  | .text => b.opened = true ∨ 0 ∉ b.slots
  | .tool idx fed =>
    match b.tools.lookup idx with
    | none => b.slot idx ∉ b.slots
    | some _ => fed = true → b.slot idx ∈ b.tools.map snd

structure Consistent (b : Blocks) : Prop where
  names : b.slots.Perm (names b.marks)
  text : (0, Kind.text) ∈ started b.marks ↔ b.opened = true
  tool : ∀ i, (i, Kind.tool) ∈ started b.marks ↔ i ∈ b.tools.map snd
  open' : stopped b.marks = []
  keys : (b.tools.map fst).Nodup

lemma consistent_start : Consistent .start := by
  refine ⟨List.Perm.refl _, ?_, ?_, rfl, nodup_nil⟩
  · simp [Blocks.start]
  · simp [Blocks.start]

@[simp] lemma started_feed : started (feed slot fed) = [] := by
  cases fed <;> rfl

@[simp] lemma names_feed : names (feed slot fed) = [] := by
  cases fed <;> rfl

@[simp] lemma stopped_feed : stopped (feed slot fed) = [] := by
  cases fed <;> rfl

variable {idx : Int}

lemma not_mem_keys {τ : Type} {tools : List (Int × τ)}
    (hnone : tools.lookup idx = none) : idx ∉ tools.map fst := by
  rw [lookup_eq_none_iff] at hnone
  intro hmem
  obtain ⟨e, he, rfl⟩ := mem_map.mp hmem
  simpa using hnone e he

lemma lookup_of_mem {τ : Type} {tools : List (Int × τ)} {x : Int × τ}
    (hkeys : (tools.map fst).Nodup) (hx : x ∈ tools) : tools.lookup x.1 = some x.2 := by
  cases hlook : tools.lookup x.1 with
  | none => exact absurd (mem_map.mpr ⟨x, hx, rfl⟩) (not_mem_keys hlook)
  | some item =>
    have hsame := inj_on_of_nodup_map hkeys (Go.mem_of_lookup hlook) hx rfl
    rw [← hsame]

variable {so : List Int} {b : Blocks}

lemma Blocks.next_known {slot' : Int} {fed : Bool}
    (hlook : b.tools.lookup idx = some slot') : b.next (.tool idx fed) =
      ⟨b.opened, b.tools, b.marks ++ feed (b.slot idx) fed⟩ := by
  simp only [Blocks.next, hlook]

lemma Blocks.next_new {fed : Bool} (hlook : b.tools.lookup idx = none) : b.next (.tool idx fed) =
      ⟨b.opened, b.tools ++ [(idx, b.slot idx)],
        b.marks ++ [.start (b.slot idx) .tool] ++ feed (b.slot idx) fed⟩ := by
  simp only [Blocks.next, hlook]

lemma Consistent.next (hb : Consistent b) (p : Piece) : Consistent (b.next p) := by
  cases p with
  | text =>
    by_cases hopen : b.opened = true
    · have hnext : b.next .text = ⟨true, b.tools, b.marks ++ [.delta 0 .text]⟩ := by
        simp [Blocks.next, hopen]
      have hnames := hb.names
      simp only [Blocks.slots, hopen] at hnames
      rw [hnext]
      refine ⟨?_, ?_, ?_, ?_, hb.keys⟩
      · simpa [Blocks.slots] using hnames
      · simpa [hopen] using hb.text
      · simpa using hb.tool
      · simpa using hb.open'
    · have hnext : b.next .text =
          ⟨true, b.tools, b.marks ++ [.start 0 .text] ++ [.delta 0 .text]⟩ := by
        simp [Blocks.next, hopen]
      have hnames := hb.names
      simp only [Blocks.slots, hopen] at hnames
      rw [hnext]
      refine ⟨?_, ?_, ?_, ?_, hb.keys⟩
      · -- slot 0 comes first in the state and last on the wire
        simp only [names_append, names_delta, names_nil, append_nil]
        exact perm_append_comm.trans (hnames.append_right [0])
      · simp
      · simpa using hb.tool
      · simpa using hb.open'
  | tool idx fed =>
    cases hlook : b.tools.lookup idx with
    | some slot =>
      rw [Blocks.next_known hlook]
      refine ⟨?_, ?_, ?_, ?_, hb.keys⟩
      · simpa [Blocks.slots] using hb.names
      · simpa using hb.text
      · simpa using hb.tool
      · simpa using hb.open'
    | none =>
      rw [Blocks.next_new hlook]
      refine ⟨?_, ?_, ?_, ?_, ?_⟩
      · simp only [Blocks.slots, map_append, names_append, names_feed, names_start,
          names_nil, append_nil, ← append_assoc]
        exact hb.names.append_right _
      · simpa using hb.text
      · intro i
        have htool := hb.tool i
        simp only [started_append, started_start, started_nil, started_feed, append_nil,
          mem_append, map_append, htool]
        simp
      · simpa using hb.open'
      · rw [map_append, map_singleton, ← concat_eq_append, nodup_concat]
        exact ⟨not_mem_keys hlook, hb.keys⟩

lemma feeding_feed_iff {ms : List (Mark Int Kind)} {slot : Int} {fed : Bool} :
    Feeding (ms ++ feed slot fed) ↔ Feeding ms ∧ (fed = true → (slot, Kind.tool) ∈ started ms) := by
  cases fed with
  | false => simp [feed]
  | true =>
    simp only [true_imp_iff]
    exact feeding_delta_iff

lemma feeding_next_iff (hb : Consistent b) (p : Piece) :
    Feeding (b.next p).marks ↔ Feeding b.marks ∧ slotOk b p := by
  cases p with
  | text =>
    by_cases hopen : b.opened = true
    · have hmarks : (b.next .text).marks = b.marks ++ [.delta 0 .text] := by
        simp [Blocks.next, hopen]
      rw [hmarks, feeding_delta_iff]
      simp [slotOk, hb.text, hopen]
    · have hmarks : (b.next .text).marks = b.marks ++ [.start 0 .text] ++ [.delta 0 .text] := by
        simp [Blocks.next, hopen]
      have hfed : (0, Kind.text) ∈ started (b.marks ++ [Mark.start 0 .text]) := by
        simp
      rw [hmarks, feeding_delta_iff, feeding_start_iff]
      simp [slotOk, hopen, hb.names.mem_iff]
  | tool idx fed =>
    cases hlook : b.tools.lookup idx with
    | some slot =>
      have hmarks : (b.next (.tool idx fed)).marks = b.marks ++ feed (b.slot idx) fed := by
        simp only [Blocks.next, hlook]
      rw [hmarks, feeding_feed_iff, hb.tool]
      simp only [slotOk, hlook]
    | none =>
      have hmarks : (b.next (.tool idx fed)).marks =
          b.marks ++ [.start (b.slot idx) .tool] ++ feed (b.slot idx) fed := by
        simp only [Blocks.next, hlook]
      have hfed : (b.slot idx, Kind.tool) ∈
          started (b.marks ++ [Mark.start (b.slot idx) .tool]) := by
        simp
      rw [hmarks, feeding_feed_iff, feeding_start_iff, and_iff_left (fun _ => hfed)]
      simp only [slotOk, hlook, hb.names.mem_iff]

lemma consistent_run : Consistent (blocks.run .start ps) :=
  blocks.run_invariant consistent_start (fun _ p h => h.next p) ps

lemma feeding_run_iff : Feeding (blocks.run .start ps).marks ↔ blocks.Along slotOk .start ps := by
  have hrun := run_iff_along_of (M := blocks) (I := Consistent)
    (P := fun b => Feeding b.marks) (fun _ p h => h.next p) (fun _ p h => feeding_next_iff h p)
    consistent_start ps
  rw [hrun]
  exact and_iff_right feeding_nil

def early : List Piece → List Int
  | [] => []
  | .text :: _ => []
  | .tool idx _ :: ps => idx :: early ps

def late : List Piece → Option (List Piece)
  | [] => none
  | .text :: ps => some ps
  | .tool _ _ :: ps => late ps

def Placed (before : List Int) (idx : Int) (fed : Bool) : Prop :=
  if idx ∈ before then fed = true → idx + 1 ∈ before else idx ≠ -1 ∧ idx + 1 ∉ before

/-- **The condition.** No fragment before a text has index 0, and every fragment after it finds its
place. -/
def Orderly : Prop :=
  ∀ rest, late ps = some rest →
    0 ∉ early ps ∧ ∀ idx fed, .tool idx fed ∈ rest → Placed (early ps) idx fed

instance (before : List Int) (idx : Int) (fed : Bool) : Decidable (Placed before idx fed) :=
  inferInstanceAs (Decidable (if idx ∈ before then fed = true → idx + 1 ∈ before
    else idx ≠ -1 ∧ idx + 1 ∉ before))

structure AfterText (before : List Int) (b : Blocks) : Prop where
  opened : b.opened = true
  zero : 0 ∉ before
  entries : ∀ e ∈ b.tools, (e.1 ∈ before ∧ e.2 = e.1) ∨
    (e.1 ∉ before ∧ e.2 = e.1 + 1 ∧ e.1 ≠ -1 ∧ e.1 + 1 ∉ before)
  known : ∀ idx ∈ before, (idx, idx) ∈ b.tools

section
variable {before : List Int} {b : Blocks}

variable (hb : AfterText before b)
include hb

lemma AfterText.succ_mem_slots : idx + 1 ∈ b.tools.map snd ↔
      idx + 1 ∈ before ∨ (idx ∉ before ∧ idx ∈ b.tools.map fst) := by
  constructor
  · intro hmem
    obtain ⟨e, he, hslot⟩ := mem_map.mp hmem
    rcases hb.entries e he with ⟨hearly, hself⟩ | ⟨hlate, hnext, -, -⟩
    · rw [hself] at hslot
      exact .inl (hslot ▸ hearly)
    · have hidx : e.1 = idx := by omega
      rw [hidx] at hlate
      exact .inr ⟨hlate, mem_map.mpr ⟨e, he, hidx⟩⟩
  · rintro (hearly | ⟨hlate, hkey⟩)
    · exact mem_map.mpr ⟨_, hb.known _ hearly, rfl⟩
    obtain ⟨e, he, rfl⟩ := mem_map.mp hkey
    rcases hb.entries e he with ⟨hearly, -⟩ | ⟨-, hnext, -, -⟩
    · exact absurd hearly hlate
    · exact mem_map.mpr ⟨e, he, hnext⟩

lemma AfterText.slotOk_iff (idx : Int) (fed : Bool) :
    slotOk b (.tool idx fed) ↔ Placed before idx fed := by
  have hslot : b.slot idx = idx + 1 := by
    simp [Blocks.slot, hb.opened]
  cases hlook : b.tools.lookup idx with
  | none =>
    have hkey : idx ∉ b.tools.map fst := not_mem_keys hlook
    have hnew : idx ∉ before := by
      intro hearly
      exact hkey (mem_map.mpr ⟨_, hb.known idx hearly, rfl⟩)
    simp only [slotOk, hlook, hslot, Placed, if_neg hnew, Blocks.slots, hb.opened, if_true,
      mem_append, hb.succ_mem_slots, hkey, and_false, or_false, not_or, mem_singleton]
    constructor
    · rintro ⟨hzero, hfree⟩
      exact ⟨by omega, hfree⟩
    · rintro ⟨hne, hfree⟩
      exact ⟨by omega, hfree⟩
  | some slot =>
    have hentry := Go.mem_of_lookup hlook
    have hkey : idx ∈ b.tools.map fst := mem_map.mpr ⟨_, hentry, rfl⟩
    simp only [slotOk, hlook, hslot, hb.succ_mem_slots]
    by_cases hearly : idx ∈ before
    · simp [Placed, hearly]
    have hplaced : idx ≠ -1 ∧ idx + 1 ∉ before := by
      rcases hb.entries _ hentry with ⟨hin, -⟩ | ⟨-, -, hplaced⟩
      · exact absurd hin hearly
      · exact hplaced
    simp [Placed, hearly, hkey, hplaced]

lemma AfterText.next {fed : Bool}
    (hplaced : Placed before idx fed) : AfterText before (b.next (.tool idx fed)) := by
  cases hlook : b.tools.lookup idx with
  | some slot =>
    rw [Blocks.next_known hlook]
    exact ⟨hb.opened, hb.zero, hb.entries, hb.known⟩
  | none =>
    have hnew : idx ∉ before := by
      intro hearly
      exact not_mem_keys hlook (mem_map.mpr ⟨_, hb.known idx hearly, rfl⟩)
    have hslot : b.slot idx = idx + 1 := by
      simp [Blocks.slot, hb.opened]
    rw [Blocks.next_new hlook]
    refine ⟨hb.opened, hb.zero, ?_, ?_⟩
    · intro e he
      rcases mem_append.mp he with hold | hlast
      · exact hb.entries e hold
      · obtain rfl := mem_singleton.mp hlast
        rw [Placed, if_neg hnew] at hplaced
        exact .inr ⟨hnew, hslot, hplaced⟩
    · intro i hi
      exact mem_append_left _ (hb.known i hi)

lemma AfterText.along_iff (ps : List Piece) :
    blocks.Along slotOk b ps ↔ ∀ idx fed, .tool idx fed ∈ ps → Placed before idx fed := by
  induction ps generalizing b with
  | nil => exact ⟨fun _ _ _ h => (by cases h), fun _ => along_nil⟩
  | cons p ps ih =>
    rw [along_cons]
    cases p with
    | text =>
      have hnext : AfterText before (b.next .text) :=
        ⟨rfl, hb.zero, hb.entries, hb.known⟩
      have hih : blocks.Along slotOk (blocks.step b .text).1 ps ↔ _ := ih hnext
      rw [hih]
      simp [slotOk, hb.opened]
    | tool idx fed =>
      rw [hb.slotOk_iff]
      constructor
      · rintro ⟨hplaced, hrest⟩ idx' fed' hmem
        rcases mem_cons.mp hmem with heq | hmem
        · cases heq
          exact hplaced
        · exact (ih (hb.next hplaced)).mp hrest idx' fed' hmem
      · intro hall
        have hplaced := hall idx fed mem_cons_self
        refine ⟨hplaced, (ih (hb.next hplaced)).mpr ?_⟩
        intro idx' fed' hmem
        exact hall idx' fed' (mem_cons_of_mem _ hmem)

end

structure BeforeText (so : List Int) (b : Blocks) : Prop where
  opened : b.opened = false
  entries : ∀ e ∈ b.tools, e.2 = e.1
  known : ∀ idx, idx ∈ so ↔ (idx, idx) ∈ b.tools

section
variable (hb : BeforeText so b)
include hb

lemma BeforeText.afterText (hzero : 0 ∉ so) : AfterText so (b.next .text) := by
  refine ⟨rfl, hzero, ?_, ?_⟩
  · intro e he
    have hself : e.2 = e.1 := hb.entries e he
    have hmem : (e.1, e.1) ∈ b.tools := by
      have hpair : e = (e.1, e.1) := Prod.ext rfl hself
      exact hpair ▸ he
    exact .inl ⟨(hb.known e.1).mpr hmem, hself⟩
  · intro idx hidx
    exact (hb.known idx).mp hidx

lemma BeforeText.slotOk_text_iff : slotOk b .text ↔ 0 ∉ so := by
  have hslots : (0 : Int) ∈ b.tools.map Prod.snd ↔ 0 ∈ so := by
    rw [hb.known, mem_map]
    constructor
    · rintro ⟨e, he, hzero⟩
      have hself := hb.entries e he
      have hpair : e = (0, 0) := Prod.ext (hself.symm.trans hzero) hzero
      exact hpair ▸ he
    · intro hmem
      exact ⟨_, hmem, rfl⟩
  simp [slotOk, Blocks.slots, hb.opened, ← hslots]

lemma BeforeText.slotOk_tool (idx : Int) (fed : Bool) : slotOk b (.tool idx fed) := by
  have hslot : b.slot idx = idx := by
    simp [Blocks.slot, hb.opened]
  cases hlook : b.tools.lookup idx with
  | none =>
    have hslots : b.slots = b.tools.map snd := by
      simp [Blocks.slots, hb.opened]
    simp only [slotOk, hlook, hslot, hslots]
    intro hmem
    obtain ⟨e, he, hsnd⟩ := mem_map.mp hmem
    exact not_mem_keys hlook (mem_map.mpr ⟨e, he, (hb.entries e he).symm.trans hsnd⟩)
  | some slot =>
    have hentry := Go.mem_of_lookup hlook
    have hself : slot = idx := hb.entries _ hentry
    simp only [slotOk, hlook, hslot]
    intro _
    exact mem_map.mpr ⟨_, hentry, hself⟩

lemma BeforeText.next (idx : Int)
    (fed : Bool) : BeforeText (so ++ [idx]) (b.next (.tool idx fed)) := by
  have hslot : b.slot idx = idx := by
    simp [Blocks.slot, hb.opened]
  cases hlook : b.tools.lookup idx with
  | some slot =>
    have hentry := Go.mem_of_lookup hlook
    obtain rfl : slot = idx := hb.entries _ hentry
    rw [Blocks.next_known hlook]
    refine ⟨hb.opened, hb.entries, ?_⟩
    intro i
    rw [mem_append, mem_singleton, hb.known]
    constructor
    · rintro (hmem | rfl)
      · exact hmem
      · exact hentry
    · exact .inl
  | none =>
    rw [Blocks.next_new hlook, hslot]
    refine ⟨hb.opened, ?_, ?_⟩
    · intro e he
      rcases mem_append.mp he with hold | hlast
      · exact hb.entries e hold
      · rw [mem_singleton.mp hlast]
    · intro i
      simp [hb.known]

lemma BeforeText.along_iff (ps : List Piece) :
    blocks.Along slotOk b ps ↔ ∀ rest, late ps = some rest →
      0 ∉ so ++ early ps ∧ ∀ idx fed, .tool idx fed ∈ rest → Placed (so ++ early ps) idx fed := by
  induction ps generalizing so b with
  | nil => exact ⟨fun _ _ h => (by cases h), fun _ => along_nil⟩
  | cons p ps ih =>
    rw [along_cons]
    cases p with
    | text =>
      simp only [late, early, append_nil, Option.some.injEq, forall_eq']
      rw [hb.slotOk_text_iff]
      refine and_congr_right ?_
      intro hzero
      exact (hb.afterText hzero).along_iff ps
    | tool idx fed =>
      have hih := ih (hb.next idx fed)
      rw [append_assoc] at hih
      have hstep : blocks.Along slotOk (blocks.step b (.tool idx fed)).1 ps ↔ _ := hih
      rw [hstep, and_iff_right (hb.slotOk_tool idx fed)]
      rfl

end

lemma feeding_iff_orderly : Feeding (blocks.run .start ps).marks ↔ Orderly ps := by
  have hstart : BeforeText [] .start := by
    refine ⟨rfl, ?_, ?_⟩
    · intro e he
      cases he
    · intro idx
      simp [Blocks.start]
  rw [feeding_run_iff, hstart.along_iff]
  rfl

def Unfed : Prop := ∀ idx fed, .tool idx fed ∈ ps → fed = false

lemma slots_nodup_next_iff (b : Blocks) {p : Piece} (hp : Unfed [p]) :
    (b.next p).slots.Nodup ↔ b.slots.Nodup ∧ slotOk b p := by
  cases p with
  | text =>
    by_cases hopen : b.opened = true
    · simp [Blocks.next, Blocks.slots, slotOk, hopen]
    · simp [Blocks.next, Blocks.slots, slotOk, hopen, and_comm]
  | tool idx fed =>
    obtain rfl := hp idx fed mem_cons_self
    cases hlook : b.tools.lookup idx with
    | some slot => simp [Blocks.next, Blocks.slots, slotOk, hlook]
    | none =>
      have hslots : (b.next (.tool idx false)).slots = b.slots ++ [b.slot idx] := by
        simp [Blocks.next, Blocks.slots, hlook]
      rw [hslots, ← concat_eq_append, nodup_concat]
      simp only [slotOk, hlook]
      exact and_comm

lemma slots_nodup_iff_orderly {ps : List Piece} (hps : Unfed ps) :
    (blocks.run .start ps).slots.Nodup ↔ Orderly ps := by
  have hrun : ∀ b : Blocks, (blocks.run b ps).slots.Nodup ↔
      b.slots.Nodup ∧ blocks.Along slotOk b ps := by
    induction ps with
    | nil => exact fun b => ⟨fun h => ⟨h, along_nil⟩, And.left⟩
    | cons p ps ih =>
      intro b
      have hfirst : Unfed [p] := by
        intro idx fed hmem
        exact hps idx fed (mem_singleton.mp hmem ▸ mem_cons_self)
      have hrest := ih (fun idx fed hmem => hps idx fed (mem_cons_of_mem _ hmem)) (b.next p)
      rw [slots_nodup_next_iff b hfirst, and_assoc] at hrest
      rw [along_cons]
      exact hrest
  rw [hrun, ← feeding_iff_orderly, feeding_run_iff]
  exact and_iff_right nodup_nil

end FfxNexus.BlockSlots
