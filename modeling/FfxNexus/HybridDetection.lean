/-
**Chat bodies that hybrid detection diverts** (`IsCursorHybridRequest`, `TransformCursorHybrid`).
-/
import FfxNexus.CursorCompat

namespace FfxNexus.HybridDetection
open Schema JsonRecords CursorCompat List
open MessagesApi (opensWith isBlank)
variable (c : Codec) (r : Reader) (ms : List (String × String))

def MarshalsNested : Prop :=
  ∀ type name, ∃ function kind, function ≠ "" ∧
    members c.toReader (c.marshalChoice type name) = some [("function", function), ("type", kind)]

def FlatChoice (raw : String) : Prop :=
  opensWith '\x7b' raw = true ∧
    ∃ probe ∈ readChoice c.toReader raw, probe.function = "" ∧ probe.type ≠ "" ∧ probe.name ≠ ""

lemma not_flatChoice_marshalChoice {c : Codec} (hc : MarshalsNested c) (type name : String) :
    ¬ FlatChoice c (c.marshalChoice type name) := by
  rintro ⟨-, probe, hprobe, hfunction, -⟩
  obtain ⟨function, kind, hne, hmembers⟩ := hc type name
  have hvalues : values "function" [("function", function), ("type", kind)] = [function] := by
    have hfst : foldName "function" = "function" := by decide
    have hsnd : foldName "type" ≠ "function" := by decide
    simp [values, hfst, hsnd]
  simp only [readChoice, hmembers, Option.bind_eq_bind, Option.bind_some, Option.mem_def,
    Option.bind_eq_some_iff] at hprobe
  obtain ⟨type', -, name', -, hmk⟩ := hprobe
  obtain rfl := Option.some.inj hmk
  simp only [rawField, hvalues, getLast?_singleton, Option.getD_some] at hfunction
  exact hne hfunction

lemma normaliseHybridToolChoice_eq_iff {c : Codec} (hc : MarshalsNested c) (raw : String) :
    normaliseHybridToolChoice c raw = raw ↔
      raw = "" ∨ isBlank raw = false ∧ ¬ FlatChoice c raw := by
  unfold normaliseHybridToolChoice
  by_cases hempty : raw = ""
  · simp [hempty]
  rw [if_neg hempty]
  by_cases hblank : isBlank raw = true
  · rw [if_pos hblank]
    simp [hempty, hblank, Ne.symm hempty]
  rw [if_neg hblank]
  have hright : (raw = "" ∨ isBlank raw = false ∧ ¬ FlatChoice c raw) ↔ ¬ FlatChoice c raw := by
    simp [hempty, hblank]
  rw [hright]
  by_cases hobject : opensWith '\x7b' raw = false
  · rw [if_pos hobject]
    refine iff_of_true rfl ?_
    rintro ⟨hopens, -⟩
    simp [hobject] at hopens
  rw [if_neg hobject, Bool.not_eq_false] at *
  cases hprobe : readChoice c.toReader raw with
  | none =>
    refine iff_of_true rfl ?_
    rintro ⟨-, probe, hmem, -⟩
    simp [hprobe] at hmem
  | some probe =>
    have hflat : FlatChoice c raw ↔
        probe.function = "" ∧ probe.type ≠ "" ∧ probe.name ≠ "" := by
      simp [FlatChoice, hobject, hprobe]
    dsimp only
    by_cases hfunction : probe.function ≠ ""
    · rw [if_pos hfunction]
      exact iff_of_true rfl fun h => hfunction (hflat.mp h).1
    rw [if_neg hfunction]
    split_ifs with hnamed
    · have hraw : FlatChoice c raw := hflat.mpr ⟨not_not.mp hfunction, hnamed⟩
      refine iff_of_false (fun heq => ?_) (not_not.mpr hraw)
      rw [← heq] at hraw
      exact not_flatChoice_marshalChoice hc _ _ hraw
    · exact iff_of_true rfl fun h => hnamed (hflat.mp h).2

def ToolKept (cell : Tool) (raw : String) : Prop :=
  ∀ ms nested, members c.toReader raw = some ms → readNested ms = some nested →
    ¬ (nested.type = "custom" ∧ nested.custom ≠ "") ∧
      (nested.function ≠ "" → cell.custom = "" ∧
        (nested.type = "function" ∨ nested.type ≠ "custom" ∧
          ∃ flat ∈ readFlat ms, flat.name ≠ "" ∧ flat.function c = nested.function))

variable {raw : String} {nested : NestedTool}

lemma toolKept_iff {c : Codec} {cell : Tool} {ms : List (String × String)}
    (hms : members c.toReader raw = some ms) (hnested : readNested ms = some nested) :
    ToolKept c cell raw ↔ ¬ (nested.type = "custom" ∧ nested.custom ≠ "") ∧
      (nested.function ≠ "" → cell.custom = "" ∧
        (nested.type = "function" ∨ nested.type ≠ "custom" ∧
          ∃ flat ∈ readFlat ms, flat.name ≠ "" ∧ flat.function c = nested.function)) := by
  constructor
  · intro hkept
    exact hkept ms nested hms hnested
  · intro hkept ms' nested' hms' hnested'
    rw [hms] at hms'
    obtain rfl := Option.some.inj hms'
    rw [hnested] at hnested'
    obtain rfl := Option.some.inj hnested'
    exact hkept

lemma readFlat_type {ms : List (String × String)} {flat : FlatTool}
    (hnested : readNested ms = some nested) (hflat : readFlat ms = some flat) :
    flat.type = nested.type := by
  simp only [readNested, readFlat, Option.bind_eq_bind, Option.bind_eq_some_iff] at hnested hflat
  obtain ⟨type, htype, hmk⟩ := hnested
  obtain ⟨type', htype', name, -, description, -, hmk'⟩ := hflat
  rw [htype] at htype'
  obtain rfl := Option.some.inj htype'
  obtain rfl := Option.some.inj hmk
  obtain rfl := Option.some.inj hmk'
  rfl

lemma normalise_custom {c : Codec} {ms : List (String × String)} {t : Tool}
    (ht : nested.normalise c ms = some t) : t.custom = "" := by
  unfold NestedTool.normalise at ht
  split_ifs at ht with hflat htype hfunction hcustom hblock
  · obtain ⟨flat, -, rfl⟩ := Option.map_eq_some_iff.mp ht
    rfl
  · obtain rfl := Option.some.inj ht
    rfl
  · obtain rfl := Option.some.inj ht
    rfl
  · obtain ⟨flat, -, hmk⟩ := Option.bind_eq_some_iff.mp ht
    split_ifs at hmk
    obtain rfl := Option.some.inj hmk
    rfl

lemma normalise_function_iff {c : Codec} {ms : List (String × String)} (cell : Tool)
    (hnested : readNested ms = some nested)
    (hcustom : ¬ (nested.type = "custom" ∧ nested.custom ≠ "")) (hfunction : nested.function ≠ "") :
    nested.normalise c ms =
        some { cell with type := nested.type, function := nested.function } ↔
      cell.custom = "" ∧ (nested.type = "function" ∨ nested.type ≠ "custom" ∧
        ∃ flat ∈ readFlat ms, flat.name ≠ "" ∧ flat.function c = nested.function) := by
  unfold NestedTool.normalise
  rw [if_neg (fun h => hfunction h.2)]
  by_cases htype : nested.type = "function"
  · rw [if_pos htype, if_neg hfunction, htype]
    simp only [Option.some.injEq, Tool.mk.injEq, true_and, true_or, and_true]
    exact eq_comm
  rw [if_neg htype]
  by_cases hkind : nested.type = "custom"
  · have hblock : nested.custom = "" := by
      by_contra hne
      exact hcustom ⟨hkind, hne⟩
    rw [if_pos hkind, if_pos hblock]
    simp [hkind]
  rw [if_neg hkind]
  simp only [htype, hkind, false_or, ne_eq, not_false_eq_true, true_and, Option.mem_def]
  cases hflat : readFlat ms with
  | none => simp
  | some flat =>
    have hsame := readFlat_type hnested hflat
    rw [Option.bind_some]
    by_cases hname : flat.name = ""
    · simp [hname]
    rw [if_neg hname]
    simp only [Option.some.injEq, Tool.mk.injEq, hsame, true_and, exists_eq_left', hname,
      not_false_eq_true]
    rw [and_comm, eq_comm]

lemma normaliseTool_eq_iff {c : Codec} {cell : Tool}
    (haccepted : (unmarshalTool c raw cell).isSome = true) :
    normaliseTool c raw = unmarshalTool c raw cell ↔ ToolKept c cell raw := by
  obtain ⟨t, ht⟩ := Option.isSome_iff_exists.mp haccepted
  simp only [unmarshalTool, Option.bind_eq_bind, Option.bind_eq_some_iff] at ht
  obtain ⟨ms, hms, nested, hnested, hbranch⟩ := ht
  have hnormalise : normaliseTool c raw = nested.normalise c ms := by
    simp [normaliseTool, hms, hnested]
  rw [toolKept_iff hms hnested, unmarshalTool, hms, Option.bind_eq_bind, Option.bind_some, hnested,
    Option.bind_eq_bind, Option.bind_some, hnormalise]
  by_cases hcustom : nested.type = "custom" ∧ nested.custom ≠ ""
  · rw [if_pos hcustom]
    refine iff_of_false (fun heq => ?_) (fun h => h.1 hcustom)
    exact hcustom.2 (normalise_custom heq)
  rw [if_neg hcustom]
  split_ifs with hfunction
  · rw [normalise_function_iff cell hnested hcustom hfunction]
    exact ⟨fun h => ⟨hcustom, fun _ => h⟩, fun h => h.2 hfunction⟩
  · exact iff_of_true rfl ⟨hcustom, fun h => absurd h hfunction⟩

def ToolsKept : Prop :=
  ∀ before raw raws s, values "tools" ms = before ++ [raw] → isNull raw = false →
    c.array raw = some raws →
    before.foldlM (fun st raw => slice c.toReader zeroTool (unmarshalTool c) raw st) .nil = some s →
    ∀ (i : ℕ) tool, raws[i]? = some tool → ToolKept c (s.cells[i]?.getD zeroTool) tool

lemma elements_raw {raws xs : List String} {cells : List String}
    (hxs : elements "" (fun raw _ => some raw) raws cells = some xs) : xs = raws := by
  have hfilter := (elements_eq_filterMap_iff (fun raw => some raw) hxs).mpr fun _ _ _ => rfl
  rw [← hfilter, filterMap_some]

lemma tools_eq_iff {c : Codec} {ms : List (String × String)} {s : Slice String} {t : Slice Tool}
    (hs : field "tools" (slice c.toReader "" fun raw _ => some raw) .nil ms = some s)
    (ht : field "tools" (slice c.toReader zeroTool (unmarshalTool c)) .nil ms = some t) :
    s.value.filterMap (normaliseTool c) = t.value ↔ ToolsKept c ms := by
  unfold ToolsKept
  rcases eq_nil_or_concat (values "tools" ms) with hvalues | ⟨before, raw, hvalues⟩
  · rw [field_nil _ _ hvalues] at hs ht
    obtain rfl := Option.some.inj hs
    obtain rfl := Option.some.inj ht
    simp [hvalues, Slice.value, Slice.nil]
  rw [concat_eq_append] at hvalues
  rw [field_concat _ _ hvalues, Option.bind_eq_some_iff] at hs ht
  obtain ⟨s0, -, hs⟩ := hs
  obtain ⟨t0, ht0, ht⟩ := ht
  rcases slice_value hs with ⟨hnull, hsvalue⟩ | ⟨hnull, raws, xs, harray, hxs, hsvalue⟩
  · rcases slice_value ht with ⟨-, htvalue⟩ | ⟨hnull', -⟩
    · rw [hsvalue, htvalue]
      refine iff_of_true rfl ?_
      intro before' raw' raws s' hvalues' hnull'
      rw [hvalues] at hvalues'
      obtain ⟨rfl, hraw⟩ := append_inj' hvalues' rfl
      obtain rfl := singleton_injective hraw
      simp [hnull] at hnull'
    · simp [hnull] at hnull'
  · rcases slice_value ht with ⟨hnull', -⟩ | ⟨-, raws', ys, harray', hys, htvalue⟩
    · simp [hnull] at hnull'
    rw [harray] at harray'
    obtain rfl := Option.some.inj harray'
    rw [hsvalue, htvalue, elements_raw hxs, elements_eq_filterMap_iff _ hys]
    constructor
    · intro hall before' raw' raws' s' hvalues' _ harray' hs' i tool htool
      rw [hvalues] at hvalues'
      obtain ⟨rfl, hraw⟩ := append_inj' hvalues' rfl
      obtain rfl := singleton_injective hraw
      rw [ht0] at hs'
      rw [harray] at harray'
      obtain rfl := Option.some.inj hs'
      obtain rfl := Option.some.inj harray'
      exact (normaliseTool_eq_iff (isSome_of_elements hys i tool htool)).mp (hall i tool htool)
    · intro hkept i tool htool
      exact (normaliseTool_eq_iff (isSome_of_elements hys i tool htool)).mpr
        (hkept before raw raws t0 hvalues hnull harray ht0 i tool htool)

def HasMessages : Prop :=
  ∃ raw ∈ (values "messages" ms).getLast?, isNull raw = false ∧ r.array raw ≠ some []

def UnknownItem (it : InputItem) : Prop :=
  it.role ∉ ["user", "system", "assistant", "developer"] ∧
    it.type ∉ ["function_call", "function_call_output", "tool_use", "tool_result"]

def SilentInput (raw : String) : Prop :=
  raw = "" ∨ raw = "null" ∨ opensWith '[' raw = true ∧
    ∃ raws items, r.array raw = some raws ∧ raws.mapM (readItem r) = some items ∧
      ∀ it ∈ items, UnknownItem it

def UnreadableInput (raw : String) : Prop :=
  raw ≠ "" ∧ raw ≠ "null" ∧ parseInputToMessages r raw = none

lemma message_eq_none_iff (it : InputItem) :
    it.message r = none ↔ UnknownItem it := by
  unfold InputItem.message UnknownItem
  by_cases hrole : it.role ∈ ["user", "system", "assistant", "developer"]
  · rw [if_pos hrole]
    simp [hrole]
  rw [if_neg hrole]
  split_ifs with hcall houtput huse hresult
  · simp [hcall]
  · simp [houtput]
  · simp [huse]
  · simp [hresult]
  · simp [hrole, hcall, houtput, huse, hresult]

lemma array_not_blank (hopens : opensWith '[' raw = true) :
    isBlank raw = false ∧ opensWith '"' raw = false := by
  simp only [opensWith, decide_eq_true_eq] at hopens
  constructor
  · simp only [isBlank, decide_eq_false_iff_not, not_or]
    constructor
    · intro hnil
      simp [hnil] at hopens
    · intro hnull
      simp [hnull] at hopens
  · simp [opensWith, hopens]

lemma parseInputToMessages_eq_nil_iff (r : Reader) (raw : String) :
    parseInputToMessages r raw = some [] ↔ opensWith '[' raw = true ∧
      ∃ raws items, r.array raw = some raws ∧ raws.mapM (readItem r) = some items ∧
        ∀ it ∈ items, UnknownItem it := by
  by_cases hopens : opensWith '[' raw = true
  · obtain ⟨hblank, hquote⟩ := array_not_blank hopens
    unfold parseInputToMessages
    rw [hblank, hquote, hopens]
    simp only [Bool.false_eq_true, if_false, Bool.true_eq_false, Option.bind_eq_bind,
      Option.bind_eq_some_iff, true_and]
    constructor
    · rintro ⟨raws, hraws, items, hitems, hnone⟩
      refine ⟨raws, items, hraws, hitems, fun it hit => ?_⟩
      rw [← message_eq_none_iff r]
      exact filterMap_eq_nil_iff.mp (Option.some.inj hnone) it hit
    · rintro ⟨raws, items, hraws, hitems, hunknown⟩
      refine ⟨raws, hraws, items, hitems, congrArg some (filterMap_eq_nil_iff.mpr ?_)⟩
      intro it hit
      rw [message_eq_none_iff]
      exact hunknown it hit
  · refine iff_of_false ?_ (fun h => hopens h.1)
    unfold parseInputToMessages
    rw [Bool.not_eq_true] at hopens
    rw [if_pos hopens]
    split_ifs
    · simp
    · simp
    · simp

section
variable {r : Reader} {ms : List (String × String)} {shared : SharedFields}

variable (hshared : readShared r ms = some shared)
include hshared

lemma readShared_eq_some :
    (∃ s, field "messages" (slice r zeroMessage (unmarshalMessage r)) .nil ms = some s ∧
        shared.messages = s.value) ∧
      field "max_tokens" (pointer 0 fun raw _ => r.int raw) none ms = some shared.maxTokens ∧
      shared.toolChoice = rawField "tool_choice" "" ms := by
  simp only [readShared, Option.bind_eq_bind, Option.bind_eq_some_iff] at hshared
  obtain ⟨model, -, messages, hmessages, temperature, -, topP, -, maxTokens, hmaxTokens, stream, -,
    stop, -, user, -, parallelToolCalls, -, hmk⟩ := hshared
  obtain rfl := Option.some.inj hmk
  exact ⟨⟨messages, hmessages, rfl⟩, hmaxTokens, rfl⟩

lemma messages_ne_nil_iff :
    shared.messages ≠ [] ↔ HasMessages r ms := by
  obtain ⟨⟨s, hs, hvalue⟩, -⟩ := readShared_eq_some hshared
  rw [hvalue, ne_eq, slice_field_eq_nil_iff hs]
  unfold HasMessages
  push Not
  simp only [Bool.not_eq_true]

lemma hybridMessages_eq_iff (input : String) :
    hybridMessages r shared.messages input = some shared.messages ↔
      HasMessages r ms ∨ SilentInput r input := by
  rw [← messages_ne_nil_iff hshared]
  unfold hybridMessages SilentInput
  by_cases hmessages : shared.messages = []
  · rw [hmessages, length_nil, if_neg (Nat.lt_irrefl 0)]
    split_ifs with hgiven
    · rw [parseInputToMessages_eq_nil_iff]
      simp [hgiven.1, hgiven.2]
    simp only [true_iff, ne_eq, not_true_eq_false, false_or]
    by_cases hempty : input = ""
    · exact .inl hempty
    · refine .inr (.inl ?_)
      by_contra hnull
      exact hgiven ⟨hempty, hnull⟩
  · rw [if_pos (length_pos_iff.mpr hmessages)]
    exact iff_of_true rfl (.inl hmessages)

lemma hybridMessages_eq_none_iff (input : String) :
    hybridMessages r shared.messages input = none ↔
      ¬ HasMessages r ms ∧ UnreadableInput r input := by
  rw [← messages_ne_nil_iff hshared]
  unfold hybridMessages UnreadableInput
  by_cases hmessages : shared.messages = []
  · rw [hmessages, length_nil, if_neg (Nat.lt_irrefl 0)]
    split_ifs with hgiven
    · simp [hgiven.1, hgiven.2]
    refine iff_of_false (by simp) ?_
    rintro ⟨-, hempty, hnull, -⟩
    exact hgiven ⟨hempty, hnull⟩
  · rw [if_pos (length_pos_iff.mpr hmessages)]
    exact iff_of_false (by simp) fun h => h.1 hmessages

end

def HybridRefused (c : Codec) (ms : List (String × String)) : Prop :=
  (∃ raw ∈ values "max_output_tokens" ms, isNull raw = false ∧ c.int raw = none) ∨
    (∃ raw ∈ values "tools" ms, isNull raw = false ∧ c.array raw = none) ∨
    ¬ HasMessages c.toReader ms ∧ UnreadableInput c.toReader (rawField "input" "" ms)

structure Kept (c : Codec) (ms : List (String × String)) : Prop where
  format : Absent "response_format" ms
  eval : Absent "nexus_eval" ms
  limit : ¬ Absent "max_tokens" ms ∨ Absent "max_output_tokens" ms
  choice : rawField "tool_choice" "" ms = "" ∨
    isBlank (rawField "tool_choice" "" ms) = false ∧ ¬ FlatChoice c (rawField "tool_choice" "" ms)
  messages : HasMessages c.toReader ms ∨ SilentInput c.toReader (rawField "input" "" ms)
  tools : ToolsKept c ms

/-- **The condition**: a shared field cannot be read, or both decoders refuse the rest, or both
accept it and nothing is dropped or rewritten. -/
def Unaltered (c : Codec) (ms : List (String × String)) : Prop :=
  readShared c.toReader ms = none ∨
    (readChat c ms = none ∧ HybridRefused c ms) ∨
    (readChat c ms ≠ none ∧ ¬ HybridRefused c ms ∧ Kept c ms)

section
variable {c : Codec} {ms : List (String × String)}

lemma readHybrid_eq_some {h : HybridFields} (hh : readHybrid c.toReader ms = some h) :
    h.input = rawField "input" "" ms ∧
      field "max_output_tokens" (pointer 0 fun raw _ => c.int raw) none ms =
        some h.maxOutputTokens ∧
      ∃ s, field "tools" (slice c.toReader "" fun raw _ => some raw) .nil ms = some s ∧
        h.tools = s.value := by
  simp only [readHybrid, Option.bind_eq_bind, Option.bind_eq_some_iff] at hh
  obtain ⟨maxOutputTokens, hlimit, tools, htools, hmk⟩ := hh
  obtain rfl := Option.some.inj hmk
  exact ⟨rfl, hlimit, tools, htools, rfl⟩

lemma readChat_eq_some {own : ChatFields} (hown : readChat c ms = some own) :
    (∃ t, field "tools" (slice c.toReader zeroTool (unmarshalTool c)) .nil ms = some t ∧
        own.tools = t.value) ∧
      (own.responseFormat = none ↔ Absent "response_format" ms) ∧
      (own.nexusEval = none ↔ Absent "nexus_eval" ms) := by
  simp only [readChat, Option.bind_eq_bind, Option.bind_eq_some_iff] at hown
  obtain ⟨tools, htools, effort, -, format, hformat, eval, heval, hmk⟩ := hown
  obtain rfl := Option.some.inj hmk
  refine ⟨⟨tools, htools, rfl⟩, pointer_field_eq_none_iff hformat, ?_⟩
  rw [Option.map_eq_none_iff]
  exact pointer_field_eq_none_iff heval

lemma readHybrid_eq_none_iff :
    readHybrid c.toReader ms = none ↔
      (∃ raw ∈ values "max_output_tokens" ms, isNull raw = false ∧ c.int raw = none) ∨
        ∃ raw ∈ values "tools" ms, isNull raw = false ∧ c.array raw = none := by
  have hslice := slice_eq_none_iff c.toReader "" fun raw (_ : String) => Option.some_ne_none raw
  rw [← field_eq_none_iff (pointer_eq_none_iff 0 c.int) _ none,
    ← field_eq_none_iff hslice _ .nil]
  unfold readHybrid
  cases field "max_output_tokens" (pointer 0 fun raw _ => c.int raw) none ms with
  | none => simp
  | some limit =>
    cases field "tools" (slice c.toReader "" fun raw _ => some raw) .nil ms <;> simp

lemma hybrid_refused_iff {shared : SharedFields}
    (hshared : readShared c.toReader ms = some shared) :
    (readHybrid c.toReader ms).bind
        (fun h => hybridMessages c.toReader shared.messages h.input) = none ↔
      HybridRefused c ms := by
  unfold HybridRefused
  rw [← or_assoc, ← readHybrid_eq_none_iff]
  cases hh : readHybrid c.toReader ms with
  | none => simp
  | some h =>
    obtain ⟨hinput, -⟩ := readHybrid_eq_some hh
    rw [Option.bind_some, hybridMessages_eq_none_iff hshared, hinput]
    simp

lemma canonical_eq_iff (hc : MarshalsNested c) {shared : SharedFields} {own : ChatFields}
    {h : HybridFields} {messages : List Message}
    (hshared : readShared c.toReader ms = some shared) (hown : readChat c ms = some own)
    (hh : readHybrid c.toReader ms = some h)
    (hmessages : hybridMessages c.toReader shared.messages h.input = some messages) :
    (messages = shared.messages ∧ shared.maxTokens.or h.maxOutputTokens = shared.maxTokens ∧
        h.tools.filterMap (normaliseTool c) = own.tools ∧ none = own.responseFormat ∧
        none = own.nexusEval ∧
        normaliseHybridToolChoice c shared.toolChoice = shared.toolChoice) ↔
      Kept c ms := by
  obtain ⟨-, hmaxTokens, hchoice⟩ := readShared_eq_some hshared
  obtain ⟨⟨t, ht, htools⟩, hformat, heval⟩ := readChat_eq_some hown
  obtain ⟨hinput, hlimit, s, hs, hraws⟩ := readHybrid_eq_some hh
  have hkeeps : messages = shared.messages ↔
      HasMessages c.toReader ms ∨ SilentInput c.toReader (rawField "input" "" ms) := by
    rw [← hinput, ← hybridMessages_eq_iff hshared, hmessages, Option.some.injEq]
  have hor : shared.maxTokens.or h.maxOutputTokens = shared.maxTokens ↔
      ¬ Absent "max_tokens" ms ∨ Absent "max_output_tokens" ms := by
    rw [← pointer_field_eq_none_iff hmaxTokens, ← pointer_field_eq_none_iff hlimit]
    cases shared.maxTokens <;> simp
  rw [hkeeps, hor, hraws, htools, tools_eq_iff hs ht, eq_comm, hformat, eq_comm, heval, hchoice,
    normaliseHybridToolChoice_eq_iff hc]
  constructor
  · rintro ⟨hm, hl, hk, hf, he, hch⟩
    exact ⟨hf, he, hl, hch, hm, hk⟩
  · rintro ⟨hf, he, hl, hch, hm, hk⟩
    exact ⟨hm, hl, hk, hf, he, hch⟩

lemma transform_eq_iff (hc : MarshalsNested c) {body : String}
    (hbody : members c.toReader body = some ms) :
    (transformCursorHybrid c body).map Request.toCanonical =
        (unmarshalRequest c body).map Request.toCanonical ↔ Unaltered c ms := by
  unfold Unaltered transformCursorHybrid unmarshalRequest
  rw [hbody]
  simp only [Option.bind_eq_bind, Option.bind_some]
  cases hshared : readShared c.toReader ms with
  | none => simp
  | some shared =>
    have hrefused := hybrid_refused_iff hshared
    simp only [Option.bind_some, reduceCtorEq, false_or]
    cases hh : readHybrid c.toReader ms with
    | none =>
      have hyes : HybridRefused c ms := by
        rw [← hrefused, hh]
        rfl
      cases readChat c ms with
      | none => simp [hyes]
      | some own => simp [hyes]
    | some h =>
      rw [hh, Option.bind_some] at hrefused
      cases hmessages : hybridMessages c.toReader shared.messages h.input with
      | none =>
        have hyes : HybridRefused c ms := hrefused.mp hmessages
        cases readChat c ms with
        | none => simp [hyes, hmessages]
        | some own => simp [hyes, hmessages]
      | some messages =>
        have hno : ¬ HybridRefused c ms := by
          rw [← hrefused, hmessages]
          simp
        cases hown : readChat c ms with
        | none => simp [hno, hmessages]
        | some own =>
          rw [← canonical_eq_iff hc hshared hown hh hmessages]
          simp [hno, hmessages, and_assoc]

end

theorem hybrid_detection_harmless_iff (c : Codec) (hc : MarshalsNested c) (body : String)
    (ms : List (String × String)) (hbody : members c.toReader body = some ms) :
    (decodeBody c body).map Request.toCanonical =
        (unmarshalRequest c body).map Request.toCanonical ↔
      isCursorHybridRequest body = false ∨ Unaltered c ms := by
  unfold decodeBody
  split_ifs with hdetected
  · rw [transform_eq_iff hc hbody]
    simp [hdetected]
  · exact iff_of_true rfl (.inl (by simpa using hdetected))

def userTurn : String := "\x7b\"role\":\"user\",\"content\":\"hi\"\x7d"

def jsonFormat : String := "\x7b\"type\":\"json_object\"\x7d"

def inputTag : String := "\x7b\"input\":1\x7d"

def taggedBody : String :=
  "\x7b\"model\":\"m\",\"messages\":[" ++ userTurn ++ "],\"metadata\":" ++ inputTag ++ "\x7d"

def taggedMembers : List (String × String) :=
  [("model", "\"m\""), ("messages", "[" ++ userTurn ++ "]"), ("metadata", inputTag)]

def formatBody : String :=
  "\x7b\"model\":\"m\",\"messages\":[" ++ userTurn ++ "],\"response_format\":" ++ jsonFormat ++
    ",\"metadata\":" ++ inputTag ++ "\x7d"

def formatMembers : List (String × String) :=
  [("model", "\"m\""), ("messages", "[" ++ userTurn ++ "]"), ("response_format", jsonFormat),
    ("metadata", inputTag)]

def nestedChoice : String :=
  "\x7b\"function\":\x7b\"name\":\"f\"\x7d,\"type\":\"function\"\x7d"

def sampleCodec : Codec where
  object raw :=
    if raw = taggedBody then some taggedMembers
    else if raw = formatBody then some formatMembers
    else if raw = userTurn then some [("role", "\"user\""), ("content", "\"hi\"")]
    else if raw = jsonFormat then some [("type", "\"json_object\"")]
    else if raw = nestedChoice then
      some [("function", "\x7b\"name\":\"f\"\x7d"), ("type", "\"function\"")]
    else none
  array raw := if raw = "[" ++ userTurn ++ "]" then some [userTurn] else none
  float _ := none
  int _ := none
  marshalFunction name _ _ := name
  marshalGrammar name _ _ := some name
  marshalChoice _ _ := nestedChoice

lemma sampleCodec_marshalsNested : MarshalsNested sampleCodec := by
  intro type name
  have hmembers : members sampleCodec.toReader nestedChoice =
      some [("function", "\x7b\"name\":\"f\"\x7d"), ("type", "\"function\"")] := by
    decide
  exact ⟨_, _, by decide, hmembers⟩

theorem hybrid_detection_harmless_tagged :
    MarshalsNested sampleCodec ∧ members sampleCodec.toReader taggedBody = some taggedMembers ∧
      isCursorHybridRequest taggedBody = true ∧ Unaltered sampleCodec taggedMembers :=
  ⟨sampleCodec_marshalsNested, by decide +kernel, by decide +kernel,
    ((hybrid_detection_harmless_iff sampleCodec sampleCodec_marshalsNested taggedBody taggedMembers
      (by decide +kernel)).mp (by decide +kernel)).resolve_left (by decide +kernel)⟩

theorem hybrid_detection_drops_format :
    members sampleCodec.toReader formatBody = some formatMembers ∧
      (∀ m ∈ formatMembers, m.1 ≠ "input") ∧
      (∃ m ∈ formatMembers, m.1 = "messages" ∧ sampleCodec.array m.2 = some [userTurn]) ∧
      isCursorHybridRequest formatBody = true ∧
      (unmarshalRequest sampleCodec formatBody).map (·.responseFormat) =
        some (some ⟨"json_object", none⟩) ∧
      (decodeBody sampleCodec formatBody).map (·.responseFormat) = some none := by
  decide +kernel

end FfxNexus.HybridDetection
