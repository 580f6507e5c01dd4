/-
**The document in an answer** (`RepairJSON`, `extractBracketed` and `stripCodeFence` of
`internal/guardrails/schema.go`).
-/
import Mathlib.Data.List.TakeWhile
import FfxNexus.Guardrails
import FfxNexus.JsonText

namespace FfxNexus.Guardrails
open JsonText List

def Brackets (opening closing : Char) : Prop :=
  (opening = '{' ∧ closing = '}') ∨ (opening = '[' ∧ closing = ']')

section
variable {opening closing : Char} {depth : Int} {seen rest : List Char}
variable {c : Char}

lemma extractLoop_pass (hquote : c ≠ '"') (hopen : c ≠ opening) (hclose : c ≠ closing) :
    extractLoop opening closing depth false false seen (c :: rest) =
      extractLoop opening closing depth false false (c :: seen) rest := by
  rw [extractLoop, if_neg Bool.false_ne_true, if_neg hquote, if_neg hopen, if_neg hclose]

lemma extractLoop_plain (hquote : c ≠ '"') (hslash : c ≠ '\\') :
    extractLoop opening closing depth true false seen (c :: rest) =
      extractLoop opening closing depth true false (c :: seen) rest := by
  rw [extractLoop, if_pos rfl, if_neg Bool.false_ne_true, if_neg hslash, if_neg hquote]

lemma extractLoop_escape : extractLoop opening closing depth true false seen ('\\' :: c :: rest) =
      extractLoop opening closing depth true false (c :: '\\' :: seen) rest := by
  rw [extractLoop, if_pos rfl, if_neg Bool.false_ne_true, if_pos rfl, extractLoop, if_pos rfl,
    if_pos rfl]

variable {inner : List Char}

lemma extractLoop_contents (h : Contents inner) (seen : List Char) :
    extractLoop opening closing depth true false seen (inner ++ '"' :: rest) =
      extractLoop opening closing depth false false ('"' :: (inner.reverse ++ seen)) rest := by
  induction h generalizing seen with
  | nil =>
    rw [nil_append, extractLoop, if_pos rfl, if_neg Bool.false_ne_true,
      if_neg (by decide), if_pos rfl]
    rfl
  | plain hquote hslash _ _ ih =>
    rw [cons_append, extractLoop_plain hquote hslash, ih]
    simp
  | escape _ _ ih =>
    rw [cons_append, cons_append, extractLoop_escape, ih]
    simp
  | unicode hhex _ ih =>
    have hplain : ∀ h, isHex h = true → h ≠ '"' ∧ h ≠ '\\' := by
      intro h hh
      constructor
      · rintro rfl
        exact absurd hh (by decide)
      · rintro rfl
        exact absurd hh (by decide)
    simp only [forall_mem_cons] at hhex
    obtain ⟨h1, h2, h3, h4, -⟩ := hhex
    simp only [cons_append]
    rw [extractLoop_escape, extractLoop_plain (hplain _ h1).1 (hplain _ h1).2,
      extractLoop_plain (hplain _ h2).1 (hplain _ h2).2,
      extractLoop_plain (hplain _ h3).1 (hplain _ h3).2,
      extractLoop_plain (hplain _ h4).1 (hplain _ h4).2, ih]
    simp

lemma extractLoop_string {q : List Char} (hq : StringText q) :
    extractLoop opening closing depth false false seen (q ++ rest) =
      extractLoop opening closing depth false false (q.reverse ++ seen) rest := by
  obtain ⟨inner, hinner, rfl⟩ := hq
  have hsplit : '"' :: (inner ++ ['"']) ++ rest = '"' :: (inner ++ '"' :: rest) := by simp
  rw [hsplit, extractLoop, if_neg Bool.false_ne_true, extractLoop_contents hinner]
  simp

lemma extractLoop_open (hopen : opening ≠ '"') :
    extractLoop opening closing depth false false seen (opening :: rest) =
      extractLoop opening closing (depth + 1) false false (opening :: seen) rest := by
  rw [extractLoop, if_neg Bool.false_ne_true, if_neg hopen, if_pos rfl]

lemma extractLoop_close (hclose : closing ≠ '"') (hne : closing ≠ opening) :
    extractLoop opening closing depth false false seen (closing :: rest) =
      if depth - 1 = 0 then some (closing :: seen).reverse
      else extractLoop opening closing (depth - 1) false false (closing :: seen) rest := by
  rw [extractLoop, if_neg Bool.false_ne_true, if_neg hclose, if_neg hne, if_pos rfl]

lemma extractLoop_pair (hopen : opening ≠ '"') (hclose : closing ≠ '"') (hne : closing ≠ opening)
    (hdepth : 0 < depth) (hinner : ∀ (depth : Int) (seen rest : List Char), 0 < depth →
      extractLoop opening closing depth false false seen (inner ++ rest) =
        extractLoop opening closing depth false false (inner.reverse ++ seen) rest) :
    extractLoop opening closing depth false false seen (opening :: (inner ++ closing :: rest)) =
      extractLoop opening closing depth false false
        (closing :: (inner.reverse ++ opening :: seen)) rest := by
  rw [extractLoop_open hopen, hinner _ _ _ (by omega), extractLoop_close hclose hne,
    if_neg (by omega)]
  congr 1
  omega

lemma extractLoop_nested (hpair : Brackets opening closing) {x : List Char} (hx : Nested x) :
    ∀ (depth : Int) (seen rest : List Char), 0 < depth →
      extractLoop opening closing depth false false seen (x ++ rest) =
        extractLoop opening closing depth false false (x.reverse ++ seen) rest := by
  induction hx with
  | nil => simp
  | @plain c s hc _ ih =>
    intro depth seen rest hdepth
    simp only [marks, mem_cons, not_mem_nil, or_false, not_or] at hc
    have hstep : c ≠ opening ∧ c ≠ closing := by
      rcases hpair with ⟨rfl, rfl⟩ | ⟨rfl, rfl⟩
      · exact ⟨hc.2.1, hc.2.2.1⟩
      · exact ⟨hc.2.2.2.1, hc.2.2.2.2⟩
    rw [cons_append, extractLoop_pass hc.1 hstep.1 hstep.2, ih _ _ _ hdepth]
    simp
  | string hq _ ih =>
    intro depth seen rest hdepth
    rw [append_assoc, extractLoop_string hq, ih _ _ _ hdepth]
    simp
  | @braces inner s _ _ ihinner ihs =>
    intro depth seen rest hdepth
    have hsplit : '{' :: (inner ++ '}' :: s) ++ rest = '{' :: (inner ++ '}' :: (s ++ rest)) := by
      simp
    rw [hsplit]
    rcases hpair with ⟨rfl, rfl⟩ | ⟨rfl, rfl⟩
    · rw [extractLoop_pair (by decide) (by decide) (by decide) hdepth ihinner, ihs _ _ _ hdepth]
      simp
    · rw [extractLoop_pass (by decide) (by decide) (by decide), ihinner _ _ _ hdepth,
        extractLoop_pass (by decide) (by decide) (by decide), ihs _ _ _ hdepth]
      simp
  | @brackets inner s _ _ ihinner ihs =>
    intro depth seen rest hdepth
    have hsplit : '[' :: (inner ++ ']' :: s) ++ rest = '[' :: (inner ++ ']' :: (s ++ rest)) := by
      simp
    rw [hsplit]
    rcases hpair with ⟨rfl, rfl⟩ | ⟨rfl, rfl⟩
    · rw [extractLoop_pass (by decide) (by decide) (by decide), ihinner _ _ _ hdepth,
        extractLoop_pass (by decide) (by decide) (by decide), ihs _ _ _ hdepth]
      simp
    · rw [extractLoop_pair (by decide) (by decide) (by decide) hdepth ihinner, ihs _ _ _ hdepth]
      simp

lemma extractLoop_document (hpair : Brackets opening closing) (hinner : Nested inner) :
    extractLoop opening closing 0 false false [] (opening :: (inner ++ closing :: rest)) =
      some (opening :: (inner ++ [closing])) := by
  have hkinds : opening ≠ '"' ∧ closing ≠ '"' ∧ closing ≠ opening := by
    rcases hpair with ⟨rfl, rfl⟩ | ⟨rfl, rfl⟩ <;> decide
  rw [extractLoop_open hkinds.1, extractLoop_nested hpair hinner _ _ _ (by omega),
    extractLoop_close hkinds.2.1 hkinds.2.2, if_pos (by omega)]
  simp

end

def Unopened (s : List Char) : Prop := ∀ c ∈ s, c ≠ '{' ∧ c ≠ '['

variable {front doc : List Char}

lemma extractBracketed_document (hfront : Unopened front) (hdoc : Document doc)
    (back : List Char) : extractBracketed (front ++ doc ++ back) = some doc := by
  have hskip : ∀ rest : List Char,
      (front ++ rest).dropWhile (fun c => c ≠ '{' ∧ c ≠ '[') =
        rest.dropWhile fun c => c ≠ '{' ∧ c ≠ '[' := by
    intro rest
    exact dropWhile_append_of_pos fun c hc => by simpa using hfront c hc
  obtain ⟨inner, hinner, rfl | rfl⟩ := hdoc.split
  · have hsplit : front ++ '{' :: (inner ++ ['}']) ++ back =
        front ++ '{' :: (inner ++ '}' :: back) := by simp
    rw [hsplit, extractBracketed, hskip]
    exact extractLoop_document (.inl ⟨rfl, rfl⟩) hinner
  · have hsplit : front ++ '[' :: (inner ++ [']']) ++ back =
        front ++ '[' :: (inner ++ ']' :: back) := by simp
    rw [hsplit, extractBracketed, hskip]
    exact extractLoop_document (.inr ⟨rfl, rfl⟩) hinner

def Blank (s : List Char) : Prop := ∀ c ∈ s, isSpace c = true

def trimLeft (s : List Char) : List Char := s.dropWhile isSpace

def trimRight (s : List Char) : List Char := (s.reverse.dropWhile isSpace).reverse

structure Solid (s : List Char) : Prop where
  front : ∃ c t, s = c :: t ∧ isSpace c = false
  back : ∃ t c, s = t ++ [c] ∧ isSpace c = false

lemma dropWhile_append_cons {p : Char → Bool} {c : Char} (hc : p c = false)
    (x y : List Char) : (x ++ c :: y).dropWhile p = x.dropWhile p ++ c :: y := by
  rw [dropWhile_append]
  split
  · rename_i hempty
    rw [isEmpty_iff.mp hempty, dropWhile_cons_of_neg (by simp [hc])]
    rfl
  · rfl

lemma trimSpace_solid {y : List Char} (hy : Solid y) (x z : List Char) :
    trimSpace (x ++ y ++ z) = trimLeft x ++ y ++ trimRight z := by
  have hleft : (x ++ y ++ z).dropWhile isSpace = trimLeft x ++ y ++ z := by
    obtain ⟨c, t, rfl, hc⟩ := hy.front
    rw [append_assoc, cons_append, dropWhile_append_cons hc]
    simp [trimLeft]
  rw [trimSpace, hleft]
  obtain ⟨t, c, rfl, hc⟩ := hy.back
  have hback : (trimLeft x ++ (t ++ [c]) ++ z).reverse =
      z.reverse ++ c :: (t.reverse ++ (trimLeft x).reverse) := by simp
  rw [hback, dropWhile_append_cons hc]
  simp [trimRight]

variable {s : List Char}

lemma trimLeft_eq_nil_iff : trimLeft s = [] ↔ Blank s :=
  dropWhile_eq_nil_iff

lemma trimRight_eq_nil_iff : trimRight s = [] ↔ Blank s := by
  rw [trimRight, reverse_eq_nil_iff]
  simp [Blank]

lemma solid_document (hdoc : Document doc) : Solid doc := by
  obtain ⟨inner, -, rfl | rfl⟩ := hdoc.split
  · exact ⟨⟨_, _, rfl, by decide⟩, ⟨'{' :: inner, _, rfl, by decide⟩⟩
  · exact ⟨⟨_, _, rfl, by decide⟩, ⟨'[' :: inner, _, rfl, by decide⟩⟩

lemma trimSpace_document (hdoc : Document doc) (back : List Char) :
    trimSpace (front ++ doc ++ back) = trimLeft front ++ doc ++ trimRight back :=
  trimSpace_solid (solid_document hdoc) front back

variable {back : List Char}

lemma trimSpace_of_blank (hdoc : Document doc) (hfront : Blank front) (hback : Blank back) :
    trimSpace (front ++ doc ++ back) = doc := by
  rw [trimSpace_document hdoc, trimLeft_eq_nil_iff.mpr hfront, trimRight_eq_nil_iff.mpr hback]
  simp

def LastFence (back : List Char) : Prop :=
  ∀ k < (fence ++ back).length, fence.isPrefixOf ((fence ++ back).drop (k + 1)) = false

lemma lastIndex_append (hlast : LastFence back) :
    lastIndex (front ++ (fence ++ back)) fence = some front.length := by
  have hrange : range ((front ++ (fence ++ back)).length + 1) =
      range front.length ++ front.length ::
        (range (fence ++ back).length).map fun k => front.length + (k + 1) := by
    rw [length_append, Nat.add_assoc, range_add, range_succ_eq_map]
    simp
  have hnone : ((range (fence ++ back).length).map fun k => front.length + (k + 1)).reverse.find?
      (fun i => fence.isPrefixOf ((front ++ (fence ++ back)).drop i)) = none := by
    rw [find?_eq_none]
    intro i hi
    obtain ⟨k, hk, rfl⟩ := mem_map.mp (mem_reverse.mp hi)
    rw [← drop_drop, drop_left, hlast k (mem_range.mp hk)]
    exact Bool.false_ne_true
  have hhere : fence.isPrefixOf ((front ++ (fence ++ back)).drop front.length) = true := by
    rw [drop_left, isPrefixOf_iff_prefix]
    exact prefix_append _ _
  rw [lastIndex, hrange, reverse_append, reverse_cons, append_assoc,
    find?_append, hnone, singleton_append, find?_cons, hhere]
  rfl

lemma stripCodeFence_fenced {line : List Char} (hopens : fence.isPrefixOf line = true)
    (hline : '\n' ∉ line) (hlast : LastFence back) :
    stripCodeFence (line ++ '\n' :: (front ++ (fence ++ back))) = trimSpace front := by
  have hfence : fence.isPrefixOf (line ++ '\n' :: (front ++ (fence ++ back))) = true := by
    rw [ isPrefixOf_iff_prefix] at hopens ⊢
    exact hopens.trans (prefix_append _ _)
  have hbody : (line ++ '\n' :: (front ++ (fence ++ back))).dropWhile (· ≠ '\n') =
      '\n' :: (front ++ (fence ++ back)) := by
    rw [dropWhile_append_of_pos, dropWhile_cons_of_neg (by simp)]
    intro c hc
    exact decide_eq_true fun h => hline (h ▸ hc)
  rw [stripCodeFence, hfence, if_neg (by simp), if_pos (by simp), hbody, tail_cons]
  dsimp only
  rw [lastIndex_append hlast]
  simp

lemma fence_isPrefixOf_append {c : Char} (hc : c ≠ '\x60') (front back : List Char) :
    fence.isPrefixOf (front ++ c :: back) = fence.isPrefixOf front := by
  have htick : ('\x60' == c) = false := by simpa using hc.symm
  have hfence : fence = ['\x60', '\x60', '\x60'] := by decide
  rw [hfence]
  match front with
  | [] => simp [isPrefixOf, htick]
  | [a] => simp [isPrefixOf, htick]
  | [a, b] => simp [isPrefixOf, htick]
  | a :: b :: d :: rest => simp [isPrefixOf]

lemma repairJSON_found (hdoc : Document doc)
    (hfound : extractBracketed (stripCodeFence (trimSpace s)) = some doc)
    (hlonger : trimSpace s ≠ doc) : repairJSON (String.ofList s) = some (String.ofList doc) := by
  have htrim : trimSpace doc = doc := by
    have h : trimSpace ([] ++ doc ++ []) = doc :=
      trimSpace_of_blank hdoc (by simp [Blank]) (by simp [Blank])
    simpa using h
  have hne : doc ≠ [] := by
    obtain ⟨c, t, rfl, -⟩ := (solid_document hdoc).front
    simp
  have hchanged : ¬ (doc = [] ∨ doc = trimSpace s) := not_or.mpr ⟨hne, hlonger.symm⟩
  unfold repairJSON
  dsimp only
  rw [String.toList_ofList, hfound, Option.getD_some, htrim, if_neg hchanged]

lemma repairJSON_fenced (hdoc : Document doc) {tag : List Char} (htag : '\n' ∉ tag)
    (hfront : Blank front) (hback : Blank back) :
    repairJSON (String.ofList (fence ++ tag ++ '\n' :: (front ++ doc ++ back ++ fence))) =
      some (String.ofList doc) := by
  have hfence : fence = ['\x60', '\x60', '\x60'] := by decide
  have hsolid : Solid (fence ++ tag ++ '\n' :: (front ++ doc ++ back ++ fence)) := by
    refine ⟨⟨'\x60', _, by rw [hfence]; rfl, by decide⟩,
      ⟨fence ++ tag ++ '\n' :: (front ++ doc ++ back ++ ['\x60', '\x60']), '\x60', ?_, by decide⟩⟩
    simp [hfence]
  have htrim : trimSpace (fence ++ tag ++ '\n' :: (front ++ doc ++ back ++ fence)) =
      fence ++ tag ++ '\n' :: (front ++ doc ++ back ++ (fence ++ [])) := by
    have h := trimSpace_solid hsolid [] []
    simpa [trimLeft, trimRight] using h
  have hlast : LastFence [] := by
    unfold LastFence
    decide
  have hline : '\n' ∉ fence ++ tag := by
    rw [mem_append, not_or]
    exact ⟨by decide, htag⟩
  have hopens : fence.isPrefixOf (fence ++ tag) = true :=
    isPrefixOf_iff_prefix.mpr (prefix_append _ _)
  apply repairJSON_found hdoc
  · have hscan : extractBracketed ([] ++ doc ++ []) = some doc :=
      extractBracketed_document (by simp [Unopened]) hdoc []
    rw [htrim, stripCodeFence_fenced hopens hline hlast, trimSpace_of_blank hdoc hfront hback]
    simpa using hscan
  · rw [htrim]
    obtain ⟨inner, -, rfl | rfl⟩ := hdoc.split <;> simp [hfence]

lemma repairJSON_prose (hfront : Unopened front) (hdoc : Document doc)
    (hprose : ¬ Blank front ∨ ¬ Blank back) (hfence : fence.isPrefixOf (trimLeft front) = false) :
    repairJSON (String.ofList (front ++ doc ++ back)) = some (String.ofList doc) := by
  have hopen : Unopened (trimLeft front) :=
    fun c hc => hfront c ((dropWhile_sublist _).subset hc)
  have hplain : stripCodeFence (trimSpace (front ++ doc ++ back)) =
      trimLeft front ++ doc ++ trimRight back := by
    have hnone : fence.isPrefixOf (trimLeft front ++ doc ++ trimRight back) = false := by
      obtain ⟨inner, -, rfl | rfl⟩ := hdoc.split
      · rw [append_assoc, cons_append, fence_isPrefixOf_append (by decide), hfence]
      · rw [append_assoc, cons_append, fence_isPrefixOf_append (by decide), hfence]
    rw [trimSpace_document hdoc, stripCodeFence, if_pos hnone]
  apply repairJSON_found hdoc
  · rw [hplain]
    exact extractBracketed_document hopen hdoc _
  · rw [trimSpace_document hdoc]
    intro hsame
    have hlength := congrArg length hsame
    simp only [length_append] at hlength
    rcases hprose with hprose | hprose
    · have hpos := length_pos_iff.mpr (mt trimLeft_eq_nil_iff.mp hprose)
      omega
    · have hpos := length_pos_iff.mpr (mt trimRight_eq_nil_iff.mp hprose)
      omega

def fencedArray : List Char := "[\n\"".toList ++ (fence ++ "\"]".toList)

lemma document_fencedArray : Document fencedArray := by
  have hcontents : Contents fence := by
    have hplain : ∀ c ∈ fence, c ≠ '"' ∧ c ≠ '\\' ∧ 0x20 ≤ c.toNat := by simp [fence]
    generalize fence = s at hplain
    induction s with
    | nil => exact .nil
    | cons c s ih =>
      obtain ⟨⟨hquote, hslash, hcontrol⟩, hrest⟩ := forall_mem_cons.mp hplain
      exact .plain hquote hslash hcontrol (ih hrest)
  have hvalue : Derives .value ('"' :: (fence ++ ['"'])) := .string ⟨fence, hcontents, rfl⟩
  have helement : Derives .element (['\n'] ++ '"' :: (fence ++ ['"']) ++ []) :=
    .element (by simp [Ws]) hvalue (by simp [Ws])
  exact .inr (.array (.oneElement helement))

lemma repairJSON_fencedArray (hfront : Unopened front)
    (hfence : fence.isPrefixOf (trimLeft front) = true) :
    repairJSON (String.ofList (front ++ fencedArray ++ [])) ≠ some (String.ofList fencedArray) := by
  have hlast : LastFence "\"]".toList := by
    unfold LastFence
    decide
  have hstripped : ∃ rest, stripCodeFence (trimLeft front ++ fencedArray) = rest ++ ['"'] ∧
      extractBracketed (rest ++ ['"']) = none := by
    by_cases hline : '\n' ∈ trimLeft front
    · obtain ⟨line, body, hsplit, hnone⟩ := eq_append_cons_of_mem hline
      rw [hsplit, fence_isPrefixOf_append (by decide)] at hfence
      have hbody : Unopened (trimLeft body) := by
        intro c hc
        have hmem : c ∈ trimLeft front := by
          rw [hsplit]
          exact mem_append_right _
            (mem_cons_of_mem _ ((dropWhile_sublist _).subset hc))
        exact hfront c ((dropWhile_sublist _).subset hmem)
      have hopened : Solid "[\n\"".toList :=
        ⟨⟨'[', ['\n', '"'], rfl, by decide⟩, ⟨['[', '\n'], '"', rfl, by decide⟩⟩
      have hwhole : trimLeft front ++ fencedArray =
          line ++ '\n' :: ((body ++ "[\n\"".toList) ++ (fence ++ "\"]".toList)) := by
        rw [hsplit]
        simp [fencedArray]
      have htrim := trimSpace_solid hopened body []
      rw [append_nil] at htrim
      refine ⟨trimLeft body ++ ['[', '\n'], ?_, ?_⟩
      · rw [hwhole, stripCodeFence_fenced hfence hnone hlast, htrim]
        simp [trimRight]
      have hskip : (trimLeft body ++ ['[', '\n'] ++ ['"']).dropWhile
          (fun c => c ≠ '{' ∧ c ≠ '[') = ['[', '\n', '"'] := by
        rw [append_assoc, dropWhile_append_of_pos fun c hc => by simpa using hbody c hc]
        rfl
      rw [extractBracketed, hskip]
      rfl
    · have hwhole : trimLeft front ++ fencedArray =
          (trimLeft front ++ ['[']) ++ '\n' :: (['"'] ++ (fence ++ "\"]".toList)) := by
        simp [fencedArray]
      have hopens : fence.isPrefixOf (trimLeft front ++ ['[']) = true := by
        rw [fence_isPrefixOf_append (by decide), hfence]
      have hnone : '\n' ∉ trimLeft front ++ ['['] := by simpa using hline
      refine ⟨[], ?_, by decide⟩
      rw [hwhole, stripCodeFence_fenced hopens hnone hlast]
      rfl
  obtain ⟨rest, hrest, hlost⟩ := hstripped
  have hquote : Solid ['"'] := ⟨⟨'"', [], rfl, by decide⟩, ⟨[], '"', rfl, by decide⟩⟩
  have hcandidate : trimSpace (rest ++ ['"']) = trimLeft rest ++ ['"'] := by
    have h := trimSpace_solid hquote rest []
    simpa [trimRight] using h
  unfold repairJSON
  dsimp only
  rw [String.toList_ofList, trimSpace_document document_fencedArray, trimRight, reverse_nil,
    dropWhile_nil, reverse_nil, append_nil, hrest, hlost, Option.getD_none,
    hcandidate]
  intro hfound
  split at hfound
  · cases hfound
  have hsame := congrArg String.toList (Option.some.inj hfound)
  rw [String.toList_ofList] at hsame
  have hend := congrArg getLast? hsame
  rw [getLast?_concat] at hend
  revert hend
  decide

theorem repair_json_iff (front : List Char) (hfront : Unopened front) :
    (∀ doc back, Document doc → extractBracketed (front ++ doc ++ back) = some doc) ∧
      (∀ doc tag before after, Document doc → '\n' ∉ tag → Blank before → Blank after →
        repairJSON (String.ofList (fence ++ tag ++ '\n' :: (before ++ doc ++ after ++ fence))) =
          some (String.ofList doc)) ∧ ((∀ doc back, Document doc → ¬ Blank front ∨ ¬ Blank back →
        repairJSON (String.ofList (front ++ doc ++ back)) = some (String.ofList doc)) ↔
          fence.isPrefixOf (front.dropWhile isSpace) = false) := by
  refine ⟨fun doc back hdoc => extractBracketed_document hfront hdoc back,
    fun doc tag before after hdoc htag hbefore hafter =>
      repairJSON_fenced hdoc htag hbefore hafter, ?_, ?_⟩
  · intro hall
    rw [Bool.eq_false_iff]
    intro hfence
    have hprose : ¬ Blank front := by
      intro hblank
      rw [dropWhile_eq_nil_iff.mpr hblank] at hfence
      cases hfence
    exact repairJSON_fencedArray hfront hfence
      (hall fencedArray [] document_fencedArray (.inl hprose))
  · intro hfence doc back hdoc hprose
    exact repairJSON_prose hfront hdoc hprose hfence

theorem repair_json_prose : Unopened "Sure: ".toList ∧ Document fencedArray ∧
      repairJSON (String.ofList ("Sure: ".toList ++ fencedArray ++ " Bye.".toList)) =
        some (String.ofList fencedArray) := by
  have hfront : Unopened "Sure: ".toList := by
    simp [Unopened]
  have hprose : ¬ Blank "Sure: ".toList := by
    simp [Blank, isSpace]
  exact ⟨hfront, document_fencedArray, (repair_json_iff _ hfront).2.2.mpr (by decide) _ _
    document_fencedArray (.inl hprose)⟩

theorem repair_json_listing : Unopened "```\nls\n```\nSure: ".toList ∧ Document "[1]".toList ∧
      extractBracketed ("```\nls\n```\nSure: ".toList ++ "[1]".toList ++ []) = some "[1]".toList ∧
      repairJSON "```\nls\n```\nSure: [1]" = some "ls" := by
  have hfront : Unopened "```\nls\n```\nSure: ".toList := by
    simp [Unopened]
  have hnumber : NumberText ['1'] :=
    ⟨[], ['1'], [], [], rfl, by simp, ⟨⟨by simp, by simp⟩, by simp⟩, .inl rfl, .inl rfl⟩
  have helement : Derives .element ([] ++ ['1'] ++ []) :=
    .element (by simp [Ws]) (.number hnumber) (by simp [Ws])
  have hdoc : Document "[1]".toList := .inr (.array (.oneElement helement))
  exact ⟨hfront, hdoc, extractBracketed_document hfront hdoc [], by decide⟩

end FfxNexus.Guardrails
