/-
**Records read from JSON objects**: a decoder that goes through the members of an object in order
and reads each into the field its name selects, by its letters, whatever their case.
-/
import FfxNexus.StringLiteral
import Mathlib.Algebra.Order.Field.Rat

namespace FfxNexus.JsonRecords
open List Option

structure Reader where
  object : String → Option (List (String × String))
  array : String → Option (List String)
  float : String → Option ℚ
  int : String → Option Int

def foldChar (ch : Char) : Char :=
  if ch = Char.ofNat 0x17f then 's' else if ch = Char.ofNat 0x212a then 'k' else ch.toLower

variable (name : String)

def foldName : String := String.ofList (name.toList.map foldChar)

def values (ms : List (String × String)) : List String :=
  (ms.filter fun m => foldName m.1 = name).map (·.2)

def isWhite (ch : Char) : Bool := ch = ' ' ∨ ch = '\t' ∨ ch = '\n' ∨ ch = '\r'

def isNull (raw : String) : Bool :=
  ((raw.toList.dropWhile isWhite).reverse.dropWhile isWhite).reverse = "null".toList

def members (r : Reader) (raw : String) : Option (List (String × String)) :=
  if isNull raw then some [] else r.object raw

def string (raw : String) (st : String) : Option String :=
  if isNull raw then some st else StringLiteral.unquote raw

def boolean (raw : String) (st : Bool) : Option Bool :=
  if isNull raw then some st
  else if raw = "true" then some true
  else if raw = "false" then some false
  else none

variable {α σ : Type}

def pointer (zero : α) (dec : String → α → Option α) (raw : String) (st : Option α) :
    Option (Option α) :=
  if isNull raw then some none else (dec raw (st.getD zero)).map some

structure Slice (α : Type) where
  cells : List α
  len : ℕ

def Slice.nil : Slice α := ⟨[], 0⟩

def Slice.value (s : Slice α) : List α := s.cells.take s.len

def elements (zero : α) (dec : String → α → Option α) : List String → List α → Option (List α)
  | [], _ => some []
  | raw :: raws, cells => do
      let x ← dec raw (cells.headD zero)
      let xs ← elements zero dec raws cells.tail
      return x :: xs

def slice (r : Reader) (zero : α) (dec : String → α → Option α) (raw : String) (s : Slice α) :
    Option (Slice α) :=
  if isNull raw then some .nil
  else do
    let raws ← r.array raw
    if raws.isEmpty then return .nil
    let xs ← elements zero dec raws s.cells
    return ⟨xs ++ s.cells.drop xs.length, xs.length⟩

variable (dec : String → σ → Option σ)

def field (init : σ) (ms : List (String × String)) :
    Option σ :=
  (values name ms).foldlM (fun st raw => dec raw st) init

def fieldLoose (init : σ)
    (ms : List (String × String)) : σ :=
  (values name ms).foldl (fun st raw => (dec raw st).getD st) init

def rawField (init : String) (ms : List (String × String)) : String :=
  ((values name ms).getLast?).getD init

def Absent (ms : List (String × String)) : Prop :=
  ∀ raw ∈ (values name ms).getLast?, isNull raw = true

variable {name raw : String} {ms : List (String × String)}

lemma field_concat {before : List String} (dec : String → σ → Option σ) (init : σ)
    (hvalues : values name ms = before ++ [raw]) : field name dec init ms =
      (before.foldlM (fun st raw => dec raw st) init).bind (dec raw) := by
  unfold field
  rw [hvalues]
  simp

lemma field_nil (init : σ) (hvalues : values name ms = []) :
    field name dec init ms = some init := by
  unfold field
  rw [hvalues]
  rfl

lemma field_eq_none_iff {dec : String → σ → Option σ} {Bad : String → Prop}
    (hdec : ∀ raw st, dec raw st = none ↔ Bad raw) (name : String) (init : σ)
    (ms : List (String × String)) :
    field name dec init ms = none ↔ ∃ raw ∈ values name ms, Bad raw := by
  unfold field
  generalize values name ms = raws
  induction raws generalizing init with
  | nil => simp
  | cons raw raws ih =>
    simp only [foldlM_cons, mem_cons, exists_eq_or_imp, ← hdec raw init]
    cases hread : dec raw init with
    | none => simp
    | some st =>
      rw [bind_eq_bind, bind_some, ih st]
      simp

lemma exists_of_field {dec : String → σ → Option σ} {init st : σ}
    (hfield : field name dec init ms = some st) (hraw : raw ∈ values name ms) :
    ∃ st1 st2, dec raw st1 = some st2 := by
  unfold field at hfield
  generalize values name ms = raws at hfield hraw
  induction raws generalizing init with
  | nil => cases hraw
  | cons first raws ih =>
    rw [foldlM_cons, bind_eq_bind, bind_eq_some_iff] at hfield
    obtain ⟨st2, hfirst, hrest⟩ := hfield
    rcases mem_cons.mp hraw with rfl | hraw
    · exact ⟨init, st2, hfirst⟩
    · exact ih hrest hraw

lemma pointer_eq_none_iff (zero : α) (read : String → Option α) (raw : String) (st : Option α) :
    pointer zero (fun raw _ => read raw) raw st = none ↔ isNull raw = false ∧ read raw = none := by
  unfold pointer
  by_cases hnull : isNull raw = true
  · simp [hnull]
  · simp [hnull]

variable {zero : α} {dec : String → α → Option α}

lemma pointer_field_eq_none_iff {p : Option α}
    (hp : field name (pointer zero dec) none ms = some p) : p = none ↔ Absent name ms := by
  unfold Absent
  rcases eq_nil_or_concat (values name ms) with hvalues | ⟨before, raw, hvalues⟩
  · rw [field_nil _ _ hvalues] at hp
    obtain rfl := some.inj hp
    simp [hvalues]
  rw [concat_eq_append] at hvalues
  rw [field_concat _ _ hvalues, bind_eq_some_iff] at hp
  obtain ⟨st, -, hlast⟩ := hp
  rw [hvalues, getLast?_concat]
  simp only [mem_some_iff, forall_eq']
  unfold pointer at hlast
  split_ifs at hlast with hnull
  · obtain rfl := some.inj hlast
    exact iff_of_true rfl hnull
  · rw [map_eq_some_iff] at hlast
    obtain ⟨a, -, rfl⟩ := hlast
    exact iff_of_false (by simp) hnull

lemma headD_eq_getD (cells : List α) (zero : α) : cells.headD zero = cells[0]?.getD zero := by
  cases cells <;> rfl

variable {raws : List String}

lemma length_elements :
    ∀ {cells xs : List α}, elements zero dec raws cells = some xs → xs.length = raws.length := by
  induction raws with
  | nil =>
    intro cells xs hxs
    obtain rfl := some.inj hxs
    rfl
  | cons raw raws ih =>
    intro cells xs hxs
    simp only [elements, bind_eq_bind, bind_eq_some_iff] at hxs
    obtain ⟨x, -, ys, hys, hcons⟩ := hxs
    obtain rfl := some.inj hcons
    rw [length_cons, length_cons, ih hys]

lemma isSome_of_elements : ∀ {cells xs : List α}, elements zero dec raws cells = some xs →
      ∀ (i : ℕ) raw, raws[i]? = some raw → (dec raw (cells[i]?.getD zero)).isSome = true := by
  induction raws with
  | nil =>
    intro cells xs _ i raw hraw
    simp at hraw
  | cons first raws ih =>
    intro cells xs hxs i raw hraw
    simp only [elements, bind_eq_bind, bind_eq_some_iff] at hxs
    obtain ⟨x, hx, ys, hys, -⟩ := hxs
    cases i with
    | zero =>
      obtain rfl := some.inj hraw
      rw [← headD_eq_getD, hx]
      rfl
    | succ i =>
      have hat := ih hys i raw hraw
      rwa [getElem?_tail] at hat

lemma slice_value {r : Reader} {s s' : Slice α} (hs : slice r zero dec raw s = some s') :
    (isNull raw = true ∧ s'.value = []) ∨ (isNull raw = false ∧ ∃ raws xs, r.array raw = some raws ∧
        elements zero dec raws s.cells = some xs ∧ s'.value = xs) := by
  unfold slice at hs
  split_ifs at hs with hnull
  · obtain rfl := some.inj hs
    exact .inl ⟨hnull, rfl⟩
  rw [bind_eq_bind, bind_eq_some_iff] at hs
  obtain ⟨raws, hraws, hread⟩ := hs
  refine .inr ⟨by simpa using hnull, raws, ?_⟩
  cases raws with
  | nil =>
    obtain rfl := some.inj hread
    exact ⟨[], hraws, rfl, rfl⟩
  | cons first rest =>
    simp only [isEmpty_cons, Bool.false_eq_true, if_false, bind_eq_bind, bind_eq_some_iff] at hread
    obtain ⟨xs, hxs, hslice⟩ := hread
    obtain rfl := some.inj hslice
    exact ⟨xs, hraws, hxs, take_left⟩

lemma elements_ne_none (zero : α) (hdec : ∀ raw st, dec raw st ≠ none) (raws : List String) :
    ∀ cells, elements zero dec raws cells ≠ none := by
  induction raws with
  | nil => simp [elements]
  | cons raw raws ih =>
    intro cells
    obtain ⟨x, hx⟩ := ne_none_iff_exists'.mp (hdec raw (cells.headD zero))
    obtain ⟨xs, hxs⟩ := ne_none_iff_exists'.mp (ih cells.tail)
    rw [elements, hx]
    simp [hxs]

lemma slice_eq_none_iff (r : Reader) (zero : α) (hdec : ∀ raw st, dec raw st ≠ none)
    (raw : String) (s : Slice α) :
    slice r zero dec raw s = none ↔ isNull raw = false ∧ r.array raw = none := by
  unfold slice
  by_cases hnull : isNull raw = true
  · simp [hnull]
  rw [if_neg hnull]
  cases harray : r.array raw with
  | none => simp [hnull]
  | some raws =>
    obtain ⟨xs, hxs⟩ := ne_none_iff_exists'.mp (elements_ne_none zero hdec raws s.cells)
    cases raws with
    | nil => simp
    | cons first rest => simp [hxs]

lemma slice_field_eq_nil_iff {r : Reader} {s : Slice α}
    (hs : field name (slice r zero dec) .nil ms = some s) : s.value = [] ↔
      ∀ raw ∈ (values name ms).getLast?, isNull raw = true ∨ r.array raw = some [] := by
  rcases eq_nil_or_concat (values name ms) with hvalues | ⟨before, raw, hvalues⟩
  · rw [field_nil _ _ hvalues] at hs
    obtain rfl := some.inj hs
    simp [hvalues, Slice.value, Slice.nil]
  rw [concat_eq_append] at hvalues
  rw [field_concat _ _ hvalues, bind_eq_some_iff] at hs
  obtain ⟨st, -, hlast⟩ := hs
  rw [hvalues, getLast?_concat]
  simp only [mem_some_iff, forall_eq']
  rcases slice_value hlast with ⟨hnull, hvalue⟩ | ⟨hnull, raws, xs, harray, hxs, hvalue⟩
  · exact iff_of_true hvalue (.inl hnull)
  · have hlength := length_elements hxs
    rw [hvalue, hnull, harray, ← length_eq_zero_iff, hlength]
    simp

lemma elements_eq_filterMap_iff (keep : String → Option α) :
    ∀ {cells xs : List α}, elements zero dec raws cells = some xs → (raws.filterMap keep = xs ↔
        ∀ (i : ℕ) raw, raws[i]? = some raw → keep raw = dec raw (cells[i]?.getD zero)) := by
  induction raws with
  | nil =>
    intro cells xs hxs
    obtain rfl := some.inj hxs
    simp
  | cons raw raws ih =>
    intro cells xs hxs
    simp only [elements, bind_eq_bind, bind_eq_some_iff] at hxs
    obtain ⟨x, hx, ys, hys, hcons⟩ := hxs
    obtain rfl := some.inj hcons
    have hrest : (∀ (i : ℕ) raw', (raw :: raws)[i]? = some raw' →
          keep raw' = dec raw' (cells[i]?.getD zero)) ↔
        keep raw = some x ∧ raws.filterMap keep = ys := by
      rw [ih hys, ← hx, headD_eq_getD]
      constructor
      · intro hall
        refine ⟨hall 0 raw rfl, fun i raw' hi => ?_⟩
        rw [getElem?_tail]
        exact hall (i + 1) raw' hi
      · rintro ⟨hzero, hsucc⟩ i raw' hi
        cases i with
        | zero =>
          obtain rfl := some.inj hi
          exact hzero
        | succ i =>
          have hat := hsucc i raw' hi
          rwa [getElem?_tail] at hat
    rw [hrest]
    cases hkeep : keep raw with
    | none =>
      rw [filterMap_cons_none hkeep]
      refine iff_of_false (fun heq => ?_) (by simp)
      have hshort : (raws.filterMap keep).length ≤ raws.length := length_filterMap_le _ _
      rw [heq, length_cons, length_elements hys] at hshort
      omega
    | some y =>
      rw [filterMap_cons_some hkeep, cons.injEq, some.injEq]

end FfxNexus.JsonRecords
