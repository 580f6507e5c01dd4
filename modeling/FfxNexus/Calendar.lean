/-
**The calendar** of Go's package `time`: the date of a day, and the stamp of a minute.
-/
import FfxNexus.Machine
import Mathlib.Data.List.Basic

namespace FfxNexus.Calendar
open List Nat

structure Place where
  cycle : ℤ
  century : ℤ
  four : ℤ
  one : ℤ
  day : ℤ

def place (n : ℤ) : Place :=
  let r := n % 146097
  let century := min (r / 36524) 3
  let r' := r - 36524 * century
  let r'' := r' % 1461
  let one := min (r'' / 365) 3
  ⟨n / 146097, century, r' / 1461, one, r'' - 365 * one⟩

def Place.year (p : Place) : ℤ := 1 + 400 * p.cycle + 100 * p.century + 4 * p.four + p.one

def leap (y : ℤ) : Bool := y % 4 = 0 ∧ (y % 100 ≠ 0 ∨ y % 400 = 0)

def monthLengths (leap : Bool) : List ℕ :=
  [31, if leap then 29 else 28, 31, 30, 31, 30, 31, 31, 30, 31, 30, 31]

def monthDay : ℕ → List ℕ → ℕ → ℕ × ℕ
  | m, [], d => (m, d + 1)
  | m, len :: rest, d => if d < len then (m, d + 1) else monthDay (m + 1) rest (d - len)

def dayOfYear (lengths : List ℕ) (m d : ℕ) : ℕ := (lengths.take (m - 1)).sum + (d - 1)

lemma place_bounds (n : ℤ) :
    n = 146097 * (place n).cycle + 36524 * (place n).century + 1461 * (place n).four +
        365 * (place n).one + (place n).day ∧
      0 ≤ (place n).century ∧ (place n).century ≤ 3 ∧ 0 ≤ (place n).four ∧ (place n).four ≤ 24 ∧
      0 ≤ (place n).one ∧ (place n).one ≤ 3 ∧ 0 ≤ (place n).day ∧ (place n).day < 366 := by
  unfold place
  dsimp only
  omega

lemma day_lt (n : ℤ) : (place n).day.toNat < 366 := by
  have := (place_bounds n).2
  omega

lemma eq_of_year_day {n m : ℤ} (hyear : (place n).year = (place m).year)
    (hday : (place n).day = (place m).day) : n = m := by
  obtain ⟨hn, hn1, hn2, hn3, hn4, hn5, hn6, -, -⟩ := place_bounds n
  obtain ⟨hm, hm1, hm2, hm3, hm4, hm5, hm6, -, -⟩ := place_bounds m
  unfold Place.year at hyear
  have hcycle : (place n).cycle = (place m).cycle := by omega
  have hcentury : (place n).century = (place m).century := by omega
  have hfour : (place n).four = (place m).four := by omega
  have hone : (place n).one = (place m).one := by omega
  rw [hn, hm, hcycle, hcentury, hfour, hone, hday]

lemma monthDay_fst (m : ℕ) (rest : List ℕ) (d : ℕ) :
    m ≤ (monthDay m rest d).1 ∧ (monthDay m rest d).1 ≤ m + rest.length := by
  induction rest generalizing m d with
  | nil => exact ⟨le_refl m, le_refl m⟩
  | cons len rest ih =>
    unfold monthDay
    rw [length_cons]
    split_ifs with hd
    · omega
    · have := ih (m + 1) (d - len)
      omega

lemma sum_take_monthDay (m : ℕ) (rest : List ℕ) (d : ℕ) :
    (rest.take ((monthDay m rest d).1 - m)).sum + ((monthDay m rest d).2 - 1) = d := by
  induction rest generalizing m d with
  | nil =>
    rw [take_nil, sum_nil, Nat.zero_add]
    rfl
  | cons len rest ih =>
    unfold monthDay
    split_ifs with hd
    · rw [Nat.sub_self, take_zero, sum_nil, Nat.zero_add, Nat.add_sub_cancel]
    have hle := (monthDay_fst (m + 1) rest (d - len)).1
    have hsucc : (monthDay (m + 1) rest (d - len)).1 - m =
        (monthDay (m + 1) rest (d - len)).1 - (m + 1) + 1 := by omega
    have hrest := ih (m + 1) (d - len)
    rw [hsucc, take_succ_cons, sum_cons]
    omega

lemma monthDay_snd_lt (m : ℕ) {rest : List ℕ} {d : ℕ} (hshort : ∀ len ∈ rest, len < 100)
    (hd : d < rest.sum + 99) : (monthDay m rest d).2 < 100 := by
  induction rest generalizing m d with
  | nil =>
    rw [sum_nil] at hd
    show d + 1 < 100
    omega
  | cons len rest ih =>
    have hlen := hshort len mem_cons_self
    rw [sum_cons] at hd
    unfold monthDay
    split_ifs with hin
    · omega
    · exact ih (m + 1) (fun l hl => hshort l (mem_cons_of_mem len hl)) (by omega)

lemma dayOfYear_monthDay (l : Bool) (d : ℕ) :
    dayOfYear (monthLengths l) (monthDay 1 (monthLengths l) d).1
      (monthDay 1 (monthLengths l) d).2 = d :=
  sum_take_monthDay 1 (monthLengths l) d

lemma monthDay_lt (l : Bool) {d : ℕ} (hd : d < 366) :
    (monthDay 1 (monthLengths l) d).1 < 100 ∧ (monthDay 1 (monthLengths l) d).2 < 100 := by
  have hshort : ∀ l, ∀ len ∈ monthLengths l, len < 100 := by decide
  have hlength : ∀ l, (monthLengths l).length = 12 := by decide
  have hsum : ∀ l, 365 ≤ (monthLengths l).sum := by decide
  constructor
  · have hfst := (monthDay_fst 1 (monthLengths l) d).2
    rw [hlength] at hfst
    omega
  · have := hsum l
    exact monthDay_snd_lt 1 (hshort l) (by omega)

def twoDigits (n : ℕ) : List Char := [digitChar (n / 10), digitChar (n % 10)]

def yearDigits (y : ℤ) : List Char :=
  (if y < 0 then ['-'] else []) ++
    (List.replicate (4 - (toDigits 10 y.natAbs).length) '0' ++ toDigits 10 y.natAbs)

def minuteStamp (minute : ℤ) : List Char :=
  let p := place (minute / 1440)
  let md := monthDay 1 (monthLengths (leap p.year)) p.day.toNat
  let ofDay := (minute % 1440).toNat
  yearDigits p.year ++
    (twoDigits md.1 ++ (twoDigits md.2 ++ (twoDigits (ofDay / 60) ++ twoDigits (ofDay % 60))))

lemma length_twoDigits (n : ℕ) : (twoDigits n).length = 2 := rfl

lemma twoDigits_inj : ∀ {n m : ℕ}, n < 100 → m < 100 → twoDigits n = twoDigits m → n = m := by
  intro n m hn hm h
  have hdigit : ∀ a b : Fin 10, digitChar a = digitChar b → a = b := by decide
  obtain ⟨htens, hrest⟩ := cons.inj h
  obtain ⟨hones, -⟩ := cons.inj hrest
  have htens' := congrArg Fin.val (hdigit ⟨n / 10, by omega⟩ ⟨m / 10, by omega⟩ htens)
  have hones' := congrArg Fin.val (hdigit ⟨n % 10, by omega⟩ ⟨m % 10, by omega⟩ hones)
  dsimp only at htens' hones'
  omega

lemma ofDigitChars_zeros (k : ℕ) (l : List Char) :
    ofDigitChars 10 (replicate k '0' ++ l) 0 = ofDigitChars 10 l 0 := by
  induction k with
  | zero => rfl
  | succ k ih =>
    exact ih

lemma isDigit_of_mem_padded {k n : ℕ} {c : Char}
    (h : c ∈ replicate k '0' ++ toDigits 10 n) : c.isDigit = true := by
  rcases mem_append.mp h with h | h
  · rw [eq_of_mem_replicate h]
    decide
  · exact isDigit_of_mem_toDigits (by decide) (by decide) h

lemma padded_inj {k k' n m : ℕ} (h : replicate k '0' ++ toDigits 10 n =
    replicate k' '0' ++ toDigits 10 m) : n = m := by
  have hvalue := congrArg (ofDigitChars 10 · 0) h
  rwa [ofDigitChars_zeros, ofDigitChars_zeros, ofDigitChars_ten_toDigits,
    ofDigitChars_ten_toDigits] at hvalue

lemma yearDigits_inj {y z : ℤ} (h : yearDigits y = yearDigits z) : y = z := by
  have hsign : ∀ {k n : ℕ} {l : List Char},
      '-' :: l ≠ replicate k '0' ++ toDigits 10 n := by
    intro k n l hl
    have hmem : '-' ∈ replicate k '0' ++ toDigits 10 n := hl ▸ mem_cons_self
    exact absurd (isDigit_of_mem_padded hmem) (by decide)
  unfold yearDigits at h
  by_cases hy : y < 0
  · by_cases hz : z < 0
    · rw [if_pos hy, if_pos hz] at h
      have habs := padded_inj (append_cancel_left h)
      omega
    · rw [if_pos hy, if_neg hz] at h
      exact absurd h hsign
  · by_cases hz : z < 0
    · rw [if_neg hy, if_pos hz] at h
      exact absurd h.symm hsign
    · rw [if_neg hy, if_neg hz] at h
      have habs := padded_inj h
      omega

lemma minuteStamp_injective : Function.Injective minuteStamp := by
  intro a b h
  obtain ⟨hyear, h⟩ := append_inj' h (by simp only [length_append, length_twoDigits])
  obtain ⟨hmonth, h⟩ := append_inj' h (by simp only [length_append, length_twoDigits])
  obtain ⟨hdom, h⟩ := append_inj' h (by simp only [length_append, length_twoDigits])
  obtain ⟨hhour, hminute⟩ := append_inj' h (by simp only [length_twoDigits])
  have hyear := yearDigits_inj hyear
  rw [hyear] at hmonth hdom
  have hlt := fun n => monthDay_lt (leap (place (b / 1440)).year) (day_lt n)
  have hmonth := twoDigits_inj (hlt _).1 (hlt _).1 hmonth
  have hdom := twoDigits_inj (hlt _).2 (hlt _).2 hdom
  have hhour := twoDigits_inj (by omega) (by omega) hhour
  have hminute := twoDigits_inj (by omega) (by omega) hminute
  have hofYear : (place (a / 1440)).day.toNat = (place (b / 1440)).day.toNat := by
    have ha := dayOfYear_monthDay (leap (place (b / 1440)).year) (place (a / 1440)).day.toNat
    have hb := dayOfYear_monthDay (leap (place (b / 1440)).year) (place (b / 1440)).day.toNat
    rw [← ha, ← hb, hmonth, hdom]
  have hsame : a / 1440 = b / 1440 := by
    apply eq_of_year_day hyear
    have := (place_bounds (a / 1440)).2
    have := (place_bounds (b / 1440)).2
    omega
  omega

lemma not_mem_minuteStamp (minute : ℤ) {c : Char} (hdigit : c.isDigit = false) (hsign : c ≠ '-') :
    c ∉ minuteStamp minute := by
  have htwo : ∀ n, n < 100 → c ∉ twoDigits n := by
    intro n hn hmem
    have hall : ∀ a : Fin 10, (digitChar a).isDigit = true := by decide
    unfold twoDigits at hmem
    rw [mem_cons, mem_singleton] at hmem
    rcases hmem with rfl | rfl
    · have := hall ⟨n / 10, by omega⟩
      rw [this] at hdigit
      cases hdigit
    · have := hall ⟨n % 10, by omega⟩
      rw [this] at hdigit
      cases hdigit
  have hlt := monthDay_lt (leap (place (minute / 1440)).year) (day_lt (minute / 1440))
  intro hmem
  rcases mem_append.mp hmem with hmem | hmem
  · rcases mem_append.mp hmem with hmem | hmem
    · split_ifs at hmem with hneg
      · rw [mem_singleton] at hmem
        exact hsign hmem
      · cases hmem
    · rw [isDigit_of_mem_padded hmem] at hdigit
      cases hdigit
  · simp only [mem_append] at hmem
    rcases hmem with hmem | hmem | hmem | hmem
    · exact htwo _ hlt.1 hmem
    · exact htwo _ hlt.2 hmem
    · exact htwo _ (by omega) hmem
    · exact htwo _ (by omega) hmem

end FfxNexus.Calendar
