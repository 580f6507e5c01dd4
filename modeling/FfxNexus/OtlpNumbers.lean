/-
**Numbers as OTLP attributes** (`floatToString`, `fmtFloat`, `fmtInts`, `int64ToString` and
`intToString` of `internal/observability/otel.go`), floats being rationals.
-/
import Mathlib.Data.List.TakeWhile
import Mathlib.Data.Rat.Floor

namespace FfxNexus.Otel
open List Nat Int

/-! ## The code -/

def negate (n : ℤ) : ℤ := bmod (-n) (2 ^ 64)

/-- The digit loop on a buffer with `free` cells in front; `none` is a panic. -/
def digits : ℕ → ℤ → List Char → Option (ℕ × List Char)
  | 0, n, buf => if n > 0 then none else some (0, buf)
  | free + 1, n, buf =>
    if n > 0 then digits free (n / 10) (digitChar (n % 10).toNat :: buf)
    else some (free + 1, buf)

def render (size : ℕ) (n : ℤ) : Option (List Char) :=
  if n = 0 then some ['0']
  else if n < 0 then
    match digits size (negate n) [] with
    | some (_ + 1, buf) => some ('-' :: buf)
    | _ => none
  else (digits size n []).map Prod.snd

def fmtInts (n : ℤ) : Option (List Char) := render 20 n

def int64ToString (n : ℤ) : Option (List Char) := render 21 n

def intToString (n : ℤ) : Option (List Char) := render 20 n

def fmtAbs (f : ℚ) : Option (List Char) := do
  let intPart := ⌊f⌋
  let frac := f - intPart
  let fracStr ← if frac ≠ 0 then (fmtInts ⌊frac * 10000⌋).map ('.' :: ·) else some []
  return (← fmtInts intPart) ++ fracStr

def fmtFloat (f : ℚ) : Option (List Char) :=
  if f < 0 then (fmtAbs (-f)).map ('-' :: ·) else fmtAbs f

def floatToString (f : ℚ) : Option (List Char) := if f = 0 then some ['0'] else fmtFloat f

/-! ## What numerals denote -/

def numeral (n : ℤ) : List Char :=
  if n < 0 then '-' :: toDigits 10 n.natAbs else toDigits 10 n.natAbs

def natValue (s : List Char) : Option ℕ :=
  if s ≠ [] ∧ s.all Char.isDigit then some (ofDigitChars 10 s 0) else none

def unsignedValue (s : List Char) : Option ℚ :=
  match s.dropWhile Char.isDigit with
  | [] => (natValue s).map (↑)
  | '.' :: frac => do
    let whole ← natValue (s.takeWhile Char.isDigit)
    let part ← natValue frac
    return whole + part / 10 ^ frac.length
  | _ => none

def value : List Char → Option ℚ
  | '-' :: s => (unsignedValue s).map (-·)
  | s => unsignedValue s

def truncated (f : ℚ) : ℚ :=
  if f < 0 then -(⌊-f * 10000⌋ / 10000) else ⌊f * 10000⌋ / 10000

def places (f : ℚ) : ℤ := ⌊fract |f| * 10000⌋

/-! ## Integers -/

lemma digits_zero (free : ℕ) (buf : List Char) : digits free 0 buf = some (free, buf) := by
  cases free <;> rfl

lemma digits_eq {k m : ℕ} (hm : 0 < m) (hk : m < 10 ^ k) (extra : ℕ) (buf : List Char) :
    ∃ free, extra ≤ free ∧ digits (k + extra) m buf = some (free, toDigits 10 m ++ buf) := by
  induction k generalizing m buf with
  | zero => omega
  | succ k ih =>
    have hpos : (m : ℤ) > 0 := by exact_mod_cast hm
    have hdigit : ((m : ℤ) % 10).toNat = m % 10 := by omega
    have hdiv : (m : ℤ) / 10 = ((m / 10 : ℕ) : ℤ) := by omega
    rw [succ_add, digits, if_pos hpos, hdigit, hdiv, toDigits_eq_if (by norm_num)]
    split_ifs with hsmall
    · rw [div_eq_of_lt hsmall, mod_eq_of_lt hsmall]
      exact ⟨k + extra, by omega, digits_zero _ _⟩
    · rw [append_assoc]
      refine ih (by omega) ?_ _
      omega

lemma render_eq {n : ℤ} (hlow : -2 ^ 63 < n) (hhigh : n < 2 ^ 63) (extra : ℕ) :
    render (19 + (extra + 1)) n = some (numeral n) := by
  by_cases hzero : n = 0
  · subst hzero
    rfl
  obtain ⟨free, hfree, heq⟩ :=
    digits_eq (m := n.natAbs) (k := 19) (by omega) (by omega) (extra + 1) []
  rw [append_nil] at heq
  rw [render, numeral, if_neg hzero]
  by_cases hneg : n < 0
  · have hnegate : negate n = n.natAbs := by
      rw [negate, bmod_def]
      omega
    obtain ⟨free, rfl⟩ : ∃ free', free = free' + 1 := ⟨free - 1, by omega⟩
    rw [if_pos hneg, if_pos hneg, hnegate, heq]
  · rw [natAbs_of_nonneg (not_lt.mp hneg)] at heq
    rw [if_neg hneg, if_neg hneg, heq]
    rfl

/-! ## Floats -/

lemma natValue_toDigits (m : ℕ) : natValue (toDigits 10 m) = some m := by
  have hdigits : (toDigits 10 m).all Char.isDigit = true :=
    all_eq_true.mpr fun c hc => isDigit_of_mem_toDigits (by norm_num) (by norm_num) hc
  rw [natValue, if_pos ⟨toDigits_ne_nil, hdigits⟩, ofDigitChars_ten_toDigits]

lemma isDigit_toDigits {m : ℕ} {c : Char} (hc : c ∈ toDigits 10 m) : c.isDigit = true :=
  isDigit_of_mem_toDigits (by norm_num) (by norm_num) hc

lemma unsignedValue_whole (m : ℕ) : unsignedValue (toDigits 10 m) = some (m : ℚ) := by
  have hdrop : (toDigits 10 m).dropWhile Char.isDigit = [] :=
    dropWhile_eq_nil_iff.mpr fun c hc => isDigit_toDigits hc
  rw [unsignedValue, hdrop]
  rw [natValue_toDigits]
  rfl

lemma unsignedValue_point (m k : ℕ) :
    unsignedValue (toDigits 10 m ++ '.' :: toDigits 10 k) =
      some (m + k / 10 ^ (toDigits 10 k).length : ℚ) := by
  have hall : ∀ c ∈ toDigits 10 m, c.isDigit = true := fun c hc => isDigit_toDigits hc
  rw [unsignedValue, dropWhile_append_of_pos hall, takeWhile_append_of_pos hall]
  simp [natValue_toDigits]

lemma value_toDigits (m : ℕ) (t : List Char) :
    value (toDigits 10 m ++ t) = unsignedValue (toDigits 10 m ++ t) := by
  obtain ⟨c, s, heq⟩ := exists_cons_of_ne_nil (toDigits_ne_nil (n := m) (b := 10))
  have hc : c.isDigit = true := isDigit_toDigits (m := m) (heq ▸ mem_cons_self)
  rw [heq]
  unfold value
  split
  · rename_i heq'
    rw [(cons.inj heq').1] at hc
    exact absurd hc (by decide)
  · rfl

lemma fmtInts_floor {x : ℚ} (hx : 0 ≤ x) (hlt : x < 2 ^ 62) :
    fmtInts ⌊x⌋ = some (toDigits 10 ⌊x⌋.natAbs) := by
  have hfloor : 0 ≤ ⌊x⌋ := floor_nonneg.mpr hx
  have hbound : ⌊x⌋ < 2 ^ 62 := floor_lt.mpr (by exact_mod_cast hlt)
  have heq := render_eq (n := ⌊x⌋) (by omega) (by omega) 0
  rwa [numeral, if_neg hfloor.not_gt] at heq

lemma floor_places {f : ℚ} (hf : 0 ≤ f) : ⌊f * 10000⌋ = ⌊f⌋ * 10000 + places f := by
  have hsplit : f * 10000 = ((⌊f⌋ * 10000 : ℤ) : ℚ) + fract f * 10000 := by
    push_cast
    rw [← add_mul, floor_add_fract]
  rw [hsplit, floor_intCast_add, places, abs_of_nonneg hf]

lemma div_pow_length_eq_iff {k : ℕ} (hk : k < 10000) :
    (k : ℚ) / 10 ^ (toDigits 10 k).length = k / 10000 ↔ k = 0 ∨ 1000 ≤ k := by
  have hfour := (length_toDigits_le_iff (b := 10) (n := k) (k := 4) (by norm_num)
    (by norm_num)).mpr hk
  have hthree := length_toDigits_le_iff (b := 10) (n := k) (k := 3) (by norm_num) (by norm_num)
  constructor
  · intro h
    by_contra hnot
    rw [not_or, not_le] at hnot
    have hzero : (k : ℚ) ≠ 0 := cast_ne_zero.mpr hnot.1
    have hpow : (10 : ℚ) ^ (toDigits 10 k).length = 10000 := by
      rw [div_eq_div_iff (by positivity) (by norm_num)] at h
      exact (mul_left_cancel₀ hzero h).symm
    have hshort : (10 : ℚ) ^ (toDigits 10 k).length ≤ 10 ^ 3 :=
      pow_le_pow_right₀ (by norm_num) (hthree.mpr hnot.2)
    linarith
  · rintro (rfl | hlong)
    · norm_num
    · have hlength : (toDigits 10 k).length = 4 := by omega
      rw [hlength]
      norm_num

/-- The text of a number that is not negative, and when it is right. -/
lemma fmtAbs_eq {f : ℚ} (hf : 0 ≤ f) (hlt : f < 2 ^ 62) :
    ∃ s, fmtAbs f = some s ∧ value s = unsignedValue s ∧
      (unsignedValue s = some (⌊f * 10000⌋ / 10000 : ℚ) ↔ places f = 0 ∨ 1000 ≤ places f) := by
  have hwhole : ((⌊f⌋.natAbs : ℕ) : ℚ) = ⌊f⌋ := by
    rw [← Int.cast_natCast, Int.natAbs_of_nonneg (Int.floor_nonneg.mpr hf)]
  have hplaces : places f = ⌊(f - ⌊f⌋) * 10000⌋ := by rw [places, abs_of_nonneg hf, Int.fract]
  rw [floor_places hf]
  unfold fmtAbs
  by_cases hfrac : f - ⌊f⌋ = 0
  · have hnone : places f = 0 := by rw [hplaces, hfrac, zero_mul, Int.floor_zero]
    refine ⟨toDigits 10 ⌊f⌋.natAbs, by simp [hfrac, fmtInts_floor hf hlt], ?_, ?_⟩
    · simpa using value_toDigits ⌊f⌋.natAbs []
    · rw [unsignedValue_whole, hwhole, hnone]
      simp
  · have hpart : 0 ≤ (f - ⌊f⌋) * 10000 := mul_nonneg (Int.fract_nonneg f) (by norm_num)
    have hsmall : (f - ⌊f⌋) * 10000 < 10000 := by
      have := Int.fract_lt_one f
      rw [Int.fract] at this
      linarith
    have hdigits := fmtInts_floor hpart (hsmall.trans (by norm_num))
    rw [← hplaces] at hdigits
    have hnat : ((places f).natAbs : ℤ) = places f := by
      rw [hplaces]
      exact Int.natAbs_of_nonneg (Int.floor_nonneg.mpr hpart)
    have hbound : (places f).natAbs < 10000 := by
      have : places f < 10000 := by
        rw [hplaces]
        exact Int.floor_lt.mpr (by exact_mod_cast hsmall)
      omega
    have hvalue : ((⌊f⌋ * 10000 + places f : ℤ) / 10000 : ℚ) =
        ⌊f⌋.natAbs + (places f).natAbs / 10000 := by
      rw [hwhole, ← Int.cast_natCast, hnat]
      push_cast
      ring
    refine ⟨toDigits 10 ⌊f⌋.natAbs ++ '.' :: toDigits 10 (places f).natAbs,
      ?_, value_toDigits _ _, ?_⟩
    · simp only [fmtInts_floor hf hlt, ← hplaces, hdigits, Option.bind_eq_bind, Option.bind_some,
        Option.map_some]
      rw [if_pos hfrac]
      rfl
    rw [unsignedValue_point, hvalue, Option.some_inj, add_right_inj, div_pow_length_eq_iff hbound]
    omega

/-- **The numbers denoted**: a float by its text if its decimal places begin with no zero, or are
all zero; an integer if it is not the least one. -/
theorem numbers_denoted_iff (f : ℚ) (n : ℤ) (hf : |f| < 2 ^ 62) (hlow : -2 ^ 63 ≤ n)
    (hhigh : n < 2 ^ 63) :
    ((floatToString f).bind value = some (truncated f) ↔ places f = 0 ∨ 1000 ≤ places f) ∧
      ((intToString n = some (numeral n) ∧ int64ToString n = some (numeral n) ∧
        fmtInts n = some (numeral n)) ↔ n ≠ -2 ^ 63) := by
  constructor
  · unfold floatToString fmtFloat truncated
    by_cases hzero : f = 0
    · subst hzero
      simp [places]
      decide
    rw [if_neg hzero]
    by_cases hneg : f < 0
    · rw [abs_of_neg hneg] at hf
      obtain ⟨s, hs, -, hiff⟩ := fmtAbs_eq (neg_nonneg.mpr hneg.le) hf
      have hplaces : places (-f) = places f := by rw [places, places, abs_neg]
      rw [if_pos hneg, if_pos hneg, hs, ← hplaces, ← hiff]
      simp [value]
    · have hnonneg := not_lt.mp hneg
      rw [abs_of_nonneg hnonneg] at hf
      obtain ⟨s, hs, hvalue, hiff⟩ := fmtAbs_eq hnonneg hf
      rw [if_neg hneg, if_neg hneg, hs, ← hiff, Option.bind_some, hvalue]
  · constructor
    · rintro ⟨hint, -⟩ rfl
      exact absurd hint (by decide)
    · intro hne
      have hlow' : -2 ^ 63 < n := lt_of_le_of_ne hlow (Ne.symm hne)
      exact ⟨render_eq hlow' hhigh 0, render_eq hlow' hhigh 1, render_eq hlow' hhigh 0⟩

theorem numbers_denoted_price : ((floatToString (5 / 4)).bind value = some (truncated (5 / 4)) ↔
      places (5 / 4) = 0 ∨ 1000 ≤ places (5 / 4)) ∧
      ((intToString 42 = some (numeral 42) ∧ int64ToString 42 = some (numeral 42) ∧
        fmtInts 42 = some (numeral 42)) ↔ (42 : ℤ) ≠ -2 ^ 63) :=
  numbers_denoted_iff (5 / 4) 42 (by norm_num [abs_of_pos]) (by norm_num) (by norm_num)

theorem cent_and_least_wrong : floatToString (21 / 20) = some "1.500".toList ∧
      (floatToString (21 / 20)).bind value ≠ some (truncated (21 / 20)) ∧
      fmtInts (-2 ^ 63) = some ['-'] := by
  with_unfolding_all decide

end FfxNexus.Otel
