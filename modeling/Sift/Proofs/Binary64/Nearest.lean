/-
# The nearest magnitude

Rounding gives the magnitude nearest to a number, and of two equally near ones the one with the even
code. A magnitude is nearest to the numbers between the middles to its two neighbours; the middles
belong to the even code. The code of infinity has the place of the first power of two that no finite
magnitude reaches, so that what is past the last finite magnitude by half a step or more is nearest to
it.

Key definitions: `Binary64.magnitude`, `Binary64.IsNearest`.
Key theorems: `Binary64.IsNearest.unique`, `Binary64.isNearest_of_middles`,
`Binary64.isNearest_roundCode`, `Binary64.isNearest_decimalCode`.
-/
import Mathlib.Algebra.Order.Field.Basic
import Mathlib.Algebra.Order.Field.Rat
import Mathlib.Tactic.Linarith
import Mathlib.Tactic.Ring
import Sift.Proofs.Binary64.Exact

namespace Sift.Binary64

/-- The magnitude with a code. -/
def magnitude (code : Nat) : ℚ :=
  units code / unitsPerOne

/-- Whether a code stands for the magnitude nearest to a number, or for the even one of two that are
equally near. -/
structure IsNearest (number : ℚ) (code : Nat) : Prop where
  le_infinity : code ≤ infinityCode
  nearest : ∀ other ≤ infinityCode, |magnitude code - number| ≤ |magnitude other - number|
  even : ∀ other ≤ infinityCode, other ≠ code →
    |magnitude other - number| = |magnitude code - number| → code % 2 = 0

variable {number : ℚ} {code numerator denominator : Nat}

/-! ### Magnitudes -/

theorem cast_unitsPerOne_pos : (0 : ℚ) < unitsPerOne :=
  Nat.cast_pos.mpr unitsPerOne_pos

theorem magnitude_lt_magnitude {a b : Nat} (h : a < b) : magnitude a < magnitude b :=
  div_lt_div_of_pos_right (Nat.cast_lt.mpr (units_strictMono h)) cast_unitsPerOne_pos

theorem magnitude_le_magnitude {a b : Nat} (h : a ≤ b) : magnitude a ≤ magnitude b := by
  rcases Nat.lt_or_eq_of_le h with hlt | rfl
  · exact (magnitude_lt_magnitude hlt).le
  · exact le_refl _

theorem magnitude_zero : magnitude 0 = 0 := by
  rw [magnitude, units_zero, Nat.cast_zero, zero_div]

theorem magnitude_le_div_iff (hd : 0 < denominator) :
    magnitude code ≤ numerator / denominator ↔
      units code * denominator ≤ numerator * unitsPerOne := by
  rw [magnitude, div_le_div_iff₀ cast_unitsPerOne_pos (Nat.cast_pos.mpr hd), ← Nat.cast_mul,
    ← Nat.cast_mul, Nat.cast_le]

/-- Where a quotient lies to the middle of two magnitudes is where it lies in units. -/
theorem compare_middle (numerator : Nat) (hd : 0 < denominator) (a b : Nat) :
    (2 * (numerator * unitsPerOne) < (units a + units b) * denominator ↔
      2 * (numerator / denominator : ℚ) < magnitude a + magnitude b) ∧
    (2 * (numerator * unitsPerOne) = (units a + units b) * denominator ↔
      2 * (numerator / denominator : ℚ) = magnitude a + magnitude b) := by
  have hquotient : 2 * (numerator / denominator : ℚ) = (2 * numerator : Nat) / denominator := by
    rw [Nat.cast_mul, Nat.cast_ofNat, mul_div_assoc]
  have hmiddle : magnitude a + magnitude b = (units a + units b : Nat) / unitsPerOne := by
    rw [magnitude, magnitude, ← add_div, Nat.cast_add]
  have hd' : (0 : ℚ) < denominator := Nat.cast_pos.mpr hd
  have hunits := cast_unitsPerOne_pos
  rw [hquotient, hmiddle, div_lt_div_iff₀ hd' hunits, div_eq_div_iff hd'.ne' hunits.ne',
    ← Nat.cast_mul, ← Nat.cast_mul, Nat.cast_lt, Nat.cast_inj, Nat.mul_assoc]
  exact ⟨Iff.rfl, Iff.rfl⟩

/-! ### Neighbours -/

/-- The greater one of two numbers is as near to a third one as the other if their middle is not past
the third one, and nearer if it is in front of it. -/
theorem abs_sub_le_of_middle (number : ℚ) {a b : ℚ} (h : a < b) (hmiddle : a + b ≤ 2 * number) :
    |b - number| ≤ |a - number| ∧ (|a - number| = |b - number| → a + b = 2 * number) := by
  rw [abs_sub_comm a, abs_of_nonneg (by linarith : 0 ≤ number - a)]
  rcases abs_cases (b - number) with ⟨habs, -⟩ | ⟨habs, -⟩ <;> rw [habs]
  · exact ⟨by linarith, fun heq => by linarith⟩
  · exact ⟨by linarith, fun heq => by linarith⟩

theorem abs_sub_le_of_le_middle (number : ℚ) {a b : ℚ} (h : a < b) (hmiddle : 2 * number ≤ a + b) :
    |a - number| ≤ |b - number| ∧ (|b - number| = |a - number| → 2 * number = a + b) := by
  have hneg := abs_sub_le_of_middle (-number) (neg_lt_neg h) (by linarith)
  rw [neg_sub_neg, neg_sub_neg, abs_sub_comm number, abs_sub_comm number] at hneg
  exact ⟨hneg.1, fun heq => by linarith [hneg.2 heq]⟩

/-- **A magnitude is nearest to the numbers between the middles to its neighbours**, and to the middles
if its code is even. -/
theorem isNearest_of_middles (hcode : code ≤ infinityCode)
    (hbelow : ∀ below, below + 1 = code → magnitude below + magnitude code ≤ 2 * number ∧
      (magnitude below + magnitude code = 2 * number → code % 2 = 0))
    (habove : code < infinityCode → 2 * number ≤ magnitude code + magnitude (code + 1) ∧
      (2 * number = magnitude code + magnitude (code + 1) → code % 2 = 0)) :
    IsNearest number code := by
  suffices ∀ other ≤ infinityCode, other ≠ code →
      |magnitude code - number| ≤ |magnitude other - number| ∧
        (|magnitude other - number| = |magnitude code - number| → code % 2 = 0) by
    refine ⟨hcode, fun other hother => ?_, fun other hother hne => (this other hother hne).2⟩
    by_cases hne : other = code
    · rw [hne]
    · exact (this other hother hne).1
  intro other hother hne
  rcases Nat.lt_or_gt_of_ne hne with hlt | hlt
  · -- the neighbour below is as far from the number as `other` or nearer to it
    obtain ⟨below, rfl⟩ : ∃ below, below + 1 = code := ⟨code - 1, by omega⟩
    obtain ⟨hmiddle, heven⟩ := hbelow below rfl
    have hle : magnitude other ≤ magnitude below := magnitude_le_magnitude (by omega)
    obtain ⟨hnear, htie⟩ := abs_sub_le_of_middle number (magnitude_lt_magnitude hlt)
      (by linarith)
    exact ⟨hnear, fun heq => heven (by linarith [htie heq])⟩
  · obtain ⟨hmiddle, heven⟩ := habove (by omega)
    have hle : magnitude (code + 1) ≤ magnitude other := magnitude_le_magnitude hlt
    obtain ⟨hnear, htie⟩ := abs_sub_le_of_le_middle number (magnitude_lt_magnitude hlt)
      (by linarith)
    exact ⟨hnear, fun heq => heven (by linarith [htie heq])⟩

/-- **Only one magnitude is nearest to a number.** -/
theorem IsNearest.unique {code' : Nat} (h : IsNearest number code) (h' : IsNearest number code') :
    code = code' := by
  wlog hlt : code < code' generalizing code code'
  · rcases Nat.lt_or_eq_of_le (Nat.le_of_not_lt hlt) with hgt | heq
    · exact (this h' h hgt).symm
    · exact heq.symm
  have hdistance : |magnitude code' - number| = |magnitude code - number| :=
    le_antisymm (h'.nearest code h.le_infinity) (h.nearest code' h'.le_infinity)
  have heven := h.even code' h'.le_infinity (Nat.ne_of_gt hlt) hdistance
  have heven' := h'.even code h.le_infinity (Nat.ne_of_lt hlt) hdistance.symm
  -- the code between the two even ones would be nearer
  have hbetween := h.nearest (code + 1) (by have := h'.le_infinity; omega)
  have hlow := magnitude_lt_magnitude (Nat.lt_succ_self code)
  have hhigh : magnitude (code + 1) < magnitude code' := magnitude_lt_magnitude (by omega)
  have hmiddle : magnitude code + magnitude code' = 2 * number := by
    rcases le_total (magnitude code + magnitude code') (2 * number) with hle | hle
    · exact (abs_sub_le_of_middle number (hlow.trans hhigh) hle).2 hdistance.symm
    · exact ((abs_sub_le_of_le_middle number (hlow.trans hhigh) hle).2 hdistance).symm
  rw [abs_sub_comm, abs_of_nonneg (by linarith)] at hbetween
  have hnearer : |magnitude (code + 1) - number| < number - magnitude code :=
    abs_lt.mpr ⟨by linarith, by linarith⟩
  exact absurd hbetween hnearer.not_ge

/-! ### Quotients -/

theorem isNearest_infinityCode (h : magnitude infinityCode ≤ number) :
    IsNearest number infinityCode := by
  refine isNearest_of_middles (Nat.le_refl _) (fun below hbelow => ?_)
    fun hlt => absurd hlt (Nat.lt_irrefl _)
  have hlt : magnitude below < magnitude infinityCode := magnitude_lt_magnitude (by omega)
  exact ⟨by linarith, fun heq => by linarith⟩

theorem isNearest_zero (h : 2 * number < magnitude 1) :
    IsNearest number 0 := by
  refine isNearest_of_middles (Nat.zero_le _) (fun below hbelow => by omega) fun _ => ?_
  rw [magnitude_zero, Nat.zero_add]
  exact ⟨by linarith, fun _ => rfl⟩

/-- The code that is found bit by bit is not less than any code whose magnitude does not exceed the
quotient, however great the quotient is. -/
theorem le_floorFrom {scaled c : Nat} (h : units c * denominator ≤ scaled) :
    ∀ bits code : Nat, c < code + Nat.pow 2 bits →
      code ≤ floorFrom scaled denominator bits code ∧ c ≤ floorFrom scaled denominator bits code
  | 0, code, hc => ⟨Nat.le_refl _, Nat.le_of_lt_succ hc⟩
  | bits + 1, code, hc => by
    have hpow : Nat.pow 2 (bits + 1) = Nat.pow 2 bits + Nat.pow 2 bits := Nat.mul_two _
    simp only [floorFrom]
    by_cases hnext : units (code + Nat.pow 2 bits) * denominator ≤ scaled
    · rw [if_pos hnext]
      obtain ⟨hcode, hle⟩ := le_floorFrom h bits (code + Nat.pow 2 bits) (by omega)
      exact ⟨by omega, hle⟩
    · rw [if_neg hnext]
      refine le_floorFrom h bits code (Nat.lt_of_not_le fun hle => hnext ?_)
      exact Nat.le_trans (Nat.mul_le_mul_right _ (units_mono hle)) h

/-- **Rounding gives the nearest magnitude.** -/
theorem isNearest_roundCode (numerator : Nat) (hd : 0 < denominator) :
    IsNearest (numerator / denominator) (roundCode numerator denominator) := by
  rw [roundCode_eq_nearestCode]
  generalize hfloor : floorCode numerator denominator = below
  by_cases hinfinity : units infinityCode * denominator ≤ numerator * unitsPerOne
  · have hle : infinityCode ≤ below := by
      rw [← hfloor]
      exact (le_floorFrom hinfinity 63 0 (by decide)).2
    rw [Nat.min_eq_right (Nat.le_trans hle (le_nearestCode _ _))]
    exact isNearest_infinityCode ((magnitude_le_div_iff hd).mpr hinfinity)
  have hbound : numerator * unitsPerOne < units 0x8000000000000000 * denominator :=
    Nat.lt_of_not_le fun hle => hinfinity
      (Nat.le_trans (Nat.mul_le_mul_right _ (units_mono (by decide))) hle)
  obtain ⟨hlow, hhigh⟩ := floorCode_spec hbound
  rw [hfloor] at hlow hhigh
  have hbelow : below < infinityCode := Nat.lt_of_not_le fun hle => hinfinity
    (Nat.le_trans (Nat.mul_le_mul_right _ (units_mono hle)) hlow)
  rw [Nat.min_eq_left (Nat.le_trans (nearestCode_le _ _) hbelow)]
  replace hlow := (magnitude_le_div_iff hd).mpr hlow
  replace hhigh := lt_of_not_ge (mt (magnitude_le_div_iff hd).mp (Nat.not_le_of_lt hhigh))
  obtain ⟨hlt, heq⟩ := compare_middle numerator hd below (below + 1)
  generalize (numerator / denominator : ℚ) = number at hlow hhigh hlt heq
  -- the number is between `below` and the next code; the middles on their outer sides are far
  have hbefore : ∀ before, before + 1 = below → magnitude before + magnitude below < 2 * number := by
    intro before hbefore
    have := magnitude_lt_magnitude (show before < below by omega)
    linarith
  have hbehind : 2 * number < magnitude (below + 1) + magnitude (below + 1 + 1) := by
    have := magnitude_lt_magnitude (Nat.lt_succ_self (below + 1))
    linarith
  have hlower (hmiddle : 2 * number ≤ magnitude below + magnitude (below + 1) ∧
      (2 * number = magnitude below + magnitude (below + 1) → below % 2 = 0)) :
      IsNearest number below :=
    isNearest_of_middles hbelow.le
      (fun before h => ⟨(hbefore before h).le, fun h' => absurd h' (hbefore before h).ne⟩)
      fun _ => hmiddle
  have hupper (hmiddle : magnitude below + magnitude (below + 1) ≤ 2 * number ∧
      (magnitude below + magnitude (below + 1) = 2 * number → (below + 1) % 2 = 0)) :
      IsNearest number (below + 1) := by
    refine isNearest_of_middles hbelow (fun before h => ?_)
      fun _ => ⟨hbehind.le, fun h => absurd h hbehind.ne⟩
    obtain rfl : before = below := by omega
    exact hmiddle
  rcases Nat.lt_trichotomy (2 * (numerator * unitsPerOne))
    ((units below + units (below + 1)) * denominator) with hmiddle | hmiddle | hmiddle
  · rw [Nat.compare_eq_lt.mpr hmiddle]
    have hmiddle' := hlt.mp hmiddle
    exact hlower ⟨hmiddle'.le, fun h => absurd h hmiddle'.ne⟩
  · rw [Nat.compare_eq_eq.mpr hmiddle, nearestCode]
    have hmiddle' := heq.mp hmiddle
    split
    next heven => exact hlower ⟨hmiddle'.le, fun _ => heven⟩
    next hodd => exact hupper ⟨hmiddle'.ge, fun _ => by omega⟩
  · rw [Nat.compare_eq_gt.mpr hmiddle]
    have hge := mt hlt.mpr (Nat.lt_asymm hmiddle)
    have hne := mt heq.mpr (Nat.ne_of_gt hmiddle)
    exact hupper ⟨le_of_not_gt hge, fun h => absurd h.symm hne⟩

/-! ### Decimals -/

/-- The number that a decimal denotes. -/
def Decimal.value (decimal : Decimal) : ℚ :=
  decimal.digits * 10 ^ decimal.exponent

/-- A decimal as a quotient of whole numbers. -/
theorem Decimal.value_eq_div (digits : Nat) (exponent : Int) :
    value ⟨digits, exponent⟩ =
      (digits * Nat.pow 10 exponent.toNat : Nat) / (Nat.pow 10 (-exponent).toNat : Nat) := by
  have hcast (places : Nat) : ((Nat.pow 10 places : Nat) : ℚ) = 10 ^ places := Nat.cast_pow 10 places
  unfold value
  rw [Nat.cast_mul, hcast, hcast, mul_div_assoc]
  congr 1
  rcases Int.le_total 0 exponent with h | h
  · obtain ⟨places, rfl⟩ := Int.eq_ofNat_of_zero_le h
    rw [Int.toNat_neg_natCast, pow_zero, div_one, Int.toNat_natCast, zpow_natCast]
  · obtain ⟨places, hplaces⟩ := Int.eq_ofNat_of_zero_le (Int.neg_nonneg_of_nonpos h)
    obtain rfl : exponent = -places := by omega
    rw [Int.toNat_neg_natCast, Int.neg_neg, Int.toNat_natCast, pow_zero, zpow_neg, zpow_natCast,
      one_div]

/-- A decimal that begins more than 400 places after the point is less than half the least magnitude
above zero. -/
theorem mul_lt_ten_pow {digits length a b places : Nat} (hplaces : unitsPerOne = Nat.pow 2 places)
    (hdigits : digits < Nat.pow 10 length) (hlow : length + a ≤ b)
    (hb : places + 1 ≤ 3 * (b - (length + a))) :
    2 * (digits * Nat.pow 10 a * unitsPerOne) < Nat.pow 10 b := by
  have hdouble : Nat.pow 2 (places + 1) = Nat.pow 2 places * 2 := rfl
  calc
    2 * (digits * Nat.pow 10 a * unitsPerOne) = digits * Nat.pow 10 a * Nat.pow 2 (places + 1) := by
      rw [hplaces, hdouble]
      ring
    _ < Nat.pow 10 length * Nat.pow 10 a * Nat.pow 2 (places + 1) :=
      Nat.mul_lt_mul_of_pos_right
        (Nat.mul_lt_mul_of_pos_right hdigits (Nat.pow_pos (by decide))) (Nat.two_pow_pos _)
    _ ≤ Nat.pow 10 length * Nat.pow 10 a * Nat.pow 10 (b - (length + a)) :=
      Nat.mul_le_mul_left _ (two_pow_le_ten_pow hb)
    _ = Nat.pow 10 (length + a + (b - (length + a))) := by
      rw [show Nat.pow 10 length * Nat.pow 10 a = Nat.pow 10 (length + a) from
        (Nat.pow_add 10 _ _).symm]
      exact (Nat.pow_add 10 _ _).symm
    _ = Nat.pow 10 b := by rw [Nat.add_sub_cancel' hlow]

/-- A decimal of more than 400 places before the point is past all finite magnitudes. -/
theorem units_infinityCode_mul_le {digits length a b j places : Nat}
    (hinfinity : units infinityCode = Nat.pow 2 (j + places))
    (hplaces : unitsPerOne = Nat.pow 2 places) (hdigits : Nat.pow 10 length ≤ digits)
    (hlow : b ≤ length + a) (hj : j ≤ 3 * (length + a - b)) :
    units infinityCode * Nat.pow 10 b ≤ digits * Nat.pow 10 a * unitsPerOne := by
  have hpow : Nat.pow 2 (j + places) = Nat.pow 2 j * Nat.pow 2 places := Nat.pow_add 2 _ _
  have hten : Nat.pow 10 (length + a - b) * Nat.pow 10 b = Nat.pow 10 length * Nat.pow 10 a := by
    have hsplit : Nat.pow 10 (length + a - b + b) =
        Nat.pow 10 (length + a - b) * Nat.pow 10 b := Nat.pow_add 10 _ _
    rw [← hsplit, Nat.sub_add_cancel hlow]
    exact Nat.pow_add 10 _ _
  calc
    units infinityCode * Nat.pow 10 b = Nat.pow 2 j * Nat.pow 10 b * unitsPerOne := by
      rw [hinfinity, hpow, hplaces]
      ring
    _ ≤ Nat.pow 10 (length + a - b) * Nat.pow 10 b * unitsPerOne :=
      Nat.mul_le_mul_right _ (Nat.mul_le_mul_right _ (two_pow_le_ten_pow hj))
    _ = Nat.pow 10 length * Nat.pow 10 a * unitsPerOne := by rw [hten]
    _ ≤ digits * Nat.pow 10 a * unitsPerOne :=
      Nat.mul_le_mul_right _ (Nat.mul_le_mul_right _ hdigits)

/-- **A decimal is read as the magnitude nearest to it.** -/
theorem isNearest_decimalCode (digits : Nat) (exponent : Int) :
    IsNearest (Decimal.value ⟨digits, exponent⟩) (decimalCode digits exponent) := by
  have hpower : 0 < Nat.pow 10 (-exponent).toNat := Nat.pow_pos (by decide)
  have hround := isNearest_roundCode (digits * Nat.pow 10 exponent.toNat) hpower
  rw [Decimal.value_eq_div]
  unfold decimalCode
  dsimp only
  by_cases hzero : digits = 0
  · rw [if_pos (.inl hzero), hzero, Nat.zero_mul, Nat.cast_zero, zero_div]
    refine isNearest_zero ?_
    rw [mul_zero, ← magnitude_zero]
    exact magnitude_lt_magnitude Nat.one_pos
  have hlength : 0 < (Nat.toDigits 10 digits).length := Nat.length_toDigits_pos
  have hdigits : digits < Nat.pow 10 (Nat.toDigits 10 digits).length :=
    (Nat.length_toDigits_le_iff (by decide) hlength).mp (Nat.le_refl _)
  have hdigits' : Nat.pow 10 ((Nat.toDigits 10 digits).length - 1) ≤ digits := by
    rcases Nat.eq_zero_or_pos ((Nat.toDigits 10 digits).length - 1) with h | h
    · rw [h]
      exact Nat.pos_of_ne_zero hzero
    · refine Nat.le_of_not_lt fun hlt => ?_
      have := (Nat.length_toDigits_le_iff (by decide) h).mpr hlt
      omega
  generalize (Nat.toDigits 10 digits).length = length at hlength hdigits hdigits'
  split
  next htiny =>
    refine isNearest_zero ?_
    rw [← zero_add (magnitude 1), ← magnitude_zero, ← (compare_middle _ hpower 0 1).1]
    have hlt := mul_lt_ten_pow (a := exponent.toNat) (b := (-exponent).toNat) unitsPerOne_eq hdigits
      (by omega) (by omega)
    rwa [show units 0 + units 1 = 1 from rfl, Nat.one_mul]
  next htiny =>
  split
  next hgreat =>
    refine isNearest_infinityCode ((magnitude_le_div_iff hpower).mpr ?_)
    exact units_infinityCode_mul_le units_infinityCode unitsPerOne_eq hdigits' (by omega) (by omega)
  next hgreat => exact hround

end Sift.Binary64
