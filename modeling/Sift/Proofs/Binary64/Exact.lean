/-
# Whole numbers that are not rounded

Every whole number up to 2 ^ 53 is a magnitude. Shifted until its leading one stands where that of a
magnitude with an exponent field does, it gives the fraction of its code, and the places shifted give
the exponent. So it is rounded to itself, and numbers compare by what they are, counted in units of
2 ^ -1074.

Key definition: `Binary64.signedUnits`.
Key theorems: `Binary64.units_roundCode`, `Binary64.compare_signedUnits`.
-/
import Sift.Proofs.Binary64.Monotone

namespace Sift.Binary64

/-! ### Whole numbers as magnitudes -/

/-- The magnitude of a code that is given by its exponent and its fraction. -/
theorem units_add {fraction : Nat} (exponent : Nat) (h : fraction < 0x10000000000000) :
    units (0x10000000000000 * (exponent + 1) + fraction) =
      (0x10000000000000 + fraction) * Nat.pow 2 exponent := by
  have hmod : (0x10000000000000 * (exponent + 1) + fraction) % 0x10000000000000 = fraction := by
    omega
  have hdiv : (0x10000000000000 * (exponent + 1) + fraction) / 0x10000000000000 - 1 = exponent := by
    omega
  rw [units_of_le (by omega), hmod, hdiv]

/-- A number whose leading one is at place `k` is a magnitude, the places before it being those of
the numbers of units in one. -/
theorem exists_units_eq {n k places : Nat} (hplaces : unitsPerOne = Nat.pow 2 places)
    (hk : k ≤ 52) (hshift : 52 ≤ places) (hlow : Nat.pow 2 k ≤ n) (hhigh : n < Nat.pow 2 (k + 1)) :
    ∃ fraction, fraction < 0x10000000000000 ∧
      units (0x10000000000000 * (places - 52 + k + 1) + fraction) = n * unitsPerOne := by
  have hleading : Nat.pow 2 k * Nat.pow 2 (52 - k) = 0x10000000000000 := by
    have hpow : Nat.pow 2 (k + (52 - k)) = Nat.pow 2 k * Nat.pow 2 (52 - k) := Nat.pow_add 2 k _
    rw [← hpow, Nat.add_sub_cancel' hk]
  have hdouble : Nat.pow 2 (k + 1) = Nat.pow 2 k * 2 := rfl
  have hmin : 0x10000000000000 ≤ n * Nat.pow 2 (52 - k) := by
    rw [← hleading]
    exact Nat.mul_le_mul_right _ hlow
  have hmax : n * Nat.pow 2 (52 - k) < 2 * 0x10000000000000 := by
    calc
      n * Nat.pow 2 (52 - k) < Nat.pow 2 k * 2 * Nat.pow 2 (52 - k) :=
        Nat.mul_lt_mul_of_pos_right (hdouble ▸ hhigh) (Nat.two_pow_pos _)
      _ = 2 * (Nat.pow 2 k * Nat.pow 2 (52 - k)) := by rw [Nat.mul_comm _ 2, Nat.mul_assoc]
      _ = 2 * 0x10000000000000 := by rw [hleading]
  refine ⟨n * Nat.pow 2 (52 - k) - 0x10000000000000, by omega, ?_⟩
  have hexponent : Nat.pow 2 (52 - k) * Nat.pow 2 (places - 52 + k) = Nat.pow 2 places := by
    have hpow : Nat.pow 2 (52 - k + (places - 52 + k)) =
        Nat.pow 2 (52 - k) * Nat.pow 2 (places - 52 + k) := Nat.pow_add 2 _ _
    rw [← hpow, show 52 - k + (places - 52 + k) = places by omega]
  rw [units_add _ (by omega), Nat.add_sub_cancel' hmin, Nat.mul_assoc, hexponent, hplaces]

theorem units_two_pow {places : Nat} (hplaces : unitsPerOne = Nat.pow 2 places) :
    units (0x10000000000000 * (places + 1 + 1)) = 0x20000000000000 * unitsPerOne := by
  rw [units_mul_succ, hplaces, show 52 + (places + 1) = 53 + places by omega]
  exact Nat.pow_add 2 53 places

/-- **Whole numbers up to 2 ^ 53 are not rounded.** -/
theorem units_roundCode {n : Nat} (h : n ≤ 0x20000000000000) :
    units (roundCode n 1) = n * unitsPerOne := by
  suffices ∃ code ≤ infinityCode, units code = n * unitsPerOne by
    obtain ⟨code, hcode, hunits⟩ := this
    rw [roundCode_units Nat.one_pos hcode (by rw [hunits, Nat.mul_one]), hunits]
  by_cases hzero : n = 0
  · exact ⟨0, Nat.zero_le _, by rw [hzero, Nat.zero_mul]; rfl⟩
  by_cases htop : n = 0x20000000000000
  · have hunits := units_two_pow unitsPerOne_eq
    rw [htop]
    exact ⟨_, by decide, hunits⟩
  have hlog : n.log2 ≤ 52 := by
    have : n.log2 < 53 := (Nat.log2_lt hzero).mpr (by omega)
    omega
  obtain ⟨fraction, hfraction, hunits⟩ := exists_units_eq unitsPerOne_eq hlog (by decide)
    (Nat.log2_self_le hzero) Nat.lt_log2_self
  refine ⟨_, ?_, hunits⟩
  unfold infinityCode
  omega

theorem unitsPerOne_pos : 0 < unitsPerOne := by
  have hpos : ∀ places, unitsPerOne = Nat.pow 2 places → 0 < unitsPerOne := by
    intro places hplaces
    rw [hplaces]
    exact Nat.two_pow_pos places
  exact hpos _ unitsPerOne_eq

/-! ### Numbers by what they are -/

/-- A number in units of 2 ^ -1074. The infinite magnitude stands for the number behind all finite
ones, to which its code belongs. -/
def signedUnits (negative : Bool) (code : Nat) : Int :=
  if negative then -(units code : Int) else units code

theorem compare_eq_of_lt_iff {i j k l : Int} (hlt : i < j ↔ k < l) (hgt : j < i ↔ l < k) :
    compare i j = compare k l := by
  rcases Int.lt_trichotomy i j with h | rfl | h
  · rw [Int.compare_eq_lt.mpr h, Int.compare_eq_lt.mpr (hlt.mp h)]
  · have heq : k = l := by omega
    rw [heq, Int.compare_eq_eq.mpr rfl, Int.compare_eq_eq.mpr rfl]
  · rw [Int.compare_eq_gt.mpr h, Int.compare_eq_gt.mpr (hgt.mp h)]

theorem units_lt_iff {a b : Nat} : units a < units b ↔ a < b := by
  refine ⟨fun h => Nat.lt_of_not_le fun hle => ?_, units_strictMono⟩
  have := units_mono hle
  omega

theorem units_zero : units 0 = 0 :=
  rfl

theorem signedUnits_lt_iff (s t : Bool) (a b : Nat) :
    signedUnits s a < signedUnits t b ↔
      (if s then -(a : Int) else a) < (if t then -(b : Int) else b) := by
  have hab := @units_lt_iff a b
  have hba := @units_lt_iff b a
  have ha := @units_lt_iff 0 a
  have hb := @units_lt_iff 0 b
  rw [units_zero] at ha hb
  unfold signedUnits
  cases s <;> cases t <;> simp only [Bool.false_eq_true, ↓reduceIte] <;> omega

/-- Numbers compare by what they are. -/
theorem compare_signedUnits (s t : Bool) (a b : Nat) :
    compare (signedUnits s a) (signedUnits t b) =
      compare (if s then -(a : Int) else a) (if t then -(b : Int) else b) :=
  compare_eq_of_lt_iff (signedUnits_lt_iff s t a b) (signedUnits_lt_iff t s b a)

/-- An integer up to 2 ^ 53 on either side of zero is not rounded. -/
theorem signedUnits_roundCode {n : Int} (h : n.natAbs ≤ 0x20000000000000) :
    signedUnits (n < 0) (roundCode n.natAbs 1) = n * unitsPerOne := by
  unfold signedUnits
  rw [units_roundCode h, Int.natCast_mul]
  by_cases hneg : n < 0
  · rw [if_pos (decide_eq_true hneg), ← Int.neg_mul, show -(n.natAbs : Int) = n by omega]
  · rw [if_neg (by simpa using hneg), show (n.natAbs : Int) = n by omega]

end Sift.Binary64
