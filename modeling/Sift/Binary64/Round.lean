/-
# Rounding to the nearest number

A quotient of whole numbers rounds to the magnitude nearest to it; of two equally near ones, to
the one with the even code. What is past the last finite magnitude by half a step or more rounds
to infinity. The greatest magnitude that does not exceed the quotient is found bit by bit, from the
highest bit of the code down.

Whole numbers, decimals, products and quotients are all rounded this way, each once from its exact
value.

Key definitions: `Binary64.floorCode`, `Binary64.roundCode`, `Binary64.ofRatio`, `Binary64.ofInt`,
`Binary64.ofDecimal`, `Binary64.mul`, `Binary64.div`.
Key theorems: `Binary64.floorCode_spec`, `Binary64.roundCode_units`.
-/
import Sift.Binary64.Basic

namespace Sift.Binary64

/-- The greatest code from `code` to before `code + 2 ^ bits` whose magnitude, times
`denominator`, does not exceed `scaled`. -/
def floorFrom (scaled denominator : Nat) : Nat → Nat → Nat
  | 0, code => code
  | bits + 1, code =>
    let next := code + Nat.pow 2 bits
    floorFrom scaled denominator bits
      (if units next * denominator ≤ scaled then next else code)

/-- The code of the greatest magnitude up to a quotient. -/
def floorCode (numerator denominator : Nat) : Nat :=
  floorFrom (numerator * unitsPerOne) denominator 63 0

/-- The code of the magnitude nearest to a quotient. -/
def roundCode (numerator denominator : Nat) : Nat :=
  let below := floorCode numerator denominator
  let middle := (units below + units (below + 1)) * denominator
  let nearest :=
    match compare (2 * (numerator * unitsPerOne)) middle with
    | .lt => below
    | .eq => if below % 2 = 0 then below else below + 1
    | .gt => below + 1
  min nearest infinityCode

/-- The number nearest to a quotient, with a sign. -/
def ofRatio (negative : Bool) (numerator denominator : Nat) : Binary64 :=
  .signed negative (roundCode numerator denominator) (Nat.min_le_right _ _)

/-- The number nearest to an integer. -/
def ofInt (n : Int) : Binary64 :=
  ofRatio (n < 0) n.natAbs 1

/-- The code of the magnitude nearest to `digits * 10 ^ exponent`. A decimal of more than 400
places before the point is past all magnitudes, one that begins more than 400 places after it is
nearest to zero. -/
def decimalCode (digits : Nat) (exponent : Int) : Nat :=
  let places : Int := (Nat.toDigits 10 digits).length + exponent
  if digits = 0 ∨ places < -400 then 0
  else if 400 < places then infinityCode
  else roundCode (digits * Nat.pow 10 exponent.toNat) (Nat.pow 10 (-exponent).toNat)

theorem decimalCode_le (digits : Nat) (exponent : Int) :
    decimalCode digits exponent ≤ infinityCode := by
  unfold decimalCode
  dsimp only
  split
  · exact Nat.zero_le _
  split
  · exact Nat.le_refl _
  · exact Nat.min_le_right _ _

/-- The number nearest to `digits * 10 ^ exponent`, with a sign. -/
def ofDecimal (negative : Bool) (digits : Nat) (exponent : Int) : Binary64 :=
  .signed negative (decimalCode digits exponent) (decimalCode_le _ _)

/-- The product of two finite magnitudes, rounded once. -/
def mulCode (a b : Nat) : Nat :=
  roundCode (units a * units b) (unitsPerOne * unitsPerOne)

/-- The quotient of two finite magnitudes, the second above zero, rounded once. -/
def divCode (a b : Nat) : Nat :=
  roundCode (units a) (units b)

theorem floorFrom_spec (scaled denominator : Nat) : ∀ (bits code : Nat),
    units code * denominator ≤ scaled → scaled < units (code + Nat.pow 2 bits) * denominator →
    units (floorFrom scaled denominator bits code) * denominator ≤ scaled ∧
      scaled < units (floorFrom scaled denominator bits code + 1) * denominator
  | 0, _, hle, hlt => ⟨hle, by simpa [floorFrom] using hlt⟩
  | bits + 1, code, hle, hlt => by
    simp only [floorFrom]
    split
    next h =>
      refine floorFrom_spec scaled denominator bits _ h ?_
      rwa [Nat.add_assoc, ← Nat.mul_two]
    next h => exact floorFrom_spec scaled denominator bits _ hle (Nat.not_le.mp h)

/-- `floorCode` finds the last magnitude up to a quotient that is below 2 ^ 1025. -/
theorem floorCode_spec {numerator denominator : Nat}
    (h : numerator * unitsPerOne < units 0x8000000000000000 * denominator) :
    units (floorCode numerator denominator) * denominator ≤ numerator * unitsPerOne ∧
      numerator * unitsPerOne < units (floorCode numerator denominator + 1) * denominator := by
  refine floorFrom_spec _ _ 63 0 ?_ (by simpa using h)
  simp [units]

/-- The code `c` is the greatest whose magnitude does not exceed the quotient. -/
theorem eq_floorCode {numerator denominator c : Nat}
    (h : numerator * unitsPerOne < units 0x8000000000000000 * denominator)
    (hle : units c * denominator ≤ numerator * unitsPerOne)
    (hlt : numerator * unitsPerOne < units (c + 1) * denominator) :
    floorCode numerator denominator = c := by
  obtain ⟨hle', hlt'⟩ := floorCode_spec h
  rcases Nat.lt_trichotomy (floorCode numerator denominator) c with hc | hc | hc
  · have : units (floorCode numerator denominator + 1) ≤ units c := by
      rcases Nat.lt_or_eq_of_le (Nat.succ_le_of_lt hc) with h1 | h1
      · exact Nat.le_of_lt (units_strictMono h1)
      · simp [← h1]
    have := Nat.mul_le_mul_right denominator this
    omega
  · exact hc
  · have : units (c + 1) ≤ units (floorCode numerator denominator) := by
      rcases Nat.lt_or_eq_of_le (Nat.succ_le_of_lt hc) with h1 | h1
      · exact Nat.le_of_lt (units_strictMono h1)
      · simp [← h1]
    have := Nat.mul_le_mul_right denominator this
    omega

/-- A quotient that is a magnitude rounds to itself. -/
theorem roundCode_units {numerator denominator c : Nat} (hd : 0 < denominator)
    (hc : c ≤ infinityCode) (h : numerator * unitsPerOne = units c * denominator) :
    roundCode numerator denominator = c := by
  have hlt : numerator * unitsPerOne < units 0x8000000000000000 * denominator := by
    rw [h]
    refine Nat.mul_lt_mul_of_pos_right (units_strictMono ?_) hd
    unfold infinityCode at hc
    omega
  have hstep : units c * denominator < units (c + 1) * denominator :=
    Nat.mul_lt_mul_of_pos_right (units_lt_units_succ c) hd
  have hfloor : floorCode numerator denominator = c :=
    eq_floorCode hlt (Nat.le_of_eq h.symm) (h ▸ hstep)
  have hcmp : compare (2 * (numerator * unitsPerOne)) ((units c + units (c + 1)) * denominator)
      = .lt := by
    rw [h, Nat.compare_eq_lt, Nat.add_mul]
    generalize units c * denominator = low at hstep
    generalize units (c + 1) * denominator = high at hstep
    omega
  simp only [roundCode, hfloor, hcmp]
  exact Nat.min_eq_left hc

end Sift.Binary64
