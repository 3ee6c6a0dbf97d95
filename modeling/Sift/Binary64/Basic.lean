/-
# Binary floating-point numbers of 64 bits

A number is a sign and a code. The code holds the exponent field and the fraction field, so it
counts the magnitudes from zero upwards: the codes below `infinityCode` stand for the finite
magnitudes in increasing order, and `infinityCode` for the infinite one. Every finite magnitude is
a whole multiple of the smallest positive one, 2 ^ -1074; `units` is that multiple.

Numbers compare through their codes. Negative zero equals zero, and nothing compares with a number
that is none (`nan`).

Key definitions: `Binary64`, `Binary64.units`, `Binary64.compare?`.
Key theorems: `Binary64.units_lt_units_succ`, `Binary64.units_strictMono`.
-/

namespace Sift

namespace Binary64

/-- The code of infinity: every bit of the exponent field is set. -/
def infinityCode : Nat := 0x7FF0000000000000

end Binary64

/-- A binary floating-point number of 64 bits; all that are not a number count as one. -/
inductive Binary64 where
  | nan
  | signed (negative : Bool) (code : Nat) (le_infinity : code ≤ Binary64.infinityCode)
deriving DecidableEq

namespace Binary64

/-- The magnitude with a code, in units of 2 ^ -1074. Above the numbers with an exponent field of
zero, the fraction has a leading one, and each further exponent doubles. -/
def units (code : Nat) : Nat :=
  if code < 0x10000000000000 then code
  else (0x10000000000000 + code % 0x10000000000000) * Nat.pow 2 (code / 0x10000000000000 - 1)

/-- The number of units in one. -/
@[irreducible] def unitsPerOne : Nat := Nat.pow 2 1074

/-- Positive or negative infinity. -/
def infinity (negative : Bool) : Binary64 :=
  .signed negative infinityCode (Nat.le_refl _)

/-- Positive or negative zero. -/
def zero (negative : Bool) : Binary64 :=
  .signed negative 0 (Nat.zero_le _)

instance : Inhabited Binary64 := ⟨zero false⟩

/-- Whether this is no number. -/
def isNan : Binary64 → Bool
  | .nan => true
  | .signed .. => false

/-- Whether this is a number that is not infinite. -/
def isFinite : Binary64 → Bool
  | .nan => false
  | .signed _ code _ => code < infinityCode

/-- The place of a number among the numbers: its code with its sign. -/
def place? : Binary64 → Option Int
  | .nan => none
  | .signed negative code _ => some (if negative then -(code : Int) else code)

/-- The order of two numbers, unless one of them is none. -/
def compare? (a b : Binary64) : Option Ordering :=
  match a.place?, b.place? with
  | some i, some j => some (compare i j)
  | _, _ => none

/-- Equality of numbers. -/
def same (a b : Binary64) : Bool :=
  compare? a b == some .eq

theorem units_of_lt {code : Nat} (h : code < 0x10000000000000) : units code = code :=
  if_pos h

theorem units_of_le {code : Nat} (h : 0x10000000000000 ≤ code) :
    units code =
      (0x10000000000000 + code % 0x10000000000000) * Nat.pow 2 (code / 0x10000000000000 - 1) :=
  if_neg (Nat.not_lt.mpr h)

/-- The next code stands for a greater magnitude. -/
theorem units_lt_units_succ (code : Nat) : units code < units (code + 1) := by
  by_cases h : code + 1 < 0x10000000000000
  · rw [units_of_lt h, units_of_lt (by omega)]
    omega
  by_cases hc : code < 0x10000000000000
  · obtain rfl : code = 0xFFFFFFFFFFFFF := by omega
    decide
  rw [units_of_le (Nat.not_lt.mp hc), units_of_le (by omega)]
  have hpos : 0 < Nat.pow 2 (code / 0x10000000000000 - 1) := Nat.two_pow_pos _
  by_cases hwrap : code % 0x10000000000000 = 0xFFFFFFFFFFFFF
  · have hmod : (code + 1) % 0x10000000000000 = 0 := by omega
    have hdiv : (code + 1) / 0x10000000000000 - 1 = (code / 0x10000000000000 - 1) + 1 := by omega
    have hpow : Nat.pow 2 (code / 0x10000000000000 - 1 + 1) =
        Nat.pow 2 (code / 0x10000000000000 - 1) * 2 := rfl
    rw [hmod, hdiv, hwrap, hpow]
    omega
  · have hmod : (code + 1) % 0x10000000000000 = code % 0x10000000000000 + 1 := by omega
    have hdiv : (code + 1) / 0x10000000000000 = code / 0x10000000000000 := by omega
    rw [hmod, hdiv]
    exact Nat.mul_lt_mul_of_pos_right (by omega) hpos

/-- Greater codes stand for greater magnitudes. -/
theorem units_strictMono {a b : Nat} (h : a < b) : units a < units b := by
  induction b with
  | zero => omega
  | succ b ih =>
    rcases Nat.lt_succ_iff_lt_or_eq.mp h with hlt | rfl
    · exact Nat.lt_trans (ih hlt) (units_lt_units_succ b)
    · exact units_lt_units_succ a

end Binary64

end Sift
