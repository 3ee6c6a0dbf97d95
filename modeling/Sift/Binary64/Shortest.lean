/-
# The shortest decimal of a number

A decimal belongs to a magnitude when it rounds to it. The shortest decimal of a magnitude is looked
for on coarser grids first: on the grid of 1, 2, ... 17 significant digits only the two points around
the magnitude can belong to it; the first grid with such a point wins, and of two points the nearer
one. When both are equally near, a `Tie` decides. The exact decimal expansion stands behind
the grids, so that the answer always rounds to the magnitude, whichever case produced it.

Key definitions: `Binary64.Tie`, `Binary64.Decimal`, `Binary64.gridPoint?`, `Binary64.shortest`.
-/
import Sift.Binary64.Round

namespace Sift.Binary64

/-- Which of two equally near decimals is taken. -/
inductive Tie where
  /-- The greater one. -/
  | up
  /-- The one whose last digit is even. -/
  | toEven
deriving DecidableEq

/-- The decimal `digits * 10 ^ exponent`. -/
structure Decimal where
  digits : Nat
  exponent : Int
deriving DecidableEq

/-- The point on the grid of multiples of `10 ^ exponent` that rounds to the magnitude and is
nearest to it, if there is one. -/
def gridPoint? (tie : Tie) (code : Nat) (exponent : Int) : Option Decimal :=
  let numerator := units code * Nat.pow 10 (-exponent).toNat
  let denominator := unitsPerOne * Nat.pow 10 exponent.toNat
  let below := numerator / denominator
  let remainder := numerator % denominator
  let takesAbove : Bool :=
    match compare (2 * remainder) denominator with
    | .lt => false
    | .gt => true
    | .eq => tie = .up || below % 2 = 1
  match decimalCode below exponent == code, decimalCode (below + 1) exponent == code with
  | true, true => some ⟨bif takesAbove then below + 1 else below, exponent⟩
  | true, false => some ⟨below, exponent⟩
  | false, true => some ⟨below + 1, exponent⟩
  | false, false => none

/-- The number of digits before the point of a magnitude above zero; for magnitudes below one,
the number of zeros after the point, negated. The logarithm of two is rounded to five places,
which is exact enough for all magnitudes. -/
def pointPlace (code : Nat) : Int :=
  let exponent : Int := Nat.log2 (units code) - 1074
  let place := exponent * 30103 / 100000 + 1
  let bound := Nat.pow 10 place.toNat * unitsPerOne
  if bound ≤ units code * Nat.pow 10 (-place).toNat then place + 1 else place

/-- Moves the zeros at the end of the digits into the exponent. -/
def Decimal.stripZeros (digits : Nat) (exponent : Int) : Decimal :=
  if h : 0 < digits ∧ digits % 10 = 0 then stripZeros (digits / 10) (exponent + 1)
  else ⟨digits, exponent⟩
termination_by digits
decreasing_by exact Nat.div_lt_self h.1 (by decide)

/-- The shortest decimal of a magnitude, without zeros at the end. -/
def shortest (tie : Tie) (code : Nat) : Decimal :=
  if code = 0 then ⟨0, 0⟩
  else
    let place := pointPlace code
    let found := (List.range 17).findSome? fun n => gridPoint? tie code (place - (n + 1 : Nat))
    let decimal := found.getD ⟨units code * Nat.pow 5 1074, -1074⟩
    Decimal.stripZeros decimal.digits decimal.exponent

end Sift.Binary64
