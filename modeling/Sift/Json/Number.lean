/-
# Numerals of JSON

A numeral without a fraction and an exponent is an integer if it fits in 64 bits; negative zero is
not an integer. Any other numeral is a floating-point number: its digits make up a significand as
long as that fits in 64 bits, later digits only count by their place, and the significand is scaled
by a power of ten. The significand, the power and every product and quotient is rounded by itself,
so that the number is near to what is written, but not always the nearest one.

Key definitions: `Json.Numeral`, `Json.numeral`, `Json.Numeral.number?`, `Json.Number.write`.
-/
import Sift.Binary64.Text
import Sift.Json.Basic
import Sift.Text.Reader

namespace Sift.Json

open Reader

/-- A numeral as written. -/
structure Numeral where
  negative : Bool
  /-- The digits before the point. -/
  whole : List Char
  /-- The digits after the point, if there is one. -/
  fraction : Option (List Char)
  exponent : Option Int
deriving DecidableEq

/-! ### Reading -/

/-- Takes a character if it is the next one, and tells whether it was. -/
def takeIf (test : Char → Bool) : Reader JsonError Bool := do
  if (← peek).any test then
    skip 1
    return true
  else return false

/-- Takes one or more digits. -/
def digits : Reader JsonError (List Char) := do
  let found ← Reader.takeWhile Char.isDigit
  if found.isEmpty then fail .malformed else return found

/-- Takes the digits before the point: a zero at the front stands alone. -/
def wholeDigits : Reader JsonError (List Char) := do
  let found ← digits
  if found.head? = some '0' ∧ found.length ≠ 1 then fail .malformed else return found

/-- Takes an exponent after its mark. -/
def exponent : Reader JsonError Int := do
  let negative ← takeIf (· == '-')
  if !negative then
    let _ ← takeIf (· == '+')
  let magnitude := Nat.ofDigitChars 10 (← digits) 0
  return if negative then -(magnitude : Int) else magnitude

/-- Takes a numeral. -/
def numeral : Reader JsonError Numeral := do
  let negative ← takeIf (· == '-')
  let whole ← wholeDigits
  let fraction ← if (← takeIf (· == '.')) then some <$> digits else pure none
  let exponent ← if (← takeIf fun c => c == 'e' || c == 'E') then some <$> exponent else pure none
  return { negative, whole, fraction, exponent }

/-! ### The number of a numeral -/

/-- Takes digits into a significand as long as it fits in 64 bits: the significand, and the number
of digits left over. -/
def extendSignificand (significand : Nat) : List Char → Nat × Nat
  | [] => (significand, 0)
  | c :: cs =>
    let next := Nat.ofDigitChars 10 [c] significand
    if next < 0x10000000000000000 then extendSignificand next cs else (significand, cs.length + 1)

/-- Divides a magnitude by a power of ten, in steps of 308 places. -/
def scaleDown (code places : Nat) : Nat :=
  if places ≤ 308 then Binary64.divCode code (Binary64.decimalCode 1 places)
  else if code = 0 then 0
  else scaleDown (Binary64.divCode code (Binary64.decimalCode 1 308)) (places - 308)
termination_by places

/-- Multiplies a magnitude by a power of ten; past 308 places only zero has a product. -/
def scaleUp? (code places : Nat) : Option Nat :=
  if places ≤ 308 then some (Binary64.mulCode code (Binary64.decimalCode 1 places))
  else if code = 0 then some 0
  else none

/-- The magnitude of a numeral. -/
def Numeral.code? (n : Numeral) : Option Nat :=
  let fraction := n.fraction.getD []
  let (significand, leftWhole) := extendSignificand 0 n.whole
  let (significand, leftFraction) := extendSignificand significand fraction
  let places : Int := n.exponent.getD 0 + leftWhole - (fraction.length - leftFraction : Nat)
  let code := Binary64.decimalCode significand 0
  if 0 ≤ places then scaleUp? code places.toNat else some (scaleDown code (-places).toNat)

/-- The finite number with a sign and a code. -/
def Number.ofCode? (negative : Bool) (code : Nat) : Option Number :=
  if h : code < Binary64.infinityCode then
    some (.float (.signed negative code (Nat.le_of_lt h)) (by simp [Binary64.isFinite, h]))
  else none

/-- The integer if it fits in 64 bits. -/
def Number.ofInt? (n : Int) : Option Number :=
  if h : -0x8000000000000000 ≤ n ∧ n < 0x10000000000000000 then some (.integer n h.1 h.2) else none

/-- The integer that a numeral denotes. -/
def Numeral.integer? (n : Numeral) : Option Number :=
  let magnitude := Nat.ofDigitChars 10 n.whole 0
  if n.fraction.isSome || n.exponent.isSome then none
  else if n.negative then
    if magnitude = 0 then none else Number.ofInt? (-(magnitude : Int))
  else Number.ofInt? magnitude

/-- The number of a numeral; `none` when it is past all finite magnitudes. -/
def Numeral.number? (n : Numeral) : Option Number :=
  n.integer? <|> n.code?.bind (Number.ofCode? n.negative)

/-- Takes a number. -/
def readNumber : Reader JsonError Number := do
  match (← numeral).number? with
  | some n => return n
  | none => fail .numberOutOfRange

/-! ### Writing -/

/-- Floating-point numbers always have a point or an exponent; of two equally near decimals the
even one is written. -/
def floatFormat : NumeralFormat :=
  { above := some (-5), upTo := some 16, wholeEnd := ['.', '0'], plusSign := ['+'], tie := .toEven }

/-- The numeral of a number. -/
def Number.write : Number → List Char
  | integer n _ _ => Text.writeInt n
  | float x _ => x.write floatFormat

end Sift.Json
