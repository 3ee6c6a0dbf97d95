/-
# Numerals of floating-point numbers

Writing follows a `NumeralFormat`: between two places of the point the number is written
positionally, with zeros where digits are missing, otherwise with an exponent. Reading takes a sign,
digits with at most one point among or around them, and an exponent, or one of the words inf,
infinity and nan in any case; the number is the one nearest to what is written.

Key definitions: `NumeralFormat`, `Binary64.write`, `Binary64.plain`, `Binary64.read?`.
-/
import Sift.Binary64.Shortest
import Sift.Text.Digit

namespace Sift

/-- How a number is written. The place of the point is the number of digits before it. -/
structure NumeralFormat where
  /-- Positional when the point is right of this place, if one is given. -/
  above : Option Int
  /-- Positional when the point is not right of this place, if one is given. -/
  upTo : Option Int
  /-- What follows a whole number in positional form. -/
  wholeEnd : List Char
  /-- What stands before an exponent that is not negative. -/
  plusSign : List Char
  /-- Which of two equally short and near decimals is written. -/
  tie : Binary64.Tie

namespace NumeralFormat

/-- Whether a number with the point at this place is written positionally. -/
def isPositional (format : NumeralFormat) (place : Int) : Bool :=
  format.above.all (· < place) && format.upTo.all (place ≤ ·)

/-- Digits with the point at a place, in positional form. -/
def positional (format : NumeralFormat) (digits : List Char) (place : Int) : List Char :=
  if place ≤ 0 then '0' :: '.' :: (List.replicate (-place).toNat '0' ++ digits)
  else if digits.length ≤ place.toNat then
    digits ++ List.replicate (place.toNat - digits.length) '0' ++ format.wholeEnd
  else digits.take place.toNat ++ '.' :: digits.drop place.toNat

/-- Digits with the point at a place, with one digit before the point and an exponent. -/
def scientific (format : NumeralFormat) (digits : List Char) (place : Int) : List Char :=
  let exponent := place - 1
  let sign := if exponent < 0 then [] else format.plusSign
  digits.take 1 ++ (if digits.length ≤ 1 then [] else '.' :: digits.drop 1) ++
    'e' :: (sign ++ Text.writeInt exponent)

/-- The numeral of a decimal. -/
def magnitude (format : NumeralFormat) (decimal : Binary64.Decimal) : List Char :=
  let digits := Nat.toDigits 10 decimal.digits
  let place := digits.length + decimal.exponent
  if format.isPositional place then format.positional digits place
  else format.scientific digits place

end NumeralFormat

namespace Binary64

/-- The numeral of a number in a format. -/
def write (format : NumeralFormat) : Binary64 → List Char
  | .nan => ['N', 'a', 'N']
  | .signed negative code _ =>
    let sign := if negative then ['-'] else []
    if code = infinityCode then sign ++ ['i', 'n', 'f']
    else sign ++ format.magnitude (shortest format.tie code)

/-- Numbers in messages and filters never have an exponent, whole numbers have no point, and of
two decimals the greater is written. -/
def plain : NumeralFormat :=
  { above := none, upTo := none, wholeEnd := [], plusSign := [], tie := .up }

/-- The exponent at the end of a numeral: `e` or `E`, a sign, and digits up to the end. -/
def readExponent? : List Char → Option Int
  | [] => some 0
  | c :: cs => if c = 'e' ∨ c = 'E' then Text.readInt? cs else none

/-- A numeral without its sign. -/
def readMagnitude? (negative : Bool) (cs : List Char) : Option Binary64 :=
  let whole := cs.takeWhile Char.isDigit
  let (fraction, rest) :=
    match cs.dropWhile Char.isDigit with
    | '.' :: after => (after.takeWhile Char.isDigit, after.dropWhile Char.isDigit)
    | rest => ([], rest)
  if whole.isEmpty && fraction.isEmpty then none
  else do
    let exponent ← readExponent? rest
    some (ofDecimal negative (Nat.ofDigitChars 10 (whole ++ fraction) 0)
      (exponent - fraction.length))

/-- The number that a numeral denotes, if it is one. -/
def read? (cs : List Char) : Option Binary64 :=
  let (negative, body) := Text.splitSign cs
  let word := String.ofList (body.map Char.toLower)
  if word = "inf" ∨ word = "infinity" then some (infinity negative)
  else if word = "nan" then some .nan
  else readMagnitude? negative body

end Binary64

end Sift
