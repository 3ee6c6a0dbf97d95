/-
# Digits and whole numbers

The decimal and hexadecimal digits of ASCII, and the two directions between a whole number and
its decimal numeral. A numeral that is read may carry one sign; a numeral that is written carries
a minus sign or none, and no leading zeros.

Key definitions: `hexValue?`, `readInt?`, `readInt64?`, `writeInt`.
Key theorem: `readInt?_writeInt`.
-/

namespace Sift.Text

/-- The value of a hexadecimal digit, in either case. -/
def hexValue? (c : Char) : Option Nat :=
  if '0' ≤ c ∧ c ≤ '9' then some (c.toNat - 48)
  else if 'a' ≤ c ∧ c ≤ 'f' then some (c.toNat - 87)
  else if 'A' ≤ c ∧ c ≤ 'F' then some (c.toNat - 55)
  else none

/-- The number that hexadecimal digits denote, most significant first; `none` when a character
is no digit. -/
def hexNumber? (cs : List Char) : Option Nat :=
  cs.foldl (fun n c => do return 16 * (← n) + (← hexValue? c)) (some 0)

/-- A minus sign or a plus sign in front, taken off: whether it was a minus sign, and the rest. -/
def splitSign : List Char → Bool × List Char
  | '-' :: cs => (true, cs)
  | '+' :: cs => (false, cs)
  | cs => (false, cs)

/-- The integer that an optionally signed run of decimal digits denotes. -/
def readInt? (cs : List Char) : Option Int :=
  let (negative, digits) := splitSign cs
  if digits.isEmpty || !digits.all Char.isDigit then none
  else
    let n : Int := Nat.ofDigitChars 10 digits 0
    some (if negative then -n else n)

/-- An integer of 64 bits, or `none` when the numeral denotes one out of range. -/
def readInt64? (cs : List Char) : Option Int64 := do
  let n ← readInt? cs
  if Int64.minValue.toInt ≤ n ∧ n ≤ Int64.maxValue.toInt then some (Int64.ofInt n) else none

/-- The decimal numeral of an integer. -/
def writeInt : Int → List Char
  | .ofNat n => Nat.toDigits 10 n
  | .negSucc n => '-' :: Nat.toDigits 10 (n + 1)

/-- Digits without a sign denote what they spell. -/
theorem readInt?_of_digits {cs : List Char} (hne : cs ≠ []) (h : cs.all Char.isDigit = true) :
    readInt? cs = some (Nat.ofDigitChars 10 cs 0) := by
  match cs, hne with
  | c :: cs, _ =>
    have hsplit : splitSign (c :: cs) = (false, c :: cs) := by
      unfold splitSign
      split
      next heq => cases heq; simp at h
      next heq => cases heq; simp at h
      next => rfl
    simp [readInt?, hsplit, h]

/-- A minus sign before digits negates what they spell. -/
theorem readInt?_minus {cs : List Char} (hne : cs ≠ []) (h : cs.all Char.isDigit = true) :
    readInt? ('-' :: cs) = some (-(Nat.ofDigitChars 10 cs 0 : Int)) := by
  have : cs.isEmpty = false := by simp [hne]
  simp [readInt?, splitSign, h, this]

theorem toDigits_all_isDigit (n : Nat) : (Nat.toDigits 10 n).all Char.isDigit = true :=
  List.all_eq_true.mpr fun _ h => Nat.isDigit_of_mem_toDigits (by decide) (by decide) h

/-- A number is read from the numeral that is written for it. -/
theorem readInt?_writeInt (n : Int) : readInt? (writeInt n) = some n := by
  match n with
  | .ofNat n =>
    rw [writeInt, readInt?_of_digits Nat.toDigits_ne_nil (toDigits_all_isDigit n),
      Nat.ofDigitChars_ten_toDigits]
    rfl
  | .negSucc n =>
    rw [writeInt, readInt?_minus Nat.toDigits_ne_nil (toDigits_all_isDigit _),
      Nat.ofDigitChars_ten_toDigits]
    rfl

end Sift.Text
