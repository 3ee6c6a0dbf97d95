/-
# Numerals of integers

An integer is read from its numerals, the runs of digits with one sign in front or none, and from no
other text.

Key definition: `IsNumeral`.
Key theorems: `readInt?_eq_some_iff`, `readInt64?_eq_some`, `readInt64?_eq_some_iff`.
-/
import Sift.Text.Digit

namespace Sift.Text

/-- Whether a text is a decimal numeral of an integer. A minus sign makes it negative, a plus sign or
none does not, and there is at least one digit. -/
def IsNumeral (cs : List Char) (n : Int) : Prop :=
  ∃ digits, digits ≠ [] ∧ digits.all Char.isDigit = true ∧
    ((cs = digits ∨ cs = '+' :: digits) ∧ n = Nat.ofDigitChars 10 digits 0 ∨
      cs = '-' :: digits ∧ n = -(Nat.ofDigitChars 10 digits 0 : Int))

variable {cs : List Char} {n : Int}

/-- A plus sign before digits changes nothing. -/
theorem readInt?_plus {digits : List Char} (hne : digits ≠ [])
    (h : digits.all Char.isDigit = true) :
    readInt? ('+' :: digits) = some (Nat.ofDigitChars 10 digits 0) := by
  have hempty : digits.isEmpty = false := by simp [hne]
  simp [readInt?, splitSign, h, hempty]

theorem exists_splitSign (cs : List Char) : ∃ negative digits,
    splitSign cs = (negative, digits) ∧
      (negative = false ∧ (cs = digits ∨ cs = '+' :: digits) ∨ negative = true ∧ cs = '-' :: digits) := by
  unfold splitSign
  split
  next digits => exact ⟨true, digits, rfl, .inr ⟨rfl, rfl⟩⟩
  next digits => exact ⟨false, digits, rfl, .inl ⟨rfl, .inr rfl⟩⟩
  next => exact ⟨false, cs, rfl, .inl ⟨rfl, .inl rfl⟩⟩

/-- Behind its sign, a text that an integer is read from has digits alone. -/
theorem exists_of_readInt? (h : readInt? cs = some n) :
    ∃ negative digits, splitSign cs = (negative, digits) ∧ digits ≠ [] ∧
      digits.all Char.isDigit = true ∧
      n = if negative then -(Nat.ofDigitChars 10 digits 0 : Int)
        else (Nat.ofDigitChars 10 digits 0 : Int) := by
  unfold readInt? at h
  generalize splitSign cs = signed at h
  obtain ⟨negative, digits⟩ := signed
  dsimp only at h
  split at h
  next => cases h
  next hdigits =>
    obtain ⟨hne, hall⟩ : digits ≠ [] ∧ digits.all Char.isDigit = true := by simpa using hdigits
    exact ⟨negative, digits, rfl, hne, hall, (Option.some.inj h).symm⟩

/-- **An integer is read from its numerals alone.** -/
theorem readInt?_eq_some_iff : readInt? cs = some n ↔ IsNumeral cs n := by
  constructor
  · intro h
    obtain ⟨negative, digits, hsplit, hne, hall, hn⟩ := exists_of_readInt? h
    obtain ⟨negative', digits', hsplit', hsign⟩ := exists_splitSign cs
    obtain ⟨rfl, rfl⟩ := Prod.mk.inj (hsplit'.symm.trans hsplit)
    refine ⟨digits', hne, hall, ?_⟩
    rcases hsign with ⟨rfl, hcs⟩ | ⟨rfl, hcs⟩
    · exact .inl ⟨hcs, hn⟩
    · exact .inr ⟨hcs, hn⟩
  · rintro ⟨digits, hne, hall, ⟨rfl | rfl, rfl⟩ | ⟨rfl, rfl⟩⟩
    · exact readInt?_of_digits hne hall
    · exact readInt?_plus hne hall
    · exact readInt?_minus hne hall

/-- An integer of 64 bits is read as any other. -/
theorem readInt64?_eq_some {n : Int64} : readInt64? cs = some n ↔ readInt? cs = some n.toInt := by
  unfold readInt64?
  cases readInt? cs with
  | none => simp
  | some m =>
    simp only [Option.bind_eq_bind, Option.bind_some, Option.some.injEq]
    constructor
    · intro h
      split at h
      next hrange =>
        rw [Int64.toInt_minValue, Int64.toInt_maxValue] at hrange
        rw [← Option.some.inj h, Int64.toInt_ofInt_of_le hrange.1 (by omega)]
      next => cases h
    · rintro rfl
      rw [if_pos ⟨n.minValue_le_toInt, n.toInt_le⟩, Int64.ofInt_toInt]

theorem readInt64?_eq_some_iff {n : Int64} : readInt64? cs = some n ↔ IsNumeral cs n.toInt :=
  readInt64?_eq_some.trans readInt?_eq_some_iff

/-- A text from which no integer of 64 bits is read is no numeral of one. -/
theorem readInt64?_eq_none_iff :
    readInt64? cs = none ↔ ∀ n : Int64, ¬ IsNumeral cs n.toInt := by
  rw [Option.eq_none_iff_forall_ne_some]
  exact forall_congr' fun n => not_congr readInt64?_eq_some_iff

end Sift.Text
