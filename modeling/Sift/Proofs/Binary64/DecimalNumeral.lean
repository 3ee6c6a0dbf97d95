/-
# Numerals of decimals

A decimal without an exponent is spelled with digits and at most one point among or around them. From
characters that can stand in a token without quotes, a number is read if they are such a numeral, and
then it is the number of the decimal.

Key definition: `Binary64.Decimal.IsNumeral`.
Key theorem: `Binary64.readMagnitude?_eq_some_iff`.
-/
import Sift.Proofs.Binary64.PlainNumeral

namespace Sift.Binary64

/-- Which texts are numerals of which decimals: digits without a point, or a point with digits on both
sides of it or on one of them. -/
inductive Decimal.IsNumeral : List Char → Decimal → Prop where
  | whole {digits : List Char} (hne : digits ≠ []) (hdigits : digits.all Char.isDigit = true) :
    IsNumeral digits ⟨Nat.ofDigitChars 10 digits 0, 0⟩
  | point {whole fraction : List Char} (hne : whole ++ fraction ≠ [])
    (hwhole : whole.all Char.isDigit = true) (hfraction : fraction.all Char.isDigit = true) :
    IsNumeral (whole ++ '.' :: fraction)
      ⟨Nat.ofDigitChars 10 (whole ++ fraction) 0, -fraction.length⟩

variable {negative : Bool} {cs : List Char} {x : Binary64}

/-- What a number is read from: digits, with a point among or around them or none, and an exponent. -/
theorem exists_of_readMagnitude? (h : readMagnitude? negative cs = some x) :
    ∃ whole fraction rest exponent, whole.all Char.isDigit = true ∧
      fraction.all Char.isDigit = true ∧ whole ++ fraction ≠ [] ∧
      (cs = whole ++ '.' :: (fraction ++ rest) ∨ fraction = [] ∧ cs = whole ++ rest) ∧
      readExponent? rest = some exponent ∧
      x = ofDecimal negative (Nat.ofDigitChars 10 (whole ++ fraction) 0)
        (exponent - fraction.length) := by
  have hsplit : cs = cs.takeWhile Char.isDigit ++ cs.dropWhile Char.isDigit :=
    List.takeWhile_append_dropWhile.symm
  have hwhole : (cs.takeWhile Char.isDigit).all Char.isDigit = true := List.all_takeWhile
  have hparts : ∀ {whole fraction rest : List Char},
      (if whole.isEmpty && fraction.isEmpty then none
        else (readExponent? rest).bind fun exponent => some (ofDecimal negative
          (Nat.ofDigitChars 10 (whole ++ fraction) 0) (exponent - fraction.length))) = some x →
      whole ++ fraction ≠ [] ∧ ∃ exponent, readExponent? rest = some exponent ∧
        x = ofDecimal negative (Nat.ofDigitChars 10 (whole ++ fraction) 0)
          (exponent - fraction.length) := by
    intro whole fraction rest h
    split at h
    next => cases h
    next hempty =>
      obtain ⟨exponent, hexponent, hx⟩ := Option.bind_eq_some_iff.mp h
      exact ⟨by simpa using hempty, exponent, hexponent, (Option.some.inj hx).symm⟩
  unfold readMagnitude? at h
  generalize cs.takeWhile Char.isDigit = whole at h hsplit hwhole
  split at h
  next fraction rest hmatch =>
    obtain ⟨hne, exponent, hexponent, hx⟩ := hparts h
    split at hmatch
    next after hpoint =>
      cases hmatch
      rw [hpoint] at hsplit
      refine ⟨whole, _, _, exponent, hwhole, List.all_takeWhile, hne, .inl ?_, hexponent, hx⟩
      rw [List.takeWhile_append_dropWhile]
      exact hsplit
    next =>
      cases hmatch
      exact ⟨whole, [], _, exponent, hwhole, rfl, hne, .inr ⟨rfl, hsplit⟩, hexponent, hx⟩

/-- No token has an exponent. -/
theorem readExponent?_eq_some {exponent : Int}
    (htoken : ∀ c ∈ cs, Cursor.isTokenCharacter c = true) (h : readExponent? cs = some exponent) :
    cs = [] ∧ exponent = 0 := by
  cases cs with
  | nil => exact ⟨rfl, (Option.some.inj h).symm⟩
  | cons c cs =>
    have hc : ¬ (c = 'e' ∨ c = 'E') := by
      rintro (rfl | rfl)
      · exact absurd (htoken 'e' List.mem_cons_self) (by decide)
      · exact absurd (htoken 'E' List.mem_cons_self) (by decide)
    rw [readExponent?, if_neg hc] at h
    cases h

/-- **What is read of a token is the number of the decimal that it spells.** -/
theorem readMagnitude?_eq_some_iff (htoken : ∀ c ∈ cs, Cursor.isTokenCharacter c = true) :
    readMagnitude? negative cs = some x ↔ ∃ decimal : Decimal, decimal.IsNumeral cs ∧
      x = ofDecimal negative decimal.digits decimal.exponent := by
  constructor
  · intro h
    obtain ⟨whole, fraction, rest, exponent, hwhole, hfraction, hne, hcs, hexponent, rfl⟩ :=
      exists_of_readMagnitude? h
    have hrest : ∀ c ∈ rest, Cursor.isTokenCharacter c = true := fun c hc => htoken c (by
      rcases hcs with rfl | ⟨-, rfl⟩ <;> simp [hc])
    obtain ⟨rfl, rfl⟩ := readExponent?_eq_some hrest hexponent
    rcases hcs with rfl | ⟨rfl, rfl⟩
    · rw [List.append_nil, Int.zero_sub]
      exact ⟨_, .point hne hwhole hfraction, rfl⟩
    · rw [List.append_nil] at hne ⊢
      exact ⟨_, .whole hne hwhole, rfl⟩
  · rintro ⟨decimal, hnumeral, rfl⟩
    cases hnumeral with
    | whole hne hdigits => exact readMagnitude?_whole negative hne hdigits
    | point hne hwhole hfraction => exact readMagnitude?_point negative hne hwhole hfraction

end Sift.Binary64
