/-
# Plain numerals

In its plain form a finite number is written with digits, a point and a minus sign only, so that it
can stand in a filter without quotes. The positional form shows all digits of the decimal, with the
zeros that reach to its point; read back, it is a decimal of the same value, and so the number that
was written. The forms of the other numbers are words that are read back, too.

An integer of 64 bits is a decimal, too: what can be read as one denotes the same number in both
readings.

Key theorems: `readMagnitude?_positional`, `read?_write_plain`, `exists_place?_of_readInt64?`,
`isTokenCharacter_of_mem_write_plain`.
-/
import Sift.Binary64.Text
import Sift.Proofs.Binary64.Decimal
import Sift.Proofs.Text.Numeral
import Sift.Text.Cursor

namespace Sift.Binary64

/-! ### Reading digits -/

theorem takeWhile_isDigit {cs : List Char} (h : cs.all Char.isDigit = true) (rest : List Char)
    (hrest : ∀ c ∈ rest.head?, Char.isDigit c = false) :
    (cs ++ rest).takeWhile Char.isDigit = cs ∧ (cs ++ rest).dropWhile Char.isDigit = rest := by
  have hcs : ∀ c ∈ cs, Char.isDigit c = true := List.all_eq_true.mp h
  rw [List.takeWhile_append_of_pos hcs, List.dropWhile_append_of_pos hcs]
  rcases rest with _ | ⟨c, rest⟩
  · simp
  · have hc : Char.isDigit c = false := hrest c rfl
    simp [hc]

/-- Digits without a point. -/
theorem readMagnitude?_whole (negative : Bool) {whole : List Char} (hne : whole ≠ [])
    (h : whole.all Char.isDigit = true) :
    readMagnitude? negative whole =
      some (ofDecimal negative (Nat.ofDigitChars 10 whole 0) 0) := by
  obtain ⟨htake, hdrop⟩ := takeWhile_isDigit h [] (by simp)
  rw [List.append_nil] at htake hdrop
  unfold readMagnitude?
  simp [htake, hdrop, hne, readExponent?]

/-- Digits on both sides of a point or on one of them. -/
theorem readMagnitude?_point (negative : Bool) {whole fraction : List Char}
    (hne : whole ++ fraction ≠ []) (hwhole : whole.all Char.isDigit = true) (hfraction : fraction.all Char.isDigit = true) :
    readMagnitude? negative (whole ++ '.' :: fraction) =
      some (ofDecimal negative (Nat.ofDigitChars 10 (whole ++ fraction) 0) (-fraction.length)) := by
  obtain ⟨htake, hdrop⟩ := takeWhile_isDigit hwhole ('.' :: fraction) (by simp)
  obtain ⟨htake', hdrop'⟩ := takeWhile_isDigit hfraction [] (by simp)
  rw [List.append_nil] at htake' hdrop'
  have hempty : (whole.isEmpty && fraction.isEmpty) = false := by
    cases whole with
    | nil => exact List.isEmpty_eq_false_iff.mpr hne
    | cons c whole => rfl
  unfold readMagnitude?
  simp [htake, hdrop, htake', hdrop', hempty, readExponent?]

theorem ofDecimal_congr (negative : Bool) {digits digits' : Nat} {exponent exponent' : Int}
    (h : decimalCode digits exponent = decimalCode digits' exponent') :
    ofDecimal negative digits exponent = ofDecimal negative digits' exponent' := by
  unfold ofDecimal
  simp only [h]

theorem all_isDigit_replicate_zero (count : Nat) :
    (List.replicate count '0').all Char.isDigit = true :=
  List.all_eq_true.mpr fun _ hc => List.eq_of_mem_replicate hc ▸ rfl

/-! ### The positional form -/

/-- The positional form of a decimal, without anything behind a whole number, is read as the
decimal. -/
theorem readMagnitude?_positional (negative : Bool) (decimal : Decimal) :
    readMagnitude? negative (plain.positional (Nat.toDigits 10 decimal.digits)
        ((Nat.toDigits 10 decimal.digits).length + decimal.exponent)) =
      some (ofDecimal negative decimal.digits decimal.exponent) := by
  have hvalue : Nat.ofDigitChars 10 (Nat.toDigits 10 decimal.digits) 0 = decimal.digits :=
    Nat.ofDigitChars_ten_toDigits
  have hdigits := Text.toDigits_all_isDigit decimal.digits
  have hne : Nat.toDigits 10 decimal.digits ≠ [] := Nat.toDigits_ne_nil
  generalize Nat.toDigits 10 decimal.digits = digits at hvalue hdigits hne
  unfold NumeralFormat.positional
  split
  next hplace =>
    -- The zeros behind the point are as many as the digits fall short of it.
    have hread := readMagnitude?_point negative (List.cons_ne_nil '0' _)
      (show ['0'].all Char.isDigit = true from rfl)
      (show (List.replicate (-(digits.length + decimal.exponent)).toNat '0' ++ digits).all
        Char.isDigit = true by rw [List.all_append, all_isDigit_replicate_zero, hdigits]; rfl)
    refine hread.trans (congrArg some (ofDecimal_congr negative ?_))
    have hzero : Nat.ofDigitChars 10 ['0'] 0 = 0 := rfl
    rw [Nat.ofDigitChars_append, Nat.ofDigitChars_append, hzero, Nat.ofDigitChars_replicate_zero,
      Nat.mul_zero, hvalue, List.length_append, List.length_replicate]
    congr 1
    omega
  next hplace =>
  split
  next hlength =>
    -- The zeros behind the digits are what is left of the exponent.
    have hwhole : (digits ++ List.replicate
        ((digits.length + decimal.exponent).toNat - digits.length) '0').all Char.isDigit = true := by
      rw [List.all_append, all_isDigit_replicate_zero, hdigits]
      rfl
    have hread := readMagnitude?_whole negative (by simp [hne]) hwhole
    rw [show plain.wholeEnd = [] from rfl, List.append_nil]
    refine hread.trans (congrArg some (ofDecimal_congr negative ?_))
    rw [Nat.ofDigitChars_append, hvalue, Nat.ofDigitChars_replicate_zero, Nat.mul_comm]
    refine (decimalCode_mul_ten_pow _ _ _).trans ?_
    congr 1
    omega
  next hlength =>
    -- The point stands among the digits.
    generalize hcount : (digits.length + decimal.exponent).toNat = count at hlength
    have hsplit := List.take_append_drop count digits
    have hall : (digits.take count).all Char.isDigit = true ∧
        (digits.drop count).all Char.isDigit = true := by
      rw [← Bool.and_eq_true, ← List.all_append, hsplit]
      exact hdigits
    have htake : digits.take count ≠ [] := by
      intro hnil
      rcases List.take_eq_nil_iff.mp hnil with h | h
      · omega
      · exact hne h
    have hread := readMagnitude?_point negative (hsplit.symm ▸ hne) hall.1 hall.2
    refine hread.trans (congrArg some (ofDecimal_congr negative ?_))
    rw [hsplit, hvalue, List.length_drop]
    congr 1
    omega

/-- The positional form begins with a digit, and all its other characters are digits and points. -/
theorem exists_positional_eq (digits : List Char) (place : Int) (hne : digits ≠ [])
    (hdigits : digits.all Char.isDigit = true) :
    ∃ c cs, plain.positional digits place = c :: cs ∧ c.isDigit = true ∧
      ∀ d ∈ cs, d.isDigit = true ∨ d = '.' := by
  have hall : ∀ d ∈ digits, d.isDigit = true := List.all_eq_true.mp hdigits
  have hzero : ∀ {count d}, d ∈ List.replicate count '0' → d.isDigit = true := fun h =>
    List.eq_of_mem_replicate h ▸ rfl
  unfold NumeralFormat.positional
  split
  next =>
    refine ⟨'0', _, rfl, rfl, fun d hd => ?_⟩
    simp only [List.mem_cons, List.mem_append] at hd
    rcases hd with rfl | hd | hd
    · exact .inr rfl
    · exact .inl (hzero hd)
    · exact .inl (hall d hd)
  next hplace =>
  obtain ⟨c, cs, rfl⟩ := List.exists_cons_of_ne_nil hne
  split
  next =>
    rw [show plain.wholeEnd = [] from rfl, List.append_nil]
    refine ⟨c, _, rfl, hall c List.mem_cons_self, fun d hd => .inl ?_⟩
    rcases List.mem_append.mp hd with hd | hd
    · exact hall d (List.mem_cons_of_mem _ hd)
    · exact hzero hd
  next =>
    obtain ⟨count, hcount⟩ : ∃ count, place.toNat = count + 1 := ⟨place.toNat - 1, by omega⟩
    rw [hcount]
    refine ⟨c, _, rfl, hall c List.mem_cons_self, fun d hd => ?_⟩
    rcases List.mem_append.mp hd with hd | hd
    · exact .inl (hall d (List.mem_cons_of_mem _ (List.mem_of_mem_take hd)))
    · rcases List.mem_cons.mp hd with rfl | hd
      · exact .inr rfl
      · exact .inl (hall d (List.mem_cons_of_mem _ (List.mem_of_mem_drop hd)))

/-! ### Numbers -/

/-- The plain form of a number is a sign and the positional form of its decimal. -/
theorem write_plain_signed {negative : Bool} {code : Nat} (hle : code ≤ infinityCode)
    (hcode : code < infinityCode) :
    write plain (signed negative code hle) = (if negative then ['-'] else []) ++
      plain.positional (Nat.toDigits 10 (shortest .up code).digits)
        ((Nat.toDigits 10 (shortest .up code).digits).length + (shortest .up code).exponent) := by
  unfold write
  dsimp only
  rw [if_neg (Nat.ne_of_lt hcode)]
  rfl

theorem splitSign_digits {c : Char} (hc : c.isDigit = true) (negative : Bool) (cs : List Char) :
    Text.splitSign ((if negative then ['-'] else []) ++ c :: cs) = (negative, c :: cs) := by
  cases negative
  · rw [if_neg (by decide), List.nil_append]
    unfold Text.splitSign
    split
    next heq =>
      cases heq
      simp at hc
    next heq =>
      cases heq
      simp at hc
    next => rfl
  · rfl

/-- A numeral with a digit behind its sign is no word. -/
theorem read?_of_splitSign {negative : Bool} {c : Char} {cs numeral : List Char}
    (hsplit : Text.splitSign numeral = (negative, c :: cs)) (hc : c.isDigit = true) :
    read? numeral = readMagnitude? negative (c :: cs) := by
  have hlower : c.toLower = c := by
    have hle : c.val ≤ '9'.val := by
      simp only [Char.isDigit, Bool.and_eq_true, decide_eq_true_eq] at hc
      exact hc.2
    unfold Char.toLower
    exact dif_neg fun h => absurd (UInt32.le_trans h.1 hle) (by decide)
  have hword : ∀ (word : String) {letter : Char}, word.toList.head? = some letter →
      letter.isDigit = false → String.ofList ((c :: cs).map Char.toLower) ≠ word := by
    rintro word letter hletter hdigit rfl
    rw [String.toList_ofList, List.map_cons, hlower] at hletter
    obtain rfl : c = letter := Option.some.inj hletter
    rw [hc] at hdigit
    cases hdigit
  have hinf := hword "inf" rfl (by decide)
  have hinfinity := hword "infinity" rfl (by decide)
  have hnan := hword "nan" rfl (by decide)
  unfold read?
  rw [hsplit]
  dsimp only
  rw [if_neg (not_or.mpr ⟨hinf, hinfinity⟩), if_neg hnan]

theorem read?_write_infinity (negative : Bool) :
    read? (write plain (infinity negative)) = some (infinity negative) := by
  cases negative <;> decide

/-- **A number is read back from its plain form.** -/
theorem read?_write_plain : ∀ x : Binary64, read? (x.write plain) = some x
  | .nan => by decide
  | .signed negative code hle => by
    rcases Nat.lt_or_eq_of_le hle with hcode | rfl
    · obtain ⟨c, cs, hcs, hc, -⟩ := exists_positional_eq
        (Nat.toDigits 10 (shortest .up code).digits)
        ((Nat.toDigits 10 (shortest .up code).digits).length + (shortest .up code).exponent)
        Nat.toDigits_ne_nil (Text.toDigits_all_isDigit _)
      rw [write_plain_signed hle hcode, hcs, read?_of_splitSign (splitSign_digits hc negative cs) hc,
        ← hcs, readMagnitude?_positional]
      simp only [ofDecimal, decimalCode_shortest .up hcode]
    · exact read?_write_infinity negative

/-! ### Integers -/

theorem roundCode_zero : roundCode 0 1 = 0 :=
  roundCode_units (by decide) (by decide) (Nat.zero_mul _)

/-- An integer of 64 bits is a decimal without places after the point. -/
theorem decimalCode_natAbs {n : Nat} (h : n ≤ 0x8000000000000000) :
    decimalCode n 0 = roundCode n 1 := by
  have hlength : (Nat.toDigits 10 n).length ≤ 19 :=
    (Nat.length_toDigits_le_iff (by decide) (by decide)).mpr (by omega)
  unfold decimalCode
  dsimp only
  by_cases h0 : n = 0
  · rw [if_pos (.inl h0), h0, roundCode_zero]
  · rw [if_neg (by omega), if_neg (by omega)]
    exact congrArg (roundCode · 1) (Nat.mul_one n)

/-- **A numeral of an integer of 64 bits denotes, as a number, the number of the integer**, up to
the sign of zero. -/
theorem exists_place?_of_readInt64? {numeral : List Char} {n : Int64}
    (h : Text.readInt64? numeral = some n) :
    ∃ x, read? numeral = some x ∧ x.place? = (ofInt n.toInt).place? := by
  obtain ⟨negative, digits, hsplit, hne, hall, hn⟩ :=
    Text.exists_of_readInt? (Text.readInt64?_eq_some.mp h)
  obtain ⟨c, cs, rfl⟩ := List.exists_cons_of_ne_nil hne
  refine ⟨_, (read?_of_splitSign hsplit (List.all_eq_true.mp hall c List.mem_cons_self)).trans
    (readMagnitude?_whole negative hne hall), ?_⟩
  generalize Nat.ofDigitChars 10 (c :: cs) 0 = magnitude at hn
  have habs : n.toInt.natAbs = magnitude := by
    cases negative <;> simp_all
  have hle : magnitude ≤ 0x8000000000000000 := by
    have hlower := n.le_toInt
    have hupper := n.toInt_lt
    omega
  unfold ofDecimal ofInt ofRatio
  simp only [place?, habs, decimalCode_natAbs hle]
  by_cases h0 : magnitude = 0
  · simp [h0, roundCode_zero]
  · have hnegative : decide (n.toInt < 0) = negative := by
      cases negative
      · exact decide_eq_false (by simp only [hn, Bool.false_eq_true, ↓reduceIte]; omega)
      · exact decide_eq_true (by simp only [hn, ↓reduceIte]; omega)
    rw [hnegative]

/-- The plain form of a finite number is a token without quotes. -/
theorem isTokenCharacter_of_mem_write_plain {x : Binary64} (h : x.isFinite = true) :
    x.write plain ≠ [] ∧ ∀ c ∈ x.write plain, Cursor.isTokenCharacter c = true := by
  rcases x with _ | ⟨negative, code, hle⟩
  · cases h
  obtain ⟨c, cs, hcs, hc, hmore⟩ := exists_positional_eq (Nat.toDigits 10 (shortest .up code).digits)
    ((Nat.toDigits 10 (shortest .up code).digits).length + (shortest .up code).exponent)
    Nat.toDigits_ne_nil (Text.toDigits_all_isDigit _)
  rw [write_plain_signed hle (of_decide_eq_true h), hcs]
  refine ⟨by simp, fun d hd => ?_⟩
  rcases List.mem_append.mp hd with hsign | hd
  · cases negative
    · cases hsign
    · obtain rfl := List.mem_singleton.mp hsign
      rfl
  · rcases List.mem_cons.mp hd with rfl | hd
    · simp [Cursor.isTokenCharacter, hc]
    · rcases hmore d hd with hd | rfl
      · simp [Cursor.isTokenCharacter, hd]
      · rfl

end Sift.Binary64
