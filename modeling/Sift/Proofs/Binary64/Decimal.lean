/-
# Decimals of magnitudes

Which magnitude is nearest to a decimal depends only on the value of the decimal, not on how its
digits and its exponent share it. With this, the decimal that is found for a finite magnitude belongs
to it: a point of a grid is taken only if it rounds to the magnitude, the exact expansion behind the
grids is the magnitude itself, and the zeros at the end of either may go.

Key theorems: `roundCode_mul_right`, `decimalCode_mul_ten_pow`, `decimalCode_shortest`.
-/
import Sift.Binary64.Shortest

namespace Sift.Binary64

/-! ### Quotients of one value -/

theorem floorFrom_mul_right {scaled denominator factor : Nat} (hf : 0 < factor) :
    ∀ bits code : Nat, floorFrom (scaled * factor) (denominator * factor) bits code =
      floorFrom scaled denominator bits code
  | 0, _ => rfl
  | bits + 1, code => by
    have hiff : ∀ next, units next * (denominator * factor) ≤ scaled * factor ↔
        units next * denominator ≤ scaled := by
      intro next
      rw [← Nat.mul_assoc]
      exact Nat.mul_le_mul_right_iff hf
    simp only [floorFrom, hiff]
    exact floorFrom_mul_right hf bits _

theorem compare_mul_right {a b factor : Nat} (hf : 0 < factor) :
    compare (a * factor) (b * factor) = compare a b := by
  rcases Nat.lt_trichotomy a b with h | rfl | h
  · rw [Nat.compare_eq_lt.mpr h, Nat.compare_eq_lt.mpr (Nat.mul_lt_mul_of_pos_right h hf)]
  · rw [Nat.compare_eq_eq.mpr rfl, Nat.compare_eq_eq.mpr rfl]
  · rw [Nat.compare_eq_gt.mpr h, Nat.compare_eq_gt.mpr (Nat.mul_lt_mul_of_pos_right h hf)]

/-- A quotient rounds to the same magnitude when it is expanded by a common factor. -/
theorem roundCode_mul_right {numerator denominator factor : Nat} (hf : 0 < factor) :
    roundCode (numerator * factor) (denominator * factor) = roundCode numerator denominator := by
  have hscaled : numerator * factor * unitsPerOne = numerator * unitsPerOne * factor :=
    Nat.mul_right_comm ..
  have hfloor : floorCode (numerator * factor) (denominator * factor) =
      floorCode numerator denominator := by
    unfold floorCode
    rw [hscaled, floorFrom_mul_right hf]
  have hcompare : ∀ middle, compare (2 * (numerator * unitsPerOne * factor))
      (middle * (denominator * factor)) =
        compare (2 * (numerator * unitsPerOne)) (middle * denominator) := by
    intro middle
    rw [← Nat.mul_assoc, ← Nat.mul_assoc middle, compare_mul_right hf]
  unfold roundCode
  simp only [hfloor, hscaled, hcompare]

/-! ### Decimals of one value -/

theorem length_toDigits_mul_ten {digits : Nat} (h : digits ≠ 0) :
    (Nat.toDigits 10 (digits * 10)).length = (Nat.toDigits 10 digits).length + 1 := by
  rw [Nat.toDigits_of_base_le (by decide) (by omega), List.length_append,
    Nat.mul_div_cancel _ (by decide)]
  rfl

/-- A zero at the end of the digits counts as much as one more in the exponent. -/
theorem decimalCode_mul_ten (digits : Nat) (exponent : Int) :
    decimalCode (digits * 10) exponent = decimalCode digits (exponent + 1) := by
  by_cases h0 : digits = 0
  · subst h0
    simp [decimalCode]
  have hplaces : ((Nat.toDigits 10 (digits * 10)).length : Int) + exponent =
      (Nat.toDigits 10 digits).length + (exponent + 1) := by
    rw [length_toDigits_mul_ten h0]
    omega
  have hround : roundCode (digits * 10 * Nat.pow 10 exponent.toNat) (Nat.pow 10 (-exponent).toNat) =
      roundCode (digits * Nat.pow 10 (exponent + 1).toNat)
        (Nat.pow 10 (-(exponent + 1)).toNat) := by
    by_cases he : 0 ≤ exponent
    · have hpow : Nat.pow 10 (exponent.toNat + 1) = 10 * Nat.pow 10 exponent.toNat := Nat.pow_succ'
      rw [show (exponent + 1).toNat = exponent.toNat + 1 by omega,
        show (-(exponent + 1)).toNat = (-exponent).toNat by omega, hpow, Nat.mul_assoc]
    · rw [show (exponent + 1).toNat = 0 by omega, show exponent.toNat = 0 by omega,
        show (-exponent).toNat = (-(exponent + 1)).toNat + 1 by omega]
      have hexpand : roundCode (digits * 10) (Nat.pow 10 (-(exponent + 1)).toNat * 10) =
          roundCode digits (Nat.pow 10 (-(exponent + 1)).toNat) := roundCode_mul_right (by decide)
      simpa [Nat.pow_succ] using hexpand
  have hzero : digits * 10 ≠ 0 := by omega
  simp only [decimalCode, hplaces, hround, h0, hzero, false_or]

theorem decimalCode_mul_ten_pow (digits : Nat) (exponent : Int) : ∀ count : Nat,
    decimalCode (digits * Nat.pow 10 count) exponent = decimalCode digits (exponent + count)
  | 0 => by simp
  | count + 1 => by
    have hpow : digits * Nat.pow 10 (count + 1) = digits * Nat.pow 10 count * 10 :=
      (Nat.mul_assoc ..).symm
    rw [hpow, decimalCode_mul_ten, decimalCode_mul_ten_pow digits _ count]
    congr 1
    omega

theorem decimalCode_stripZeros (digits : Nat) (exponent : Int) :
    decimalCode (Decimal.stripZeros digits exponent).digits
      (Decimal.stripZeros digits exponent).exponent = decimalCode digits exponent := by
  fun_induction Decimal.stripZeros digits exponent with
  | case1 digits exponent h ih =>
    have hdigits : digits = digits / 10 * 10 := by omega
    rw [ih]
    conv => rhs; rw [hdigits]
    exact (decimalCode_mul_ten _ _).symm
  | case2 => rfl

/-! ### The decimals of a magnitude -/

/-- A point of a grid is only taken when it rounds to the magnitude. -/
theorem decimalCode_of_gridPoint? {tie : Tie} {code : Nat} {exponent : Int} {decimal : Decimal}
    (h : gridPoint? tie code exponent = some decimal) :
    decimalCode decimal.digits decimal.exponent = code := by
  unfold gridPoint? at h
  dsimp only at h
  split at h
  next hbelow habove =>
    have hboth : ∀ above : Bool, decimalCode (bif above then _ + 1 else _) exponent = code
      | true => beq_iff_eq.mp habove
      | false => beq_iff_eq.mp hbelow
    cases h
    exact hboth _
  next hbelow _ =>
    cases h
    exact beq_iff_eq.mp hbelow
  next _ habove =>
    cases h
    exact beq_iff_eq.mp habove
  next => cases h

theorem two_pow_le_five_pow {a b : Nat} (h : a ≤ 2 * b) : Nat.pow 2 a ≤ Nat.pow 5 b := calc
  Nat.pow 2 a ≤ Nat.pow 2 (2 * b) := Nat.pow_le_pow_right (by decide) h
  _ = Nat.pow 4 b := Nat.pow_mul 2 2 b
  _ ≤ Nat.pow 5 b := Nat.pow_le_pow_left (by decide) b

theorem two_pow_le_ten_pow {a b : Nat} (h : a ≤ 3 * b) : Nat.pow 2 a ≤ Nat.pow 10 b := calc
  Nat.pow 2 a ≤ Nat.pow 2 (3 * b) := Nat.pow_le_pow_right (by decide) h
  _ = Nat.pow 8 b := Nat.pow_mul 2 3 b
  _ ≤ Nat.pow 10 b := Nat.pow_le_pow_left (by decide) b

theorem ten_pow_le_five_pow {k m : Nat} (hm : m ≤ k) (hk : k ≤ 3 * m) :
    Nat.pow 10 (k - m) ≤ Nat.pow 5 k := calc
  Nat.pow 10 (k - m) = Nat.pow 2 (k - m) * Nat.pow 5 (k - m) := Nat.mul_pow 2 5 _
  _ ≤ Nat.pow 5 m * Nat.pow 5 (k - m) := Nat.mul_le_mul_right _ (two_pow_le_five_pow (by omega))
  _ = Nat.pow 5 (m + (k - m)) := (Nat.pow_add ..).symm
  _ = Nat.pow 5 k := by rw [Nat.add_sub_cancel' hm]

theorem two_pow_mul_five_pow_le {k m n : Nat} (hn : n ≤ 3 * m) :
    Nat.pow 2 (n + k) * Nat.pow 5 k ≤ Nat.pow 10 (m + k) := calc
  Nat.pow 2 (n + k) * Nat.pow 5 k = Nat.pow 2 n * Nat.pow 2 k * Nat.pow 5 k :=
    congrArg (· * Nat.pow 5 k) (Nat.pow_add ..)
  _ = Nat.pow 2 n * (Nat.pow 2 k * Nat.pow 5 k) := Nat.mul_assoc ..
  _ = Nat.pow 2 n * Nat.pow 10 k := congrArg _ (Nat.mul_pow 2 5 k).symm
  _ ≤ Nat.pow 10 m * Nat.pow 10 k := Nat.mul_le_mul_right _ (two_pow_le_ten_pow hn)
  _ = Nat.pow 10 (m + k) := (Nat.pow_add ..).symm

/-- The least magnitude with an exponent field is a power of two. -/
theorem units_mul_succ (e : Nat) : units (0x10000000000000 * (e + 1)) = Nat.pow 2 (52 + e) := by
  rw [units_of_le (by omega), Nat.mul_mod_right, Nat.mul_div_cancel_left _ (by decide),
    Nat.add_sub_cancel]
  exact (Nat.pow_add 2 52 e).symm

theorem unitsPerOne_eq : unitsPerOne = Nat.pow 2 1074 := by
  unfold unitsPerOne
  rfl

theorem units_infinityCode : units infinityCode = Nat.pow 2 (1024 + 1074) :=
  units_mul_succ 2046

/-- A magnitude of `k` binary places after the point has as many decimal ones; between them, its
decimal expansion begins less than 400 places away from the point. -/
theorem decimalCode_expansion {code k : Nat} (hk : unitsPerOne = Nat.pow 2 k) (hlow : 400 ≤ k)
    (hhigh : k ≤ 1200) (hinfinity : units infinityCode = Nat.pow 2 (1024 + k))
    (hcode : code < infinityCode) (hne : code ≠ 0) :
    decimalCode (units code * Nat.pow 5 k) (-(k : Int)) = code := by
  have hpos : 0 < units code :=
    Nat.lt_of_le_of_lt (Nat.zero_le _) (units_strictMono (Nat.pos_of_ne_zero hne))
  have hfive : 0 < Nat.pow 5 k := Nat.pow_pos (by decide)
  have hlower : Nat.pow 10 (k - 400) ≤ units code * Nat.pow 5 k :=
    Nat.le_trans (ten_pow_le_five_pow hlow hhigh) (Nat.le_mul_of_pos_left _ hpos)
  have hupper : units code * Nat.pow 5 k < Nat.pow 10 (400 + k) := by
    refine Nat.lt_of_lt_of_le (Nat.mul_lt_mul_of_pos_right (units_strictMono hcode) hfive) ?_
    rw [hinfinity]
    exact two_pow_mul_five_pow_le (by omega)
  have hlong : k - 400 < (Nat.toDigits 10 (units code * Nat.pow 5 k)).length := by
    rcases Nat.eq_zero_or_pos (k - 400) with h0 | hpos'
    · rw [h0]
      exact Nat.length_toDigits_pos
    · rw [← Nat.not_le, Nat.length_toDigits_le_iff (by decide) hpos']
      exact Nat.not_lt.mpr hlower
  have hshort : (Nat.toDigits 10 (units code * Nat.pow 5 k)).length ≤ 400 + k :=
    (Nat.length_toDigits_le_iff (by decide) (by omega)).mpr hupper
  have hdigits : units code * Nat.pow 5 k ≠ 0 := Nat.pos_iff_ne_zero.mp (Nat.mul_pos hpos hfive)
  unfold decimalCode
  dsimp only
  rw [if_neg (by omega), if_neg (by omega), show (-(k : Int)).toNat = 0 by omega,
    show (- -(k : Int)).toNat = k by omega]
  refine roundCode_units (Nat.pow_pos (by decide)) (Nat.le_of_lt hcode) ?_
  have hpow : Nat.pow 10 k = Nat.pow 5 k * Nat.pow 2 k := Nat.mul_pow 5 2 k
  rw [hpow, show Nat.pow 10 0 = 1 from rfl, Nat.mul_one, Nat.mul_assoc, hk]

/-- Where the decimal of a magnitude above zero comes from. -/
theorem exists_shortest_eq (tie : Tie) {code : Nat} (hne : code ≠ 0) :
    ∃ decimal : Decimal, shortest tie code = Decimal.stripZeros decimal.digits decimal.exponent ∧
      ((∃ exponent, gridPoint? tie code exponent = some decimal) ∨
        decimal = ⟨units code * Nat.pow 5 1074, -1074⟩) := by
  unfold shortest
  rw [if_neg hne]
  refine ⟨_, rfl, ?_⟩
  generalize hfound : (List.range 17).findSome? _ = found
  cases found with
  | none => exact .inr Option.getD_none
  | some decimal =>
    obtain ⟨n, -, hn⟩ := List.exists_of_findSome?_eq_some hfound
    exact .inl ⟨_, hn⟩

/-- **The decimal that is found for a finite magnitude rounds to it.** -/
theorem decimalCode_shortest (tie : Tie) {code : Nat} (hcode : code < infinityCode) :
    decimalCode (shortest tie code).digits (shortest tie code).exponent = code := by
  by_cases hne : code = 0
  · rw [hne]
    rfl
  obtain ⟨decimal, hdecimal, ⟨exponent, hpoint⟩ | hexact⟩ := exists_shortest_eq tie hne
  · rw [hdecimal, decimalCode_stripZeros, decimalCode_of_gridPoint? hpoint]
  · rw [hdecimal, decimalCode_stripZeros, hexact]
    exact decimalCode_expansion unitsPerOne_eq (by decide) (by decide) units_infinityCode hcode hne

end Sift.Binary64
