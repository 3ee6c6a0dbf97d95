/-
# Rounding keeps the order

Of two quotients, the greater one is not rounded to the smaller number. Two quotients between the same
two magnitudes lie on the two sides of the middle in their order, or on the same side; when both are
in the middle, they are equal. Quotients that are not between the same two magnitudes are kept apart
by a magnitude between them.

So the numbers of integers have places in the order of the integers, although different integers can
have the same place, and all of them are finite.

Key theorems: `floorCode_mono`, `roundCode_mono`, `integerPlace_mono`, `isFinite_ofInt`.
-/
import Sift.Proofs.Binary64.Decimal

namespace Sift.Binary64

theorem units_mono {a b : Nat} (h : a ≤ b) : units a ≤ units b := by
  rcases Nat.lt_or_eq_of_le h with hlt | rfl
  · exact Nat.le_of_lt (units_strictMono hlt)
  · exact Nat.le_refl _

variable {m n denominator : Nat}

/-- The magnitude up to a quotient grows with the quotient. -/
theorem floorCode_mono (h : m ≤ n)
    (hbound : n * unitsPerOne < units 0x8000000000000000 * denominator) :
    floorCode m denominator ≤ floorCode n denominator := by
  have hscaled : m * unitsPerOne ≤ n * unitsPerOne := Nat.mul_le_mul_right _ h
  obtain ⟨hm, -⟩ := floorCode_spec (Nat.lt_of_le_of_lt hscaled hbound)
  obtain ⟨-, hn⟩ := floorCode_spec hbound
  refine Nat.le_of_not_lt fun hlt => ?_
  have hunits : units (floorCode n denominator + 1) ≤ units (floorCode m denominator) :=
    units_mono hlt
  have hcontra : n * unitsPerOne < n * unitsPerOne := calc
    n * unitsPerOne < units (floorCode n denominator + 1) * denominator := hn
    _ ≤ units (floorCode m denominator) * denominator := Nat.mul_le_mul_right _ hunits
    _ ≤ m * unitsPerOne := hm
    _ ≤ n * unitsPerOne := hscaled
  exact Nat.lt_irrefl _ hcontra

/-- The nearer one of two neighbouring codes, for the order of what is rounded and their middle. -/
def nearestCode (below : Nat) : Ordering → Nat
  | .lt => below
  | .eq => if below % 2 = 0 then below else below + 1
  | .gt => below + 1

theorem roundCode_eq_nearestCode (numerator denominator : Nat) :
    roundCode numerator denominator =
      min (nearestCode (floorCode numerator denominator)
        (compare (2 * (numerator * unitsPerOne))
          ((units (floorCode numerator denominator) +
            units (floorCode numerator denominator + 1)) * denominator))) infinityCode := by
  unfold roundCode
  rcases hcompare : compare (2 * (numerator * unitsPerOne))
    ((units (floorCode numerator denominator) + units (floorCode numerator denominator + 1)) *
      denominator) with _ | _ | _ <;> simp only [hcompare, nearestCode]

theorem le_nearestCode (below : Nat) (order : Ordering) : below ≤ nearestCode below order := by
  unfold nearestCode
  cases order with
  | lt => exact Nat.le_refl _
  | eq => by_cases heven : below % 2 = 0 <;> simp [heven]
  | gt => exact Nat.le_succ _

theorem nearestCode_le (below : Nat) (order : Ordering) : nearestCode below order ≤ below + 1 := by
  unfold nearestCode
  cases order with
  | lt => exact Nat.le_succ _
  | eq => by_cases heven : below % 2 = 0 <;> simp [heven]
  | gt => exact Nat.le_refl _

/-- Between two neighbouring codes, what is greater is not nearer to the lower one. -/
theorem nearestCode_mono (below : Nat) {a b middle : Nat} (h : a ≤ b) :
    nearestCode below (compare a middle) ≤ nearestCode below (compare b middle) := by
  rcases Nat.lt_trichotomy a middle with ha | rfl | ha
  · rw [Nat.compare_eq_lt.mpr ha]
    exact le_nearestCode _ _
  · rcases Nat.lt_or_eq_of_le h with hb | rfl
    · rw [Nat.compare_eq_gt.mpr hb]
      exact nearestCode_le _ _
    · exact Nat.le_refl _
  · have hb : middle < b := Nat.lt_of_lt_of_le ha h
    have hcompare : compare a middle = compare b middle :=
      (Nat.compare_eq_gt.mpr ha).trans (Nat.compare_eq_gt.mpr hb).symm
    exact Nat.le_of_eq (congrArg (nearestCode below) hcompare)

/-- **Rounding keeps the order.** -/
theorem roundCode_mono (h : m ≤ n)
    (hbound : n * unitsPerOne < units 0x8000000000000000 * denominator) :
    roundCode m denominator ≤ roundCode n denominator := by
  rw [roundCode_eq_nearestCode, roundCode_eq_nearestCode]
  refine Nat.le_min.mpr ⟨Nat.le_trans (Nat.min_le_left _ _) ?_, Nat.min_le_right _ _⟩
  rcases Nat.lt_or_eq_of_le (floorCode_mono h hbound) with hlt | heq
  · exact Nat.le_trans (nearestCode_le _ _) (Nat.le_trans hlt (le_nearestCode _ _))
  · rw [heq]
    exact nearestCode_mono _ (Nat.mul_le_mul_left 2 (Nat.mul_le_mul_right _ h))

/-! ### Integers -/

/-- Integers of 64 bits are far below infinity. -/
theorem mul_lt_units_infinityCode {j k : Nat} (hk : unitsPerOne = Nat.pow 2 k)
    (hinfinity : units infinityCode = Nat.pow 2 (j + k)) (hj : 63 < j)
    (h : n ≤ 0x8000000000000000) : n * unitsPerOne < units infinityCode := by
  have hlt : n < Nat.pow 2 j :=
    Nat.lt_of_le_of_lt h (Nat.pow_lt_pow_right (by decide : 1 < 2) hj)
  rw [hk, hinfinity]
  calc
    n * Nat.pow 2 k < Nat.pow 2 j * Nat.pow 2 k :=
      Nat.mul_lt_mul_of_pos_right hlt (Nat.two_pow_pos k)
    _ = Nat.pow 2 (j + k) := (Nat.pow_add 2 j k).symm

theorem mul_unitsPerOne_lt (h : n ≤ 0x8000000000000000) :
    n * unitsPerOne < units 0x8000000000000000 * 1 := by
  have hinteger : n * unitsPerOne < units infinityCode :=
    mul_lt_units_infinityCode unitsPerOne_eq units_infinityCode (by decide) h
  have hunits : units infinityCode < units 0x8000000000000000 := units_strictMono (by decide)
  rw [Nat.mul_one]
  exact Nat.lt_trans hinteger hunits

/-- The place of the number of an integer. -/
def integerPlace (n : Int) : Int :=
  if n < 0 then -(roundCode n.natAbs 1 : Int) else roundCode n.natAbs 1

theorem place?_ofInt (n : Int) : (ofInt n).place? = some (integerPlace n) := by
  unfold ofInt ofRatio place? integerPlace
  by_cases hn : n < 0
  · simp only [decide_eq_true hn, if_pos hn, ↓reduceIte]
  · simp only [decide_eq_false hn, if_neg hn, Bool.false_eq_true, ↓reduceIte]

/-- Integers of 64 bits have numbers in their order. -/
theorem integerPlace_mono {i j : Int} (h : i ≤ j) (hi : i.natAbs ≤ 0x8000000000000000)
    (hj : j.natAbs ≤ 0x8000000000000000) : integerPlace i ≤ integerPlace j := by
  unfold integerPlace
  by_cases hneg : j < 0
  · have hround : roundCode j.natAbs 1 ≤ roundCode i.natAbs 1 :=
      roundCode_mono (by omega) (mul_unitsPerOne_lt hi)
    rw [if_pos hneg, if_pos (by omega)]
    omega
  · rw [if_neg hneg]
    by_cases hneg' : i < 0
    · rw [if_pos hneg']
      omega
    · have hround : roundCode i.natAbs 1 ≤ roundCode j.natAbs 1 :=
        roundCode_mono (by omega) (mul_unitsPerOne_lt hj)
      rw [if_neg hneg']
      omega

/-- The place of 2 ^ 64 is far below that of infinity. -/
theorem units_two_pow_64 {places : Nat} (hplaces : unitsPerOne = Nat.pow 2 places) :
    units (0x10000000000000 * (places + 12 + 1)) = 0x10000000000000000 * unitsPerOne := by
  rw [units_mul_succ, hplaces, show 52 + (places + 12) = 64 + places by omega]
  exact Nat.pow_add 2 64 places

/-- **Integers that fit in 64 bits, with a sign or without one, are finite numbers.** -/
theorem isFinite_ofInt {n : Int} (h : n.natAbs ≤ 0x10000000000000000) :
    (ofInt n).isFinite = true := by
  have hunits := units_two_pow_64 unitsPerOne_eq
  have hround : roundCode 0x10000000000000000 1 = 0x10000000000000 * (1074 + 12 + 1) :=
    roundCode_units Nat.one_pos (by decide) (by rw [hunits, Nat.mul_one])
  have hbound : 0x10000000000000000 * unitsPerOne < units 0x8000000000000000 * 1 := by
    rw [← hunits, Nat.mul_one]
    exact units_strictMono (by decide)
  have hle : roundCode n.natAbs 1 ≤ roundCode 0x10000000000000000 1 := roundCode_mono h hbound
  have hfinite : 0x10000000000000 * (1074 + 12 + 1) < infinityCode := by decide
  unfold ofInt ofRatio isFinite
  rw [decide_eq_true_eq]
  exact Nat.lt_of_le_of_lt (hround ▸ hle) hfinite

end Sift.Binary64
