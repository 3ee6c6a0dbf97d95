/-
# Conditions on integers

Conditions compare integers as the numbers that they are rounded to. Rounding keeps the order of
integers, so a condition is wrong about them only where two different integers are rounded to the same
number: these count as equal. That happens only past 2 ^ 53. The order for sorting does not round two
integers, so a sort and a filter can disagree about them.

Key definition: `Value.Merged`.
Key theorems: `Value.relation?_integer`, `Value.not_merged_of_natAbs_le`,
`Filter.evaluate_integer_exact_iff`.
-/
import Sift.Proofs.Filter.Expansion
import Sift.Proofs.Value.SortKey

namespace Sift

namespace Value

/-- Whether two different integers are rounded to the same number. -/
def Merged (a b : Int64) : Prop :=
  a ≠ b ∧ (Binary64.ofInt a.toInt).same (Binary64.ofInt b.toInt) = true

instance (a b : Int64) : Decidable (Merged a b) :=
  inferInstanceAs (Decidable (_ ∧ _))

/-! ### Rounding -/

theorem same_ofInt_ofInt_iff (a b : Int64) :
    (Binary64.ofInt a.toInt).same (Binary64.ofInt b.toInt) = true ↔
      Binary64.integerPlace a.toInt = Binary64.integerPlace b.toInt := by
  rw [same_ofInt_iff, numberPlace, numberPlace, sortPlace_ofInt]

theorem merged_comm (a b : Int64) : Merged a b ↔ Merged b a := by
  unfold Merged
  rw [same_ofInt_ofInt_iff, same_ofInt_ofInt_iff, ne_comm, eq_comm]

/-- Integers up to 2 ^ 53 on either side of zero are told apart after rounding. -/
theorem not_merged_of_natAbs_le {a b : Int64} (ha : a.toInt.natAbs ≤ 0x20000000000000)
    (hb : b.toInt.natAbs ≤ 0x20000000000000) : ¬ Merged a b := by
  rintro ⟨hne, hsame⟩
  have hcompare : Binary64.compare? (Binary64.ofInt a.toInt) (Binary64.ofInt b.toInt) = some .eq :=
    eq_of_beq hsame
  have horder : numberOrder (Binary64.ofInt a.toInt) (Binary64.ofInt b.toInt) = .eq := by
    unfold numberOrder
    rw [hcompare]
  rw [numberOrder_eq_order, sortKey_ofInt ha, sortKey_ofInt hb, SortKey.order,
    ← compare_mul_unitsPerOne] at horder
  exact hne (Int64.toInt_inj.mp (Int.compare_eq_eq.mp horder))

/-- Integers that are not rounded to the same number are rounded to numbers in their order. -/
theorem integerPlace_lt_iff {a b : Int64} (h : ¬ Merged a b) :
    Binary64.integerPlace a.toInt < Binary64.integerPlace b.toInt ↔ a.toInt < b.toInt := by
  constructor
  · intro hplace
    refine Int.not_le.mp fun hle => ?_
    have hmono : Binary64.integerPlace b.toInt ≤ Binary64.integerPlace a.toInt := numberPlace_mono hle
    omega
  · intro hlt
    have hmono : Binary64.integerPlace a.toInt ≤ Binary64.integerPlace b.toInt :=
      numberPlace_mono (Int.le_of_lt hlt)
    have hne : Binary64.integerPlace a.toInt ≠ Binary64.integerPlace b.toInt := by
      intro heq
      have hdifferent : a ≠ b := fun hab => Int.lt_irrefl _ (hab ▸ hlt)
      exact h ⟨hdifferent, (same_ofInt_ofInt_iff a b).mpr heq⟩
    omega

/-- Two integers relate as they are, unless they are rounded to the same number. -/
theorem relation?_integer (a b : Int64) :
    (integer a).relation? (integer b) =
      some (some (if Merged a b then .eq else compare a.toInt b.toInt)) := by
  have hplaces : (integer a).relation? (integer b) =
      some (some (compare (Binary64.integerPlace a.toInt) (Binary64.integerPlace b.toInt))) := by
    show some (Binary64.compare? _ _) = _
    rw [Binary64.compare?, Binary64.place?_ofInt, Binary64.place?_ofInt]
  rw [hplaces]
  by_cases hmerged : Merged a b
  · rw [if_pos hmerged, (same_ofInt_ofInt_iff a b).mp hmerged.2, Int.compare_eq_eq.mpr rfl]
  · have hswapped : ¬ Merged b a := fun h => hmerged ((merged_comm a b).mpr h)
    rw [if_neg hmerged, Binary64.compare_eq_of_lt_iff (integerPlace_lt_iff hmerged)
      (integerPlace_lt_iff hswapped)]

/-- A comparison of integers asks how they relate, those rounded to the same number being equal. -/
theorem compareValues_integer (a b : Int64) (operator : Comparison) :
    Filter.compareValues (integer a) operator (integer b) =
      .ok (operator.holds (if Merged a b then .eq else compare a.toInt b.toInt)) :=
  Filter.compareValues_of_relation?_eq_some operator (relation?_integer a b)

end Value

namespace Filter

open Value (Merged)

variable {record : Record} {field : String} {a : Int64}

/-! ### What the operators ask of integers -/

theorem holds_compare (i j : Int) :
    Comparison.eq.holds (Ord.compare i j) = decide (i = j) ∧
      Comparison.ge.holds (Ord.compare i j) = decide (j ≤ i) ∧
      Comparison.le.holds (Ord.compare i j) = decide (i ≤ j) := by
  rcases Int.lt_trichotomy i j with h | rfl | h
  · rw [Int.compare_eq_lt.mpr h, decide_eq_false (show ¬ i = j by omega),
      decide_eq_false (show ¬ j ≤ i by omega), decide_eq_true (show i ≤ j by omega)]
    exact ⟨rfl, rfl, rfl⟩
  · simp [Comparison.holds]
  · rw [Int.compare_eq_gt.mpr h, decide_eq_false (show ¬ i = j by omega),
      decide_eq_true (show j ≤ i by omega), decide_eq_false (show ¬ i ≤ j by omega)]
    exact ⟨rfl, rfl, rfl⟩

theorem holds_integers (a b : Int64) :
    Comparison.eq.holds (if Merged a b then .eq else Ord.compare a.toInt b.toInt) =
        decide (a = b ∨ Merged a b) ∧
      Comparison.ge.holds (if Merged a b then .eq else Ord.compare a.toInt b.toInt) =
        decide (b.toInt ≤ a.toInt ∨ Merged a b) ∧
      Comparison.le.holds (if Merged a b then .eq else Ord.compare a.toInt b.toInt) =
        decide (a.toInt ≤ b.toInt ∨ Merged a b) := by
  by_cases hmerged : Merged a b
  · rw [if_pos hmerged, decide_eq_true (.inr hmerged), decide_eq_true (.inr hmerged),
      decide_eq_true (.inr hmerged)]
    exact ⟨rfl, rfl, rfl⟩
  · simp only [hmerged, if_false, or_false, ← Int64.toInt_inj]
    exact holds_compare a.toInt b.toInt

/-! ### Conditions -/

/-- A membership in a list of integers holds of an integer in the list, and of one that is rounded to
the same number as an integer in the list. -/
theorem evaluate_member_integers (h : record.get? field = some (.integer a)) (bs : List Int64) :
    evaluate record (member field false (bs.map .integer)) =
      .ok (bs.any fun b => decide (a = b ∨ Merged a b)) := by
  have hequals : (Value.integer a).equals ∘ .integer = fun b => decide (a = b ∨ Merged a b) := by
    funext b
    rw [Function.comp_apply, Value.equals_eq, Value.relation?_integer]
    exact (holds_integers a b).1
  rw [evaluate_member_of_some h, List.any_map, hequals, Bool.bne_false]

/-- A condition on bounds holds of an integer that is within each bound or is rounded to the same number
as it. -/
theorem evaluate_between_integers (h : record.get? field = some (.integer a)) (lower upper : Int64) :
    evaluate record (between field (.integer lower) (.integer upper)) =
      .ok (decide ((lower.toInt ≤ a.toInt ∨ Merged a lower) ∧
        (a.toInt ≤ upper.toInt ∨ Merged a upper))) := by
  obtain ⟨-, hlower, -⟩ := holds_integers a lower
  obtain ⟨-, -, hupper⟩ := holds_integers a upper
  rw [evaluate_between, evaluate, evaluate_compare_of_some h, evaluate_compare_of_some h,
    Value.compareValues_integer, Value.compareValues_integer, hlower, hupper, Bool.decide_and]
  rfl

/-! ### Where the conditions are exact -/

/-- A comparison is exact unless rounding hides from the operator that the integers differ. -/
theorem evaluate_compare_integer_iff (h : record.get? field = some (.integer a))
    (operator : Comparison) (b : Int64) :
    evaluate record (compare field operator (.integer b)) =
        .ok (operator.holds (Ord.compare a.toInt b.toInt)) ↔
      ¬ Merged a b ∨ operator.holds (Ord.compare a.toInt b.toInt) = operator.holds .eq := by
  rw [evaluate_compare_of_some h, Value.compareValues_integer, Except.ok.injEq]
  by_cases hmerged : Merged a b
  · rw [if_pos hmerged, or_iff_right (not_not_intro hmerged), eq_comm]
  · rw [if_neg hmerged, iff_true_left rfl]
    exact .inl hmerged

/-- A membership is exact unless only an integer that is rounded to the same number is in the list. -/
theorem evaluate_member_integers_iff (h : record.get? field = some (.integer a))
    (bs : List Int64) :
    evaluate record (member field false (bs.map .integer)) = .ok (decide (a ∈ bs)) ↔
      a ∈ bs ∨ ∀ b ∈ bs, ¬ Merged a b := by
  rw [evaluate_member_integers h, Except.ok.injEq, Bool.eq_iff_iff, List.any_eq_true,
    decide_eq_true_iff]
  simp only [decide_eq_true_iff]
  constructor
  · intro hexact
    by_cases ha : a ∈ bs
    · exact .inl ha
    · exact .inr fun b hb hmerged => ha (hexact.mp ⟨b, hb, .inr hmerged⟩)
  · intro hexact
    refine ⟨?_, fun ha => ⟨a, ha, .inl rfl⟩⟩
    rintro ⟨b, hb, rfl | hmerged⟩
    · exact hb
    · exact hexact.resolve_right fun hnone => hnone b hb hmerged

/-- A condition on bounds is exact unless the integer is rounded to the same number as each bound that it
is beyond. -/
theorem evaluate_between_integers_iff (h : record.get? field = some (.integer a))
    (lower upper : Int64) :
    evaluate record (between field (.integer lower) (.integer upper)) =
        .ok (decide (lower.toInt ≤ a.toInt ∧ a.toInt ≤ upper.toInt)) ↔
      (lower.toInt ≤ a.toInt ∧ a.toInt ≤ upper.toInt) ∨
        (a.toInt < lower.toInt ∧ ¬ Merged a lower) ∨
        (upper.toInt < a.toInt ∧ ¬ Merged a upper) := by
  -- within the bounds the condition holds, rounding or not; so it is wrong only when it holds beyond
  have hwithin : lower.toInt ≤ a.toInt ∧ a.toInt ≤ upper.toInt →
      (lower.toInt ≤ a.toInt ∨ Merged a lower) ∧ (a.toInt ≤ upper.toInt ∨ Merged a upper) :=
    fun hbounds => ⟨.inl hbounds.1, .inl hbounds.2⟩
  rw [evaluate_between_integers h, Except.ok.injEq, decide_eq_decide]
  refine Iff.trans ⟨Iff.mp, fun himp => ⟨himp, hwithin⟩⟩ ?_
  rw [Decidable.imp_iff_not_or, Classical.not_and_iff_not_or_not, not_or, not_or, Int.not_le,
    Int.not_le, or_comm]

/-- **When conditions on integers are exact.** On a record with an integer in a field, a comparison with
an integer has the truth value that the operator has of the two, unless they are rounded to the same
number and the operator tells them from equal integers; a membership in a list of integers holds exactly
when the integer is in the list, unless it is not and one that is rounded to the same number is; and a
condition on bounds holds exactly when the integer is within the bounds, unless it is not and is rounded
to the same number as each bound that it is beyond. Two integers are always sorted exactly. -/
theorem evaluate_integer_exact_iff (h : record.get? field = some (.integer a)) :
    (∀ operator b,
      evaluate record (compare field operator (.integer b)) =
          .ok (operator.holds (Ord.compare a.toInt b.toInt)) ↔
        ¬ Merged a b ∨ operator.holds (Ord.compare a.toInt b.toInt) = operator.holds .eq) ∧
      (∀ bs : List Int64,
        evaluate record (member field false (bs.map .integer)) = .ok (decide (a ∈ bs)) ↔
          a ∈ bs ∨ ∀ b ∈ bs, ¬ Merged a b) ∧
      (∀ lower upper : Int64,
        evaluate record (between field (.integer lower) (.integer upper)) =
            .ok (decide (lower.toInt ≤ a.toInt ∧ a.toInt ≤ upper.toInt)) ↔
          (lower.toInt ≤ a.toInt ∧ a.toInt ≤ upper.toInt) ∨
            (a.toInt < lower.toInt ∧ ¬ Merged a lower) ∨
            (upper.toInt < a.toInt ∧ ¬ Merged a upper)) ∧
      ∀ b, (Value.integer a).sortOrder (.integer b) = Ord.compare a.toInt b.toInt :=
  ⟨evaluate_compare_integer_iff h, evaluate_member_integers_iff h, evaluate_between_integers_iff h,
    fun _ => rfl⟩

/-- The integer behind 2 ^ 53 is rounded to it: it is not found to be greater, and it is found in a list
and within bounds where only 2 ^ 53 is. A sort puts it behind 2 ^ 53. -/
theorem evaluate_integer_exact_iff_behind_two_pow :
    let power : Int64 := 9007199254740992
    let behind : Int64 := 9007199254740993
    let record := Record.ofList [("v", .integer behind)]
    record.get? "v" = some (.integer behind) ∧ Merged behind power ∧
      ¬ evaluate record (compare "v" .gt (.integer power)) = .ok true ∧
      evaluate record (compare "v" .ge (.integer power)) = .ok true ∧
      ¬ evaluate record (member "v" false [.integer power]) = .ok false ∧
      ¬ evaluate record (between "v" (.integer 0) (.integer power)) = .ok false ∧
      (Value.integer behind).sortOrder (.integer power) = .gt := by
  intro power behind record
  have hfound : record.get? "v" = some (.integer behind) := by decide
  have hmerged : Merged behind power := by decide +kernel
  have horder : Ord.compare behind.toInt power.toInt = .gt := by decide
  have hlisted : decide (behind ∈ [power]) = false := by decide
  have hwithin : decide ((0 : Int64).toInt ≤ behind.toInt ∧ behind.toInt ≤ power.toInt) = false := by
    decide
  obtain ⟨hcompare, hmember, hbetween, hsort⟩ := evaluate_integer_exact_iff hfound
  have hgt := hcompare .gt power
  have hge := hcompare .ge power
  have hmember := hmember [power]
  have hbetween := hbetween 0 power
  rw [horder] at hgt hge
  rw [hlisted] at hmember
  rw [hwithin] at hbetween
  refine ⟨hfound, hmerged, fun h => ?_, hge.mpr (.inr rfl), fun h => ?_, fun h => ?_,
    (hsort power).trans horder⟩
  · exact (hgt.mp h).elim (absurd hmerged) nofun
  · obtain hmem | hnone := hmember.mp h
    · exact absurd hmem (by decide)
    · exact hnone power List.mem_cons_self hmerged
  · obtain ⟨-, hupper⟩ | ⟨hlower, -⟩ | ⟨-, hnot⟩ := hbetween.mp h
    · exact absurd hupper (by decide)
    · exact absurd hlower (by decide)
    · exact hnot hmerged

/-- The integer behind 2 ^ 53 is found to be equal to 2 ^ 53. -/
theorem not_evaluate_eq_exact_behind_two_pow :
    let record := Record.ofList [("v", .integer 9007199254740993)]
    let filter := compare "v" .eq (.integer 9007199254740992)
    record.get? "v" = some (.integer 9007199254740993) ∧
      evaluate record filter = .ok true ∧
      ¬ evaluate record filter = .ok (Comparison.eq.holds (Ord.compare
        (9007199254740993 : Int64).toInt (9007199254740992 : Int64).toInt)) := by
  intro record filter
  have hfound : record.get? "v" = some (.integer 9007199254740993) := by decide
  have hmerged : Merged 9007199254740993 9007199254740992 := by decide +kernel
  have hequal : evaluate record filter = .ok true := by
    rw [evaluate_compare_of_some hfound, Value.compareValues_integer, if_pos hmerged]
    rfl
  have hdifferent : Comparison.eq.holds (Ord.compare
      (9007199254740993 : Int64).toInt (9007199254740992 : Int64).toInt) = false := by decide
  refine ⟨hfound, hequal, ?_⟩
  rw [hequal, hdifferent]
  exact nofun

end Filter

end Sift
