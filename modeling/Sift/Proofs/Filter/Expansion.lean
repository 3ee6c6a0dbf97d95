/-
# Memberships and bounds written out

A condition on bounds is the conjunction of two comparisons, in its truth value and in its error. A
membership in a list is the disjunction of equalities where that has a truth value. Where it fails,
because a value of the list does not compare with that of the field, the membership still has a truth
value: it holds by the comparisons that do not fail, and by two truth values that are the same. A negated
membership is the negation of the membership as long as the record has the field, and false when not.

Key definition: `anyEqual`.
Key theorems: `evaluate_between`, `evaluate_member_iff`, `evaluate_member_of_anyEqual`,
`evaluate_between_and_member`.
-/
import Sift.Proofs.Filter.Skeleton
import Sift.Proofs.Value.Relation

namespace Sift.Filter

variable {record : Record} {field : String} {found : Value}

/-! ### Conditions on a field -/

theorem evaluate_compare_of_none (h : record.get? field = none) (operator : Comparison)
    (value : Value) : evaluate record (compare field operator value) = .ok false := by
  simp only [evaluate, onField, h]

theorem evaluate_compare_of_some (h : record.get? field = some found) (operator : Comparison)
    (value : Value) :
    evaluate record (compare field operator value) = compareValues found operator value := by
  simp only [evaluate, onField, h]

theorem evaluate_member_of_none (h : record.get? field = none) (negated : Bool)
    (values : List Value) : evaluate record (member field negated values) = .ok false := by
  simp only [evaluate, onField, h]

theorem evaluate_member_of_some (h : record.get? field = some found) (negated : Bool)
    (values : List Value) :
    evaluate record (member field negated values) =
      .ok (values.any found.equals != negated) := by
  simp only [evaluate, onField, h]

theorem evaluate_not_of_ok {operand : Filter} {b : Bool} (h : evaluate record operand = .ok b) :
    evaluate record (not operand) = .ok (!b) := by
  rw [evaluate, h]
  rfl

/-- A condition on bounds is a conjunction of comparisons. -/
theorem evaluate_between (record : Record) (field : String) (lower upper : Value) :
    evaluate record (between field lower upper) =
      evaluate record (and (compare field .ge lower) (compare field .le upper)) := by
  rcases h : record.get? field with _ | found <;> simp only [evaluate, onField, h] <;> rfl

/-! ### Memberships -/

/-- Two truth values do not compare. -/
theorem compareValues_boolean (a b : Bool) (operator : Comparison) :
    compareValues (.boolean a) operator (.boolean b) =
      .error (.unsupportedComparison (.boolean a) operator (.boolean b)) :=
  rfl

/-- A value equals another one when the comparison of the two says so, or when both are the same truth
value. -/
theorem equals_iff (found value : Value) :
    found.equals value = true ↔ compareValues found .eq value = .ok true ∨
      ∃ truth, found = .boolean truth ∧ value = .boolean truth := by
  rcases hrelation : found.relation? value with _ | relation
  · rw [Value.equals_iff_of_relation?_eq_none hrelation,
      compareValues_of_relation?_eq_none .eq hrelation]
    simp
  · have hboolean : ¬ ∃ truth, found = .boolean truth ∧ value = .boolean truth := by
      rintro ⟨truth, rfl, rfl⟩
      cases hrelation
    rw [Value.equals_eq, hrelation, compareValues_of_relation?_eq_some .eq hrelation,
      or_iff_left hboolean, Except.ok.injEq]

/-- A membership has a truth value on every record. -/
theorem exists_evaluate_member (record : Record) (field : String) (negated : Bool)
    (values : List Value) : ∃ b, evaluate record (member field negated values) = .ok b := by
  rcases h : record.get? field with _ | found
  · exact ⟨_, evaluate_member_of_none h negated values⟩
  · exact ⟨_, evaluate_member_of_some h negated values⟩

/-- A membership holds by an equality that holds or by a truth value. -/
theorem evaluate_member_iff (record : Record) (field : String) (values : List Value) :
    evaluate record (member field false values) = .ok true ↔
      ∃ value ∈ values, evaluate record (compare field .eq value) = .ok true ∨
        ∃ truth, record.get? field = some (.boolean truth) ∧ value = .boolean truth := by
  rcases h : record.get? field with _ | found
  · simp [evaluate_member_of_none h, evaluate_compare_of_none h]
  · simp [evaluate_member_of_some h, evaluate_compare_of_some h, equals_iff]

/-! ### The disjunction of the equalities -/

/-- The disjunction of the equalities of a field with some values, grouped to the left. -/
def anyEqual (field : String) (first : Value) (rest : List Value) : Filter :=
  rest.foldl (fun filter value => or filter (compare field .eq value)) (compare field .eq first)

theorem leaves_anyEqual (field : String) (first : Value) (rest : List Value) :
    (anyEqual field first rest).leaves = (first :: rest).map (compare field .eq) := by
  suffices ∀ start : Filter,
      (rest.foldl (fun filter value => or filter (compare field .eq value)) start).leaves =
        start.leaves ++ rest.map (compare field .eq) from this _
  induction rest with
  | nil => simp
  | cons value rest ih =>
    intro start
    rw [List.foldl_cons, ih, leaves, List.append_assoc]
    rfl

theorem formula_anyEqual (truth : Filter → Bool) (field : String) (first : Value)
    (rest : List Value) :
    (anyEqual field first rest).formula truth =
      (first :: rest).any fun value => truth (compare field .eq value) := by
  suffices ∀ start : Filter,
      (rest.foldl (fun filter value => or filter (compare field .eq value)) start).formula truth =
        (start.formula truth || rest.any fun value => truth (compare field .eq value)) from this _
  induction rest with
  | nil => simp
  | cons value rest ih =>
    intro start
    rw [List.foldl_cons, ih, formula, Bool.or_assoc]
    rfl

/-- Where no equality fails, a membership is the disjunction of the equalities. -/
theorem evaluate_member_of_anyEqual {first : Value} {rest : List Value} {b : Bool}
    (h : evaluate record (anyEqual field first rest) = .ok b) :
    evaluate record (member field false (first :: rest)) = .ok b := by
  obtain ⟨hleaves, hformula⟩ := evaluate_eq_ok_iff.mp h
  rw [leaves_anyEqual] at hleaves
  rw [formula_anyEqual] at hformula
  have hboolean : ∀ value ∈ first :: rest,
      ¬ ∃ truth, record.get? field = some (.boolean truth) ∧ value = .boolean truth := by
    rintro value hvalue ⟨truth, hfound, rfl⟩
    obtain ⟨c, hc⟩ := hleaves _ (List.mem_map_of_mem hvalue)
    rw [evaluate_compare_of_some hfound, compareValues_boolean] at hc
    cases hc
  obtain ⟨c, hc⟩ := exists_evaluate_member record field false (first :: rest)
  have hholds : c = true ↔ evaluate record (member field false (first :: rest)) = .ok true := by
    rw [hc, Except.ok.injEq]
  have hiff : c = true ↔ b = true := by
    rw [hholds, evaluate_member_iff, ← hformula, List.any_eq_true]
    refine exists_congr fun value => and_congr_right fun hvalue => ?_
    rw [or_iff_left (hboolean value hvalue), holdsOn_iff]
  rw [hc, Bool.eq_iff_iff.mpr hiff]

/-- **Bounds and memberships mean what they are written out to.** A condition on bounds is evaluated as
the conjunction of the two comparisons. A membership never fails; it has the truth value of the
disjunction of the equalities where that has one, and where it fails it holds exactly when an equality
holds or the field and a value of the list are the same truth value. A negated membership is the negation
of the membership on records that have the field; without the field all of them are false. -/
theorem evaluate_between_and_member (record : Record) (field : String)
    (lower upper first : Value) (rest : List Value) :
    evaluate record (between field lower upper) =
        evaluate record (and (compare field .ge lower) (compare field .le upper)) ∧
      (∀ negated, ∃ b, evaluate record (member field negated (first :: rest)) = .ok b) ∧
      (match evaluate record (anyEqual field first rest) with
        | .ok b => evaluate record (member field false (first :: rest)) = .ok b
        | .error _ => evaluate record (member field false (first :: rest)) = .ok true ↔
            ∃ value ∈ first :: rest, evaluate record (compare field .eq value) = .ok true ∨
              ∃ truth, record.get? field = some (.boolean truth) ∧ value = .boolean truth) ∧
      match record.get? field with
        | some _ => evaluate record (member field true (first :: rest)) =
            evaluate record (not (member field false (first :: rest)))
        | none => evaluate record (member field true (first :: rest)) = .ok false ∧
            evaluate record (between field lower upper) = .ok false := by
  refine ⟨evaluate_between record field lower upper,
    fun negated => exists_evaluate_member record field negated _, ?_, ?_⟩
  · rcases h : evaluate record (anyEqual field first rest) with e | b
    · exact evaluate_member_iff record field (first :: rest)
    · exact evaluate_member_of_anyEqual h
  · rcases h : record.get? field with _ | found
    · refine ⟨evaluate_member_of_none h true _, ?_⟩
      rw [evaluate_between, evaluate, evaluate_compare_of_none h, evaluate_compare_of_none h]
      rfl
    · show evaluate record (member field true _) = evaluate record (not (member field false _))
      rw [evaluate_not_of_ok (evaluate_member_of_some h false _), evaluate_member_of_some h]
      cases (first :: rest).any found.equals <;> rfl

end Sift.Filter
