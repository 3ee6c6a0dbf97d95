/-
# Filters as formulas over their conditions

AND, OR and NOT make a formula out of the conditions of a filter. Where no condition fails, the filter
holds when the formula does; otherwise the filter fails, with the error of the first condition that
fails from left to right, whatever the formula is. So two filters with the same row of conditions and
equivalent formulas cannot be told apart: negations can be pushed to the conditions, and chains of one
operator can be grouped in any way.

Key definitions: `leaves`, `formula`, `Equivalent`, `failure?`, `outcome`.
Key theorems: `evaluate_eq_outcome`, `evaluate_eq_ok_iff`, `Equivalent.evaluate_eq`,
`evaluate_eq_formula`.
-/
import Sift.Filter.Evaluation

namespace Sift.Filter

/-- The conditions of a filter from left to right. -/
def leaves : Filter → List Filter
  | and left right => left.leaves ++ right.leaves
  | or left right => left.leaves ++ right.leaves
  | not operand => operand.leaves
  | condition => [condition]

/-- The value of the formula that the connectives of a filter make up, for truth values of its
conditions. -/
def formula (truth : Filter → Bool) : Filter → Bool
  | and left right => left.formula truth && right.formula truth
  | or left right => left.formula truth || right.formula truth
  | not operand => !operand.formula truth
  | condition => truth condition

/-- Whether two filters have the same conditions from left to right, and formulas over them that have
the same value however the conditions turn out. -/
def Equivalent (filter other : Filter) : Prop :=
  filter.leaves = other.leaves ∧ ∀ truth, filter.formula truth = other.formula truth

/-- The error of a filter on a record, if it fails there. -/
def failure? (record : Record) (filter : Filter) : Option EvalError :=
  match evaluate record filter with
  | .ok _ => none
  | .error e => some e

/-- Whether a filter holds of a record, and does not fail. -/
def holdsOn (record : Record) (filter : Filter) : Bool :=
  evaluate record filter matches .ok true

/-- The error of the first condition that fails on a record, or else the value of the formula. -/
def outcome (record : Record) (filter : Filter) : Except EvalError Bool :=
  match filter.leaves.findSome? (failure? record) with
  | some e => .error e
  | none => .ok (filter.formula (holdsOn record))

/-! ### Evaluation -/

/-- A filter that is one condition has that outcome. -/
theorem evaluate_eq_outcome_of_leaf {record : Record} {filter : Filter}
    (hleaves : filter.leaves = [filter]) (hformula : ∀ truth, filter.formula truth = truth filter) :
    evaluate record filter = outcome record filter := by
  unfold outcome
  rw [hleaves, hformula, List.findSome?_singleton]
  unfold failure? holdsOn
  cases evaluate record filter with
  | error e => rfl
  | ok b => cases b <;> rfl

/-- Of two filters side by side, the right one counts where the left one has an outcome. -/
theorem outcome_bind {record : Record} {left right whole : Filter} (op : Bool → Bool → Bool)
    (hleaves : whole.leaves = left.leaves ++ right.leaves)
    (hformula : ∀ truth, whole.formula truth = op (left.formula truth) (right.formula truth)) :
    outcome record whole = do
      let a ← outcome record left
      let b ← outcome record right
      return op a b := by
  unfold outcome
  rw [hleaves, hformula, List.findSome?_append]
  cases left.leaves.findSome? (failure? record) with
  | some e => rfl
  | none => cases right.leaves.findSome? (failure? record) <;> rfl

theorem outcome_not (record : Record) (operand : Filter) :
    outcome record (not operand) = do
      let a ← outcome record operand
      return !a := by
  have hleaves : (not operand).leaves = operand.leaves := rfl
  have hformula : (not operand).formula (holdsOn record) = !operand.formula (holdsOn record) := rfl
  unfold outcome
  rw [hleaves, hformula]
  cases operand.leaves.findSome? (failure? record) <;> rfl

/-- A filter is evaluated to its outcome. -/
theorem evaluate_eq_outcome (record : Record) : ∀ filter : Filter,
    evaluate record filter = outcome record filter
  | compare .. => evaluate_eq_outcome_of_leaf rfl fun _ => rfl
  | member .. => evaluate_eq_outcome_of_leaf rfl fun _ => rfl
  | between .. => evaluate_eq_outcome_of_leaf rfl fun _ => rfl
  | matching .. => evaluate_eq_outcome_of_leaf rfl fun _ => rfl
  | and left right => by
    rw [outcome_bind (· && ·) rfl fun _ => rfl, ← evaluate_eq_outcome record left,
      ← evaluate_eq_outcome record right, evaluate]
  | or left right => by
    rw [outcome_bind (· || ·) rfl fun _ => rfl, ← evaluate_eq_outcome record left,
      ← evaluate_eq_outcome record right, evaluate]
  | not operand => by
    rw [outcome_not, ← evaluate_eq_outcome record operand, evaluate]

theorem failure?_eq_none_iff {record : Record} {filter : Filter} :
    failure? record filter = none ↔ ∃ b, evaluate record filter = .ok b := by
  unfold failure?
  cases evaluate record filter <;> simp

theorem holdsOn_iff {record : Record} {filter : Filter} :
    holdsOn record filter = true ↔ evaluate record filter = .ok true := by
  unfold holdsOn
  rcases evaluate record filter with e | _ | _ <;> simp

/-- A filter has a truth value where none of its conditions fails, which is that of its formula. -/
theorem evaluate_eq_ok_iff {record : Record} {filter : Filter} {b : Bool} :
    evaluate record filter = .ok b ↔
      (∀ leaf ∈ filter.leaves, ∃ c, evaluate record leaf = .ok c) ∧
        filter.formula (holdsOn record) = b := by
  have hleaves : filter.leaves.findSome? (failure? record) = none ↔
      ∀ leaf ∈ filter.leaves, ∃ c, evaluate record leaf = .ok c := by
    simp only [List.findSome?_eq_none_iff, failure?_eq_none_iff]
  rw [evaluate_eq_outcome, outcome, ← hleaves]
  cases filter.leaves.findSome? (failure? record) <;> simp

/-- The outcome of a filter depends on its conditions and its formula alone. -/
theorem Equivalent.evaluate_eq {filter other : Filter} (h : filter.Equivalent other)
    (record : Record) : evaluate record filter = evaluate record other := by
  obtain ⟨hleaves, hformula⟩ := h
  rw [evaluate_eq_outcome, evaluate_eq_outcome]
  unfold outcome
  rw [hleaves, hformula]

/-- Chains of OR can be grouped in any way. -/
theorem evaluate_or_assoc (record : Record) (a b c : Filter) :
    evaluate record (or (or a b) c) = evaluate record (or a (or b c)) :=
  have hequivalent : (or (or a b) c).Equivalent (or a (or b c)) :=
    ⟨List.append_assoc .., fun _ => Bool.or_assoc ..⟩
  hequivalent.evaluate_eq record

/-- **Evaluation is a formula over the conditions, with the leftmost error.** If no condition of a
filter fails on a record, the filter has the value of its formula; otherwise it has the error of the
first condition that fails. So filters with the same conditions from left to right and equivalent
formulas have the same truth values and errors. -/
theorem evaluate_eq_formula (record : Record) (filter : Filter) :
    evaluate record filter =
        (match filter.leaves.findSome? (failure? record) with
        | some e => .error e
        | none => .ok (filter.formula (holdsOn record))) ∧
      ∀ other : Filter, filter.leaves = other.leaves →
        (∀ truth, filter.formula truth = other.formula truth) →
        evaluate record filter = evaluate record other :=
  ⟨evaluate_eq_outcome record filter, fun _ hleaves hformula =>
    Equivalent.evaluate_eq ⟨hleaves, hformula⟩ record⟩

/-- A disjunction that already holds has the error of the first condition behind it that fails, and so
has its form by De Morgan's law. -/
theorem evaluate_not_and_not :
    let record := Record.ofList [("a", .boolean true), ("b", .string "x")]
    let first := compare "b" .eq (.string "x")
    let second := compare "a" .lt (.integer 1)
    let third := compare "a" .gt (.integer 5)
    let filter := or first (or second third)
    let other := not (and (not first) (not (or second third)))
    filter.leaves = other.leaves ∧ (∀ truth, filter.formula truth = other.formula truth) ∧
      evaluate record first = .ok true ∧
      evaluate record filter = .error (.unsupportedComparison (.boolean true) .lt (.integer 1)) ∧
      evaluate record filter = evaluate record other := by
  intro record first second third filter other
  have hleaves : filter.leaves = other.leaves := rfl
  have hformula : ∀ truth, filter.formula truth = other.formula truth := by
    intro truth
    simp [filter, other, formula]
  obtain ⟨hvalue, hsame⟩ := evaluate_eq_formula record filter
  refine ⟨hleaves, hformula, ?_, ?_, hsame other hleaves hformula⟩
  · rfl
  · rw [hvalue]
    rfl

end Sift.Filter
