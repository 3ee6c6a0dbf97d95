/-
# The six comparisons of two values

Two values that compare relate in one of four ways: the first is less than the second, equal to it or
greater, or one of them is read as what is no number and they are in no order. Each of the six
comparisons is a question about this relation, so they agree with each other; when the two values change
places, the relation is turned round. Whether two values compare at all depends on neither the comparison
nor the places: two strings do, and so do two values that both have a numeric reading.

Key definitions: `Comparison.converse`, `Comparison.holdsIn`, `Value.relation?`,
`Value.isIncomparable`, `Value.isUnordered`.
Key theorems: `Value.compare?_eq_map_relation?`, `Value.relation?_swap`,
`Value.isNone_relation?`, `Filter.compareValues_trichotomy`.
-/
import Sift.Filter.Evaluation

namespace Sift

/-! ### Operators and relations -/

namespace Comparison

/-- The operator that asks the same of two things in the other places. -/
def converse : Comparison → Comparison
  | eq => eq
  | ne => ne
  | lt => gt
  | le => ge
  | gt => lt
  | ge => le

/-- Whether an operator holds in a relation. Of things in no order, which is the relation `none`, only
"not equal" holds. -/
def holdsIn (operator : Comparison) : Option Ordering → Bool
  | some order => operator.holds order
  | none => operator == .ne

theorem holdsIn_converse (operator : Comparison) (relation : Option Ordering) :
    operator.converse.holdsIn (relation.map Ordering.swap) = operator.holdsIn relation := by
  rcases relation with _ | _ | _ | _ <;> cases operator <;> rfl

theorem holdsIn_ne (relation : Option Ordering) : ne.holdsIn relation = !eq.holdsIn relation := by
  rcases relation with _ | _ | _ | _ <;> rfl

theorem holdsIn_le (relation : Option Ordering) :
    le.holdsIn relation = (lt.holdsIn relation || eq.holdsIn relation) := by
  rcases relation with _ | _ | _ | _ <;> rfl

theorem holdsIn_ge (relation : Option Ordering) :
    ge.holdsIn relation = (gt.holdsIn relation || eq.holdsIn relation) := by
  rcases relation with _ | _ | _ | _ <;> rfl

/-- Of less, equal and greater one holds of things in some order, and none of things in no order. -/
theorem count_holdsIn (relation : Option Ordering) :
    [lt.holdsIn relation, eq.holdsIn relation, gt.holdsIn relation].count true =
      if relation.isNone then 0 else 1 := by
  rcases relation with _ | _ | _ | _ <;> rfl

end Comparison

/-! ### Numbers -/

namespace Binary64

/-- Numbers that change places change their order. -/
theorem compare?_swap (a b : Binary64) : compare? b a = (compare? a b).map Ordering.swap := by
  unfold compare?
  rcases a.place? with _ | i
  · rcases b.place? with _ | j <;> rfl
  · rcases b.place? with _ | j
    · rfl
    · exact congrArg some Std.OrientedCmp.eq_swap

/-- Two numbers are in no order exactly when one of them is none. -/
theorem isNone_compare? : ∀ a b : Binary64, (compare? a b).isNone = (a == .nan || b == .nan)
  | .nan, .nan | .nan, .signed .. | .signed .., .nan | .signed .., .signed .. => rfl

/-- How two numeric readings relate, if there are both. -/
def relateReadings : Option Binary64 → Option Binary64 → Option (Option Ordering)
  | some a, some b => some (compare? a b)
  | _, _ => none

theorem relateReadings_swap : ∀ left right : Option Binary64,
    relateReadings right left = (relateReadings left right).map (Option.map Ordering.swap)
  | some a, some b => congrArg some (compare?_swap a b)
  | none, none | none, some _ | some _, none => rfl

theorem isNone_relateReadings : ∀ left right : Option Binary64,
    (relateReadings left right).isNone = (left.isNone || right.isNone)
  | some _, some _ | none, none | none, some _ | some _, none => rfl

theorem isNone_of_relateReadings {relation : Option Ordering} :
    ∀ {left right : Option Binary64}, relateReadings left right = some relation →
      relation.isNone = (left == some .nan || right == some .nan)
  | some a, some b, h => Option.some.inj h ▸ isNone_compare? a b

end Binary64

/-! ### How two values relate -/

namespace Value

/-- Whether both of two values are strings. -/
def bothStrings : Value → Value → Bool
  | string _, string _ => true
  | _, _ => false

/-- How the first of two values relates to the second, if they compare: by their characters when both
are strings, and otherwise by their numeric readings. -/
def relation? (left right : Value) : Option (Option Ordering) :=
  match left, right with
  | string a, string b => some (some (compare a b))
  | _, _ => Binary64.relateReadings left.numeric? right.numeric?

theorem exists_of_bothStrings : ∀ {left right : Value}, bothStrings left right = true →
    ∃ a b, left = string a ∧ right = string b
  | string a, string b, _ => ⟨a, b, rfl, rfl⟩

theorem bothStrings_comm (left right : Value) : bothStrings left right = bothStrings right left := by
  cases left <;> cases right <;> rfl

theorem relation?_of_not_bothStrings {left right : Value} (h : bothStrings left right = false) :
    left.relation? right = Binary64.relateReadings left.numeric? right.numeric? := by
  unfold relation?
  split
  · cases h
  · rfl

theorem compareNumbers_eq_holdsIn (a : Binary64) (operator : Comparison) (b : Binary64) :
    compareNumbers a operator b = operator.holdsIn (Binary64.compare? a b) := by
  unfold compareNumbers
  rcases Binary64.compare? a b with _ | order <;> rfl

/-- A comparison asks how two values relate. -/
theorem compare?_eq_map_relation? (left : Value) (operator : Comparison) (right : Value) :
    left.compare? operator right = (left.relation? right).map operator.holdsIn := by
  unfold compare?
  split
  next => rfl
  next hstrings =>
    have hnot : bothStrings left right = false := by
      refine Bool.eq_false_iff.mpr fun h => ?_
      obtain ⟨a, b, hleft, hright⟩ := exists_of_bothStrings h
      exact hstrings a b hleft hright
    rw [relation?_of_not_bothStrings hnot]
    rcases left.numeric? with _ | a
    · rfl
    · rcases right.numeric? with _ | b
      · rfl
      · exact congrArg some (compareNumbers_eq_holdsIn a operator b)

/-- Values that change places change how they relate. -/
theorem relation?_swap (left right : Value) :
    right.relation? left = (left.relation? right).map (Option.map Ordering.swap) := by
  rcases hstrings : bothStrings left right with _ | _
  · have hswapped : bothStrings right left = false := bothStrings_comm left right ▸ hstrings
    rw [relation?_of_not_bothStrings hstrings, relation?_of_not_bothStrings hswapped]
    exact Binary64.relateReadings_swap _ _
  · obtain ⟨a, b, rfl, rfl⟩ := exists_of_bothStrings hstrings
    exact congrArg (some ∘ some) Std.OrientedCmp.eq_swap

/-! ### Values that do not compare, and values in no order -/

/-- Whether a value has no numeric reading: a truth value, or a string that is no numeral. -/
def isUnread : Value → Bool
  | boolean _ => true
  | string s => (Binary64.read? s.toList).isNone
  | integer _ | float _ => false

/-- Whether no comparison of two values is supported. -/
def isIncomparable (left right : Value) : Bool :=
  !bothStrings left right && (left.isUnread || right.isUnread)

/-- Whether two values compare as numbers one of which is none. -/
def isUnordered (left right : Value) : Bool :=
  !bothStrings left right && (left.numeric? == some .nan || right.numeric? == some .nan)

theorem isNone_numeric? (value : Value) : value.numeric?.isNone = value.isUnread := by
  cases value <;> rfl

/-- Two values do not relate exactly when they are not both strings and one has no numeric reading. -/
theorem isNone_relation? (left right : Value) :
    (left.relation? right).isNone = left.isIncomparable right := by
  unfold isIncomparable
  rcases hstrings : bothStrings left right with _ | _
  · rw [relation?_of_not_bothStrings hstrings, Binary64.isNone_relateReadings, isNone_numeric?,
      isNone_numeric?]
    rfl
  · obtain ⟨a, b, rfl, rfl⟩ := exists_of_bothStrings hstrings
    rfl

/-- Values that compare are in no order exactly when one of them is read as what is no number. -/
theorem isUnordered_of_relation? {left right : Value} {relation : Option Ordering}
    (h : left.relation? right = some relation) : left.isUnordered right = relation.isNone := by
  unfold isUnordered
  rcases hstrings : bothStrings left right with _ | _
  · rw [relation?_of_not_bothStrings hstrings] at h
    rw [Binary64.isNone_of_relateReadings h]
    rfl
  · obtain ⟨a, b, rfl, rfl⟩ := exists_of_bothStrings hstrings
    exact Option.some.inj h ▸ rfl

/-- A text that reads as what is no number is in no order with a number, but in order with a text. -/
example : isUnordered (string "nan") (integer 1) = true ∧
    isUnordered (string "nan") (string "1") = false := by decide

/-! ### Equality for membership -/

theorem holdsIn_eq_compare? (a b : Binary64) :
    Comparison.eq.holdsIn (Binary64.compare? a b) = a.same b := by
  rw [← compareNumbers_eq_holdsIn, compareNumbers_eq]

theorem holdsIn_eq_compare (a b : String) :
    Comparison.eq.holdsIn (some (compare a b)) = (a == b) := by
  rw [Bool.eq_iff_iff, beq_iff_eq]
  exact beq_iff_eq.trans Std.LawfulEqCmp.compare_eq_iff_eq

theorem same_ofInt (n : Int) : (Binary64.ofInt n).same (Binary64.ofInt n) = true := by
  have hself : ∀ code : Int, compare code code = .eq := fun _ => Std.ReflCmp.compare_self
  unfold Binary64.same Binary64.compare? Binary64.ofInt Binary64.ofRatio Binary64.place?
  simp only [hself, beq_self_eq_true]

/-- Values that are the same have the same type, and are equal or are numbers that are the same. -/
theorem cases_of_same {left right : Value} (h : left.same right = true) :
    (∃ truth, left = boolean truth ∧ right = boolean truth) ∨
      (∃ n, left = integer n ∧ right = integer n) ∨
      (∃ x y, left = float x ∧ right = float y ∧ x.same y = true) ∨
      ∃ s, left = string s ∧ right = string s := by
  rcases left with a | m | x | s <;> rcases right with b | n | y | t <;>
    try exact absurd h Bool.false_ne_true
  · exact .inl ⟨a, rfl, congrArg boolean (eq_of_beq h).symm⟩
  · exact .inr (.inl ⟨m, rfl, congrArg integer (eq_of_beq h).symm⟩)
  · exact .inr (.inr (.inl ⟨x, y, rfl, rfl, h⟩))
  · exact .inr (.inr (.inr ⟨s, rfl, congrArg string (eq_of_beq h).symm⟩))

/-- Values that are the same have the same numeric readings. -/
theorem same_of_numeric? {left right : Value} {a b : Binary64} (h : left.same right = true)
    (hstrings : bothStrings left right = false) (ha : left.numeric? = some a)
    (hb : right.numeric? = some b) : a.same b = true := by
  obtain ⟨_, rfl, rfl⟩ | ⟨n, rfl, rfl⟩ | ⟨x, y, rfl, rfl, hsame⟩ | ⟨_, rfl, rfl⟩ := cases_of_same h
  · cases ha
  · obtain rfl := Option.some.inj ha
    obtain rfl := Option.some.inj hb
    exact same_ofInt n.toInt
  · obtain rfl := Option.some.inj ha
    obtain rfl := Option.some.inj hb
    exact hsame
  · cases hstrings

theorem equals_of_not_bothStrings {left right : Value} (h : bothStrings left right = false) :
    left.equals right = (left.same right ||
      match left.numeric?, right.numeric? with
      | some a, some b => a.same b
      | _, _ => false) := by
  unfold equals
  split
  · cases h
  · rfl

/-- Values that compare are equal when the comparison says so, and others when they are the same. -/
theorem equals_eq (left right : Value) : left.equals right =
    match left.relation? right with
    | some relation => Comparison.eq.holdsIn relation
    | none => left.same right := by
  rcases hstrings : bothStrings left right with _ | _
  · rw [equals_of_not_bothStrings hstrings, relation?_of_not_bothStrings hstrings]
    rcases ha : left.numeric? with _ | a
    · exact Bool.or_false _
    rcases hb : right.numeric? with _ | b
    · exact Bool.or_false _
    show (left.same right || a.same b) = Comparison.eq.holdsIn (Binary64.compare? a b)
    rw [holdsIn_eq_compare?]
    rcases hsame : left.same right with _ | _
    · rfl
    · rw [same_of_numeric? hsame hstrings ha hb]
      rfl
  · obtain ⟨a, b, rfl, rfl⟩ := exists_of_bothStrings hstrings
    exact (Bool.or_self _).trans (holdsIn_eq_compare a b).symm

/-- Of values that do not compare only truth values can be equal. -/
theorem equals_iff_of_relation?_eq_none {left right : Value} (h : left.relation? right = none) :
    left.equals right = true ↔ ∃ truth, left = boolean truth ∧ right = boolean truth := by
  rw [equals_eq, h]
  constructor
  · intro hsame
    obtain hboolean | ⟨_, rfl, rfl⟩ | ⟨_, _, rfl, rfl, _⟩ | ⟨_, rfl, rfl⟩ := cases_of_same hsame
    · exact hboolean
    · cases h
    · cases h
    · cases h
  · rintro ⟨truth, rfl, rfl⟩
    exact beq_self_eq_true truth

end Value

/-! ### Comparisons in filters -/

namespace Filter

theorem compareValues_of_relation?_eq_none {left right : Value} (operator : Comparison)
    (h : left.relation? right = none) :
    compareValues left operator right = .error (.unsupportedComparison left operator right) := by
  unfold compareValues
  rw [Value.compare?_eq_map_relation?, h]
  rfl

theorem compareValues_of_relation?_eq_some {left right : Value} {relation : Option Ordering}
    (operator : Comparison) (h : left.relation? right = some relation) :
    compareValues left operator right = .ok (operator.holdsIn relation) := by
  unfold compareValues
  rw [Value.compare?_eq_map_relation?, h]
  rfl

/-- **The six comparisons agree.** Two values that are not both strings, one of which has no numeric
reading, are compared by no operator in either order. Any other two values are compared by all operators
in both orders: an operator holds of them when its converse holds of them in the other order, "not equal"
is the negation of "equal", "at most" and "at least" are the disjunctions with "equal", and exactly one of
less, equal and greater holds, unless the values compare as numbers and one of them is none, in which
case none of the three does. -/
theorem compareValues_trichotomy (left right : Value) :
    if left.isIncomparable right then
      ∀ operator, compareValues left operator right =
          .error (.unsupportedComparison left operator right) ∧
        compareValues right operator left = .error (.unsupportedComparison right operator left)
    else
      ∃ holds : Comparison → Bool,
        (∀ operator, compareValues left operator right = .ok (holds operator) ∧
          compareValues right operator.converse left = .ok (holds operator)) ∧
        holds .ne = !holds .eq ∧
        holds .le = (holds .lt || holds .eq) ∧
        holds .ge = (holds .gt || holds .eq) ∧
        [holds .lt, holds .eq, holds .gt].count true = if left.isUnordered right then 0 else 1 := by
  have hswap := Value.relation?_swap left right
  rw [← Value.isNone_relation?]
  rcases hrelation : left.relation? right with _ | relation
  · rw [hrelation] at hswap
    exact fun operator => ⟨compareValues_of_relation?_eq_none operator hrelation,
      compareValues_of_relation?_eq_none operator hswap⟩
  · rw [hrelation] at hswap
    refine ⟨(·.holdsIn relation), fun operator => ⟨?_, ?_⟩, Comparison.holdsIn_ne relation,
      Comparison.holdsIn_le relation, Comparison.holdsIn_ge relation, ?_⟩
    · exact compareValues_of_relation?_eq_some operator hrelation
    · rw [compareValues_of_relation?_eq_some operator.converse hswap, Comparison.holdsIn_converse]
    · rw [Value.isUnordered_of_relation? hrelation]
      exact Comparison.count_holdsIn relation

end Filter

end Sift
