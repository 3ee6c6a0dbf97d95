/-
# Literals read back

The literal of a floating-point number may be the numeral of an integer of 64 bits; it then denotes
the integer. The integer and the number are the same as far as comparisons can tell, because the
numbers that they are compared as have the same place.

Key definitions: `Value.IsReadable`, `Value.IsWritable`, `Value.reread`.
Key theorems: `Value.compare?_reread`, `Value.equals_reread`.
-/
import Sift.Proofs.Binary64.PlainNumeral
import Sift.Proofs.Value.Relation

namespace Sift.Value

/-- Whether a text can denote a value: a string without quotes in it, an integer or a number. -/
def IsReadable : Value → Prop
  | boolean _ => False
  | integer _ => True
  | float x => x.isNan = false
  | string s => '\'' ∉ s.toList

/-- Whether the literal of a value denotes a value of a filter: a string without quotes in it, an
integer or a finite number. -/
def IsWritable : Value → Prop
  | boolean _ => False
  | integer _ => True
  | float x => x.isFinite = true
  | string s => '\'' ∉ s.toList

instance : (value : Value) → Decidable value.IsReadable
  | boolean _ => inferInstanceAs (Decidable False)
  | integer _ => inferInstanceAs (Decidable True)
  | float x => inferInstanceAs (Decidable (x.isNan = false))
  | string s => inferInstanceAs (Decidable ('\'' ∉ s.toList))

instance : (value : Value) → Decidable value.IsWritable
  | boolean _ => inferInstanceAs (Decidable False)
  | integer _ => inferInstanceAs (Decidable True)
  | float x => inferInstanceAs (Decidable (x.isFinite = true))
  | string s => inferInstanceAs (Decidable ('\'' ∉ s.toList))

/-- The value that the literal of a value denotes: an integer in place of a floating-point number
whose numeral is one of an integer of 64 bits. -/
def reread : Value → Value
  | float x =>
    match Text.readInt64? (x.write Binary64.plain) with
    | some n => integer n
    | none => float x
  | value => value

/-- What a value is when it is not what its literal denotes. -/
theorem reread_eq_or (value : Value) : value.reread = value ∨
    ∃ x n, value = float x ∧ Text.readInt64? (x.write Binary64.plain) = some n ∧
      value.reread = integer n ∧ x.place? = (Binary64.ofInt n.toInt).place? := by
  rcases value with _ | _ | x | _
  · exact .inl rfl
  · exact .inl rfl
  · rcases hinteger : Text.readInt64? (x.write Binary64.plain) with _ | n
    · exact .inl (by simp [reread, hinteger])
    · refine .inr ⟨x, n, rfl, hinteger, by simp [reread, hinteger], ?_⟩
      obtain ⟨y, hy, hplace⟩ := Binary64.exists_place?_of_readInt64? hinteger
      rw [Binary64.read?_write_plain] at hy
      rwa [Option.some.inj hy]
  · exact .inl rfl

/-! ### Comparisons -/

/-- Numbers with the same place compare alike. -/
theorem compare?_congr {a b c : Binary64} (h : b.place? = c.place?) :
    Binary64.compare? a b = Binary64.compare? a c := by
  unfold Binary64.compare?
  rw [h]

/-- A value relates to a literal as to what the literal denotes. -/
theorem relation?_reread (left right : Value) : left.relation? right.reread = left.relation? right := by
  rcases reread_eq_or right with h | ⟨x, n, rfl, -, h, hplace⟩
  · rw [h]
  · have hinteger : bothStrings left (integer n) = false := by cases left <;> rfl
    have hfloat : bothStrings left (float x) = false := by cases left <;> rfl
    rw [h, relation?_of_not_bothStrings hinteger, relation?_of_not_bothStrings hfloat]
    rcases left.numeric? with _ | a
    · rfl
    · exact congrArg some (compare?_congr hplace.symm)

/-- A value compares with a literal as with what the literal denotes. -/
theorem compare?_reread (left : Value) (operator : Comparison) (right : Value) :
    left.compare? operator right.reread = left.compare? operator right := by
  rw [compare?_eq_map_relation?, compare?_eq_map_relation?, relation?_reread]

/-- A value equals a literal when it equals what the literal denotes. -/
theorem equals_reread (left right : Value) : left.equals right.reread = left.equals right := by
  have hrelation := relation?_reread left right
  rcases hright : left.relation? right with _ | relation
  · rw [hright] at hrelation
    rw [Bool.eq_iff_iff, equals_iff_of_relation?_eq_none hrelation,
      equals_iff_of_relation?_eq_none hright]
    rcases reread_eq_or right with h | ⟨x, n, rfl, -, h, -⟩
    · rw [h]
    · simp [h]
  · rw [equals_eq, equals_eq, hrelation, hright]

end Sift.Value
