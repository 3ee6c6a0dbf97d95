/-
# Which filters survive their canonical text

A filter that was read from a text is meant to be read again from its canonical text, as a filter that
no record tells apart from it. This holds exactly when three things do: the filter has no infinite
number, which only a numeral of hundreds of digits denotes; it has the field NOT in negated memberships
only; and for these it does not matter that NOT NOT IN negates a membership, which for a record
without the field NOT is true and not false.

Key theorems: `evaluate_regroup`, `exists_parse_write_iff`.
-/
import Sift.Proofs.Filter.Unreadable

namespace Sift.Filter

/-- On a record with the field NOT, a negated membership is the negation of a membership. -/
theorem evaluate_regroup {record : Record} {value : Value} (h : record.get? "NOT" = some value) :
    ∀ filter : Filter, evaluate record filter.regroup = evaluate record filter
  | compare .. => rfl
  | between .. => rfl
  | matching .. => rfl
  | member field negated values => by
    unfold regroup
    split
    next heq =>
      obtain ⟨rfl, rfl⟩ := heq
      simp [evaluate, onField, h, pure, Except.pure, bind, Except.bind]
    next => rfl
  | and left right => by
    rw [regroup, evaluate, evaluate_regroup h left, evaluate_regroup h right, evaluate]
  | or left right => by
    rw [regroup, evaluate, evaluate_regroup h left, evaluate_regroup h right, evaluate]
  | not operand => by
    rw [regroup, evaluate, evaluate_regroup h operand, evaluate]

/-- A filter that was read can be written when its numbers are finite. -/
theorem wellFormed_isWritable_iff {filter : Filter} (h : filter.WellFormed Value.IsReadable) :
    filter.WellFormed Value.IsWritable ↔
      ∀ x, Value.float x ∈ filter.literals → x.isFinite = true := by
  constructor
  · exact fun hwritable x hx => hwritable.literals _ hx
  · intro hfinite
    refine h.imp fun value hvalue hreadable => ?_
    cases value with
    | float x => exact hfinite x hvalue
    | _ => exact hreadable

/-- **When a canonical text stands for its filter.** The canonical text of a filter that was read is
read again as a filter with the same truth values and failures on all records if and only if the filter
has no infinite number, has the field NOT in negated memberships only, and does not distinguish them
from negations of memberships on records without that field. -/
theorem exists_parse_write_iff {text : String} {filter : Filter} (h : parse text = .ok filter) :
    (∃ filter', parse (String.ofList (write filter)) = .ok filter' ∧
      ∀ record : Record, (evaluate record filter').toOption = (evaluate record filter).toOption) ↔
    (∀ x, Value.float x ∈ filter.literals → x.isFinite = true) ∧ filter.OnlyExcludesNot ∧
      ∀ record : Record, record.get? "NOT" = none →
        (evaluate record filter.regroup).toOption = (evaluate record filter).toOption := by
  obtain ⟨tokens, hderives, -⟩ := spells_of_parse h
  have hreadable := wellFormed_of_derives hderives
  rw [← wellFormed_isWritable_iff hreadable]
  constructor
  · rintro ⟨filter', hparse, hevaluate⟩
    have hgood : filter.WellFormed Value.IsWritable ∧ filter.OnlyExcludesNot :=
      Classical.byContradiction fun hbad => parse_write_ne_ok hreadable hbad filter' hparse
    refine ⟨hgood.1, hgood.2, fun record _ => ?_⟩
    rw [parse_write_of_onlyExcludesNot hgood.1 hgood.2] at hparse
    rw [← hevaluate record, ← Except.ok.inj hparse, toOption_evaluate_mapLiterals]
  · rintro ⟨hwritable, hnot, hregroup⟩
    refine ⟨_, parse_write_of_onlyExcludesNot hwritable hnot, fun record => ?_⟩
    rw [toOption_evaluate_mapLiterals]
    rcases hfield : record.get? "NOT" with _ | value
    · exact hregroup record hfield
    · rw [evaluate_regroup hfield]

/-- A comparison with the integer 1, without any spaces. -/
theorem parse_eq_one {text : String} {field : String} (hname : IsName field)
    (htext : Text.trim text.toList = field.toList ++ ['=', '1']) :
    parse text = .ok (compare field .eq (.integer 1)) := by
  have hbare : IsBare ['1'] := by decide
  have hvalue : Denotes (.bare ['1']) (.integer 1) := .integer hbare (by decide)
  have hderives : Derives .primary [.name field, .sign .eq, .bare ['1']]
      (compare field .eq (.integer 1)) := .predicate hname (.compare .eq hvalue)
  refine parse_of_spells ⟨_, .ofConjunction (.ofNegation (.ofPrimary hderives)), ?_⟩
  rw [htext]
  have hborder : ∀ c ∈ ('=' :: ['1']).head?, Cursor.isNameCharacter c = false :=
    fun _ hc => Option.some.inj hc ▸ rfl
  refine Spaced.token_append (.name field) ⟨hborder, fun _ _ => ⟨.eq, ['1'], rfl⟩⟩ ?_
  refine Spaced.token_append (.sign .eq) trivial ?_
  exact Spaced.token_append (.bare ['1']) trivial rfl

/-- A comparison of any other field survives its canonical text. -/
theorem exists_parse_write_a_eq_one :
    parse "a=1" = .ok (compare "a" .eq (.integer 1)) ∧
      ((∃ filter', parse (String.ofList (write (compare "a" .eq (.integer 1)))) = .ok filter' ∧
        ∀ record : Record, (evaluate record filter').toOption =
          (evaluate record (compare "a" .eq (.integer 1))).toOption) ↔
      (∀ x, Value.float x ∈ (compare "a" .eq (.integer 1)).literals → x.isFinite = true) ∧
        (compare "a" .eq (.integer 1)).OnlyExcludesNot ∧
        ∀ record : Record, record.get? "NOT" = none →
          (evaluate record (compare "a" .eq (.integer 1)).regroup).toOption =
            (evaluate record (compare "a" .eq (.integer 1))).toOption) :=
  have hparse : parse "a=1" = .ok (compare "a" .eq (.integer 1)) :=
    parse_eq_one (by decide) (by decide)
  ⟨hparse, exists_parse_write_iff hparse⟩

/-- A comparison of the field NOT, which is read where its sign follows directly, does not: its
canonical text has a space there and is not read. -/
theorem not_exists_parse_write_not_eq_one :
    parse "NOT=1" = .ok (compare "NOT" .eq (.integer 1)) ∧
      ¬ ∃ filter', parse (String.ofList (write (compare "NOT" .eq (.integer 1)))) = .ok filter' ∧
        ∀ record : Record, (evaluate record filter').toOption =
          (evaluate record (compare "NOT" .eq (.integer 1))).toOption := by
  refine ⟨parse_eq_one (by decide) (by decide), ?_⟩
  rintro ⟨filter', hparse, -⟩
  refine parse_write_ne_ok (by decide) ?_ filter' hparse
  rintro ⟨-, hnot⟩
  exact hnot rfl

end Sift.Filter
