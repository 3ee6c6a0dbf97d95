/-
# The readings that call themselves and each other

The readings of disjunctions, conjunctions, negations and primaries carry in their types that they do
not move the cursor back, and the reading of a list of values needs such a bound to go on. What they
give is described here without the bounds, in one equation for each, so that later proofs do not unfold
them.

Key theorems: `readValuesAfter_eq`, `readDisjunction_val`, `readMoreOr_val`, `readConjunction_val`,
`readMoreAnd_val`, `readNegation_val`, `readPrimary_val`.
-/
import Sift.Filter.Parser
import Sift.Proofs.Text.Matching

namespace Sift.Filter

theorem readValuesAfter_eq (values : List Value) (cursor : Cursor) :
    readValuesAfter values cursor =
      match readValue cursor with
      | (.error e, after) => (.error e, after)
      | (.ok value, after) =>
        match after.matchText [','] with
        | (true, next) => readValuesAfter (value :: values) next
        | (false, next) =>
          match next.matchText [')'] with
          | (true, last) => (.ok (value :: values).reverse, last)
          | (false, last) =>
            (.error (.expectedToken .listContinuation last.position (found last)), last) := by
  rw [readValuesAfter]
  split
  next hvalue => simp only [hvalue]
  next value after hvalue =>
    simp only [hvalue]
    split
    next hcomma => simp only [hcomma]
    next hcomma => exact hcomma ▸ rfl

theorem readDisjunction_val (cursor : Cursor) :
    (readDisjunction cursor).1 =
      match (readConjunction cursor).1 with
      | (.error e, after) => (.error e, after)
      | (.ok left, after) => (readMoreOr left after).1 := by
  rw [readDisjunction]
  rcases readConjunction cursor with ⟨⟨_ | _, _⟩, _⟩ <;> rfl

theorem readMoreOr_val (left : Filter) (cursor : Cursor) :
    (readMoreOr left cursor).1 =
      match cursor.matchKeyword "OR".toList with
      | (false, after) => (.ok left, after)
      | (true, after) =>
        match (readConjunction after).1 with
        | (.error e, next) => (.error e, next)
        | (.ok right, next) => (readMoreOr (.or left right) next).1 := by
  rw [readMoreOr]
  split
  next after hor => simp only [hor]
  next after hor =>
    simp only [hor]
    rcases readConjunction after with ⟨⟨_ | _, _⟩, _⟩ <;> rfl

theorem readConjunction_val (cursor : Cursor) :
    (readConjunction cursor).1 =
      match (readNegation cursor).1 with
      | (.error e, after) => (.error e, after)
      | (.ok left, after) => (readMoreAnd left after).1 := by
  rw [readConjunction]
  rcases readNegation cursor with ⟨⟨_ | _, _⟩, _⟩ <;> rfl

theorem readMoreAnd_val (left : Filter) (cursor : Cursor) :
    (readMoreAnd left cursor).1 =
      match cursor.matchKeyword "AND".toList with
      | (false, after) => (.ok left, after)
      | (true, after) =>
        match (readNegation after).1 with
        | (.error e, next) => (.error e, next)
        | (.ok right, next) => (readMoreAnd (.and left right) next).1 := by
  rw [readMoreAnd]
  split
  next after hand => simp only [hand]
  next after hand =>
    simp only [hand]
    rcases readNegation after with ⟨⟨_ | _, _⟩, _⟩ <;> rfl

theorem readNegation_val (cursor : Cursor) :
    (readNegation cursor).1 =
      match cursor.matchKeyword "NOT".toList with
      | (true, after) => mapOutcome .not (readPrimary after).1
      | (false, after) => (readPrimary after).1 := by
  rw [readNegation]
  split
  next after hnot => simp only [hnot]
  next after hnot => simp only [hnot]

theorem readPrimary_val (cursor : Cursor) :
    (readPrimary cursor).1 =
      match cursor.skipGap.matchText ['('] with
      | (true, inside) =>
        match (readDisjunction inside).1 with
        | (.error e, after) => (.error e, after)
        | (.ok filter, after) =>
          match after.matchText [')'] with
          | (true, last) => (.ok filter, last)
          | (false, last) =>
            (.error (.unclosedParen cursor.skipGap.position (found last)), last)
      | (false, start) =>
        match start.readIdentifier with
        | ([], after) => (.error (.expectedField start.position (found after)), after)
        | (field, after) => readPredicate (String.ofList field) after := by
  rw [readPrimary]
  dsimp only
  split
  next inside hopen =>
    simp only [hopen]
    rcases readDisjunction inside with ⟨⟨_ | _, after⟩, _⟩
    · rfl
    · dsimp only
      split <;> next hlast => simp only [hlast]
  next start hopen =>
    simp only [hopen]
    split <;> next hfield => simp_all

/-- A primary is read alike in front of the spaces and tabs before it and behind them. -/
theorem readPrimary_skipGap (cursor : Cursor) :
    (readPrimary cursor.skipGap).1 = (readPrimary cursor).1 := by
  rw [readPrimary_val, readPrimary_val, Cursor.skipGap_skipGap]

end Sift.Filter
