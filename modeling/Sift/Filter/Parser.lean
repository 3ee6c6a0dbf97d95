/-
# Reading filters

OR binds weaker than AND, AND weaker than NOT; chains of one operator group to the left, and NOT
applies to one condition or one filter in parentheses. Every function takes the cursor from which it
reads and gives the cursor that it reached, in success and in failure, so that a reading can be
taken up again where it stopped. That no function moves the cursor back is part of the types of
those that call each other.

Key definitions: `Filter.readValue`, `Filter.readPredicate`, `Filter.readDisjunction`,
`Filter.startCursor`, `Filter.parseFrom`, `Filter.parse`.
-/
import Sift.Filter.Basic
import Sift.Filter.ParseError
import Sift.Text.Cursor

namespace Sift.Filter

/-- What a reading gives: a result or an error, and the cursor that was reached. -/
abbrev Outcome (α : Type) := Except ParseError α × Cursor

/-- The description of what comes next. -/
def found (cursor : Cursor) : String :=
  String.ofList cursor.describe

/-- The error for a quoted string that cannot be read at a cursor. -/
def quoteError (cursor : Cursor) : QuoteError → ParseError
  | .missing => .expectedToken .quotedString cursor.position (found cursor)
  | .unterminated => .unterminatedString cursor.position

/-- The value that a token without quotes denotes: an integer, another number, or itself. -/
def tokenValue (token : List Char) : Value :=
  match Text.readInt64? token with
  | some n => .integer n
  | none =>
    match Binary64.read? token with
    | some x => .float x
    | none => .string (String.ofList token)

/-- A value: a string in quotes or a token. -/
def readValue (cursor : Cursor) : Outcome Value :=
  let cursor := cursor.skipGap
  if cursor.rest.head? = some '\'' then
    match cursor.readQuoted with
    | (.ok content, after) => (.ok (.string (String.ofList content)), after)
    | (.error error, after) => (.error (quoteError after error), after)
  else
    match cursor.readNumber with
    | ([], after) => (.error (.expectedValue cursor.position (found after)), after)
    | (token, after) => (.ok (tokenValue token), after)

theorem left_readValue_le (cursor : Cursor) : (readValue cursor).2.left ≤ cursor.left := by
  have hgap := Cursor.left_skipGap_le cursor
  have hquoted := Cursor.left_readQuoted_le cursor.skipGap
  have hnumber := Cursor.left_readNumber_le cursor.skipGap
  simp only [readValue]
  split
  · split <;> simp_all <;> omega
  · split <;> simp_all <;> omega

/-- A bound for the cursor of a pair, once the pair is known. -/
theorem left_le_of_eq {α : Type} {pair : α × Cursor} {a : α} {cursor : Cursor} {n : Nat}
    (h : pair = (a, cursor)) (hle : pair.2.left ≤ n) : cursor.left ≤ n := by
  rw [h] at hle
  exact hle

/-- The values of a list after its opening parenthesis, up to its closing one; those read before
stand last first in `values`. -/
def readValuesAfter (values : List Value) (cursor : Cursor) : Outcome (List Value) :=
  match hvalue : readValue cursor with
  | (.error e, after) => (.error e, after)
  | (.ok value, after) =>
    have hafter : after.left ≤ cursor.left := left_le_of_eq hvalue (left_readValue_le cursor)
    match hcomma : after.matchText [','] with
    | (true, next) =>
      have hnext : next.left < cursor.left :=
        Nat.lt_of_lt_of_le (Cursor.left_lt_of_matchText (by simp) hcomma) hafter
      readValuesAfter (value :: values) next
    | (false, next) =>
      match next.matchText [')'] with
      | (true, last) => (.ok (value :: values).reverse, last)
      | (false, last) =>
        (.error (.expectedToken .listContinuation last.position (found last)), last)
termination_by cursor.left

/-- A list of values in parentheses. -/
def readValues (cursor : Cursor) : Outcome (List Value) :=
  match cursor.matchText ['('] with
  | (true, after) => readValuesAfter [] after
  | (false, after) => (.error (.expectedToken .listStart after.position (found after)), after)

/-- The operand of a pattern operator, which must be a string. -/
def readPatternText (operator : String) (cursor : Cursor) : Outcome String :=
  let cursor := cursor.skipGap
  match readValue cursor with
  | (.error e, after) => (.error e, after)
  | (.ok (.string source), after) => (.ok source, after)
  | (.ok _, after) => (.error (.patternNotString operator cursor.position), after)

/-- The first of some operators that comes next. -/
def readOperator (operators : List Comparison) (cursor : Cursor) : Option Comparison × Cursor :=
  match operators with
  | [] => (none, cursor)
  | operator :: operators =>
    match cursor.matchText operator.symbol with
    | (true, after) => (some operator, after)
    | (false, after) => readOperator operators after

/-- Applies a function to a result. -/
def mapOutcome {α β : Type} (f : α → β) : Outcome α → Outcome β
  | (.ok a, cursor) => (.ok (f a), cursor)
  | (.error e, cursor) => (.error e, cursor)

/-- The bounds of BETWEEN. -/
def readBounds (field : String) (cursor : Cursor) : Outcome Filter :=
  match readValue cursor with
  | (.error e, after) => (.error e, after)
  | (.ok lower, after) =>
    match after.matchKeyword "AND".toList with
    | (true, next) => mapOutcome (between field lower) (readValue next)
    | (false, next) => (.error (.betweenWithoutAnd next.position (found next)), next)

/-- A comparison operator and its value. -/
def readComparison (field : String) (cursor : Cursor) : Outcome Filter :=
  match readOperator Comparison.all cursor with
  | (some operator, after) => mapOutcome (compare field operator) (readValue after)
  | (none, after) => (.error (.expectedOperator field cursor.position (found after)), after)

/-- What follows the name of a field. -/
def readPredicate (field : String) (cursor : Cursor) : Outcome Filter :=
  match cursor.matchKeyword "IN".toList with
  | (true, after) => mapOutcome (member field false) (readValues after)
  | (false, cursor) =>
  match cursor.matchKeyword "NOT".toList with
  | (true, after) =>
    match after.matchKeyword "IN".toList with
    | (true, after) => mapOutcome (member field true) (readValues after)
    | (false, after) => (.error (.expectedToken .inAfterNot after.position (found after)), after)
  | (false, cursor) =>
  match cursor.matchKeyword "BETWEEN".toList with
  | (true, after) => readBounds field after
  | (false, cursor) =>
  match cursor.matchKeyword "LIKE".toList with
  | (true, after) => mapOutcome (matching field ∘ .like) (readPatternText "LIKE" after)
  | (false, cursor) =>
  match cursor.matchKeyword "REGEXP".toList with
  | (true, after) => mapOutcome (matching field ∘ .regexp) (readPatternText "REGEXP" after)
  | (false, cursor) => readComparison field cursor

theorem left_readValuesAfter_le (values : List Value) (cursor : Cursor) :
    (readValuesAfter values cursor).2.left ≤ cursor.left := by
  fun_induction readValuesAfter values cursor with
  | case1 values cursor e after hvalue => exact left_le_of_eq hvalue (left_readValue_le cursor)
  | case2 values cursor value after hvalue hafter next hcomma hnext ih =>
    exact Nat.le_trans ih (Nat.le_of_lt hnext)
  | case3 values cursor value after hvalue hafter next hcomma last hclose
  | case4 values cursor value after hvalue hafter next hcomma last hclose =>
    exact Nat.le_trans (left_le_of_eq hclose (Cursor.left_matchText_le [')'] next))
      (Nat.le_trans (left_le_of_eq hcomma (Cursor.left_matchText_le [','] after)) hafter)

theorem left_readValues_le (cursor : Cursor) : (readValues cursor).2.left ≤ cursor.left := by
  have h := Cursor.left_matchText_le ['('] cursor
  rw [readValues]
  split
  next after heq =>
    rw [heq] at h
    exact Nat.le_trans (left_readValuesAfter_le _ _) h
  next heq => rwa [heq] at h

theorem left_readPatternText_le (operator : String) (cursor : Cursor) :
    (readPatternText operator cursor).2.left ≤ cursor.left := by
  have h := Nat.le_trans (left_readValue_le cursor.skipGap) (Cursor.left_skipGap_le cursor)
  simp only [readPatternText]
  split <;> simp_all

theorem left_readOperator_le (operators : List Comparison) (cursor : Cursor) :
    (readOperator operators cursor).2.left ≤ cursor.left := by
  induction operators generalizing cursor with
  | nil => exact Nat.le_refl _
  | cons operator operators ih =>
    have h := Cursor.left_matchText_le operator.symbol cursor
    rw [readOperator]
    split
    next heq => rwa [heq] at h
    next heq =>
      rw [heq] at h
      exact Nat.le_trans (ih _) h

theorem mapOutcome_snd {α β : Type} (f : α → β) (outcome : Outcome α) :
    (mapOutcome f outcome).2 = outcome.2 := by
  rcases outcome with ⟨_ | _, _⟩ <;> rfl

theorem left_readBounds_le (field : String) (cursor : Cursor) :
    (readBounds field cursor).2.left ≤ cursor.left := by
  have hvalue := left_readValue_le cursor
  rw [readBounds]
  split
  next heq => rwa [heq] at hvalue
  next after heq =>
    rw [heq] at hvalue
    have hand := Cursor.left_matchKeyword_le "AND".toList after
    split
    next heq =>
      rw [heq] at hand
      rw [mapOutcome_snd]
      exact Nat.le_trans (left_readValue_le _) (Nat.le_trans hand hvalue)
    next heq =>
      rw [heq] at hand
      exact Nat.le_trans hand hvalue

theorem left_readComparison_le (field : String) (cursor : Cursor) :
    (readComparison field cursor).2.left ≤ cursor.left := by
  have h := left_readOperator_le Comparison.all cursor
  rw [readComparison]
  split
  next heq =>
    rw [heq] at h
    rw [mapOutcome_snd]
    exact Nat.le_trans (left_readValue_le _) h
  next heq => rwa [heq] at h

/-- Reading a predicate does not move the cursor back. -/
theorem left_readPredicate_le (field : String) (cursor : Cursor) :
    (readPredicate field cursor).2.left ≤ cursor.left := by
  have hkeyword := fun (keyword : List Char) {cursor cursor' : Cursor} {b : Bool}
      (h : cursor.matchKeyword keyword = (b, cursor')) =>
    left_le_of_eq h (Cursor.left_matchKeyword_le keyword cursor)
  rw [readPredicate]
  split
  next heq =>
    rw [mapOutcome_snd]
    exact Nat.le_trans (left_readValues_le _) (hkeyword _ heq)
  next h₁ =>
  have h₁ := hkeyword _ h₁
  split
  next heq =>
    have hafter := Nat.le_trans (hkeyword _ heq) h₁
    split
    next heq' =>
      rw [mapOutcome_snd]
      exact Nat.le_trans (left_readValues_le _) (Nat.le_trans (hkeyword _ heq') hafter)
    next heq' => exact Nat.le_trans (hkeyword _ heq') hafter
  next h₂ =>
  have h₂ := Nat.le_trans (hkeyword _ h₂) h₁
  split
  next heq => exact Nat.le_trans (left_readBounds_le _ _) (Nat.le_trans (hkeyword _ heq) h₂)
  next h₃ =>
  have h₃ := Nat.le_trans (hkeyword _ h₃) h₂
  split
  next heq =>
    rw [mapOutcome_snd]
    exact Nat.le_trans (left_readPatternText_le _ _) (Nat.le_trans (hkeyword _ heq) h₃)
  next h₄ =>
  have h₄ := Nat.le_trans (hkeyword _ h₄) h₃
  split
  next heq =>
    rw [mapOutcome_snd]
    exact Nat.le_trans (left_readPatternText_le _ _) (Nat.le_trans (hkeyword _ heq) h₄)
  next h₅ => exact Nat.le_trans (left_readComparison_le _ _) (Nat.le_trans (hkeyword _ h₅) h₄)

/-- An outcome whose cursor is not behind the one it was read from. -/
abbrev Advance (cursor : Cursor) (α : Type) :=
  { outcome : Outcome α // outcome.2.left ≤ cursor.left }

mutual

/-- Conjunctions joined by OR. -/
def readDisjunction (cursor : Cursor) : Advance cursor Filter :=
  match readConjunction cursor with
  | ⟨(.error e, after), h⟩ => ⟨(.error e, after), h⟩
  | ⟨(.ok left, after), h⟩ =>
    let outcome := readMoreOr left after
    ⟨outcome.1, Nat.le_trans outcome.2 h⟩
termination_by 6 * cursor.left + 5
decreasing_by
  · omega
  · have : after.left ≤ cursor.left := h
    omega

/-- The further operands of an OR with the given left side. -/
def readMoreOr (left : Filter) (cursor : Cursor) : Advance cursor Filter :=
  match hor : cursor.matchKeyword "OR".toList with
  | (false, after) => ⟨(.ok left, after), left_le_of_eq hor (Cursor.left_matchKeyword_le _ cursor)⟩
  | (true, after) =>
    have hafter : after.left < cursor.left := Cursor.left_lt_of_matchKeyword (by simp) hor
    match readConjunction after with
    | ⟨(.error e, next), h⟩ => ⟨(.error e, next), Nat.le_trans h (Nat.le_of_lt hafter)⟩
    | ⟨(.ok right, next), h⟩ =>
      let outcome := readMoreOr (.or left right) next
      ⟨outcome.1, Nat.le_trans outcome.2 (Nat.le_trans h (Nat.le_of_lt hafter))⟩
termination_by 6 * cursor.left
decreasing_by
  · omega
  · have : next.left ≤ after.left := h
    omega

/-- Negations joined by AND. -/
def readConjunction (cursor : Cursor) : Advance cursor Filter :=
  match readNegation cursor with
  | ⟨(.error e, after), h⟩ => ⟨(.error e, after), h⟩
  | ⟨(.ok left, after), h⟩ =>
    let outcome := readMoreAnd left after
    ⟨outcome.1, Nat.le_trans outcome.2 h⟩
termination_by 6 * cursor.left + 4
decreasing_by
  · omega
  · have : after.left ≤ cursor.left := h
    omega

/-- The further operands of an AND with the given left side. -/
def readMoreAnd (left : Filter) (cursor : Cursor) : Advance cursor Filter :=
  match hand : cursor.matchKeyword "AND".toList with
  | (false, after) => ⟨(.ok left, after), left_le_of_eq hand (Cursor.left_matchKeyword_le _ cursor)⟩
  | (true, after) =>
    have hafter : after.left < cursor.left := Cursor.left_lt_of_matchKeyword (by simp) hand
    match readNegation after with
    | ⟨(.error e, next), h⟩ => ⟨(.error e, next), Nat.le_trans h (Nat.le_of_lt hafter)⟩
    | ⟨(.ok right, next), h⟩ =>
      let outcome := readMoreAnd (.and left right) next
      ⟨outcome.1, Nat.le_trans outcome.2 (Nat.le_trans h (Nat.le_of_lt hafter))⟩
termination_by 6 * cursor.left
decreasing_by
  · omega
  · have : next.left ≤ after.left := h
    omega

/-- A primary filter, or NOT and a primary filter. -/
def readNegation (cursor : Cursor) : Advance cursor Filter :=
  match hnot : cursor.matchKeyword "NOT".toList with
  | (true, after) =>
    have hafter : after.left < cursor.left := Cursor.left_lt_of_matchKeyword (by simp) hnot
    let outcome := readPrimary after
    ⟨mapOutcome .not outcome.1, by
      rw [mapOutcome_snd]
      exact Nat.le_trans outcome.2 (Nat.le_of_lt hafter)⟩
  | (false, after) =>
    have hafter : after.left ≤ cursor.left :=
      left_le_of_eq hnot (Cursor.left_matchKeyword_le _ cursor)
    let outcome := readPrimary after
    ⟨outcome.1, Nat.le_trans outcome.2 hafter⟩
termination_by 6 * cursor.left + 3
decreasing_by
  · omega
  · omega

/-- A filter in parentheses, or a predicate on a field. -/
def readPrimary (cursor : Cursor) : Advance cursor Filter :=
  let start := cursor.skipGap
  have hstart : start.left ≤ cursor.left := Cursor.left_skipGap_le cursor
  match hopen : start.matchText ['('] with
  | (true, inside) =>
    have hinside : inside.left < cursor.left :=
      Nat.lt_of_lt_of_le (Cursor.left_lt_of_matchText (by simp) hopen) hstart
    match readDisjunction inside with
    | ⟨(.error e, after), h⟩ => ⟨(.error e, after), Nat.le_trans h (Nat.le_of_lt hinside)⟩
    | ⟨(.ok filter, after), h⟩ =>
      have hafter : after.left ≤ cursor.left := Nat.le_trans h (Nat.le_of_lt hinside)
      have hclose := Cursor.left_matchText_le [')'] after
      match hlast : after.matchText [')'] with
      | (true, last) => ⟨(.ok filter, last), Nat.le_trans (left_le_of_eq hlast hclose) hafter⟩
      | (false, last) =>
        ⟨(.error (.unclosedParen start.position (found last)), last),
          Nat.le_trans (left_le_of_eq hlast hclose) hafter⟩
  | (false, start) =>
    have hstart : start.left ≤ cursor.left :=
      Nat.le_trans (left_le_of_eq hopen (Cursor.left_matchText_le ['('] _)) hstart
    have hname := Cursor.left_readIdentifier_le start
    match hfield : start.readIdentifier with
    | ([], after) =>
      ⟨(.error (.expectedField start.position (found after)), after),
        Nat.le_trans (left_le_of_eq hfield hname) hstart⟩
    | (field, after) =>
      ⟨readPredicate (String.ofList field) after,
        Nat.le_trans (left_readPredicate_le _ _) (Nat.le_trans (left_le_of_eq hfield hname) hstart)⟩
termination_by 6 * cursor.left + 2
decreasing_by omega

end

/-- The cursor at the first character of a text that is not white space, with the text up to the last
one; its position counts the white space in front. -/
def startCursor (text : List Char) : Cursor :=
  let body := Text.trimRight text
  Cursor.dropWhile Text.isBlank ⟨0, body⟩

/-- Reads on at a cursor to the end of the text. -/
def parseRest (cursor : Cursor) : Outcome Filter :=
  match (readDisjunction cursor).1 with
  | (.error e, after) => (.error e, after)
  | (.ok filter, after) =>
    let after := after.skipGap
    if after.isEof then (.ok filter, after)
    else (.error (.unexpectedInput after.position (found after)), after)

/-- Reads a text on from a cursor in it; a text of white space is refused wherever the cursor
stands. -/
def parseFrom (text : List Char) (cursor : Cursor) : Outcome Filter :=
  if (Text.trim text).isEmpty then (.error .empty, cursor) else parseRest cursor

/-- The outcomes of reading a text several times, each time from where the last one stopped. -/
def parseRepeatedly (text : List Char) (cursor : Cursor) : Nat → List (Except ParseError Filter)
  | 0 => []
  | times + 1 =>
    let outcome := parseFrom text cursor
    outcome.1 :: parseRepeatedly text outcome.2 times

/-- The filter that a text denotes. -/
def parse (text : String) : Except ParseError Filter :=
  (parseFrom text.toList (startCursor text.toList)).1

end Sift.Filter
