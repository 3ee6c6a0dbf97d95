/-
# Reading a text again

A reading leaves the cursor further on in its text, also when it fails, and the next reading of the
text goes on from there. A reading that does not move the cursor is repeated for ever. A filter is only
read at the end of the text, and from there every further reading misses the name of a field. So the
readings of a text give at most one filter, and as many readings as the text has bytes are enough to
come to an outcome that does not change any more.

Key definition: `Filter.cursorAfter`.
Key theorems: `Filter.leadsTo_readDisjunction`, `Filter.leadsTo_parseFrom`,
`Filter.cursorAfter_of_left_le`, `Filter.parseRepeatedly_settles`.
-/
import Sift.Proofs.Filter.Recursion
import Sift.Proofs.Text.Advance

namespace Sift.Filter

open Cursor (LeadsTo leadsTo_of_eq leadsTo_refl leadsTo_skipGap leadsTo_matchText
  leadsTo_matchKeyword)

/-! ### Conditions -/

theorem leadsTo_readValue (cursor : Cursor) : cursor.LeadsTo (readValue cursor).2 := by
  have hgap := leadsTo_skipGap cursor
  have hquoted := hgap.trans (Cursor.leadsTo_readQuoted cursor.skipGap)
  have hnumber := hgap.trans (Cursor.leadsTo_readNumber cursor.skipGap)
  simp only [readValue]
  split
  · split <;> next heq => exact leadsTo_of_eq heq hquoted
  · split <;> next heq => exact leadsTo_of_eq heq hnumber

theorem leadsTo_readValuesAfter (values : List Value) (cursor : Cursor) :
    cursor.LeadsTo (readValuesAfter values cursor).2 := by
  fun_induction readValuesAfter values cursor with
  | case1 values cursor e after hvalue => exact leadsTo_of_eq hvalue (leadsTo_readValue cursor)
  | case2 values cursor value after hvalue _ next hcomma _ ih =>
    have hafter : cursor.LeadsTo after := leadsTo_of_eq hvalue (leadsTo_readValue cursor)
    have hnext : after.LeadsTo next := leadsTo_of_eq hcomma (leadsTo_matchText [','] after)
    exact (hafter.trans hnext).trans ih
  | case3 values cursor value after hvalue _ next hcomma last hclose
  | case4 values cursor value after hvalue _ next hcomma last hclose =>
    have hafter : cursor.LeadsTo after := leadsTo_of_eq hvalue (leadsTo_readValue cursor)
    have hnext : after.LeadsTo next := leadsTo_of_eq hcomma (leadsTo_matchText [','] after)
    exact (hafter.trans hnext).trans (leadsTo_of_eq hclose (leadsTo_matchText [')'] next))

theorem leadsTo_readValues (cursor : Cursor) : cursor.LeadsTo (readValues cursor).2 := by
  have hopen := leadsTo_matchText ['('] cursor
  rw [readValues]
  split
  next heq => exact (leadsTo_of_eq heq hopen).trans (leadsTo_readValuesAfter _ _)
  next heq => exact leadsTo_of_eq heq hopen

theorem leadsTo_readPatternText (operator : String) (cursor : Cursor) :
    cursor.LeadsTo (readPatternText operator cursor).2 := by
  have hvalue := (leadsTo_skipGap cursor).trans (leadsTo_readValue cursor.skipGap)
  simp only [readPatternText]
  split <;> next heq => exact leadsTo_of_eq heq hvalue

theorem leadsTo_readOperator (operators : List Comparison) (cursor : Cursor) :
    cursor.LeadsTo (readOperator operators cursor).2 := by
  induction operators generalizing cursor with
  | nil => exact leadsTo_refl cursor
  | cons operator operators ih =>
    have hsymbol := leadsTo_matchText operator.symbol cursor
    rw [readOperator]
    split
    next heq => exact leadsTo_of_eq heq hsymbol
    next heq => exact (leadsTo_of_eq heq hsymbol).trans (ih _)

theorem leadsTo_readBounds (field : String) (cursor : Cursor) :
    cursor.LeadsTo (readBounds field cursor).2 := by
  have hvalue := leadsTo_readValue cursor
  rw [readBounds]
  split
  next heq => exact leadsTo_of_eq heq hvalue
  next after heq =>
    have hafter := leadsTo_of_eq heq hvalue
    have hand := leadsTo_matchKeyword "AND".toList after
    split
    next next heq =>
      rw [mapOutcome_snd]
      exact (hafter.trans (leadsTo_of_eq heq hand)).trans (leadsTo_readValue next)
    next heq => exact hafter.trans (leadsTo_of_eq heq hand)

theorem leadsTo_readComparison (field : String) (cursor : Cursor) :
    cursor.LeadsTo (readComparison field cursor).2 := by
  have hoperator := leadsTo_readOperator Comparison.all cursor
  rw [readComparison]
  split
  next after heq =>
    rw [mapOutcome_snd]
    exact (leadsTo_of_eq heq hoperator).trans (leadsTo_readValue after)
  next heq => exact leadsTo_of_eq heq hoperator

theorem leadsTo_readPredicate (field : String) (cursor : Cursor) :
    cursor.LeadsTo (readPredicate field cursor).2 := by
  -- each keyword is looked for where the one before it was not found
  have hkeyword {start before after : Cursor} {keyword : List Char} {b : Bool}
      (hbefore : start.LeadsTo before) (h : before.matchKeyword keyword = (b, after)) :
      start.LeadsTo after :=
    hbefore.trans (leadsTo_of_eq h (leadsTo_matchKeyword keyword before))
  have hstart := leadsTo_refl cursor
  rw [readPredicate]
  split
  next heq =>
    rw [mapOutcome_snd]
    exact (hkeyword hstart heq).trans (leadsTo_readValues _)
  next hin =>
  have hin := hkeyword hstart hin
  split
  next hnot =>
    split
    next heq =>
      rw [mapOutcome_snd]
      exact (hkeyword (hkeyword hin hnot) heq).trans (leadsTo_readValues _)
    next heq => exact hkeyword (hkeyword hin hnot) heq
  next hnot =>
  have hnot := hkeyword hin hnot
  split
  next heq => exact (hkeyword hnot heq).trans (leadsTo_readBounds _ _)
  next hbetween =>
  have hbetween := hkeyword hnot hbetween
  split
  next heq =>
    rw [mapOutcome_snd]
    exact (hkeyword hbetween heq).trans (leadsTo_readPatternText _ _)
  next hlike =>
  have hlike := hkeyword hbetween hlike
  split
  next heq =>
    rw [mapOutcome_snd]
    exact (hkeyword hlike heq).trans (leadsTo_readPatternText _ _)
  next hregexp => exact (hkeyword hlike hregexp).trans (leadsTo_readComparison _ _)

/-! ### Filters -/

mutual

/-- Reading a disjunction moves the cursor on, and so do the readings that it is made of. -/
theorem leadsTo_readDisjunction (cursor : Cursor) : cursor.LeadsTo (readDisjunction cursor).1.2 := by
  have hfirst := leadsTo_readConjunction cursor
  rw [readDisjunction_val]
  split
  next heq => exact leadsTo_of_eq heq hfirst
  next left after heq =>
    have hle := left_le_of_eq heq (readConjunction cursor).2
    exact (leadsTo_of_eq heq hfirst).trans (leadsTo_readMoreOr left after)
termination_by 6 * cursor.left + 5

theorem leadsTo_readMoreOr (left : Filter) (cursor : Cursor) :
    cursor.LeadsTo (readMoreOr left cursor).1.2 := by
  have hkeyword := leadsTo_matchKeyword "OR".toList cursor
  rw [readMoreOr_val]
  split
  next heq => exact leadsTo_of_eq heq hkeyword
  next after heq =>
    have hafter := leadsTo_of_eq heq hkeyword
    have hlt := Cursor.left_lt_of_matchKeyword (by simp) heq
    have hoperand := leadsTo_readConjunction after
    split
    next heq => exact hafter.trans (leadsTo_of_eq heq hoperand)
    next right next heq =>
      have hle := left_le_of_eq heq (readConjunction after).2
      exact (hafter.trans (leadsTo_of_eq heq hoperand)).trans (leadsTo_readMoreOr _ next)
termination_by 6 * cursor.left

theorem leadsTo_readConjunction (cursor : Cursor) :
    cursor.LeadsTo (readConjunction cursor).1.2 := by
  have hfirst := leadsTo_readNegation cursor
  rw [readConjunction_val]
  split
  next heq => exact leadsTo_of_eq heq hfirst
  next left after heq =>
    have hle := left_le_of_eq heq (readNegation cursor).2
    exact (leadsTo_of_eq heq hfirst).trans (leadsTo_readMoreAnd left after)
termination_by 6 * cursor.left + 4

theorem leadsTo_readMoreAnd (left : Filter) (cursor : Cursor) :
    cursor.LeadsTo (readMoreAnd left cursor).1.2 := by
  have hkeyword := leadsTo_matchKeyword "AND".toList cursor
  rw [readMoreAnd_val]
  split
  next heq => exact leadsTo_of_eq heq hkeyword
  next after heq =>
    have hafter := leadsTo_of_eq heq hkeyword
    have hlt := Cursor.left_lt_of_matchKeyword (by simp) heq
    have hoperand := leadsTo_readNegation after
    split
    next heq => exact hafter.trans (leadsTo_of_eq heq hoperand)
    next right next heq =>
      have hle := left_le_of_eq heq (readNegation after).2
      exact (hafter.trans (leadsTo_of_eq heq hoperand)).trans (leadsTo_readMoreAnd _ next)
termination_by 6 * cursor.left

theorem leadsTo_readNegation (cursor : Cursor) : cursor.LeadsTo (readNegation cursor).1.2 := by
  have hkeyword := leadsTo_matchKeyword "NOT".toList cursor
  rw [readNegation_val]
  split
  next after heq =>
    have hlt := Cursor.left_lt_of_matchKeyword (by simp) heq
    rw [mapOutcome_snd]
    exact (leadsTo_of_eq heq hkeyword).trans (leadsTo_readPrimary after)
  next after heq =>
    have hle := left_le_of_eq heq (Cursor.left_matchKeyword_le _ cursor)
    exact (leadsTo_of_eq heq hkeyword).trans (leadsTo_readPrimary after)
termination_by 6 * cursor.left + 3

theorem leadsTo_readPrimary (cursor : Cursor) : cursor.LeadsTo (readPrimary cursor).1.2 := by
  have hopening := leadsTo_matchText ['('] cursor
  rw [readPrimary_val, Cursor.matchText_skipGap]
  split
  next inside heq =>
    have hinside := leadsTo_of_eq heq hopening
    have hlt := Cursor.left_lt_of_matchText (by simp) heq
    have hoperand := leadsTo_readDisjunction inside
    split
    next heq => exact hinside.trans (leadsTo_of_eq heq hoperand)
    next filter after heq =>
      have hafter := hinside.trans (leadsTo_of_eq heq hoperand)
      have hclosing := leadsTo_matchText [')'] after
      split <;> next heq => exact hafter.trans (leadsTo_of_eq heq hclosing)
  next start heq =>
    have hstart := leadsTo_of_eq heq hopening
    have hname := Cursor.leadsTo_readIdentifier start
    split
    next heq => exact hstart.trans (leadsTo_of_eq heq hname)
    next field after _ heq =>
      exact (hstart.trans (leadsTo_of_eq heq hname)).trans (leadsTo_readPredicate _ after)
termination_by 6 * cursor.left + 2

end

/-- A reading of a text moves the cursor on. -/
theorem leadsTo_parseFrom (text : List Char) (cursor : Cursor) :
    cursor.LeadsTo (parseFrom text cursor).2 := by
  have hread := leadsTo_readDisjunction cursor
  unfold parseFrom parseRest
  split
  · exact leadsTo_refl cursor
  · split
    next heq => exact leadsTo_of_eq heq hread
    next after heq =>
      have hgap := (leadsTo_of_eq heq hread).trans (leadsTo_skipGap after)
      dsimp only
      split <;> exact hgap

/-! ### The end of the text -/

theorem rest_of_parseFrom_ok {text : List Char} {cursor next : Cursor} {filter : Filter}
    (h : parseFrom text cursor = (.ok filter, next)) : next.rest = [] := by
  unfold parseFrom parseRest at h
  split at h
  · cases h
  · split at h
    next => cases h
    next after _ =>
      dsimp only at h
      split at h
      next hend =>
        cases h
        exact List.isEmpty_iff.mp hend
      next => cases h

/-- At the end of a text there is no name of a field. -/
theorem readPrimary_of_rest_nil {cursor : Cursor} (h : cursor.rest = []) :
    (readPrimary cursor).1 =
      (.error (.expectedField cursor.position "end of input"), cursor) := by
  obtain ⟨position, rest⟩ := cursor
  obtain rfl : rest = [] := h
  rw [readPrimary_val]
  rfl

theorem readDisjunction_of_rest_nil {cursor : Cursor} (h : cursor.rest = []) :
    (readDisjunction cursor).1 =
      (.error (.expectedField cursor.position "end of input"), cursor) := by
  have hnot : cursor.matchKeyword "NOT".toList = (false, cursor) := by
    obtain ⟨position, rest⟩ := cursor
    obtain rfl : rest = [] := h
    rfl
  rw [readDisjunction_val, readConjunction_val, readNegation_val, hnot]
  dsimp only
  rw [readPrimary_of_rest_nil h]

/-- A reading at the end of a text that is not white space misses the name of a field. -/
theorem parseFrom_of_rest_nil {text : List Char} {cursor : Cursor}
    (htext : (Text.trim text).isEmpty = false) (h : cursor.rest = []) :
    parseFrom text cursor =
      (.error (.expectedField cursor.position "end of input"), cursor) := by
  rw [parseFrom, htext, if_neg Bool.false_ne_true, parseRest, readDisjunction_of_rest_nil h]

/-- A filter is read only of a text that is not white space. -/
theorem isEmpty_trim_of_parseFrom_ok {text : List Char} {cursor : Cursor} {filter : Filter}
    (h : (parseFrom text cursor).1 = .ok filter) : (Text.trim text).isEmpty = false := by
  unfold parseFrom at h
  split at h
  · cases h
  next htext => exact Bool.eq_false_iff.mpr htext

/-! ### Readings one after another -/

/-- The cursor after so many readings of a text. -/
def cursorAfter (text : List Char) : Nat → Cursor → Cursor
  | 0, cursor => cursor
  | count + 1, cursor => cursorAfter text count (parseFrom text cursor).2

theorem cursorAfter_succ (text : List Char) : ∀ (count : Nat) (cursor : Cursor),
    cursorAfter text (count + 1) cursor = (parseFrom text (cursorAfter text count cursor)).2
  | 0, _ => rfl
  | count + 1, cursor => cursorAfter_succ text count (parseFrom text cursor).2

theorem getElem?_parseRepeatedly (text : List Char) : ∀ {times i : Nat} (cursor : Cursor),
    i < times →
      (parseRepeatedly text cursor times)[i]? = some (parseFrom text (cursorAfter text i cursor)).1
  | times + 1, 0, cursor, _ => rfl
  | times + 1, i + 1, cursor, h => by
    rw [parseRepeatedly, List.getElem?_cons_succ]
    exact getElem?_parseRepeatedly text _ (Nat.lt_of_succ_lt_succ h)

theorem length_parseRepeatedly (text : List Char) : ∀ (times : Nat) (cursor : Cursor),
    (parseRepeatedly text cursor times).length = times
  | 0, _ => rfl
  | times + 1, _ => congrArg Nat.succ (length_parseRepeatedly text times _)

theorem leadsTo_cursorAfter (text : List Char) : ∀ (count : Nat) (cursor : Cursor),
    cursor.LeadsTo (cursorAfter text count cursor)
  | 0, cursor => leadsTo_refl cursor
  | count + 1, cursor =>
    (leadsTo_parseFrom text cursor).trans (leadsTo_cursorAfter text count _)

/-- A cursor that a reading does not move stays for ever. -/
theorem cursorAfter_of_fixed {text : List Char} {cursor : Cursor}
    (h : (parseFrom text cursor).2 = cursor) : ∀ count, cursorAfter text count cursor = cursor
  | 0 => rfl
  | count + 1 => by rw [cursorAfter, h, cursorAfter_of_fixed h count]

/-- Readings as many as there are characters left bring the cursor to where it stays. -/
theorem cursorAfter_of_left_le {text : List Char} (count : Nat) : ∀ {cursor : Cursor},
    cursor.left ≤ count →
      (parseFrom text (cursorAfter text count cursor)).2 = cursorAfter text count cursor := by
  induction count with
  | zero =>
    intro cursor hleft
    rcases (leadsTo_parseFrom text cursor).eq_or_left_lt with hfixed | hlt
    · exact hfixed
    · exact absurd hlt (by omega)
  | succ count ih =>
    intro cursor hleft
    rcases (leadsTo_parseFrom text cursor).eq_or_left_lt with hfixed | hlt
    · rw [cursorAfter_of_fixed hfixed, hfixed]
    · exact ih (by omega)

theorem cursorAfter_add (text : List Char) : ∀ (count more : Nat) (cursor : Cursor),
    cursorAfter text (count + more) cursor = cursorAfter text more (cursorAfter text count cursor)
  | 0, more, cursor => by rw [Nat.zero_add]; rfl
  | count + 1, more, cursor => by
    rw [Nat.succ_add, cursorAfter, cursorAfter, cursorAfter_add text count more]

theorem finish_startCursor (text : List Char) :
    (startCursor text).finish = byteLength (Text.trimRight text) := by
  rw [startCursor, (Cursor.leadsTo_dropWhile Text.isBlank _).finish_eq]
  exact Nat.zero_add _

section

variable {text : List Char} {cursor : Cursor} {i : Nat}

/-- Behind a reading that gives a filter, every reading misses the name of a field at the end. -/
theorem parseFrom_cursorAfter_of_ok {filter : Filter}
    (h : (parseFrom text (cursorAfter text i cursor)).1 = .ok filter) (count : Nat) :
    (parseFrom text (cursorAfter text (i + 1 + count) cursor)).1 =
      .error (.expectedField cursor.finish "end of input") := by
  have htext := isEmpty_trim_of_parseFrom_ok h
  have hrest : (cursorAfter text (i + 1) cursor).rest = [] := by
    rw [cursorAfter_succ]
    exact rest_of_parseFrom_ok (Prod.ext h rfl)
  have hread := parseFrom_of_rest_nil htext hrest
  have hposition : (cursorAfter text (i + 1) cursor).position = cursor.finish := by
    rw [← (leadsTo_cursorAfter text (i + 1) cursor).finish_eq, Cursor.finish, hrest]
    rfl
  rw [cursorAfter_add, cursorAfter_of_fixed (by rw [hread]), hread, hposition]

/-- A reading that does not move the cursor fails. -/
theorem exists_error_of_fixed (h : (parseFrom text cursor).2 = cursor) :
    ∃ e, (parseFrom text cursor).1 = .error e := by
  cases hread : (parseFrom text cursor).1 with
  | error e => exact ⟨e, rfl⟩
  | ok filter =>
    have hmore := parseFrom_cursorAfter_of_ok (i := 0) hread 0
    rw [cursorAfter_of_fixed h, hread] at hmore
    cases hmore

end

/-- **Reading a text again settles.** Of any number of readings of a text, each from where the last one
stopped, at most one gives a filter, and those behind it miss the name of a field at the end of the
text. Behind as many readings as the text without its outer white space has bytes, all readings give the
same error. -/
theorem parseRepeatedly_settles (text : String) :
    let outcomes := parseRepeatedly text.toList (startCursor text.toList)
    (∀ (times i j : Nat) (filter filter' : Filter), (outcomes times)[i]? = some (.ok filter) →
      (outcomes times)[j]? = some (.ok filter') → i = j) ∧
    (∀ (times i j : Nat) (filter : Filter), (outcomes times)[i]? = some (.ok filter) →
      i < j → j < times → (outcomes times)[j]? = some (.error
        (.expectedField (byteLength (Text.trimRight text.toList)) "end of input"))) ∧
    ∃ e, ∀ times i : Nat, byteLength (Text.trim text.toList) ≤ i → i < times →
      (outcomes times)[i]? = some (.error e) := by
  intro outcomes
  have hindex {times i : Nat} {outcome : Except ParseError Filter}
      (h : (outcomes times)[i]? = some outcome) : i < times := by
    have hlength := (List.getElem?_eq_some_iff.mp h).1
    rwa [length_parseRepeatedly] at hlength
  have hlater : ∀ (times i j : Nat) (filter : Filter), (outcomes times)[i]? = some (.ok filter) →
      i < j → j < times → (outcomes times)[j]? = some (.error
        (.expectedField (byteLength (Text.trimRight text.toList)) "end of input")) := by
    intro times i j filter hok hij hj
    rw [getElem?_parseRepeatedly _ _ (hindex hok)] at hok
    obtain ⟨count, rfl⟩ := Nat.exists_eq_add_of_le (Nat.succ_le_of_lt hij)
    have hread := parseFrom_cursorAfter_of_ok (Option.some.inj hok) count
    rw [finish_startCursor] at hread
    rw [getElem?_parseRepeatedly _ _ hj, hread]
  refine ⟨fun times i j filter filter' hi hj => ?_, hlater, ?_⟩
  · rcases Nat.lt_trichotomy i j with hlt | heq | hlt
    · exact absurd ((hlater times i j filter hi hlt (hindex hj)).symm.trans hj) nofun
    · exact heq
    · exact absurd ((hlater times j i filter' hj hlt (hindex hi)).symm.trans hi) nofun
  · have hleft : (startCursor text.toList).left ≤ byteLength (Text.trim text.toList) :=
      length_le_byteLength (Text.trim text.toList)
    have hfixed := @cursorAfter_of_left_le text.toList _ _ hleft
    obtain ⟨e, he⟩ := exists_error_of_fixed hfixed
    refine ⟨e, fun times i hi htimes => ?_⟩
    obtain ⟨count, rfl⟩ := Nat.exists_eq_add_of_le hi
    rw [getElem?_parseRepeatedly _ _ htimes, cursorAfter_add, cursorAfter_of_fixed hfixed, he]

end Sift.Filter
