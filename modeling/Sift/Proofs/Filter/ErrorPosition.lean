/-
# Where a text is no filter

A reading that fails says where it could not go on and what it found there. Each operation fails
either where it stands or behind the spaces and tabs that it has passed over, and what it describes
then is what is left there; a reading made of several others fails where one of these does, further
on in the same text. So the position of an error is the number of bytes in front of a place of the
text, within its outer white space and not in front of a space or a tab, and what the error says
about this place is true: a quote that is not closed, an opening parenthesis, a number in the place
of a pattern, the name of a field right before, or the characters that follow.

Key definitions: `Text.excerpt`, `ParseError.Describes`, `ParseError.IsAheadOf`,
`Filter.FailsAhead`, `Filter.IsPlace`.
Key theorems: `ParseError.IsAheadOf.of_leadsTo`, `Filter.failsAhead_readPredicate`,
`Filter.failsAhead_readDisjunction`, `Filter.parse_error_points`.
-/
import Sift.Proofs.Filter.Grammar
import Sift.Proofs.Filter.Resumption
import Sift.Proofs.Text.Trim

namespace Sift

/-- The first twenty characters of a text in quotes, with dots behind them if there are more; a text
without characters is the end of the input. -/
def Text.excerpt (rest : List Char) : String :=
  if rest = [] then "end of input"
  else "'" ++ String.ofList (rest.take 20) ++ (if 20 < rest.length then "..." else "") ++ "'"

/-- What is described at a cursor is the beginning of what is left. -/
theorem Filter.found_eq_excerpt (cursor : Cursor) : found cursor = Text.excerpt cursor.rest := by
  rw [← String.toList_inj]
  unfold found Cursor.describe Text.excerpt
  by_cases hempty : cursor.rest = []
  · simp [hempty]
  · by_cases hlength : cursor.rest.length ≤ 20
    · simp [hempty, hlength, Nat.not_lt.mpr hlength, Cursor.excerptLength]
    · simp [hempty, hlength, Nat.not_le.mp hlength, Cursor.excerptLength]

namespace ParseError

/-- Whether what an error says is true of a place in a text, with some characters before it and the
others behind it. -/
def Describes (done rest : List Char) : ParseError → Prop
  | empty => False
  | unterminatedString _ => ∃ body, rest = '\'' :: body ∧ '\'' ∉ body
  | unclosedParen _ found =>
    ∃ inside after, rest = '(' :: (inside ++ after) ∧ found = Text.excerpt after
  | patternNotString _ _ => ∃ token after, rest = token ++ after ∧ Filter.IsBare token ∧
    (∀ c ∈ after.head?, Cursor.isTokenCharacter c = false) ∧
    ((Text.readInt64? token).isSome = true ∨ (Binary64.read? token).isSome = true)
  | expectedOperator field _ found => found = Text.excerpt rest ∧ Filter.IsName field ∧
    ∃ before gap, done = before ++ (field.toList ++ gap) ∧ ∀ c ∈ gap, Text.isGap c = true
  | expectedField _ found | expectedValue _ found | expectedToken _ _ found
  | betweenWithoutAnd _ found | unexpectedInput _ found => found = Text.excerpt rest

/-- Whether an error is about a place ahead of a cursor, in front of no space or tab, and what it
says about it is true. -/
def IsAheadOf (e : ParseError) (cursor : Cursor) : Prop :=
  ∃ done rest, cursor.rest = done ++ rest ∧
    e.position? = some (cursor.position + byteLength done) ∧
    (∀ c ∈ rest.head?, Text.isGap c = false) ∧ e.Describes done rest

variable {e : ParseError} {cursor next : Cursor}

/-- What stands further in front does not matter. -/
theorem Describes.prepend {done rest : List Char} (front : List Char) (h : e.Describes done rest) :
    e.Describes (front ++ done) rest := by
  cases e with
  | expectedOperator field position found =>
    obtain ⟨hfound, hname, before, gap, hdone, hgap⟩ := h
    refine ⟨hfound, hname, front ++ before, gap, ?_, hgap⟩
    rw [hdone, List.append_assoc]
  | _ => exact h

theorem IsAheadOf.of_leadsTo (h : e.IsAheadOf next) (hnext : cursor.LeadsTo next) :
    e.IsAheadOf cursor := by
  obtain ⟨done, rest, hrest, hposition, hgap, hdescribes⟩ := h
  obtain ⟨passed, hpassed, hbytes⟩ := hnext
  refine ⟨passed ++ done, rest, ?_, ?_, hgap, hdescribes.prepend passed⟩
  · rw [hpassed, hrest, List.append_assoc]
  · rw [hposition, hbytes, byteLength_append, Nat.add_assoc]

/-- An error right behind the spaces and tabs at a cursor. -/
theorem isAheadOf_skipGap (hposition : e.position? = some cursor.skipGap.position)
    (h : e.Describes [] cursor.skipGap.rest) : e.IsAheadOf cursor := by
  have hself : e.IsAheadOf cursor.skipGap :=
    ⟨[], cursor.skipGap.rest, rfl, hposition, fun _ hc => Text.head_dropWhile_isGap hc, h⟩
  exact hself.of_leadsTo (Cursor.leadsTo_skipGap cursor)

end ParseError

namespace Filter

open Cursor (LeadsTo leadsTo_of_eq leadsTo_refl leadsTo_skipGap leadsTo_matchText
  leadsTo_matchKeyword)

variable {α β : Type} {cursor next after start : Cursor} {e : ParseError}

/-- Whether the error of an outcome, if it has one, is about a place ahead of a cursor. -/
def FailsAhead (cursor : Cursor) (outcome : Outcome α) : Prop :=
  ∀ e, outcome.1 = .error e → e.IsAheadOf cursor

theorem failsAhead_ok (cursor : Cursor) (a : α) (after : Cursor) :
    FailsAhead cursor (.ok a, after) := nofun

theorem failsAhead_error (h : e.IsAheadOf cursor) (after : Cursor) :
    FailsAhead cursor ((.error e, after) : Outcome α) := by
  rintro _ ⟨⟩
  exact h

theorem FailsAhead.of_leadsTo {outcome : Outcome α} (h : FailsAhead next outcome)
    (hnext : cursor.LeadsTo next) : FailsAhead cursor outcome :=
  fun e he => (h e he).of_leadsTo hnext

theorem FailsAhead.map {outcome : Outcome α} (h : FailsAhead cursor outcome) (f : α → β) :
    FailsAhead cursor (mapOutcome f outcome) := by
  rcases outcome with ⟨e | a, after⟩
  · exact failsAhead_error (h e rfl) after
  · exact failsAhead_ok _ _ _

/-- The error of an outcome, once the outcome is known. -/
theorem FailsAhead.of_eq {outcome : Outcome α} (h : FailsAhead cursor outcome)
    (heq : outcome = (.error e, after)) : e.IsAheadOf cursor :=
  h e (congrArg Prod.fst heq)

/-- Where a text is looked for in vain, what is missing is missing behind spaces and tabs. -/
theorem failsAhead_of_matchText {text : List Char} (h : cursor.matchText text = (false, next))
    (hposition : e.position? = some next.position) (hdescribes : e.Describes [] next.rest) :
    FailsAhead cursor ((.error e, next) : Outcome α) := by
  obtain ⟨rfl, -⟩ := Cursor.eq_skipGap_of_matchText h
  exact failsAhead_error (ParseError.isAheadOf_skipGap hposition hdescribes) _

theorem failsAhead_of_matchKeyword {keyword : List Char}
    (h : cursor.matchKeyword keyword = (false, next))
    (hposition : e.position? = some next.position) (hdescribes : e.Describes [] next.rest) :
    FailsAhead cursor ((.error e, next) : Outcome α) := by
  obtain ⟨rfl, -⟩ := Cursor.eq_skipGap_of_matchKeyword h
  exact failsAhead_error (ParseError.isAheadOf_skipGap hposition hdescribes) _

/-! ### Values -/

/-- What is not read as a string in quotes is no quote, or a quote without another one behind it. -/
theorem isAheadOf_quoteError {error : QuoteError} (h : cursor.readQuoted = (.error error, next)) :
    (quoteError next error).IsAheadOf cursor := by
  simp only [Cursor.readQuoted] at h
  split at h
  next body hbody =>
    split at h
    next => cases h
    next hlength =>
      cases h
      have hall : body.takeWhile (· != '\'') = body :=
        (List.takeWhile_prefix _).eq_of_length_le (Nat.not_lt.mp hlength)
      refine ParseError.isAheadOf_skipGap rfl ⟨body, hbody, fun hmem => ?_⟩
      rw [← hall] at hmem
      simpa using List.all_eq_true.mp List.all_takeWhile _ hmem
  next =>
    cases h
    refine ParseError.isAheadOf_skipGap rfl ?_
    exact found_eq_excerpt cursor.skipGap

theorem failsAhead_readValue (cursor : Cursor) : FailsAhead cursor (readValue cursor) := by
  have hgap := leadsTo_skipGap cursor
  simp only [readValue]
  split
  · split
    next => exact failsAhead_ok _ _ _
    next error after heq =>
      exact failsAhead_error ((isAheadOf_quoteError heq).of_leadsTo hgap) after
  · split
    next after heq =>
      obtain rfl := Cursor.eq_of_takeWhile_nil heq
      rw [Cursor.skipGap_skipGap]
      refine failsAhead_error (ParseError.isAheadOf_skipGap rfl ?_) _
      exact found_eq_excerpt cursor.skipGap
    next => exact failsAhead_ok _ _ _

theorem failsAhead_readValuesAfter (values : List Value) (cursor : Cursor) :
    FailsAhead cursor (readValuesAfter values cursor) := by
  fun_induction readValuesAfter values cursor with
  | case1 values cursor e after hvalue =>
    exact failsAhead_error ((failsAhead_readValue cursor).of_eq hvalue) after
  | case2 values cursor value after hvalue _ next hcomma _ ih =>
    have hafter : cursor.LeadsTo after := leadsTo_of_eq hvalue (leadsTo_readValue cursor)
    have hnext : after.LeadsTo next := leadsTo_of_eq hcomma (leadsTo_matchText [','] after)
    exact ih.of_leadsTo (hafter.trans hnext)
  | case3 => exact failsAhead_ok _ _ _
  | case4 values cursor value after hvalue _ next hcomma last hclose =>
    have hafter : cursor.LeadsTo after := leadsTo_of_eq hvalue (leadsTo_readValue cursor)
    have hnext : after.LeadsTo next := leadsTo_of_eq hcomma (leadsTo_matchText [','] after)
    exact FailsAhead.of_leadsTo (failsAhead_of_matchText hclose rfl (found_eq_excerpt last))
      (hafter.trans hnext)

theorem failsAhead_readValues (cursor : Cursor) : FailsAhead cursor (readValues cursor) := by
  have hopen := leadsTo_matchText ['('] cursor
  rw [readValues]
  split
  next after heq => exact (failsAhead_readValuesAfter [] after).of_leadsTo (leadsTo_of_eq heq hopen)
  next after heq => exact failsAhead_of_matchText heq rfl (found_eq_excerpt after)

/-- A token that denotes no string is a numeral. -/
theorem isSome_of_tokenValue {token : List Char} (h : ∀ s, tokenValue token ≠ .string s) :
    (Text.readInt64? token).isSome = true ∨ (Binary64.read? token).isSome = true := by
  unfold tokenValue at h
  cases hinteger : Text.readInt64? token with
  | some n => exact .inl rfl
  | none =>
    cases hnumber : Binary64.read? token with
    | some x => exact .inr rfl
    | none =>
      rw [hinteger, hnumber] at h
      exact absurd rfl (h (String.ofList token))

/-- A value that is no string is a token that is a numeral. -/
theorem describes_patternNotString (operator : String) (position : Nat) {value : Value}
    (h : readValue cursor = (.ok value, after)) (hvalue : ∀ s, value ≠ .string s) :
    (ParseError.patternNotString operator position).Describes [] cursor.skipGap.rest := by
  simp only [readValue] at h
  split at h
  · split at h
    next content last _ =>
      cases h
      exact absurd rfl (hvalue (String.ofList content))
    next => cases h
  · split at h
    next => cases h
    next token last hne heq =>
      cases h
      obtain ⟨hrest, -, htoken, hafter⟩ := Cursor.spec_of_takeWhile heq
      rw [Cursor.skipGap_skipGap] at hrest
      exact ⟨token, after.rest, hrest, ⟨fun hnil => hne (hnil ▸ rfl), htoken⟩, hafter,
        isSome_of_tokenValue hvalue⟩

theorem failsAhead_readPatternText (operator : String) (cursor : Cursor) :
    FailsAhead cursor (readPatternText operator cursor) := by
  have hgap := leadsTo_skipGap cursor
  have hfails := (failsAhead_readValue cursor.skipGap).of_leadsTo hgap
  simp only [readPatternText]
  split
  next heq => exact failsAhead_error (hfails.of_eq heq) _
  next => exact failsAhead_ok _ _ _
  next value after hnot heq =>
    have hdescribes := describes_patternNotString operator cursor.skipGap.position heq hnot
    rw [Cursor.skipGap_skipGap] at hdescribes
    exact failsAhead_error (ParseError.isAheadOf_skipGap rfl hdescribes) _

/-! ### Conditions -/

theorem failsAhead_readBounds (field : String) (cursor : Cursor) :
    FailsAhead cursor (readBounds field cursor) := by
  have hvalue := leadsTo_readValue cursor
  rw [readBounds]
  split
  next heq => exact failsAhead_error ((failsAhead_readValue cursor).of_eq heq) _
  next lower after heq =>
    have hafter := leadsTo_of_eq heq hvalue
    have hand := leadsTo_matchKeyword "AND".toList after
    split
    next next heq =>
      have hnext := hafter.trans (leadsTo_of_eq heq hand)
      exact ((failsAhead_readValue next).map _).of_leadsTo hnext
    next next heq =>
      exact FailsAhead.of_leadsTo
        (failsAhead_of_matchKeyword heq rfl (found_eq_excerpt next)) hafter

/-- Operators that are looked for in vain behind spaces and tabs leave a cursor there. -/
theorem eq_of_readOperator_none (hcursor : cursor.skipGap = cursor) :
    ∀ {operators : List Comparison}, readOperator operators cursor = (none, next) → next = cursor
  | [], h => (Prod.mk.inj h).2.symm
  | operator :: operators, h => by
    rw [readOperator] at h
    split at h
    next => cases h
    next hmatch =>
      rw [(Cursor.eq_skipGap_of_matchText hmatch).1, hcursor] at h
      exact eq_of_readOperator_none hcursor h

/-- The cursor behind the name of a field and spaces and tabs. -/
structure BehindName (field : String) (start cursor : Cursor) : Prop where
  isName : IsName field
  exists_gap : ∃ gap, start.rest = field.toList ++ gap ++ cursor.rest ∧
    cursor.position = start.position + byteLength (field.toList ++ gap) ∧
    ∀ c ∈ gap, Text.isGap c = true

theorem BehindName.leadsTo {field : String} (h : BehindName field start cursor) :
    start.LeadsTo cursor :=
  have ⟨gap, hrest, hposition, _⟩ := h.exists_gap
  ⟨field.toList ++ gap, hrest, hposition⟩

theorem BehindName.skipGap {field : String} (h : BehindName field start cursor) :
    BehindName field start cursor.skipGap := by
  obtain ⟨gap, hrest, hposition, hgap⟩ := h.exists_gap
  refine ⟨h.isName, gap ++ cursor.rest.takeWhile Text.isGap, ?_, ?_, ?_⟩
  · have hsplit : cursor.rest.takeWhile Text.isGap ++ cursor.skipGap.rest = cursor.rest :=
      List.takeWhile_append_dropWhile
    rw [← List.append_assoc, List.append_assoc _ _ cursor.skipGap.rest, hsplit, hrest]
  · show cursor.position + _ = _
    rw [hposition, Nat.add_assoc, ← byteLength_append, List.append_assoc]
  · intro c hc
    rcases List.mem_append.mp hc with hc | hc
    · exact hgap c hc
    · exact List.all_eq_true.mp List.all_takeWhile c hc

theorem failsAhead_readComparison {field : String} (h : BehindName field start cursor)
    (hcursor : cursor.skipGap = cursor) : FailsAhead start (readComparison field cursor) := by
  rw [readComparison]
  split
  next operator after heq =>
    have hoperator := leadsTo_readOperator Comparison.all cursor
    exact ((failsAhead_readValue after).map _).of_leadsTo
      (h.leadsTo.trans (leadsTo_of_eq heq hoperator))
  next after heq =>
    -- the operators that are missing have not moved the cursor, so the name is right before it
    obtain rfl := eq_of_readOperator_none hcursor heq
    obtain ⟨gap, hrest, hposition, hgap⟩ := h.exists_gap
    have hhead : ∀ c ∈ after.rest.head?, Text.isGap c = false :=
      hcursor ▸ fun c hc => Text.head_dropWhile_isGap hc
    refine failsAhead_error ?_ after
    exact ⟨field.toList ++ gap, after.rest, hrest, congrArg some hposition, hhead,
      found_eq_excerpt after, h.isName, [], gap, rfl, hgap⟩

theorem failsAhead_readPredicate {field : String} (h : BehindName field start cursor) :
    FailsAhead start (readPredicate field cursor) := by
  -- each keyword is looked for where the one before it was not found
  have hfound {before after : Cursor} {keyword : List Char} (hbefore : start.LeadsTo before)
      (h : before.matchKeyword keyword = (true, after)) : start.LeadsTo after :=
    hbefore.trans (leadsTo_of_eq h (leadsTo_matchKeyword keyword before))
  have hmissed {before after : Cursor} {keyword : List Char}
      (hbefore : BehindName field start before)
      (h : before.matchKeyword keyword = (false, after)) : BehindName field start after :=
    (Cursor.eq_skipGap_of_matchKeyword h).1 ▸ hbefore.skipGap
  rw [readPredicate]
  split
  next after heq =>
    exact ((failsAhead_readValues after).map _).of_leadsTo (hfound h.leadsTo heq)
  next hin =>
  have hin := hmissed h hin
  split
  next after hnot =>
    have hafter := hfound hin.leadsTo hnot
    split
    next last heq =>
      exact ((failsAhead_readValues last).map _).of_leadsTo (hfound hafter heq)
    next last heq =>
      exact FailsAhead.of_leadsTo
        (failsAhead_of_matchKeyword heq rfl (found_eq_excerpt last)) hafter
  next hnot =>
  have hnot := hmissed hin hnot
  split
  next after heq =>
    exact (failsAhead_readBounds field after).of_leadsTo (hfound hnot.leadsTo heq)
  next hbetween =>
  have hbetween := hmissed hnot hbetween
  split
  next after heq =>
    exact ((failsAhead_readPatternText "LIKE" after).map _).of_leadsTo
      (hfound hbetween.leadsTo heq)
  next hlike =>
  have hlike := hmissed hbetween hlike
  split
  next after heq =>
    exact ((failsAhead_readPatternText "REGEXP" after).map _).of_leadsTo
      (hfound hlike.leadsTo heq)
  next after hregexp =>
    have hcursor : after.skipGap = after := by
      rw [(Cursor.eq_skipGap_of_matchKeyword hregexp).1, Cursor.skipGap_skipGap]
    exact failsAhead_readComparison (hmissed hlike hregexp) hcursor

/-! ### Filters -/

/-- A parenthesis that is opened at a cursor and not closed where something else is found. -/
theorem failsAhead_of_unclosed {inside last : Cursor}
    (hopen : cursor.matchText ['('] = (true, inside)) (hinside : inside.LeadsTo after)
    (hclose : after.matchText [')'] = (false, last)) :
    FailsAhead cursor
      ((.error (.unclosedParen cursor.skipGap.position (found last)), last) : Outcome α) := by
  have hlast : inside.LeadsTo last :=
    hinside.trans (leadsTo_of_eq hclose (leadsTo_matchText [')'] after))
  obtain ⟨passed, hpassed, -⟩ := hlast
  have hrest : cursor.skipGap.rest = '(' :: (passed ++ last.rest) := by
    rw [Cursor.rest_skipGap, Cursor.rest_of_matchText hopen, hpassed]
    rfl
  refine failsAhead_error (ParseError.isAheadOf_skipGap rfl ?_) last
  exact ⟨passed, last.rest, hrest, found_eq_excerpt last⟩

mutual

/-- An error of a disjunction is ahead, and so are those of the readings that it is made of. -/
theorem failsAhead_readDisjunction (cursor : Cursor) :
    FailsAhead cursor (readDisjunction cursor).1 := by
  have hfirst := failsAhead_readConjunction cursor
  have hleads := leadsTo_readConjunction cursor
  rw [readDisjunction_val]
  split
  next heq => exact failsAhead_error (hfirst.of_eq heq) _
  next left after heq =>
    have hle := left_le_of_eq heq (readConjunction cursor).2
    exact (failsAhead_readMoreOr left after).of_leadsTo (leadsTo_of_eq heq hleads)
termination_by 6 * cursor.left + 5

theorem failsAhead_readMoreOr (left : Filter) (cursor : Cursor) :
    FailsAhead cursor (readMoreOr left cursor).1 := by
  have hkeyword := leadsTo_matchKeyword "OR".toList cursor
  rw [readMoreOr_val]
  split
  next => exact failsAhead_ok _ _ _
  next after heq =>
    have hafter := leadsTo_of_eq heq hkeyword
    have hlt := Cursor.left_lt_of_matchKeyword (by simp) heq
    have hoperand := failsAhead_readConjunction after
    have hleads := leadsTo_readConjunction after
    split
    next heq => exact failsAhead_error ((hoperand.of_eq heq).of_leadsTo hafter) _
    next right next heq =>
      have hle := left_le_of_eq heq (readConjunction after).2
      exact (failsAhead_readMoreOr _ next).of_leadsTo (hafter.trans (leadsTo_of_eq heq hleads))
termination_by 6 * cursor.left

theorem failsAhead_readConjunction (cursor : Cursor) :
    FailsAhead cursor (readConjunction cursor).1 := by
  have hfirst := failsAhead_readNegation cursor
  have hleads := leadsTo_readNegation cursor
  rw [readConjunction_val]
  split
  next heq => exact failsAhead_error (hfirst.of_eq heq) _
  next left after heq =>
    have hle := left_le_of_eq heq (readNegation cursor).2
    exact (failsAhead_readMoreAnd left after).of_leadsTo (leadsTo_of_eq heq hleads)
termination_by 6 * cursor.left + 4

theorem failsAhead_readMoreAnd (left : Filter) (cursor : Cursor) :
    FailsAhead cursor (readMoreAnd left cursor).1 := by
  have hkeyword := leadsTo_matchKeyword "AND".toList cursor
  rw [readMoreAnd_val]
  split
  next => exact failsAhead_ok _ _ _
  next after heq =>
    have hafter := leadsTo_of_eq heq hkeyword
    have hlt := Cursor.left_lt_of_matchKeyword (by simp) heq
    have hoperand := failsAhead_readNegation after
    have hleads := leadsTo_readNegation after
    split
    next heq => exact failsAhead_error ((hoperand.of_eq heq).of_leadsTo hafter) _
    next right next heq =>
      have hle := left_le_of_eq heq (readNegation after).2
      exact (failsAhead_readMoreAnd _ next).of_leadsTo (hafter.trans (leadsTo_of_eq heq hleads))
termination_by 6 * cursor.left

theorem failsAhead_readNegation (cursor : Cursor) :
    FailsAhead cursor (readNegation cursor).1 := by
  have hkeyword := leadsTo_matchKeyword "NOT".toList cursor
  rw [readNegation_val]
  split
  next after heq =>
    have hlt := Cursor.left_lt_of_matchKeyword (by simp) heq
    exact ((failsAhead_readPrimary after).map _).of_leadsTo (leadsTo_of_eq heq hkeyword)
  next after heq =>
    have hle := left_le_of_eq heq (Cursor.left_matchKeyword_le _ cursor)
    exact (failsAhead_readPrimary after).of_leadsTo (leadsTo_of_eq heq hkeyword)
termination_by 6 * cursor.left + 3

theorem failsAhead_readPrimary (cursor : Cursor) : FailsAhead cursor (readPrimary cursor).1 := by
  have hopening := leadsTo_matchText ['('] cursor
  rw [readPrimary_val, Cursor.matchText_skipGap]
  split
  next inside heq =>
    have hinside := leadsTo_of_eq heq hopening
    have hlt := Cursor.left_lt_of_matchText (by simp) heq
    have hoperand := failsAhead_readDisjunction inside
    have hleads := leadsTo_readDisjunction inside
    split
    next heq => exact failsAhead_error ((hoperand.of_eq heq).of_leadsTo hinside) _
    next filter after hfilter =>
      split
      next => exact failsAhead_ok _ _ _
      next last hclose => exact failsAhead_of_unclosed heq (leadsTo_of_eq hfilter hleads) hclose
  next start heq =>
    obtain ⟨rfl, -⟩ := Cursor.eq_skipGap_of_matchText heq
    split
    next after hfield =>
      obtain rfl := Cursor.eq_of_takeWhile_nil hfield
      rw [Cursor.skipGap_skipGap]
      refine failsAhead_error (ParseError.isAheadOf_skipGap rfl ?_) _
      exact found_eq_excerpt cursor.skipGap
    next field after hne hfield =>
      -- the error of the condition may name the field, so the name is ahead as well
      obtain ⟨hrest, hposition, hname, -⟩ := Cursor.spec_of_takeWhile hfield
      rw [Cursor.skipGap_skipGap] at hrest hposition
      have hbehind : BehindName (String.ofList field) cursor.skipGap after := by
        refine ⟨⟨?_, ?_⟩, [], ?_, ?_, List.forall_mem_nil _⟩
        · rw [String.toList_ofList]
          exact fun hnil => hne (hnil ▸ rfl)
        · rwa [String.toList_ofList]
        · rwa [String.toList_ofList, List.append_nil]
        · rwa [String.toList_ofList, List.append_nil]
      exact (failsAhead_readPredicate hbehind).of_leadsTo (leadsTo_skipGap cursor)
termination_by 6 * cursor.left + 2

end

/-- An error of a reading up to the end of the text is ahead. -/
theorem failsAhead_parseRest (cursor : Cursor) : FailsAhead cursor (parseRest cursor) := by
  have hread := failsAhead_readDisjunction cursor
  have hleads := leadsTo_readDisjunction cursor
  unfold parseRest
  split
  next heq => exact failsAhead_error (hread.of_eq heq) _
  next filter after heq =>
    dsimp only
    split
    · exact failsAhead_ok _ _ _
    · have hafter : (ParseError.unexpectedInput after.skipGap.position
          (found after.skipGap)).IsAheadOf after :=
        ParseError.isAheadOf_skipGap rfl (found_eq_excerpt after.skipGap)
      exact failsAhead_error (hafter.of_leadsTo (leadsTo_of_eq heq hleads)) _

/-! ### Texts -/

/-- A text is what trimming leaves, between white space; a reading starts at the first character of
it. -/
theorem exists_startCursor (text : List Char) :
    ∃ front back, text = front ++ (Text.trim text ++ back) ∧
      (∀ c ∈ front, Text.isBlank c = true) ∧ (∀ c ∈ back, Text.isBlank c = true) ∧
      startCursor text = ⟨byteLength front, Text.trim text⟩ := by
  obtain ⟨back, htext, hback⟩ := Text.exists_trimRight text
  have hsplit : (Text.trimRight text).takeWhile Text.isBlank ++ Text.trim text =
      Text.trimRight text := List.takeWhile_append_dropWhile
  refine ⟨(Text.trimRight text).takeWhile Text.isBlank, back, ?_,
    fun c hc => List.all_eq_true.mp List.all_takeWhile c hc, List.all_eq_true.mp hback, ?_⟩
  · rw [← List.append_assoc, hsplit]
    exact htext
  · exact congrArg (Cursor.mk · _) (Nat.zero_add _)

/-- Whether a position is a place within a text without its outer white space, not in front of a
space or a tab: what stands before it from the first character that is no white space, and behind it
up to the last one. -/
structure IsPlace (text : String) (position : Nat) (done rest : List Char) : Prop where
  trim_eq : Text.trim text.toList = done ++ rest
  tight : Text.Tight (done ++ rest)
  /-- The position counts the bytes of the text as given. -/
  exists_blanks : ∃ front back, text.toList = front ++ (done ++ rest ++ back) ∧
    (∀ c ∈ front, Text.isBlank c = true) ∧ (∀ c ∈ back, Text.isBlank c = true) ∧
    position = byteLength (front ++ done)
  isValid : (⟨position⟩ : String.Pos.Raw).IsValid text
  no_gap : ∀ c ∈ rest.head?, Text.isGap c = false

/-- **An error points at the right place.** If reading a text fails with a position, this is a place
within the text without its outer white space and not in front of a space or a tab, and what the
error says about it is true. -/
theorem parse_error_points {text : String} {e : ParseError} {position : Nat}
    (h : parse text = .error e) (hposition : e.position? = some position) :
    ∃ done rest, IsPlace text position done rest ∧ e.Describes done rest := by
  unfold parse parseFrom at h
  split at h
  next =>
    cases h
    cases hposition
  next hempty =>
    obtain ⟨front, back, htext, hfront, hback, hstart⟩ := exists_startCursor text.toList
    rw [hstart] at h
    obtain ⟨done, rest, hrest, hbytes, hgap, hdescribes⟩ := failsAhead_parseRest _ e h
    have htrim : Text.trim text.toList = done ++ rest := hrest
    have htight : Text.Tight (done ++ rest) :=
      htrim ▸ Text.tight_trim fun hnil => hempty (List.isEmpty_iff.mpr hnil)
    obtain rfl : position = byteLength (front ++ done) := by
      rw [byteLength_append]
      exact Option.some.inj (hposition.symm.trans hbytes)
    rw [htrim] at htext
    have hplace : text.toList = (front ++ done) ++ (rest ++ back) := by
      rw [htext, List.append_assoc, List.append_assoc]
    exact ⟨done, rest, ⟨htrim, htight, ⟨front, back, htext, hfront, hback, rfl⟩,
      isValid_byteLength hplace, hgap⟩, hdescribes⟩

/-- An error behind an ideographic space, the name of a field, a space and a tab. -/
theorem parse_error_points_behind_name :
    let text := "\u3000 x \té"
    let e := ParseError.expectedOperator "x" 7 "'é'"
    parse text = .error e ∧ e.position? = some 7 ∧
      ∃ done rest, IsPlace text 7 done rest ∧ e.Describes done rest := by
  intro text e
  have hstart : startCursor text.toList = ⟨4, ['x', ' ', '\t', 'é']⟩ := by decide +kernel
  have hprimary : (readPrimary ⟨4, ['x', ' ', '\t', 'é']⟩).1 = (.error e, ⟨7, ['é']⟩) := by
    rw [readPrimary_val]
    rfl
  have hread : (readDisjunction ⟨4, ['x', ' ', '\t', 'é']⟩).1 = (.error e, ⟨7, ['é']⟩) := by
    have hnot : Cursor.matchKeyword "NOT".toList ⟨4, ['x', ' ', '\t', 'é']⟩ =
        (false, ⟨4, ['x', ' ', '\t', 'é']⟩) := by decide +kernel
    rw [readDisjunction_val, readConjunction_val, readNegation_val, hnot]
    dsimp only
    rw [hprimary]
  have hparse : parse text = .error e := by
    have htrim : (Text.trim text.toList).isEmpty = false := by decide +kernel
    rw [parse, parseFrom, htrim, if_neg Bool.false_ne_true, parseRest, hstart, hread]
  exact ⟨hparse, rfl, parse_error_points hparse rfl⟩

end Filter

end Sift
