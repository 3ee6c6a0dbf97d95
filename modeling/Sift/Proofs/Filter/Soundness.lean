/-
# What is read is in the language

Whatever a reading takes from a text is a spelling of what it gives, by the grammar. Each reading is
followed through its operations on the cursor: what they take is a token with a run of spaces and
tabs in front of it, and the borders of the tokens are what the operations look at. The repeated
operands of OR and AND carry the tokens of the left side along, because the filter grows to the left.

Key theorems: `exists_denotes_of_readValue`, `exists_predicate_of_readPredicate`,
`begins_of_readDisjunction`.
-/
import Sift.Proofs.Filter.Grammar
import Sift.Proofs.Filter.Recursion
import Sift.Proofs.Text.Matching

namespace Sift.Filter

variable {cursor next : Cursor}

/-! ### Single tokens -/

/-- A token that comes next, with the border that it needs, is a stretch of its own. -/
theorem spaced_singleton (token : Token) {afterNot : Bool} {after : List Char}
    (h : cursor.rest.dropWhile Text.isGap = token.text ++ after)
    (hborders : token.Borders afterNot after) : Spaced afterNot [token] cursor.rest after := by
  obtain ⟨gap, hgap, hcursor⟩ := Text.exists_gap cursor.rest
  exact ⟨gap, after, by rw [← h]; exact hcursor, hgap, hborders, rfl⟩

theorem spaced_of_matchText (token : Token) (htoken : ∀ afterNot after, token.Borders afterNot after)
    (h : cursor.matchText token.text = (true, next)) (afterNot : Bool) :
    Spaced afterNot [token] cursor.rest next.rest :=
  spaced_singleton token (Cursor.rest_of_matchText h) (htoken _ _)

theorem spaced_of_matchKeyword (word : Keyword) (h : cursor.matchKeyword word.text = (true, next))
    (afterNot : Bool) : Spaced afterNot [.keyword word] cursor.rest next.rest :=
  have ⟨hrest, hends⟩ := Cursor.rest_of_matchKeyword h
  spaced_singleton (.keyword word) hrest hends

/-- A stretch that begins behind a run of spaces and tabs begins in front of it, too. -/
theorem Spaced.of_skipGap {afterNot : Bool} {token : Token} {tokens : List Token}
    {rest : List Char} (h : Spaced afterNot (token :: tokens) cursor.skipGap.rest rest) :
    Spaced afterNot (token :: tokens) cursor.rest rest := by
  obtain ⟨gap, hgap, hcursor⟩ := Text.exists_gap cursor.rest
  rw [hcursor]
  exact h.gap_append hgap

/-! ### Values -/

theorem denotes_tokenValue {characters : List Char} (hbare : IsBare characters) :
    Denotes (.bare characters) (tokenValue characters) := by
  unfold tokenValue
  cases hinteger : Text.readInt64? characters with
  | some n => exact .integer hbare hinteger
  | none =>
    cases hnumber : Binary64.read? characters with
    | some x => exact .float hbare hinteger hnumber
    | none => exact .string hbare hinteger hnumber

/-- What is read as a value is a token that denotes it. -/
theorem exists_denotes_of_readValue {value : Value} (h : readValue cursor = (.ok value, next)) :
    ∃ token, Denotes token value ∧ ∀ afterNot, Spaced afterNot [token] cursor.rest next.rest := by
  simp only [readValue] at h
  split at h
  · split at h
    next content after hquoted =>
      cases h
      obtain ⟨hrest, hquote⟩ := Cursor.rest_of_readQuoted hquoted
      rw [← Cursor.rest_skipGap, Cursor.skipGap_skipGap] at hrest
      refine ⟨.quoted (String.ofList content), .quoted (by simpa using hquote), fun afterNot => ?_⟩
      exact spaced_singleton _ (by rw [← Cursor.rest_skipGap, hrest]; simp [Token.text]) trivial
    next => cases h
  · split at h
    next => cases h
    next token after hne hnumber =>
      cases h
      obtain ⟨hrest, htoken⟩ := Cursor.rest_of_readNumber hnumber
      rw [← Cursor.rest_skipGap, Cursor.skipGap_skipGap] at hrest
      have hbare : IsBare token := ⟨hne, htoken⟩
      exact ⟨.bare token, denotes_tokenValue hbare, fun afterNot => spaced_singleton _ hrest trivial⟩

/-- What is read up to the end of a list of values are tokens that denote them. -/
theorem exists_denotesAll_of_readValuesAfter (before : List Value) (cursor : Cursor) :
    ∀ {values : List Value}, readValuesAfter before cursor = (.ok values, next) →
      ∃ tokens more, values = before.reverse ++ more ∧ DenotesAll tokens more ∧
        ∀ afterNot, Spaced afterNot (tokens ++ [.closing]) cursor.rest next.rest := by
  fun_induction readValuesAfter before cursor with
  | case1 =>
    intro values h
    cases h
  | case2 before cursor value after hvalue _ middle hcomma _ ih =>
    intro values h
    obtain ⟨token, htoken, hspaced⟩ := exists_denotes_of_readValue hvalue
    obtain ⟨tokens, more, rfl, htokens, hmore⟩ := ih h
    refine ⟨token :: .comma :: tokens, value :: more, by simp, .more htoken htokens, ?_⟩
    intro afterNot
    have hcomma := spaced_of_matchText .comma (fun _ _ => trivial) hcomma
    exact (hspaced afterNot).append fun _ => (hcomma _).append hmore
  | case3 before cursor value after hvalue _ middle hcomma last hclose =>
    intro values h
    cases h
    obtain ⟨token, htoken, hspaced⟩ := exists_denotes_of_readValue hvalue
    refine ⟨[token], [value], by simp, .one htoken, fun afterNot => ?_⟩
    rw [(Cursor.eq_skipGap_of_matchText hcomma).1, Cursor.matchText_skipGap] at hclose
    exact (hspaced afterNot).append
      (spaced_of_matchText .closing (fun _ _ => trivial) hclose)
  | case4 =>
    intro values h
    cases h

theorem exists_denotesAll_of_readValues {values : List Value}
    (h : readValues cursor = (.ok values, next)) :
    ∃ tokens, DenotesAll tokens values ∧
      ∀ afterNot, Spaced afterNot (.opening :: (tokens ++ [.closing])) cursor.rest next.rest := by
  rw [readValues] at h
  split at h
  next after hopen =>
    obtain ⟨tokens, more, rfl, htokens, hspaced⟩ := exists_denotesAll_of_readValuesAfter [] after h
    have hopen := spaced_of_matchText .opening (fun _ _ => trivial) hopen
    exact ⟨tokens, htokens, fun afterNot => (hopen afterNot).append hspaced⟩
  next => cases h

/-- What is read as the operand of a pattern operator is a token that denotes a string. -/
theorem exists_denotes_of_readPatternText {operator source : String}
    (h : readPatternText operator cursor = (.ok source, next)) :
    ∃ token, Denotes token (.string source) ∧
      ∀ afterNot, Spaced afterNot [token] cursor.rest next.rest := by
  simp only [readPatternText] at h
  split at h
  next => cases h
  next hvalue =>
    cases h
    obtain ⟨token, htoken, hspaced⟩ := exists_denotes_of_readValue hvalue
    exact ⟨token, htoken, fun afterNot => (hspaced afterNot).of_skipGap⟩
  next => cases h

/-! ### Conditions on a field -/

theorem mapOutcome_eq_ok {α β : Type} {f : α → β} {outcome : Outcome α} {b : β}
    (h : mapOutcome f outcome = (.ok b, next)) : ∃ a, outcome = (.ok a, next) ∧ f a = b := by
  rcases outcome with ⟨_ | a, after⟩
  · cases h
  · cases h
    exact ⟨a, rfl, rfl⟩

/-- What is read as an operator is its sign. -/
theorem spaced_of_readOperator {operator : Comparison} : ∀ {operators : List Comparison}
    {cursor : Cursor}, readOperator operators cursor = (some operator, next) →
      ∀ afterNot, Spaced afterNot [.sign operator] cursor.rest next.rest
  | [], _, h => nomatch h
  | candidate :: operators, cursor, h => by
    rw [readOperator] at h
    split at h
    next hmatch =>
      cases h
      exact spaced_of_matchText (.sign operator) (fun _ _ => trivial) hmatch
    next hmatch =>
      rw [(Cursor.eq_skipGap_of_matchText hmatch).1] at h
      exact fun afterNot => (spaced_of_readOperator h afterNot).of_skipGap

theorem exists_predicate_of_readBounds {field : String} {filter : Filter}
    (h : readBounds field cursor = (.ok filter, next)) :
    ∃ first second, Predicate field [.keyword .between, first, .keyword .and, second] filter ∧
      ∀ afterNot, Spaced afterNot [first, .keyword .and, second] cursor.rest next.rest := by
  rw [readBounds] at h
  split at h
  next => cases h
  next lower after hlower =>
    split at h
    next middle hand =>
      obtain ⟨upper, hupper, rfl⟩ := mapOutcome_eq_ok h
      obtain ⟨first, hfirst, hspaced⟩ := exists_denotes_of_readValue hlower
      obtain ⟨second, hsecond, hmore⟩ := exists_denotes_of_readValue hupper
      have hand := spaced_of_matchKeyword .and hand
      exact ⟨first, second, .between hfirst hsecond,
        fun afterNot => (hspaced afterNot).append fun _ => (hand _).append hmore⟩
    next => cases h

theorem exists_predicate_of_readComparison {field : String} {filter : Filter}
    (h : readComparison field cursor = (.ok filter, next)) :
    ∃ operator token, Predicate field [.sign operator, token] filter ∧
      ∀ afterNot, Spaced afterNot [.sign operator, token] cursor.rest next.rest := by
  rw [readComparison] at h
  split at h
  next operator after hoperator =>
    obtain ⟨value, hvalue, rfl⟩ := mapOutcome_eq_ok h
    obtain ⟨token, htoken, hmore⟩ := exists_denotes_of_readValue hvalue
    exact ⟨operator, token, .compare operator htoken,
      fun afterNot => (spaced_of_readOperator hoperator afterNot).append hmore⟩
  next => cases h

/-- What is read behind the name of a field are the tokens of a condition on the field. -/
theorem exists_predicate_of_readPredicate {field : String} {filter : Filter}
    (h : readPredicate field cursor = (.ok filter, next)) :
    ∃ tokens, Predicate field tokens filter ∧
      ∀ afterNot, Spaced afterNot tokens cursor.rest next.rest := by
  rw [readPredicate] at h
  split at h
  next after hmember =>
    obtain ⟨values, hvalues, rfl⟩ := mapOutcome_eq_ok h
    obtain ⟨tokens, htokens, hspaced⟩ := exists_denotesAll_of_readValues hvalues
    have hmember := spaced_of_matchKeyword .member hmember
    exact ⟨_, .member htokens, fun afterNot => (hmember afterNot).append hspaced⟩
  next cursor₁ hmember =>
  -- A keyword that is not there leaves the cursor behind the gap, where the next one is tried.
  obtain rfl := (Cursor.eq_skipGap_of_matchKeyword hmember).1
  simp only [Cursor.matchKeyword_skipGap] at h
  split at h
  next after hnot =>
    split at h
    next after' hmember' =>
      obtain ⟨values, hvalues, rfl⟩ := mapOutcome_eq_ok h
      obtain ⟨tokens, htokens, hspaced⟩ := exists_denotesAll_of_readValues hvalues
      have hnot := spaced_of_matchKeyword .not hnot
      have hmember' := spaced_of_matchKeyword .member hmember'
      exact ⟨_, .notMember htokens,
        fun afterNot => (hnot afterNot).append fun _ => (hmember' _).append hspaced⟩
    next => cases h
  next cursor₂ hnot =>
  obtain rfl := (Cursor.eq_skipGap_of_matchKeyword hnot).1
  simp only [Cursor.matchKeyword_skipGap] at h
  split at h
  next after hbetween =>
    obtain ⟨_, _, hpredicate, hspaced⟩ := exists_predicate_of_readBounds h
    have hbetween := spaced_of_matchKeyword .between hbetween
    exact ⟨_, hpredicate, fun afterNot => (hbetween afterNot).append hspaced⟩
  next cursor₃ hbetween =>
  obtain rfl := (Cursor.eq_skipGap_of_matchKeyword hbetween).1
  simp only [Cursor.matchKeyword_skipGap] at h
  split at h
  next after hlike =>
    obtain ⟨source, hsource, rfl⟩ := mapOutcome_eq_ok h
    obtain ⟨token, htoken, hspaced⟩ := exists_denotes_of_readPatternText hsource
    have hlike := spaced_of_matchKeyword .like hlike
    exact ⟨_, .like htoken, fun afterNot => (hlike afterNot).append hspaced⟩
  next cursor₄ hlike =>
  obtain rfl := (Cursor.eq_skipGap_of_matchKeyword hlike).1
  simp only [Cursor.matchKeyword_skipGap] at h
  split at h
  next after hregexp =>
    obtain ⟨source, hsource, rfl⟩ := mapOutcome_eq_ok h
    obtain ⟨token, htoken, hspaced⟩ := exists_denotes_of_readPatternText hsource
    have hregexp := spaced_of_matchKeyword .regexp hregexp
    exact ⟨_, .regexp htoken, fun afterNot => (hregexp afterNot).append hspaced⟩
  next cursor₅ hregexp =>
  obtain rfl := (Cursor.eq_skipGap_of_matchKeyword hregexp).1
  obtain ⟨_, _, hpredicate, hspaced⟩ := exists_predicate_of_readComparison h
  exact ⟨_, hpredicate, fun afterNot => (hspaced afterNot).of_skipGap⟩

/-! ### Filters -/

/-- Whether a text begins with a spelling of a filter; between it and the rest there may be a run of
spaces and tabs. -/
def Begins (level : Level) (filter : Filter) (text rest : List Char) : Prop :=
  ∃ tokens gap, (∀ c ∈ gap, Text.isGap c = true) ∧ Derives level tokens filter ∧
    Spaced false tokens text (gap ++ rest)

theorem Begins.imp {level level' : Level} {filter : Filter} {text rest : List Char}
    (himp : ∀ {tokens}, Derives level tokens filter → Derives level' tokens filter)
    (h : Begins level filter text rest) : Begins level' filter text rest := by
  obtain ⟨tokens, gap, hgap, hderives, hspaced⟩ := h
  exact ⟨tokens, gap, hgap, himp hderives, hspaced⟩

/-- A spelling, a keyword and another spelling. -/
theorem Begins.join {level level' level'' : Level} {left right filter : Filter}
    {text rest : List Char} (word : Keyword) (hword : word ≠ .not) {cursor next : Cursor}
    (hderives : ∀ {tokens more}, Derives level tokens left → Derives level' more right →
      Derives level'' (tokens ++ .keyword word :: more) filter)
    (hleft : Begins level left text cursor.rest)
    (hmatch : cursor.matchKeyword word.text = (true, next))
    (hright : Begins level' right next.rest rest) : Begins level'' filter text rest := by
  obtain ⟨tokens, gap, hgap, htokens, hspaced⟩ := hleft
  obtain ⟨more, gap', hgap', hmore, hspaced'⟩ := hright
  refine ⟨_, gap', hgap', hderives htokens hmore, hspaced.append fun afterNot => ?_⟩
  have hnot : (Token.keyword word).isNot = false := by
    cases word <;> first | rfl | exact absurd rfl hword
  exact ((spaced_of_matchKeyword word hmatch afterNot).cons (hnot ▸ hspaced')).gap_append hgap

theorem gap_eq_nil_of_not_endsKeyword {gap cs : List Char}
    (hgap : ∀ c ∈ gap, Text.isGap c = true) (h : ¬ Cursor.endsKeyword (gap ++ cs) = true) :
    gap = [] := by
  cases gap with
  | nil => rfl
  | cons c gap =>
    refine absurd ?_ h
    simp [Cursor.endsKeyword, hgap c List.mem_cons_self]

/-- Where neither a keyword nor a name goes on, a condition can only begin with an operator. -/
theorem exists_symbol_ahead {field : String} {tokens : List Token} {filter : Filter}
    {afterNot : Bool} {text rest : List Char} (h : Predicate field tokens filter)
    (hspaced : Spaced afterNot tokens text rest) (hends : ¬ Cursor.endsKeyword text = true)
    (hhead : ∀ c ∈ text.head?, Cursor.isNameCharacter c = false) :
    ∃ operator : Comparison, operator.symbol <+: text := by
  have hkeyword : ∀ {word : Keyword} {tokens : List Token},
      ¬ Spaced afterNot (.keyword word :: tokens) text rest := by
    rintro word tokens ⟨gap, after, rfl, hgap, -, -⟩
    obtain rfl := gap_eq_nil_of_not_endsKeyword hgap hends
    obtain ⟨c, hc, hname, -⟩ := beginsWith_keyword word
    have := hhead c (by simp [hc.1])
    rw [hname] at this
    cases this
  cases h with
  | compare operator _ =>
    obtain ⟨gap, after, rfl, hgap, -, -⟩ := hspaced
    obtain rfl := gap_eq_nil_of_not_endsKeyword hgap hends
    exact ⟨operator, after, rfl⟩
  | _ => exact absurd hspaced hkeyword

/-- A run of spaces and tabs in front of the rest does not count. -/
theorem Begins.skipGap {level : Level} {filter : Filter} {text : List Char}
    (h : Begins level filter text cursor.rest) : Begins level filter text cursor.skipGap.rest := by
  obtain ⟨tokens, gap, hgap, hderives, hspaced⟩ := h
  obtain ⟨gap', hgap', hcursor⟩ := Text.exists_gap cursor.rest
  refine ⟨tokens, gap ++ gap', fun c hc => ?_, hderives, ?_⟩
  · exact (List.mem_append.mp hc).elim (hgap c) (hgap' c)
  · rw [List.append_assoc, Cursor.rest_skipGap, ← hcursor]
    exact hspaced

mutual

/-- What is read as a disjunction is spelled by the text. -/
theorem begins_of_readDisjunction (cursor : Cursor) {filter : Filter} {next : Cursor}
    (h : (readDisjunction cursor).1 = (.ok filter, next)) :
    Begins .disjunction filter cursor.rest next.rest := by
  rw [readDisjunction_val] at h
  split at h
  next => cases h
  next left after hleft =>
    have hle := left_le_of_eq hleft (readConjunction cursor).2
    exact begins_of_readMoreOr left after
      ((begins_of_readConjunction cursor hleft).imp .ofConjunction) h
termination_by 6 * cursor.left + 5

theorem begins_of_readMoreOr (left : Filter) (cursor : Cursor) {filter : Filter} {next : Cursor}
    {text : List Char} (hleft : Begins .disjunction left text cursor.rest)
    (h : (readMoreOr left cursor).1 = (.ok filter, next)) :
    Begins .disjunction filter text next.rest := by
  rw [readMoreOr_val] at h
  split at h
  next after hor =>
    cases h
    rw [(Cursor.eq_skipGap_of_matchKeyword hor).1]
    exact hleft.skipGap
  next after hor =>
    have hafter := Cursor.left_lt_of_matchKeyword (by simp) hor
    split at h
    next => cases h
    next right middle hright =>
      have hle := left_le_of_eq hright (readConjunction after).2
      have hjoin := hleft.join .or (by decide) .or hor (begins_of_readConjunction after hright)
      exact begins_of_readMoreOr _ middle hjoin h
termination_by 6 * cursor.left

/-- What is read as a conjunction is spelled by the text. -/
theorem begins_of_readConjunction (cursor : Cursor) {filter : Filter} {next : Cursor}
    (h : (readConjunction cursor).1 = (.ok filter, next)) :
    Begins .conjunction filter cursor.rest next.rest := by
  rw [readConjunction_val] at h
  split at h
  next => cases h
  next left after hleft =>
    have hle := left_le_of_eq hleft (readNegation cursor).2
    exact begins_of_readMoreAnd left after
      ((begins_of_readNegation cursor hleft).imp .ofNegation) h
termination_by 6 * cursor.left + 4

theorem begins_of_readMoreAnd (left : Filter) (cursor : Cursor) {filter : Filter} {next : Cursor}
    {text : List Char} (hleft : Begins .conjunction left text cursor.rest)
    (h : (readMoreAnd left cursor).1 = (.ok filter, next)) :
    Begins .conjunction filter text next.rest := by
  rw [readMoreAnd_val] at h
  split at h
  next after hand =>
    cases h
    rw [(Cursor.eq_skipGap_of_matchKeyword hand).1]
    exact hleft.skipGap
  next after hand =>
    have hafter := Cursor.left_lt_of_matchKeyword (by simp) hand
    split at h
    next => cases h
    next right middle hright =>
      have hle := left_le_of_eq hright (readNegation after).2
      have hjoin := hleft.join .and (by decide) .and hand (begins_of_readNegation after hright)
      exact begins_of_readMoreAnd _ middle hjoin h
termination_by 6 * cursor.left

/-- What is read as a negation is spelled by the text. -/
theorem begins_of_readNegation (cursor : Cursor) {filter : Filter} {next : Cursor}
    (h : (readNegation cursor).1 = (.ok filter, next)) :
    Begins .negation filter cursor.rest next.rest := by
  rw [readNegation_val] at h
  split at h
  next after hnot =>
    have hafter := Cursor.left_lt_of_matchKeyword (by simp) hnot
    obtain ⟨operand, hoperand, rfl⟩ := mapOutcome_eq_ok h
    obtain ⟨tokens, htokens, hspaced⟩ := exists_derives_of_readPrimary after true hoperand (.inl rfl)
    exact ⟨_, [], by simp, .not htokens, (spaced_of_matchKeyword .not hnot false).cons hspaced⟩
  next after hnot =>
    obtain ⟨rfl, hahead⟩ := Cursor.eq_skipGap_of_matchKeyword hnot
    rw [readPrimary_skipGap] at h
    obtain ⟨tokens, htokens, hspaced⟩ := exists_derives_of_readPrimary cursor false h (.inr hahead)
    exact ⟨tokens, [], by simp, .ofPrimary htokens, hspaced⟩
termination_by 6 * cursor.left + 3

/-- What is read as a primary is spelled by the text. Behind the keyword NOT the name of its field
may be NOT whatever follows it; elsewhere the text must not begin with the keyword. -/
theorem exists_derives_of_readPrimary (cursor : Cursor) (afterNot : Bool) {filter : Filter}
    {next : Cursor} (h : (readPrimary cursor).1 = (.ok filter, next))
    (hnot : afterNot = true ∨ ¬ Cursor.KeywordAhead "NOT".toList cursor.rest) :
    ∃ tokens, Derives .primary tokens filter ∧ Spaced afterNot tokens cursor.rest next.rest := by
  rw [readPrimary_val] at h
  rw [Cursor.matchText_skipGap] at h
  split at h
  next inside hopen =>
    have hinside := Cursor.left_lt_of_matchText (by simp) hopen
    split at h
    next => cases h
    next operand after hoperand =>
      split at h
      next last hclose =>
        cases h
        obtain ⟨tokens, gap, hgap, htokens, hspaced⟩ := begins_of_readDisjunction inside hoperand
        refine ⟨_, .group htokens, (spaced_of_matchText .opening (fun _ _ => trivial) hopen _).cons ?_⟩
        refine hspaced.append fun afterNot' => ?_
        exact (spaced_of_matchText .closing (fun _ _ => trivial) hclose afterNot').gap_append hgap
      next => cases h
  next start hopen =>
    obtain rfl := (Cursor.eq_skipGap_of_matchText hopen).1
    split at h
    next => cases h
    next field after hne hfield =>
      obtain ⟨hrest, hname, hhead⟩ := Cursor.rest_of_readIdentifier hfield
      rw [← Cursor.rest_skipGap, Cursor.skipGap_skipGap] at hrest
      obtain ⟨tokens, hpredicate, hspaced⟩ := exists_predicate_of_readPredicate h
      have hborders : (Token.name (String.ofList field)).Borders afterNot after.rest := by
        refine ⟨hhead, fun heq hafterNot => exists_symbol_ahead hpredicate (hspaced false) ?_ hhead⟩
        intro hends
        rcases hnot with htrue | hahead
        · rw [hafterNot] at htrue
          cases htrue
        · refine hahead ⟨after.rest, ?_, hends⟩
          rw [← Cursor.rest_skipGap, hrest, ← heq, String.toList_ofList]
      refine ⟨_, .predicate ⟨by simpa using hne, by simpa using hname⟩ hpredicate, ?_⟩
      refine Spaced.cons (spaced_singleton (.name (String.ofList field)) ?_ hborders) (hspaced _)
      rw [← Cursor.rest_skipGap, hrest, Token.text, String.toList_ofList]
termination_by 6 * cursor.left + 2

end

end Sift.Filter
