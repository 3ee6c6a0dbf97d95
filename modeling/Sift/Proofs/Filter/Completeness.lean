/-
# What is in the language is read

A text that begins with a spelling of a filter is read as that filter, and the reading stops where the
spelling does. The readings choose their way by the first character behind a run of spaces and tabs;
so for each of them it is enough to know the first character of the next token. Only the keyword NOT
and a field of that name begin alike, and there the border of the name decides.

What follows a spelling must not go on with it: a value without quotes ends where no further
character of one follows, and the operands of a disjunction are read before the next OR is looked for,
so that no AND may follow. Because OR and AND group to the left, the spelling of a disjunction is read
up to the point where another operand could be added (`Reads`).

Key definitions: `Stops`, `Reads`, `ReadsAs`.
Key theorems: `exists_readValue`, `exists_readPredicate`, `reads_of_derives`.
-/
import Sift.Proofs.Filter.Grammar
import Sift.Proofs.Filter.Recursion
import Sift.Proofs.Text.Matching

namespace Sift.Filter

variable {cursor next : Cursor} {afterNot : Bool} {tokens : List Token} {rest : List Char}

/-! ### The next token -/

/-- Behind the run of spaces and tabs in front of it stands the next token. -/
theorem exists_of_spaced_cons {token : Token} {text : List Char} {c : Char}
    (hc : token.BeginsWith c) (h : Spaced afterNot (token :: tokens) text rest) :
    ∃ after, text.dropWhile Text.isGap = token.text ++ after ∧ token.Borders afterNot after ∧
      Spaced token.isNot tokens after rest := by
  obtain ⟨gap, after, rfl, hgap, hborders, htokens⟩ := h
  refine ⟨after, ?_, hborders, htokens⟩
  rw [Text.dropWhile_isGap_append hgap]
  obtain ⟨hhead, hc⟩ := hc
  rcases htext : token.text with _ | ⟨c', cs⟩
  · simp [htext] at hhead
  · obtain rfl : c' = c := by simpa [htext] using hhead
    simp [hc]

theorem head_of_spaced_cons {token : Token} {text : List Char} {c : Char}
    (hc : token.BeginsWith c) (h : Spaced afterNot (token :: tokens) text rest) :
    (text.dropWhile Text.isGap).head? = some c := by
  obtain ⟨after, htext, -, -⟩ := exists_of_spaced_cons hc h
  rw [htext, List.head?_append, hc.1]
  rfl

/-- A text that begins with another character does not come next. -/
theorem matchText_of_head {c c' : Char} {cs : List Char}
    (hc : (cursor.rest.dropWhile Text.isGap).head? = some c) (hne : c' ≠ c) :
    cursor.matchText (c' :: cs) = (false, cursor.skipGap) := by
  refine Cursor.matchText_of_not_ahead fun ⟨after, hafter⟩ => hne ?_
  rw [← hafter] at hc
  simpa using hc

theorem not_keywordAhead_of_head (word : Keyword) {text : List Char} {c : Char}
    (hc : (text.dropWhile Text.isGap).head? = some c) (hne : word.text.head? ≠ some c) :
    ¬ Cursor.KeywordAhead word.text text := by
  rintro ⟨after, hafter, -⟩
  obtain ⟨c', ⟨hc', -⟩, -⟩ := beginsWith_keyword word
  rw [hafter, List.head?_append, show word.text.head? = some c' from hc'] at hc
  exact hne (hc'.trans hc)

theorem matchKeyword_of_head (word : Keyword) {c : Char}
    (hc : (cursor.rest.dropWhile Text.isGap).head? = some c) (hne : word.text.head? ≠ some c) :
    cursor.matchKeyword word.text = (false, cursor.skipGap) :=
  Cursor.matchKeyword_of_not_ahead (not_keywordAhead_of_head word hc hne)

theorem not_keywordAhead_nil {keyword : List Char} (hne : keyword ≠ []) :
    ¬ Cursor.KeywordAhead keyword [] := by
  rintro ⟨after, hafter, -⟩
  exact hne (List.append_eq_nil_iff.mp hafter.symm).1

theorem head_of_keyword {word : Keyword} {text : List Char}
    (h : Spaced afterNot (.keyword word :: tokens) text rest) :
    (text.dropWhile Text.isGap).head? = word.text.head? := by
  obtain ⟨c, hc, -⟩ := beginsWith_keyword word
  rw [head_of_spaced_cons hc h]
  exact hc.1.symm

/-- A token that is a fixed text is taken. -/
theorem exists_matchText_of_spaced {token : Token} {c : Char} (hc : token.BeginsWith c)
    (h : Spaced afterNot (token :: tokens) cursor.rest rest) :
    ∃ next, cursor.matchText token.text = (true, next) ∧
      Spaced token.isNot tokens next.rest rest := by
  obtain ⟨after, htext, -, htokens⟩ := exists_of_spaced_cons hc h
  obtain ⟨next, hnext, rfl⟩ := Cursor.exists_matchText htext
  exact ⟨next, hnext, htokens⟩

/-- A keyword is taken. -/
theorem exists_matchKeyword_of_spaced {word : Keyword}
    (h : Spaced afterNot (.keyword word :: tokens) cursor.rest rest) :
    ∃ next, cursor.matchKeyword word.text = (true, next) ∧
      Spaced (Token.keyword word).isNot tokens next.rest rest := by
  obtain ⟨c, hc, -⟩ := beginsWith_keyword word
  obtain ⟨after, htext, hends, htokens⟩ := exists_of_spaced_cons hc h
  obtain ⟨next, hnext, rfl⟩ := Cursor.exists_matchKeyword htext hends
  exact ⟨next, hnext, htokens⟩

/-- Whether a value without quotes that ends in front of a text ends there for a reader. -/
def Stops (text : List Char) : Prop :=
  ∀ c ∈ text.head?, Cursor.isTokenCharacter c = false

theorem stops_nil : Stops [] := by
  simp [Stops]

/-- A value ends in front of a token that begins with no character of a value. -/
theorem stops_of_spaced {token : Token} {text : List Char} {c : Char} (hc : token.BeginsWith c)
    (htoken : Cursor.isTokenCharacter c = false) (h : Spaced afterNot (token :: tokens) text rest) :
    Stops text := by
  obtain ⟨gap, after, rfl, hgap, -, -⟩ := h
  rcases gap with _ | ⟨g, gap⟩
  · intro c' hc'
    have : (token.text ++ after).head? = some c := by
      rw [List.head?_append, hc.1]
      rfl
    rw [List.nil_append, this] at hc'
    rwa [← Option.mem_some.mp hc']
  · intro c' hc'
    obtain rfl : g = c' := by simpa using hc'
    exact (character_of_isGap (hgap g List.mem_cons_self)).2

theorem stops_of_keyword {word : Keyword} {text : List Char}
    (h : Spaced afterNot (.keyword word :: tokens) text rest) : Stops text := by
  obtain ⟨c, hc, -, htoken⟩ := beginsWith_keyword word
  exact stops_of_spaced hc htoken h

/-! ### Values -/

theorem readValue_skipGap (cursor : Cursor) : readValue cursor.skipGap = readValue cursor := by
  simp only [readValue, Cursor.skipGap_skipGap]

/-- A token that denotes a value is read as the value. -/
theorem exists_readValue {token : Token} {value : Value} (hdenotes : Denotes token value)
    (h : Spaced afterNot [token] cursor.rest rest) (hstops : Stops rest) :
    ∃ next, readValue cursor = (.ok value, next) ∧ next.rest = rest := by
  obtain ⟨c, hc, -⟩ := beginsWith_of_denotes hdenotes
  obtain ⟨after, htext, -, rfl⟩ := exists_of_spaced_cons hc h
  rw [← Cursor.rest_skipGap] at htext
  have htext' := htext
  rw [← Cursor.skipGap_skipGap, Cursor.rest_skipGap] at htext'
  have hbare : ∀ {characters : List Char}, token = .bare characters → IsBare characters →
      ∃ next, readValue cursor = (.ok (tokenValue characters), next) ∧ next.rest = after := by
    rintro characters rfl ⟨hne, htoken⟩
    obtain ⟨next, hnumber, hnext⟩ := Cursor.exists_readNumber htext' htoken hstops
    rw [Token.text] at hnumber
    refine ⟨next, ?_, hnext⟩
    have hquote : cursor.skipGap.rest.head? ≠ some '\'' := by
      rcases characters with _ | ⟨d, cs⟩
      · exact absurd rfl hne
      · rw [htext]
        intro heq
        obtain rfl : d = '\'' := by simpa [Token.text] using heq
        have := htoken _ List.mem_cons_self
        revert this
        decide
    rcases characters with _ | ⟨d, cs⟩
    · exact absurd rfl hne
    · simp only [readValue, hquote, ↓reduceIte, hnumber]
  cases hdenotes with
  | @quoted content hquote =>
    have htext'' : cursor.skipGap.rest.dropWhile Text.isGap =
        '\'' :: (content.toList ++ '\'' :: after) := by
      rw [htext']
      simp [Token.text]
    obtain ⟨next, hquoted, hnext⟩ := Cursor.exists_readQuoted htext'' hquote
    refine ⟨next, ?_, hnext⟩
    have hhead : cursor.skipGap.rest.head? = some '\'' := by
      rw [htext]
      rfl
    simp only [readValue, hhead, ↓reduceIte, hquoted, String.ofList_toList]
  | integer h' hinteger =>
    have := hbare rfl h'
    rwa [tokenValue, hinteger] at this
  | float h' hinteger hnumber =>
    have := hbare rfl h'
    rwa [tokenValue, hinteger, hnumber] at this
  | string h' hinteger hnumber =>
    have := hbare rfl h'
    rwa [tokenValue, hinteger, hnumber] at this

/-- Tokens that denote values are read as the values up to the end of their list. -/
theorem exists_readValuesAfter {values : List Value} (h : DenotesAll tokens values) :
    ∀ (before : List Value) {afterNot : Bool} {cursor : Cursor},
      Spaced afterNot (tokens ++ [.closing]) cursor.rest rest →
      ∃ next, readValuesAfter before cursor = (.ok (before.reverse ++ values), next) ∧
        next.rest = rest := by
  induction h with
  | @one token value hvalue =>
    intro before afterNot cursor hspaced
    obtain ⟨_, middle, hfirst, hclose⟩ := exists_of_spaced_append hspaced
    have hstops := stops_of_spaced beginsWith_closing (by decide) hclose
    obtain ⟨after, hafter, rfl⟩ := exists_readValue hvalue hfirst hstops
    obtain ⟨next, hnext, rfl⟩ := exists_matchText_of_spaced beginsWith_closing hclose
    have hcomma : after.matchText [','] = (false, after.skipGap) :=
      matchText_of_head (head_of_spaced_cons beginsWith_closing hclose) (by decide)
    refine ⟨next, ?_, rfl⟩
    rw [readValuesAfter_eq, hafter]
    simp only [hcomma, Cursor.matchText_skipGap]
    rw [show after.matchText [')'] = (true, next) from hnext]
    simp
  | @more token value tokens values hvalue _ ih =>
    intro before afterNot cursor hspaced
    obtain ⟨_, middle, hfirst, hmore⟩ :=
      exists_of_spaced_append (show Spaced afterNot ([token] ++ (.comma :: (tokens ++ [.closing])))
        cursor.rest rest from hspaced)
    have hstops := stops_of_spaced beginsWith_comma (by decide) hmore
    obtain ⟨after, hafter, rfl⟩ := exists_readValue hvalue hfirst hstops
    obtain ⟨next, hnext, htokens⟩ := exists_matchText_of_spaced beginsWith_comma hmore
    obtain ⟨last, hlast, hrest⟩ := ih (value :: before) htokens
    refine ⟨last, ?_, hrest⟩
    rw [readValuesAfter_eq, hafter]
    simp only [show after.matchText [','] = (true, next) from hnext]
    rw [hlast]
    simp

theorem exists_readValues {values : List Value} (h : DenotesAll tokens values)
    (hspaced : Spaced afterNot (.opening :: (tokens ++ [.closing])) cursor.rest rest) :
    ∃ next, readValues cursor = (.ok values, next) ∧ next.rest = rest := by
  obtain ⟨after, hopen, htokens⟩ := exists_matchText_of_spaced beginsWith_opening hspaced
  obtain ⟨next, hnext, hrest⟩ := exists_readValuesAfter h [] htokens
  refine ⟨next, ?_, hrest⟩
  rw [readValues, show cursor.matchText ['('] = (true, after) from hopen]
  simpa using hnext

theorem exists_readPatternText (operator : String) {source : String} {token : Token}
    (hdenotes : Denotes token (.string source)) (h : Spaced afterNot [token] cursor.rest rest)
    (hstops : Stops rest) :
    ∃ next, readPatternText operator cursor = (.ok source, next) ∧ next.rest = rest := by
  obtain ⟨next, hnext, hrest⟩ := exists_readValue hdenotes h hstops
  refine ⟨next, ?_, hrest⟩
  simp only [readPatternText, readValue_skipGap, hnext]

/-! ### Conditions on a field -/

/-- The sign of an operator is taken when no operator before it in the list comes next. -/
theorem exists_readOperator {operator : Comparison} {after : List Char} :
    ∀ {operators : List Comparison} {cursor : Cursor}, operator ∈ operators →
      cursor.rest.dropWhile Text.isGap = operator.symbol ++ after →
      (∀ candidate ∈ operators.takeWhile (· != operator),
        ¬ candidate.symbol <+: operator.symbol ++ after) →
      ∃ next, readOperator operators cursor = (some operator, next) ∧ next.rest = after
  | [], _, hmem, _, _ => nomatch hmem
  | candidate :: operators, cursor, hmem, htext, hbefore => by
    rw [readOperator]
    by_cases heq : candidate = operator
    · subst heq
      obtain ⟨next, hnext, hrest⟩ := Cursor.exists_matchText htext
      exact ⟨next, by rw [hnext], hrest⟩
    · have htake : (candidate :: operators).takeWhile (· != operator) =
          candidate :: operators.takeWhile (· != operator) := by simp [heq]
      rw [htake] at hbefore
      have hprefix := hbefore candidate List.mem_cons_self
      rw [← htext] at hprefix
      have hmem' : operator ∈ operators := by
        rcases List.mem_cons.mp hmem with h | h
        · exact absurd h.symm heq
        · exact h
      rw [Cursor.matchText_of_not_ahead hprefix]
      refine exists_readOperator hmem' ?_ fun c hc => hbefore c (List.mem_cons_of_mem _ hc)
      rw [← Cursor.rest_skipGap, Cursor.skipGap_skipGap, Cursor.rest_skipGap, htext]

/-- No sign is taken for a shorter one: those of two characters are looked for first, and no value
begins with the second character of one. -/
theorem not_symbol_ahead {operator candidate : Comparison} {after : List Char}
    (hafter : after.head? ≠ some '=')
    (hmem : candidate ∈ Comparison.all.takeWhile (· != operator)) :
    ¬ candidate.symbol <+: operator.symbol ++ after := by
  have hprefix : ¬ ['='] <+: after := by
    rintro ⟨rest, rfl⟩
    exact hafter rfl
  cases operator <;> cases candidate <;>
    first
    | exact absurd hmem (by decide)
    | simp [Comparison.symbol, List.cons_prefix_cons, hprefix]

/-- A value does not begin with an equals sign, with or without a run of spaces and tabs. -/
theorem head_ne_eq_of_denotes {token : Token} {value : Value} {text : List Char}
    (hdenotes : Denotes token value) (h : Spaced afterNot (token :: tokens) text rest) :
    text.head? ≠ some '=' := by
  obtain ⟨c, hc, hvalue⟩ := beginsWith_of_denotes hdenotes
  have hhead := head_of_spaced_cons hc h
  rcases text with _ | ⟨d, text⟩
  · simp
  · intro heq
    obtain rfl : d = '=' := by simpa using heq
    obtain rfl : '=' = c := by
      rw [List.dropWhile_cons_of_neg (by decide)] at hhead
      simpa using hhead
    revert hvalue
    decide

theorem mapOutcome_ok {α β : Type} (f : α → β) (a : α) (cursor : Cursor) :
    mapOutcome f (.ok a, cursor) = (.ok (f a), cursor) := rfl

/-- The tokens of a condition on a field are read as the condition. -/
theorem exists_readPredicate {field : String} {filter : Filter} (h : Predicate field tokens filter)
    (hspaced : Spaced afterNot tokens cursor.rest rest) (hstops : Stops rest) :
    ∃ next, readPredicate field cursor = (.ok filter, next) ∧ next.rest = rest := by
  cases h with
  | @compare token value operator hvalue =>
    obtain ⟨c, hc, hsign⟩ := beginsWith_sign operator
    have hhead := head_of_spaced_cons hc hspaced
    have hne : ∀ word : Keyword, word.text.head? ≠ some c := by
      intro word
      simp only [List.mem_cons, List.not_mem_nil, or_false] at hsign
      rcases hsign with rfl | rfl | rfl | rfl <;> cases word <;> decide
    obtain ⟨after, htext, -, hmore⟩ := exists_of_spaced_cons hc hspaced
    rw [← Cursor.rest_skipGap, ← Cursor.skipGap_skipGap, Cursor.rest_skipGap] at htext
    obtain ⟨middle, hmiddle, rfl⟩ := exists_readOperator (by cases operator <;> decide) htext
      fun _ => not_symbol_ahead (head_ne_eq_of_denotes hvalue hmore)
    obtain ⟨next, hnext, hrest⟩ := exists_readValue hvalue hmore hstops
    refine ⟨next, ?_, hrest⟩
    simp only [readPredicate, toList_eq_text, Cursor.matchKeyword_skipGap,
      fun word => matchKeyword_of_head word hhead (hne word)]
    simp only [readComparison, hmiddle, hnext, mapOutcome_ok]
  | @member _ values hvalues =>
    obtain ⟨after, hmember, hmore⟩ := exists_matchKeyword_of_spaced hspaced
    obtain ⟨next, hnext, hrest⟩ := exists_readValues hvalues hmore
    refine ⟨next, ?_, hrest⟩
    simp only [readPredicate, toList_eq_text, hmember, hnext, mapOutcome_ok]
  | @notMember _ values hvalues =>
    obtain ⟨middle, hnot, hmore⟩ := exists_matchKeyword_of_spaced hspaced
    obtain ⟨after, hmember, hmore⟩ := exists_matchKeyword_of_spaced hmore
    obtain ⟨next, hnext, hrest⟩ := exists_readValues hvalues hmore
    refine ⟨next, ?_, hrest⟩
    have hhead := head_of_keyword hspaced
    simp only [readPredicate, toList_eq_text, matchKeyword_of_head .member hhead (by decide),
      Cursor.matchKeyword_skipGap, hnot, hmember, hnext, mapOutcome_ok]
  | @between first second lower upper hlower hupper =>
    obtain ⟨after, hbetween, hmore⟩ := exists_matchKeyword_of_spaced hspaced
    obtain ⟨_, middle, hfirst, hmore⟩ := exists_of_spaced_append
      (show Spaced _ ([first] ++ [.keyword .and, second]) after.rest rest from hmore)
    have hstops' := stops_of_keyword hmore
    obtain ⟨middle', hmiddle, rfl⟩ := exists_readValue hlower hfirst hstops'
    obtain ⟨last, hand, hsecond⟩ := exists_matchKeyword_of_spaced hmore
    obtain ⟨next, hnext, hrest⟩ := exists_readValue hupper hsecond hstops
    refine ⟨next, ?_, hrest⟩
    have hhead := head_of_keyword hspaced
    simp only [readPredicate, toList_eq_text, Cursor.matchKeyword_skipGap,
      matchKeyword_of_head .member hhead (by decide), matchKeyword_of_head .not hhead (by decide),
      hbetween, readBounds, hmiddle, hand, hnext,
      mapOutcome_ok]
  | like hsource =>
    obtain ⟨after, hlike, hmore⟩ := exists_matchKeyword_of_spaced hspaced
    obtain ⟨next, hnext, hrest⟩ := exists_readPatternText "LIKE" hsource hmore hstops
    refine ⟨next, ?_, hrest⟩
    have hhead := head_of_keyword hspaced
    simp only [readPredicate, toList_eq_text, Cursor.matchKeyword_skipGap,
      matchKeyword_of_head .member hhead (by decide), matchKeyword_of_head .not hhead (by decide),
      matchKeyword_of_head .between hhead (by decide), hlike, hnext, mapOutcome_ok,
      Function.comp_apply]
  | regexp hsource =>
    obtain ⟨after, hregexp, hmore⟩ := exists_matchKeyword_of_spaced hspaced
    obtain ⟨next, hnext, hrest⟩ := exists_readPatternText "REGEXP" hsource hmore hstops
    refine ⟨next, ?_, hrest⟩
    have hhead := head_of_keyword hspaced
    simp only [readPredicate, toList_eq_text, Cursor.matchKeyword_skipGap,
      matchKeyword_of_head .member hhead (by decide), matchKeyword_of_head .not hhead (by decide),
      matchKeyword_of_head .between hhead (by decide),
      matchKeyword_of_head .like hhead (by decide), hregexp, hnext, mapOutcome_ok,
      Function.comp_apply]

/-! ### Filters -/

theorem readMoreAnd_of_not_ahead {filter : Filter}
    (h : ¬ Cursor.KeywordAhead Keyword.and.text cursor.rest) :
    (readMoreAnd filter cursor).1 = (.ok filter, cursor.skipGap) := by
  simp only [readMoreAnd_val, toList_eq_text, Cursor.matchKeyword_of_not_ahead h]

theorem readMoreOr_of_not_ahead {filter : Filter}
    (h : ¬ Cursor.KeywordAhead Keyword.or.text cursor.rest) :
    (readMoreOr filter cursor).1 = (.ok filter, cursor.skipGap) := by
  simp only [readMoreOr_val, toList_eq_text, Cursor.matchKeyword_of_not_ahead h]

/-- Whether a keyword comes next does not depend on the spaces and tabs in front of it. -/
theorem keywordAhead_congr {keyword text text' : List Char}
    (h : text.dropWhile Text.isGap = text'.dropWhile Text.isGap) :
    Cursor.KeywordAhead keyword text ↔ Cursor.KeywordAhead keyword text' := by
  rw [Cursor.KeywordAhead, Cursor.KeywordAhead, h]

/-- A stretch of tokens is there in front of other spaces and tabs, too. -/
theorem Spaced.congr {token : Token} {text text' : List Char} {c : Char}
    (hc : token.BeginsWith c) (h : text.dropWhile Text.isGap = text'.dropWhile Text.isGap)
    (hspaced : Spaced afterNot (token :: tokens) text rest) :
    Spaced afterNot (token :: tokens) text' rest := by
  obtain ⟨after, htext, hborders, htokens⟩ := exists_of_spaced_cons hc hspaced
  obtain ⟨gap, hgap, htext'⟩ := Text.exists_gap text'
  exact ⟨gap, after, by rw [← htext, h]; exact htext', hgap, hborders, htokens⟩

/-- How a spelling of a filter in front of a rest is read. A disjunction and a conjunction are read up
to the point where another operand is looked for. -/
def Reads (filter : Filter) (cursor : Cursor) (rest : List Char) : Level → Prop
  | .disjunction => ∃ next, (readDisjunction cursor).1 = (readMoreOr filter next).1 ∧
      next.rest.dropWhile Text.isGap = rest.dropWhile Text.isGap
  | .conjunction => ∃ next, (readConjunction cursor).1 = (readMoreAnd filter next).1 ∧
      next.rest.dropWhile Text.isGap = rest.dropWhile Text.isGap
  | .negation => ∃ next, (readNegation cursor).1 = (.ok filter, next) ∧ next.rest = rest
  | .primary => ∃ next, (readPrimary cursor).1 = (.ok filter, next) ∧ next.rest = rest

/-- A name that comes next is no other keyword: both end where no character of a name follows. -/
theorem eq_of_keywordAhead {field : String} {word : Keyword} {text after : List Char}
    (hname : IsName field) (htext : text.dropWhile Text.isGap = field.toList ++ after)
    (hhead : ∀ c ∈ after.head?, Cursor.isNameCharacter c = false)
    (h : Cursor.KeywordAhead word.text text) :
    field.toList = word.text ∧ Cursor.endsKeyword after = true := by
  obtain ⟨after', hafter', hends⟩ := h
  have hhead' : ∀ c ∈ after'.head?, Cursor.isNameCharacter c = false := by
    rcases after' with _ | ⟨d, after'⟩
    · simp
    · intro c hd
      obtain rfl : d = c := by simpa using hd
      simp only [Cursor.endsKeyword, Bool.or_eq_true, beq_iff_eq] at hends
      rcases hends with (hgap | rfl) | rfl
      · exact (character_of_isGap hgap).1
      · decide
      · decide
  have hkeyword : ∀ c ∈ word.text, Cursor.isNameCharacter c = true :=
    List.all_eq_true.mp (by cases word <;> rfl)
  obtain ⟨htake, hdrop⟩ := takeWhile_append_of_head hname.2 hhead
  obtain ⟨htake', hdrop'⟩ := takeWhile_append_of_head hkeyword hhead'
  rw [← htext, hafter'] at htake hdrop
  obtain rfl : after' = after := hdrop'.symm.trans hdrop
  exact ⟨htake.symm.trans htake', hends⟩

/-- A primary does not begin with the keyword NOT unless it is the keyword's operand. -/
theorem not_keywordAhead_of_primary {filter : Filter} {text : List Char}
    (h : Derives .primary tokens filter) (hspaced : Spaced false tokens text rest) :
    ¬ Cursor.KeywordAhead Keyword.not.text text := by
  cases h with
  | group _ =>
    exact not_keywordAhead_of_head .not (head_of_spaced_cons beginsWith_opening hspaced) (by decide)
  | @predicate field tokens _ hname _ =>
    intro hahead
    obtain ⟨c, hc, -⟩ := beginsWith_of_isName hname
    obtain ⟨after, htext, ⟨hhead, hnot⟩, -⟩ := exists_of_spaced_cons hc hspaced
    obtain ⟨hfield, hends⟩ := eq_of_keywordAhead hname htext hhead hahead
    obtain ⟨operator, more, rfl⟩ := hnot (String.toList_inj.mp hfield) rfl
    revert hends
    cases operator <;> simp [Comparison.symbol, Cursor.endsKeyword, Text.isGap]

/-- Whether some tokens, wherever they are, are read as a filter. Behind the keyword NOT only a primary
is looked for, and an AND behind a disjunction would go on with it. -/
def ReadsAs (level : Level) (tokens : List Token) (filter : Filter) : Prop :=
  ∀ {afterNot : Bool} {cursor : Cursor} {rest : List Char},
    Spaced afterNot tokens cursor.rest rest → (level ≠ .primary → afterNot = false) →
    Stops rest → (level = .disjunction → ¬ Cursor.KeywordAhead Keyword.and.text rest) →
    Reads filter cursor rest level

section

variable {more : List Token} {filter left right : Filter}

theorem ReadsAs.or (ihleft : ReadsAs .disjunction tokens left)
    (ihright : ReadsAs .conjunction more right) :
    ReadsAs .disjunction (tokens ++ .keyword .or :: more) (.or left right) := by
  intro afterNot cursor rest hspaced hafterNot hstops hand
  obtain ⟨_, middle, hleft, hmore⟩ := exists_of_spaced_append hspaced
  have hhead := head_of_keyword hmore
  obtain ⟨after, hafter, hgap⟩ := ihleft hleft (fun _ => hafterNot (by decide))
    (stops_of_keyword hmore) fun _ => not_keywordAhead_of_head .and hhead (by decide)
  obtain ⟨c, hc, -⟩ := beginsWith_keyword .or
  obtain ⟨last, hor, hright⟩ := exists_matchKeyword_of_spaced (hmore.congr hc hgap.symm)
  obtain ⟨next, hnext, hrest⟩ := ihright hright (fun _ => rfl) hstops (fun h => nomatch h)
  have hand' := mt (keywordAhead_congr hrest).mp (hand rfl)
  refine ⟨next.skipGap, ?_, ?_⟩
  · rw [hafter, readMoreOr_val, toList_eq_text.2.1, hor]
    simp only [hnext, readMoreAnd_of_not_ahead hand']
  · rw [← Cursor.rest_skipGap, Cursor.skipGap_skipGap, Cursor.rest_skipGap, hrest]

theorem ReadsAs.ofConjunction (ih : ReadsAs .conjunction tokens filter) :
    ReadsAs .disjunction tokens filter := by
  intro afterNot cursor rest hspaced hafterNot hstops hand
  obtain ⟨next, hnext, hrest⟩ := ih hspaced (fun _ => hafterNot (by decide)) hstops
    (fun h => nomatch h)
  have hand' := mt (keywordAhead_congr hrest).mp (hand rfl)
  refine ⟨next.skipGap, ?_, ?_⟩
  · rw [readDisjunction_val, hnext, readMoreAnd_of_not_ahead hand']
  · rw [← Cursor.rest_skipGap, Cursor.skipGap_skipGap, Cursor.rest_skipGap, hrest]

theorem ReadsAs.and (ihleft : ReadsAs .conjunction tokens left)
    (ihright : ReadsAs .negation more right) :
    ReadsAs .conjunction (tokens ++ .keyword .and :: more) (.and left right) := by
  intro afterNot cursor rest hspaced hafterNot hstops _
  obtain ⟨_, middle, hleft, hmore⟩ := exists_of_spaced_append hspaced
  obtain ⟨after, hafter, hgap⟩ := ihleft hleft (fun _ => hafterNot (by decide))
    (stops_of_keyword hmore) (fun h => nomatch h)
  obtain ⟨c, hc, -⟩ := beginsWith_keyword .and
  obtain ⟨last, hand, hright⟩ := exists_matchKeyword_of_spaced (hmore.congr hc hgap.symm)
  obtain ⟨next, hnext, rfl⟩ := ihright hright (fun _ => rfl) hstops (fun h => nomatch h)
  refine ⟨next, ?_, rfl⟩
  rw [hafter, readMoreAnd_val, toList_eq_text.1, hand]
  simp only [hnext]

theorem ReadsAs.ofNegation (ih : ReadsAs .negation tokens filter) :
    ReadsAs .conjunction tokens filter := by
  intro afterNot cursor rest hspaced hafterNot hstops _
  obtain ⟨next, hnext, rfl⟩ := ih hspaced (fun _ => hafterNot (by decide)) hstops
    (fun h => nomatch h)
  exact ⟨next, by rw [readConjunction_val, hnext], rfl⟩

theorem ReadsAs.not (ih : ReadsAs .primary tokens filter) :
    ReadsAs .negation (.keyword .not :: tokens) (.not filter) := by
  intro afterNot cursor rest hspaced _ hstops _
  obtain ⟨after, hnot, hoperand⟩ := exists_matchKeyword_of_spaced hspaced
  obtain ⟨next, hnext, rfl⟩ := ih hoperand (fun h => absurd rfl h) hstops (fun h => nomatch h)
  refine ⟨next, ?_, rfl⟩
  simp only [readNegation_val, toList_eq_text, hnot, hnext, mapOutcome_ok]

theorem ReadsAs.ofPrimary (hprimary : Derives .primary tokens filter)
    (ih : ReadsAs .primary tokens filter) : ReadsAs .negation tokens filter := by
  intro afterNot cursor rest hspaced hafterNot hstops _
  obtain rfl := hafterNot (by decide)
  obtain ⟨next, hnext, rfl⟩ := ih hspaced (fun h => absurd rfl h) hstops (fun h => nomatch h)
  refine ⟨next, ?_, rfl⟩
  have hnot := not_keywordAhead_of_primary hprimary hspaced
  simp only [readNegation_val, toList_eq_text, Cursor.matchKeyword_of_not_ahead hnot,
    readPrimary_skipGap, hnext]

theorem ReadsAs.group (ih : ReadsAs .disjunction tokens filter) :
    ReadsAs .primary (.opening :: (tokens ++ [.closing])) filter := by
  intro afterNot cursor rest hspaced _ _ _
  obtain ⟨inside, hopen, hmore⟩ := exists_matchText_of_spaced beginsWith_opening hspaced
  obtain ⟨_, middle, hinside, hclose⟩ := exists_of_spaced_append hmore
  have hhead := head_of_spaced_cons beginsWith_closing hclose
  obtain ⟨after, hafter, hgap⟩ := ih hinside (fun _ => rfl)
    (stops_of_spaced beginsWith_closing (by decide) hclose)
    fun _ => not_keywordAhead_of_head .and hhead (by decide)
  have hor : ¬ Cursor.KeywordAhead Keyword.or.text after.rest :=
    not_keywordAhead_of_head .or (hgap ▸ hhead) (by decide)
  obtain ⟨next, hnext, rfl⟩ :=
    exists_matchText_of_spaced beginsWith_closing (hclose.congr beginsWith_closing hgap.symm)
  refine ⟨next, ?_, rfl⟩
  rw [readPrimary_val, Cursor.matchText_skipGap, show cursor.matchText ['('] = _ from hopen]
  simp only [hafter, readMoreOr_of_not_ahead hor, Cursor.matchText_skipGap]
  rw [show after.matchText [')'] = _ from hnext]

theorem readsAs_predicate {field : String} (hname : IsName field)
    (hpredicate : Predicate field tokens filter) :
    ReadsAs .primary (.name field :: tokens) filter := by
  intro afterNot cursor rest hspaced _ hstops _
  obtain ⟨c, hc, hcharacter⟩ := beginsWith_of_isName hname
  obtain ⟨after, htext, ⟨hhead, -⟩, hmore⟩ := exists_of_spaced_cons hc hspaced
  have hopen : cursor.matchText ['('] = (false, cursor.skipGap) := by
    refine matchText_of_head (head_of_spaced_cons hc hspaced) ?_
    rintro rfl
    revert hcharacter
    decide
  obtain ⟨middle, hmiddle, rfl⟩ := Cursor.exists_readIdentifier
    (show cursor.skipGap.rest.dropWhile Text.isGap = field.toList ++ after by
      rw [← Cursor.rest_skipGap, Cursor.skipGap_skipGap]; exact htext) hname.2 hhead
  obtain ⟨next, hnext, rfl⟩ := exists_readPredicate hpredicate hmore hstops
  refine ⟨next, ?_, rfl⟩
  rw [readPrimary_val, Cursor.matchText_skipGap, hopen]
  simp only [hmiddle]
  rcases hfield : field.toList with _ | ⟨d, ds⟩
  · exact absurd hfield hname.1
  · simp only [← hfield, String.ofList_toList, hnext]

end

/-- A spelling of a filter is read as the filter. -/
theorem reads_of_derives {level : Level} {filter : Filter} (h : Derives level tokens filter) :
    ReadsAs level tokens filter := by
  induction h with
  | or _ _ ihleft ihright => exact ihleft.or ihright
  | ofConjunction _ ih => exact ih.ofConjunction
  | and _ _ ihleft ihright => exact ihleft.and ihright
  | ofNegation _ ih => exact ih.ofNegation
  | not _ ih => exact ih.not
  | ofPrimary hprimary ih => exact ReadsAs.ofPrimary hprimary ih
  | group _ ih => exact ih.group
  | predicate hname hpredicate => exact readsAs_predicate hname hpredicate

end Sift.Filter
