/-
# Canonical texts are read back

The canonical text of a filter is a spelling of the filter: the parentheses around conjunctions and
disjunctions make a primary of them, so each operand is a negation, and a space stands in front of
every token that needs one. What can change on the way is a floating-point number whose numeral is one
of an integer.

The name NOT is special. In front of a negated membership the canonical text reads NOT NOT IN, which
spells the negation of a membership (`regroup`); in front of any other condition it is no spelling at
all, because the name is taken for the keyword.

Key definitions: `mapLiterals`, `OnlyExcludesNot`, `regroup`, `Writes`.
Key theorems: `writes_write`, `parse_write_of_onlyExcludesNot`, `toOption_evaluate_mapLiterals`,
`parse_write`.
-/
import Sift.Filter.Evaluation
import Sift.Filter.Printer
import Sift.Proofs.Filter.Language
import Sift.Proofs.Filter.WellFormed

namespace Sift.Filter

/-- The filter with a function applied to its literals, the sources of patterns apart. -/
def mapLiterals (f : Value → Value) : Filter → Filter
  | compare field operator value => compare field operator (f value)
  | member field negated values => member field negated (values.map f)
  | between field lower upper => between field (f lower) (f upper)
  | matching field pattern => matching field pattern
  | and left right => and (left.mapLiterals f) (right.mapLiterals f)
  | or left right => or (left.mapLiterals f) (right.mapLiterals f)
  | not operand => not (operand.mapLiterals f)

/-- Whether the field NOT occurs in negated memberships only. -/
def OnlyExcludesNot : Filter → Prop
  | compare field _ _ => field ≠ "NOT"
  | member field negated _ => field = "NOT" → negated = true
  | between field _ _ => field ≠ "NOT"
  | matching field _ => field ≠ "NOT"
  | and left right => left.OnlyExcludesNot ∧ right.OnlyExcludesNot
  | or left right => left.OnlyExcludesNot ∧ right.OnlyExcludesNot
  | not operand => operand.OnlyExcludesNot

/-- The filter with the negated memberships of the field NOT as negations of memberships. -/
def regroup : Filter → Filter
  | member field negated values =>
    if field = "NOT" ∧ negated = true then not (member field false values)
    else member field negated values
  | and left right => and left.regroup right.regroup
  | or left right => or left.regroup right.regroup
  | not operand => not operand.regroup
  | filter => filter

/-! ### The field NOT -/

/-- Without the field NOT, there is nothing to group in another way. -/
theorem regroup_of_not_mem : ∀ {filter : Filter}, "NOT" ∉ filter.fieldOccurrences →
    filter.OnlyExcludesNot ∧ filter.regroup = filter
  | compare .., h => ⟨fun heq => h (by simp [fieldOccurrences, heq]), rfl⟩
  | between .., h => ⟨fun heq => h (by simp [fieldOccurrences, heq]), rfl⟩
  | matching .., h => ⟨fun heq => h (by simp [fieldOccurrences, heq]), rfl⟩
  | member field negated values, h => by
    have hfield : field ≠ "NOT" := fun heq => h (by simp [fieldOccurrences, heq])
    exact ⟨fun heq => absurd heq hfield, if_neg fun heq => hfield heq.1⟩
  | and left right, h => by
    simp only [fieldOccurrences, List.mem_append, not_or] at h
    obtain ⟨hleft, hleft'⟩ := regroup_of_not_mem h.1
    obtain ⟨hright, hright'⟩ := regroup_of_not_mem h.2
    exact ⟨⟨hleft, hright⟩, by rw [regroup, hleft', hright']⟩
  | or left right, h => by
    simp only [fieldOccurrences, List.mem_append, not_or] at h
    obtain ⟨hleft, hleft'⟩ := regroup_of_not_mem h.1
    obtain ⟨hright, hright'⟩ := regroup_of_not_mem h.2
    exact ⟨⟨hleft, hright⟩, by rw [regroup, hleft', hright']⟩
  | not operand, h => by
    have h : "NOT" ∉ operand.fieldOccurrences := h
    obtain ⟨hoperand, hoperand'⟩ := regroup_of_not_mem h
    exact ⟨hoperand, by rw [regroup, hoperand']⟩

/-! ### Literals -/

/-- The token of a literal. -/
def literalToken : Value → Token
  | .string s => .quoted s
  | value => .bare value.text

theorem text_literalToken (value : Value) : (literalToken value).text = value.literal := by
  cases value <;> rfl

theorem isBare_of_digits {characters : List Char} (hne : characters ≠ [])
    (h : characters.all Char.isDigit = true) : IsBare characters := by
  refine ⟨hne, fun c hc => ?_⟩
  simp [Cursor.isTokenCharacter, List.all_eq_true.mp h c hc]

theorem isBare_writeInt : ∀ n : Int, IsBare (Text.writeInt n)
  | .ofNat n => isBare_of_digits Nat.toDigits_ne_nil (Text.toDigits_all_isDigit n)
  | .negSucc n => by
    obtain ⟨-, htoken⟩ := isBare_of_digits (Nat.toDigits_ne_nil (b := 10))
      (Text.toDigits_all_isDigit (n + 1))
    exact ⟨List.cons_ne_nil _ _, List.forall_mem_cons.mpr ⟨rfl, htoken⟩⟩

/-- The literal of a value denotes what is read back. -/
theorem denotes_literalToken : ∀ {value : Value}, value.IsWritable →
    Denotes (literalToken value) value.reread
  | .string _, h => .quoted h
  | .integer n, _ => .integer (isBare_writeInt n.toInt)
    (Text.readInt64?_eq_some.mpr (Text.readInt?_writeInt n.toInt))
  | .float x, h => by
    have hbare : IsBare (x.write Binary64.plain) := Binary64.isTokenCharacter_of_mem_write_plain h
    unfold Value.reread
    dsimp only
    split
    next hinteger => exact .integer hbare hinteger
    next hinteger => exact .float hbare hinteger (Binary64.read?_write_plain x)

/-! ### Rows of tokens -/

section Spaced

variable {afterNot : Bool} {tokens : List Token} {text rest : List Char}

/-- A run of spaces and tabs in front of some tokens changes nothing. -/
theorem Spaced.run_append {gap : List Char} (hne : tokens ≠ [])
    (hgap : ∀ c ∈ gap, Text.isGap c = true) (h : Spaced afterNot tokens text rest) :
    Spaced afterNot tokens (gap ++ text) rest := by
  obtain ⟨token, tokens, rfl⟩ := List.exists_cons_of_ne_nil hne
  exact h.gap_append hgap

theorem Spaced.space (hne : tokens ≠ []) (h : Spaced afterNot tokens text rest) :
    Spaced afterNot tokens (' ' :: text) rest := by
  have hspace : ∀ c ∈ [' '], Text.isGap c = true := List.all_eq_true.mp rfl
  exact h.run_append hne hspace

theorem Spaced.token_append (token : Token) (hborders : token.Borders afterNot text)
    (h : Spaced token.isNot tokens text rest) :
    Spaced afterNot (token :: tokens) (token.text ++ text) rest :=
  ⟨[], text, rfl, by simp, hborders, h⟩

/-- A token that denotes a value needs no border. -/
theorem Spaced.value_append {token : Token} {value : Value} (hdenotes : Denotes token value)
    (h : Spaced false tokens text rest) :
    Spaced afterNot (token :: tokens) (token.text ++ text) rest := by
  refine Spaced.token_append token ?_ ?_
  · cases hdenotes <;> trivial
  · cases hdenotes <;> exact h

/-- A literal needs no border. -/
theorem Spaced.literal_append {value : Value} (h : Spaced false tokens text rest) :
    Spaced afterNot (literalToken value :: tokens) (value.literal ++ text) rest := by
  rw [← text_literalToken]
  refine Spaced.token_append _ ?_ ?_
  · cases value <;> trivial
  · cases value <;> exact h

/-- A space is a border of a keyword. -/
theorem Spaced.keyword_append (word : Keyword)
    (h : Spaced (Token.keyword word).isNot tokens (' ' :: text) rest) :
    Spaced afterNot (.keyword word :: tokens) (word.text ++ ' ' :: text) rest :=
  Spaced.token_append (.keyword word) rfl h

/-- A keyword can end in front of a run of spaces and tabs, if it can end in front of what follows. -/
theorem endsKeyword_run_append {gap : List Char} (hgap : ∀ c ∈ gap, Text.isGap c = true)
    (h : Cursor.endsKeyword rest = true) : Cursor.endsKeyword (gap ++ rest) = true := by
  cases gap with
  | nil => exact h
  | cons c gap => simp [Cursor.endsKeyword, hgap c List.mem_cons_self]

/-- Two rows with a keyword between them are one row. The runs around the keyword may be longer than
a space. -/
theorem Spaced.join {more : List Token} {gap gap' text' : List Char} (word : Keyword)
    (hword : (Token.keyword word).isNot = false) (hne : more ≠ [])
    (hgap : ∀ c ∈ gap, Text.isGap c = true) (hgap' : ∀ c ∈ gap', Text.isGap c = true)
    (h : ∀ {after : List Char}, Cursor.endsKeyword after = true →
      Spaced afterNot tokens (text ++ after) after)
    (hmore : Spaced false more text' rest) :
    Spaced afterNot (tokens ++ .keyword word :: more)
      (text ++ (gap ++ ' ' :: (word.text ++ ' ' :: (gap' ++ text')))) rest := by
  refine Spaced.append (h (endsKeyword_run_append hgap rfl)) fun _ => ?_
  refine Spaced.run_append (List.cons_ne_nil _ _) hgap (Spaced.space (List.cons_ne_nil _ _) ?_)
  refine Spaced.keyword_append word ?_
  rw [hword]
  exact Spaced.space hne (hmore.run_append hne hgap')

end Spaced

theorem DenotesAll.ne_nil {tokens : List Token} {values : List Value}
    (h : DenotesAll tokens values) : tokens ≠ [] := by
  cases h <;> exact List.cons_ne_nil _ _

/-- Tokens that denote values, with commas and spaces between them, spell the list of the values. -/
theorem exists_denotesAll_intercalate : ∀ {members : List (Token × Value)}, members ≠ [] →
    (∀ pair ∈ members, Denotes pair.1 pair.2) →
    ∃ tokens, DenotesAll tokens (members.map Prod.snd) ∧
      ∀ {afterNot : Bool} {more : List Token} {text rest : List Char},
        Spaced false more text rest →
        Spaced afterNot (tokens ++ more)
          (", ".toList.intercalate (members.map fun pair => pair.1.text) ++ text) rest
  | [], hne, _ => absurd rfl hne
  | [(token, value)], _, h => by
    have hdenotes : Denotes token value := h _ List.mem_cons_self
    refine ⟨[token], .one hdenotes, fun hmore => ?_⟩
    rw [List.map_singleton, List.intercalate_singleton]
    exact hmore.value_append hdenotes
  | (token, value) :: next :: members, _, h => by
    have hdenotes : Denotes token value := h _ List.mem_cons_self
    obtain ⟨tokens, hall, hspaced⟩ := exists_denotesAll_intercalate (List.cons_ne_nil next members)
      fun pair hpair => h pair (List.mem_cons_of_mem _ hpair)
    refine ⟨token :: .comma :: tokens, .more hdenotes hall, ?_⟩
    intro afterNot more text rest hmore
    rw [List.map_cons, List.map_cons, List.intercalate_cons_cons, List.append_assoc,
      List.append_assoc]
    refine Spaced.value_append hdenotes (Spaced.token_append .comma trivial ?_)
    exact Spaced.space (by simp [hall.ne_nil]) (hspaced hmore)

/-- The literals of values with the values that they are read back as. -/
def literalMembers (values : List Value) : List (Token × Value) :=
  values.map fun value => (literalToken value, value.reread)

theorem denotes_literalMembers {values : List Value} (h : ∀ value ∈ values, value.IsWritable) :
    ∀ pair ∈ literalMembers values, Denotes pair.1 pair.2 := by
  intro pair hpair
  obtain ⟨value, hvalue, rfl⟩ := List.mem_map.mp hpair
  exact denotes_literalToken (h value hvalue)

theorem writeValues_eq_intercalate : ∀ values : List Value,
    writeValues values =
      ", ".toList.intercalate ((literalMembers values).map fun pair => pair.1.text)
  | [] => rfl
  | [value] => (text_literalToken value).symm.trans List.intercalate_singleton.symm
  | value :: next :: values => by
    rw [writeValues, writeValues_eq_intercalate (next :: values), ← text_literalToken value]
    · exact List.intercalate_cons_cons.symm
    · exact List.cons_ne_nil next values

theorem map_snd_literalMembers (values : List Value) :
    (literalMembers values).map Prod.snd = values.map Value.reread := by
  rw [literalMembers, List.map_map]
  rfl

/-! ### Filters -/

/-- Whether a text in front of the border of a keyword spells a filter at a level. A primary spells
the filter also behind the keyword NOT. -/
def Writes (level : Level) (text : List Char) (filter : Filter) : Prop :=
  ∃ tokens, Derives level tokens filter ∧
    ∀ {afterNot : Bool} {after : List Char}, (level ≠ .primary → afterNot = false) →
      Cursor.endsKeyword after = true → Spaced afterNot tokens (text ++ after) after

theorem Derives.ne_nil {level : Level} {tokens : List Token} {filter : Filter}
    (h : Derives level tokens filter) : tokens ≠ [] := by
  obtain ⟨token, more, c, rfl, -⟩ := h.exists_beginsWith
  exact List.cons_ne_nil token more

namespace Writes

variable {text more : List Char} {filter left right : Filter}

theorem ofPrimary (h : Writes .primary text filter) : Writes .negation text filter := by
  obtain ⟨tokens, hderives, hspaced⟩ := h
  exact ⟨tokens, .ofPrimary hderives, fun _ => hspaced fun h => absurd rfl h⟩

theorem ofConjunction (h : Writes .conjunction text filter) : Writes .disjunction text filter := by
  obtain ⟨tokens, hderives, hspaced⟩ := h
  exact ⟨tokens, .ofConjunction hderives, fun h => hspaced fun _ => h nofun⟩

theorem ofNegation (h : Writes .negation text filter) : Writes .conjunction text filter := by
  obtain ⟨tokens, hderives, hspaced⟩ := h
  exact ⟨tokens, .ofNegation hderives, fun h => hspaced fun _ => h nofun⟩

/-- Two spellings with a keyword and its spaces between them are one spelling. -/
theorem join {level level' level'' : Level} {whole : Filter} {word : Keyword}
    (hword : (Token.keyword word).isNot = false)
    (hjoin : ∀ {tokens more}, Derives level tokens left → Derives level' more right →
      Derives level'' (tokens ++ .keyword word :: more) whole)
    (hlevel : level'' ≠ .primary)
    (hleft : Writes level text left) (hright : Writes level' more right) :
    Writes level'' (text ++ (' ' :: (word.text ++ ' ' :: more))) whole := by
  obtain ⟨tokens, hderives, hspaced⟩ := hleft
  obtain ⟨tokens', hderives', hspaced'⟩ := hright
  refine ⟨_, hjoin hderives hderives', fun hafterNot hends => ?_⟩
  rw [List.append_assoc, List.cons_append, List.append_assoc]
  have hnil : ∀ c ∈ ([] : List Char), Text.isGap c = true := List.forall_mem_nil _
  exact (Spaced.join word hword hderives'.ne_nil hnil hnil (hspaced fun _ => hafterNot hlevel)
    (hspaced' (fun _ => rfl) hends) :)

theorem and (hleft : Writes .negation text left) (hright : Writes .negation more right) :
    Writes .conjunction (text ++ " AND ".toList ++ more) (.and left right) := by
  rw [List.append_assoc]
  exact join rfl .and nofun hleft.ofNegation hright

theorem or (hleft : Writes .negation text left) (hright : Writes .negation more right) :
    Writes .disjunction (text ++ " OR ".toList ++ more) (.or left right) := by
  rw [List.append_assoc]
  exact join rfl .or nofun hleft.ofNegation.ofConjunction hright.ofNegation

/-- Parentheses make a primary of a spelling, also with spaces and tabs inside them. -/
theorem group_between {front back : List Char} (hfront : ∀ c ∈ front, Text.isGap c = true)
    (hback : ∀ c ∈ back, Text.isGap c = true) (h : Writes .disjunction text filter) :
    Writes .primary ('(' :: (front ++ (text ++ back) ++ [')'])) filter := by
  obtain ⟨tokens, hderives, hspaced⟩ := h
  refine ⟨_, .group hderives, fun {afterNot after} _ hends => ?_⟩
  have hopen : '(' :: (front ++ (text ++ back) ++ [')']) ++ after =
      Token.opening.text ++ (front ++ (text ++ (back ++ ')' :: after))) := by
    simp [Token.text]
  rw [hopen]
  refine Spaced.token_append .opening trivial ?_
  have hclosing : ∀ afterNot', Spaced afterNot' [.closing] (back ++ ')' :: after) after :=
    fun _ => Spaced.run_append (List.cons_ne_nil _ _) hback (Spaced.token_append .closing trivial rfl)
  have hends' : Cursor.endsKeyword (back ++ ')' :: after) = true := 
    endsKeyword_run_append hback rfl
  exact (Spaced.append (hspaced (fun _ => rfl) hends') hclosing).run_append (by simp) hfront

theorem group (h : Writes .disjunction text filter) :
    Writes .primary ('(' :: (text ++ [')'])) filter := by
  have hgroup := h.group_between (List.forall_mem_nil _) (List.forall_mem_nil _)
  rwa [List.nil_append, List.append_nil] at hgroup

theorem not (h : Writes .primary text filter) :
    Writes .negation ("NOT ".toList ++ text) (.not filter) := by
  obtain ⟨tokens, hderives, hspaced⟩ := h
  refine ⟨_, .not hderives, fun {afterNot after} _ hends => ?_⟩
  rw [List.append_assoc]
  exact Spaced.keyword_append .not
    (Spaced.space hderives.ne_nil (hspaced (fun h => absurd rfl h) hends))

end Writes

/-! ### Conditions on fields -/

/-- Whether a text behind the name of a field and a space makes up a condition on the field. -/
def Condition (field : String) (text : List Char) (filter : Filter) : Prop :=
  ∃ tokens, Predicate field tokens filter ∧
    ∀ {after : List Char}, Cursor.endsKeyword after = true →
      Spaced false tokens (' ' :: (text ++ after)) after

theorem condition_compare (field : String) (operator : Comparison) {token : Token} {value : Value}
    (h : Denotes token value) : Condition field (operator.symbol ++ ' ' :: token.text)
      (.compare field operator value) := by
  refine ⟨_, .compare operator h, fun {after} _ => ?_⟩
  rw [List.append_assoc]
  refine Spaced.space (List.cons_ne_nil _ _) (Spaced.token_append (.sign operator) trivial ?_)
  exact Spaced.space (List.cons_ne_nil _ _) (Spaced.value_append h rfl)

theorem condition_member (field : String) (negated : Bool) {members : List (Token × Value)}
    (hne : members ≠ []) (h : ∀ pair ∈ members, Denotes pair.1 pair.2) :
    Condition field ((if negated then "NOT IN (" else "IN (").toList ++
        (", ".toList.intercalate (members.map fun pair => pair.1.text) ++ ")".toList))
      (.member field negated (members.map Prod.snd)) := by
  obtain ⟨tokens, hdenotes, hspaced⟩ := exists_denotesAll_intercalate hne h
  generalize ", ".toList.intercalate (members.map fun pair => pair.1.text) = list at hspaced
  have hmember {after : List Char} :
      Spaced false (.keyword .member :: .opening :: (tokens ++ [.closing]))
        (' ' :: ("IN (".toList ++ (list ++ (")".toList ++ after)))) after := by
    refine Spaced.space (List.cons_ne_nil _ _) (Spaced.keyword_append .member ?_)
    refine Spaced.space (List.cons_ne_nil _ _) (Spaced.token_append .opening trivial ?_)
    exact hspaced (Spaced.token_append .closing trivial rfl)
  cases negated
  · refine ⟨_, .member hdenotes, fun {after} _ => ?_⟩
    rw [List.append_assoc, List.append_assoc]
    exact hmember
  · refine ⟨_, .notMember hdenotes, fun {after} _ => ?_⟩
    rw [List.append_assoc, List.append_assoc]
    exact Spaced.space (List.cons_ne_nil _ _) (Spaced.keyword_append .not hmember)

theorem condition_between (field : String) {first second : Token} {lower upper : Value}
    (hlower : Denotes first lower) (hupper : Denotes second upper) :
    Condition field ("BETWEEN ".toList ++ first.text ++ " AND ".toList ++ second.text)
      (.between field lower upper) := by
  refine ⟨_, .between hlower hupper, fun {after} _ => ?_⟩
  rw [List.append_assoc, List.append_assoc, List.append_assoc]
  refine Spaced.space (List.cons_ne_nil _ _) (Spaced.keyword_append .between ?_)
  refine Spaced.space (List.cons_ne_nil _ _) (Spaced.value_append hlower ?_)
  refine Spaced.space (List.cons_ne_nil _ _) (Spaced.keyword_append .and ?_)
  exact Spaced.space (List.cons_ne_nil _ _) (Spaced.value_append hupper rfl)

theorem condition_matching (field : String) {pattern : Pattern} {token : Token}
    (h : Denotes token (.string pattern.source)) :
    Condition field (patternKeyword pattern ++ ' ' :: token.text) (.matching field pattern) := by
  have hspaced : ∀ (word : Keyword) {after : List Char},
      Spaced false [.keyword word, token] (' ' :: (word.text ++ ' ' :: token.text ++ after)) after := by
    intro word after
    rw [List.append_assoc]
    refine Spaced.space (List.cons_ne_nil _ _) (Spaced.keyword_append word ?_)
    exact Spaced.space (List.cons_ne_nil _ _) (Spaced.value_append h rfl)
  cases pattern with
  | like source => exact ⟨_, .like h, fun _ => hspaced .like⟩
  | regexp source => exact ⟨_, .regexp h, fun _ => hspaced .regexp⟩

namespace Condition

variable {field : String} {text : List Char} {filter : Filter}

/-- The name of a field in front of its condition. -/
theorem spaced_name {tokens : List Token} {afterNot : Bool} {after : List Char}
    (hnot : field = "NOT" → afterNot = true)
    (h : Spaced false tokens (' ' :: (text ++ after)) after) :
    Spaced afterNot (.name field :: tokens) (field.toList ++ ' ' :: text ++ after) after := by
  rw [List.append_assoc]
  refine Spaced.token_append (.name field) ⟨?_, ?_⟩ h
  · intro c hc
    obtain rfl : ' ' = c := Option.some.inj hc
    decide
  · intro hfield hafterNot
    rw [hnot hfield] at hafterNot
    cases hafterNot

/-- A condition on a field with any other name than NOT is a primary. -/
theorem writes (h : Condition field text filter) (hname : IsName field) (hfield : field ≠ "NOT") :
    Writes .primary (field.toList ++ ' ' :: text) filter := by
  obtain ⟨tokens, hpredicate, hspaced⟩ := h
  exact ⟨_, .predicate hname hpredicate, fun _ hends =>
    spaced_name (fun h => absurd h hfield) (hspaced hends)⟩

/-- A condition on the field NOT can be negated, because the keyword stands in front of the name. -/
theorem writes_not (h : Condition "NOT" text filter) :
    Writes .negation ("NOT NOT ".toList ++ text) (.not filter) := by
  obtain ⟨tokens, hpredicate, hspaced⟩ := h
  have hname : IsName "NOT" := by decide
  refine ⟨_, .not (.predicate hname hpredicate), fun {afterNot after} _ hends => ?_⟩
  refine Spaced.keyword_append .not (Spaced.space (List.cons_ne_nil _ _) ?_)
  exact spaced_name (fun _ => rfl) (hspaced hends)

end Condition

/-! ### Canonical texts -/

/-- **The canonical text of a filter spells the filter that it is read back as.** -/
theorem writes_write : ∀ {filter : Filter}, filter.WellFormed Value.IsWritable →
    filter.OnlyExcludesNot →
    Writes .negation (write filter) (filter.regroup.mapLiterals Value.reread) ∧
      (filter.isBinary = true →
        Writes .primary (write filter) (filter.regroup.mapLiterals Value.reread))
  | compare field operator value, ⟨hnames, hliterals, _⟩, hnot => by
    have hdenotes := denotes_literalToken (hliterals value List.mem_cons_self)
    have hwrites := (condition_compare field operator hdenotes).writes
      (hnames field List.mem_cons_self) hnot
    rw [text_literalToken] at hwrites
    exact ⟨hwrites.ofPrimary, nofun⟩
  | member field negated values, ⟨hnames, hliterals, hlists⟩, hnot => by
    have hname := hnames field List.mem_cons_self
    have hne : literalMembers values ≠ [] := by
      simpa [literalMembers] using hlists values List.mem_cons_self
    have hcondition (field : String) (negated : Bool) :=
      condition_member field negated hne (denotes_literalMembers hliterals)
    rw [← writeValues_eq_intercalate, map_snd_literalMembers] at hcondition
    refine ⟨?_, nofun⟩
    unfold regroup write
    cases negated
    · have hfield : field ≠ "NOT" := fun h => nomatch hnot h
      rw [if_neg (by simp), if_neg (by simp), List.append_assoc]
      exact ((hcondition field false).writes hname hfield).ofPrimary
    by_cases hfield : field = "NOT"
    · subst hfield
      rw [if_pos (by simp), if_pos (by simp), List.append_assoc]
      exact (hcondition "NOT" false).writes_not
    · rw [if_neg (not_and_of_not_left (true = true) hfield), if_pos (rfl : true = true),
        List.append_assoc]
      exact ((hcondition field true).writes hname hfield).ofPrimary
  | between field lower upper, ⟨hnames, hliterals, _⟩, hnot => by
    have hcondition := condition_between field
      (denotes_literalToken (hliterals lower List.mem_cons_self))
      (denotes_literalToken (hliterals upper (List.mem_cons_of_mem _ List.mem_cons_self)))
    have hwrites := hcondition.writes (hnames field List.mem_cons_self) hnot
    rw [text_literalToken, text_literalToken, List.append_assoc, List.append_assoc] at hwrites
    unfold write
    rw [List.append_assoc, List.append_assoc, List.append_assoc]
    exact ⟨hwrites.ofPrimary, nofun⟩
  | matching field pattern, ⟨hnames, hliterals, _⟩, hnot => by
    have hdenotes := denotes_literalToken (hliterals _ List.mem_cons_self)
    have hwrites := (condition_matching field hdenotes).writes
      (hnames field List.mem_cons_self) hnot
    rw [text_literalToken] at hwrites
    exact ⟨hwrites.ofPrimary, nofun⟩
  | and left right, h, hnot => by
    obtain ⟨hleft, hright⟩ := wellFormed_and.mp h
    have hwrites := ((writes_write hleft hnot.1).1.and
      (writes_write hright hnot.2).1).ofConjunction.group
    exact ⟨hwrites.ofPrimary, fun _ => hwrites⟩
  | or left right, h, hnot => by
    obtain ⟨hleft, hright⟩ := wellFormed_or.mp h
    have hwrites := ((writes_write hleft hnot.1).1.or (writes_write hright hnot.2).1).group
    exact ⟨hwrites.ofPrimary, fun _ => hwrites⟩
  | not operand, h, hnot => by
    have hnot : operand.OnlyExcludesNot := hnot
    obtain ⟨hnegation, hprimary⟩ := writes_write (wellFormed_not.mp h) hnot
    refine ⟨?_, nofun⟩
    unfold write
    by_cases hbinary : operand.isBinary = true
    · rw [if_pos hbinary]
      exact (hprimary hbinary).not
    · rw [if_neg hbinary]
      exact hnegation.ofNegation.ofConjunction.group.not

/-! ### Ends of canonical texts -/

theorem tight_name {field : String} (h : IsName field) : Text.Tight field.toList :=
  Text.tight_of_forall h.1 fun c hc => Text.isBlank_of_isNameCharacter (h.2 c hc)

theorem tight_bare {characters : List Char} (h : IsBare characters) : Text.Tight characters :=
  Text.tight_of_forall h.1 fun c hc => Text.isBlank_of_isTokenCharacter (h.2 c hc)

theorem tight_singleton {c : Char} (h : Text.isBlank c = false) : Text.Tight [c] :=
  Text.tight_of_forall (List.cons_ne_nil _ _) fun _ hd => List.mem_singleton.mp hd ▸ h

theorem tight_literal : ∀ value : Value, Text.Tight value.literal
  | .string s => (tight_singleton (by decide)).append s.toList (tight_singleton (by decide))
  | .integer n => tight_bare (isBare_writeInt n.toInt)
  | .boolean b => Text.tight_of_all (by cases b <;> exact nofun) (by cases b <;> rfl)
  | .float .nan => Text.tight_of_all (by decide) rfl
  | .float (.signed negative code hle) => by
    rcases Nat.lt_or_eq_of_le hle with hcode | rfl
    · have hfinite : (Binary64.signed negative code hle).isFinite = true := decide_eq_true hcode
      exact tight_bare (Binary64.isTokenCharacter_of_mem_write_plain hfinite)
    · change Text.Tight (Value.float (Binary64.infinity negative)).literal
      cases negative <;> exact Text.tight_of_all (by decide) rfl

/-- A canonical text has no outer white space. -/
theorem tight_write : ∀ {filter : Filter},
    (∀ field ∈ filter.fieldOccurrences, IsName field) → Text.Tight (write filter)
  | compare field operator value, hnames => by
    have htight := (tight_name (hnames field List.mem_cons_self)).append
      (' ' :: (operator.symbol ++ [' '])) (tight_literal value)
    simpa [write] using htight
  | member field negated values, hnames => by
    have htight := (tight_name (hnames field List.mem_cons_self)).append
      ((if negated then " NOT IN (" else " IN (").toList ++ writeValues values)
      (tight_singleton (show Text.isBlank ')' = false by decide))
    simpa [write] using htight
  | between field lower upper, hnames => by
    have htight := (tight_name (hnames field List.mem_cons_self)).append
      (" BETWEEN ".toList ++ lower.literal ++ " AND ".toList)
      (tight_literal upper)
    simpa [write] using htight
  | matching field pattern, hnames => by
    have htight := (tight_name (hnames field List.mem_cons_self)).append
      (' ' :: (patternKeyword pattern ++ [' '])) (tight_literal (.string pattern.source))
    simpa [write] using htight
  | and left right, _ =>
    (tight_singleton (by decide)).append (write left ++ " AND ".toList ++ write right)
      (tight_singleton (show Text.isBlank ')' = false by decide))
  | or left right, _ =>
    (tight_singleton (by decide)).append (write left ++ " OR ".toList ++ write right)
      (tight_singleton (show Text.isBlank ')' = false by decide))
  | not operand, hnames => by
    have hnames : ∀ field ∈ operand.fieldOccurrences, IsName field := hnames
    have htight := tight_write hnames
    have hkeyword : Text.Tight ['N', 'O', 'T'] :=
      Text.tight_of_all (List.cons_ne_nil _ _) rfl
    unfold write
    by_cases hbinary : operand.isBinary = true
    · rw [if_pos hbinary]
      exact hkeyword.append [' '] htight
    · rw [if_neg hbinary]
      exact hkeyword.append (' ' :: '(' :: write operand)
        (tight_singleton (show Text.isBlank ')' = false by decide))

/-- A text that, without its outer white space, spells a filter in front of every border of a keyword
is read as the filter. -/
theorem parse_of_writes {text : String} {body : List Char} {filter : Filter}
    (htrim : Text.trim text.toList = body) (h : Writes .disjunction body filter) :
    parse text = .ok filter := by
  obtain ⟨tokens, hderives, hspaced⟩ := h
  have hspaced := hspaced (fun _ => rfl) (show Cursor.endsKeyword [] = true from rfl)
  rw [List.append_nil, ← htrim] at hspaced
  exact parse_of_spells ⟨tokens, hderives, hspaced⟩

/-- A canonical text is read as the filter that it spells. -/
theorem parse_write_of_onlyExcludesNot {filter : Filter} (h : filter.WellFormed Value.IsWritable)
    (hnot : filter.OnlyExcludesNot) :
    parse (String.ofList (write filter)) = .ok (filter.regroup.mapLiterals Value.reread) := by
  refine parse_of_writes ?_ (writes_write h hnot).1.ofNegation.ofConjunction
  rw [String.toList_ofList, Text.trim_eq_self (tight_write h.names)]

/-! ### Evaluation -/

theorem toOption_bind {ε α β : Type} (x : Except ε α) (f : α → Except ε β) :
    (x >>= f).toOption = x.toOption.bind fun a => (f a).toOption := by
  cases x <;> rfl

theorem toOption_compareValues_reread (left : Value) (operator : Comparison) (right : Value) :
    (compareValues left operator right.reread).toOption =
      (compareValues left operator right).toOption := by
  unfold compareValues
  rw [Value.compare?_reread]
  cases left.compare? operator right <;> rfl

theorem any_equals_map_reread (left : Value) (values : List Value) :
    (values.map Value.reread).any left.equals = values.any left.equals := by
  rw [List.any_map]
  congr 1
  funext value
  exact Value.equals_reread left value

/-- A condition on a field has a value or fails as the conditions on its value do. -/
theorem toOption_onField_congr {record : Record} {field : String}
    {condition condition' : Value → Except EvalError Bool}
    (h : ∀ value, (condition value).toOption = (condition' value).toOption) :
    (onField record field condition).toOption = (onField record field condition').toOption := by
  unfold onField
  cases record.get? field with
  | none => rfl
  | some value => exact h value

/-- **A filter holds of the same records, and fails on the same ones, when its literals are read
back.** -/
theorem toOption_evaluate_mapLiterals (record : Record) : ∀ filter : Filter,
    (evaluate record (filter.mapLiterals Value.reread)).toOption =
      (evaluate record filter).toOption
  | compare _ operator value =>
    toOption_onField_congr fun found => toOption_compareValues_reread found operator value
  | member field negated values => by
    refine toOption_onField_congr fun found => ?_
    rw [any_equals_map_reread]
  | between field lower upper => by
    refine toOption_onField_congr fun found => ?_
    unfold evaluateBetween
    simp only [toOption_bind, toOption_compareValues_reread]
  | matching _ _ => rfl
  | and left right => by
    have hleft := toOption_evaluate_mapLiterals record left
    have hright := toOption_evaluate_mapLiterals record right
    simp only [mapLiterals, evaluate, toOption_bind, hleft, hright]
  | or left right => by
    have hleft := toOption_evaluate_mapLiterals record left
    have hright := toOption_evaluate_mapLiterals record right
    simp only [mapLiterals, evaluate, toOption_bind, hleft, hright]
  | not operand => by
    have hoperand := toOption_evaluate_mapLiterals record operand
    simp only [mapLiterals, evaluate, toOption_bind, hoperand]

/-- **Canonical texts are read back.** The canonical text of a filter that can be written and does not
look at the field NOT is read as the filter with its literals read back, which on every record has the
same truth value or fails as well. -/
theorem parse_write {filter : Filter} (h : filter.WellFormed Value.IsWritable)
    (hnot : "NOT" ∉ filter.fieldOccurrences) :
    parse (String.ofList (write filter)) = .ok (filter.mapLiterals Value.reread) ∧
      ∀ record : Record, (evaluate record (filter.mapLiterals Value.reread)).toOption =
        (evaluate record filter).toOption := by
  obtain ⟨honly, hregroup⟩ := regroup_of_not_mem hnot
  refine ⟨?_, fun record => toOption_evaluate_mapLiterals record filter⟩
  rw [parse_write_of_onlyExcludesNot h honly, hregroup]

/-- A whole number is read back as an integer. -/
theorem parse_write_whole_number :
    let filter := or (not (compare "a" .ge (.float (Binary64.zero false))))
      (member "b" true [.string "x", .integer 5])
    let filter' := or (not (compare "a" .ge (.integer 0))) (member "b" true [.string "x", .integer 5])
    filter.WellFormed Value.IsWritable ∧ "NOT" ∉ filter.fieldOccurrences ∧
      parse (String.ofList (write filter)) = .ok filter' ∧
      ∀ record : Record, (evaluate record filter').toOption = (evaluate record filter).toOption := by
  intro filter filter'
  have hwritable : filter.WellFormed Value.IsWritable := by decide
  have hnot : "NOT" ∉ filter.fieldOccurrences := by decide
  have hreread : filter.mapLiterals Value.reread = filter' := by decide
  have hparse := parse_write hwritable hnot
  rw [hreread] at hparse
  exact ⟨hwritable, hnot, hparse⟩

end Sift.Filter
