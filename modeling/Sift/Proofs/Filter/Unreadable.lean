/-
# Canonical texts that are not read

Two things make a canonical text unreadable. An infinite number is written `inf` or `-inf`, and no
value begins with a letter: a reading fails there, or it takes the minus sign for a string and stops
in front of the letter `i`, where nothing can go on (`Stuck`). And the name NOT in front of a condition
is taken for the keyword; what follows is then no primary, unless it is the name in NOT NOT IN.

Both are carried through the readings by induction on the filter: an operand in parentheses that gets
stuck makes the parentheses fail.

Key definitions: `At`, `Fails`, `Stuck`.
Key theorems: `stuck_readNegation_write`, `parse_write_ne_ok`.
-/
import Sift.Proofs.Filter.Canonical

namespace Sift.Filter

variable {cursor next : Cursor} {text after : List Char} {α β : Type}

/-- Whether a text comes next, up to a run of spaces and tabs. -/
def At (cursor : Cursor) (text : List Char) : Prop :=
  cursor.rest.dropWhile Text.isGap = text.dropWhile Text.isGap

/-- Whether a reading gives no result. -/
def Fails (outcome : Outcome α) : Prop :=
  ∀ a next, outcome ≠ (.ok a, next)

/-- Whether a reading gives no result or stops in front of an `i`. -/
def Stuck (outcome : Outcome α) : Prop :=
  ∀ a next, outcome = (.ok a, next) → (next.rest.dropWhile Text.isGap).head? = some 'i'

theorem Fails.stuck {outcome : Outcome α} (h : Fails outcome) : Stuck outcome :=
  fun a next heq => absurd heq (h a next)

theorem fails_error (e : ParseError) (cursor : Cursor) :
    Fails ((.error e, cursor) : Outcome α) :=
  nofun

theorem Fails.mapOutcome {outcome : Outcome α} (f : α → β) (h : Fails outcome) :
    Fails (mapOutcome f outcome) := by
  intro b next heq
  obtain ⟨a, ha, -⟩ := mapOutcome_eq_ok heq
  exact h a next ha

theorem Stuck.mapOutcome {outcome : Outcome α} (f : α → β) (h : Stuck outcome) :
    Stuck (mapOutcome f outcome) := by
  intro b next heq
  obtain ⟨a, ha, -⟩ := mapOutcome_eq_ok heq
  exact h a next ha

/-! ### Places -/

theorem at_rest (cursor : Cursor) : At cursor cursor.rest := rfl

theorem at_of_rest_eq_space (h : cursor.rest = ' ' :: text) : At cursor text := by
  unfold At
  rw [h]
  rfl

/-- In front of a token, a place is the token. -/
theorem At.token (token : Token) {c : Char} (hc : token.BeginsWith c)
    (h : At cursor (token.text ++ text)) :
    cursor.rest.dropWhile Text.isGap = token.text ++ text := by
  obtain ⟨hhead, hgap⟩ := hc
  unfold At at h
  rcases htext : token.text with _ | ⟨d, cs⟩
  · simp [htext] at hhead
  · obtain rfl : d = c := by simpa [htext] using hhead
    rw [h, htext, List.cons_append, List.dropWhile_cons_of_neg (by simp [hgap])]

theorem At.head (token : Token) {c : Char} (hc : token.BeginsWith c)
    (h : At cursor (token.text ++ text)) :
    (cursor.rest.dropWhile Text.isGap).head? = some c := by
  rw [h.token token hc, List.head?_append, hc.1]
  rfl

theorem At.skipGap (h : At cursor text) : At cursor.skipGap text := by
  unfold At
  rw [← Cursor.rest_skipGap, Cursor.skipGap_skipGap]
  exact h

theorem At.head_keyword (word : Keyword) (h : At cursor (word.text ++ text)) :
    (cursor.rest.dropWhile Text.isGap).head? = word.text.head? := by
  obtain ⟨c, hc, -⟩ := beginsWith_keyword word
  rw [h.head (.keyword word) hc]
  exact hc.1.symm

/-- A keyword and a space are taken. -/
theorem At.exists_matchKeyword (word : Keyword) (h : At cursor (word.text ++ ' ' :: text)) :
    ∃ next, cursor.matchKeyword word.text = (true, next) ∧ At next text := by
  obtain ⟨c, hc, -⟩ := beginsWith_keyword word
  obtain ⟨next, hnext, hrest⟩ :=
    Cursor.exists_matchKeyword (h.token (.keyword word) hc) rfl
  exact ⟨next, hnext, at_of_rest_eq_space hrest⟩

/-- A literal in front of a text that it cannot go on with is read. -/
theorem At.exists_readValue {value : Value} (h : At cursor (value.literal ++ text))
    (hwritable : value.IsWritable) (hstops : Stops text) :
    ∃ next, readValue cursor = (.ok value.reread, next) ∧ next.rest = text := by
  have hdenotes := denotes_literalToken hwritable
  obtain ⟨c, hc, -⟩ := beginsWith_of_denotes hdenotes
  have hspaced : Spaced false [literalToken value] (value.literal ++ text) text :=
    Spaced.literal_append rfl
  exact Sift.Filter.exists_readValue hdenotes (hspaced.congr hc h.symm) hstops

/-! ### Infinite numbers -/

/-- A literal that cannot be read is an infinite number. -/
theorem exists_infinity {value : Value} (hreadable : value.IsReadable)
    (hwritable : ¬ value.IsWritable) : ∃ negative, value = .float (Binary64.infinity negative) := by
  rcases value with _ | _ | x | _
  · exact absurd hreadable id
  · exact absurd trivial hwritable
  · rcases x with _ | ⟨negative, code, hle⟩
    · cases hreadable
    · obtain rfl : code = Binary64.infinityCode := by
        have hlt : ¬ code < Binary64.infinityCode := fun h => hwritable (decide_eq_true h)
        omega
      exact ⟨negative, rfl⟩
  · exact absurd hreadable hwritable

theorem literal_infinity (negative : Bool) :
    (Value.float (Binary64.infinity negative)).literal =
      (if negative then ['-'] else []) ++ ['i', 'n', 'f'] := by
  cases negative <;> rfl

/-- The literal of an infinite number is not read, or only its sign is. -/
theorem stuck_readValue {value : Value} (hreadable : value.IsReadable)
    (hwritable : ¬ value.IsWritable) (h : At cursor (value.literal ++ text)) :
    Stuck (readValue cursor) := by
  obtain ⟨negative, rfl⟩ := exists_infinity hreadable hwritable
  rw [literal_infinity] at h
  have hstops : ∀ c ∈ ('i' :: 'n' :: 'f' :: text).head?, Cursor.isTokenCharacter c = false := by
    intro c hc
    obtain rfl : 'i' = c := Option.some.inj hc
    decide
  have hsign : ∀ c ∈ (if negative then ['-'] else []), Cursor.isTokenCharacter c = true :=
    List.all_eq_true.mp (by cases negative <;> rfl)
  have hrest : cursor.skipGap.rest.dropWhile Text.isGap =
      (if negative then ['-'] else []) ++ 'i' :: 'n' :: 'f' :: text := by
    rw [← Cursor.rest_skipGap, Cursor.skipGap_skipGap, Cursor.rest_skipGap]
    cases negative <;> exact h
  have hquote : cursor.skipGap.rest.head? ≠ some '\'' := by
    rw [← Cursor.skipGap_skipGap, Cursor.rest_skipGap, hrest]
    cases negative <;> simp
  obtain ⟨after, hnumber, hafter⟩ := Cursor.exists_readNumber hrest hsign hstops
  intro value next hread
  simp only [readValue, hquote, ↓reduceIte, hnumber] at hread
  cases negative
  · cases hread
  · cases hread
    rw [hafter]
    rfl

/-! ### Lists and conditions -/

theorem fails_readValuesAfter_of_stuck (before : List Value) (h : Stuck (readValue cursor)) :
    Fails (readValuesAfter before cursor) := by
  rw [readValuesAfter_eq]
  rcases hread : readValue cursor with ⟨_ | value, next⟩
  · exact fails_error _ _
  · have hhead := h value next hread
    have hcomma : next.matchText [','] = (false, next.skipGap) :=
      matchText_of_head hhead (by decide)
    have hclose : next.matchText [')'] = (false, next.skipGap) :=
      matchText_of_head hhead (by decide)
    simp only [hcomma, Cursor.matchText_skipGap, hclose]
    exact fails_error _ _

/-- A list in which a literal cannot be read is not read. -/
theorem fails_readValuesAfter : ∀ {values : List Value}, (∀ value ∈ values, value.IsReadable) →
    ¬ (∀ value ∈ values, value.IsWritable) → ∀ (before : List Value) {cursor : Cursor},
      At cursor (writeValues values ++ text) → Fails (readValuesAfter before cursor)
  | [], _, hwritable, _, _, _ => absurd nofun hwritable
  | [value], hreadable, hwritable, before, _, h => by
    have hvalue : ¬ value.IsWritable := fun hvalue =>
      hwritable (List.forall_mem_cons.mpr ⟨hvalue, nofun⟩)
    exact fails_readValuesAfter_of_stuck before
      (stuck_readValue (hreadable value List.mem_cons_self) hvalue h)
  | value :: second :: values, hreadable, hwritable, before, cursor, h => by
    rw [writeValues, List.append_assoc, List.append_assoc] at h
    · by_cases hvalue : value.IsWritable
      · have hmore : ¬ ∀ value ∈ second :: values, value.IsWritable := fun hall =>
          hwritable (List.forall_mem_cons.mpr ⟨hvalue, hall⟩)
        have hstops : Stops (", ".toList ++ (writeValues (second :: values) ++ text)) := by
          intro c hc
          obtain rfl : ',' = c := Option.some.inj hc
          decide
        obtain ⟨after, hafter, htext⟩ := h.exists_readValue hvalue hstops
        obtain ⟨next, hnext, hrest⟩ := Cursor.exists_matchText
          (show after.rest.dropWhile Text.isGap =
            [','] ++ (' ' :: (writeValues (second :: values) ++ text)) by rw [htext]; rfl)
        rw [readValuesAfter_eq, hafter]
        simp only [hnext]
        exact fails_readValuesAfter (fun value h => hreadable value (List.mem_cons_of_mem _ h))
          hmore _ (at_of_rest_eq_space hrest)
      · exact fails_readValuesAfter_of_stuck before
          (stuck_readValue (hreadable value List.mem_cons_self) hvalue h)
    · exact List.cons_ne_nil second values

/-- No operator is found in front of a character that no sign begins with. -/
theorem exists_readOperator_eq_none {c : Char} (hsign : c ∉ ['=', '!', '<', '>']) :
    ∀ (operators : List Comparison) {cursor : Cursor},
      (cursor.rest.dropWhile Text.isGap).head? = some c →
      ∃ next, readOperator operators cursor = (none, next)
  | [], cursor, _ => ⟨cursor, rfl⟩
  | operator :: operators, cursor, hc => by
    obtain ⟨d, ⟨hd, -⟩, hmem⟩ := beginsWith_sign operator
    obtain ⟨cs, hcs⟩ := List.head?_eq_some_iff.mp hd
    have hcs : operator.symbol = d :: cs := hcs
    have hne : d ≠ c := fun heq => hsign (heq ▸ hmem)
    rw [readOperator, hcs, matchText_of_head hc hne]
    refine exists_readOperator_eq_none hsign operators ?_
    rw [← Cursor.rest_skipGap, Cursor.skipGap_skipGap]
    exact hc

/-- A condition begins with a keyword or a sign. -/
theorem fails_readPredicate_of_head {c : Char} (field : String)
    (hc : (cursor.rest.dropWhile Text.isGap).head? = some c)
    (hword : ∀ word : Keyword, word.text.head? ≠ some c) (hsign : c ∉ ['=', '!', '<', '>']) :
    Fails (readPredicate field cursor) := by
  have hkeyword := fun word => matchKeyword_of_head word hc (hword word)
  have hc' : (cursor.skipGap.rest.dropWhile Text.isGap).head? = some c := by
    rw [← Cursor.rest_skipGap, Cursor.skipGap_skipGap]
    exact hc
  obtain ⟨next, hnext⟩ := exists_readOperator_eq_none hsign Comparison.all hc'
  simp only [readPredicate, toList_eq_text, Cursor.matchKeyword_skipGap, hkeyword, readComparison,
    hnext]
  exact fails_error _ _

/-- The list of a membership in which a literal cannot be read. -/
theorem fails_readValues {values : List Value} (hreadable : ∀ value ∈ values, value.IsReadable)
    (hwritable : ¬ ∀ value ∈ values, value.IsWritable)
    (h : At cursor ('(' :: (writeValues values ++ text))) : Fails (readValues cursor) := by
  obtain ⟨next, hnext, hrest⟩ := Cursor.exists_matchText (h.token .opening beginsWith_opening)
  rw [readValues, show cursor.matchText ['('] = (true, next) from hnext]
  exact fails_readValuesAfter hreadable hwritable [] (hrest ▸ at_rest next)

/-- A condition in which a literal cannot be read gets stuck, if the condition is one of those with
signs. -/
theorem stuck_readPredicate_compare (field : String) (operator : Comparison) {value : Value}
    (hreadable : value.IsReadable) (hwritable : ¬ value.IsWritable)
    (h : At cursor (operator.symbol ++ ' ' :: (value.literal ++ text))) :
    Stuck (readPredicate field cursor) := by
  obtain ⟨c, hc, hsign⟩ := beginsWith_sign operator
  have hhead := h.head (.sign operator) hc
  have hkeyword : ∀ word : Keyword, cursor.matchKeyword word.text = (false, cursor.skipGap) := by
    intro word
    refine matchKeyword_of_head word hhead ?_
    simp only [List.mem_cons, List.not_mem_nil, or_false] at hsign
    rcases hsign with rfl | rfl | rfl | rfl <;> cases word <;> decide
  have htext : cursor.skipGap.rest.dropWhile Text.isGap =
      operator.symbol ++ ' ' :: (value.literal ++ text) := by
    rw [← Cursor.rest_skipGap, Cursor.skipGap_skipGap]
    exact h.token (.sign operator) hc
  have hspace : (' ' :: (value.literal ++ text)).head? ≠ some '=' := by simp
  obtain ⟨next, hnext, hrest⟩ := exists_readOperator (by cases operator <;> decide) htext
    fun _ => not_symbol_ahead hspace
  simp only [readPredicate, toList_eq_text, Cursor.matchKeyword_skipGap, hkeyword, readComparison,
    hnext]
  exact Stuck.mapOutcome _ (stuck_readValue hreadable hwritable (at_of_rest_eq_space hrest))

theorem fails_readPredicate_member (field : String) {values : List Value}
    (hreadable : ∀ value ∈ values, value.IsReadable)
    (hwritable : ¬ ∀ value ∈ values, value.IsWritable)
    (h : At cursor ("IN (".toList ++ (writeValues values ++ text))) :
    Fails (readPredicate field cursor) := by
  obtain ⟨next, hnext, hat⟩ := At.exists_matchKeyword .member h
  have hfails := fails_readValues hreadable hwritable hat
  simp only [readPredicate, toList_eq_text, hnext]
  exact hfails.mapOutcome _

theorem fails_readPredicate_notMember (field : String) {values : List Value}
    (hreadable : ∀ value ∈ values, value.IsReadable)
    (hwritable : ¬ ∀ value ∈ values, value.IsWritable)
    (h : At cursor ("NOT IN (".toList ++ (writeValues values ++ text))) :
    Fails (readPredicate field cursor) := by
  obtain ⟨middle, hmiddle, hat⟩ := At.exists_matchKeyword .not h
  obtain ⟨next, hnext, hat'⟩ := At.exists_matchKeyword .member hat
  have hfails := fails_readValues hreadable hwritable hat'
  have hmember := matchKeyword_of_head .member (At.head_keyword .not h) (by decide)
  simp only [readPredicate, toList_eq_text, hmember, Cursor.matchKeyword_skipGap, hmiddle, hnext]
  exact hfails.mapOutcome _

/-- Of two bounds, the lower one makes the reading fail, because no AND comes next; the upper one may
be read up to its sign. -/
theorem stuck_readPredicate_between (field : String) {lower upper : Value}
    (hlower : lower.IsReadable) (hupper : upper.IsReadable)
    (hwritable : ¬ (lower.IsWritable ∧ upper.IsWritable))
    (h : At cursor ("BETWEEN ".toList ++ (lower.literal ++ (" AND ".toList ++
      (upper.literal ++ text))))) : Stuck (readPredicate field cursor) := by
  obtain ⟨middle, hmiddle, hat⟩ := At.exists_matchKeyword .between h
  have hhead := At.head_keyword .between h
  have hmember := matchKeyword_of_head .member hhead (by decide)
  have hnot := matchKeyword_of_head .not hhead (by decide)
  simp only [readPredicate, toList_eq_text, hmember, hnot, Cursor.matchKeyword_skipGap, hmiddle,
    readBounds]
  by_cases hw : lower.IsWritable
  · obtain ⟨after, hafter, hrest⟩ := hat.exists_readValue hw (by
      intro c hc
      obtain rfl : ' ' = c := Option.some.inj hc
      decide)
    obtain ⟨next, hnext, hat'⟩ :=
      At.exists_matchKeyword .and (at_of_rest_eq_space (hrest.trans rfl))
    have hstuck := stuck_readValue hupper (fun h => hwritable ⟨hw, h⟩) hat'
    simp only [hafter, hnext]
    exact hstuck.mapOutcome _
  · have hstuck := stuck_readValue hlower hw hat
    rcases hread : readValue middle with ⟨_ | value, next⟩
    · exact (fails_error _ _).stuck
    · have hand := matchKeyword_of_head .and (hstuck value next hread) (by decide)
      simp only [hand]
      exact (fails_error _ _).stuck

/-! ### Names -/

/-- A name in front of a space is read as the name of a field. -/
theorem exists_readPrimary_of_name {field : String} (hname : IsName field)
    (h : At cursor (field.toList ++ ' ' :: text)) :
    ∃ next, (readPrimary cursor).1 = readPredicate field next ∧ At next text := by
  obtain ⟨c, hc, hcharacter⟩ := beginsWith_of_isName hname
  have htext := h.token (.name field) hc
  have hopen : cursor.matchText ['('] = (false, cursor.skipGap) := by
    refine matchText_of_head (h.head (.name field) hc) ?_
    rintro rfl
    revert hcharacter
    decide
  obtain ⟨next, hnext, hrest⟩ := Cursor.exists_readIdentifier
    (show cursor.skipGap.rest.dropWhile Text.isGap = field.toList ++ ' ' :: text by
      rw [← Cursor.rest_skipGap, Cursor.skipGap_skipGap]; exact htext) hname.2
    (by simpa using (by decide : Cursor.isNameCharacter ' ' = false))
  refine ⟨next, ?_, at_of_rest_eq_space hrest⟩
  rw [readPrimary_val, Cursor.matchText_skipGap, hopen]
  simp only [hnext]
  rcases hfield : field.toList with _ | ⟨d, ds⟩
  · exact absurd hfield hname.1
  · simp only [← hfield, String.ofList_toList]

/-- The name of a field with any other name than NOT is no keyword. -/
theorem readNegation_of_name {field : String} (hname : IsName field) (hfield : field ≠ "NOT")
    (h : At cursor (field.toList ++ ' ' :: text)) :
    (readNegation cursor).1 = (readPrimary cursor).1 := by
  obtain ⟨c, hc, -⟩ := beginsWith_of_isName hname
  have hnot : ¬ Cursor.KeywordAhead Keyword.not.text cursor.rest := fun hahead =>
    hfield (String.toList_inj.mp (eq_of_keywordAhead hname (h.token (.name field) hc)
      (by simpa using (by decide : Cursor.isNameCharacter ' ' = false)) hahead).1)
  simp only [readNegation_val, toList_eq_text, Cursor.matchKeyword_of_not_ahead hnot,
    readPrimary_skipGap]

/-- The name NOT is taken for the keyword. -/
theorem exists_readNegation_of_not (h : At cursor ("NOT".toList ++ ' ' :: text)) :
    ∃ next, (readNegation cursor).1 = mapOutcome .not (readPrimary next).1 ∧ At next text := by
  obtain ⟨next, hnext, hat⟩ := At.exists_matchKeyword .not h
  exact ⟨next, by simp only [readNegation_val, toList_eq_text, hnext], hat⟩

/-- The sign of a comparison is no primary. -/
theorem fails_readPrimary_of_sign (operator : Comparison) (h : At cursor (operator.symbol ++ text)) :
    Fails (readPrimary cursor).1 := by
  obtain ⟨c, hc, hsign⟩ := beginsWith_sign operator
  have hhead := h.head (.sign operator) hc
  have hcharacter : c ≠ '(' ∧ Cursor.isNameCharacter c = false := by
    simp only [List.mem_cons, List.not_mem_nil, or_false] at hsign
    rcases hsign with rfl | rfl | rfl | rfl <;> decide
  have hopen : cursor.matchText ['('] = (false, cursor.skipGap) :=
    matchText_of_head hhead hcharacter.1.symm
  have hname : ∀ d ∈ (cursor.skipGap.rest.dropWhile Text.isGap).head?,
      Cursor.isNameCharacter d = false := by
    rw [← Cursor.rest_skipGap, Cursor.skipGap_skipGap, Cursor.rest_skipGap, hhead]
    intro d hd
    obtain rfl : c = d := Option.some.inj hd
    exact hcharacter.2
  obtain ⟨next, hnext, -⟩ := Cursor.exists_readIdentifier (List.nil_append _).symm nofun hname
  rw [readPrimary_val, Cursor.matchText_skipGap, hopen]
  simp only [hnext]
  exact fails_error _ _

/-- A keyword is taken for a name, so that another condition would have to follow. -/
theorem fails_readPrimary_of_keyword (word : Keyword) {c : Char}
    (h : At cursor (word.text ++ ' ' :: text)) (hc : (text.dropWhile Text.isGap).head? = some c)
    (hword : ∀ word : Keyword, word.text.head? ≠ some c) (hsign : c ∉ ['=', '!', '<', '>']) :
    Fails (readPrimary cursor).1 := by
  have hname : IsName (String.ofList word.text) := by
    cases word <;> decide
  have h : At cursor ((String.ofList word.text).toList ++ ' ' :: text) := by
    rwa [String.toList_ofList]
  obtain ⟨next, hnext, hat⟩ := exists_readPrimary_of_name hname h
  rw [hnext]
  refine fails_readPredicate_of_head _ ?_ hword hsign
  rw [hat, hc]

/-- The first character of a literal begins neither a keyword nor a sign. -/
theorem exists_head_literal {value : Value} (hreadable : value.IsReadable) (text : List Char) :
    ∃ c, ((value.literal ++ text).dropWhile Text.isGap).head? = some c ∧
      (∀ word : Keyword, word.text.head? ≠ some c) ∧ c ∉ ['=', '!', '<', '>'] := by
  have htoken : ∀ {c : Char}, Cursor.isTokenCharacter c = true →
      (∀ word : Keyword, word.text.head? ≠ some c) ∧ c ∉ ['=', '!', '<', '>'] := by
    intro c hc
    constructor
    · intro word hword
      obtain ⟨d, ⟨hd, -⟩, -, hnot⟩ := beginsWith_keyword word
      have hd : word.text.head? = some d := hd
      rw [hword] at hd
      rw [Option.some.inj hd, hnot] at hc
      cases hc
    · simp only [List.mem_cons, List.not_mem_nil, or_false]
      rintro (rfl | rfl | rfl | rfl) <;> exact absurd hc (by decide)
  by_cases hwritable : value.IsWritable
  · have hdenotes := denotes_literalToken hwritable
    obtain ⟨c, ⟨hhead, hgap⟩, hc⟩ := beginsWith_of_denotes hdenotes
    rw [text_literalToken] at hhead
    obtain ⟨cs, hcs⟩ := List.head?_eq_some_iff.mp hhead
    refine ⟨c, ?_, ?_⟩
    · rw [hcs, List.cons_append, List.dropWhile_cons_of_neg (by simp [hgap])]
      rfl
    · rcases hc with rfl | hc
      · exact ⟨by intro word; cases word <;> decide, by decide⟩
      · exact htoken hc
  · obtain ⟨negative, rfl⟩ := exists_infinity hreadable hwritable
    rw [literal_infinity]
    cases negative
    · exact ⟨'i', rfl, by intro word; cases word <;> decide, by decide⟩
    · exact ⟨'-', rfl, htoken (by decide)⟩

/-! ### Operands -/

theorem stops_of_endsKeyword (h : Cursor.endsKeyword text = true) : Stops text := by
  intro c hc
  rcases text with _ | ⟨d, text⟩
  · cases hc
  · obtain rfl : d = c := Option.some.inj hc
    simp only [Cursor.endsKeyword, Bool.or_eq_true, beq_iff_eq] at h
    rcases h with (hgap | rfl) | rfl
    · exact (character_of_isGap hgap).2
    · decide
    · decide

/-- The canonical text of an operand that can be read is read to its end. -/
theorem exists_readNegation_write {filter : Filter} (hwritable : filter.WellFormed Value.IsWritable)
    (hnot : filter.OnlyExcludesNot) (hends : Cursor.endsKeyword text = true)
    (h : At cursor (write filter ++ text)) :
    ∃ filter' next, (readNegation cursor).1 = (.ok filter', next) ∧ next.rest = text := by
  obtain ⟨tokens, hderives, hspaced⟩ := (writes_write hwritable hnot).1
  obtain ⟨token, more, c, rfl, hc, -⟩ := hderives.exists_beginsWith
  have hspaced := (hspaced (fun _ => rfl) hends).congr hc h.symm
  exact ⟨_, reads_of_derives hderives hspaced (fun _ => rfl) (stops_of_endsKeyword hends) nofun⟩

/-- Neither AND nor OR goes on in front of an `i`. -/
theorem stuck_readMoreAnd (filter : Filter)
    (h : (cursor.rest.dropWhile Text.isGap).head? = some 'i') :
    Stuck (readMoreAnd filter cursor).1 := by
  rw [readMoreAnd_of_not_ahead (not_keywordAhead_of_head .and h (by decide))]
  intro filter' next heq
  cases heq
  rwa [← Cursor.rest_skipGap, Cursor.skipGap_skipGap]

theorem stuck_readMoreOr (filter : Filter)
    (h : (cursor.rest.dropWhile Text.isGap).head? = some 'i') :
    Stuck (readMoreOr filter cursor).1 := by
  rw [readMoreOr_of_not_ahead (not_keywordAhead_of_head .or h (by decide))]
  intro filter' next heq
  cases heq
  rwa [← Cursor.rest_skipGap, Cursor.skipGap_skipGap]

theorem stuck_readConjunction (h : Stuck (readNegation cursor).1) :
    Stuck (readConjunction cursor).1 := by
  rw [readConjunction_val]
  rcases hread : (readNegation cursor).1 with ⟨_ | filter, next⟩
  · exact (fails_error _ _).stuck
  · exact stuck_readMoreAnd filter (h filter next hread)

theorem stuck_readDisjunction (h : Stuck (readConjunction cursor).1) :
    Stuck (readDisjunction cursor).1 := by
  rw [readDisjunction_val]
  rcases hread : (readConjunction cursor).1 with ⟨_ | filter, next⟩
  · exact (fails_error _ _).stuck
  · exact stuck_readMoreOr filter (h filter next hread)

/-- The right operand of an AND. -/
theorem stuck_readMoreAnd_of_operand (left : Filter) (hat : At cursor ("AND ".toList ++ text))
    (h : ∀ {next : Cursor}, At next text → Stuck (readNegation next).1) :
    Stuck (readMoreAnd left cursor).1 := by
  obtain ⟨after, hand, hat⟩ := At.exists_matchKeyword .and hat
  rw [readMoreAnd_val, toList_eq_text.1, hand]
  dsimp only
  rcases hread : (readNegation after).1 with ⟨_ | right, next⟩
  · exact (fails_error _ _).stuck
  · exact stuck_readMoreAnd _ (h hat right next hread)

/-- The right operand of an OR. -/
theorem stuck_readMoreOr_of_operand (left : Filter) (hat : At cursor ("OR ".toList ++ text))
    (h : ∀ {next : Cursor}, At next text → Stuck (readNegation next).1) :
    Stuck (readMoreOr left cursor).1 := by
  obtain ⟨after, hor, hat⟩ := At.exists_matchKeyword .or hat
  rw [readMoreOr_val, toList_eq_text.2.1, hor]
  dsimp only
  rcases hread : (readConjunction after).1 with ⟨_ | right, next⟩
  · exact (fails_error _ _).stuck
  · exact stuck_readMoreOr _ (stuck_readConjunction (h hat) right next hread)

/-- Parentheses around a filter that gets stuck are not closed. -/
theorem fails_readPrimary_group (h : At cursor ('(' :: text))
    (hinside : ∀ {inside : Cursor}, At inside text → Stuck (readDisjunction inside).1) :
    Fails (readPrimary cursor).1 := by
  obtain ⟨inside, hopen, hrest⟩ := Cursor.exists_matchText (h.token .opening beginsWith_opening)
  have hstuck := hinside (hrest ▸ at_rest inside)
  rw [readPrimary_val, Cursor.matchText_skipGap,
    show cursor.matchText ['('] = (true, inside) from hopen]
  dsimp only
  rcases hread : (readDisjunction inside).1 with ⟨_ | filter, next⟩
  · exact fails_error _ _
  · have hclose : next.matchText [')'] = (false, next.skipGap) :=
      matchText_of_head (hstuck filter next hread) (by decide)
    simp only [hclose]
    exact fails_error _ _

/-- A filter in parentheses does not begin with the keyword NOT. -/
theorem readNegation_of_opening (h : At cursor ('(' :: text)) :
    (readNegation cursor).1 = (readPrimary cursor).1 := by
  have hnot := matchKeyword_of_head .not (h.head .opening beginsWith_opening) (by decide)
  simp only [readNegation_val, toList_eq_text, hnot, readPrimary_skipGap]

/-! ### Filters -/

/-- A condition whose literals cannot be read, on a field with any other name than NOT. -/
theorem stuck_readNegation_of_predicate {field : String} (hname : IsName field)
    (h : At cursor (field.toList ++ ' ' :: text))
    (hnot : field = "NOT" → ∀ {next : Cursor}, At next text → Fails (readPrimary next).1)
    (hother : field ≠ "NOT" → ∀ {next : Cursor}, At next text → Stuck (readPredicate field next)) :
    Stuck (readNegation cursor).1 := by
  by_cases hfield : field = "NOT"
  · subst hfield
    obtain ⟨next, hnext, hat⟩ := exists_readNegation_of_not h
    rw [hnext]
    exact ((hnot rfl hat).mapOutcome _).stuck
  · obtain ⟨next, hnext, hat⟩ := exists_readPrimary_of_name hname h
    rw [readNegation_of_name hname hfield h, hnext]
    exact hother hfield hat

theorem stuck_readNegation_compare {field : String} {operator : Comparison} {value : Value}
    (hreadable : (compare field operator value).WellFormed Value.IsReadable)
    (hbad : ¬ ((compare field operator value).WellFormed Value.IsWritable ∧
      (compare field operator value).OnlyExcludesNot))
    (h : At cursor (write (compare field operator value) ++ text)) :
    Stuck (readNegation cursor).1 := by
  obtain ⟨hnames, hliterals, hlists⟩ := hreadable
  have hat : At cursor (field.toList ++ ' ' :: (operator.symbol ++ ' ' ::
      (value.literal ++ text))) := by
    simpa [write] using h
  refine stuck_readNegation_of_predicate (hnames field List.mem_cons_self) hat
    (fun _ _ hat => fails_readPrimary_of_sign operator hat) fun hfield _ hat => ?_
  refine stuck_readPredicate_compare field operator (hliterals value List.mem_cons_self)
    (fun hw => hbad ⟨?_, hfield⟩) hat
  exact ⟨hnames, List.forall_mem_cons.mpr ⟨hw, List.forall_mem_nil _⟩, hlists⟩

theorem stuck_readNegation_member {field : String} {values : List Value}
    (hreadable : (member field false values).WellFormed Value.IsReadable)
    (hbad : ¬ ((member field false values).WellFormed Value.IsWritable ∧
      (member field false values).OnlyExcludesNot))
    (h : At cursor (write (member field false values) ++ text)) :
    Stuck (readNegation cursor).1 := by
  obtain ⟨hnames, hliterals, hlists⟩ := hreadable
  have hat : At cursor (field.toList ++ ' ' :: ("IN (".toList ++
      (writeValues values ++ ')' :: text))) := by
    simpa [write] using h
  refine stuck_readNegation_of_predicate (hnames field List.mem_cons_self) hat
    (fun _ _ hat => ?_) fun hfield _ hat => ?_
  · exact fails_readPrimary_of_keyword .member hat rfl (by intro word; cases word <;> decide)
      (by decide)
  · have hwritable : ¬ ∀ value ∈ values, value.IsWritable := fun hw =>
      hbad ⟨⟨hnames, hw, hlists⟩, fun heq => absurd heq hfield⟩
    exact (fails_readPredicate_member field hliterals hwritable hat).stuck

theorem stuck_readNegation_notMember {field : String} {values : List Value}
    (hreadable : (member field true values).WellFormed Value.IsReadable)
    (hbad : ¬ ((member field true values).WellFormed Value.IsWritable ∧
      (member field true values).OnlyExcludesNot))
    (h : At cursor (write (member field true values) ++ text)) :
    Stuck (readNegation cursor).1 := by
  obtain ⟨hnames, hliterals, hlists⟩ := hreadable
  have hat : At cursor (field.toList ++ ' ' :: ("NOT IN (".toList ++
      (writeValues values ++ ')' :: text))) := by
    simpa [write] using h
  have hwritable : ¬ ∀ value ∈ values, value.IsWritable := fun hw =>
    hbad ⟨⟨hnames, hw, hlists⟩, fun _ => rfl⟩
  refine stuck_readNegation_of_predicate (hnames field List.mem_cons_self) hat
    (fun _ _ hat => ?_) fun _ _ hat => ?_
  · -- The word NOT of the condition is taken for the name that it stands behind.
    obtain ⟨next, hnext, hat⟩ := exists_readPrimary_of_name (by decide : IsName "NOT") hat
    rw [hnext]
    exact fails_readPredicate_member "NOT" hliterals hwritable hat
  · exact (fails_readPredicate_notMember field hliterals hwritable hat).stuck

theorem stuck_readNegation_between {field : String} {lower upper : Value}
    (hreadable : (between field lower upper).WellFormed Value.IsReadable)
    (hbad : ¬ ((between field lower upper).WellFormed Value.IsWritable ∧
      (between field lower upper).OnlyExcludesNot))
    (h : At cursor (write (between field lower upper) ++ text)) :
    Stuck (readNegation cursor).1 := by
  obtain ⟨hnames, hliterals, hlists⟩ := hreadable
  have hlower := hliterals lower List.mem_cons_self
  have hupper := hliterals upper (List.mem_cons_of_mem _ List.mem_cons_self)
  have hat : At cursor (field.toList ++ ' ' :: ("BETWEEN ".toList ++ (lower.literal ++
      (" AND ".toList ++ (upper.literal ++ text))))) := by
    simpa [write] using h
  refine stuck_readNegation_of_predicate (hnames field List.mem_cons_self) hat
    (fun _ _ hat => ?_) fun hfield _ hat => ?_
  · obtain ⟨c, hc, hword, hsign⟩ := exists_head_literal hlower _
    exact fails_readPrimary_of_keyword .between hat hc hword hsign
  · refine stuck_readPredicate_between field hlower hupper (fun hw => hbad ⟨?_, hfield⟩) hat
    have hbounds := List.forall_mem_cons.mpr ⟨hw.2, List.forall_mem_nil _⟩
    exact ⟨hnames, List.forall_mem_cons.mpr ⟨hw.1, hbounds⟩, hlists⟩

theorem stuck_readNegation_matching {field : String} {pattern : Pattern}
    (hreadable : (matching field pattern).WellFormed Value.IsReadable)
    (hbad : ¬ ((matching field pattern).WellFormed Value.IsWritable ∧
      (matching field pattern).OnlyExcludesNot))
    (h : At cursor (write (matching field pattern) ++ text)) :
    Stuck (readNegation cursor).1 := by
  obtain ⟨hnames, hliterals, hlists⟩ := hreadable
  have hsource : (Value.string pattern.source).IsReadable := hliterals _ List.mem_cons_self
  have hat : At cursor (field.toList ++ ' ' :: (patternKeyword pattern ++ ' ' ::
      ((Value.string pattern.source).literal ++ text))) := by
    simpa [write] using h
  refine stuck_readNegation_of_predicate (hnames field List.mem_cons_self) hat
    (fun _ _ hat => ?_) fun hfield _ _ => ?_
  · obtain ⟨c, hc, hword, hsign⟩ := exists_head_literal hsource text
    cases pattern with
    | like source => exact fails_readPrimary_of_keyword .like hat hc hword hsign
    | regexp source => exact fails_readPrimary_of_keyword .regexp hat hc hword hsign
  · have hwritable : (Value.string pattern.source).IsWritable := hsource
    have hsources := List.forall_mem_cons.mpr ⟨hwritable, List.forall_mem_nil _⟩
    exact absurd ⟨⟨hnames, hsources, hlists⟩, hfield⟩ hbad

/-- **A canonical text that is no spelling gets stuck.** A filter with an infinite number, or with the
field NOT in any other condition than a negated membership, has a canonical text that is not read to
its end. -/
theorem stuck_readNegation_write : ∀ {filter : Filter}, filter.WellFormed Value.IsReadable →
    ¬ (filter.WellFormed Value.IsWritable ∧ filter.OnlyExcludesNot) →
    ∀ {cursor : Cursor} {text : List Char}, At cursor (write filter ++ text) →
      Stuck (readNegation cursor).1 ∧ (filter.isBinary = true → Fails (readPrimary cursor).1)
  | compare .., hreadable, hbad, _, _, h =>
    ⟨stuck_readNegation_compare hreadable hbad h, fun hbinary => absurd hbinary Bool.false_ne_true⟩
  | member _ false _, hreadable, hbad, _, _, h =>
    ⟨stuck_readNegation_member hreadable hbad h, fun hbinary => absurd hbinary Bool.false_ne_true⟩
  | member _ true _, hreadable, hbad, _, _, h =>
    ⟨stuck_readNegation_notMember hreadable hbad h,
      fun hbinary => absurd hbinary Bool.false_ne_true⟩
  | between .., hreadable, hbad, _, _, h =>
    ⟨stuck_readNegation_between hreadable hbad h, fun hbinary => absurd hbinary Bool.false_ne_true⟩
  | matching .., hreadable, hbad, _, _, h =>
    ⟨stuck_readNegation_matching hreadable hbad h,
      fun hbinary => absurd hbinary Bool.false_ne_true⟩
  | and left right, hreadable, hbad, cursor, text, h => by
    obtain ⟨hleft, hright⟩ := wellFormed_and.mp hreadable
    have hat : At cursor
        ('(' :: (write left ++ (" AND ".toList ++ (write right ++ ')' :: text)))) := by
      simpa [write] using h
    have hfails : Fails (readPrimary cursor).1 := by
      refine fails_readPrimary_group hat fun {inside} hinside => stuck_readDisjunction ?_
      by_cases hgood : left.WellFormed Value.IsWritable ∧ left.OnlyExcludesNot
      · obtain ⟨left', next, hnext, hrest⟩ :=
          exists_readNegation_write hgood.1 hgood.2 rfl hinside
        rw [readConjunction_val, hnext]
        refine stuck_readMoreAnd_of_operand left' (at_of_rest_eq_space hrest) fun hat => ?_
        refine (stuck_readNegation_write hright (fun hw => hbad ?_) hat).1
        exact ⟨wellFormed_and.mpr ⟨hgood.1, hw.1⟩, hgood.2, hw.2⟩
      · exact stuck_readConjunction (stuck_readNegation_write hleft hgood hinside).1
    exact ⟨readNegation_of_opening hat ▸ hfails.stuck, fun _ => hfails⟩
  | or left right, hreadable, hbad, cursor, text, h => by
    obtain ⟨hleft, hright⟩ := wellFormed_or.mp hreadable
    have hat : At cursor
        ('(' :: (write left ++ (" OR ".toList ++ (write right ++ ')' :: text)))) := by
      simpa [write] using h
    have hfails : Fails (readPrimary cursor).1 := by
      refine fails_readPrimary_group hat fun {inside} hinside => ?_
      by_cases hgood : left.WellFormed Value.IsWritable ∧ left.OnlyExcludesNot
      · obtain ⟨left', next, hnext, hrest⟩ :=
          exists_readNegation_write hgood.1 hgood.2 rfl hinside
        have hand : ¬ Cursor.KeywordAhead Keyword.and.text next.rest := by
          rw [hrest]
          exact not_keywordAhead_of_head (c := 'O') .and rfl (by decide)
        rw [readDisjunction_val, readConjunction_val, hnext]
        dsimp only
        rw [readMoreAnd_of_not_ahead hand]
        refine stuck_readMoreOr_of_operand left' (at_of_rest_eq_space hrest).skipGap fun hat => ?_
        refine (stuck_readNegation_write hright (fun hw => hbad ?_) hat).1
        exact ⟨wellFormed_or.mpr ⟨hgood.1, hw.1⟩, hgood.2, hw.2⟩
      · exact stuck_readDisjunction
          (stuck_readConjunction (stuck_readNegation_write hleft hgood hinside).1)
    exact ⟨readNegation_of_opening hat ▸ hfails.stuck, fun _ => hfails⟩
  | not operand, hreadable, hbad, cursor, text, h => by
    have hbad : ¬ (operand.WellFormed Value.IsWritable ∧ operand.OnlyExcludesNot) := fun hw =>
      hbad ⟨wellFormed_not.mpr hw.1, hw.2⟩
    have hoperand : ∀ {cursor : Cursor} {text : List Char}, At cursor (write operand ++ text) →
        Stuck (readNegation cursor).1 ∧ (operand.isBinary = true → Fails (readPrimary cursor).1) :=
      stuck_readNegation_write (wellFormed_not.mp hreadable) hbad
    refine ⟨?_, fun h => absurd h Bool.false_ne_true⟩
    unfold write at h
    rw [List.append_assoc] at h
    obtain ⟨next, hnext, hat⟩ := exists_readNegation_of_not h
    rw [hnext]
    refine (Fails.mapOutcome _ ?_).stuck
    by_cases hbinary : operand.isBinary = true
    · rw [if_pos hbinary] at hat
      exact (hoperand hat).2 hbinary
    · rw [if_neg hbinary, List.cons_append, List.append_assoc] at hat
      refine fails_readPrimary_group hat fun hinside => ?_
      exact stuck_readDisjunction (stuck_readConjunction (hoperand hinside).1)

/-- The canonical text of a filter with an infinite number, or with the field NOT in any other
condition than a negated membership, is not read. -/
theorem parse_write_ne_ok {filter : Filter} (hreadable : filter.WellFormed Value.IsReadable)
    (hbad : ¬ (filter.WellFormed Value.IsWritable ∧ filter.OnlyExcludesNot)) (filter' : Filter) :
    parse (String.ofList (write filter)) ≠ .ok filter' := by
  have hstart : At (startCursor (write filter)) (write filter ++ []) := by
    unfold At
    rw [List.append_nil]
    exact congrArg _ (Text.trim_eq_self (tight_write hreadable.names))
  have hstuck := stuck_readDisjunction
    (stuck_readConjunction (stuck_readNegation_write hreadable hbad hstart).1)
  unfold parse parseFrom
  rw [String.toList_ofList]
  split
  · exact nofun
  · unfold parseRest
    rcases hread : (readDisjunction (startCursor (write filter))).1 with ⟨_ | filter'', next⟩
    · exact nofun
    · have hhead := hstuck filter'' next hread
      dsimp only
      rw [if_neg fun heof => ?_]
      · exact nofun
      · rw [show next.rest.dropWhile Text.isGap = [] from List.isEmpty_iff.mp heof] at hhead
        cases hhead

end Sift.Filter
