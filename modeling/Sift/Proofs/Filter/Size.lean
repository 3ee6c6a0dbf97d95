/-
# The size of a filter

A text that is read as a filter has at least three bytes for each condition and each connective of it. A
condition has a name, a sign and a value. AND and NOT have three characters and OR has two, but behind a
keyword stands a space, a tab or a parenthesis, which belongs to no condition and to no other connective:
so it is counted in front of what it stands in front of.

Key definition: `border`.
Key theorems: `length_le_of_spaced`, `border_of_endsKeyword`, `Derives.three_mul_nodeCount_le`,
`three_mul_nodeCount_le_of_parse`.
-/
import Sift.Proofs.Filter.Language
import Sift.Proofs.Filter.Resumption

namespace Sift.Filter

/-- One if a text begins with a space, a tab or an opening parenthesis. -/
def border : List Char → Nat
  | [] => 0
  | c :: _ => if Text.isGap c || c == '(' then 1 else 0

/-! ### Tokens -/

theorem Token.BeginsWith.text_ne_nil {token : Token} {c : Char} (h : token.BeginsWith c) :
    token.text ≠ [] := by
  intro htext
  rw [Token.BeginsWith, htext] at h
  cases h.1

theorem Denotes.text_ne_nil {token : Token} {value : Value} (h : Denotes token value) :
    token.text ≠ [] :=
  have ⟨_, hc, _⟩ := beginsWith_of_denotes h
  hc.text_ne_nil

theorem text_keyword_ne_nil (word : Keyword) : (Token.keyword word).text ≠ [] :=
  have ⟨_, hc, _⟩ := beginsWith_keyword word
  hc.text_ne_nil

theorem DenotesAll.text_ne_nil {tokens : List Token} {values : List Value}
    (h : DenotesAll tokens values) : ∀ token ∈ tokens, token.text ≠ [] := by
  induction h with
  | one hvalue => exact List.forall_mem_singleton.mpr hvalue.text_ne_nil
  | more hvalue _ ih =>
    exact List.forall_mem_cons.mpr
      ⟨hvalue.text_ne_nil, List.forall_mem_cons.mpr ⟨beginsWith_comma.text_ne_nil, ih⟩⟩

/-- The tokens of a list of values in parentheses. -/
theorem DenotesAll.text_ne_nil_of_parentheses {tokens : List Token} {values : List Value}
    (h : DenotesAll tokens values) :
    ∀ token ∈ Token.opening :: (tokens ++ [.closing]), token.text ≠ [] :=
  List.forall_mem_cons.mpr ⟨beginsWith_opening.text_ne_nil, List.forall_mem_append.mpr
    ⟨h.text_ne_nil, List.forall_mem_singleton.mpr beginsWith_closing.text_ne_nil⟩⟩

theorem Predicate.text_ne_nil {field : String} {tokens : List Token} {filter : Filter}
    (h : Predicate field tokens filter) : ∀ token ∈ tokens, token.text ≠ [] := by
  cases h with
  | compare operator hvalue =>
    obtain ⟨c, hc, -⟩ := beginsWith_sign operator
    simp [hc.text_ne_nil, hvalue.text_ne_nil]
  | member hvalues =>
    exact List.forall_mem_cons.mpr ⟨text_keyword_ne_nil _, hvalues.text_ne_nil_of_parentheses⟩
  | notMember hvalues =>
    exact List.forall_mem_cons.mpr ⟨text_keyword_ne_nil _, List.forall_mem_cons.mpr
      ⟨text_keyword_ne_nil _, hvalues.text_ne_nil_of_parentheses⟩⟩
  | between hlower hupper => simp [text_keyword_ne_nil, hlower.text_ne_nil, hupper.text_ne_nil]
  | like hsource | regexp hsource => simp [text_keyword_ne_nil, hsource.text_ne_nil]

/-- A condition has at least two tokens behind the name of its field, and it is one node. -/
theorem Predicate.two_le_length {field : String} {tokens : List Token} {filter : Filter}
    (h : Predicate field tokens filter) : 2 ≤ tokens.length ∧ filter.nodeCount = 1 := by
  cases h <;> exact ⟨by simp, rfl⟩

/-- A row of tokens has at least as many characters. -/
theorem length_le_of_spaced : ∀ {afterNot : Bool} {tokens : List Token} {text rest : List Char},
    (∀ token ∈ tokens, token.text ≠ []) → Spaced afterNot tokens text rest →
      tokens.length + rest.length ≤ text.length
  | _, [], _, _, _, h => by
    rw [spaced_nil.mp h]
    exact Nat.le_of_eq (Nat.zero_add _)
  | _, token :: tokens, _, rest, hne, ⟨gap, after, htext, _, _, hmore⟩ => by
    have ⟨htoken, htokens⟩ := List.forall_mem_cons.mp hne
    have hpos := List.length_pos_iff.mpr htoken
    have hle := length_le_of_spaced htokens hmore
    rw [htext, List.length_cons, List.length_append, List.length_append]
    omega

/-! ### Borders -/

theorem border_le (text : List Char) : border text ≤ 1 := by
  unfold border
  split
  · exact Nat.zero_le 1
  · split <;> decide

/-- A run of spaces and tabs in front of a text counts as its border if it is not empty. -/
theorem border_append_le {gap : List Char} (hgap : ∀ c ∈ gap, Text.isGap c = true) (text : List Char) :
    border (gap ++ text) ≤ gap.length + border text := by
  cases gap with
  | nil => exact Nat.le_add_left _ _
  | cons c gap =>
    have hle := border_le (c :: gap ++ text)
    rw [List.length_cons]
    omega

/-- A name has no border. -/
theorem border_of_isNameCharacter {c : Char} (hc : Cursor.isNameCharacter c = true)
    (text : List Char) : border (c :: text) = 0 := by
  have hopening : (c == '(') = false := beq_eq_false_iff_ne.mpr (by rintro rfl; cases hc)
  rw [border, isGap_of_isNameCharacter hc, hopening]
  rfl

/-- Between a keyword and a filter behind it stands a border. -/
theorem border_of_endsKeyword {level : Level} {tokens : List Token} {filter : Filter}
    {afterNot : Bool} {text rest : List Char} (h : Derives level tokens filter)
    (hspaced : Spaced afterNot tokens text rest) (hends : Cursor.endsKeyword text = true) :
    border text = 1 := by
  obtain ⟨token, more, c, rfl, hc, hfirst⟩ := h.exists_beginsWith
  obtain ⟨gap, after, rfl, hgap, -, -⟩ := hspaced
  cases gap with
  | cons d gap => simp [border, hgap d List.mem_cons_self]
  | nil =>
    obtain ⟨cs, hcs⟩ := List.head?_eq_some_iff.mp hc.1
    rw [hcs, List.nil_append, List.cons_append] at hends ⊢
    rcases hfirst with rfl | hname
    · rfl
    · refine absurd hends ?_
      have hopening : c ≠ '(' := by rintro rfl; cases hname
      have hclosing : c ≠ ')' := by rintro rfl; cases hname
      simp [Cursor.endsKeyword, hc.2, hopening, hclosing]

/-! ### Filters -/

/-- Whether every spelling by some tokens has three characters for each node of a filter, and one more if
a border stands in front. -/
def HasRoom (tokens : List Token) (filter : Filter) : Prop :=
  ∀ {afterNot : Bool} {text rest : List Char}, Spaced afterNot tokens text rest →
    3 * filter.nodeCount + rest.length + border text ≤ text.length

/-- The left operand of a connective keeps the border in front, and the right one has one of its own. -/
theorem HasRoom.join {tokens more : List Token} {left right filter : Filter} {level : Level}
    (word : Keyword) (hword : 2 ≤ word.text.length) (hright : Derives level more right)
    (hnodes : filter.nodeCount = 1 + left.nodeCount + right.nodeCount)
    (ihleft : HasRoom tokens left) (ihright : HasRoom more right) :
    HasRoom (tokens ++ .keyword word :: more) filter := by
  intro afterNot text rest hspaced
  obtain ⟨_, middle, htokens, gap, after, rfl, -, hends, hmore⟩ := exists_of_spaced_append hspaced
  have hleft := ihleft htokens
  -- OR has only two characters; the third one for the node is the border behind it.
  have hborder := border_of_endsKeyword hright hmore hends
  have hright := ihright hmore
  rw [List.length_append, List.length_append, show (Token.keyword word).text = word.text from rfl]
    at hleft
  omega

theorem HasRoom.not {tokens : List Token} {operand : Filter} {level : Level}
    (hoperand : Derives level tokens operand) (ih : HasRoom tokens operand) :
    HasRoom (.keyword .not :: tokens) (.not operand) := by
  rintro afterNot text rest ⟨gap, after, rfl, -, hends, htokens⟩
  have hborder := border_of_endsKeyword hoperand htokens hends
  have hoperand := ih htokens
  have hle := border_le (gap ++ ((Token.keyword .not).text ++ after))
  rw [Filter.nodeCount, List.length_append, List.length_append,
    show (Token.keyword .not).text.length = 3 from rfl]
  omega

theorem HasRoom.group {tokens : List Token} {filter : Filter} (ih : HasRoom tokens filter) :
    HasRoom (.opening :: (tokens ++ [.closing])) filter := by
  rintro afterNot text rest ⟨gap, after, rfl, -, -, hinside⟩
  obtain ⟨_, middle, htokens, gap', after', rfl, -, -, rfl⟩ := exists_of_spaced_append hinside
  have hfilter := ih htokens
  have hle := border_le (gap ++ (Token.opening.text ++ after))
  rw [List.length_append, List.length_append, show Token.closing.text.length = 1 from rfl] at hfilter
  rw [List.length_append, List.length_append, show Token.opening.text.length = 1 from rfl]
  omega

theorem hasRoom_predicate {field : String} {tokens : List Token} {filter : Filter}
    (hname : IsName field) (h : Predicate field tokens filter) :
    HasRoom (.name field :: tokens) filter := by
  rintro afterNot text rest ⟨gap, after, rfl, hgap, -, htokens⟩
  have hlength := length_le_of_spaced h.text_ne_nil htokens
  obtain ⟨htwo, hnodes⟩ := h.two_le_length
  have hpos := List.length_pos_iff.mpr hname.1
  have hborder := border_append_le hgap ((Token.name field).text ++ after)
  have hzero : border ((Token.name field).text ++ after) = 0 := by
    obtain ⟨c, hc, hcharacter⟩ := beginsWith_of_isName hname
    obtain ⟨cs, hcs⟩ := List.head?_eq_some_iff.mp hc.1
    rw [hcs, List.cons_append]
    exact border_of_isNameCharacter hcharacter _
  rw [hnodes, List.length_append, List.length_append,
    show (Token.name field).text = field.toList from rfl]
  rw [show (Token.name field).text = field.toList from rfl] at hborder hzero
  omega

/-- **A spelling has three characters for each node.** -/
theorem Derives.hasRoom {level : Level} {tokens : List Token} {filter : Filter}
    (h : Derives level tokens filter) : HasRoom tokens filter := by
  induction h with
  | or _ hright ihleft ihright => exact HasRoom.join .or (by decide) hright rfl ihleft ihright
  | and _ hright ihleft ihright => exact HasRoom.join .and (by decide) hright rfl ihleft ihright
  | ofConjunction _ ih | ofNegation _ ih | ofPrimary _ ih => exact ih
  | not hoperand ih => exact HasRoom.not hoperand ih
  | group _ ih => exact HasRoom.group ih
  | predicate hname h => exact hasRoom_predicate hname h

/-- A text that is read as a filter has three bytes for each node of it. -/
theorem three_mul_nodeCount_le_of_parse {text : String} {filter : Filter}
    (h : parse text = .ok filter) :
    3 * filter.nodeCount ≤ byteLength (Text.trim text.toList) := by
  obtain ⟨tokens, hderives, hspaced⟩ := spells_of_parse h
  have hroom := hderives.hasRoom hspaced
  have hbytes := length_le_byteLength (Text.trim text.toList)
  omega

theorem nodeCount_pos (filter : Filter) : 0 < filter.nodeCount := by
  cases filter <;> simp only [Filter.nodeCount] <;> omega

/-! ### Readings -/

variable {cursor next : Cursor}

/-- How many bytes a reading has taken at least: as many as there are fewer characters left. -/
theorem position_add_le (h : cursor.LeadsTo next) {count : Nat}
    (hcount : count + next.left ≤ cursor.left) : cursor.position + count ≤ next.position := by
  obtain ⟨passed, hrest, hposition⟩ := h
  have hbytes := length_le_byteLength passed
  unfold Cursor.left at hcount
  rw [hrest, List.length_append] at hcount
  omega

/-- A successful call of one of the readings that a filter is read by, and how many bytes it is known to
take. -/
inductive Succeeds (cursor next : Cursor) : Nat → Prop where
  | disjunction {filter : Filter} (h : (readDisjunction cursor).1 = (.ok filter, next)) :
    Succeeds cursor next (3 * filter.nodeCount)
  | conjunction {filter : Filter} (h : (readConjunction cursor).1 = (.ok filter, next)) :
    Succeeds cursor next (3 * filter.nodeCount)
  | negation {filter : Filter} (h : (readNegation cursor).1 = (.ok filter, next)) :
    Succeeds cursor next (3 * filter.nodeCount)
  | primary {filter : Filter} (h : (readPrimary cursor).1 = (.ok filter, next)) :
    Succeeds cursor next (3 * filter.nodeCount)
  | predicate {field : String} {filter : Filter} (h : readPredicate field cursor = (.ok filter, next)) :
    Succeeds cursor next 2
  | value {value : Value} (h : readValue cursor = (.ok value, next)) : Succeeds cursor next 1
  | values {values : List Value} (h : readValues cursor = (.ok values, next)) :
    Succeeds cursor next (values.length + 2)
  | patternText {operator source : String}
    (h : readPatternText operator cursor = (.ok source, next)) : Succeeds cursor next 1

theorem Begins.add_length_le {level : Level} {filter : Filter} {text rest : List Char}
    (h : Begins level filter text rest) : 3 * filter.nodeCount + rest.length ≤ text.length := by
  obtain ⟨tokens, gap, -, hderives, hspaced⟩ := h
  have hroom := hderives.hasRoom hspaced
  rw [List.length_append] at hroom
  omega

theorem DenotesAll.length_le {tokens : List Token} {values : List Value} (h : DenotesAll tokens values) :
    values.length ≤ tokens.length := by
  induction h with
  | one _ => exact Nat.le_refl 1
  | more _ _ ih =>
    rw [List.length_cons, List.length_cons, List.length_cons]
    omega

/-- **A successful call takes something.** The readings of filters take three bytes for each node. -/
theorem Succeeds.advances {bytes : Nat} (h : Succeeds cursor next bytes) :
    0 < bytes ∧ cursor.LeadsTo next ∧ cursor.position + bytes ≤ next.position := by
  have hfilter {filter : Filter} (hleads : cursor.LeadsTo next)
      (hlength : 3 * filter.nodeCount + next.rest.length ≤ cursor.rest.length) :
      0 < 3 * filter.nodeCount ∧ cursor.LeadsTo next ∧
        cursor.position + 3 * filter.nodeCount ≤ next.position :=
    ⟨Nat.mul_pos (by decide) (nodeCount_pos filter), hleads, position_add_le hleads hlength⟩
  have hsingle {token : Token} (hleads : cursor.LeadsTo next) (htoken : token.text ≠ [])
      (hspaced : Spaced false [token] cursor.rest next.rest) :
      0 < 1 ∧ cursor.LeadsTo next ∧ cursor.position + 1 ≤ next.position :=
    ⟨Nat.one_pos, hleads, position_add_le hleads
      (length_le_of_spaced (List.forall_mem_singleton.mpr htoken) hspaced)⟩
  cases h with
  | disjunction h =>
    exact hfilter (Cursor.leadsTo_of_eq h (leadsTo_readDisjunction cursor))
      (begins_of_readDisjunction cursor h).add_length_le
  | conjunction h =>
    exact hfilter (Cursor.leadsTo_of_eq h (leadsTo_readConjunction cursor))
      (begins_of_readConjunction cursor h).add_length_le
  | negation h =>
    exact hfilter (Cursor.leadsTo_of_eq h (leadsTo_readNegation cursor))
      (begins_of_readNegation cursor h).add_length_le
  | primary h =>
    -- As if behind the keyword NOT, where a primary has no condition on its first name.
    obtain ⟨tokens, hderives, hspaced⟩ := exists_derives_of_readPrimary cursor true h (.inl rfl)
    have hroom := hderives.hasRoom hspaced
    exact hfilter (Cursor.leadsTo_of_eq h (leadsTo_readPrimary cursor)) (by omega)
  | predicate h =>
    obtain ⟨tokens, hpredicate, hspaced⟩ := exists_predicate_of_readPredicate h
    have hlength := length_le_of_spaced hpredicate.text_ne_nil (hspaced false)
    have htwo := hpredicate.two_le_length.1
    have hleads := Cursor.leadsTo_of_eq h (leadsTo_readPredicate _ cursor)
    exact ⟨by decide, hleads, position_add_le hleads (by unfold Cursor.left; omega)⟩
  | value h =>
    obtain ⟨token, htoken, hspaced⟩ := exists_denotes_of_readValue h
    exact hsingle (Cursor.leadsTo_of_eq h (leadsTo_readValue cursor)) htoken.text_ne_nil (hspaced false)
  | values h =>
    obtain ⟨tokens, htokens, hspaced⟩ := exists_denotesAll_of_readValues h
    have hlength := length_le_of_spaced htokens.text_ne_nil_of_parentheses (hspaced false)
    have hvalues := htokens.length_le
    have hleads := Cursor.leadsTo_of_eq h (leadsTo_readValues cursor)
    rw [List.length_cons, List.length_append, List.length_singleton] at hlength
    exact ⟨Nat.succ_pos _, hleads, position_add_le hleads (by unfold Cursor.left; omega)⟩
  | patternText h =>
    obtain ⟨token, htoken, hspaced⟩ := exists_denotes_of_readPatternText h
    exact hsingle (Cursor.leadsTo_of_eq h (leadsTo_readPatternText _ cursor)) htoken.text_ne_nil
      (hspaced false)

end Sift.Filter
