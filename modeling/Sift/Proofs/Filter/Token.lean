/-
# Tokens

The text of a filter is a row of tokens with a run of spaces and tabs in front of each. The runs may
be empty as long as each token keeps the border that it needs: a keyword is followed by a space, a
tab, a parenthesis or the end, and the name of a field not by another character of a name. The word
NOT is a keyword wherever a filter may begin and it has the border of a keyword; so as the name of a
field it is directly followed by the sign of a comparison, unless the keyword stands right in front.

A stretch of tokens is described together with the text behind it (`Spaced`), because the borders
look at what follows; stretches are put together and taken apart by `Spaced.append` and
`exists_of_spaced_append`.

Key definitions: `Token`, `Token.text`, `Token.Borders`, `Spaced`.
Key theorems: `Spaced.append`, `exists_of_spaced_append`.
-/
import Sift.Text.Cursor
import Sift.Value.Compare

namespace Sift.Filter

/-- A word with a meaning of its own. Only its place tells it from the name of a field. -/
inductive Keyword where
  | and | or | not | member | between | like | regexp
deriving DecidableEq

/-- The spelling of a keyword. -/
def Keyword.text : Keyword → List Char
  | and => "AND".toList
  | or => "OR".toList
  | not => "NOT".toList
  | member => "IN".toList
  | between => "BETWEEN".toList
  | like => "LIKE".toList
  | regexp => "REGEXP".toList

/-- The words that readings look for are the keywords. -/
theorem toList_eq_text :
    "AND".toList = Keyword.and.text ∧ "OR".toList = Keyword.or.text ∧
      "NOT".toList = Keyword.not.text ∧ "IN".toList = Keyword.member.text ∧
      "BETWEEN".toList = Keyword.between.text ∧ "LIKE".toList = Keyword.like.text ∧
      "REGEXP".toList = Keyword.regexp.text :=
  ⟨rfl, rfl, rfl, rfl, rfl, rfl, rfl⟩

/-- A part of the text of a filter that no space or tab divides, quoted strings apart. -/
inductive Token where
  | keyword (word : Keyword)
  /-- The name of a field. -/
  | name (field : String)
  | sign (operator : Comparison)
  /-- A string in single quotes. -/
  | quoted (content : String)
  /-- A value without quotes. -/
  | bare (characters : List Char)
  | opening
  | closing
  | comma
deriving DecidableEq

namespace Token

/-- The spelling of a token. -/
def text : Token → List Char
  | keyword word => word.text
  | name field => field.toList
  | sign operator => operator.symbol
  | quoted content => '\'' :: (content.toList ++ ['\''])
  | bare characters => characters
  | opening => ['(']
  | closing => [')']
  | comma => [',']

/-- Whether a token is the keyword NOT. -/
def isNot : Token → Bool
  | keyword .not => true
  | _ => false

/-- Whether the text behind a token is one that it can end in front of; `afterNot` tells whether the
keyword NOT is the token before it. -/
def Borders (afterNot : Bool) (after : List Char) : Token → Prop
  | keyword _ => Cursor.endsKeyword after = true
  | name field =>
    (∀ c ∈ after.head?, Cursor.isNameCharacter c = false) ∧
      (field = "NOT" → afterNot = false → ∃ operator : Comparison, operator.symbol <+: after)
  | _ => True

end Token

/-- Whether a text begins with some tokens, with a run of spaces and tabs in front of each and the
borders that they need, and goes on with `rest` behind them. -/
def Spaced (afterNot : Bool) : List Token → List Char → List Char → Prop
  | [], text, rest => text = rest
  | token :: tokens, text, rest =>
    ∃ gap after, text = gap ++ (token.text ++ after) ∧ (∀ c ∈ gap, Text.isGap c = true) ∧
      token.Borders afterNot after ∧ Spaced token.isNot tokens after rest

theorem spaced_nil {afterNot : Bool} {text rest : List Char} :
    Spaced afterNot [] text rest ↔ text = rest := Iff.rfl

/-! ### Rows of tokens -/

/-- A longer run in front changes nothing. -/
theorem Spaced.gap_append {afterNot : Bool} {token : Token} {tokens : List Token}
    {gap text rest : List Char} (hgap : ∀ c ∈ gap, Text.isGap c = true)
    (h : Spaced afterNot (token :: tokens) text rest) :
    Spaced afterNot (token :: tokens) (gap ++ text) rest := by
  obtain ⟨gap', after, rfl, hgap', hborders, htokens⟩ := h
  refine ⟨gap ++ gap', after, (List.append_assoc ..).symm, ?_, hborders, htokens⟩
  intro c hc
  rcases List.mem_append.mp hc with hc | hc
  · exact hgap c hc
  · exact hgap' c hc

/-- A token and a stretch behind it. -/
theorem Spaced.cons {afterNot : Bool} {token : Token} {tokens : List Token}
    {text middle rest : List Char} (h : Spaced afterNot [token] text middle)
    (hmore : Spaced token.isNot tokens middle rest) :
    Spaced afterNot (token :: tokens) text rest := by
  obtain ⟨gap, after, htext, hgap, hborders, rfl⟩ := h
  exact ⟨gap, after, htext, hgap, hborders, hmore⟩

/-- Two stretches of tokens one behind the other are one stretch, whatever token is the last one of
the first stretch. -/
theorem Spaced.append : ∀ {afterNot : Bool} {tokens : List Token} {more : List Token}
    {text middle rest : List Char}, Spaced afterNot tokens text middle →
      (∀ afterNot', Spaced afterNot' more middle rest) → Spaced afterNot (tokens ++ more) text rest
  | afterNot, [], _, _, _, _, h, hmore => by
    rw [spaced_nil.mp h]
    exact hmore afterNot
  | _, _ :: _, _, _, _, _, ⟨gap, after, htext, hgap, hborders, htokens⟩, hmore =>
    ⟨gap, after, htext, hgap, hborders, htokens.append hmore⟩

/-- A stretch of tokens can be cut anywhere. -/
theorem exists_of_spaced_append : ∀ {afterNot : Bool} {tokens more : List Token}
    {text rest : List Char}, Spaced afterNot (tokens ++ more) text rest →
      ∃ afterNot' middle, Spaced afterNot tokens text middle ∧ Spaced afterNot' more middle rest
  | afterNot, [], _, text, _, h => ⟨afterNot, text, rfl, h⟩
  | _, _ :: _, _, _, _, ⟨gap, after, htext, hgap, hborders, htokens⟩ => by
    obtain ⟨afterNot', middle, hfirst, hsecond⟩ := exists_of_spaced_append htokens
    exact ⟨afterNot', middle, ⟨gap, after, htext, hgap, hborders, hfirst⟩, hsecond⟩

/-! ### First characters -/

/-- Whether a token begins with a character that is no space or tab. -/
def Token.BeginsWith (c : Char) (token : Token) : Prop :=
  token.text.head? = some c ∧ Text.isGap c = false

theorem beginsWith_keyword (word : Keyword) :
    ∃ c, (Token.keyword word).BeginsWith c ∧ Cursor.isNameCharacter c = true ∧
      Cursor.isTokenCharacter c = false := by
  cases word <;> exact ⟨_, ⟨rfl, by decide⟩, by decide, by decide⟩

theorem beginsWith_sign (operator : Comparison) :
    ∃ c, (Token.sign operator).BeginsWith c ∧ c ∈ ['=', '!', '<', '>'] := by
  cases operator <;> exact ⟨_, ⟨rfl, by decide⟩, by decide⟩

theorem character_of_isGap {c : Char} (h : Text.isGap c = true) :
    Cursor.isNameCharacter c = false ∧ Cursor.isTokenCharacter c = false := by
  simp only [Text.isGap, Bool.or_eq_true, beq_iff_eq] at h
  rcases h with rfl | rfl <;> decide

theorem isGap_of_isNameCharacter {c : Char} (h : Cursor.isNameCharacter c = true) :
    Text.isGap c = false :=
  Bool.eq_false_iff.mpr fun hgap => by simp [(character_of_isGap hgap).1] at h

theorem isGap_of_isTokenCharacter {c : Char} (h : Cursor.isTokenCharacter c = true) :
    Text.isGap c = false :=
  Bool.eq_false_iff.mpr fun hgap => by simp [(character_of_isGap hgap).2] at h

theorem beginsWith_opening : Token.opening.BeginsWith '(' := ⟨rfl, by decide⟩

theorem beginsWith_closing : Token.closing.BeginsWith ')' := ⟨rfl, by decide⟩

theorem beginsWith_comma : Token.comma.BeginsWith ',' := ⟨rfl, by decide⟩

end Sift.Filter
