/-
# The language of filters

Which rows of tokens denote which filter, and which texts spell such a row:

    disjunction := disjunction OR conjunction | conjunction
    conjunction := conjunction AND negation | negation
    negation    := NOT primary | primary
    primary     := ( disjunction ) | field predicate
    predicate   := sign value | IN ( values ) | NOT IN ( values ) | BETWEEN value AND value
                 | LIKE string | REGEXP string
    values      := value | value , values

A value is a string in quotes, or a run of digits, points and minus signs: the integer or the number
that it is a numeral of, and if it is neither, the string of its characters. The operand of LIKE and
REGEXP is a value that is a string.

Key definitions: `Denotes`, `DenotesAll`, `Predicate`, `Derives`, `Spells`.
-/
import Sift.Filter.Parser
import Sift.Proofs.Filter.Token

namespace Sift.Filter

/-- Whether some characters can make up a value without quotes. -/
def IsBare (characters : List Char) : Prop :=
  characters ≠ [] ∧ ∀ c ∈ characters, Cursor.isTokenCharacter c = true

/-- Whether a text can be the name of a field. -/
def IsName (field : String) : Prop :=
  field.toList ≠ [] ∧ ∀ c ∈ field.toList, Cursor.isNameCharacter c = true

instance (characters : List Char) : Decidable (IsBare characters) :=
  decidable_of_iff (characters ≠ [] ∧ characters.all Cursor.isTokenCharacter = true)
    (and_congr_right fun _ => List.all_eq_true)

instance (field : String) : Decidable (IsName field) :=
  decidable_of_iff (field.toList ≠ [] ∧ field.toList.all Cursor.isNameCharacter = true)
    (and_congr_right fun _ => List.all_eq_true)

/-- Which token denotes which value. -/
inductive Denotes : Token → Value → Prop where
  | quoted {content : String} (hquote : '\'' ∉ content.toList) :
    Denotes (.quoted content) (.string content)
  | integer {characters : List Char} {n : Int64} (hbare : IsBare characters)
    (hinteger : Text.readInt64? characters = some n) : Denotes (.bare characters) (.integer n)
  | float {characters : List Char} {x : Binary64} (hbare : IsBare characters)
    (hinteger : Text.readInt64? characters = none)
    (hnumber : Binary64.read? characters = some x) : Denotes (.bare characters) (.float x)
  | string {characters : List Char} (hbare : IsBare characters)
    (hinteger : Text.readInt64? characters = none)
    (hnumber : Binary64.read? characters = none) :
    Denotes (.bare characters) (.string (String.ofList characters))

/-- Which tokens denote a list of values with at least one value. -/
inductive DenotesAll : List Token → List Value → Prop where
  | one {token : Token} {value : Value} (hvalue : Denotes token value) :
    DenotesAll [token] [value]
  | more {token : Token} {value : Value} {tokens : List Token} {values : List Value}
    (hvalue : Denotes token value) (hvalues : DenotesAll tokens values) :
    DenotesAll (token :: .comma :: tokens) (value :: values)

/-- Which tokens behind the name of a field make up which condition on the field. -/
inductive Predicate (field : String) : List Token → Filter → Prop where
  | compare {token : Token} {value : Value} (operator : Comparison) (hvalue : Denotes token value) :
    Predicate field [.sign operator, token] (.compare field operator value)
  | member {tokens : List Token} {values : List Value} (hvalues : DenotesAll tokens values) :
    Predicate field (.keyword .member :: .opening :: (tokens ++ [.closing]))
      (.member field false values)
  | notMember {tokens : List Token} {values : List Value} (hvalues : DenotesAll tokens values) :
    Predicate field (.keyword .not :: .keyword .member :: .opening :: (tokens ++ [.closing]))
      (.member field true values)
  | between {first second : Token} {lower upper : Value} (hlower : Denotes first lower)
    (hupper : Denotes second upper) :
    Predicate field [.keyword .between, first, .keyword .and, second] (.between field lower upper)
  | like {token : Token} {source : String} (hsource : Denotes token (.string source)) :
    Predicate field [.keyword .like, token] (.matching field (.like source))
  | regexp {token : Token} {source : String} (hsource : Denotes token (.string source)) :
    Predicate field [.keyword .regexp, token] (.matching field (.regexp source))

/-- How tightly a filter is bound together, from the loosest. -/
inductive Level where
  | disjunction | conjunction | negation | primary
deriving DecidableEq

/-- Which tokens make up which filter. OR and AND group to the left, and NOT applies to a primary. -/
inductive Derives : Level → List Token → Filter → Prop where
  | or {tokens more : List Token} {left right : Filter} (hleft : Derives .disjunction tokens left)
    (hright : Derives .conjunction more right) :
    Derives .disjunction (tokens ++ .keyword .or :: more) (.or left right)
  | ofConjunction {tokens : List Token} {filter : Filter} (h : Derives .conjunction tokens filter) :
    Derives .disjunction tokens filter
  | and {tokens more : List Token} {left right : Filter} (hleft : Derives .conjunction tokens left)
    (hright : Derives .negation more right) :
    Derives .conjunction (tokens ++ .keyword .and :: more) (.and left right)
  | ofNegation {tokens : List Token} {filter : Filter} (h : Derives .negation tokens filter) :
    Derives .conjunction tokens filter
  | not {tokens : List Token} {operand : Filter} (h : Derives .primary tokens operand) :
    Derives .negation (.keyword .not :: tokens) (.not operand)
  | ofPrimary {tokens : List Token} {filter : Filter} (h : Derives .primary tokens filter) :
    Derives .negation tokens filter
  | group {tokens : List Token} {filter : Filter} (h : Derives .disjunction tokens filter) :
    Derives .primary (.opening :: (tokens ++ [.closing])) filter
  | predicate {field : String} {tokens : List Token} {filter : Filter} (hname : IsName field)
    (h : Predicate field tokens filter) : Derives .primary (.name field :: tokens) filter

/-- Whether a text without outer white space is a spelling of a filter. -/
def Spells (text : List Char) (filter : Filter) : Prop :=
  ∃ tokens, Derives .disjunction tokens filter ∧ Spaced false tokens text []

/-! ### First characters -/

theorem beginsWith_of_denotes {token : Token} {value : Value} (h : Denotes token value) :
    ∃ c, token.BeginsWith c ∧ (c = '\'' ∨ Cursor.isTokenCharacter c = true) := by
  have hbare : ∀ {characters : List Char}, IsBare characters → ∃ c,
      (Token.bare characters).BeginsWith c ∧ (c = '\'' ∨ Cursor.isTokenCharacter c = true) := by
    rintro (_ | ⟨c, cs⟩) ⟨hne, htoken⟩
    · exact absurd rfl hne
    · have hc := htoken c List.mem_cons_self
      exact ⟨c, ⟨rfl, isGap_of_isTokenCharacter hc⟩, .inr hc⟩
  cases h with
  | quoted _ => exact ⟨'\'', ⟨rfl, by decide⟩, .inl rfl⟩
  | integer h _ => exact hbare h
  | float h _ _ => exact hbare h
  | string h _ _ => exact hbare h

theorem beginsWith_of_isName {field : String} (h : IsName field) :
    ∃ c, (Token.name field).BeginsWith c ∧ Cursor.isNameCharacter c = true := by
  obtain ⟨hne, hname⟩ := h
  rcases hfield : field.toList with _ | ⟨c, cs⟩
  · exact absurd hfield hne
  · have hc := hname c (by simp [hfield])
    exact ⟨c, ⟨by simp [Token.text, hfield], isGap_of_isNameCharacter hc⟩, hc⟩

end Sift.Filter
