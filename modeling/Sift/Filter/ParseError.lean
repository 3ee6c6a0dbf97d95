/-
# Why a text is no filter

Positions are byte offsets of the text as given, with its outer white space; `found` describes what
comes next there.

Key definitions: `ParseError`, `ParseError.position?`, `ParseError.message`.
-/

namespace Sift

/-- What must stand at a place where something else was found. -/
inductive ExpectedToken where
  | quotedString
  | inAfterNot
  | listStart
  | listContinuation
deriving DecidableEq

/-- The name of a token in messages. -/
def ExpectedToken.description : ExpectedToken → String
  | quotedString => "quoted string"
  | inAfterNot => "IN after NOT"
  | listStart => "'('"
  | listContinuation => "',' or ')' in value list"

/-- Why a text is no filter. -/
inductive ParseError where
  /-- There is nothing but white space. -/
  | empty
  /-- The quote at the position has no closing one. -/
  | unterminatedString (position : Nat)
  /-- The parenthesis at the position is not closed where something else was found. -/
  | unclosedParen (position : Nat) (found : String)
  | expectedField (position : Nat) (found : String)
  | expectedOperator (field : String) (position : Nat) (found : String)
  | expectedValue (position : Nat) (found : String)
  | expectedToken (token : ExpectedToken) (position : Nat) (found : String)
  | betweenWithoutAnd (position : Nat) (found : String)
  /-- The operand of a pattern operator is a number. -/
  | patternNotString (operator : String) (position : Nat)
  /-- The filter ends before the text does. -/
  | unexpectedInput (position : Nat) (found : String)
deriving DecidableEq

namespace ParseError

/-- The byte offset that an error is about. -/
def position? : ParseError → Option Nat
  | empty => none
  | unterminatedString position => some position
  | unclosedParen position _ => some position
  | expectedField position _ => some position
  | expectedOperator _ position _ => some position
  | expectedValue position _ => some position
  | expectedToken _ position _ => some position
  | betweenWithoutAnd position _ => some position
  | patternNotString _ position => some position
  | unexpectedInput position _ => some position

/-- The text of an error. -/
def message : ParseError → String
  | empty => "empty expression"
  | unterminatedString position =>
    s!"unterminated quoted string starting at position {position}"
  | unclosedParen position found =>
    s!"missing closing parenthesis for '(' at position {position}, found {found}"
  | expectedField position found =>
    s!"expected field name at position {position}, found {found}"
  | expectedOperator field position found =>
    s!"expected operator after '{field}' at position {position}, found {found}"
  | expectedValue position found => s!"expected value at position {position}, found {found}"
  | expectedToken token position found =>
    "expected " ++ token.description ++ s!" at position {position}, found {found}"
  | betweenWithoutAnd position found =>
    s!"BETWEEN requires AND at position {position}, found {found}"
  | patternNotString operator position =>
    s!"{operator} pattern must be a string at position {position}"
  | unexpectedInput position found => s!"unexpected input at position {position}: {found}"

end ParseError

end Sift
