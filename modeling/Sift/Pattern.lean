/-
# Patterns

A pattern is a regular expression, or a wildcard pattern as LIKE takes it: a percent sign covers any
characters, an underscore covers one, and every other character covers itself. A wildcard pattern
covers a whole text, a regular expression matches some part of it. Wildcard patterns are matched
through the regular expression that they stand for.

Key definitions: `Pattern`, `Pattern.likeRegex`, `Pattern.isMatch`.
-/
import Sift.Pattern.RegexText

namespace Sift

/-- A pattern as written. -/
inductive Pattern where
  | like (source : String)
  | regexp (source : String)
deriving DecidableEq

namespace Pattern

/-- The pattern as written in a filter. -/
def source : Pattern → String
  | like source => source
  | regexp source => source

/-- The expression for a character of a wildcard pattern. -/
def likeCharacter (c : Char) : List Char :=
  if c = '%' then ['.', '*']
  else if c = '_' then ['.']
  else if RegexText.isMeta c then ['\\', c]
  else [c]

/-- The regular expression that a wildcard pattern stands for. -/
def likeRegex (source : List Char) : List Char :=
  '(' :: '?' :: 's' :: ')' :: '^' :: (source.flatMap likeCharacter ++ ['$'])

/-- The regular expression of a pattern, as text. -/
def regexText : Pattern → List Char
  | like source => likeRegex source.toList
  | regexp source => source.toList

/-- Whether a text matches a pattern. -/
def isMatch (pattern : Pattern) (text : String) : Except RegexError Bool := do
  let regex ← Regex.ofText pattern.regexText
  return regex.occursIn text.toList

end Pattern

end Sift
