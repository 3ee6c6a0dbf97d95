/-
# The canonical text of a filter

Conjunctions and disjunctions stand in parentheses, and so does what NOT applies to; nothing else
does. Strings stand in single quotes as they are, and tokens are separated by one space.

Key definition: `Filter.write`.
-/
import Sift.Filter.Basic

namespace Sift.Filter

/-- Values in parentheses, separated by commas. -/
def writeValues : List Value → List Char
  | [] => []
  | [value] => value.literal
  | value :: values => value.literal ++ ", ".toList ++ writeValues values

/-- Whether a filter is written with parentheses around it. -/
def isBinary : Filter → Bool
  | and .. => true
  | or .. => true
  | _ => false

/-- The operator that introduces a pattern. -/
def patternKeyword : Pattern → List Char
  | .like _ => "LIKE".toList
  | .regexp _ => "REGEXP".toList

/-- The canonical text of a filter. -/
def write : Filter → List Char
  | compare field operator value =>
    field.toList ++ ' ' :: (operator.symbol ++ ' ' :: value.literal)
  | member field negated values =>
    field.toList ++ (if negated then " NOT IN (" else " IN (").toList ++
      (writeValues values ++ ")".toList)
  | between field lower upper =>
    field.toList ++ " BETWEEN ".toList ++ lower.literal ++ " AND ".toList ++ upper.literal
  | matching field pattern =>
    field.toList ++ ' ' :: (patternKeyword pattern ++ ' ' :: (Value.string pattern.source).literal)
  | and left right => '(' :: (write left ++ " AND ".toList ++ write right ++ [')'])
  | or left right => '(' :: (write left ++ " OR ".toList ++ write right ++ [')'])
  | not operand =>
    "NOT ".toList ++
      if operand.isBinary then write operand else '(' :: (write operand ++ [')'])

end Sift.Filter
