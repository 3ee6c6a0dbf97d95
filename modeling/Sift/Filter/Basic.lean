/-
# Filters

A filter is a condition on records: comparisons of fields with values, combined by AND, OR and NOT.

Key definitions: `Filter`, `Filter.fields`, `Filter.nodeCount`, `Filter.same`.
-/
import Sift.Pattern
import Sift.Value.Compare

namespace Sift

/-- A condition on records. -/
inductive Filter where
  /-- The field compares with the value. -/
  | compare (field : String) (operator : Comparison) (value : Value)
  /-- The field equals one of the values or, negated, none of them. -/
  | member (field : String) (negated : Bool) (values : List Value)
  /-- The field is at least the lower bound and at most the upper one. -/
  | between (field : String) (lower upper : Value)
  /-- The field is a string that matches the pattern. -/
  | matching (field : String) (pattern : Pattern)
  | and (left right : Filter)
  | or (left right : Filter)
  | not (operand : Filter)
deriving DecidableEq, Inhabited

namespace Filter

/-- The fields of the conditions of a filter from left to right. -/
def fieldOccurrences : Filter → List String
  | compare field _ _ => [field]
  | member field _ _ => [field]
  | between field _ _ => [field]
  | matching field _ => [field]
  | and left right => left.fieldOccurrences ++ right.fieldOccurrences
  | or left right => left.fieldOccurrences ++ right.fieldOccurrences
  | not operand => operand.fieldOccurrences

/-- The fields that a filter looks at, each once, in the order of their first occurrence. -/
def fields (filter : Filter) : List String :=
  filter.fieldOccurrences.eraseDups

/-- The number of conditions and connectives of a filter. -/
def nodeCount : Filter → Nat
  | and left right => 1 + left.nodeCount + right.nodeCount
  | or left right => 1 + left.nodeCount + right.nodeCount
  | not operand => 1 + operand.nodeCount
  | _ => 1

/-- Whether two lists have the same values in the same order. -/
def sameValues : List Value → List Value → Bool
  | [], [] => true
  | a :: as, b :: bs => a.same b && sameValues as bs
  | _, _ => false

/-- Equality of filters, with numbers in them compared as numbers. -/
def same : Filter → Filter → Bool
  | compare f o v, compare f' o' v' => f == f' && o == o' && v.same v'
  | member f n vs, member f' n' vs' => f == f' && n == n' && sameValues vs vs'
  | between f l u, between f' l' u' => f == f' && l.same l' && u.same u'
  | matching f p, matching f' p' => f == f' && p == p'
  | and l r, and l' r' => l.same l' && r.same r'
  | or l r, or l' r' => l.same l' && r.same r'
  | not x, not x' => x.same x'
  | _, _ => false

end Filter

end Sift
