/-
# Comparing values

Two strings compare by their characters. Any other two values compare as numbers when both have a
numeric reading; otherwise no comparison of them is supported. What is no number is related to
nothing, so of the six comparisons only "not equal" holds of it.

Equality for membership in a list never fails: values that do not compare are unequal, unless they
are the same. The order for sorting relates any two values: truth values come before numbers,
numbers before strings; two integers compare exactly, other numbers as floating-point numbers, with
what is no number last.

Key definitions: `Comparison`, `Value.compare?`, `Value.equals`, `Value.sortOrder`.
-/
import Sift.Value

namespace Sift

/-- A comparison operator. -/
inductive Comparison where
  | eq | ne | lt | le | gt | ge
deriving DecidableEq

namespace Comparison

/-- All operators, in the order in which they are looked for in a text: those of two characters
before those of one that begin them. -/
def all : List Comparison :=
  [.ne, .ge, .le, .eq, .gt, .lt]

/-- The sign of an operator. -/
def symbol : Comparison → List Char
  | eq => ['=']
  | ne => ['!', '=']
  | lt => ['<']
  | le => ['<', '=']
  | gt => ['>']
  | ge => ['>', '=']

/-- Whether an operator holds between two things in this order. -/
def holds : Comparison → Ordering → Bool
  | eq, order => order == .eq
  | ne, order => order != .eq
  | lt, order => order == .lt
  | le, order => order != .gt
  | gt, order => order == .gt
  | ge, order => order != .lt

end Comparison

namespace Value

/-- Whether a comparison holds between numbers. -/
def compareNumbers (a : Binary64) (operator : Comparison) (b : Binary64) : Bool :=
  match Binary64.compare? a b with
  | some order => operator.holds order
  | none => operator == .ne

/-- Whether a comparison holds between two values; `none` when it is not supported for them. -/
def compare? (left : Value) (operator : Comparison) (right : Value) : Option Bool :=
  match left, right with
  | string a, string b => some (operator.holds (compare a b))
  | _, _ =>
    match left.numeric?, right.numeric? with
    | some a, some b => some (compareNumbers a operator b)
    | _, _ => none

/-- Equality of values across types: of values that are the same, and of two values that are not both
strings when their numeric readings are the same number. -/
def equals (left right : Value) : Bool :=
  left.same right ||
    match left, right with
    | string a, string b => a == b
    | _, _ =>
      match left.numeric?, right.numeric? with
      | some a, some b => a.same b
      | _, _ => false

/-- Two numbers that are the same are equal when they are compared, and no others are. -/
theorem compareNumbers_eq (a b : Binary64) : compareNumbers a .eq b = a.same b := by
  unfold compareNumbers Binary64.same
  rcases Binary64.compare? a b with _ | _ | _ | _ <;> rfl

/-- The place of a type in the order for sorting. -/
def rank : Value → Nat
  | boolean _ => 0
  | integer _ => 1
  | float _ => 1
  | string _ => 2

/-- The order of two numbers for sorting: what is no number comes last. -/
def numberOrder (a b : Binary64) : Ordering :=
  match Binary64.compare? a b with
  | some order => order
  | none => compare a.isNan b.isNan

/-- The order of two values for sorting. -/
def sortOrder (left right : Value) : Ordering :=
  match left, right with
  | boolean a, boolean b => compare a b
  | integer a, integer b => compare a.toInt b.toInt
  | integer a, float y => numberOrder (Binary64.ofInt a.toInt) y
  | float x, integer b => numberOrder x (Binary64.ofInt b.toInt)
  | float x, float y => numberOrder x y
  | string a, string b => compare a b
  | _, _ => compare left.rank right.rank

end Value

end Sift
