/-
# Evaluating filters

A condition on a field that a record does not have is false, also a negated membership. Both sides
of AND and OR are evaluated, the left one first, so an error on either side is an error of the
whole, and of two errors the left one counts.

Key definitions: `EvalError`, `Filter.evaluate`, `Filter.select`.
-/
import Sift.Filter.Basic
import Sift.Record

namespace Sift

/-- Why a filter has no truth value on a record. -/
inductive EvalError where
  /-- Neither two strings nor two values with a numeric reading. -/
  | unsupportedComparison (left : Value) (operator : Comparison) (right : Value)
  /-- The text of a pattern is no regular expression. -/
  | invalidRegexp (source : String) (cause : RegexError)
deriving DecidableEq

namespace EvalError

/-- The text of an error without its cause. -/
def summary : EvalError → String
  | unsupportedComparison left operator right =>
    let literal (value : Value) := String.ofList value.literal
    let sign := String.ofList operator.symbol
    s!"unsupported comparison: {literal left} {sign} {literal right} " ++
      "(" ++ left.typeName ++ " vs " ++ right.typeName ++ ")"
  | invalidRegexp source _ => s!"invalid regexp '{source}'"

/-- The text of an error. -/
def message : EvalError → String
  | invalidRegexp source cause => s!"invalid regexp '{source}': " ++ cause.message
  | error => error.summary

end EvalError

namespace Filter

/-- Whether a comparison of two values holds. -/
def compareValues (left : Value) (operator : Comparison) (right : Value) : Except EvalError Bool :=
  match left.compare? operator right with
  | some result => .ok result
  | none => .error (.unsupportedComparison left operator right)

/-- Whether a text matches a pattern. -/
def matchPattern (pattern : Pattern) (text : String) : Except EvalError Bool :=
  match pattern.isMatch text with
  | .ok result => .ok result
  | .error cause => .error (.invalidRegexp pattern.source cause)

/-- Whether a value lies between two others. -/
def evaluateBetween (value lower upper : Value) : Except EvalError Bool := do
  let atLeast ← compareValues value .ge lower
  let atMost ← compareValues value .le upper
  return atLeast && atMost

/-- Whether a value is a string that matches a pattern. -/
def evaluateMatching (value : Value) (pattern : Pattern) : Except EvalError Bool :=
  match value with
  | .string text => matchPattern pattern text
  | _ => .ok false

/-- A condition on the value of a field; false when there is none. -/
def onField (record : Record) (field : String) (condition : Value → Except EvalError Bool) :
    Except EvalError Bool :=
  match record.get? field with
  | some value => condition value
  | none => .ok false

/-- Whether a filter holds of a record. -/
def evaluate (record : Record) : Filter → Except EvalError Bool
  | compare field operator value =>
    onField record field fun found => compareValues found operator value
  | member field negated values =>
    onField record field fun found => .ok (values.any found.equals != negated)
  | between field lower upper =>
    onField record field fun found => evaluateBetween found lower upper
  | matching field pattern =>
    onField record field fun found => evaluateMatching found pattern
  | and left right => do
    let a ← evaluate record left
    let b ← evaluate record right
    return a && b
  | or left right => do
    let a ← evaluate record left
    let b ← evaluate record right
    return a || b
  | not operand => do
    let a ← evaluate record operand
    return !a

/-- The records of which a filter holds, in their order; the error of the first record on which it
fails, if there is one. -/
def select (filter : Filter) : List Record → Except EvalError (List Record)
  | [] => .ok []
  | record :: records => do
    let keep ← filter.evaluate record
    let kept ← select filter records
    return if keep then record :: kept else kept

end Filter

end Sift
