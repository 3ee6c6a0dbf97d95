/-
# Plans

A plan says which stages are built on which: at the bottom a list of records, above it filters, sorts
and limits in any order and number.

Key definitions: `Plan`, `Plan.stage`.
-/
import Sift.Stage

namespace Sift

/-- Which stages are built on which. -/
inductive Plan where
  | values (records : List Record)
  | filter (condition : Filter) (child : Plan)
  | sort (criteria : List Criterion) (child : Plan)
  /-- At most so many records after an offset; the count zero stands for any number. -/
  | limit (count offset : Nat) (child : Plan)

/-- The stage that a plan describes. -/
def Plan.stage : Plan → Stage
  | values records => .values records
  | filter condition child => .filter condition child.stage
  | sort criteria child => .sort criteria child.stage
  | limit count offset child => .limit count offset child.stage

end Sift
