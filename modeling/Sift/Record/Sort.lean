/-
# Sorting records

Records are compared field by field: the first criterion on which two of them differ decides. A record
without the field comes before those with it; a descending criterion is an ascending one reversed.

Sorting inserts one record after another into those already sorted, going from the last one to the
first and stopping at the first one that is not greater. So records that compare equal keep their
order.

What a stable sort gives is only specified where the order is transitive on the records, and only there
is it certain that it gives anything. The order of values need not be: integers beyond 2 ^ 53 are
rounded to be compared with floating-point numbers, but not with one another. On records with such
values another stable sort may give another list than insertion does, or none.

Key definitions: `Criterion`, `Record.compareBy`, `sortBy`, `Record.sort`.
Key theorem: `sortBy_perm`.
-/
import Sift.Record
import Sift.Value.Compare

namespace Sift

/-- The two directions of an order. -/
inductive Direction where
  | ascending
  | descending
deriving DecidableEq

/-- A field to sort by. -/
structure Criterion where
  field : String
  direction : Direction
deriving DecidableEq

/-- The order of the values of a field, one of which or both may be absent. -/
def compareFields : Option Value → Option Value → Ordering
  | none, none => .eq
  | none, some _ => .lt
  | some _, none => .gt
  | some a, some b => a.sortOrder b

/-- The order of two records by a criterion. -/
def Criterion.compare (criterion : Criterion) (a b : Record) : Ordering :=
  let order := compareFields (a.get? criterion.field) (b.get? criterion.field)
  match criterion.direction with
  | .ascending => order
  | .descending => order.swap

/-- The order of two records by criteria, the first of which counts most. -/
def Record.compareBy : List Criterion → Record → Record → Ordering
  | [], _, _ => .eq
  | criterion :: criteria, a, b => (criterion.compare a b).then (compareBy criteria a b)

/-- Puts an element after the last one that is not greater. The list is given from its end. -/
def insertFromEnd {α : Type} (order : α → α → Ordering) (x : α) : List α → List α
  | [] => [x]
  | y :: ys => if order x y = .lt then y :: insertFromEnd order x ys else x :: y :: ys

/-- A list in increasing order, if the order is transitive on its elements; elements that compare equal
stay as they are. -/
def sortBy {α : Type} (order : α → α → Ordering) (xs : List α) : List α :=
  (xs.foldl (fun sorted x => insertFromEnd order x sorted) []).reverse

/-- Records in increasing order by criteria. -/
def Record.sort (criteria : List Criterion) (records : List Record) : List Record :=
  sortBy (Record.compareBy criteria) records

theorem insertFromEnd_perm {α : Type} (order : α → α → Ordering) (x : α) :
    ∀ ys, (insertFromEnd order x ys).Perm (x :: ys)
  | [] => .refl _
  | y :: ys => by
    rw [insertFromEnd]
    split
    · exact ((insertFromEnd_perm order x ys).cons y).trans (.swap x y ys)
    · exact .refl _

/-- Sorting neither loses nor adds anything. -/
theorem sortBy_perm {α : Type} (order : α → α → Ordering) (xs : List α) :
    (sortBy order xs).Perm xs := by
  suffices ∀ sorted, (xs.foldl (fun sorted x => insertFromEnd order x sorted) sorted).Perm
      (xs ++ sorted) by
    simpa [sortBy] using (List.reverse_perm _).trans (this [])
  induction xs with
  | nil => exact fun _ => .refl _
  | cons x xs ih =>
    intro sorted
    refine (ih _).trans ?_
    exact ((insertFromEnd_perm order x sorted).append_left xs).trans List.perm_middle

end Sift
