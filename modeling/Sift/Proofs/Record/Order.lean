/-
# The order of records by criteria

The first criterion by which two records differ decides how they compare; in a descending one they
change places. In a field a record without it comes first, and the others come in the order of their
values for sorting.

Swapping two records swaps their order. It is transitive on records no three of which straddle in a
field to sort by: no floating-point number is there with two integers that are rounded to it. Where it
is transitive, records are sorted as by any stable sort; where it is not, it does not say how to sort
them.

Key definitions: `Record.lexOrder`, `Record.stableSort`.
Key theorems: `Record.compareBy_eq_lexOrder`, `Record.transitiveOn_of_not_straddles`,
`Record.sort_eq_stableSort`.
-/
import Sift.Proofs.Record.StableSort
import Sift.Proofs.Value.SortOrder

namespace Sift

instance : Ord Value := ⟨Value.sortOrder⟩

/-- The order of two records by a criterion: that of their values, if both have some. -/
def Criterion.order (criterion : Criterion) (a b : Record) : Ordering :=
  match criterion.direction with
  | .ascending => compareOn (·.get? criterion.field) a b
  | .descending => compareOn (·.get? criterion.field) b a

namespace Record

/-- The order of two records by the first of some criteria by which they differ. -/
def lexOrder (criteria : List Criterion) (a b : Record) : Ordering :=
  ((criteria.map fun criterion => criterion.order a b).find? (· ≠ .eq)).getD .eq

/-- Records in the order that a stable sort puts them in. -/
def stableSort (criteria : List Criterion) (records : List Record) : List Record :=
  records.mergeSort fun a b => (lexOrder criteria a b).isLE

theorem compareFields_eq_compare : ∀ v w : Option Value, compareFields v w = compare v w
  | none, none => rfl
  | none, some _ => rfl
  | some _, none => rfl
  | some _, some _ => rfl

theorem compare_swap : ∀ v w : Option Value, (compare v w).swap = compare w v
  | none, none => rfl
  | none, some _ => rfl
  | some _, none => rfl
  | some v, some w => (v.sortOrder_swap w).symm

theorem compare_eq_order (criterion : Criterion) (a b : Record) :
    criterion.compare a b = criterion.order a b := by
  unfold Criterion.compare Criterion.order
  rw [compareFields_eq_compare]
  cases criterion.direction with
  | ascending => rfl
  | descending => exact compare_swap _ _

theorem order_swap (criterion : Criterion) (a b : Record) :
    criterion.order a b = (criterion.order b a).swap := by
  unfold Criterion.order
  cases criterion.direction with
  | ascending => exact (compare_swap _ _).symm
  | descending => exact (compare_swap _ _).symm

theorem lexOrder_cons (criterion : Criterion) (criteria : List Criterion) (a b : Record) :
    lexOrder (criterion :: criteria) a b = (criterion.order a b).then (lexOrder criteria a b) := by
  unfold lexOrder
  rw [List.map_cons, List.find?_cons]
  cases criterion.order a b <;> rfl

/-- The order that records are sorted by. -/
theorem compareBy_eq_lexOrder (a b : Record) : ∀ criteria : List Criterion,
    compareBy criteria a b = lexOrder criteria a b
  | [] => rfl
  | criterion :: criteria => by
    rw [compareBy, lexOrder_cons, compare_eq_order, compareBy_eq_lexOrder a b criteria]

theorem lexOrder_swap (a b : Record) : ∀ criteria : List Criterion,
    lexOrder criteria a b = (lexOrder criteria b a).swap
  | [] => rfl
  | criterion :: criteria => by
    rw [lexOrder_cons, lexOrder_cons, order_swap, lexOrder_swap a b criteria, Ordering.swap_then]

/-! ### Where the order is transitive -/

variable {criteria : List Criterion} {records : List Record}

/-- Whether three of some records straddle in a field. -/
def StraddleIn (records : List Record) (field : String) : Prop :=
  ∃ a ∈ records, ∃ b ∈ records, ∃ c ∈ records, ∃ u v w, a.get? field = some u ∧
    b.get? field = some v ∧ c.get? field = some w ∧ u.Straddles v w

theorem compare_trans {field : String} (h : ¬ StraddleIn records field) {a b c : Record}
    (ha : a ∈ records) (hb : b ∈ records) (hc : c ∈ records)
    (hab : compare (a.get? field) (b.get? field) ≠ .gt)
    (hbc : compare (b.get? field) (c.get? field) ≠ .gt) :
    compare (a.get? field) (c.get? field) ≠ .gt := by
  rcases hu : a.get? field with _ | u
  · cases c.get? field <;> exact nofun
  · rcases hv : b.get? field with _ | v
    · rw [hu, hv] at hab
      exact absurd rfl hab
    · rcases hw : c.get? field with _ | w
      · rw [hv, hw] at hbc
        exact absurd rfl hbc
      · rw [hu, hv] at hab
        rw [hv, hw] at hbc
        exact Value.sortOrder_trans_of_not_straddles hab hbc fun hstraddles =>
          h ⟨a, ha, b, hb, c, hc, u, v, w, hu, hv, hw, hstraddles⟩

theorem transitiveOn_order {criterion : Criterion} (h : ¬ StraddleIn records criterion.field) :
    TransitiveOn criterion.order records := by
  intro a ha b hb c hc hab hbc
  unfold Criterion.order at hab hbc ⊢
  cases hdirection : criterion.direction with
  | ascending =>
    rw [hdirection] at hab hbc
    exact compare_trans h ha hb hc hab hbc
  | descending =>
    rw [hdirection] at hab hbc
    exact compare_trans h hc hb ha hbc hab

/-- Records of which no three straddle are put in order by the criteria. -/
theorem transitiveOn_of_not_straddles
    (h : ∀ criterion ∈ criteria, ¬ StraddleIn records criterion.field) :
    TransitiveOn (lexOrder criteria) records := by
  induction criteria with
  | nil => exact fun _ _ _ _ _ _ _ => id
  | cons criterion criteria ih =>
    obtain ⟨hfirst, hrest⟩ := List.forall_mem_cons.mp h
    have hlex : lexOrder (criterion :: criteria) = compareLex criterion.order (lexOrder criteria) :=
      funext fun a => funext fun b => lexOrder_cons criterion criteria a b
    rw [hlex]
    exact transitiveOn_compareLex (order_swap criterion) (fun a b => lexOrder_swap a b criteria)
      (transitiveOn_order hfirst) (ih hrest)

/-! ### Sorting -/

theorem sort_eq_stableSort (h : TransitiveOn (lexOrder criteria) records) :
    sort criteria records = stableSort criteria records := by
  have horder : compareBy criteria = lexOrder criteria :=
    funext fun a => funext fun b => compareBy_eq_lexOrder a b criteria
  unfold sort stableSort
  rw [horder]
  exact sortBy_eq_mergeSort (fun a b => lexOrder_swap a b criteria) h

end Record

end Sift
