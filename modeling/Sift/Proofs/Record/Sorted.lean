/-
# Sorted records

Records are ordered by the keys of their fields, the first criterion counting most. A descending
criterion compares the keys the other way round, so an absent field comes last in it, while records
with equal keys stay as they are. This order is total and transitive, and the one that records are
sorted by, as long as no field to sort by holds both a floating-point number and an integer that is
rounded when the two are compared. So what a sort gives is the records in this order, stably sorted, and
nothing else is.

Key definitions: `Record.sortKey`, `Record.keyOrder`, `Record.ExactIn`.
Key theorems: `Record.compareBy_eq_keyOrder`, `Record.transitiveOn_of_exactIn`,
`Plan.sort_values_eq_only_stablySorted`.
-/
import Sift.Proofs.Query.Pipeline
import Sift.Proofs.Record.StableSort
import Sift.Proofs.Value.SortKey

namespace Sift

/-- What a record is sorted by in a field. -/
def Record.sortKey (record : Record) (field : String) : SortKey :=
  match record.get? field with
  | none => .absent
  | some value => value.sortKey

/-- The order of records by the keys of a field. -/
def Criterion.keyOrder (criterion : Criterion) (a b : Record) : Ordering :=
  match criterion.direction with
  | .ascending => (a.sortKey criterion.field).order (b.sortKey criterion.field)
  | .descending => (b.sortKey criterion.field).order (a.sortKey criterion.field)

namespace Record

/-- The order of records by the keys of some fields, the first of which counts most. -/
def keyOrder : List Criterion → Record → Record → Ordering
  | [] => fun _ _ => .eq
  | criterion :: criteria => compareLex criterion.keyOrder (keyOrder criteria)

/-- Whether no integer in a field is rounded when it is compared with a floating-point number that
some record has there. -/
def ExactIn (records : List Record) (field : String) : Prop :=
  (∃ record ∈ records, ∃ x, record.get? field = some (.float x)) →
    ∀ record ∈ records, ∀ n, record.get? field = some (.integer n) →
      n.toInt.natAbs ≤ 0x20000000000000

/-! ### The order by keys -/

instance transCmp_sortKey (field : String) :
    Std.TransCmp fun a b : Record => (a.sortKey field).order (b.sortKey field) where
  eq_swap := Std.OrientedCmp.eq_swap
  isLE_trans := Std.TransCmp.isLE_trans

instance transCmp_criterion : ∀ criterion : Criterion, Std.TransCmp criterion.keyOrder
  | ⟨field, .ascending⟩ => transCmp_sortKey field
  | ⟨field, .descending⟩ => (transCmp_sortKey field).opposite

instance transCmp_keyOrder : ∀ criteria : List Criterion, Std.TransCmp (keyOrder criteria)
  | [] => { eq_swap := rfl, isLE_trans := fun _ _ => rfl }
  | criterion :: criteria =>
    have := transCmp_keyOrder criteria
    inferInstanceAs (Std.TransCmp (compareLex criterion.keyOrder (keyOrder criteria)))

/-! ### The order for sorting -/

variable {records : List Record} {a b : Record}

theorem exact_of_exactIn {field : String} (h : ExactIn records field) (ha : a ∈ records)
    (hb : b ∈ records) : ∀ {v w : Value}, a.get? field = some v → b.get? field = some w →
      v.Exact w
  | .integer n, .float x, hv, hw => h ⟨b, hb, x, hw⟩ a ha n hv
  | .float x, .integer n, hv, hw => h ⟨a, ha, x, hv⟩ b hb n hw
  | .boolean _, _, _, _ => trivial
  | .string _, _, _, _ => trivial
  | .integer _, .boolean _, _, _ => trivial
  | .integer _, .integer _, _, _ => trivial
  | .integer _, .string _, _, _ => trivial
  | .float _, .boolean _, _, _ => trivial
  | .float _, .float _, _, _ => trivial
  | .float _, .string _, _, _ => trivial

/-- Fields compare by their keys. -/
theorem compareFields_eq_order {field : String} (h : ExactIn records field) (ha : a ∈ records)
    (hb : b ∈ records) :
    compareFields (a.get? field) (b.get? field) = (a.sortKey field).order (b.sortKey field) := by
  unfold sortKey
  cases hv : a.get? field with
  | none =>
    cases b.get? field with
    | none => rfl
    | some w => exact w.absent_order_sortKey.symm
  | some v =>
    cases hw : b.get? field with
    | none => exact v.sortKey_order_absent.symm
    | some w => exact Value.sortOrder_eq_order (exact_of_exactIn h ha hb hv hw)

theorem compare_eq_keyOrder {criterion : Criterion} (h : ExactIn records criterion.field)
    (ha : a ∈ records) (hb : b ∈ records) : criterion.compare a b = criterion.keyOrder a b := by
  obtain ⟨field, direction⟩ := criterion
  have hfields := compareFields_eq_order h ha hb
  cases direction with
  | ascending => exact hfields
  | descending =>
    show (compareFields (a.get? field) (b.get? field)).swap = _
    rw [hfields]
    exact Std.OrientedCmp.eq_swap.symm

/-- Records are sorted by their keys. -/
theorem compareBy_eq_keyOrder {criteria : List Criterion}
    (h : ∀ criterion ∈ criteria, ExactIn records criterion.field) (ha : a ∈ records)
    (hb : b ∈ records) : compareBy criteria a b = keyOrder criteria a b := by
  induction criteria with
  | nil => rfl
  | cons criterion criteria ih =>
    obtain ⟨hfirst, hrest⟩ := List.forall_mem_cons.mp h
    rw [compareBy, compare_eq_keyOrder hfirst ha hb, ih hrest]
    rfl

/-- Integers that are not rounded do not straddle a floating-point number. -/
theorem not_straddleIn_of_exactIn {field : String} (h : ExactIn records field) :
    ¬ StraddleIn records field := by
  rintro ⟨a, ha, b, hb, c, hc, u, v, w, hu, hv, hw, hstraddles⟩
  obtain ⟨huv, hvw, huw⟩ := Value.not_sortOrder_trans_of_straddles hstraddles
  rw [Value.sortOrder_eq_order (exact_of_exactIn h ha hb hu hv)] at huv
  rw [Value.sortOrder_eq_order (exact_of_exactIn h hb hc hv hw)] at hvw
  rw [Value.sortOrder_eq_order (exact_of_exactIn h ha hc hu hw)] at huw
  exact order_ne_gt_trans huv hvw huw

/-- So the order by such fields is one that says how to sort the records. -/
theorem transitiveOn_of_exactIn {criteria : List Criterion}
    (h : ∀ criterion ∈ criteria, ExactIn records criterion.field) :
    TransitiveOn (lexOrder criteria) records :=
  transitiveOn_of_not_straddles fun criterion hcriterion =>
    not_straddleIn_of_exactIn (h criterion hcriterion)

theorem stablySorted_sort {criteria : List Criterion}
    (h : ∀ criterion ∈ criteria, ExactIn records criterion.field) :
    StablySorted (keyOrder criteria) records (sort criteria records) := by
  have hsort : sort criteria records = sortBy (keyOrder criteria) records :=
    sortBy_congr fun a ha b hb => compareBy_eq_keyOrder h ha hb
  rw [hsort]
  exact stablySorted_sortBy records

end Record

namespace Plan

theorem toList_sort_values (criteria : List Criterion) (records : List Record) :
    (sort criteria (values records)).stage.toList = .ok (Record.sort criteria records) := by
  have hevents : (sort criteria (values records)).events Record.sort =
      .ok ((Record.sort criteria records).map .ok) := by
    show Except.map _ (allRecords (records.map .ok)) = _
    rw [allRecords_map_ok]
    rfl
  rw [toList_eq, hevents]
  exact congrArg (Except.mapError _) (allRecords_map_ok _)

/-- **A sort gives the records stably sorted, and only they are.** As long as no field to sort by holds
both a floating-point number and an integer that is rounded, the records come in increasing order of
their keys by the criteria, those with equal keys in the order of the list, and there is no other such
list. -/
theorem sort_values_eq_only_stablySorted (criteria : List Criterion) (records : List Record)
    (h : ∀ criterion ∈ criteria, Record.ExactIn records criterion.field) :
    ∃ sorted, (sort criteria (values records)).stage.toList = .ok sorted ∧
      StablySorted (Record.keyOrder criteria) records sorted ∧
      ∀ other, StablySorted (Record.keyOrder criteria) records other → other = sorted := by
  have hsorted := Record.stablySorted_sort h
  exact ⟨_, toList_sort_values criteria records, hsorted, fun _ hother => hother.unique hsorted⟩

/-- A descending criterion with all kinds of values, the integer 2 ^ 53 being as great as the number
2 ^ 53, and an ascending one after it: records with equal keys in both stay as they are. -/
theorem sort_values_mixed :
    let criteria : List Criterion := [⟨"n", .descending⟩, ⟨"t", .ascending⟩]
    let power := Value.float (.signed false 0x4340000000000000 (by decide))
    let absent := Record.empty
    let truth := Record.ofList [("n", .boolean true)]
    let integer := Record.ofList [("n", .integer 9007199254740992), ("t", .string "é")]
    let tied := Record.ofList [("n", power), ("t", .string "é"), ("x", .integer 1)]
    let number := Record.ofList [("n", power), ("t", .string "z")]
    let notNumber := Record.ofList [("n", .float .nan)]
    let text := Record.ofList [("n", .string "a")]
    let records := [absent, truth, integer, tied, number, notNumber, text]
    let sorted := [text, notNumber, number, integer, tied, truth, absent]
    (∀ criterion ∈ criteria, Record.ExactIn records criterion.field) ∧
      (sort criteria (values records)).stage.toList = .ok sorted ∧
      StablySorted (Record.keyOrder criteria) records sorted ∧
      ∀ other, StablySorted (Record.keyOrder criteria) records other → other = sorted := by
  intro criteria power absent truth integer tied number notNumber text records sorted
  have hvalues : ∀ criterion ∈ criteria, ∀ record ∈ records, record.get? criterion.field ∈
      [none, some (.boolean true), some (.integer 9007199254740992), some power,
        some (.float .nan), some (.string "a"), some (.string "é"), some (.string "z")] := by
    decide +kernel
  have hexact : ∀ criterion ∈ criteria, Record.ExactIn records criterion.field := by
    intro criterion hcriterion _ record hrecord n hn
    have hinteger := hvalues criterion hcriterion record hrecord
    rw [hn] at hinteger
    have hpower : n = 9007199254740992 := by simpa [power] using hinteger
    rw [hpower]
    decide
  have hsort : Record.sort criteria records = sorted := by decide +kernel
  obtain ⟨sorted', hlist, hsorted, hunique⟩ :=
    sort_values_eq_only_stablySorted criteria records hexact
  obtain rfl : sorted = sorted' := by
    rw [toList_sort_values, hsort] at hlist
    exact Except.ok.inj hlist
  exact ⟨hexact, hlist, hsorted, hunique⟩

end Plan

end Sift
