/-
# Ranges of sorted records

A sort orders the values of a field by one function and a condition compares them by another. As
long as a field and the bounds of conditions hold strings alone or numbers alone, the two never
contradict each other: rounding may bring numbers together, but it does not exchange them. So along
sorted records the values pass a bound at most once, from less to equal to greater. The records
below a bound come first, those above it come last, and those within two bounds stand together.

Key definitions: `Value.Kind`, `Value.boundOrder`, `Record.HasKind`, `Filter.HoldsUpTo`,
`Filter.HoldsFrom`, `Filter.HoldsWithin`.
Key theorems: `Value.boundOrder_ne_gt_of_sortOrder`, `Record.pairwise_holds`,
`Record.cutsRanges_of_ascends`, `Plan.sort_values_cuts_ranges`.
-/
import Sift.Proofs.Filter.Expansion
import Sift.Proofs.Record.Sorted

namespace Sift

/-! ### The order that conditions ask for -/

namespace Value

/-- The kinds of values that are ordered among themselves. -/
inductive Kind where
  | string
  | number
deriving DecidableEq

/-- Whether a value is of a kind. What is no number does not count as one. -/
def Kind.includes : Kind → Value → Bool
  | string, .string _ => true
  | number, .integer _ => true
  | number, .float x => !x.isNan
  | _, _ => false

/-- The order of two strings by their characters, and of two numbers by the places of what they are
rounded to. -/
def boundOrder : Value → Value → Ordering :=
  compareLex (compareOn numberPlace) (compareOn fun value => value.string?.getD "")

instance : Std.TransCmp boundOrder :=
  inferInstanceAs (Std.TransCmp (compareLex _ _))

variable {a b : Value}

theorem exists_of_includes_string : ∀ {a : Value}, Kind.string.includes a = true →
    ∃ s, a = string s
  | string s, _ => ⟨s, rfl⟩

theorem rank_of_includes_number : ∀ {a : Value}, Kind.number.includes a = true → a.rank = 1
  | integer _, _ => rfl
  | float _, _ => rfl

theorem boundOrder_of_number (ha : Kind.number.includes a = true)
    (hb : Kind.number.includes b = true) :
    a.boundOrder b = compare a.numberPlace b.numberPlace := by
  have hstring {value : Value} (h : Kind.number.includes value = true) :
      value.string?.getD "" = "" := by
    cases value with
    | string => cases h
    | _ => rfl
  have hself : compare "" "" = .eq := Std.ReflCmp.compare_self
  unfold boundOrder compareLex compareOn
  dsimp only
  rw [hstring ha, hstring hb, hself, Ordering.then_eq]

/-- The numeric reading of a number has its place. -/
theorem exists_numeric?_of_number : ∀ {a : Value}, Kind.number.includes a = true →
    ∃ x, a.numeric? = some x ∧ x.place? = some a.numberPlace
  | integer n, _ => ⟨_, rfl, Binary64.place?_ofInt n.toInt⟩
  | float (.signed ..), _ => ⟨_, rfl, rfl⟩

/-- Values of one kind relate by that order. -/
theorem relation?_eq_boundOrder {kind : Kind} (ha : kind.includes a = true)
    (hb : kind.includes b = true) : a.relation? b = some (some (a.boundOrder b)) := by
  cases kind with
  | string =>
    obtain ⟨s, rfl⟩ := exists_of_includes_string ha
    obtain ⟨t, rfl⟩ := exists_of_includes_string hb
    rfl
  | number =>
    obtain ⟨x, hx, hxplace⟩ := exists_numeric?_of_number ha
    obtain ⟨y, hy, hyplace⟩ := exists_numeric?_of_number hb
    have hstrings : bothStrings a b = false := by
      cases a with
      | string => cases ha
      | _ => rfl
    rw [relation?_of_not_bothStrings hstrings, hx, hy, boundOrder_of_number ha hb]
    show some (Binary64.compare? x y) = _
    rw [Binary64.compare?, hxplace, hyplace]

/-- **Sorting never contradicts the order that conditions ask for.** -/
theorem boundOrder_ne_gt_of_sortOrder {kind : Kind} (ha : kind.includes a = true)
    (hb : kind.includes b = true) (h : a.sortOrder b ≠ .gt) : a.boundOrder b ≠ .gt := by
  cases kind with
  | string =>
    obtain ⟨s, rfl⟩ := exists_of_includes_string ha
    obtain ⟨t, rfl⟩ := exists_of_includes_string hb
    exact h
  | number =>
    have hplaces :=
      numberPlace_le_of_sortOrder (rank_of_includes_number ha) (rank_of_includes_number hb) h
    rw [boundOrder_of_number ha hb]
    exact Ordering.isLE_iff_ne_gt.mp (Int.isLE_compare.mpr hplaces)

end Value

/-! ### Lists that are cut -/

section Cuts

variable {α : Type} {p q : α → Bool}

/-- A test that holds of everything before what it holds of cuts a list in two. -/
theorem exists_cut : ∀ {xs : List α}, xs.Pairwise (fun x y => p y = true → p x = true) →
    ∃ front back, xs = front ++ back ∧ (∀ x ∈ front, p x = true) ∧ ∀ x ∈ back, p x = false
  | [], _ => ⟨[], [], rfl, nofun, nofun⟩
  | x :: xs, h => by
    obtain ⟨hx, hxs⟩ := List.pairwise_cons.mp h
    by_cases hp : p x = true
    · obtain ⟨front, back, hsplit, hfront, hback⟩ := exists_cut hxs
      refine ⟨x :: front, back, congrArg (x :: ·) hsplit, ?_, hback⟩
      exact List.forall_mem_cons.mpr ⟨hp, hfront⟩
    · refine ⟨[], x :: xs, rfl, nofun, ?_⟩
      rw [List.forall_mem_cons]
      refine ⟨Bool.eq_false_iff.mpr hp, fun y hy => Bool.eq_false_iff.mpr fun hpy => ?_⟩
      exact hp (hx y hy hpy)

/-- Two such tests cut a list in three, the second one behind the first. -/
theorem exists_cuts {xs : List α} (hp : xs.Pairwise fun x y => p y = true → p x = true)
    (hq : xs.Pairwise fun x y => q y = true → q x = true) :
    ∃ front middle back, xs = front ++ (middle ++ back) ∧ (∀ x ∈ front, p x = true) ∧
      (∀ x ∈ middle, p x = false ∧ q x = true) ∧ ∀ x ∈ back, q x = false := by
  obtain ⟨front, rest, rfl, hfront, hrest⟩ := exists_cut hp
  obtain ⟨middle, back, rfl, hmiddle, hback⟩ := exists_cut (List.pairwise_append.mp hq).2.1
  refine ⟨front, middle, back, rfl, hfront, fun x hx => ?_, hback⟩
  exact ⟨hrest x (List.mem_append_left back hx), hmiddle x hx⟩

end Cuts

/-! ### Filters that cut a list -/

namespace Filter

/-- Whether a filter holds of the records of a list up to some place and of no others. -/
def HoldsUpTo (filter : Filter) (records : List Record) : Prop :=
  ∃ front back, records = front ++ back ∧
    (∀ record ∈ front, evaluate record filter = .ok true) ∧
    ∀ record ∈ back, evaluate record filter = .ok false

/-- Whether a filter holds of the records of a list from some place on and of no others. -/
def HoldsFrom (filter : Filter) (records : List Record) : Prop :=
  ∃ front back, records = front ++ back ∧
    (∀ record ∈ front, evaluate record filter = .ok false) ∧
    ∀ record ∈ back, evaluate record filter = .ok true

/-- Whether a filter holds of the records of a list between two places and of no others. -/
def HoldsWithin (filter : Filter) (records : List Record) : Prop :=
  ∃ front middle back, records = front ++ (middle ++ back) ∧
    (∀ record ∈ front, evaluate record filter = .ok false) ∧
    (∀ record ∈ middle, evaluate record filter = .ok true) ∧
    ∀ record ∈ back, evaluate record filter = .ok false

variable {filter : Filter} {records : List Record} {p q : Record → Bool}

theorem HoldsUpTo.reverse (h : filter.HoldsUpTo records) : filter.HoldsFrom records.reverse := by
  obtain ⟨front, back, rfl, hfront, hback⟩ := h
  refine ⟨back.reverse, front.reverse, List.reverse_append, ?_, ?_⟩
  · simpa only [List.mem_reverse] using hback
  · simpa only [List.mem_reverse] using hfront

theorem HoldsFrom.reverse (h : filter.HoldsFrom records) : filter.HoldsUpTo records.reverse := by
  obtain ⟨front, back, rfl, hfront, hback⟩ := h
  refine ⟨back.reverse, front.reverse, List.reverse_append, ?_, ?_⟩
  · simpa only [List.mem_reverse] using hback
  · simpa only [List.mem_reverse] using hfront

theorem HoldsWithin.reverse (h : filter.HoldsWithin records) :
    filter.HoldsWithin records.reverse := by
  obtain ⟨front, middle, back, rfl, hfront, hmiddle, hback⟩ := h
  refine ⟨back.reverse, middle.reverse, front.reverse, ?_, ?_, ?_, ?_⟩
  · rw [List.reverse_append, List.reverse_append, List.append_assoc]
  · simpa only [List.mem_reverse] using hback
  · simpa only [List.mem_reverse] using hmiddle
  · simpa only [List.mem_reverse] using hfront

theorem holdsUpTo_of_pairwise (hp : records.Pairwise fun a b => p b = true → p a = true)
    (h : ∀ record ∈ records, evaluate record filter = .ok (p record)) :
    filter.HoldsUpTo records := by
  obtain ⟨front, back, rfl, hfront, hback⟩ := exists_cut hp
  obtain ⟨h, h'⟩ := List.forall_mem_append.mp h
  refine ⟨front, back, rfl, fun record hrecord => ?_, fun record hrecord => ?_⟩
  · rw [h record hrecord, hfront record hrecord]
  · rw [h' record hrecord, hback record hrecord]

theorem holdsFrom_of_pairwise (hp : records.Pairwise fun a b => p b = true → p a = true)
    (h : ∀ record ∈ records, evaluate record filter = .ok (!p record)) :
    filter.HoldsFrom records := by
  obtain ⟨front, back, rfl, hfront, hback⟩ := exists_cut hp
  obtain ⟨h, h'⟩ := List.forall_mem_append.mp h
  refine ⟨front, back, rfl, fun record hrecord => ?_, fun record hrecord => ?_⟩
  · rw [h record hrecord, hfront record hrecord]
    rfl
  · rw [h' record hrecord, hback record hrecord]
    rfl

theorem holdsWithin_of_pairwise (hp : records.Pairwise fun a b => p b = true → p a = true)
    (hq : records.Pairwise fun a b => q b = true → q a = true)
    (h : ∀ record ∈ records, evaluate record filter = .ok (!p record && q record)) :
    filter.HoldsWithin records := by
  obtain ⟨front, middle, back, rfl, hfront, hmiddle, hback⟩ := exists_cuts hp hq
  obtain ⟨h, hrest⟩ := List.forall_mem_append.mp h
  obtain ⟨h', h''⟩ := List.forall_mem_append.mp hrest
  refine ⟨front, middle, back, rfl, fun record hrecord => ?_, fun record hrecord => ?_,
    fun record hrecord => ?_⟩
  · rw [h record hrecord, hfront record hrecord]
    rfl
  · rw [h' record hrecord, (hmiddle record hrecord).1, (hmiddle record hrecord).2]
    rfl
  · rw [h'' record hrecord, hback record hrecord, Bool.and_false]

end Filter

/-! ### Bounds along sorted records -/

namespace Record

/-- Whether a field of some records and some bounds hold values of one kind; if these are numbers,
no integer of the field is rounded when the records are sorted. -/
structure HasKind (kind : Value.Kind) (records : List Record) (field : String)
    (bounds : List Value) : Prop where
  found : ∀ record ∈ records, ∃ value, record.get? field = some value ∧ kind.includes value = true
  bounds : ∀ bound ∈ bounds, kind.includes bound = true
  exact : kind = .number → ExactIn records field

/-- Whether records are in ascending order by a field. -/
def Ascends (field : String) (records : List Record) : Prop :=
  records.Pairwise fun a b => compareFields (a.get? field) (b.get? field) ≠ .gt

/-- The order of the value of a field to a bound. -/
def orderTo (field : String) (bound : Value) (record : Record) : Ordering :=
  match record.get? field with
  | some value => value.boundOrder bound
  | none => .eq

variable {kind : Value.Kind} {records : List Record} {field : String} {bounds : List Value}
  {bound : Value} {record : Record}

/-- A comparison with a bound asks for the order to it. -/
theorem evaluate_compare_bound (h : HasKind kind records field bounds) (hrecord : record ∈ records)
    (hbound : bound ∈ bounds) (operator : Comparison) :
    Filter.evaluate record (.compare field operator bound) =
      .ok (operator.holds (record.orderTo field bound)) := by
  obtain ⟨value, hvalue, hkind⟩ := h.found record hrecord
  have hrelation := Value.relation?_eq_boundOrder hkind (h.bounds bound hbound)
  rw [Filter.evaluate_compare_of_some hvalue,
    Filter.compareValues_of_relation?_eq_some operator hrelation, orderTo, hvalue]
  rfl

/-- What comes before something below a bound is below it, and what comes before something not above
it is not above it. -/
theorem pairwise_holds (h : HasKind kind records field bounds) (hsorted : Ascends field records)
    (bound : Value) {operator : Comparison} (hoperator : operator = .lt ∨ operator = .le) :
    records.Pairwise fun a b => operator.holds (b.orderTo field bound) = true →
      operator.holds (a.orderTo field bound) = true := by
  refine List.Pairwise.imp_of_mem (fun {a b} ha hb hab => ?_) hsorted
  obtain ⟨v, hv, hvkind⟩ := h.found a ha
  obtain ⟨w, hw, hwkind⟩ := h.found b hb
  rw [hv, hw] at hab
  have horder : v.boundOrder w ≠ .gt := Value.boundOrder_ne_gt_of_sortOrder hvkind hwkind hab
  rw [orderTo, orderTo, hv, hw]
  obtain rfl | rfl := hoperator
  · intro hlt
    have hwbound : w.boundOrder bound = .lt := beq_iff_eq.mp hlt
    have hvbound : v.boundOrder bound = .lt :=
      Std.TransCmp.lt_of_isLE_of_lt (Ordering.isLE_iff_ne_gt.mpr horder) hwbound
    exact beq_iff_eq.mpr hvbound
  · intro hle
    have hwbound : w.boundOrder bound ≠ .gt := bne_iff_ne.mp hle
    exact bne_iff_ne.mpr (order_ne_gt_trans horder hwbound)

/-- Records in ascending order are cut by bounds. -/
theorem cutsRanges_of_ascends {lower upper : Value}
    (h : HasKind kind records field [bound, lower, upper]) (hsorted : Ascends field records) :
    (∀ operator ∈ [Comparison.lt, .le],
      (Filter.compare field operator bound).HoldsUpTo records) ∧
    (∀ operator ∈ [Comparison.gt, .ge],
      (Filter.compare field operator bound).HoldsFrom records) ∧
    (Filter.compare field .eq bound).HoldsWithin records ∧
    (Filter.between field lower upper).HoldsWithin records := by
  have hbelow := fun bound => pairwise_holds h hsorted bound (.inl rfl)
  have hatMost := fun bound => pairwise_holds h hsorted bound (.inr rfl)
  have hevaluate : ∀ record ∈ records, ∀ value ∈ [bound, lower, upper], ∀ operator,
      Filter.evaluate record (.compare field operator value) =
        .ok (operator.holds (record.orderTo field value)) :=
    fun _ hrecord _ hvalue operator => evaluate_compare_bound h hrecord hvalue operator
  refine ⟨fun operator hoperator => ?_, fun operator hoperator => ?_, ?_, ?_⟩
  · refine Filter.holdsUpTo_of_pairwise
      (p := fun record => operator.holds (record.orderTo field bound)) ?_
      fun record hrecord => hevaluate record hrecord bound (by simp) operator
    obtain rfl | rfl : operator = .lt ∨ operator = .le := by simpa using hoperator
    · exact hbelow bound
    · exact hatMost bound
  -- greater is not at most, and at least is not below
  · obtain rfl | rfl : operator = .gt ∨ operator = .ge := by simpa using hoperator
    · refine Filter.holdsFrom_of_pairwise (hatMost bound) fun record hrecord => ?_
      rw [hevaluate record hrecord bound (by simp)]
      cases record.orderTo field bound <;> rfl
    · refine Filter.holdsFrom_of_pairwise (hbelow bound) fun record hrecord => ?_
      rw [hevaluate record hrecord bound (by simp)]
      cases record.orderTo field bound <;> rfl
  · refine Filter.holdsWithin_of_pairwise (hbelow bound) (hatMost bound) fun record hrecord => ?_
    rw [hevaluate record hrecord bound (by simp)]
    cases record.orderTo field bound <;> rfl
  · refine Filter.holdsWithin_of_pairwise (hbelow lower) (hatMost upper) fun record hrecord => ?_
    rw [Filter.evaluate_between, Filter.evaluate, hevaluate record hrecord lower (by simp),
      hevaluate record hrecord upper (by simp)]
    cases record.orderTo field lower <;> rfl

/-! ### Sorts by one field -/

theorem HasKind.exactIn (h : HasKind kind records field bounds) : ExactIn records field := by
  cases kind with
  | number => exact h.exact rfl
  | string =>
    rintro ⟨record, hrecord, x, hx⟩
    obtain ⟨value, hvalue, hkind⟩ := h.found record hrecord
    obtain ⟨s, rfl⟩ := Value.exists_of_includes_string hkind
    cases hvalue.symm.trans hx

theorem HasKind.of_perm {records' : List Record} (h : HasKind kind records field bounds)
    (hperm : records'.Perm records) : HasKind kind records' field bounds where
  found record hrecord := h.found record (hperm.subset hrecord)
  bounds := h.bounds
  exact hkind hfloat record hrecord :=
    have ⟨other, hother, hx⟩ := hfloat
    h.exact hkind ⟨other, hperm.subset hother, hx⟩ record (hperm.subset hrecord)

/-- The records that a sort by one field gives compare by it in their order. -/
theorem pairwise_compare_sort (criterion : Criterion) (h : ExactIn records criterion.field) :
    (sort [criterion] records).Pairwise fun a b => criterion.compare a b ≠ .gt := by
  have hexact : ∀ other ∈ [criterion], ExactIn records other.field := by simpa using h
  obtain ⟨hperm, hordered, -⟩ := stablySorted_sort hexact
  refine hordered.imp_of_mem fun {a b} ha hb hab => ?_
  rw [← compareBy_eq_keyOrder hexact (hperm.subset ha) (hperm.subset hb)] at hab
  unfold compareBy compareBy at hab
  rwa [Ordering.then_eq] at hab

theorem compareFields_swap : ∀ v w : Option Value, compareFields w v = (compareFields v w).swap
  | none, none | none, some _ | some _, none => rfl
  | some v, some w => Value.sortOrder_swap v w

/-- Records in descending order ascend from their end. -/
theorem ascends_reverse_sort (h : ExactIn records field) :
    Ascends field (sort [⟨field, .descending⟩] records).reverse := by
  have hsorted := pairwise_compare_sort ⟨field, .descending⟩ h
  refine List.pairwise_reverse.mpr (hsorted.imp fun {a b} hab => ?_)
  rw [compareFields_swap]
  exact hab

end Record

namespace Plan

/-- **Bounds cut sorted records into contiguous parts.** Let a field and some bounds hold strings
alone, or numbers alone, and let no integer of the field be rounded when the records are sorted by
it. In ascending order the records below a bound come first, and so do those that are not above it;
the records above it come last, and so do those that are not below it; those equal to it stand
together, and so do those within two bounds. In descending order the records above a bound come
first and those below it last. -/
theorem sort_values_cuts_ranges {kind : Value.Kind} {records : List Record} {field : String}
    {bound lower upper : Value} (h : Record.HasKind kind records field [bound, lower, upper]) :
    ∃ ascending descending,
      (sort [⟨field, .ascending⟩] (values records)).stage.toList = .ok ascending ∧
      (sort [⟨field, .descending⟩] (values records)).stage.toList = .ok descending ∧
      (∀ operator ∈ [Comparison.lt, .le],
        (Filter.compare field operator bound).HoldsUpTo ascending ∧
        (Filter.compare field operator bound).HoldsFrom descending) ∧
      (∀ operator ∈ [Comparison.gt, .ge],
        (Filter.compare field operator bound).HoldsFrom ascending ∧
        (Filter.compare field operator bound).HoldsUpTo descending) ∧
      ∀ sorted ∈ [ascending, descending],
        (Filter.compare field .eq bound).HoldsWithin sorted ∧
        (Filter.between field lower upper).HoldsWithin sorted := by
  have hup : Record.Ascends field (Record.sort [⟨field, .ascending⟩] records) :=
    Record.pairwise_compare_sort ⟨field, .ascending⟩ h.exactIn
  have hdown := Record.ascends_reverse_sort h.exactIn
  have hperm := sortBy_perm (Record.compareBy [⟨field, .descending⟩]) records
  obtain ⟨hbelow, habove, hequal, hwithin⟩ :=
    Record.cutsRanges_of_ascends (h.of_perm (sortBy_perm _ records)) hup
  obtain ⟨hbelow', habove', hequal', hwithin'⟩ :=
    Record.cutsRanges_of_ascends (h.of_perm ((List.reverse_perm _).trans hperm)) hdown
  have hreverse := List.reverse_reverse (Record.sort [⟨field, .descending⟩] records)
  refine ⟨_, _, toList_sort_values _ records, toList_sort_values _ records,
    fun operator hoperator => ⟨hbelow operator hoperator, ?_⟩,
    fun operator hoperator => ⟨habove operator hoperator, ?_⟩, ?_⟩
  · exact hreverse ▸ (hbelow' operator hoperator).reverse
  · exact hreverse ▸ (habove' operator hoperator).reverse
  · intro sorted hsorted
    obtain rfl | rfl : sorted = _ ∨ sorted = _ := by simpa using hsorted
    · exact ⟨hequal, hwithin⟩
    · exact ⟨hreverse ▸ hequal'.reverse, hreverse ▸ hwithin'.reverse⟩

/-- Integers among floating-point numbers, and a bound that is rounded to one of them. -/
theorem sort_values_cuts_ranges_mixed :
    let power := Value.float (.signed false 0x4340000000000000 (by decide))
    let negativeZero := Value.float (.signed true 0 (by decide))
    let infinity := Value.float (.signed false 0x7ff0000000000000 (by decide))
    let record (value : Value) := Record.ofList [("n", value)]
    let records := [record infinity, record power, record (.integer 1),
      record (.integer 9007199254740992), record negativeZero]
    let bound := Value.integer 9007199254740993
    Record.HasKind .number records "n" [bound, negativeZero, .integer 1] ∧
      ∃ ascending descending,
        (sort [⟨"n", .ascending⟩] (values records)).stage.toList = .ok ascending ∧
        (sort [⟨"n", .descending⟩] (values records)).stage.toList = .ok descending ∧
        (∀ operator ∈ [Comparison.lt, .le],
          (Filter.compare "n" operator bound).HoldsUpTo ascending ∧
          (Filter.compare "n" operator bound).HoldsFrom descending) ∧
        (∀ operator ∈ [Comparison.gt, .ge],
          (Filter.compare "n" operator bound).HoldsFrom ascending ∧
          (Filter.compare "n" operator bound).HoldsUpTo descending) ∧
        ∀ sorted ∈ [ascending, descending],
          (Filter.compare "n" .eq bound).HoldsWithin sorted ∧
          (Filter.between "n" negativeZero (.integer 1)).HoldsWithin sorted := by
  intro power negativeZero infinity record records bound
  have hvalues : ∀ record ∈ records, record.get? "n" ∈
      [power, negativeZero, infinity, .integer 1, .integer 9007199254740992].map some := by
    decide +kernel
  have hkind : Record.HasKind .number records "n" [bound, negativeZero, .integer 1] := by
    refine ⟨fun record hrecord => ?_, by decide +kernel, fun _ _ record hrecord n hn => ?_⟩
    · obtain ⟨value, hvalue, hget⟩ := List.mem_map.mp (hvalues record hrecord)
      have hnumber : ∀ value ∈ [power, negativeZero, infinity, .integer 1,
          .integer 9007199254740992], Value.Kind.number.includes value = true := by decide +kernel
      exact ⟨value, hget.symm, hnumber value hvalue⟩
    · have hinteger := hvalues record hrecord
      rw [hn] at hinteger
      obtain rfl | rfl : n = 1 ∨ n = 9007199254740992 := by
        simpa [power, negativeZero, infinity] using hinteger
      · decide
      · decide
  exact ⟨hkind, sort_values_cuts_ranges hkind⟩

end Plan

end Sift
