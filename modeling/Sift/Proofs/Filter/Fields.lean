/-
# The fields that a filter looks at

A filter looks at a record only through the fields of its conditions. It lists them without
repetition, in the order in which they first occur. Two records that agree on these fields, each
field being absent in both or having the same value in both, are the same to the filter, in its
truth value and in its error. So whatever happens to the other fields of the records of a list, the
filter selects the records at the same positions, or it fails with the same error.

Key definitions: `Record.AgreeOn`, `Filter.conditionField?`, `Filter.heldPositions`.
Key theorems: `pairwise_idxOf_eraseDups`, `Filter.evaluate_of_agreeOn`,
`Filter.select_eq_of_failure?`, `Filter.evaluate_depends_on_fields`.
-/
import Mathlib.Data.List.Forall2
import Sift.Proofs.Filter.Skeleton
import Sift.Proofs.Query.Pipeline

namespace Sift

/-! ### Lists without repetition -/

section EraseDups

variable {α : Type} [BEq α] [LawfulBEq α]

/-- An element that differs from the first one occurs one place later than in the rest. -/
theorem idxOf_cons_of_ne {x y : α} (h : (!y == x) = true) (xs : List α) :
    (x :: xs).idxOf y = xs.idxOf y + 1 := by
  have hne : (x == y) = false := by
    rw [BEq.comm]
    simpa using h
  rw [List.idxOf_cons, hne, cond_false]

/-- Elements that stay when others are removed stay in the order of their first occurrences. -/
theorem idxOf_lt_of_filter {p : α → Bool} {x y : α} (hx : p x = true) (hy : p y = true) :
    ∀ {xs : List α}, (xs.filter p).idxOf x < (xs.filter p).idxOf y → xs.idxOf x < xs.idxOf y
  | [], h => h
  | z :: xs, h => by
    have ih : (xs.filter p).idxOf x < (xs.filter p).idxOf y → xs.idxOf x < xs.idxOf y :=
      idxOf_lt_of_filter hx hy
    have hne {w : α} (hw : p w = true) (hz : ¬ p z = true) : (!w == z) = true := by
      rw [Bool.not_eq_true', beq_eq_false_iff_ne]
      rintro rfl
      exact hz hw
    by_cases hz : p z = true
    · rw [List.filter_cons_of_pos hz, List.idxOf_cons, List.idxOf_cons] at h
      rw [List.idxOf_cons, List.idxOf_cons]
      cases hzx : z == x <;> cases hzy : z == y <;> simp_all
    · rw [List.filter_cons_of_neg hz] at h
      rw [idxOf_cons_of_ne (hne hx hz), idxOf_cons_of_ne (hne hy hz)]
      exact Nat.succ_lt_succ (ih h)

/-- Without repetitions the elements of a list are in the order of their first occurrences. -/
theorem pairwise_idxOf_eraseDups : ∀ xs : List α,
    xs.eraseDups.Pairwise fun x y => xs.idxOf x < xs.idxOf y
  | [] => List.Pairwise.nil
  | x :: xs => by
    have ih := pairwise_idxOf_eraseDups (xs.filter fun y => !y == x)
    have hmem : ∀ y ∈ (xs.filter fun y => !y == x).eraseDups, (!y == x) = true := fun y hy =>
      (List.mem_filter.mp (List.mem_eraseDups.mp hy)).2
    rw [List.eraseDups_cons, List.pairwise_cons]
    refine ⟨fun y hy => ?_, ih.imp_of_mem fun {y z} hy hz hlt => ?_⟩
    · rw [List.idxOf_cons_self, idxOf_cons_of_ne (hmem y hy)]
      exact Nat.succ_pos _
    · rw [idxOf_cons_of_ne (hmem y hy), idxOf_cons_of_ne (hmem z hz)]
      exact Nat.succ_lt_succ
        (idxOf_lt_of_filter (p := fun y => !y == x) (hmem y hy) (hmem z hz) hlt)
termination_by xs => xs.length
decreasing_by exact Nat.lt_succ_of_le (List.length_filter_le _ _)

end EraseDups

/-! ### Records that agree -/

/-- Whether two records have the same values in some fields, where they have one at all. -/
def Record.AgreeOn (names : List String) (a b : Record) : Prop :=
  ∀ name ∈ names, a.get? name = b.get? name

instance (names : List String) (a b : Record) : Decidable (Record.AgreeOn names a b) :=
  inferInstanceAs (Decidable (∀ name ∈ names, a.get? name = b.get? name))

namespace Filter

/-- The field of a condition. -/
def conditionField? : Filter → Option String
  | compare field _ _ => some field
  | member field _ _ => some field
  | between field _ _ => some field
  | matching field _ => some field
  | and _ _ | or _ _ | not _ => none

/-- The positions of the records of which a filter holds. -/
def heldPositions (filter : Filter) (records : List Record) : List Nat :=
  (records.zipIdx.filter fun entry => holdsOn entry.1 filter).map Prod.snd

variable {filter : Filter} {a b : Record} {records records' : List Record}

/-! ### The list of fields -/

theorem fieldOccurrences_eq : ∀ filter : Filter,
    filter.fieldOccurrences = filter.leaves.filterMap conditionField?
  | compare .. => rfl
  | member .. => rfl
  | between .. => rfl
  | matching .. => rfl
  | and left right => by
    rw [fieldOccurrences, leaves, List.filterMap_append, fieldOccurrences_eq left,
      fieldOccurrences_eq right]
  | or left right => by
    rw [fieldOccurrences, leaves, List.filterMap_append, fieldOccurrences_eq left,
      fieldOccurrences_eq right]
  | not operand => by rw [fieldOccurrences, leaves, fieldOccurrences_eq operand]

theorem mem_fields_iff {name : String} :
    name ∈ filter.fields ↔ ∃ leaf ∈ filter.leaves, leaf.conditionField? = some name := by
  rw [fields, List.mem_eraseDups, fieldOccurrences_eq, List.mem_filterMap]

/-! ### Evaluation -/

/-- A condition on a field is the same on records with the same value there. -/
theorem onField_congr {field : String} (h : a.get? field = b.get? field)
    (condition : Value → Except EvalError Bool) :
    onField a field condition = onField b field condition := by
  unfold onField
  rw [h]

/-- A filter looks at the fields of its conditions alone. -/
theorem evaluate_congr : ∀ {filter : Filter}, Record.AgreeOn filter.fieldOccurrences a b →
    evaluate a filter = evaluate b filter
  | compare .., h => onField_congr (h _ (List.mem_singleton_self _)) _
  | member .., h => onField_congr (h _ (List.mem_singleton_self _)) _
  | between .., h => onField_congr (h _ (List.mem_singleton_self _)) _
  | matching .., h => onField_congr (h _ (List.mem_singleton_self _)) _
  | and left right, h => by
    obtain ⟨hleft, hright⟩ := List.forall_mem_append.mp h
    rw [evaluate, evaluate, evaluate_congr hleft, evaluate_congr hright]
  | or left right, h => by
    obtain ⟨hleft, hright⟩ := List.forall_mem_append.mp h
    rw [evaluate, evaluate, evaluate_congr hleft, evaluate_congr hright]
  | not operand, h => by
    have hoperand : evaluate a operand = evaluate b operand := evaluate_congr h
    rw [evaluate, evaluate, hoperand]

/-- A filter has the same truth value or error on records that agree on its fields. -/
theorem evaluate_of_agreeOn (h : Record.AgreeOn filter.fields a b) :
    evaluate a filter = evaluate b filter :=
  evaluate_congr fun name hname => h name (List.mem_eraseDups.mpr hname)

/-! ### Selection -/

theorem mem_heldPositions_iff {i : Nat} : i ∈ filter.heldPositions records ↔
    ∃ record, records[i]? = some record ∧ evaluate record filter = .ok true := by
  unfold heldPositions
  simp only [List.mem_map, List.mem_filter, List.mem_zipIdx_iff_getElem?, Prod.exists,
    exists_eq_right, holdsOn_iff]

theorem pairwise_heldPositions (filter : Filter) (records : List Record) :
    (filter.heldPositions records).Pairwise (· < ·) := by
  have hpositions : (records.zipIdx.map Prod.snd).Pairwise (· < ·) := by
    rw [List.zipIdx_map_snd]
    exact List.pairwise_lt_range'
  exact List.pairwise_map.mpr ((List.pairwise_map.mp hpositions).filter _)

/-- The records of which a filter holds are those at its positions. -/
theorem filterMap_heldPositions (filter : Filter) (records : List Record) :
    (filter.heldPositions records).filterMap (records[·]?) =
      records.filter (holdsOn · filter) := by
  have hentries : ∀ entries : List (Record × Nat), (∀ entry ∈ entries, entry ∈ records.zipIdx) →
      (entries.map Prod.snd).filterMap (records[·]?) = entries.map Prod.fst := by
    intro entries hentries
    rw [List.filterMap_map, ← List.filterMap_eq_map]
    exact List.filterMap_congr fun entry hentry =>
      List.mem_zipIdx_iff_getElem?.mp (hentries entry hentry)
  have hrecords : records.filter (holdsOn · filter) =
      (records.zipIdx.filter fun entry => holdsOn entry.1 filter).map Prod.fst := by
    rw [← List.zipIdx_map_fst 0 records, List.filter_map]
    simp only [List.zipIdx_map_fst]
    rfl
  rw [heldPositions, hentries _ fun entry hentry => List.mem_of_mem_filter hentry, hrecords]

/-- A filter fails on a list with its error on the first record on which it fails, or else selects
the records at its positions. -/
theorem select_eq_of_failure? (filter : Filter) (records : List Record) : filter.select records =
    match records.findSome? (failure? · filter) with
    | some e => .error e
    | none => .ok ((filter.heldPositions records).filterMap (records[·]?)) := by
  have hfirst : filter.firstError? records = records.findSome? (failure? · filter) := rfl
  rw [filter.select_eq, filterMap_heldPositions, Query.matching, hfirst]
  cases records.findSome? (failure? · filter) <;> rfl

section Agreement

variable (h : List.Forall₂ (Record.AgreeOn filter.fields) records records')
include h

theorem heldPositions_of_agreeOn :
    filter.heldPositions records = filter.heldPositions records' := by
  unfold heldPositions
  generalize 0 = start
  induction h generalizing start with
  | nil => rfl
  | @cons a b records records' hagree _ ih =>
    have hholds : holdsOn a filter = holdsOn b filter := by
      unfold holdsOn
      rw [evaluate_of_agreeOn hagree]
    rw [List.zipIdx_cons, List.zipIdx_cons, List.filter_cons, List.filter_cons, hholds]
    cases holdsOn b filter with
    | true => exact congrArg (start :: ·) (ih (start + 1))
    | false => exact ih (start + 1)

theorem findSome?_failure?_of_agreeOn :
    records.findSome? (failure? · filter) = records'.findSome? (failure? · filter) := by
  induction h with
  | nil => rfl
  | cons hagree _ ih =>
    rw [List.findSome?_cons, List.findSome?_cons, ih]
    unfold failure?
    rw [evaluate_of_agreeOn hagree]

end Agreement

/-- **A filter looks only at the fields that it lists.** The list has the field of every condition
once, in the order in which the fields first occur among the conditions. On records that agree on
these fields the filter has the same truth value or error. On two lists whose records agree on them
one by one it fails with the same error, or it selects the records at the same positions. -/
theorem evaluate_depends_on_fields (filter : Filter) :
    let occurrences := filter.leaves.filterMap conditionField?
    (∀ name, name ∈ filter.fields ↔
      ∃ leaf ∈ filter.leaves, leaf.conditionField? = some name) ∧
    filter.fields.Nodup ∧
    (filter.fields.Pairwise fun name name' =>
      occurrences.idxOf name < occurrences.idxOf name') ∧
    (∀ a b, Record.AgreeOn filter.fields a b → evaluate a filter = evaluate b filter) ∧
    ∀ records records', List.Forall₂ (Record.AgreeOn filter.fields) records records' →
      (∃ e, filter.select records = .error e ∧ filter.select records' = .error e) ∨
      ∃ positions : List Nat, positions.Pairwise (· < ·) ∧
        (∀ i, i ∈ positions ↔
          ∃ record, records[i]? = some record ∧ evaluate record filter = .ok true) ∧
        filter.select records = .ok (positions.filterMap (records[·]?)) ∧
        filter.select records' = .ok (positions.filterMap (records'[·]?)) := by
  intro occurrences
  have horder : filter.fields.Pairwise fun name name' =>
      occurrences.idxOf name < occurrences.idxOf name' := by
    rw [fields, fieldOccurrences_eq]
    exact pairwise_idxOf_eraseDups occurrences
  have hnodup : filter.fields.Nodup := by
    refine horder.imp fun hlt heq => ?_
    rw [heq] at hlt
    exact Nat.lt_irrefl _ hlt
  refine ⟨fun name => mem_fields_iff, hnodup, horder, fun a b => evaluate_of_agreeOn,
    fun records records' h => ?_⟩
  rw [select_eq_of_failure? filter records, select_eq_of_failure? filter records',
    ← findSome?_failure?_of_agreeOn h, ← heldPositions_of_agreeOn h]
  rcases records.findSome? (failure? · filter) with _ | e
  · exact .inr ⟨filter.heldPositions records, pairwise_heldPositions filter records,
      fun i => mem_heldPositions_iff, rfl, rfl⟩
  · exact .inl ⟨e, rfl, rfl⟩

/-- Of three records the first one loses a field that the filter does not list, the second one gets
one, and the third one has another value there; the second one is still not selected. A truth value
makes the filter fail with the same error whatever stands beside it. -/
theorem evaluate_depends_on_fields_beside_others :
    let filter := or (compare "b" .eq (.string "x"))
      (and (not (compare "a" .lt (.string "m"))) (member "b" true [.string "y"]))
    let records := [Record.ofList [("b", .string "x"), ("c", .boolean true)],
      Record.ofList [("a", .string "z")],
      Record.ofList [("a", .string "z"), ("b", .string "u"), ("c", .integer 1)]]
    let records' := [Record.ofList [("b", .string "x")],
      Record.ofList [("a", .string "z"), ("d", .string "x")],
      Record.ofList [("a", .string "z"), ("b", .string "u"), ("c", .integer 2)]]
    let failing := Record.ofList [("b", .boolean true)]
    let failing' := Record.ofList [("b", .boolean true), ("c", .integer 1)]
    filter.fields = ["b", "a"] ∧
      Record.AgreeOn filter.fields failing failing' ∧
      evaluate failing filter =
        .error (.unsupportedComparison (.boolean true) .eq (.string "x")) ∧
      evaluate failing' filter =
        .error (.unsupportedComparison (.boolean true) .eq (.string "x")) ∧
      List.Forall₂ (Record.AgreeOn filter.fields) records records' ∧
      filter.select records = .ok (([0, 2] : List Nat).filterMap (records[·]?)) ∧
      ∃ positions : List Nat,
        filter.select records = .ok (positions.filterMap (records[·]?)) ∧
        filter.select records' = .ok (positions.filterMap (records'[·]?)) := by
  intro filter records records' failing failing'
  have hfailing : evaluate failing filter =
      .error (.unsupportedComparison (.boolean true) .eq (.string "x")) := by decide +kernel
  have hagree : Record.AgreeOn filter.fields failing failing' := by decide +kernel
  have hrecords : List.Forall₂ (Record.AgreeOn filter.fields) records records' :=
    .cons (by decide +kernel) (.cons (by decide +kernel) (.cons (by decide +kernel) .nil))
  have hselect : filter.select records = .ok (([0, 2] : List Nat).filterMap (records[·]?)) := by
    decide +kernel
  obtain ⟨-, -, -, hevaluate, hselects⟩ := evaluate_depends_on_fields filter
  refine ⟨by decide +kernel, hagree, hfailing, (hevaluate _ _ hagree).symm.trans hfailing, hrecords,
    hselect, ?_⟩
  rcases hselects records records' hrecords with ⟨e, herror, -⟩ | ⟨positions, -, -, hkept, hkept'⟩
  · cases herror.symm.trans hselect
  · exact ⟨positions, hkept, hkept'⟩

end Filter

end Sift
