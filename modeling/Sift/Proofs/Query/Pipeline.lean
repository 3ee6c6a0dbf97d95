/-
# What a query finds

A query is run by stages that give records one at a time. Its result is that of functions on lists:
the records in the window on which the filter holds, in order if there is anything to sort by, and of
these the page. It fails with the error of the filter text, or else with that of the window, or else
with that of the filter on the first record in the window on which it fails. What to sort by and which
page to take have no part in that, since a sort neither loses nor adds a record and the page is taken
last.

The order of the records is that of a stable sort by all the fields, in one direction. It is certain as
long as the order by these fields is transitive on the records to sort.

Key definitions: `Filter.firstError?`, `Query.matching`, `Query.matched`, `Query.directedFields`,
`Query.Sortable`, `Page.cut`, `Query.listRun`.
Key theorems: `Filter.select_eq`, `Query.recordsOf_plan`, `Query.listRun_sort_eq`,
`Query.run_refines_listRun`.
-/
import Sift.Query
import Sift.Proofs.Record.Order
import Sift.Proofs.Stage.Denotation

namespace Sift

/-! ### Functions on lists -/

/-- The error of a filter on the first record on which it fails. -/
def Filter.firstError? (condition : Filter) (records : List Record) : Option EvalError :=
  records.findSome? fun record =>
    match condition.evaluate record with
    | .ok _ => none
    | .error e => some e

/-- The elements of a list that are on a page. -/
def Page.cut {α : Type} (page : Page) (xs : List α) : List α :=
  let rest := xs.drop page.offset
  if page.limit = 0 then rest else rest.take page.limit

namespace Query

/-- The records on which a filter holds, if it fails on none of them; all records if there is no
filter. -/
def matching (condition : Option Filter) (records : List Record) :
    Except EvalError (List Record) :=
  match condition with
  | none => .ok records
  | some condition =>
    match condition.firstError? records with
    | none => .ok (records.filter fun record => condition.evaluate record matches .ok true)
    | some e => .error e

/-- The records in the window of a query on which its filter holds. -/
def matched (query : Query) (now : Instant) (records : List Record) :
    Except QueryError (List Record) := do
  let condition ← (query.filter.mapM Filter.parse).mapError .invalidFilter
  let windowed ← (query.window.select now records).mapError .invalidWindow
  (matching condition windowed).mapError .evaluation

/-- The fields that a query sorts by, all in ascending order, or all in descending order. -/
def directedFields (query : Query) : List Criterion :=
  if query.isReversed then query.sortFields.map fun field => ⟨field, .descending⟩
  else query.sortFields.map fun field => ⟨field, .ascending⟩

/-- Whether the order by the fields of a query is transitive on the records to sort, if there are
any. -/
def Sortable (query : Query) (now : Instant) (records : List Record) : Prop :=
  ∀ matched, query.matched now records = .ok matched →
    TransitiveOn (Record.lexOrder query.directedFields) matched

/-- Records in the order of a query, sorted in some way. -/
def arrange (sorting : List Criterion → List Record → List Record) (query : Query)
    (records : List Record) : List Record :=
  if query.sortFields = [] then records else sorting query.directedFields records

/-- The result of a query by functions on lists. -/
def listRun (sorting : List Criterion → List Record → List Record) (query : Query) (now : Instant)
    (records : List Record) : Except QueryError QueryResult := do
  let matched ← query.matched now records
  let found := query.arrange sorting matched
  return ⟨query.page.cut found, query.page.summary found.length⟩

end Query

/-! ### The events of a list -/

theorem allRecords_map_ok : ∀ records : List Record, allRecords (records.map .ok) = .ok records
  | [] => rfl
  | record :: records => by
    unfold List.map allRecords
    rw [allRecords_map_ok records]
    rfl

/-- A filter selects the records on which it holds, unless it fails on one. -/
theorem Filter.select_eq (condition : Filter) : ∀ records : List Record,
    condition.select records = Query.matching (some condition) records
  | [] => rfl
  | record :: records => by
    have ih := select_eq condition records
    unfold Query.matching firstError? at ih ⊢
    dsimp only at ih ⊢
    rw [select, ih, List.findSome?_cons, List.filter_cons]
    rcases condition.evaluate record with e | _ | _
    · rfl
    · cases records.findSome? _ <;> rfl
    · cases records.findSome? _ <;> rfl

theorem allRecords_filterEvents (condition : Filter) : ∀ records : List Record,
    allRecords (filterEvents condition (records.map .ok)) = condition.select records
  | [] => rfl
  | record :: records => by
    have ih := allRecords_filterEvents condition records
    rw [List.map_cons, filterEvents, Filter.select, ← ih]
    rcases condition.evaluate record with e | _ | _
    · rfl
    · show allRecords _ = (allRecords _).bind fun kept => .ok kept
      cases allRecords (filterEvents condition (records.map .ok)) <;> rfl
    · rfl

/-- The events behind a limit on a list are its records behind the offset, as many as there is room
for. -/
theorem limitEvents_map_ok : ∀ (records : List Record) (toSkip : Nat) (room : Option Nat),
    limitEvents toSkip room (records.map .ok) =
      (room.elim (records.drop toSkip) (records.drop toSkip).take).map .ok
  | [], toSkip, room => by
    cases room <;> simp [limitEvents]
  | record :: records, toSkip, room => by
    rw [List.map_cons]
    unfold limitEvents
    by_cases hroom : room = some 0
    · rw [if_pos hroom, hroom]
      rfl
    · rw [if_neg hroom]
      cases toSkip with
      | succ toSkip => exact limitEvents_map_ok records toSkip room
      | zero =>
        dsimp only
        rw [limitEvents_map_ok records]
        rcases room with _ | _ | count
        · rfl
        · exact absurd rfl hroom
        · rfl

/-! ### The records of plans -/

namespace Query

theorem recordsOf_eq (plan : Plan) :
    recordsOf plan = ((plan.events Record.sort).bind allRecords).mapError .evaluation := by
  unfold recordsOf
  rw [plan.toList_eq]
  cases (plan.events Record.sort).bind allRecords <;> rfl

theorem recordsOf_eq_ok {plan : Plan} {records : List Record}
    (h : plan.events Record.sort = .ok (records.map .ok)) : recordsOf plan = .ok records := by
  rw [recordsOf_eq, h]
  show (allRecords (records.map .ok)).mapError QueryError.evaluation = _
  rw [allRecords_map_ok]
  rfl

theorem recordsOf_values (records : List Record) : recordsOf (.values records) = .ok records :=
  recordsOf_eq_ok rfl

theorem recordsOf_filter_values (condition : Filter) (records : List Record) :
    recordsOf (.filter condition (.values records)) =
      (matching (some condition) records).mapError .evaluation := by
  rw [recordsOf_eq, ← condition.select_eq, ← allRecords_filterEvents]
  rfl

/-- A sort on top of a plan gives its records in order and fails as the plan does. -/
theorem recordsOf_sort (criteria : List Criterion) (plan : Plan) :
    recordsOf (.sort criteria plan) = (recordsOf plan).map (Record.sort criteria) := by
  rw [recordsOf_eq, recordsOf_eq, Plan.events]
  cases (plan.events Record.sort).bind allRecords with
  | error e => rfl
  | ok records =>
    show (allRecords ((Record.sort criteria records).map .ok)).mapError QueryError.evaluation = _
    rw [allRecords_map_ok]
    rfl

theorem recordsOf_limit_values (page : Page) (records : List Record) :
    recordsOf (.limit page.limit page.offset (.values records)) = .ok (page.cut records) := by
  refine recordsOf_eq_ok ?_
  show Except.ok (limitEvents page.offset (roomOf page.limit) (records.map .ok)) = _
  rw [limitEvents_map_ok]
  unfold roomOf Page.cut
  by_cases hlimit : page.limit = 0
  · rw [if_pos hlimit, if_pos hlimit]
    rfl
  · rw [if_neg hlimit, if_neg hlimit]
    rfl

/-! ### The result -/

variable (query : Query)

theorem criteria_eq : query.criteria = query.directedFields := by
  unfold criteria directedFields
  cases query.isReversed <;> rfl

theorem parseFilter_eq :
    query.parseFilter = (query.filter.mapM Filter.parse).mapError .invalidFilter := by
  unfold parseFilter
  cases query.filter with
  | none => rfl
  | some text =>
    dsimp only [Option.mapM]
    cases hparse : Filter.parse text <;> rfl

/-- The stages for the records in the window give the matching ones in order. -/
theorem recordsOf_plan (condition : Option Filter) (records : List Record) :
    recordsOf (query.plan condition records) =
      ((matching condition records).mapError .evaluation).map (query.arrange Record.sort) := by
  obtain ⟨filtered, hplan, hfiltered⟩ : ∃ filtered : Plan,
      query.plan condition records =
        (if query.sortFields.isEmpty then filtered else filtered.sort query.criteria) ∧
      recordsOf filtered = (matching condition records).mapError .evaluation := by
    cases condition with
    | none => exact ⟨_, rfl, recordsOf_values records⟩
    | some condition => exact ⟨_, rfl, recordsOf_filter_values condition records⟩
  rw [hplan]
  by_cases hfields : query.sortFields = []
  · have harrange : query.arrange Record.sort = id := funext fun _ => if_pos hfields
    rw [if_pos (List.isEmpty_iff.mpr hfields), hfiltered, harrange]
    cases (matching condition records).mapError QueryError.evaluation <;> rfl
  · have harrange : query.arrange Record.sort = Record.sort query.directedFields :=
      funext fun _ => if_neg hfields
    rw [if_neg (mt List.isEmpty_iff.mp hfields), recordsOf_sort, hfiltered, harrange, criteria_eq]

theorem run_eq (now : Instant) (records : List Record) :
    query.run now records = query.listRun Record.sort now records := by
  unfold run listRun matched inWindow
  rw [parseFilter_eq]
  cases (query.filter.mapM Filter.parse).mapError QueryError.invalidFilter with
  | error e => rfl
  | ok condition =>
    cases (query.window.select now records).mapError QueryError.invalidWindow with
    | error e => rfl
    | ok windowed =>
      show ((recordsOf (query.plan condition windowed)).bind fun found =>
          (recordsOf (.limit query.page.limit query.page.offset (.values found))).bind fun page =>
            .ok (QueryResult.mk page (query.page.summary found.length))) =
        ((matching condition windowed).mapError .evaluation).bind fun matched =>
          .ok (QueryResult.mk (query.page.cut (query.arrange Record.sort matched))
            (query.page.summary (query.arrange Record.sort matched).length))
      rw [recordsOf_plan]
      cases (matching condition windowed).mapError QueryError.evaluation with
      | error e => rfl
      | ok matched =>
        dsimp only [Except.map, Except.bind]
        rw [recordsOf_limit_values]

theorem matched_ne_notStarted (now : Instant) (records : List Record) :
    query.matched now records ≠ .error .notStarted := by
  unfold matched
  cases query.filter.mapM Filter.parse with
  | error e => exact nofun
  | ok condition =>
    cases query.window.select now records with
    | error e => exact nofun
    | ok windowed =>
      show (matching condition windowed).mapError QueryError.evaluation ≠ _
      cases matching condition windowed <;> exact nofun

/-- A query that sorts by nothing takes all records to be as great as one another. -/
theorem sortable_of_sortFields_eq_nil {query : Query} (h : query.sortFields = []) (now : Instant)
    (records : List Record) : query.Sortable now records := by
  have hfields : query.directedFields = [] := by
    unfold directedFields
    rw [h]
    cases query.isReversed <;> rfl
  intro matched _
  rw [hfields]
  exact fun _ _ _ _ _ _ _ => id

/-- Where the order by the fields is certain, the result is that of a stable sort. -/
theorem listRun_sort_eq {query : Query} {now : Instant} {records : List Record}
    (h : query.Sortable now records) :
    query.listRun Record.sort now records = query.listRun Record.stableSort now records := by
  unfold listRun
  cases hmatched : query.matched now records with
  | error e => rfl
  | ok matched =>
    have harrange :
        query.arrange Record.sort matched = query.arrange Record.stableSort matched := by
      unfold arrange
      rw [Record.sort_eq_stableSort (h matched hmatched)]
    show Except.ok (QueryResult.mk (query.page.cut (query.arrange Record.sort matched)) _) = _
    rw [harrange]
    rfl

theorem length_arrange_sort (records : List Record) :
    (query.arrange Record.sort records).length = records.length := by
  unfold arrange
  split
  · rfl
  · exact (sortBy_perm _ records).length_eq

/-- The total of a result counts the matching records, whatever their order and the page. -/
theorem run_total (now : Instant) (records : List Record) :
    (query.run now records).map (·.page.total) = (query.matched now records).map List.length := by
  rw [run_eq, listRun]
  cases query.matched now records with
  | error e => rfl
  | ok matched => exact congrArg Except.ok (query.length_arrange_sort matched)

/-- **A query is run as by functions on lists.** It never asks a stage for a record before starting it.
Let the order by its fields be transitive on the records to sort, if it comes to that. Then its result
is that of a stable sort, and neither its error nor the total of its result depends on what it sorts
by, in which direction, or on its page. -/
theorem run_refines_listRun (now : Instant) (records : List Record) :
    query.run now records ≠ .error .notStarted ∧
      (query.Sortable now records →
        query.run now records = query.listRun Record.stableSort now records ∧
        ∀ (sortFields : List String) (isReversed : Bool) (page : Page),
          Sortable { query with sortFields, isReversed, page } now records →
            (run { query with sortFields, isReversed, page } now records).map (·.page.total) =
              (query.run now records).map (·.page.total)) := by
  refine ⟨?_, fun h => ⟨?_, fun sortFields isReversed page _ => ?_⟩⟩
  · rw [run_eq, listRun]
    cases hmatched : query.matched now records with
    | error e =>
      intro hrun
      rw [Except.error.inj hrun] at hmatched
      exact query.matched_ne_notStarted now records hmatched
    | ok matched => exact nofun
  · rw [run_eq, listRun_sort_eq h]
  · rw [run_total, run_total]
    rfl

/-- An integer that would be rounded does no harm where no other one is rounded to the same number: the
second page of the last four records, which come in descending order, the one without the field last. -/
theorem run_refines_listRun_rounded :
    let record (n : Value) := Record.ofList [("n", n)]
    let great := record (.integer 9007199254740993)
    let three := record (.integer 3)
    let alsoThree := record (.float (.ofInt 3))
    let records := [record (.integer 4), Record.empty, three, great, alsoThree]
    let query : Query := { window := { lastCount := 4 }, sortFields := ["n"], isReversed := true,
                           page := ⟨2, 2⟩ }
    let now : Instant := ⟨0, 0⟩
    query.Sortable now records ∧
      query.listRun Record.stableSort now records =
        .ok ⟨[alsoThree, Record.empty], Page.summary ⟨2, 2⟩ 4⟩ ∧
      query.run now records = .ok ⟨[alsoThree, Record.empty], Page.summary ⟨2, 2⟩ 4⟩ ∧
      (run { query with sortFields := [] } now records).map (·.page.total) = .ok 4 := by
  intro record great three alsoThree records query now
  have hmatched : query.matched now records = .ok [Record.empty, three, great, alsoThree] := rfl
  have hsortable : query.Sortable now records := by
    intro matched h
    obtain rfl := Except.ok.inj (hmatched.symm.trans h)
    decide +kernel
  have hunsorted : Sortable { query with sortFields := [] } now records :=
    sortable_of_sortFields_eq_nil rfl now records
  have harrange : query.arrange Record.sort [Record.empty, three, great, alsoThree] =
      [great, three, alsoThree, Record.empty] := by
    decide +kernel
  obtain ⟨-, hrefines⟩ := query.run_refines_listRun now records
  obtain ⟨hrun, htotals⟩ := hrefines hsortable
  have hresult :
      query.run now records = .ok ⟨[alsoThree, Record.empty], Page.summary ⟨2, 2⟩ 4⟩ := by
    rw [run_eq, listRun, hmatched]
    show Except.ok (QueryResult.mk (query.page.cut (query.arrange Record.sort _)) _) = _
    rw [harrange]
    rfl
  refine ⟨hsortable, hrun.symm.trans hresult, hresult, ?_⟩
  rw [htotals [] true ⟨2, 2⟩ hunsorted, hresult]
  rfl

end Query

end Sift
