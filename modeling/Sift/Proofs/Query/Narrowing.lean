/-
# Narrowing in stages

What two filters find together can be found in two stages: the second filter is run on what the first
one has found. The stages find the same records in the same order whenever the conjunction finds
anything. They can find more: the conjunction evaluates both filters on every record, also on one that
the first filter rejects, and there the second one may fail. That is the only difference.

Key definition: `Query.ofFilter`.
Key theorems: `Filter.select_and_eq_ok_iff`, `Query.run_ofFilter`, `Query.run_and_eq_ok_iff_stages`.
-/
import Sift.Proofs.Filter.Composition
import Sift.Proofs.Query.Paging

namespace Sift

/-! ### Lists -/

namespace Filter

section

variable {filter left right : Filter} {record : Record} {records kept : List Record}

theorem select_cons_of_error {e : EvalError} (h : filter.evaluate record = .error e) :
    filter.select (record :: records) = .error e := by
  rw [select, h]
  rfl

theorem select_cons_of_false (h : filter.evaluate record = .ok false) :
    filter.select (record :: records) = filter.select records := by
  rw [select, h]
  cases filter.select records <;> rfl

theorem select_cons_of_true (h : filter.evaluate record = .ok true) :
    filter.select (record :: records) = (filter.select records).map (record :: ·) := by
  rw [select, h]
  cases filter.select records <;> rfl

theorem evaluate_and_of_error {e : EvalError} (h : left.evaluate record = .error e) :
    (and left right).evaluate record = .error e := by
  rw [evaluate, h]
  rfl

theorem evaluate_and_of_ok {a : Bool} (h : left.evaluate record = .ok a) :
    (and left right).evaluate record = (right.evaluate record).map (a && ·) := by
  rw [evaluate, h]
  cases right.evaluate record <;> rfl

theorem map_eq_ok_iff {ε α β : Type} {x : Except ε α} {f : α → β} {b : β} :
    x.map f = .ok b ↔ ∃ a, x = .ok a ∧ f a = b := by
  cases x <;> simp [Except.map]

/-- A conjunction finds what its right side finds in what its left side finds, if the right side does
not fail on a record that the left side rejects. -/
theorem select_and_eq_ok_iff :
    (and left right).select records = .ok kept ↔
      (∃ first, left.select records = .ok first ∧ right.select first = .ok kept) ∧
        ∀ record ∈ records, left.evaluate record = .ok false →
          ∃ holds, right.evaluate record = .ok holds := by
  induction records generalizing kept with
  | nil =>
    refine ⟨fun h => ⟨⟨[], rfl, h⟩, fun _ hmem => absurd hmem List.not_mem_nil⟩, ?_⟩
    rintro ⟨⟨first, hfirst, hkept⟩, -⟩
    obtain rfl : [] = first := Except.ok.inj hfirst
    exact hkept
  | cons record records ih =>
    rw [List.forall_mem_cons]
    rcases hleft : left.evaluate record with e | _ | _
    · rw [select_cons_of_error (evaluate_and_of_error hleft), select_cons_of_error hleft]
      simp
    · -- the left side rejects the record, so that only the conjunction evaluates the right side on it
      have hand : (and left right).evaluate record = (right.evaluate record).map (false && ·) :=
        evaluate_and_of_ok hleft
      rw [select_cons_of_false hleft]
      rcases hright : right.evaluate record with e | b <;> rw [hright] at hand
      · rw [select_cons_of_error hand]
        simp
      · rw [select_cons_of_false hand, ih]
        simp
    · have hand : (and left right).evaluate record = (right.evaluate record).map (true && ·) :=
        evaluate_and_of_ok hleft
      have hstage : (∃ first, left.select (record :: records) = .ok first ∧
            right.select first = .ok kept) ↔
          ∃ first, left.select records = .ok first ∧ right.select (record :: first) = .ok kept := by
        rw [select_cons_of_true hleft]
        cases left.select records <;> simp [Except.map]
      rw [hstage]
      rcases hright : right.evaluate record with e | _ | _ <;> rw [hright] at hand
      · rw [select_cons_of_error hand]
        simp [select_cons_of_error hright]
      · rw [select_cons_of_false hand, ih]
        simp [select_cons_of_false hright]
      · simp only [select_cons_of_true hand, select_cons_of_true hright, map_eq_ok_iff, ih]
        constructor
        · rintro ⟨others, ⟨⟨first, hfirst, hothers⟩, hrejected⟩, rfl⟩
          exact ⟨⟨first, hfirst, others, hothers, rfl⟩, nofun, hrejected⟩
        · rintro ⟨⟨first, hfirst, others, hothers, rfl⟩, -, hrejected⟩
          exact ⟨others, ⟨⟨first, hfirst, hothers⟩, hrejected⟩, rfl⟩

end

end Filter

/-! ### Queries -/

namespace Query

/-- The query that has a filter and nothing else. -/
def ofFilter (text : String) : Query := { filter := some text }

variable {text text' : String} {filter filter' : Filter}

/-- A query that has a filter and nothing else finds the records that the filter selects. -/
theorem run_ofFilter (h : Filter.parse text = .ok filter) (now : Instant) (records : List Record) :
    (ofFilter text).run now records =
      ((filter.select records).map fun kept =>
        QueryResult.mk kept (Page.summary {} kept.length)).mapError .evaluation := by
  have hparse : (ofFilter text).filter.mapM Filter.parse = .ok (some filter) := by
    show some <$> Filter.parse text = _
    rw [h]
    rfl
  rw [run_eq, listRun, matched, hparse, filter.select_eq]
  show ((matching (some filter) records).mapError QueryError.evaluation).bind (fun matched =>
    .ok (QueryResult.mk (Page.cut ⟨0, 0⟩ matched) (Page.summary {} matched.length))) = _
  simp only [Page.cut_zero]
  cases matching (some filter) records <;> rfl

theorem run_ofFilter_eq_ok_iff (h : Filter.parse text = .ok filter) {now : Instant}
    {records : List Record} {result : QueryResult} :
    (ofFilter text).run now records = .ok result ↔
      ∃ kept, filter.select records = .ok kept ∧
        result = ⟨kept, Page.summary {} kept.length⟩ := by
  rw [run_ofFilter h]
  cases filter.select records with
  | error e =>
    show Except.error _ = Except.ok result ↔ _
    constructor
    · intro herror
      cases herror
    · rintro ⟨kept, hkept, -⟩
      cases hkept
  | ok kept =>
    show Except.ok _ = Except.ok result ↔ _
    rw [Except.ok.injEq]
    constructor
    · exact fun hresult => ⟨kept, rfl, hresult.symm⟩
    · rintro ⟨kept', hkept, hresult⟩
      rw [Except.ok.inj hkept, hresult]

/-- **Filtering in stages refines filtering by the conjunction.** Two texts that are read as filters
and have only spaces and tabs as outer white space are joined to the text of their conjunction. A query
with it finds something exactly when a query with the first text succeeds, a query with the second text
on the records of that result finds the same, and the second filter fails on no record that the first
one rejects. So whenever one of the stages fails, the conjunction fails too. -/
theorem run_and_eq_ok_iff_stages (h : Filter.parse text = .ok filter)
    (h' : Filter.parse text' = .ok filter') (hgaps : Text.OnlyGapsAround text.toList)
    (hgaps' : Text.OnlyGapsAround text'.toList) (now now' now'' : Instant) (records : List Record) :
    let whole := (ofFilter ("(" ++ text ++ ") AND (" ++ text' ++ ")")).run now records
    let staged : Except QueryError QueryResult := do
      let first ← (ofFilter text).run now' records
      (ofFilter text').run now'' first.records
    (∀ result, whole = .ok result ↔
      staged = .ok result ∧
        ∀ record ∈ records, filter.evaluate record = .ok false →
          ∃ holds, filter'.evaluate record = .ok holds) ∧
      ∀ e, staged = .error e → ∃ e', whole = .error e' := by
  intro whole staged
  have hparse := (Filter.parse_groups h h' hgaps hgaps').1
  have hstaged : ∀ result, staged = .ok result ↔
      ∃ first, (ofFilter text).run now' records = .ok first ∧
        (ofFilter text').run now'' first.records = .ok result := by
    intro result
    show Except.bind _ _ = _ ↔ _
    cases (ofFilter text).run now' records <;> simp [Except.bind]
  have hiff : ∀ result, whole = .ok result ↔
      staged = .ok result ∧
        ∀ record ∈ records, filter.evaluate record = .ok false →
          ∃ holds, filter'.evaluate record = .ok holds := by
    intro result
    rw [hstaged]
    simp only [whole, run_ofFilter_eq_ok_iff hparse, run_ofFilter_eq_ok_iff h,
      run_ofFilter_eq_ok_iff h', Filter.select_and_eq_ok_iff]
    constructor
    · rintro ⟨kept, ⟨⟨first, hfirst, hkept⟩, hrejected⟩, rfl⟩
      exact ⟨⟨_, ⟨first, hfirst, rfl⟩, kept, hkept, rfl⟩, hrejected⟩
    · rintro ⟨⟨_, ⟨first, hfirst, rfl⟩, kept, hkept, rfl⟩, hrejected⟩
      exact ⟨kept, ⟨⟨first, hfirst, hkept⟩, hrejected⟩, rfl⟩
  refine ⟨hiff, fun e he => ?_⟩
  cases hwhole : whole with
  | error e' => exact ⟨e', rfl⟩
  | ok result => exact absurd (he.symm.trans ((hiff result).mp hwhole).1) nofun

/-- The second filter fails on a record that the first one rejects: the stages find the other record
and the conjunction finds nothing, except in a list without the rejected one. -/
theorem run_and_with_failing_rejected_record :
    let text := " a=1"
    let text' := "b=1\t"
    let filter := Filter.compare "a" .eq (.integer 1)
    let filter' := Filter.compare "b" .eq (.integer 1)
    let kept := Record.ofList [("a", .integer 1), ("b", .integer 1)]
    let rejected := Record.ofList [("a", .integer 2), ("b", .boolean true)]
    let now : Instant := ⟨0, 0⟩
    let whole (records : List Record) :=
      (ofFilter ("(" ++ text ++ ") AND (" ++ text' ++ ")")).run now records
    let staged (records : List Record) : Except QueryError QueryResult := do
      let first ← (ofFilter text).run now records
      (ofFilter text').run now first.records
    Filter.parse text = .ok filter ∧ Filter.parse text' = .ok filter' ∧
      Text.OnlyGapsAround text.toList ∧ Text.OnlyGapsAround text'.toList ∧
      staged [kept, rejected] = .ok ⟨[kept], Page.summary {} 1⟩ ∧
      (∀ result, whole [kept, rejected] ≠ .ok result) ∧
      whole [kept] = .ok ⟨[kept], Page.summary {} 1⟩ := by
  intro text text' filter filter' kept rejected now whole staged
  have hparse : Filter.parse text = .ok filter := Filter.parse_eq_one (by decide) (by decide)
  have hparse' : Filter.parse text' = .ok filter' := Filter.parse_eq_one (by decide) (by decide)
  have hgaps : Text.OnlyGapsAround text.toList := by decide
  have hgaps' : Text.OnlyGapsAround text'.toList := by decide
  have hkept (field : String) (h : kept.get? field = some (.integer 1)) :
      (Filter.compare field .eq (.integer 1)).evaluate kept = .ok true := by
    have hone : (Value.integer 1).compare? .eq (.integer 1) = some true := by decide +kernel
    simp only [Filter.evaluate, Filter.onField, h, Filter.compareValues, hone]
  have hrejected : filter.evaluate rejected = .ok false := by
    have htwo : (Value.integer 2).compare? .eq (.integer 1) = some false := by decide +kernel
    have hfield : rejected.get? "a" = some (.integer 2) := rfl
    simp only [filter, Filter.evaluate, Filter.onField, hfield, Filter.compareValues, htwo]
  have hstaged (records : List Record) (h : filter.select records = .ok [kept]) :
      staged records = .ok ⟨[kept], Page.summary {} 1⟩ := by
    simp only [staged, run_ofFilter hparse, h]
    show (ofFilter text').run now [kept] = _
    rw [run_ofFilter hparse', Filter.select_cons_of_true (hkept "b" rfl)]
    rfl
  have hstages := run_and_eq_ok_iff_stages hparse hparse' hgaps hgaps' now now now
  refine ⟨hparse, hparse', hgaps, hgaps', hstaged _ ?_, fun result hwhole => ?_, ?_⟩
  · rw [Filter.select_cons_of_true (hkept "a" rfl), Filter.select_cons_of_false hrejected]
    rfl
  · obtain ⟨-, hholds⟩ := ((hstages [kept, rejected]).1 result).mp hwhole
    obtain ⟨holds, hfails⟩ := hholds rejected (by simp) hrejected
    have herror : filter'.evaluate rejected =
        .error (.unsupportedComparison (.boolean true) .eq (.integer 1)) := rfl
    rw [herror] at hfails
    cases hfails
  · refine ((hstages [kept]).1 _).mpr ⟨hstaged _ ?_, fun record hmem hfalse => ?_⟩
    · rw [Filter.select_cons_of_true (hkept "a" rfl)]
      rfl
    · rw [List.mem_singleton.mp hmem, hkept "a" rfl] at hfalse
      cases hfalse

end Query

end Sift
