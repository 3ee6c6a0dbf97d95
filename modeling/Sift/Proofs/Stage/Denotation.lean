/-
# The events of a plan

What the stage of a plan gives can be read off the plan: a list gives its records, filters and limits
make their events out of those of their child, and a sort gives the records of its child in order,
arranged by some way of sorting. If an error is among the events of the child, the sort has none, and
neither has a plan on top of it: the stage does not start. The error is that of the innermost sort that
does not start.

Key definitions: `Plan.events`, `Stage.Starts`.
Key theorems: `Plan.starts`, `Plan.toList_eq`.
-/
import Sift.Plan
import Sift.Proofs.Stage.Stream

namespace Sift

/-- The number of records that a limit has room for. -/
def roomOf (count : Nat) : Option Nat :=
  if count = 0 then none else some count

/-- The events of a plan whose sorts arrange records in some way, or the error that keeps one of them
from starting. -/
def Plan.events (arrange : List Criterion → List Record → List Record) :
    Plan → Except EvalError (List Event)
  | values records => .ok (records.map .ok)
  | filter condition child => (child.events arrange).map (filterEvents condition)
  | sort criteria child =>
    ((child.events arrange).bind allRecords).map fun records => (arrange criteria records).map .ok
  | limit count offset child => (child.events arrange).map (limitEvents offset (roomOf count))

namespace Stage

/-- Whether a stage starts when it is fresh and then gives some events, or else fails with some
error. -/
def Starts (stage : Stage) : Except EvalError (List Event) → Prop
  | .ok events => ∃ after, stage.start stage.fresh = (.ok (), after) ∧ stage.Gives after events
  | .error e => ∃ after, stage.start stage.fresh = (.error (.evaluation e), after)

/-- The records of a fresh stage are those among its events. -/
theorem toList_of_starts {stage : Stage} {outcome : Except EvalError (List Event)}
    (h : stage.Starts outcome) :
    stage.toList = (outcome.bind allRecords).mapError .evaluation := by
  unfold toList collect
  cases outcome with
  | error e =>
    obtain ⟨after, hstart⟩ := h
    rw [hstart]
    rfl
  | ok events =>
    obtain ⟨after, hstart, hgives⟩ := h
    rw [hstart]
    exact drain_of_gives hgives

/-! ### Starting each kind of stage -/

theorem start_guarded_ok {stage : Stage} {after : stage.State}
    (h : stage.start stage.fresh = (.ok (), after)) :
    (guarded stage).start (guarded stage).fresh =
      (.ok (), (⟨true, after⟩ : Guarded stage.State)) := by
  dsimp only [guarded]
  rw [h]
  rfl

theorem start_guarded_error {stage : Stage} {after : stage.State} {e : StageError}
    (h : stage.start stage.fresh = (.error e, after)) :
    (guarded stage).start (guarded stage).fresh =
      (.error e, (⟨false, after⟩ : Guarded stage.State)) := by
  dsimp only [guarded]
  rw [h]
  rfl

theorem starts_values (records : List Record) : (values records).Starts (.ok (records.map .ok)) :=
  ⟨_, rfl, gives_values records⟩

theorem starts_filter (condition : Filter) {child : Stage}
    {outcome : Except EvalError (List Event)} (h : child.Starts outcome) :
    (filter condition child).Starts (outcome.map (filterEvents condition)) := by
  cases outcome with
  | error e =>
    obtain ⟨after, hstart⟩ := h
    exact ⟨_, start_guarded_error hstart⟩
  | ok events =>
    obtain ⟨after, hstart, hgives⟩ := h
    exact ⟨_, start_guarded_ok hstart, gives_filter condition hgives⟩

theorem starts_limit (count offset : Nat) {child : Stage}
    {outcome : Except EvalError (List Event)} (h : child.Starts outcome) :
    (limit count offset child).Starts (outcome.map (limitEvents offset (roomOf count))) := by
  cases outcome with
  | error e =>
    obtain ⟨after, hstart⟩ := h
    refine ⟨(⟨false, after, offset, roomOf count⟩ : Guarded (Limited child.State)),
      start_guarded_error ?_⟩
    show ((child.start child.fresh).1,
      (⟨(child.start child.fresh).2, offset, roomOf count⟩ : Limited child.State)) = _
    rw [hstart]
  | ok events =>
    obtain ⟨after, hstart, hgives⟩ := h
    refine ⟨(⟨true, after, offset, roomOf count⟩ : Guarded (Limited child.State)),
      start_guarded_ok ?_, gives_limit count offset offset (roomOf count) hgives⟩
    show ((child.start child.fresh).1,
      (⟨(child.start child.fresh).2, offset, roomOf count⟩ : Limited child.State)) = _
    rw [hstart]

/-- A sort fails to start if its child does and if an error is among the events of its child. -/
theorem starts_sort (criteria : List Criterion) {child : Stage}
    {outcome : Except EvalError (List Event)} (h : child.Starts outcome) :
    (sort criteria child).Starts
      ((outcome.bind allRecords).map fun records => (Record.sort criteria records).map .ok) := by
  have hlist := toList_of_starts h
  unfold toList at hlist
  rcases hcollect : child.collect child.fresh with ⟨result, after⟩
  rw [hcollect] at hlist
  obtain rfl : result = (outcome.bind allRecords).mapError .evaluation := hlist
  cases houtcome : outcome.bind allRecords with
  | error e =>
    rw [houtcome] at hcollect
    refine ⟨(⟨false, after, []⟩ : Guarded (Sorted child.State)), start_guarded_error ?_⟩
    dsimp only
    rw [hcollect]
    rfl
  | ok records =>
    rw [houtcome] at hcollect
    refine ⟨(⟨true, after, Record.sort criteria records⟩ : Guarded (Sorted child.State)),
      start_guarded_ok ?_, gives_sort criteria child after _⟩
    dsimp only
    rw [hcollect]
    rfl

end Stage

namespace Plan

/-- **A plan gives its events.** Its stage starts and gives them one after another, unless a sort in
the plan does not start. -/
theorem starts : ∀ plan : Plan, plan.stage.Starts (plan.events Record.sort)
  | values records => Stage.starts_values records
  | filter condition child => Stage.starts_filter condition child.starts
  | sort criteria child => Stage.starts_sort criteria child.starts
  | limit count offset child => Stage.starts_limit count offset child.starts

/-- The records of a plan are those among its events. -/
theorem toList_eq (plan : Plan) :
    plan.stage.toList = ((plan.events Record.sort).bind allRecords).mapError .evaluation :=
  Stage.toList_of_starts plan.starts

end Plan

end Sift
