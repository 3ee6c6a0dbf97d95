/-
# Stages

A stage gives records one at a time. It is built on another stage, down to a stage that has its
records from the beginning, and it changes its state with every call. Each stage must be started
before it gives records; starting it a second time does nothing. After an error a stage can be asked
for the next record again and goes on behind what the error was about.

That a stage cannot give records for ever belongs to its type: what it still can give shrinks with
every record, so draining it comes to an end.

Key definitions: `Stage`, `Stage.drain`, `Stage.collect`, `Stage.values`, `Stage.filter`,
`Stage.sort`, `Stage.limit`, `Stage.replies`.
-/
import Sift.Filter.Evaluation
import Sift.Record.Sort

namespace Sift

/-- Why a stage gives no record. -/
inductive StageError where
  | notStarted
  | evaluation (error : EvalError)
deriving DecidableEq

/-- A source of records. -/
structure Stage where
  State : Type
  /-- The state before the first call. -/
  fresh : State
  start : State → Except StageError Unit × State
  /-- The next record; none at the end. -/
  next : State → Except StageError (Option Record) × State
  /-- A bound on the number of records that are still to come. -/
  left : State → Nat
  left_next : ∀ {state record}, (next state).1 = .ok (some record) → left (next state).2 < left state

namespace Stage

theorem left_of_next (stage : Stage) {state after : stage.State} {record : Record}
    (h : stage.next state = (.ok (some record), after)) : stage.left after < stage.left state := by
  simpa [h] using @Stage.left_next stage state record (by rw [h])

/-- All records that are still to come, up to the first error. -/
def drain (stage : Stage) (state : stage.State) : Except StageError (List Record) × stage.State :=
  match _ : stage.next state with
  | (.error e, after) => (.error e, after)
  | (.ok none, after) => (.ok [], after)
  | (.ok (some record), after) =>
    match stage.drain after with
    | (.error e, last) => (.error e, last)
    | (.ok records, last) => (.ok (record :: records), last)
termination_by stage.left state
decreasing_by exact stage.left_of_next ‹_›

/-- Starts a stage and takes all its records. -/
def collect (stage : Stage) (state : stage.State) : Except StageError (List Record) × stage.State :=
  match stage.start state with
  | (.error e, after) => (.error e, after)
  | (.ok (), after) => stage.drain after

/-- The records of a fresh stage. -/
def toList (stage : Stage) : Except StageError (List Record) :=
  (stage.collect stage.fresh).1

/-! ### Starting -/

/-- A state and whether the stage is started. -/
structure Guarded (σ : Type) where
  isStarted : Bool
  state : σ

/-- A stage that gives nothing before it is started. It is started once the stage in it has started
without an error, and from then on starting it does nothing. -/
def guarded (stage : Stage) : Stage where
  State := Guarded stage.State
  fresh := ⟨false, stage.fresh⟩
  start guarded :=
    if guarded.isStarted then (.ok (), guarded)
    else
      match stage.start guarded.state with
      | (.error e, after) => (.error e, ⟨false, after⟩)
      | (.ok (), after) => (.ok (), ⟨true, after⟩)
  next guarded :=
    if guarded.isStarted then
      let (result, after) := stage.next guarded.state
      (result, ⟨true, after⟩)
    else (.error .notStarted, guarded)
  left guarded := stage.left guarded.state
  left_next := by
    intro guarded record h
    cases hs : guarded.isStarted
    · simp [hs] at h
    · simp only [hs, ↓reduceIte] at h ⊢
      exact stage.left_next h

/-! ### The kinds of stages -/

/-- Takes the first record of a list. -/
def takeFirst : List Record → Except StageError (Option Record) × List Record
  | [] => (.ok none, [])
  | record :: records => (.ok (some record), records)

theorem length_takeFirst {records : List Record} {record : Record}
    (h : (takeFirst records).1 = .ok (some record)) :
    (takeFirst records).2.length < records.length := by
  cases records with
  | nil => simp [takeFirst] at h
  | cons => simp [takeFirst]

/-- The stage that gives the records of a list. -/
def values (records : List Record) : Stage :=
  guarded {
    State := List Record
    fresh := records
    start := fun records => (.ok (), records)
    next := takeFirst
    left := List.length
    left_next := length_takeFirst }

/-- The next record of a stage that satisfies a filter; the records before it are passed over. -/
def nextMatch (child : Stage) (condition : Filter) (state : child.State) :
    Except StageError (Option Record) × child.State :=
  match _ : child.next state with
  | (.error e, after) => (.error e, after)
  | (.ok none, after) => (.ok none, after)
  | (.ok (some record), after) =>
    match condition.evaluate record with
    | .error e => (.error (.evaluation e), after)
    | .ok true => (.ok (some record), after)
    | .ok false => nextMatch child condition after
termination_by child.left state
decreasing_by exact child.left_of_next ‹_›

theorem left_nextMatch {child : Stage} {condition : Filter} {state : child.State} {record : Record}
    (h : (nextMatch child condition state).1 = .ok (some record)) :
    child.left (nextMatch child condition state).2 < child.left state := by
  fun_induction nextMatch child condition state with
  | case1 => simp at h
  | case2 => simp at h
  | case3 => simp at h
  | case4 state record after hnext => exact child.left_of_next hnext
  | case5 state record after hnext _ ih => exact Nat.lt_trans (ih h) (child.left_of_next hnext)

/-- The stage that passes on the records that satisfy a filter. -/
def filter (condition : Filter) (child : Stage) : Stage :=
  guarded {
    State := child.State
    fresh := child.fresh
    start := child.start
    next := nextMatch child condition
    left := child.left
    left_next := left_nextMatch }

/-- A stage that is drained when it starts, and its records in order. -/
structure Sorted (σ : Type) where
  child : σ
  records : List Record

/-- The stage that sorts the records of another one. -/
def sort (criteria : List Criterion) (child : Stage) : Stage :=
  guarded {
    State := Sorted child.State
    fresh := ⟨child.fresh, []⟩
    start := fun state =>
      match child.collect state.child with
      | (.error e, after) => (.error e, ⟨after, []⟩)
      | (.ok records, after) => (.ok (), ⟨after, Record.sort criteria records⟩)
    next := fun state =>
      let (result, records) := takeFirst state.records
      (result, ⟨state.child, records⟩)
    left := fun state => state.records.length
    left_next := length_takeFirst }

/-- A stage, how many of its records are still to be passed over, and how many may still be given;
none for any number. -/
structure Limited (σ : Type) where
  child : σ
  toSkip : Nat
  room : Option Nat

/-- Passes over the records of a stage that are to be skipped: whether there were enough of them. -/
def passOver (child : Stage) : Nat → child.State → Except StageError Bool × Nat × child.State
  | 0, state => (.ok true, 0, state)
  | count + 1, state =>
    match child.next state with
    | (.error e, after) => (.error e, count + 1, after)
    | (.ok none, after) => (.ok false, count + 1, after)
    | (.ok (some _), after) => passOver child count after

theorem left_passOver {child : Stage} : ∀ {count : Nat} {state : child.State},
    (passOver child count state).1 = .ok true →
      child.left (passOver child count state).2.2 ≤ child.left state
  | 0, _, _ => Nat.le_refl _
  | count + 1, state, h => by
    rw [passOver] at h ⊢
    split at h
    next => simp at h
    next => simp at h
    next after hnext =>
      exact Nat.le_of_lt (Nat.lt_of_le_of_lt (left_passOver h) (child.left_of_next hnext))

/-- The next record after those that are skipped, as long as there is room. -/
def nextWithin (child : Stage) (state : Limited child.State) :
    Except StageError (Option Record) × Limited child.State :=
  if state.room = some 0 then (.ok none, state)
  else
    match passOver child state.toSkip state.child with
    | (.error e, toSkip, after) => (.error e, ⟨after, toSkip, state.room⟩)
    | (.ok false, toSkip, after) => (.ok none, ⟨after, toSkip, state.room⟩)
    | (.ok true, toSkip, after) =>
      match child.next after with
      | (.error e, last) => (.error e, ⟨last, toSkip, state.room⟩)
      | (.ok none, last) => (.ok none, ⟨last, toSkip, state.room⟩)
      | (.ok (some record), last) =>
        (.ok (some record), ⟨last, toSkip, state.room.map (· - 1)⟩)

theorem left_nextWithin {child : Stage} {state : Limited child.State} {record : Record}
    (h : (nextWithin child state).1 = .ok (some record)) :
    child.left (nextWithin child state).2.child < child.left state.child := by
  unfold nextWithin at h ⊢
  split at h
  next => simp at h
  next hroom =>
    rw [if_neg hroom]
    split at h
    next => simp at h
    next => simp at h
    next hskip =>
      have hle := @left_passOver child state.toSkip state.child (by rw [hskip])
      rw [hskip] at hle
      split at h
      next => simp at h
      next => simp at h
      next hnext =>
        exact Nat.lt_of_lt_of_le (child.left_of_next hnext) hle

/-- The stage that passes over the first records of another one and gives at most so many of the
others; the limit zero stands for any number. -/
def limit (limit offset : Nat) (child : Stage) : Stage :=
  guarded {
    State := Limited child.State
    fresh := ⟨child.fresh, offset, if limit = 0 then none else some limit⟩
    start := fun state =>
      let (result, after) := child.start state.child
      (result, ⟨after, state.toSkip, state.room⟩)
    next := nextWithin child
    left := fun state => child.left state.child
    left_next := left_nextWithin }

/-! ### Calls in any order -/

/-- What a stage can be asked for. -/
inductive Call where
  | start
  | next
  | collect
deriving DecidableEq

/-- What a stage gives for a call. -/
inductive Reply where
  | started
  | record (record : Record)
  | ended
  | records (records : List Record)
  | failed (error : StageError)

/-- The reply to a call. -/
def reply (stage : Stage) (state : stage.State) : Call → Reply × stage.State
  | .start =>
    match stage.start state with
    | (.error e, after) => (.failed e, after)
    | (.ok (), after) => (.started, after)
  | .next =>
    match stage.next state with
    | (.error e, after) => (.failed e, after)
    | (.ok none, after) => (.ended, after)
    | (.ok (some record), after) => (.record record, after)
  | .collect =>
    match stage.collect state with
    | (.error e, after) => (.failed e, after)
    | (.ok records, after) => (.records records, after)

theorem reply_start_snd (stage : Stage) (state : stage.State) :
    (stage.reply state .start).2 = (stage.start state).2 := by
  unfold reply
  rcases stage.start state with ⟨_ | _, after⟩ <;> rfl

theorem reply_next_snd (stage : Stage) (state : stage.State) :
    (stage.reply state .next).2 = (stage.next state).2 := by
  unfold reply
  rcases stage.next state with ⟨_ | _ | _, after⟩ <;> rfl

theorem reply_collect_snd (stage : Stage) (state : stage.State) :
    (stage.reply state .collect).2 = (stage.collect state).2 := by
  unfold reply
  rcases stage.collect state with ⟨_ | _, after⟩ <;> rfl

/-- The replies to calls one after another. -/
def repliesFrom (stage : Stage) (state : stage.State) : List Call → List Reply
  | [] => []
  | call :: calls =>
    let (reply, after) := stage.reply state call
    reply :: stage.repliesFrom after calls

/-- The replies of a fresh stage. -/
def replies (stage : Stage) (calls : List Call) : List Reply :=
  stage.repliesFrom stage.fresh calls

end Stage

end Sift
