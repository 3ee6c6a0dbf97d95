/-
# What a started stage gives

A started stage gives events one after another: records, and errors of filters behind which it goes
on. After the last event it gives nothing, however often it is asked. The stages that are built on
another one make their events out of the events of that stage; a sort is the only one that needs them
all, and it needs them when it starts.

Key definitions: `Event`, `Stage.Ended`, `Stage.Gives`, `filterEvents`, `limitEvents`, `allRecords`.
Key theorems: `Stage.drain_of_gives`, `Stage.gives_values`, `Stage.gives_filter`,
`Stage.gives_limit`, `Stage.gives_sort`.
-/
import Sift.Stage

namespace Sift

/-- What a started stage gives: a record, or the error of a filter on one. -/
abbrev Event := Except EvalError Record

/-- The answer to a call for the next record that is an event. -/
def Event.answer : Event → Except StageError (Option Record)
  | .ok record => .ok (some record)
  | .error e => .error (.evaluation e)

/-- The records of some events, or the first error among them. -/
def allRecords : List Event → Except EvalError (List Record)
  | [] => .ok []
  | .error e :: _ => .error e
  | .ok record :: events => do
    let records ← allRecords events
    return record :: records

/-- The events behind a filter. -/
def filterEvents (condition : Filter) : List Event → List Event
  | [] => []
  | .error e :: events => .error e :: filterEvents condition events
  | .ok record :: events =>
    match condition.evaluate record with
    | .error e => .error e :: filterEvents condition events
    | .ok true => .ok record :: filterEvents condition events
    | .ok false => filterEvents condition events

/-- The events behind a limit that is still to pass over some records and has still room for others;
none for any number. -/
def limitEvents (toSkip : Nat) (room : Option Nat) : List Event → List Event
  | [] => []
  | event :: events =>
    if room = some 0 then []
    else
      match event, toSkip with
      | .error e, toSkip => .error e :: limitEvents toSkip room events
      | .ok _, toSkip + 1 => limitEvents toSkip room events
      | .ok record, 0 => .ok record :: limitEvents 0 (room.map (· - 1)) events

namespace Stage

variable {stage child : Stage}

/-- The state after so many calls for the next record. -/
def after (stage : Stage) : Nat → stage.State → stage.State
  | 0, state => state
  | count + 1, state => stage.after count (stage.next state).2

/-- Whether a stage has nothing more to give. -/
def Ended (stage : Stage) (state : stage.State) : Prop :=
  ∀ count, (stage.next (stage.after count state)).1 = .ok none

/-- Whether a stage gives some events one after another and then nothing. -/
def Gives (stage : Stage) : stage.State → List Event → Prop
  | state, [] => stage.Ended state
  | state, event :: events =>
    (stage.next state).1 = event.answer ∧ stage.Gives (stage.next state).2 events

/-! ### Ends and events -/

theorem Ended.exists_next {state : stage.State} (h : stage.Ended state) :
    ∃ after, stage.next state = (.ok none, after) ∧ stage.Ended after :=
  ⟨(stage.next state).2, Prod.ext (h 0) rfl, fun count => h (count + 1)⟩

theorem Gives.exists_next {state : stage.State} {event : Event} {events : List Event}
    (h : stage.Gives state (event :: events)) :
    ∃ after, stage.next state = (event.answer, after) ∧ stage.Gives after events :=
  ⟨(stage.next state).2, Prod.ext h.1 rfl, h.2⟩

theorem gives_cons {state after : stage.State} {event : Event} {events : List Event}
    (hnext : stage.next state = (event.answer, after)) (h : stage.Gives after events) :
    stage.Gives state (event :: events) := by
  unfold Gives
  rw [hnext]
  exact ⟨rfl, h⟩

/-- A stage has nothing more to give in the states of a set that it does not leave. -/
theorem ended_of_invariant (invariant : stage.State → Prop)
    (hstep : ∀ state, invariant state →
      ∃ after, stage.next state = (.ok none, after) ∧ invariant after)
    {state : stage.State} (h : invariant state) : stage.Ended state := by
  intro count
  obtain ⟨after, hnext, hafter⟩ := hstep state h
  induction count generalizing state after with
  | zero => rw [Stage.after, hnext]
  | succ count ih =>
    rw [Stage.after, hnext]
    obtain ⟨last, hlast, hinvariant⟩ := hstep after hafter
    exact ih hafter last hlast hinvariant

/-- What a stage gives depends on what its next call does. -/
theorem Gives.congr {state state' : stage.State} {events : List Event}
    (hnext : stage.next state = stage.next state') (h : stage.Gives state' events) :
    stage.Gives state events := by
  cases events with
  | nil =>
    intro count
    cases count with
    | zero => exact hnext ▸ h 0
    | succ count =>
      have hcount := h (count + 1)
      unfold Stage.after at hcount ⊢
      rwa [hnext]
  | cons event events =>
    unfold Gives at h ⊢
    rwa [hnext]

theorem drain_of_error {state after : stage.State} {e : StageError}
    (h : stage.next state = (.error e, after)) : stage.drain state = (.error e, after) := by
  rw [drain]
  split
  next hnext =>
    rw [h] at hnext
    cases hnext
    rfl
  next hnext => cases h.symm.trans hnext
  next hnext => cases h.symm.trans hnext

theorem drain_of_end {state after : stage.State} (h : stage.next state = (.ok none, after)) :
    stage.drain state = (.ok [], after) := by
  rw [drain]
  split
  next hnext => cases h.symm.trans hnext
  next hnext =>
    rw [h] at hnext
    cases hnext
    rfl
  next hnext => cases h.symm.trans hnext

theorem drain_of_record {state after : stage.State} {record : Record}
    (h : stage.next state = (.ok (some record), after)) :
    stage.drain state = ((stage.drain after).1.map (record :: ·), (stage.drain after).2) := by
  rw [drain]
  split
  next hnext => cases h.symm.trans hnext
  next hnext => cases h.symm.trans hnext
  next hnext =>
    rw [h] at hnext
    cases hnext
    rcases stage.drain after with ⟨_ | _, _⟩ <;> rfl

/-- A stage is drained of its records, up to the first error. -/
theorem drain_of_gives : ∀ {events : List Event} {state : stage.State}, stage.Gives state events →
    (stage.drain state).1 = (allRecords events).mapError .evaluation
  | [], state, h => by
    obtain ⟨after, hnext, -⟩ := Ended.exists_next h
    rw [drain_of_end hnext]
    rfl
  | .error e :: events, state, h => by
    obtain ⟨after, hnext, -⟩ := h.exists_next
    rw [drain_of_error hnext]
    rfl
  | .ok record :: events, state, h => by
    obtain ⟨after, hnext, hmore⟩ := h.exists_next
    have hall : allRecords (.ok record :: events) = (allRecords events).map (record :: ·) := rfl
    rw [drain_of_record hnext, drain_of_gives hmore, hall]
    cases allRecords events <;> rfl

/-! ### Lists and filters -/

/-- A list gives its records. -/
theorem gives_values {source : List Record} : ∀ records : List Record,
    (values source).Gives (⟨true, records⟩ : Guarded (List Record)) (records.map .ok)
  | [] => ended_of_invariant (· = (⟨true, []⟩ : Guarded (List Record)))
      (by rintro _ rfl; exact ⟨_, rfl, rfl⟩) rfl
  | record :: records => ⟨rfl, gives_values records⟩

theorem nextMatch_of_error (condition : Filter) {state after : child.State} {e : StageError}
    (h : child.next state = (.error e, after)) :
    nextMatch child condition state = (.error e, after) := by
  rw [nextMatch]
  split
  next hnext =>
    rw [h] at hnext
    cases hnext
    rfl
  next hnext => cases h.symm.trans hnext
  next hnext => cases h.symm.trans hnext

theorem nextMatch_of_end (condition : Filter) {state after : child.State}
    (h : child.next state = (.ok none, after)) :
    nextMatch child condition state = (.ok none, after) := by
  rw [nextMatch]
  split
  next hnext => cases h.symm.trans hnext
  next hnext =>
    rw [h] at hnext
    cases hnext
    rfl
  next hnext => cases h.symm.trans hnext

theorem nextMatch_of_record (condition : Filter) {state after : child.State} {record : Record}
    (h : child.next state = (.ok (some record), after)) :
    nextMatch child condition state =
      match condition.evaluate record with
      | .error e => (.error (.evaluation e), after)
      | .ok true => (.ok (some record), after)
      | .ok false => nextMatch child condition after := by
  rw [nextMatch]
  split
  next hnext => cases h.symm.trans hnext
  next hnext => cases h.symm.trans hnext
  next hnext =>
    rw [h] at hnext
    cases hnext
    rcases condition.evaluate record with _ | _ | _ <;> rfl

theorem next_filter (condition : Filter) (child : Stage) (state : child.State) :
    (filter condition child).next (⟨true, state⟩ : Guarded child.State) =
      ((nextMatch child condition state).1, ⟨true, (nextMatch child condition state).2⟩) := rfl

/-- A filter gives the events of its child that it does not remove. -/
theorem gives_filter (condition : Filter) : ∀ {events : List Event} {state : child.State},
    child.Gives state events →
    (filter condition child).Gives (⟨true, state⟩ : Guarded child.State)
      (filterEvents condition events)
  | [], state, h => by
    show (filter condition child).Ended (⟨true, state⟩ : Guarded child.State)
    refine ended_of_invariant (fun guarded : Guarded child.State =>
      guarded.isStarted = true ∧ child.Ended guarded.state) ?_ ⟨rfl, h⟩
    rintro ⟨_, state⟩ ⟨rfl, h⟩
    obtain ⟨after, hnext, hended⟩ := Ended.exists_next h
    refine ⟨⟨true, after⟩, ?_, rfl, hended⟩
    rw [next_filter, nextMatch_of_end condition hnext]
  | .error e :: events, state, h => by
    obtain ⟨after, hnext, hmore⟩ := h.exists_next
    refine gives_cons ?_ (gives_filter condition hmore)
    rw [next_filter, nextMatch_of_error condition hnext]
    rfl
  | .ok record :: events, state, h => by
    obtain ⟨after, hnext, hmore⟩ := h.exists_next
    have ih := gives_filter condition hmore
    have hmatch := nextMatch_of_record condition hnext
    unfold filterEvents
    rcases hevaluate : condition.evaluate record with e | _ | _ <;> rw [hevaluate] at hmatch
    · exact gives_cons (by rw [next_filter, hmatch]; rfl) ih
    · exact Gives.congr (by rw [next_filter, hmatch, next_filter]) ih
    · exact gives_cons (by rw [next_filter, hmatch]; rfl) ih

/-! ### Sorts and limits -/

/-- A sort gives the records that it has taken from its child. -/
theorem gives_sort (criteria : List Criterion) (child : Stage) (state : child.State) :
    ∀ records : List Record,
      (sort criteria child).Gives (⟨true, ⟨state, records⟩⟩ : Guarded (Sorted child.State))
        (records.map .ok)
  | [] => ended_of_invariant (· = (⟨true, ⟨state, []⟩⟩ : Guarded (Sorted child.State)))
      (by rintro _ rfl; exact ⟨_, rfl, rfl⟩) rfl
  | _ :: records => ⟨rfl, gives_sort criteria child state records⟩

theorem next_limit (count offset : Nat) (child : Stage) (state : Limited child.State) :
    (limit count offset child).next (⟨true, state⟩ : Guarded (Limited child.State)) =
      ((nextWithin child state).1, ⟨true, (nextWithin child state).2⟩) := rfl

section Limit

variable {state after : child.State} {toSkip : Nat} {room : Option Nat}

theorem nextWithin_of_error {e : StageError} (hroom : room ≠ some 0)
    (hnext : child.next state = (.error e, after)) :
    nextWithin child ⟨state, toSkip, room⟩ = (.error e, ⟨after, toSkip, room⟩) := by
  rw [nextWithin, if_neg hroom]
  cases toSkip with
  | zero => dsimp only [passOver]; rw [hnext]
  | succ toSkip => dsimp only [passOver]; rw [hnext]

theorem nextWithin_of_end (hroom : room ≠ some 0) (hnext : child.next state = (.ok none, after)) :
    nextWithin child ⟨state, toSkip, room⟩ = (.ok none, ⟨after, toSkip, room⟩) := by
  rw [nextWithin, if_neg hroom]
  cases toSkip with
  | zero => dsimp only [passOver]; rw [hnext]
  | succ toSkip => dsimp only [passOver]; rw [hnext]

/-- A limit that passes over a record goes on as one that has a record less to pass over. -/
theorem nextWithin_of_skipped {record : Record} (hroom : room ≠ some 0)
    (hnext : child.next state = (.ok (some record), after)) :
    nextWithin child ⟨state, toSkip + 1, room⟩ = nextWithin child ⟨after, toSkip, room⟩ := by
  rw [nextWithin, nextWithin, if_neg hroom, if_neg hroom]
  dsimp only [passOver]
  rw [hnext]

theorem nextWithin_of_record {record : Record} (hroom : room ≠ some 0)
    (hnext : child.next state = (.ok (some record), after)) :
    nextWithin child ⟨state, 0, room⟩ = (.ok (some record), ⟨after, 0, room.map (· - 1)⟩) := by
  rw [nextWithin, if_neg hroom]
  dsimp only [passOver]
  rw [hnext]

/-- A limit without room gives nothing, and neither does one whose child has ended. -/
theorem ended_limit (count offset : Nat) (h : room = some 0 ∨ child.Ended state) :
    (limit count offset child).Ended
      (⟨true, state, toSkip, room⟩ : Guarded (Limited child.State)) := by
  refine ended_of_invariant (fun guarded : Guarded (Limited child.State) =>
    guarded.isStarted = true ∧
      (guarded.state.room = some 0 ∨ child.Ended guarded.state.child)) ?_ ⟨rfl, h⟩
  rintro ⟨_, state, toSkip, room⟩ ⟨rfl, h⟩
  by_cases hroom : room = some 0
  · refine ⟨⟨true, state, toSkip, room⟩, ?_, rfl, .inl hroom⟩
    rw [next_limit, nextWithin, if_pos hroom]
  · obtain ⟨after, hnext, hended⟩ := Ended.exists_next (h.resolve_left hroom)
    refine ⟨⟨true, after, toSkip, room⟩, ?_, rfl, .inr hended⟩
    rw [next_limit, nextWithin_of_end hroom hnext]

end Limit

/-- A limit gives the events of its child behind the records that it passes over, as long as it has
room. -/
theorem gives_limit (count offset : Nat) : ∀ {events : List Event} {state : child.State}
    (toSkip : Nat) (room : Option Nat), child.Gives state events →
    (limit count offset child).Gives (⟨true, state, toSkip, room⟩ : Guarded (Limited child.State))
      (limitEvents toSkip room events)
  | [], state, toSkip, room, h => ended_limit count offset (.inr h)
  | event :: events, state, toSkip, room, h => by
    unfold limitEvents
    by_cases hroom : room = some 0
    · rw [if_pos hroom]
      exact ended_limit count offset (.inl hroom)
    rw [if_neg hroom]
    obtain ⟨after, hnext, hmore⟩ := h.exists_next
    have ih := fun toSkip room => gives_limit count offset toSkip room hmore
    rcases event with e | record
    · exact gives_cons (by rw [next_limit, nextWithin_of_error hroom hnext]; rfl) (ih toSkip room)
    · cases toSkip with
      | zero =>
        refine gives_cons ?_ (ih 0 (room.map (· - 1)))
        rw [next_limit, nextWithin_of_record hroom hnext]
        rfl
      | succ toSkip =>
        refine Gives.congr ?_ (ih toSkip room)
        rw [next_limit, next_limit, nextWithin_of_skipped hroom hnext]

end Stage

end Sift
