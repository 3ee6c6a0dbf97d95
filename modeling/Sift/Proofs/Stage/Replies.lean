/-
# What a plan replies

A fresh stage that is started and then asked for one record after another replies with the events of
its plan, in their order, and with its end from then on; collecting it gives the records of its events,
or the first error among them. Only a sort keeps a plan from starting: one with an error among the
events of its child. There is at most one such sort in a plan, because a plan that is built on it has
no events, and the first error of its child is the reply to every attempt to start.

The events are those of a plan that sorts stably. So the order by the criteria of each sort must be
transitive on its records: where it is not, it does not say what a stable sort gives.

Key definitions: `Plan.nodes`, `Plan.Sortable`, `Plan.SortFails`, `Event.reply`.
Key theorems: `Plan.events_sort_eq`, `Plan.events_eq_error_iff`, `Stage.repliesFrom_replicate_next`,
`Plan.replies_of_fresh`.
-/
import Sift.Proofs.Record.Order
import Sift.Proofs.Stage.Denotation

namespace Sift

namespace Plan

/-- A plan and the plans that it is built on, from the outermost one. -/
def nodes : Plan → List Plan
  | values records => [values records]
  | filter condition child => filter condition child :: child.nodes
  | sort criteria child => sort criteria child :: child.nodes
  | limit count offset child => limit count offset child :: child.nodes

/-! ### Sorts whose order is certain -/

/-- Whether each sort in a plan that gets its records has criteria by which their order is
transitive. -/
def Sortable (plan : Plan) : Prop :=
  ∀ criteria child records, sort criteria child ∈ plan.nodes →
    (child.events Record.stableSort).bind allRecords = .ok records →
    TransitiveOn (Record.lexOrder criteria) records

theorem Sortable.of_nodes {plan child : Plan} (h : plan.Sortable)
    (hnodes : plan.nodes = plan :: child.nodes) : child.Sortable := by
  intro criteria child' records hmem
  exact h criteria child' records (by rw [hnodes]; exact List.mem_cons_of_mem _ hmem)

/-- Such a plan has the events of one that sorts stably. -/
theorem events_sort_eq : ∀ plan : Plan, plan.Sortable →
    plan.events Record.sort = plan.events Record.stableSort
  | values _, _ => rfl
  | filter condition child, h => by
    rw [events, events, events_sort_eq child (h.of_nodes rfl)]
  | sort criteria child, h => by
    rw [events, events, events_sort_eq child (h.of_nodes rfl)]
    cases hrecords : (child.events Record.stableSort).bind allRecords with
    | error e => rfl
    | ok records =>
      have hsort := Record.sort_eq_stableSort (h criteria child records List.mem_cons_self hrecords)
      exact congrArg (fun sorted => Except.ok (List.map Except.ok sorted)) hsort
  | limit count offset child, h => by
    rw [events, events, events_sort_eq child (h.of_nodes rfl)]

/-! ### Sorts that do not start -/

/-- Whether an error is the first one among the events of the child of a sort in a plan. -/
def SortFails (plan : Plan) (e : EvalError) : Prop :=
  ∃ criteria child events, sort criteria child ∈ plan.nodes ∧
    child.events Record.stableSort = .ok events ∧ allRecords events = .error e

theorem sortFails_of_nodes {plan child : Plan} {e : EvalError}
    (hnodes : plan.nodes = plan :: child.nodes)
    (hsort : ∀ criteria child', plan ≠ sort criteria child') :
    plan.SortFails e ↔ child.SortFails e := by
  unfold SortFails
  rw [hnodes]
  constructor
  · rintro ⟨criteria, child', events, hmem, hevents⟩
    rcases List.mem_cons.mp hmem with heq | hmem
    · exact absurd heq.symm (hsort criteria child')
    · exact ⟨criteria, child', events, hmem, hevents⟩
  · rintro ⟨criteria, child', events, hmem, hevents⟩
    exact ⟨criteria, child', events, List.mem_cons_of_mem _ hmem, hevents⟩

theorem sortFails_sort {criteria : List Criterion} {child : Plan} {e : EvalError} :
    (sort criteria child).SortFails e ↔ child.SortFails e ∨
      ∃ events, child.events Record.stableSort = .ok events ∧ allRecords events = .error e := by
  constructor
  · rintro ⟨criteria', child', events, hmem, hevents⟩
    rcases List.mem_cons.mp hmem with heq | hmem
    · obtain ⟨-, rfl⟩ := sort.inj heq
      exact .inr ⟨events, hevents⟩
    · exact .inl ⟨criteria', child', events, hmem, hevents⟩
  · rintro (⟨criteria', child', events, hmem, hevents⟩ | ⟨events, hevents⟩)
    · exact ⟨criteria', child', events, List.mem_cons_of_mem _ hmem, hevents⟩
    · exact ⟨criteria, child, events, List.mem_cons_self, hevents⟩

theorem map_eq_error_iff {ε α β : Type} {x : Except ε α} {f : α → β} {e : ε} :
    x.map f = .error e ↔ x = .error e := by
  cases x <;> simp [Except.map]

theorem bind_eq_error_iff {ε α β : Type} {x : Except ε α} {f : α → Except ε β} {e : ε} :
    x.bind f = .error e ↔ x = .error e ∨ ∃ a, x = .ok a ∧ f a = .error e := by
  cases x <;> simp [Except.bind]

/-- A plan has no events exactly when a sort in it fails, and then with the error of that sort. -/
theorem events_eq_error_iff {e : EvalError} : ∀ plan : Plan,
    plan.events Record.stableSort = .error e ↔ plan.SortFails e
  | values records => by
    refine ⟨nofun, ?_⟩
    rintro ⟨criteria, child, events, hmem, -⟩
    cases List.mem_singleton.mp hmem
  | filter condition child => by
    have hchild : (filter condition child).SortFails e ↔ child.SortFails e :=
      sortFails_of_nodes rfl fun _ _ => nofun
    rw [hchild, events, map_eq_error_iff, events_eq_error_iff child]
  | sort criteria child => by
    rw [events, map_eq_error_iff, bind_eq_error_iff, events_eq_error_iff child, sortFails_sort]
  | limit count offset child => by
    have hchild : (limit count offset child).SortFails e ↔ child.SortFails e :=
      sortFails_of_nodes rfl fun _ _ => nofun
    rw [hchild, events, map_eq_error_iff, events_eq_error_iff child]

end Plan

/-! ### Replies -/

/-- The reply to a call for the next record that is an event. -/
def Event.reply : Event → Stage.Reply
  | .ok record => .record record
  | .error e => .failed (.evaluation e)

namespace Stage

theorem reply_next_of_event {stage : Stage} {state after : stage.State} {event : Event}
    (h : stage.next state = (event.answer, after)) :
    stage.reply state .next = (event.reply, after) := by
  unfold reply
  rw [h]
  cases event <;> rfl

theorem reply_next_of_end {stage : Stage} {state after : stage.State}
    (h : stage.next state = (.ok none, after)) : stage.reply state .next = (.ended, after) := by
  unfold reply
  rw [h]

/-- A stage replies to calls for the next record with its events, and then with its end. -/
theorem repliesFrom_replicate_next {stage : Stage} (count : Nat) : ∀ {events : List Event}
    {state : stage.State}, stage.Gives state events →
    stage.repliesFrom state (List.replicate count .next) =
      (List.range count).map fun i => (events[i]?).elim .ended Event.reply := by
  induction count with
  | zero => exact fun _ => rfl
  | succ count ih =>
    intro events state h
    rw [List.replicate_succ, repliesFrom, List.range_succ_eq_map, List.map_cons, List.map_map]
    cases events with
    | nil =>
      obtain ⟨after, hnext, hended⟩ := Ended.exists_next h
      have hmore : stage.Gives after [] := hended
      rw [reply_next_of_end hnext]
      dsimp only
      rw [ih hmore]
      rfl
    | cons event events =>
      obtain ⟨after, hnext, hmore⟩ := h.exists_next
      rw [reply_next_of_event hnext]
      dsimp only
      rw [ih hmore]
      rfl

/-- A fresh stage that fails to start replies with the error, also when it is to be collected. -/
theorem replies_of_starts_error {stage : Stage} {e : EvalError} (h : stage.Starts (.error e)) :
    stage.replies [.start] = [.failed (.evaluation e)] ∧
      stage.replies [.collect] = [.failed (.evaluation e)] := by
  obtain ⟨after, hstart⟩ := h
  constructor
  · simp only [replies, repliesFrom, reply, hstart]
  · simp only [replies, repliesFrom, reply, collect, hstart]

/-- A fresh stage that starts gives its events one by one. -/
theorem replies_of_starts_ok {stage : Stage} {events : List Event} (h : stage.Starts (.ok events))
    (count : Nat) :
    stage.replies (.start :: List.replicate count .next) =
      .started :: (List.range count).map fun i => (events[i]?).elim .ended Event.reply := by
  obtain ⟨after, hstart, hgives⟩ := h
  simp only [replies, repliesFrom, reply, hstart, repliesFrom_replicate_next count hgives]

/-- A fresh stage that starts is collected to the records of its events. -/
theorem replies_collect_of_starts_ok {stage : Stage} {events : List Event}
    (h : stage.Starts (.ok events)) :
    stage.replies [.collect] =
      [match allRecords events with
      | .ok records => .records records
      | .error e => .failed (.evaluation e)] := by
  obtain ⟨after, hstart, hgives⟩ := h
  have hdrain := drain_of_gives hgives
  rcases hlast : stage.drain after with ⟨result, last⟩
  rw [hlast] at hdrain
  obtain rfl : result = (allRecords events).mapError .evaluation := hdrain
  simp only [replies, repliesFrom, reply, collect, hstart, hlast]
  cases allRecords events <;> rfl

end Stage

namespace Plan

/-- **Every plan replies with its events.** Let the order of each sort in a plan be transitive on its
records. If an error is among the events of the child of a sort, a fresh stage of the plan does not
start and the first such error is its reply. Otherwise the plan has events: the stage starts, replies
with them one after another and then with its end, and it is collected to their records, or else fails
with the first error among them. -/
theorem replies_of_fresh (plan : Plan) (h : plan.Sortable) :
    (∀ e, plan.SortFails e →
      plan.stage.replies [.start] = [.failed (.evaluation e)] ∧
        plan.stage.replies [.collect] = [.failed (.evaluation e)]) ∧
    ((∀ e, ¬ plan.SortFails e) → ∃ events, plan.events Record.stableSort = .ok events ∧
      (∀ count, plan.stage.replies (.start :: List.replicate count .next) =
        .started :: (List.range count).map fun i => (events[i]?).elim .ended Event.reply) ∧
      plan.stage.replies [.collect] =
        [match allRecords events with
        | .ok records => .records records
        | .error e => .failed (.evaluation e)]) := by
  have hstarts := plan.starts
  rw [events_sort_eq plan h] at hstarts
  constructor
  · intro e hfails
    rw [(events_eq_error_iff plan).mpr hfails] at hstarts
    exact Stage.replies_of_starts_error hstarts
  · intro hfails
    cases hevents : plan.events Record.stableSort with
    | error e => exact absurd ((events_eq_error_iff plan).mp hevents) (hfails e)
    | ok events =>
      rw [hevents] at hstarts
      exact ⟨events, rfl, Stage.replies_of_starts_ok hstarts,
        Stage.replies_collect_of_starts_ok hstarts⟩

/-- Behind a filter that fails on a record, a limit goes on with the next record and a sort does not
start. A sort before a limit starts and leaves records in their order that are as great as each
other. -/
theorem replies_of_failing_filter :
    let record (n : Value) (a : String) := Record.ofList [("n", n), ("a", .string a)]
    let failing := Record.ofList [("a", .boolean true)]
    let one := record (.integer 1) "x"
    let two := record (.integer 2) "x"
    let alsoTwo := record (.float (.ofInt 2)) "x"
    let condition := Filter.compare "a" .eq (.string "x")
    let filtered := Plan.filter condition (.values [failing, one, two])
    let e := EvalError.unsupportedComparison (.boolean true) .eq (.string "x")
    let limited := Plan.limit 1 0 filtered
    let stopped := Plan.limit 1 0 (.sort [⟨"n", .descending⟩] filtered)
    let ordered := Plan.limit 2 1 (.sort [⟨"a", .ascending⟩, ⟨"n", .descending⟩]
      (.filter condition (.values [one, two, alsoTwo])))
    limited.Sortable ∧ (∀ e, ¬ limited.SortFails e) ∧
      limited.stage.replies [.start, .next, .next, .next, .next] =
        [.started, .failed (.evaluation e), .record one, .ended, .ended] ∧
      stopped.Sortable ∧ stopped.SortFails e ∧
      stopped.stage.replies [.start] = [.failed (.evaluation e)] ∧
      ordered.Sortable ∧ (∀ e, ¬ ordered.SortFails e) ∧
      ordered.stage.replies [.start, .next, .next, .next] =
        [.started, .record alsoTwo, .record one, .ended] := by
  intro record failing one two alsoTwo condition filtered e limited stopped ordered
  have hlimited : limited.Sortable := by
    intro criteria child records hmem
    simp [limited, filtered, nodes] at hmem
  have hlimited' : ∀ e, ¬ limited.SortFails e := by
    rintro e ⟨criteria, child, events, hmem, -⟩
    simp [limited, filtered, nodes] at hmem
  have hstopped : stopped.Sortable := by
    intro criteria child records hmem hrecords
    simp only [stopped, filtered, nodes, List.mem_cons, reduceCtorEq, sort.injEq, List.not_mem_nil,
      or_false, false_or] at hmem
    obtain ⟨rfl, rfl⟩ := hmem
    cases hrecords
  have hstopped' : stopped.SortFails e :=
    ⟨_, filtered, _, List.mem_cons_of_mem _ List.mem_cons_self, rfl, rfl⟩
  have hordered : ordered.Sortable := by
    intro criteria child records hmem hrecords
    simp only [ordered, nodes, List.mem_cons, reduceCtorEq, sort.injEq, List.not_mem_nil,
      or_false, false_or] at hmem
    obtain ⟨rfl, rfl⟩ := hmem
    obtain rfl : [one, two, alsoTwo] = records := Except.ok.inj hrecords
    decide +kernel
  have hsort : Record.sort [⟨"a", .ascending⟩, ⟨"n", .descending⟩] [one, two, alsoTwo] =
      [two, alsoTwo, one] := by
    decide +kernel
  have hlist : ordered.events Record.stableSort = .ok [.ok alsoTwo, .ok one] := by
    rw [← events_sort_eq ordered hordered]
    show Except.ok (limitEvents 1 (roomOf 2) ((Record.sort _ [one, two, alsoTwo]).map .ok)) = _
    rw [hsort]
    rfl
  have hordered' : ∀ e, ¬ ordered.SortFails e := by
    intro e hfails
    rw [(events_eq_error_iff ordered).mpr hfails] at hlist
    cases hlist
  have hlist' : limited.events Record.stableSort = .ok [.error e, .ok one] := rfl
  obtain ⟨events, hevents, hreplies, -⟩ := (replies_of_fresh ordered hordered).2 hordered'
  obtain ⟨events', hevents', hreplies', -⟩ := (replies_of_fresh limited hlimited).2 hlimited'
  obtain ⟨hstart, -⟩ := (replies_of_fresh stopped hstopped).1 e hstopped'
  obtain rfl : events = [.ok alsoTwo, .ok one] := Except.ok.inj (hevents.symm.trans hlist)
  obtain rfl : events' = [.error e, .ok one] := Except.ok.inj (hevents'.symm.trans hlist')
  exact ⟨hlimited, hlimited', hreplies' 4, hstopped, hstopped', hstart, hordered, hordered',
    hreplies 3⟩

end Plan

end Sift
