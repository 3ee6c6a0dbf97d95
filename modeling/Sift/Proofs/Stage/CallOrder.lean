/-
# Calls in any order

A stage can be asked for records before it is started, started twice and collected after its end.
None of that has an effect on the other replies. Before the stage is started a call for the next
record fails and leaves the stage as it is, and so does a second start afterwards, except that it
succeeds. Behind the end of a stage there is nothing more to be had from it.

A start need not be visible in the replies: a call to collect a stage may start it and then fail on a
record.

Key definitions: `Stage.StartedBy`, `Stage.Settles`, `Stage.Reply.IsEnd`, `Stage.Call.replyAtEnd`.
Key theorems: `Stage.repliesFrom_insert`, `Stage.isStarted_stateAfter`, `Plan.settles`,
`Plan.replies_in_any_order`.
-/
import Sift.Plan
import Sift.Proofs.Stage.Stream

namespace Sift

deriving instance DecidableEq for Stage.Reply

namespace Stage

variable {stage inner child : Stage}

/-- The state after some calls. -/
def stateAfter (stage : Stage) (state : stage.State) : List Call → stage.State
  | [] => state
  | call :: calls => stage.stateAfter (stage.reply state call).2 calls

/-- Whether a stage is started with success by one of some calls: a call to start it, or one to
collect it. -/
def StartedBy (stage : Stage) (state : stage.State) : List Call → Prop
  | [] => False
  | call :: calls =>
    (call ≠ .next ∧ (stage.start state).1.isOk) ∨
      stage.StartedBy (stage.reply state call).2 calls

instance decidableStartedBy (stage : Stage) :
    ∀ (state : stage.State) (calls : List Call), Decidable (stage.StartedBy state calls)
  | _, [] => inferInstanceAs (Decidable False)
  | state, call :: calls =>
    have := decidableStartedBy stage (stage.reply state call).2 calls
    inferInstanceAs (Decidable (_ ∨ _))

/-- Whether a reply says that a stage has nothing more to give. -/
def Reply.IsEnd : Reply → Prop
  | .ended | .records _ => True
  | .started | .record _ | .failed _ => False

/-- The reply of a stage that has nothing more to give. -/
def Call.replyAtEnd : Call → Reply
  | .start => .started
  | .next => .ended
  | .collect => .records []

theorem repliesFrom_cons (state : stage.State) (call : Call) (calls : List Call) :
    stage.repliesFrom state (call :: calls) =
      (stage.reply state call).1 :: stage.repliesFrom (stage.reply state call).2 calls := rfl

/-- A call that leaves the state as it is has no effect on the replies to other calls. -/
theorem repliesFrom_insert {call : Call} {reply : Reply} (after : List Call) :
    ∀ {before : List Call} {state : stage.State},
      stage.reply (stage.stateAfter state before) call = (reply, stage.stateAfter state before) →
      stage.repliesFrom state (before ++ call :: after) =
        (stage.repliesFrom state (before ++ after)).insertIdx before.length reply
  | [], state, h => by
    unfold stateAfter at h
    rw [List.nil_append, repliesFrom_cons, h]
    rfl
  | first :: before, state, h => by
    have ih := @repliesFrom_insert call reply after before (stage.reply state first).2 h
    rw [List.cons_append, List.cons_append, repliesFrom_cons, repliesFrom_cons, ih,
      List.length_cons, List.insertIdx_succ_cons]

/-! ### Before and after the start -/

theorem next_of_not_started {state : (guarded inner).State} (h : state.isStarted = false) :
    (guarded inner).next state = (.error .notStarted, state) := by
  simp [guarded, h]

theorem reply_next_of_not_started {state : (guarded inner).State} (h : state.isStarted = false) :
    (guarded inner).reply state .next = (.failed .notStarted, state) := by
  unfold reply
  rw [next_of_not_started h]

theorem start_of_started {state : (guarded inner).State} (h : state.isStarted = true) :
    (guarded inner).start state = (.ok (), state) := by
  simp [guarded, h]

theorem reply_start_of_started {state : (guarded inner).State} (h : state.isStarted = true) :
    (guarded inner).reply state .start = (.started, state) := by
  unfold reply
  rw [start_of_started h]

/-- After a call to start it, a stage is started exactly when that has succeeded. -/
theorem isStarted_start (state : (guarded inner).State) :
    ((guarded inner).start state).2.isStarted = true ↔
      ((guarded inner).start state).1.isOk := by
  cases hstarted : state.isStarted with
  | true => simp [start_of_started hstarted, hstarted, Except.isOk, Except.toBool]
  | false =>
    rcases hstart : inner.start state.state with ⟨e | _, after⟩
    · simp [guarded, hstarted, hstart, Except.isOk, Except.toBool]
    · simp [guarded, hstarted, hstart, Except.isOk, Except.toBool]

theorem isStarted_next (state : (guarded inner).State) :
    ((guarded inner).next state).2.isStarted = state.isStarted := by
  cases hstarted : state.isStarted <;> simp [guarded, hstarted]

theorem isStarted_drain (state : (guarded inner).State) :
    ((guarded inner).drain state).2.isStarted = state.isStarted := by
  fun_induction drain (guarded inner) state with
  | case1 state e after hnext => rw [← isStarted_next state, hnext]
  | case2 state after hnext => rw [← isStarted_next state, hnext]
  | case3 state record after hnext e last hdrain ih =>
    rw [hdrain] at ih
    rw [← isStarted_next state, hnext]
    exact ih
  | case4 state record after hnext records last hdrain ih =>
    rw [hdrain] at ih
    rw [← isStarted_next state, hnext]
    exact ih

theorem isStarted_collect (state : (guarded inner).State) :
    ((guarded inner).collect state).2.isStarted = true ↔
      ((guarded inner).start state).1.isOk := by
  have hstart := isStarted_start state
  unfold collect
  rcases hresult : (guarded inner).start state with ⟨e | ok, after⟩
  · rw [hresult] at hstart
    exact hstart
  · rw [hresult] at hstart
    dsimp only at hstart ⊢
    rw [isStarted_drain, hstart]

/-- A stage is started after a call exactly when it was before or when the call has started it. -/
theorem isStarted_reply (state : (guarded inner).State) (call : Call) :
    ((guarded inner).reply state call).2.isStarted = true ↔
      state.isStarted = true ∨ (call ≠ .next ∧ ((guarded inner).start state).1.isOk) := by
  have hready : state.isStarted = true → ((guarded inner).start state).1.isOk := by
    intro h
    rw [start_of_started h]
    rfl
  cases call with
  | start =>
    rw [reply_start_snd, isStarted_start]
    simpa using hready
  | next =>
    rw [reply_next_snd, isStarted_next]
    simp
  | collect =>
    rw [reply_collect_snd, isStarted_collect]
    simpa using hready

/-- A stage is started after some calls exactly when it was before or when one of them has started
it. -/
theorem isStarted_stateAfter : ∀ (calls : List Call) (state : (guarded inner).State),
    ((guarded inner).stateAfter state calls).isStarted = true ↔
      state.isStarted = true ∨ (guarded inner).StartedBy state calls
  | [], state => by simp [stateAfter, StartedBy]
  | call :: calls, state => by
    rw [stateAfter, StartedBy, isStarted_stateAfter calls, isStarted_reply, or_assoc]

/-! ### Behind the end -/

/-- Whether a stage that gives nothing once never gives anything again. -/
def Settles (stage : Stage) : Prop :=
  ∀ state : stage.State, (stage.next state).1 = .ok none → stage.Ended state

theorem isStarted_of_ended {state : (guarded inner).State} (h : (guarded inner).Ended state) :
    state.isStarted = true := by
  obtain ⟨after, hnext, -⟩ := h.exists_next
  cases hstarted : state.isStarted with
  | true => rfl
  | false =>
    rw [next_of_not_started hstarted] at hnext
    cases hnext

/-- A stage with nothing more to give says so, whatever it is asked, and has nothing more to give
afterwards. -/
theorem reply_of_ended {state : (guarded inner).State} (h : (guarded inner).Ended state)
    (call : Call) :
    ∃ after, (guarded inner).reply state call = (call.replyAtEnd, after) ∧
      (guarded inner).Ended after := by
  have hstarted := isStarted_of_ended h
  obtain ⟨after, hnext, hended⟩ := h.exists_next
  cases call with
  | start => exact ⟨state, reply_start_of_started hstarted, h⟩
  | next =>
    refine ⟨after, ?_, hended⟩
    unfold reply
    rw [hnext]
    rfl
  | collect =>
    refine ⟨after, ?_, hended⟩
    unfold reply collect
    rw [start_of_started hstarted]
    dsimp only
    rw [drain_of_end hnext]
    rfl

theorem repliesFrom_of_ended : ∀ (calls : List Call) {state : (guarded inner).State},
    (guarded inner).Ended state →
      (guarded inner).repliesFrom state calls = calls.map Call.replyAtEnd
  | [], _, _ => rfl
  | call :: calls, state, h => by
    obtain ⟨after, hreply, hended⟩ := reply_of_ended h call
    rw [repliesFrom_cons, hreply, List.map_cons, repliesFrom_of_ended calls hended]

/-- A stage that is drained without an error has nothing more to give. -/
theorem ended_drain (hsettles : stage.Settles) (state : stage.State) {records : List Record}
    (h : (stage.drain state).1 = .ok records) : stage.Ended (stage.drain state).2 := by
  fun_induction drain stage state generalizing records with
  | case1 => cases h
  | case2 state after hnext =>
    have hended : stage.Ended state := hsettles state (by rw [hnext])
    obtain ⟨after', hnext', hafter⟩ := hended.exists_next
    rw [hnext] at hnext'
    cases hnext'
    exact hafter
  | case3 => cases h
  | case4 state record after hnext records last hdrain ih =>
    rw [hdrain] at ih
    exact ih rfl

/-- A stage that says that it has nothing more to give has nothing more to give. -/
theorem ended_reply (hsettles : stage.Settles) (state : stage.State) (call : Call)
    (h : (stage.reply state call).1.IsEnd) : stage.Ended (stage.reply state call).2 := by
  cases call with
  | start =>
    unfold reply at h
    rcases hstart : stage.start state with ⟨_ | _, after⟩ <;> simp [hstart, Reply.IsEnd] at h
  | next =>
    unfold reply at h ⊢
    rcases hnext : stage.next state with ⟨_ | _ | _, after⟩
    · simp [hnext, Reply.IsEnd] at h
    · have hended : stage.Ended state := hsettles state (by rw [hnext])
      obtain ⟨after', hnext', hafter⟩ := hended.exists_next
      rw [hnext] at hnext'
      cases hnext'
      exact hafter
    · simp [hnext, Reply.IsEnd] at h
  | collect =>
    unfold reply collect at h ⊢
    rcases hstart : stage.start state with ⟨_ | _, after⟩
    · simp [hstart, Reply.IsEnd] at h
    · rcases hdrain : stage.drain after with ⟨_ | records, last⟩
      · simp [hstart, hdrain, Reply.IsEnd] at h
      · have hended := ended_drain hsettles after (by rw [hdrain])
        rw [hdrain] at hended
        simpa [hdrain] using hended

/-- Behind a reply that says that there is nothing more, all replies say so. -/
theorem repliesFrom_of_isEnd (hsettles : (guarded inner).Settles) (after : List Call) :
    ∀ {before : List Call} {state : (guarded inner).State},
      (∃ reply ∈ (guarded inner).repliesFrom state before, reply.IsEnd) →
      (guarded inner).repliesFrom state (before ++ after) =
        (guarded inner).repliesFrom state before ++ after.map Call.replyAtEnd
  | [], _, h => by simp [repliesFrom] at h
  | call :: before, state, ⟨reply, hmem, hend⟩ => by
    rw [List.cons_append, repliesFrom_cons, repliesFrom_cons, List.cons_append]
    refine congrArg _ ?_
    rw [repliesFrom_cons] at hmem
    rcases List.mem_cons.mp hmem with rfl | hmem
    · have hended := ended_reply hsettles state call hend
      rw [repliesFrom_of_ended (before ++ after) hended, repliesFrom_of_ended before hended,
        List.map_append]
    · exact repliesFrom_of_isEnd hsettles after ⟨reply, hmem, hend⟩

/-! ### Every kind of stage settles -/

theorem settles_values (records : List Record) : (values records).Settles := by
  rintro ⟨_ | _, _ | ⟨record, left⟩⟩ h
  · cases h
  · cases h
  · exact gives_values []
  · cases h

theorem settles_sort (criteria : List Criterion) (child : Stage) : (sort criteria child).Settles := by
  rintro ⟨_ | _, ⟨state, _ | ⟨record, left⟩⟩⟩ h
  · cases h
  · cases h
  · exact gives_sort criteria child state []
  · cases h

/-- A filter gives nothing only if its child has given nothing. -/
theorem settles_filter (condition : Filter) (hchild : child.Settles) :
    (filter condition child).Settles := by
  rintro ⟨_ | _, state⟩ h
  · cases h
  rw [next_filter] at h
  dsimp only at h
  fun_induction nextMatch child condition state with
  | case1 => cases h
  | case2 state after hnext =>
    have hended : child.Gives state [] := hchild state (by rw [hnext])
    exact gives_filter condition hended
  | case3 => cases h
  | case4 => cases h
  | case5 state record after hnext hevaluate ih =>
    have hmore : (filter condition child).Gives (⟨true, after⟩ : Guarded child.State) [] := ih h
    refine Gives.congr ?_ hmore
    rw [next_filter, next_filter, nextMatch_of_record condition hnext, hevaluate]

/-- A limit gives nothing only if it has no room or if its child has given nothing. -/
theorem settles_limit (count offset : Nat) (hchild : child.Settles) :
    (limit count offset child).Settles := by
  rintro ⟨_ | _, ⟨state, toSkip, room⟩⟩ h
  · cases h
  rw [next_limit] at h
  dsimp only at h
  by_cases hroom : room = some 0
  · exact ended_limit count offset (.inl hroom)
  induction toSkip generalizing state with
  | zero =>
    rcases hnext : child.next state with ⟨e | _ | record, after⟩
    · rw [nextWithin_of_error hroom hnext] at h
      cases h
    · exact ended_limit count offset (.inr (hchild state (by rw [hnext])))
    · rw [nextWithin_of_record hroom hnext] at h
      cases h
  | succ toSkip ih =>
    rcases hnext : child.next state with ⟨e | _ | record, after⟩
    · rw [nextWithin_of_error hroom hnext] at h
      cases h
    · exact ended_limit count offset (.inr (hchild state (by rw [hnext])))
    · have hskip : nextWithin child ⟨state, toSkip + 1, room⟩ =
          nextWithin child ⟨after, toSkip, room⟩ := nextWithin_of_skipped hroom hnext
      rw [hskip] at h
      have hmore : (limit count offset child).Gives
          (⟨true, after, toSkip, room⟩ : Guarded (Limited child.State)) [] := ih after h
      refine Gives.congr ?_ hmore
      rw [next_limit, next_limit, hskip]

end Stage

namespace Plan

theorem exists_guarded : ∀ plan : Plan, ∃ inner, plan.stage = .guarded inner
  | values _ => ⟨_, rfl⟩
  | filter _ _ => ⟨_, rfl⟩
  | sort _ _ => ⟨_, rfl⟩
  | limit _ _ _ => ⟨_, rfl⟩

theorem settles : ∀ plan : Plan, plan.stage.Settles
  | values records => Stage.settles_values records
  | filter condition child => Stage.settles_filter condition child.settles
  | sort criteria child => Stage.settles_sort criteria child.stage
  | limit count offset child => Stage.settles_limit count offset child.settles

/-- **A plan can be called in any order.** A call for the next record before the stage of the plan is
started fails and has no effect on the other replies; a call to start it afterwards succeeds and has
none either; and behind a reply that says that there is nothing more, no call gets a record. -/
theorem replies_in_any_order (plan : Plan) (before after : List Stage.Call) :
    (¬ plan.stage.StartedBy plan.stage.fresh before →
      plan.stage.replies (before ++ .next :: after) =
        (plan.stage.replies (before ++ after)).insertIdx before.length (.failed .notStarted)) ∧
    (plan.stage.StartedBy plan.stage.fresh before →
      plan.stage.replies (before ++ .start :: after) =
        (plan.stage.replies (before ++ after)).insertIdx before.length .started) ∧
    ((∃ reply ∈ plan.stage.replies before, reply.IsEnd) →
      plan.stage.replies (before ++ after) =
        plan.stage.replies before ++ after.map Stage.Call.replyAtEnd) := by
  have hsettles := plan.settles
  obtain ⟨inner, hstage⟩ := plan.exists_guarded
  rw [hstage] at hsettles ⊢
  have hstarted := Stage.isStarted_stateAfter before (Stage.guarded inner).fresh
  have hfresh : (Stage.guarded inner).fresh.isStarted = false := rfl
  rw [hfresh] at hstarted
  refine ⟨fun hnot => ?_, fun hstart => ?_, fun hend => ?_⟩
  · refine Stage.repliesFrom_insert after (Stage.reply_next_of_not_started ?_)
    simpa [hnot] using hstarted
  · refine Stage.repliesFrom_insert after (Stage.reply_start_of_started ?_)
    simpa [hstart] using hstarted
  · exact Stage.repliesFrom_of_isEnd hsettles after hend

/-- A sort that has failed to start is not started; it starts on the second attempt, behind the
record on which the filter fails. -/
theorem replies_in_any_order_around_failed_start :
    let record := Record.ofList [("a", .boolean true)]
    let other := Record.ofList [("a", .string "x")]
    let condition := Filter.compare "a" .eq (.string "x")
    let stage := (limit 1 0 (sort [] (filter condition (values [record, other, other])))).stage
    ¬ stage.StartedBy stage.fresh [.start] ∧
      stage.replies [.start, .next, .start, .next] =
        (stage.replies [.start, .start, .next]).insertIdx 1 (.failed .notStarted) ∧
      stage.StartedBy stage.fresh [.start, .start, .next] ∧
      stage.replies [.start, .start, .next, .start, .collect] =
        (stage.replies [.start, .start, .next, .collect]).insertIdx 3 .started ∧
      .records [other] ∈ stage.replies [.start, .collect] ∧
      stage.replies [.start, .collect, .next, .start, .collect] =
        stage.replies [.start, .collect] ++ [.ended, .started, .records []] := by
  intro record other condition stage
  have hnot : ¬ stage.StartedBy stage.fresh [.start] := by decide +kernel
  have hstarted : stage.StartedBy stage.fresh [.start, .start, .next] := by decide +kernel
  have hend : .records [other] ∈ stage.replies [.start, .collect] := by decide +kernel
  obtain ⟨hnext, -, -⟩ := replies_in_any_order (limit 1 0 _) [.start] [.start, .next]
  obtain ⟨-, hstart, -⟩ := replies_in_any_order (limit 1 0 _) [.start, .start, .next] [.collect]
  obtain ⟨-, -, hends⟩ :=
    replies_in_any_order (limit 1 0 _) [.start, .collect] [.next, .start, .collect]
  exact ⟨hnot, hnext hnot, hstarted, hstart hstarted, hend, hends ⟨_, hend, trivial⟩⟩

end Plan

end Sift
