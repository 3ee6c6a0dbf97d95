/-
# What a plan gives altogether

Over any calls, also those that fail half-way, the records that a plan gives come from its list, none
of them more often than it is there; every filter of the plan holds on them; and no limit of the plan
is exceeded.

Collecting a stage starts it and asks it for one record after another, so it is enough to look at
starts and at calls for the next record. For each kind of stage, what it has given so far comes from
what its child has given so far; records on which a stage has failed, or which it had taken from its
child when it failed, are lost.

Key definitions: `Stage.Reaches`, `Stage.Reply.given`, `Plan.source`, `Plan.Permits`.
Key theorems: `Stage.reaches_repliesFrom`, `Stage.reaches_filter`, `Stage.reaches_sort`,
`Stage.reaches_limit`, `Plan.permits_of_reaches`, `Plan.permits_replies`.
-/
import Mathlib.Data.List.Perm.Subperm
import Sift.Proofs.Stage.Replies

namespace Sift

namespace Stage

variable {stage inner child : Stage}

/-- The record in an answer, if there is one. -/
def answered : Except StageError (Option Record) → List Record
  | .ok (some record) => [record]
  | .ok none | .error _ => []

/-- The records in a reply. -/
def Reply.given : Reply → List Record
  | .record taken => [taken]
  | .records taken => taken
  | .started | .ended | .failed _ => []

/-- Whether a stage can come to a state by starts and calls for the next record, and has then given
some records altogether. -/
inductive Reaches (stage : Stage) : stage.State → List Record → Prop
  | fresh : Reaches stage stage.fresh []
  | start {state : stage.State} {given : List Record} :
      Reaches stage state given → Reaches stage (stage.start state).2 given
  | next {state : stage.State} {given : List Record} :
      Reaches stage state given →
        Reaches stage (stage.next state).2 (given ++ answered (stage.next state).1)

theorem Reaches.of_next {state after : stage.State} {given : List Record}
    {answer : Except StageError (Option Record)} (h : stage.Reaches state given)
    (hnext : stage.next state = (answer, after)) : stage.Reaches after (given ++ answered answer) := by
  have hafter := h.next
  rwa [hnext] at hafter

/-! ### Replies -/

/-- Draining a stage that does not fail gives all that it has taken. -/
theorem reaches_drain {state : stage.State} {given : List Record} (h : stage.Reaches state given) :
    ∃ taken, stage.Reaches (stage.drain state).2 (given ++ taken) ∧
      ∀ records, (stage.drain state).1 = .ok records → records = taken := by
  fun_induction drain stage state generalizing given with
  | case1 state e after hnext =>
    have hafter := h.of_next hnext
    exact ⟨[], hafter, fun _ hrecords => nomatch hrecords⟩
  | case2 state after hnext =>
    have hafter := h.of_next hnext
    exact ⟨[], hafter, fun _ hrecords => (Except.ok.inj hrecords).symm⟩
  | case3 state record after hnext e last hdrain ih =>
    have hafter := h.of_next hnext
    obtain ⟨taken, hlast, -⟩ := ih hafter
    rw [hdrain] at hlast
    exact ⟨_, List.append_assoc .. ▸ hlast, fun _ hrecords => nomatch hrecords⟩
  | case4 state record after hnext records last hdrain ih =>
    have hafter := h.of_next hnext
    obtain ⟨taken, hlast, hall⟩ := ih hafter
    rw [hdrain] at hlast hall
    refine ⟨_, List.append_assoc .. ▸ hlast, fun _ hrecords => ?_⟩
    rw [← Except.ok.inj hrecords, hall records rfl]
    rfl

theorem reaches_collect {state : stage.State} {given : List Record} (h : stage.Reaches state given) :
    ∃ taken, stage.Reaches (stage.collect state).2 (given ++ taken) ∧
      ∀ records, (stage.collect state).1 = .ok records → records = taken := by
  have hstart := h.start
  unfold collect
  rcases hresult : stage.start state with ⟨e | ok, after⟩
  · rw [hresult] at hstart
    exact ⟨[], (List.append_nil given).symm ▸ hstart, fun _ hrecords => nomatch hrecords⟩
  · rw [hresult] at hstart
    exact reaches_drain hstart

/-- A reply gives some of the records that the stage gives up to it. -/
theorem reaches_reply {state : stage.State} {given : List Record} (h : stage.Reaches state given)
    (call : Call) :
    ∃ taken, stage.Reaches (stage.reply state call).2 (given ++ taken) ∧
      (stage.reply state call).1.given.Sublist taken := by
  cases call with
  | start =>
    refine ⟨[], ?_, ?_⟩
    · rw [reply_start_snd, List.append_nil]
      exact h.start
    · unfold reply
      rcases stage.start state with ⟨e | ok, after⟩ <;> simp [Reply.given]
  | next =>
    refine ⟨answered (stage.next state).1, ?_, ?_⟩
    · rw [reply_next_snd]
      exact h.next
    · unfold reply
      rcases stage.next state with ⟨e | _ | record, after⟩ <;> simp [Reply.given, answered]
  | collect =>
    obtain ⟨taken, hcollect, hall⟩ := reaches_collect h
    refine ⟨taken, ?_, ?_⟩
    · rw [reply_collect_snd]
      exact hcollect
    · unfold reply
      rcases hresult : stage.collect state with ⟨e | records, after⟩
      · simp [Reply.given]
      · rw [hresult] at hall
        simp [Reply.given, hall records rfl]

/-- The replies to some calls give some of the records that the stage has given up to them. -/
theorem reaches_repliesFrom : ∀ (calls : List Call) {state : stage.State} {given : List Record},
    stage.Reaches state given →
    ∃ last taken, stage.Reaches last (given ++ taken) ∧
      ((stage.repliesFrom state calls).flatMap Reply.given).Sublist taken
  | [], state, given, h => ⟨state, [], (List.append_nil given).symm ▸ h, List.Sublist.refl []⟩
  | call :: calls, state, given, h => by
    obtain ⟨first, hfirst, hreply⟩ := reaches_reply h call
    obtain ⟨last, taken, hlast, hreplies⟩ := reaches_repliesFrom calls hfirst
    refine ⟨last, first ++ taken, List.append_assoc .. ▸ hlast, ?_⟩
    rw [repliesFrom, List.flatMap_cons]
    exact hreply.append hreplies

/-! ### What each kind of stage has given -/

/-- What the stage inside keeps, a guarded stage keeps: as long as it is not started, calls for the
next record do nothing, and once it is, starts do nothing. -/
theorem Reaches.invariant_of_guarded {state : (guarded inner).State} {given : List Record}
    (h : (guarded inner).Reaches state given) (P : inner.State → List Record → Prop)
    (hfresh : P inner.fresh [])
    (hstart : ∀ state given, P state given → P (inner.start state).2 given)
    (hnext : ∀ state given, P state given →
      P (inner.next state).2 (given ++ answered (inner.next state).1)) :
    P state.state given := by
  induction h with
  | fresh => exact hfresh
  | @start state given _ ih =>
    have hafter := hstart state.state given ih
    dsimp only [guarded]
    cases state.isStarted with
    | true => exact ih
    | false =>
      rcases hresult : inner.start state.state with ⟨e | ok, after⟩ <;> rwa [hresult] at hafter
  | @next state given _ ih =>
    have hafter := hnext state.state given ih
    dsimp only [guarded]
    cases state.isStarted with
    | true => exact hafter
    | false => exact (List.append_nil given).symm ▸ ih

/-- What a list has given and what it still has make up the list. -/
theorem reaches_values {records : List Record} {state : (values records).State}
    {given : List Record} (h : (values records).Reaches state given) : given ++ state.state = records := by
  refine h.invariant_of_guarded (fun left given => given ++ left = records) rfl ?_ ?_
  · exact fun _ _ ih => ih
  · intro left given ih
    cases left with
    | nil =>
      show given ++ [] ++ [] = records
      rwa [List.append_nil]
    | cons record left =>
      show given ++ [record] ++ left = records
      rwa [List.append_assoc]

/-- What a filter takes from its child for one record; the record that it gives is among that and
satisfies its condition. -/
theorem reaches_nextMatch (condition : Filter) {state : child.State} {passed : List Record}
    (h : child.Reaches state passed) :
    ∃ taken, child.Reaches (nextMatch child condition state).2 (passed ++ taken) ∧
      (answered (nextMatch child condition state).1).Sublist taken ∧
      ∀ record ∈ answered (nextMatch child condition state).1,
        condition.evaluate record = .ok true := by
  fun_induction nextMatch child condition state generalizing passed with
  | case1 state e after hnext =>
    have hafter := h.of_next hnext
    exact ⟨[], hafter, List.Sublist.refl [], fun _ hmem => absurd hmem List.not_mem_nil⟩
  | case2 state after hnext =>
    have hafter := h.of_next hnext
    exact ⟨[], hafter, List.Sublist.refl [], fun _ hmem => absurd hmem List.not_mem_nil⟩
  | case3 state record after hnext e hevaluate =>
    have hafter := h.of_next hnext
    exact ⟨[record], hafter, List.nil_sublist [record], fun _ hmem => absurd hmem List.not_mem_nil⟩
  | case4 state record after hnext hevaluate =>
    have hafter := h.of_next hnext
    refine ⟨[record], hafter, List.Sublist.refl [record], fun other hother => ?_⟩
    rw [List.mem_singleton.mp hother]
    exact hevaluate
  | case5 state record after hnext hevaluate ih =>
    have hafter := h.of_next hnext
    obtain ⟨taken, hlast, hsub, hholds⟩ := ih hafter
    exact ⟨record :: taken, List.append_cons .. ▸ hlast, hsub.cons record, hholds⟩

/-- A filter has given some of the records that its child has given, and it holds on them. -/
theorem reaches_filter {condition : Filter} {state : (filter condition child).State}
    {given : List Record} (h : (filter condition child).Reaches state given) :
    ∃ passed, child.Reaches state.state passed ∧ given.Sublist passed ∧
      ∀ record ∈ given, condition.evaluate record = .ok true := by
  refine h.invariant_of_guarded (fun (state : child.State) given =>
    ∃ passed, child.Reaches state passed ∧ given.Sublist passed ∧
      ∀ record ∈ given, condition.evaluate record = .ok true) ?_ ?_ ?_
  · exact ⟨[], .fresh, List.Sublist.refl [], nofun⟩
  · rintro state given ⟨passed, hpassed, hsub, hholds⟩
    exact ⟨passed, hpassed.start, hsub, hholds⟩
  · rintro state given ⟨passed, hpassed, hsub, hholds⟩
    obtain ⟨taken, htaken, hanswer, hmatch⟩ := reaches_nextMatch condition hpassed
    refine ⟨passed ++ taken, htaken, hsub.append hanswer, fun record hmem => ?_⟩
    rcases List.mem_append.mp hmem with hmem | hmem
    · exact hholds record hmem
    · exact hmatch record hmem

/-- What a sort has given and what it still has come from what its child has given. -/
theorem reaches_sort {criteria : List Criterion} {state : (sort criteria child).State}
    {given : List Record} (h : (sort criteria child).Reaches state given) :
    ∃ passed, child.Reaches state.state.child passed ∧
      (given ++ state.state.records).Subperm passed := by
  refine h.invariant_of_guarded (fun (state : Sorted child.State) given =>
    ∃ passed, child.Reaches state.child passed ∧ (given ++ state.records).Subperm passed) ?_ ?_ ?_
  · exact ⟨[], .fresh, List.Subperm.refl []⟩
  · rintro ⟨state, records⟩ given ⟨passed, hpassed, hsub⟩
    -- What the sort had before is replaced by what it takes now.
    have hgiven : given.Subperm passed := (List.sublist_append_left given records).subperm.trans hsub
    obtain ⟨taken, htaken, hall⟩ := reaches_collect hpassed
    rcases hresult : child.collect state with ⟨e | sorted, after⟩
    · rw [hresult] at htaken
      refine ⟨passed ++ taken, ?_, ?_⟩
      · simpa [hresult] using htaken
      · simpa [hresult] using hgiven.trans (List.sublist_append_left passed taken).subperm
    · rw [hresult] at htaken hall
      obtain rfl : sorted = taken := hall sorted rfl
      have hsort : (Record.sort criteria sorted).Subperm sorted := (sortBy_perm _ sorted).subperm
      refine ⟨passed ++ sorted, ?_, ?_⟩
      · simpa [hresult] using htaken
      · simpa [hresult] using hgiven.append hsort
  · rintro ⟨state, records⟩ given ⟨passed, hpassed, hsub⟩
    refine ⟨passed, hpassed, ?_⟩
    cases records with
    | nil =>
      show (given ++ [] ++ []).Subperm passed
      rwa [List.append_nil]
    | cons record records =>
      show (given ++ [record] ++ records).Subperm passed
      rwa [List.append_assoc]

theorem reaches_passOver : ∀ (count : Nat) {state : child.State} {passed : List Record},
    child.Reaches state passed →
    ∃ taken, child.Reaches (passOver child count state).2.2 (passed ++ taken)
  | 0, state, passed, h => ⟨[], (List.append_nil passed).symm ▸ h⟩
  | count + 1, state, passed, h => by
    rw [passOver]
    rcases hnext : child.next state with ⟨e | _ | record, after⟩
    · exact ⟨_, h.of_next hnext⟩
    · exact ⟨_, h.of_next hnext⟩
    · obtain ⟨taken, hlast⟩ := reaches_passOver count (h.of_next hnext)
      exact ⟨_, List.append_assoc .. ▸ hlast⟩

/-- What a limit takes from its child for one record; the record that it gives is among that. -/
theorem reaches_nextWithin {state : Limited child.State} {passed : List Record}
    (h : child.Reaches state.child passed) :
    ∃ taken, child.Reaches (nextWithin child state).2.child (passed ++ taken) ∧
      (answered (nextWithin child state).1).Sublist taken := by
  unfold nextWithin
  by_cases hroom : state.room = some 0
  · rw [if_pos hroom]
    exact ⟨[], (List.append_nil passed).symm ▸ h, List.Sublist.refl []⟩
  rw [if_neg hroom]
  obtain ⟨skipped, hskipped⟩ := reaches_passOver state.toSkip h
  rcases hpass : passOver child state.toSkip state.child with ⟨e | _ | _, toSkip, after⟩
  all_goals rw [hpass] at hskipped
  · exact ⟨skipped, hskipped, List.nil_sublist skipped⟩
  · exact ⟨skipped, hskipped, List.nil_sublist skipped⟩
  · dsimp only
    rcases hnext : child.next after with ⟨e | _ | record, last⟩
    all_goals
      have hlast := hskipped.of_next hnext
      rw [List.append_assoc] at hlast
      exact ⟨_, hlast, List.sublist_append_right ..⟩

/-- With every record that it gives a limit loses a place. -/
theorem room_nextWithin {state : Limited child.State} {room : Nat} (h : state.room = some room) :
    ∃ room', (nextWithin child state).2.room = some room' ∧
      (answered (nextWithin child state).1).length + room' = room := by
  unfold nextWithin
  by_cases hroom : state.room = some 0
  · rw [if_pos hroom]
    exact ⟨room, h, Nat.zero_add room⟩
  rw [if_neg hroom]
  rcases passOver child state.toSkip state.child with ⟨e | _ | _, toSkip, after⟩
  · exact ⟨room, h, Nat.zero_add room⟩
  · exact ⟨room, h, Nat.zero_add room⟩
  · dsimp only
    rcases child.next after with ⟨e | _ | record, last⟩
    · exact ⟨room, h, Nat.zero_add room⟩
    · exact ⟨room, h, Nat.zero_add room⟩
    · have hpos : room ≠ 0 := fun hzero => hroom (hzero ▸ h)
      refine ⟨room - 1, by simp [h], ?_⟩
      show 1 + (room - 1) = room
      omega

/-- A limit has given some of the records that its child has given, and if there is a greatest
number of them, as many as it has lost places. -/
theorem reaches_limit {count offset : Nat} {state : (limit count offset child).State}
    {given : List Record} (h : (limit count offset child).Reaches state given) :
    ∃ passed, child.Reaches state.state.child passed ∧ given.Sublist passed ∧
      (0 < count → ∃ room, state.state.room = some room ∧ given.length + room = count) := by
  refine h.invariant_of_guarded (fun (state : Limited child.State) given =>
    ∃ passed, child.Reaches state.child passed ∧ given.Sublist passed ∧
      (0 < count → ∃ room, state.room = some room ∧ given.length + room = count)) ?_ ?_ ?_
  · refine ⟨[], .fresh, List.Sublist.refl [], fun hcount => ⟨count, ?_, Nat.zero_add count⟩⟩
    have hne : count ≠ 0 := by omega
    simp [hne]
  · rintro state given ⟨passed, hpassed, hsub, hroom⟩
    exact ⟨passed, hpassed.start, hsub, hroom⟩
  · rintro state given ⟨passed, hpassed, hsub, hroom⟩
    obtain ⟨taken, htaken, hanswer⟩ := reaches_nextWithin hpassed
    refine ⟨passed ++ taken, htaken, hsub.append hanswer, fun hcount => ?_⟩
    obtain ⟨room, hstate, hlength⟩ := hroom hcount
    obtain ⟨room', hstate', hlength'⟩ := room_nextWithin hstate
    refine ⟨room', hstate', ?_⟩
    show (given ++ answered (nextWithin child state).1).length + room' = count
    rw [List.length_append]
    omega

end Stage

/-! ### What a plan has given -/

namespace Plan

/-- The records at the bottom of a plan. -/
def source : Plan → List Record
  | values records => records
  | filter _ child | sort _ child | limit _ _ child => child.source

/-- Whether a plan may give some records altogether. -/
structure Permits (plan : Plan) (given : List Record) : Prop where
  /-- They come from the list of the plan, none of them more often than it is there. -/
  source : given.Subperm plan.source
  /-- Every filter of the plan holds on them. -/
  filters : ∀ condition child, filter condition child ∈ plan.nodes →
    ∀ record ∈ given, condition.evaluate record = .ok true
  /-- No limit of the plan is exceeded. -/
  limits : ∀ count offset child, limit count offset child ∈ plan.nodes →
    0 < count → given.length ≤ count

variable {child : Plan} {given passed : List Record}

/-- A plan that may give some records may also give a part of them. -/
theorem Permits.of_subperm {plan : Plan} (h : plan.Permits passed) (hsub : given.Subperm passed) :
    plan.Permits given where
  source := hsub.trans h.source
  filters condition child hmem record hrecord :=
    h.filters condition child hmem record (hsub.subset hrecord)
  limits count offset child hmem hcount :=
    Nat.le_trans hsub.length_le (h.limits count offset child hmem hcount)

theorem permits_values {records : List Record} (h : given.Subperm records) :
    (values records).Permits given where
  source := h
  filters _ _ hmem := nomatch List.mem_singleton.mp hmem
  limits _ _ _ hmem := nomatch List.mem_singleton.mp hmem

/-- A plan may give what the plan that it is built on may give, if its outermost node allows it. -/
theorem Permits.of_child {plan : Plan} (h : child.Permits given)
    (hsource : plan.source = child.source) (hnodes : plan.nodes = plan :: child.nodes)
    (hfilter : ∀ condition child', plan = filter condition child' →
      ∀ record ∈ given, condition.evaluate record = .ok true)
    (hlimit : ∀ count offset child', plan = limit count offset child' →
      0 < count → given.length ≤ count) :
    plan.Permits given where
  source := hsource ▸ h.source
  filters condition child' hmem := by
    rw [hnodes] at hmem
    rcases List.mem_cons.mp hmem with heq | hmem
    · exact hfilter condition child' heq.symm
    · exact h.filters condition child' hmem
  limits count offset child' hmem := by
    rw [hnodes] at hmem
    rcases List.mem_cons.mp hmem with heq | hmem
    · exact hlimit count offset child' heq.symm
    · exact h.limits count offset child' hmem

theorem permits_filter {condition : Filter} (h : child.Permits given)
    (hholds : ∀ record ∈ given, condition.evaluate record = .ok true) :
    (filter condition child).Permits given := by
  refine h.of_child rfl rfl (fun condition' child' heq => ?_) (fun _ _ _ heq => nomatch heq)
  obtain ⟨rfl, -⟩ := filter.inj heq
  exact hholds

theorem permits_sort {criteria : List Criterion} (h : child.Permits given) :
    (sort criteria child).Permits given :=
  h.of_child rfl rfl (fun _ _ heq => nomatch heq) (fun _ _ _ heq => nomatch heq)

theorem permits_limit {count offset : Nat} (h : child.Permits given)
    (hlength : 0 < count → given.length ≤ count) : (limit count offset child).Permits given := by
  refine h.of_child rfl rfl (fun _ _ heq => nomatch heq) (fun count' offset' child' heq => ?_)
  obtain ⟨rfl, -, -⟩ := limit.inj heq
  exact hlength

/-- By starts and calls for the next record a plan gives only what it may give. -/
theorem permits_of_reaches : ∀ (plan : Plan) {state : plan.stage.State} {given : List Record},
    plan.stage.Reaches state given → plan.Permits given
  | values records, state, given, h => by
    have hall := Stage.reaches_values h
    refine permits_values ?_
    rw [← hall]
    exact (List.sublist_append_left given _).subperm
  | filter condition child, state, given, h => by
    obtain ⟨passed, hpassed, hsub, hholds⟩ := Stage.reaches_filter h
    exact permits_filter ((child.permits_of_reaches hpassed).of_subperm hsub.subperm) hholds
  | sort criteria child, state, given, h => by
    obtain ⟨passed, hpassed, hsub⟩ := Stage.reaches_sort h
    have hgiven := (List.sublist_append_left given _).subperm.trans hsub
    exact permits_sort ((child.permits_of_reaches hpassed).of_subperm hgiven)
  | limit count offset child, state, given, h => by
    obtain ⟨passed, hpassed, hsub, hroom⟩ := Stage.reaches_limit h
    refine permits_limit ((child.permits_of_reaches hpassed).of_subperm hsub.subperm) ?_
    intro hcount
    obtain ⟨room, -, hlength⟩ := hroom hcount
    omega

/-- **A plan gives only what it may give, whatever it is asked.** The records in the replies to some
calls, taken together, come from the list of the plan, none of them more often than it is there; every
filter of the plan holds on them; and they are no more than any limit of the plan allows. -/
theorem permits_replies (plan : Plan) (calls : List Stage.Call) :
    plan.Permits ((plan.stage.replies calls).flatMap Stage.Reply.given) := by
  have hfresh : plan.stage.Reaches plan.stage.fresh [] := .fresh
  obtain ⟨last, taken, hlast, hreplies⟩ := Stage.reaches_repliesFrom calls hfresh
  exact (plan.permits_of_reaches hlast).of_subperm hreplies.subperm

/-- The record that a sort has taken when it fails to start is lost. -/
example :
    let record (n : Int64) := Record.ofList [("a", .integer n)]
    let unordered := Record.ofList [("a", .boolean true)]
    let condition := Filter.compare "a" .lt (.integer 9)
    let plan := sort [] (filter condition (values [record 1, unordered, record 2]))
    (plan.stage.replies [.start, .collect, .next]).flatMap Stage.Reply.given = [record 2] := by
  decide +kernel

end Plan

end Sift
