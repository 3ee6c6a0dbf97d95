/-
# Stages that count in words

A stage with a limit and an offset can count in words of 64 bits: how many records it has passed
over, up to the offset, and how many it has given, up to the limit. Whatever stage it is built on, it
replies to all calls as the one does that counts natural numbers downwards. The counter of what is
passed over never wraps, and the other one only behind as many records as there are words.

Key definitions: `WordPage`, `Stage.countedLimit`, `Stage.Counted.toLimited`, `Stage.Counts`.
Key theorems: `Stage.nextWithin_toLimited`, `Stage.simulates_countedLimit`,
`Stage.replies_countedLimit`, `Stage.counts_of_reaches`.
-/
import Sift.Page
import Sift.Proofs.Stage.Conservation
import Sift.Proofs.Stage.Simulation

namespace Sift

/-- A page whose limit and offset are words. -/
structure WordPage where
  limit : UInt64
  offset : UInt64

/-- The page with the numbers of a page of words. -/
def WordPage.toPage (page : WordPage) : Page := ⟨page.limit.toNat, page.offset.toNat⟩

namespace Stage

variable {child : Stage} {page : WordPage}

/-! ### Counting upwards -/

/-- A stage, how many of its records have been passed over, and how many have been given. -/
structure Counted (σ : Type) where
  child : σ
  skipped : UInt64
  returned : UInt64

/-- Passes over records of a stage until so many have been skipped: whether there were enough of
them. -/
def passOverUpTo (child : Stage) (offset skipped : UInt64) (state : child.State) :
    Except StageError Bool × UInt64 × child.State :=
  if skipped < offset then
    match _ : child.next state with
    | (.error e, after) => (.error e, skipped, after)
    | (.ok none, after) => (.ok false, skipped, after)
    | (.ok (some _), after) => passOverUpTo child offset (skipped + 1) after
  else (.ok true, skipped, state)
termination_by child.left state
decreasing_by exact child.left_of_next ‹_›

/-- The next record after those that are skipped, as long as the limit is not reached. -/
def nextCounted (page : WordPage) (child : Stage) (state : Counted child.State) :
    Except StageError (Option Record) × Counted child.State :=
  if 0 < page.limit ∧ page.limit ≤ state.returned then (.ok none, state)
  else
    match passOverUpTo child page.offset state.skipped state.child with
    | (.error e, skipped, after) => (.error e, ⟨after, skipped, state.returned⟩)
    | (.ok false, skipped, after) => (.ok none, ⟨after, skipped, state.returned⟩)
    | (.ok true, skipped, after) =>
      match child.next after with
      | (.error e, last) => (.error e, ⟨last, skipped, state.returned⟩)
      | (.ok none, last) => (.ok none, ⟨last, skipped, state.returned⟩)
      | (.ok (some record), last) => (.ok (some record), ⟨last, skipped, state.returned + 1⟩)

/-- What a stage with a limit would have for the counters of another one. -/
def Counted.toLimited {σ : Type} (page : WordPage) (state : Counted σ) : Limited σ where
  child := state.child
  toSkip := page.offset.toNat - state.skipped.toNat
  room := (roomOf page.limit.toNat).map (· - state.returned.toNat)

theorem toNat_add_one_of_lt {count bound : UInt64} (h : count < bound) :
    (count + 1).toNat = count.toNat + 1 := by
  have hlt := UInt64.lt_iff_toNat_lt.mp h
  have hbound := bound.toNat_lt
  rw [UInt64.toNat_add]
  exact Nat.mod_eq_of_lt (by show count.toNat + 1 < 2 ^ 64; omega)

/-- One record fewer is left to be passed over after one more has been. -/
theorem toSkip_of_lt {offset skipped : UInt64} (h : skipped < offset) :
    offset.toNat - skipped.toNat = offset.toNat - (skipped + 1).toNat + 1 := by
  have hlt := UInt64.lt_iff_toNat_lt.mp h
  rw [toNat_add_one_of_lt h]
  omega

/-- Counting upwards passes over the same records as counting downwards. -/
theorem passOver_eq_passOverUpTo (offset skipped : UInt64) (state : child.State) :
    passOver child (offset.toNat - skipped.toNat) state =
      ((passOverUpTo child offset skipped state).1,
        offset.toNat - (passOverUpTo child offset skipped state).2.1.toNat,
        (passOverUpTo child offset skipped state).2.2) := by
  fun_induction passOverUpTo child offset skipped state with
  | case1 skipped state hlt e after hnext =>
    rw [toSkip_of_lt hlt, passOver, hnext]
  | case2 skipped state hlt after hnext =>
    rw [toSkip_of_lt hlt, passOver, hnext]
  | case3 skipped state hlt record after hnext ih =>
    rw [toSkip_of_lt hlt, passOver, hnext]
    exact ih
  | case4 skipped state hge =>
    have hle := UInt64.le_iff_toNat_le.mp (UInt64.not_lt.mp hge)
    rw [Nat.sub_eq_zero_of_le hle]
    rfl

theorem room_toLimited_eq_zero_iff {σ : Type} (page : WordPage) (state : Counted σ) :
    (state.toLimited page).room = some 0 ↔ 0 < page.limit ∧ page.limit ≤ state.returned := by
  have hpos := UInt64.lt_iff_toNat_lt (a := 0) (b := page.limit)
  have hle := UInt64.le_iff_toNat_le (a := page.limit) (b := state.returned)
  rw [hpos, hle]
  show (roomOf page.limit.toNat).map (· - state.returned.toNat) = some 0 ↔ 0 < page.limit.toNat ∧ _
  unfold roomOf
  by_cases hlimit : page.limit.toNat = 0
  · rw [if_pos hlimit]
    exact ⟨nofun, fun h => absurd hlimit (Nat.pos_iff_ne_zero.mp h.1)⟩
  · rw [if_neg hlimit]
    simp only [Option.map_some, Option.some.injEq]
    omega

/-- One place fewer is left after one more record has been given. -/
theorem room_of_not_full {returned : UInt64} (h : ¬ (0 < page.limit ∧ page.limit ≤ returned)) :
    (roomOf page.limit.toNat).map (· - (returned + 1).toNat) =
      ((roomOf page.limit.toNat).map (· - returned.toNat)).map (· - 1) := by
  unfold roomOf
  by_cases hlimit : page.limit.toNat = 0
  · rw [if_pos hlimit]
    rfl
  · have hpos : 0 < page.limit := UInt64.lt_iff_toNat_lt.mpr (Nat.pos_iff_ne_zero.mpr hlimit)
    have hlt : returned < page.limit := UInt64.not_le.mp fun hle => h ⟨hpos, hle⟩
    rw [if_neg hlimit, Option.map_some, Option.map_some, Option.map_some, toNat_add_one_of_lt hlt,
      Nat.sub_sub]

/-- The next record is the same, whether a stage counts upwards or downwards. -/
theorem nextWithin_toLimited (page : WordPage) (state : Counted child.State) :
    nextWithin child (state.toLimited page) =
      ((nextCounted page child state).1, (nextCounted page child state).2.toLimited page) := by
  have hroom := room_toLimited_eq_zero_iff page state
  unfold nextWithin nextCounted
  by_cases hfull : 0 < page.limit ∧ page.limit ≤ state.returned
  · rw [if_pos hfull, if_pos (hroom.mpr hfull)]
  rw [if_neg hfull, if_neg (mt hroom.mp hfull)]
  have hpass := passOver_eq_passOverUpTo page.offset state.skipped state.child
  rw [show passOver child (state.toLimited page).toSkip (state.toLimited page).child = _ from hpass]
  rcases passOverUpTo child page.offset state.skipped state.child with ⟨e | _ | _, skipped, after⟩
  · rfl
  · rfl
  · dsimp only
    rcases child.next after with ⟨e | _ | record, last⟩
    · rfl
    · rfl
    · show (_, (⟨last, _, _⟩ : Limited child.State)) = (_, ⟨last, _, _⟩)
      rw [room_of_not_full hfull]
      rfl

theorem left_nextCounted {state : Counted child.State} {record : Record}
    (h : (nextCounted page child state).1 = .ok (some record)) :
    child.left (nextCounted page child state).2.child < child.left state.child := by
  have hwithin := nextWithin_toLimited page state
  have hleft := @left_nextWithin child (state.toLimited page) record
  rw [hwithin] at hleft
  exact hleft h

/-- The stage that counts the records that it passes over and those that it gives, from zero when it
starts. -/
def countedLimit (page : WordPage) (child : Stage) : Stage :=
  guarded {
    State := Counted child.State
    fresh := ⟨child.fresh, 0, 0⟩
    start := fun state =>
      match child.start state.child with
      | (.error e, after) => (.error e, ⟨after, state.skipped, state.returned⟩)
      | (.ok (), after) => (.ok (), ⟨after, 0, 0⟩)
    next := nextCounted page child
    left := fun state => child.left state.child
    left_next := left_nextCounted }

/-! ### Counting does not change what a stage gives -/

/-- Whether a state with a limit is what another one with counters stands for, these being zero as
long as the stage is not started. -/
def CountsFor (page : WordPage) (child : Stage) (state : Guarded (Counted child.State))
    (state' : Guarded (Limited child.State)) : Prop :=
  state' = ⟨state.isStarted, state.state.toLimited page⟩ ∧
    (state.isStarted = false → state.state.skipped = 0 ∧ state.state.returned = 0)

theorem toLimited_zero {σ : Type} (page : WordPage) (state : σ) :
    (⟨state, 0, 0⟩ : Counted σ).toLimited page =
      ⟨state, page.toPage.offset, roomOf page.toPage.limit⟩ := by
  show Limited.mk state (page.offset.toNat - 0) ((roomOf page.limit.toNat).map (· - 0)) = _
  rw [Nat.sub_zero, show (fun room : Nat => room - 0) = id from funext Nat.sub_zero, Option.map_id]
  rfl

/-- **A stage that counts in words does what one with natural numbers does.** -/
theorem simulates_countedLimit (page : WordPage) (child : Stage) :
    (countedLimit page child).Simulates (limit page.toPage.limit page.toPage.offset child)
      (CountsFor page child) where
  fresh := by
    refine ⟨?_, fun _ => ⟨rfl, rfl⟩⟩
    exact congrArg (Guarded.mk false) (toLimited_zero page child.fresh).symm
  start := by
    rintro ⟨isStarted, state, skipped, returned⟩ _ ⟨rfl, hzero⟩
    cases isStarted with
    | true => exact ⟨rfl, rfl, nofun⟩
    | false =>
      obtain ⟨rfl, rfl⟩ := hzero rfl
      rcases hstart : child.start state with ⟨e | _, after⟩
      · simp only [countedLimit, limit, guarded, Counted.toLimited, hstart]
        exact ⟨rfl, rfl, fun _ => ⟨rfl, rfl⟩⟩
      · simp only [countedLimit, limit, guarded, Counted.toLimited, hstart]
        exact ⟨rfl, rfl, nofun⟩
  next := by
    rintro ⟨isStarted, state⟩ _ ⟨rfl, hzero⟩
    cases isStarted with
    | true =>
      have hwithin := nextWithin_toLimited page state
      dsimp only [countedLimit, limit, guarded]
      rw [hwithin]
      exact ⟨rfl, rfl, nofun⟩
    | false => exact ⟨rfl, rfl, hzero⟩

/-- Counting upwards in words does not change any reply. -/
theorem replies_countedLimit (page : WordPage) (child : Stage) (calls : List Call) :
    (countedLimit page child).replies calls =
      (limit page.toPage.limit page.toPage.offset child).replies calls :=
  (simulates_countedLimit page child).replies_eq calls

/-! ### What the counters count -/

/-- Whether a stage with counters has passed over some records of its child and has then given the
next ones, and its counters say how many; it gives none before it has passed over as many as it
should. -/
structure Counts (page : WordPage) (child : Stage) (state : Guarded (Counted child.State))
    (passed given : List Record) : Prop where
  reaches : child.Reaches state.state.child (passed ++ given)
  skipped : state.state.skipped.toNat = passed.length
  returned : state.state.returned = UInt64.ofNat given.length
  enough : given ≠ [] → page.offset ≤ state.state.skipped
  unstarted : state.isStarted = false → passed = [] ∧ given = []

/-- What a stage takes from its child to pass over it is counted. -/
theorem reaches_passOverUpTo (offset skipped : UInt64) {state : child.State}
    {passed : List Record} (h : child.Reaches state passed) :
    ∃ taken, child.Reaches (passOverUpTo child offset skipped state).2.2 (passed ++ taken) ∧
      (passOverUpTo child offset skipped state).2.1.toNat = skipped.toNat + taken.length ∧
      (offset ≤ skipped → taken = []) ∧
      ((passOverUpTo child offset skipped state).1 = .ok true →
        offset ≤ (passOverUpTo child offset skipped state).2.1) := by
  fun_induction passOverUpTo child offset skipped state generalizing passed with
  | case1 skipped state hlt e after hnext =>
    exact ⟨[], h.of_next hnext, rfl, fun _ => rfl, nofun⟩
  | case2 skipped state hlt after hnext =>
    exact ⟨[], h.of_next hnext, rfl, fun _ => rfl, nofun⟩
  | case3 skipped state hlt record after hnext ih =>
    obtain ⟨taken, hreaches, hskipped, -, henough⟩ := ih (h.of_next hnext)
    rw [toNat_add_one_of_lt hlt, Nat.add_assoc, Nat.add_comm 1] at hskipped
    refine ⟨record :: taken, List.append_cons .. ▸ hreaches, hskipped, fun hge => ?_, henough⟩
    exact absurd hlt (UInt64.not_lt.mpr hge)
  | case4 skipped state hge =>
    exact ⟨[], (List.append_nil passed).symm ▸ h, rfl, fun _ => rfl, fun _ => UInt64.not_lt.mp hge⟩

/-- What has been passed over grows, as long as nothing has been given. -/
theorem Counts.passOver {state : Guarded (Counted child.State)} {passed given : List Record}
    (h : Counts page child state passed given) :
    let result := passOverUpTo child page.offset state.state.skipped state.state.child
    ∃ taken, Counts page child ⟨true, ⟨result.2.2, result.2.1, state.state.returned⟩⟩
      (passed ++ taken) given ∧ (result.1 = .ok true → page.offset ≤ result.2.1) := by
  intro result
  obtain ⟨taken, hreaches, hskipped, hnone, henough⟩ :=
    reaches_passOverUpTo page.offset state.state.skipped h.reaches
  -- once a record has been given, nothing more is passed over
  have hgiven : given ≠ [] → taken = [] := fun hne => hnone (h.enough hne)
  have hcommute : passed ++ given ++ taken = passed ++ taken ++ given := by
    by_cases hne : given = []
    · rw [hne, List.append_nil, List.append_nil]
    · rw [hgiven hne, List.append_nil, List.append_nil]
  refine ⟨taken, ⟨hcommute ▸ hreaches, ?_, h.returned, fun hne => ?_,
    fun hstarted => absurd hstarted.symm Bool.false_ne_true⟩, henough⟩
  · rw [List.length_append, ← h.skipped]
    exact hskipped
  · rw [hgiven hne] at hskipped
    have hsame : state.state.skipped = result.2.1 := UInt64.toNat_inj.mp hskipped.symm
    exact hsame ▸ h.enough hne

/-- A call for the next record counts what it passes over and what it gives. -/
theorem Counts.next {state : Guarded (Counted child.State)} {passed given : List Record}
    (h : Counts page child state passed given) :
    ∃ taken, Counts page child ⟨true, (nextCounted page child state.state).2⟩ (passed ++ taken)
      (given ++ answered (nextCounted page child state.state).1) := by
  unfold nextCounted
  by_cases hfull : 0 < page.limit ∧ page.limit ≤ state.state.returned
  · rw [if_pos hfull]
    refine ⟨[], ?_⟩
    rw [List.append_nil, answered, List.append_nil]
    exact { h with unstarted := fun hstarted => absurd hstarted.symm Bool.false_ne_true }
  rw [if_neg hfull]
  obtain ⟨taken, hcounts, henough⟩ := h.passOver
  refine ⟨taken, ?_⟩
  rcases hpass : passOverUpTo child page.offset state.state.skipped state.state.child with
    ⟨e | _ | _, skipped, after⟩
  all_goals rw [hpass] at hcounts henough
  · exact (List.append_nil given).symm ▸ hcounts
  · exact (List.append_nil given).symm ▸ hcounts
  · dsimp only
    rcases hnext : child.next after with ⟨e | _ | record, last⟩
    all_goals have hlast := hcounts.reaches.of_next hnext
    · rw [answered, List.append_nil] at hlast
      exact (List.append_nil given).symm ▸ { hcounts with reaches := hlast }
    · rw [answered, List.append_nil] at hlast
      exact (List.append_nil given).symm ▸ { hcounts with reaches := hlast }
    · refine ⟨List.append_assoc .. ▸ hlast, hcounts.skipped, ?_, fun _ => henough rfl,
        fun hstarted => absurd hstarted.symm Bool.false_ne_true⟩
      show state.state.returned + 1 = UInt64.ofNat (given ++ [record]).length
      rw [h.returned, List.length_append, UInt64.ofNat_add]
      rfl

/-- **The counters of a stage count what it has passed over and what it has given.** -/
theorem counts_of_reaches {state : (countedLimit page child).State} {given : List Record}
    (h : (countedLimit page child).Reaches state given) :
    ∃ passed, Counts page child state passed given := by
  induction h with
  | fresh => exact ⟨[], .fresh, rfl, rfl, nofun, fun _ => ⟨rfl, rfl⟩⟩
  | @start state given _ ih =>
    obtain ⟨passed, hcounts⟩ := ih
    obtain ⟨isStarted, state⟩ := state
    cases isStarted with
    | true => exact ⟨passed, hcounts⟩
    | false =>
      -- a start sets the counters back, and nothing has been counted yet
      obtain ⟨rfl, rfl⟩ := hcounts.unstarted rfl
      have hstart := hcounts.reaches.start
      refine ⟨[], ?_⟩
      rcases hresult : child.start state.child with ⟨e | _, after⟩
      all_goals rw [hresult] at hstart
      · simp only [countedLimit, guarded, hresult]
        exact ⟨hstart, hcounts.skipped, hcounts.returned, nofun, fun _ => ⟨rfl, rfl⟩⟩
      · simp only [countedLimit, guarded, hresult]
        exact ⟨hstart, rfl, rfl, nofun, nofun⟩
  | @next state given _ ih =>
    obtain ⟨passed, hcounts⟩ := ih
    obtain ⟨isStarted, state⟩ := state
    cases isStarted with
    | true =>
      obtain ⟨taken, hnext⟩ := hcounts.next
      exact ⟨passed ++ taken, hnext⟩
    | false => exact ⟨passed, (List.append_nil given).symm ▸ hcounts⟩

end Stage

end Sift
