/-
# Stages that do the same

Two stages do the same if a relation between their states holds when they are fresh and is kept by
starts and by calls for the next record, to which both reply alike. Then they reply alike to all
calls, and collecting them gives the same records.

Key definition: `Stage.Simulates`.
Key theorems: `Stage.Simulates.drain`, `Stage.Simulates.replies_eq`, `Stage.Simulates.toList_eq`.
-/
import Sift.Proofs.Stage.Stream

namespace Sift.Stage

variable {stage other : Stage}

theorem reply_start_fst (stage : Stage) (state : stage.State) : (stage.reply state .start).1 =
    match (stage.start state).1 with
    | .error e => .failed e
    | .ok () => .started := by
  unfold reply
  rcases stage.start state with ⟨_ | _, after⟩ <;> rfl

theorem reply_next_fst (stage : Stage) (state : stage.State) : (stage.reply state .next).1 =
    match (stage.next state).1 with
    | .error e => .failed e
    | .ok none => .ended
    | .ok (some record) => .record record := by
  unfold reply
  rcases stage.next state with ⟨_ | _ | _, after⟩ <;> rfl

theorem reply_collect_fst (stage : Stage) (state : stage.State) : (stage.reply state .collect).1 =
    match (stage.collect state).1 with
    | .error e => .failed e
    | .ok records => .records records := by
  unfold reply
  rcases stage.collect state with ⟨_ | _, after⟩ <;> rfl

/-- Whether a relation between the states of two stages holds when they are fresh and is kept by
starts and by calls for the next record, to which both reply alike. -/
structure Simulates (stage other : Stage) (R : stage.State → other.State → Prop) : Prop where
  fresh : R stage.fresh other.fresh
  start : ∀ {state state'}, R state state' →
    (stage.start state).1 = (other.start state').1 ∧ R (stage.start state).2 (other.start state').2
  next : ∀ {state state'}, R state state' →
    (stage.next state).1 = (other.next state').1 ∧ R (stage.next state).2 (other.next state').2

namespace Simulates

variable {R : stage.State → other.State → Prop} {state : stage.State} {state' : other.State}

theorem exists_next (h : stage.Simulates other R) (hstate : R state state')
    {answer : Except StageError (Option Record)} {after : stage.State}
    (hnext : stage.next state = (answer, after)) :
    ∃ after', other.next state' = (answer, after') ∧ R after after' := by
  obtain ⟨hanswer, hafter⟩ := h.next hstate
  rw [hnext] at hanswer hafter
  exact ⟨(other.next state').2, Prod.ext hanswer.symm rfl, hafter⟩

theorem drain (h : stage.Simulates other R) (hstate : R state state') :
    (stage.drain state).1 = (other.drain state').1 ∧
      R (stage.drain state).2 (other.drain state').2 := by
  fun_induction stage.drain state generalizing state' with
  | case1 state e after hnext =>
    obtain ⟨after', hother, hafter⟩ := h.exists_next hstate hnext
    rw [drain_of_error hother]
    exact ⟨rfl, hafter⟩
  | case2 state after hnext =>
    obtain ⟨after', hother, hafter⟩ := h.exists_next hstate hnext
    rw [drain_of_end hother]
    exact ⟨rfl, hafter⟩
  | case3 state record after hnext e last hdrain ih =>
    obtain ⟨after', hother, hafter⟩ := h.exists_next hstate hnext
    obtain ⟨hrest, hlast⟩ := ih hafter
    rw [hdrain] at hrest hlast
    rw [drain_of_record hother, ← hrest]
    exact ⟨rfl, hlast⟩
  | case4 state record after hnext records last hdrain ih =>
    obtain ⟨after', hother, hafter⟩ := h.exists_next hstate hnext
    obtain ⟨hrest, hlast⟩ := ih hafter
    rw [hdrain] at hrest hlast
    rw [drain_of_record hother, ← hrest]
    exact ⟨rfl, hlast⟩

theorem collect (h : stage.Simulates other R) (hstate : R state state') :
    (stage.collect state).1 = (other.collect state').1 ∧
      R (stage.collect state).2 (other.collect state').2 := by
  obtain ⟨hresult, hafter⟩ := h.start hstate
  unfold Stage.collect
  rcases hstart : stage.start state with ⟨result, after⟩
  rcases hother : other.start state' with ⟨result', after'⟩
  rw [hstart, hother] at hresult hafter
  obtain rfl : result = result' := hresult
  rcases result with e | _
  · exact ⟨rfl, hafter⟩
  · exact h.drain hafter

theorem reply (h : stage.Simulates other R) (hstate : R state state') (call : Call) :
    (stage.reply state call).1 = (other.reply state' call).1 ∧
      R (stage.reply state call).2 (other.reply state' call).2 := by
  cases call with
  | start =>
    obtain ⟨hresult, hafter⟩ := h.start hstate
    rw [reply_start_snd, reply_start_snd, reply_start_fst, reply_start_fst, hresult]
    exact ⟨rfl, hafter⟩
  | next =>
    obtain ⟨hanswer, hafter⟩ := h.next hstate
    rw [reply_next_snd, reply_next_snd, reply_next_fst, reply_next_fst, hanswer]
    exact ⟨rfl, hafter⟩
  | collect =>
    obtain ⟨hresult, hafter⟩ := h.collect hstate
    rw [reply_collect_snd, reply_collect_snd, reply_collect_fst, reply_collect_fst, hresult]
    exact ⟨rfl, hafter⟩

theorem repliesFrom (h : stage.Simulates other R) : ∀ (calls : List Call) {state : stage.State}
    {state' : other.State}, R state state' →
      stage.repliesFrom state calls = other.repliesFrom state' calls
  | [], _, _, _ => rfl
  | call :: calls, state, state', hstate => by
    obtain ⟨hreply, hafter⟩ := h.reply hstate call
    unfold Stage.repliesFrom
    dsimp only
    rw [hreply, h.repliesFrom calls hafter]

/-- Both stages reply alike to all calls. -/
theorem replies_eq (h : stage.Simulates other R) (calls : List Call) :
    stage.replies calls = other.replies calls :=
  h.repliesFrom calls h.fresh

theorem toList_eq (h : stage.Simulates other R) : stage.toList = other.toList :=
  (h.collect h.fresh).1

end Simulates

end Sift.Stage
