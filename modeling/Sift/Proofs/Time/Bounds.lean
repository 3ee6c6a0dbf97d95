/-
# Windows with bounds in Unix seconds

A window with bounds keeps the records that have a readable time, in a second from the first bound on and
up to the last one. Zero is no bound, and a window with two zeros keeps all records. A bound below zero is
one when it is asked whether the window is empty, but lets every time pass: so the window keeps the right
records exactly when no record has a time that only such a bound would refuse.

Key definitions: `TimeWindow.covers`, `TimeWindow.Slips`.
Key theorems: `TimeWindow.select_of_bounds`, `TimeWindow.select_eq_covered_iff`.
-/
import Sift.Time.Window

namespace Sift.TimeWindow

/-- Whether a second lies within the bounds of a window, of which zero is none. -/
def covers (window : TimeWindow) (second : Int) : Bool :=
  (window.fromSeconds = 0 || window.fromSeconds ≤ second) &&
    (window.toSeconds = 0 || second ≤ window.toSeconds)

/-- Whether a second passes only because a bound below zero that it is beyond lets it pass. -/
def Slips (window : TimeWindow) (second : Int) : Prop :=
  (window.fromSeconds < 0 ∧ second < window.fromSeconds) ∨
    (window.toSeconds < 0 ∧ window.toSeconds < second ∧
      (window.fromSeconds ≤ 0 ∨ window.fromSeconds ≤ second))

/-- A time is admitted rightly unless it slips past a bound. -/
theorem admits_eq_covers_iff (window : TimeWindow) (time : Instant) :
    window.admits none time = window.covers time.seconds ↔ ¬ window.Slips time.seconds := by
  unfold admits covers Slips
  rw [Bool.eq_iff_iff]
  simp only [Option.all_none, Bool.true_and, Bool.and_eq_true, Bool.or_eq_true, decide_eq_true_eq]
  omega

/-- Two choices from a list are the same when they agree on its elements, and only then. -/
theorem filter_eq_filter_iff {α : Type} {p q : α → Bool} {xs : List α} :
    xs.filter p = xs.filter q ↔ ∀ x ∈ xs, p x = q x := by
  refine ⟨fun h x hx => ?_, List.filter_congr⟩
  have hmem : x ∈ xs.filter p ↔ x ∈ xs.filter q := by rw [h]
  rwa [List.mem_filter, List.mem_filter, and_iff_right hx, and_iff_right hx, ← Bool.eq_iff_iff]
    at hmem

variable {window : TimeWindow}

/-- What a window with bounds keeps. -/
theorem select_of_bounds (hsince : window.since = none) (hlast : window.lastCount = 0)
    (hbounds : window.fromSeconds ≠ 0 ∨ window.toSeconds ≠ 0) (now : Instant)
    (records : List Record) :
    window.select now records =
      .ok (records.filter fun record => (window.time? record).any (window.admits none)) := by
  have hempty : window.isEmpty = false := by
    unfold isEmpty
    simp [hsince, hlast]
    omega
  have hstart : window.start now = .ok none := by
    unfold start
    rw [hsince]
  unfold select
  rw [hempty, hlast, hstart]
  rfl

/-- **When the bounds of a window hold.** A window with bounds, and without a start some time ago or a
number of last records, keeps exactly the records whose time is readable and in a second within the
bounds, in their order, unless a record has a time in a second that slips past a bound below zero. -/
theorem select_eq_covered_iff (hsince : window.since = none) (hlast : window.lastCount = 0)
    (hbounds : window.fromSeconds ≠ 0 ∨ window.toSeconds ≠ 0) (now : Instant)
    (records : List Record) :
    window.select now records =
        .ok (records.filter fun record =>
          (window.time? record).any fun time => window.covers time.seconds) ↔
      ∀ record ∈ records, ∀ time, window.time? record = some time → ¬ window.Slips time.seconds := by
  rw [select_of_bounds hsince hlast hbounds, Except.ok.injEq, filter_eq_filter_iff]
  refine forall_congr' fun record => imp_congr_right fun _ => ?_
  rcases window.time? record with _ | time
  · simp
  · simp [admits_eq_covers_iff]

/-- A window from ten seconds before 1970 on keeps a time in the last second before 1970, as it should. It
also keeps a time a minute before 1970, which slips past its bound. -/
theorem select_eq_covered_iff_from_before_1970 :
    let window : TimeWindow := { fromSeconds := -10 }
    let inside := Record.ofList [("timestamp", .string "1969-12-31T23:59:59.5Z")]
    let before := Record.ofList [("timestamp", .string "1969-12-31T23:59:00Z")]
    window.since = none ∧ window.lastCount = 0 ∧
      (window.fromSeconds ≠ 0 ∨ window.toSeconds ≠ 0) ∧
      window.time? inside = some ⟨-1, 500000000⟩ ∧ window.time? before = some ⟨-60, 0⟩ ∧
      window.select ⟨0, 0⟩ [inside] = .ok [inside] ∧
      ¬ window.select ⟨0, 0⟩ [before, inside] = .ok [inside] := by
  intro window inside before
  have hbounds : window.fromSeconds ≠ 0 ∨ window.toSeconds ≠ 0 := .inl (by decide)
  have hinside : window.time? inside = some ⟨-1, 500000000⟩ := by decide +kernel
  have hbefore : window.time? before = some ⟨-60, 0⟩ := by decide +kernel
  have hkept : [inside].filter (fun record => (window.time? record).any fun time =>
      window.covers time.seconds) = [inside] := by
    rw [List.filter_cons, hinside, List.filter_nil]
    rfl
  have hdropped : [before, inside].filter (fun record => (window.time? record).any fun time =>
      window.covers time.seconds) = [inside] := by
    rw [List.filter_cons, hbefore, List.filter_cons, hinside, List.filter_nil]
    rfl
  have hright := select_eq_covered_iff rfl rfl hbounds ⟨0, 0⟩ [inside]
  have hwrong := select_eq_covered_iff rfl rfl hbounds ⟨0, 0⟩ [before, inside]
  rw [hkept] at hright
  rw [hdropped] at hwrong
  refine ⟨rfl, rfl, hbounds, hinside, hbefore, hright.mpr ?_, fun h => ?_⟩
  · intro record hmem time htime
    rw [List.mem_singleton.mp hmem, hinside] at htime
    cases htime
    unfold Slips
    decide
  · refine hwrong.mp h before List.mem_cons_self _ hbefore (.inl ?_)
    decide

/-- A window from ten seconds before 1970 on keeps a record that is not from within its bounds. -/
theorem not_select_eq_covered_before_1970 :
    let window : TimeWindow := { fromSeconds := -10 }
    let record := Record.ofList [("timestamp", .string "1969-12-31T23:59:00Z")]
    window.time? record = some ⟨-60, 0⟩ ∧ window.covers (-60) = false ∧
      window.select ⟨0, 0⟩ [record] = .ok [record] ∧
      ¬ window.select ⟨0, 0⟩ [record] =
        .ok ([record].filter fun record =>
          (window.time? record).any fun time => window.covers time.seconds) := by
  intro window record
  have htime : window.time? record = some ⟨-60, 0⟩ := by decide +kernel
  have hselect : window.select ⟨0, 0⟩ [record] = .ok [record] := by
    rw [select_of_bounds rfl rfl (.inl (by decide)), List.filter_cons, htime, List.filter_nil]
    rfl
  have hcovered : [record].filter (fun record =>
      (window.time? record).any fun time => window.covers time.seconds) = [] := by
    rw [List.filter_cons, htime, List.filter_nil]
    rfl
  refine ⟨htime, by decide, hselect, ?_⟩
  rw [hselect, hcovered]
  exact nofun

end Sift.TimeWindow
