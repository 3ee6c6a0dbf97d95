/-
# Windows and their parts

What a window keeps it keeps again. Without a number of last records it looks at each record by itself:
either it cannot be applied to any records, or it keeps the records that it `keeps` once its start is
known. Such a window has three parts, each with one of its bounds. Applied one after the other, in any
order, they do what the window does: only the part that begins some time ago can fail, and it does so
whatever records are left for it; a part without its bound keeps every record, also one without a
readable time, but then the parts with bounds drop it.

Key definitions: `TimeWindow.keeps`, `TimeWindow.parts`, `TimeWindow.selectAll`.
Key theorems: `TimeWindow.select_of_unlimited`, `TimeWindow.keeps_parts`, `TimeWindow.selectAll_of_starts`,
`TimeWindow.select_again_and_by_parts`.
-/
import Sift.Time.Window

namespace Sift.TimeWindow

/-- Whether a window with a given start, and without a number of last records, keeps a record. -/
def keeps (window : TimeWindow) (start : Option Instant) (record : Record) : Bool :=
  window.isEmpty || (window.time? record).any (window.admits start)

/-- Whether a window keeps a record, as far as it can be applied. -/
def keepsAt (window : TimeWindow) (now : Instant) (record : Record) : Bool :=
  (window.start now).toOption.any (window.keeps · record)

/-- The part of a window that begins some time ago. -/
def sincePart (window : TimeWindow) : TimeWindow :=
  { field := window.field, since := window.since }

/-- The part of a window with its first second. -/
def fromPart (window : TimeWindow) : TimeWindow :=
  { field := window.field, fromSeconds := window.fromSeconds }

/-- The part of a window with its last second. -/
def toPart (window : TimeWindow) : TimeWindow :=
  { field := window.field, toSeconds := window.toSeconds }

/-- The parts of a window without a number of last records. -/
def parts (window : TimeWindow) : List TimeWindow :=
  [window.sincePart, window.fromPart, window.toPart]

/-- The records that windows keep one after the other, each of those that the one before it kept. -/
def selectAll (windows : List TimeWindow) (now : Instant) (records : List Record) :
    Except DurationError (List Record) :=
  windows.foldlM (fun kept window => window.select now kept) records

variable {window : TimeWindow} {now : Instant} {records kept : List Record}

/-! ### One window -/

theorem isEmpty_iff {window : TimeWindow} (hlast : window.lastCount = 0) :
    window.isEmpty = true ↔
      window.since = none ∧ window.fromSeconds = 0 ∧ window.toSeconds = 0 := by
  unfold isEmpty
  simp [hlast, and_assoc]

theorem admits_iff {start : Option Instant} {time : Instant} :
    window.admits start time = true ↔
      (start.all (·.le time) = true ∧ (window.fromSeconds ≤ 0 ∨ window.fromSeconds ≤ time.seconds)) ∧
        (window.toSeconds ≤ 0 ∨ time.seconds ≤ window.toSeconds) := by
  unfold admits
  simp

/-- A window without a number of last records decides on each record by itself. -/
theorem select_of_unlimited (hlast : window.lastCount = 0) (now : Instant) (records : List Record) :
    window.select now records =
      (window.start now).map fun start => records.filter (window.keeps start) := by
  unfold select
  by_cases hempty : window.isEmpty = true
  · obtain ⟨hsince, -, -⟩ := (isEmpty_iff hlast).mp hempty
    have hstart : window.start now = .ok none := by
      unfold start
      rw [hsince]
    have hall : records.filter (window.keeps none) = records :=
      List.filter_eq_self.mpr fun record _ => by simp [keeps, hempty]
    rw [if_pos hempty, hstart, Except.map, hall]
  · have hkeeps (start : Option Instant) : window.keeps start =
        fun record => (window.time? record).any (window.admits start) := by
      funext record
      simp [keeps, hempty]
    have hcount : ¬ 0 < window.lastCount := by omega
    rw [if_neg hempty, if_neg hcount]
    cases window.start now with
    | error e => rfl
    | ok start =>
      rw [Except.map, hkeeps]
      rfl

/-- A number of last records comes before everything else. -/
theorem select_of_limited (hlast : 0 < window.lastCount) (now : Instant) (records : List Record) :
    window.select now records = .ok (records.drop (records.length - window.lastCount)) := by
  have hempty : ¬ window.isEmpty = true := by
    intro h
    have hzero : window.lastCount = 0 := by
      unfold isEmpty at h
      simp only [Bool.and_eq_true, decide_eq_true_eq] at h
      exact h.1.1.2
    omega
  unfold select
  rw [if_neg hempty, if_pos hlast]

theorem select_of_start (hlast : window.lastCount = 0) {start : Option Instant}
    (hstart : window.start now = .ok start) (records : List Record) :
    window.select now records = .ok (records.filter (window.keeps start)) := by
  rw [select_of_unlimited hlast, hstart, Except.map]

theorem select_eq_ok_iff (hlast : window.lastCount = 0) :
    window.select now records = .ok kept ↔
      ∃ start, window.start now = .ok start ∧ kept = records.filter (window.keeps start) := by
  rw [select_of_unlimited hlast]
  cases window.start now with
  | error e => simp [Except.map]
  | ok start => simp [Except.map, eq_comm]

theorem sublist_of_select (h : window.select now records = .ok kept) : kept.Sublist records := by
  rcases Nat.eq_zero_or_pos window.lastCount with hlast | hlast
  · obtain ⟨start, -, rfl⟩ := (select_eq_ok_iff hlast).mp h
    exact List.filter_sublist
  · rw [select_of_limited hlast] at h
    obtain rfl := Except.ok.inj h
    exact List.drop_sublist _ _

/-- What a window keeps it keeps again. -/
theorem select_of_select (h : window.select now records = .ok kept) :
    window.select now kept = .ok kept := by
  rcases Nat.eq_zero_or_pos window.lastCount with hlast | hlast
  · obtain ⟨start, hstart, rfl⟩ := (select_eq_ok_iff hlast).mp h
    refine (select_eq_ok_iff hlast).mpr ⟨start, hstart, ?_⟩
    rw [List.filter_filter]
    simp only [Bool.and_self]
  · rw [select_of_limited hlast] at h
    obtain rfl := Except.ok.inj h
    have hlength : (records.drop (records.length - window.lastCount)).length ≤ window.lastCount := by
      rw [List.length_drop]
      omega
    rw [select_of_limited hlast, Nat.sub_eq_zero_of_le hlength, List.drop_zero]

/-- A number of last records keeps as many records from the end as there are. -/
theorem suffix_of_select (hlast : 0 < window.lastCount)
    (h : window.select now records = .ok kept) :
    kept <:+ records ∧ kept.length = min window.lastCount records.length := by
  rw [select_of_limited hlast] at h
  obtain rfl := Except.ok.inj h
  refine ⟨List.drop_suffix _ _, ?_⟩
  rw [List.length_drop]
  omega

/-! ### Several windows -/

theorem selectAll_cons (window : TimeWindow) (windows : List TimeWindow) (now : Instant)
    (records : List Record) :
    selectAll (window :: windows) now records =
      (window.select now records).bind (selectAll windows now) :=
  List.foldlM_cons

/-- Windows that can be applied keep the records that each of them keeps. -/
theorem selectAll_of_starts {windows : List TimeWindow}
    (h : ∀ window ∈ windows, window.lastCount = 0 ∧ ∃ start, window.start now = .ok start) :
    ∀ records, selectAll windows now records =
      .ok (records.filter fun record => windows.all (·.keepsAt now record)) := by
  induction windows with
  | nil =>
    intro records
    have hall : records.filter (fun _ => true) = records :=
      List.filter_eq_self.mpr fun _ _ => rfl
    simp only [List.all_nil, hall]
    rfl
  | cons window windows ih =>
    intro records
    obtain ⟨hlast, start, hstart⟩ := h window List.mem_cons_self
    have hwindows := ih fun other hother => h other (List.mem_cons_of_mem _ hother)
    have hkeeps (record : Record) : window.keepsAt now record = window.keeps start record := by
      simp [keepsAt, hstart, Except.toOption]
    calc selectAll (window :: windows) now records
        = (window.select now records).bind (selectAll windows now) := selectAll_cons _ _ _ _
      _ = selectAll windows now (records.filter (window.keeps start)) := by
          rw [select_of_start hlast hstart]
          rfl
      _ = .ok (records.filter fun record =>
            (window :: windows).all (·.keepsAt now record)) := by
          rw [hwindows, List.filter_filter]
          simp only [List.all_cons, hkeeps, Bool.and_comm]

/-- If some window cannot be applied, and none for another reason, then this is how all of them end. -/
theorem selectAll_of_error {windows : List TimeWindow} {e : DurationError}
    (h : ∀ window ∈ windows, window.lastCount = 0 ∧
      ((∃ start, window.start now = .ok start) ∨ window.start now = .error e))
    (hfails : ∃ window ∈ windows, window.start now = .error e) :
    ∀ records, selectAll windows now records = .error e := by
  induction windows with
  | nil =>
    obtain ⟨window, hmem, -⟩ := hfails
    cases hmem
  | cons window windows ih =>
    intro records
    obtain ⟨hlast, hstart | herror⟩ := h window List.mem_cons_self
    · obtain ⟨start, hstart⟩ := hstart
      have hrest : ∃ other ∈ windows, other.start now = .error e := by
        obtain ⟨other, hmem, hother⟩ := hfails
        rcases List.mem_cons.mp hmem with rfl | hmem
        · rw [hstart] at hother
          cases hother
        · exact ⟨other, hmem, hother⟩
      have hwindows := ih (fun other hother => h other (List.mem_cons_of_mem _ hother)) hrest
      calc selectAll (window :: windows) now records
          = (window.select now records).bind (selectAll windows now) := selectAll_cons _ _ _ _
        _ = selectAll windows now (records.filter (window.keeps start)) := by
            rw [select_of_start hlast hstart]
            rfl
        _ = .error e := hwindows _
    · have hfirst : window.select now records = .error e := by
        rw [select_of_unlimited hlast, herror, Except.map]
      rw [selectAll_cons, hfirst]
      rfl

/-! ### The parts of a window -/

/-- Without a readable time a record is kept by the empty window alone. -/
theorem keeps_of_no_time (window : TimeWindow) {record : Record}
    (htime : window.time? record = none) (start : Option Instant) :
    window.keeps start record = window.isEmpty := by
  simp [keeps, htime]

/-- With a readable time it is the bounds that count: the empty window has none. -/
theorem keeps_of_time (window : TimeWindow) {record : Record} {time : Instant}
    (htime : window.time? record = some time) (hlast : window.lastCount = 0)
    {start : Option Instant} (hstart : window.start now = .ok start) :
    window.keeps start record = window.admits start time := by
  have hadmits : window.isEmpty = true → window.admits start time = true := by
    intro hempty
    obtain ⟨hsince, hfrom, hto⟩ := (isEmpty_iff hlast).mp hempty
    have hnone : start = none := by
      unfold TimeWindow.start at hstart
      rw [hsince] at hstart
      exact (Except.ok.inj hstart).symm
    simp [admits, hnone, hfrom, hto]
  unfold keeps
  rw [htime, Option.any_some, Bool.or_eq_right_iff_imp]
  exact hadmits

/-- Only the part that begins some time ago has a start, the one of the window. -/
theorem start_of_mem_parts {part : TimeWindow} (h : part ∈ window.parts) (now : Instant) :
    part.lastCount = 0 ∧ (part.start now = .ok none ∨ part.start now = window.start now) := by
  simp only [parts, List.mem_cons, List.not_mem_nil, or_false] at h
  rcases h with rfl | rfl | rfl
  · exact ⟨rfl, .inr rfl⟩
  · exact ⟨rfl, .inl rfl⟩
  · exact ⟨rfl, .inl rfl⟩

/-- A window keeps what all of its parts keep. -/
theorem keeps_parts (hlast : window.lastCount = 0) {start : Option Instant}
    (hstart : window.start now = .ok start) (record : Record) :
    window.parts.all (·.keepsAt now record) = window.keeps start record := by
  have hsince : window.sincePart.start now = .ok start := hstart
  have hfrom : window.fromPart.start now = .ok none := rfl
  have hto : window.toPart.start now = .ok none := rfl
  have hparts : window.parts.all (·.keepsAt now record) =
      (window.sincePart.keeps start record &&
        (window.fromPart.keeps none record && window.toPart.keeps none record)) := by
    simp only [parts, List.all_cons, List.all_nil, Bool.and_true, keepsAt, hsince, hfrom, hto]
    rfl
  rw [hparts, Bool.eq_iff_iff, Bool.and_eq_true, Bool.and_eq_true]
  -- The parts look for the time in the same field.
  cases htime : window.time? record with
  | none =>
    rw [window.keeps_of_no_time htime, window.sincePart.keeps_of_no_time htime,
      window.fromPart.keeps_of_no_time htime, window.toPart.keeps_of_no_time htime,
      isEmpty_iff hlast, isEmpty_iff rfl, isEmpty_iff rfl, isEmpty_iff rfl]
    simp [sincePart, fromPart, toPart]
  | some time =>
    rw [window.keeps_of_time htime hlast hstart, window.sincePart.keeps_of_time htime rfl hsince,
      window.fromPart.keeps_of_time htime rfl hfrom, window.toPart.keeps_of_time htime rfl hto,
      admits_iff, admits_iff, admits_iff, admits_iff]
    simp [sincePart, fromPart, toPart, and_assoc]

/-- The parts of a window, in any order, do what the window does. -/
theorem selectAll_of_perm (hlast : window.lastCount = 0) {windows : List TimeWindow}
    (hperm : windows.Perm window.parts) (now : Instant) (records : List Record) :
    selectAll windows now records = window.select now records := by
  rw [select_of_unlimited hlast]
  cases hstart : window.start now with
  | ok start =>
    have hstarts : ∀ part ∈ windows, part.lastCount = 0 ∧ ∃ start, part.start now = .ok start := by
      intro part hmem
      obtain ⟨hpart, hnone | hsame⟩ := start_of_mem_parts (hperm.mem_iff.mp hmem) now
      · exact ⟨hpart, none, hnone⟩
      · exact ⟨hpart, start, hsame.trans hstart⟩
    have hkeeps (record : Record) : windows.all (·.keepsAt now record) = window.keeps start record :=
      hperm.all_eq.trans (keeps_parts hlast hstart record)
    rw [selectAll_of_starts hstarts, Except.map]
    simp only [hkeeps]
  | error e =>
    have hends : ∀ part ∈ windows, part.lastCount = 0 ∧
        ((∃ start, part.start now = .ok start) ∨ part.start now = .error e) := by
      intro part hmem
      obtain ⟨hpart, hnone | hsame⟩ := start_of_mem_parts (hperm.mem_iff.mp hmem) now
      · exact ⟨hpart, .inl ⟨none, hnone⟩⟩
      · exact ⟨hpart, .inr (hsame.trans hstart)⟩
    have hfails : ∃ part ∈ windows, part.start now = .error e :=
      ⟨window.sincePart, hperm.mem_iff.mpr List.mem_cons_self, hstart⟩
    rw [selectAll_of_error hends hfails, Except.map]

/-- **Windows are idempotent, and they can be taken apart.** What a window keeps of a list is in the
order of the list, and the window keeps all of it again; with a number of last records it is the end of
the list that has this length, or the whole list. Without such a number a window that can be applied to
some list can be applied to all, and whether it keeps a record depends on the record alone. Then its
three parts, one after the other in any order, keep the same records or fail with the same error. -/
theorem select_again_and_by_parts (window : TimeWindow) (now : Instant) (records : List Record) :
    (∀ kept, window.select now records = .ok kept →
      kept.Sublist records ∧
      (0 < window.lastCount →
        kept <:+ records ∧ kept.length = min window.lastCount records.length) ∧
      window.select now kept = .ok kept ∧
      (window.lastCount = 0 → ∃ keeps : Record → Bool,
        ∀ others, window.select now others = .ok (others.filter keeps))) ∧
    (window.lastCount = 0 → ∀ windows : List TimeWindow, windows.Perm window.parts →
      selectAll windows now records = window.select now records) := by
  refine ⟨fun kept h => ⟨sublist_of_select h, fun hlast => suffix_of_select hlast h,
    select_of_select h, fun hlast => ?_⟩, fun hlast windows hperm => ?_⟩
  · obtain ⟨start, hstart, -⟩ := (select_eq_ok_iff hlast).mp h
    exact ⟨window.keeps start, fun others => (select_eq_ok_iff hlast).mpr ⟨start, hstart, rfl⟩⟩
  · exact selectAll_of_perm hlast hperm now records

/-- A window of a minute keeps one of three records, again and by its parts; two last records are kept
without a look at how long ago the window begins. -/
theorem select_again_and_by_parts_of_three :
    let window : TimeWindow := { field := "at", fromSeconds := 60, toSeconds := 120 }
    let last : TimeWindow := { since := some "never", lastCount := 2 }
    let early := Record.ofList [("at", .string "1970-01-01T00:00:59Z")]
    let inside := Record.ofList [("at", .string "1970-01-01T00:01:30Z")]
    let windows := [window.toPart, window.sincePart, window.fromPart]
    let records := [early, inside, Record.empty]
    window.lastCount = 0 ∧ windows.Perm window.parts ∧
      window.select ⟨0, 0⟩ records = .ok [inside] ∧ window.select ⟨0, 0⟩ [inside] = .ok [inside] ∧
      selectAll windows ⟨0, 0⟩ records = .ok [inside] ∧
      0 < last.lastCount ∧ last.select ⟨0, 0⟩ records = .ok [inside, Record.empty] ∧
      [inside, Record.empty] <:+ records := by
  intro window last early inside windows records
  have hlast : window.lastCount = 0 := rfl
  have hperm : windows.Perm window.parts :=
    show ([window.toPart] ++ [window.sincePart, window.fromPart]).Perm _ from List.perm_append_comm
  have hkept : window.select ⟨0, 0⟩ records = .ok [inside] := by
    refine (select_eq_ok_iff hlast).mpr ⟨none, rfl, ?_⟩
    decide +kernel
  have hcount : 0 < last.lastCount := by decide
  have htwo : last.select ⟨0, 0⟩ records = .ok [inside, Record.empty] :=
    select_of_limited hcount ⟨0, 0⟩ records
  obtain ⟨hagain, hparts⟩ := select_again_and_by_parts window ⟨0, 0⟩ records
  obtain ⟨-, -, hsame, -⟩ := hagain [inside] hkept
  obtain ⟨hlimited, -⟩ := select_again_and_by_parts last ⟨0, 0⟩ records
  obtain ⟨-, hsuffix, -, -⟩ := hlimited [inside, Record.empty] htwo
  exact ⟨hlast, hperm, hkept, hsame, (hparts hlast windows hperm).trans hkept, hcount, htwo,
    (hsuffix hcount).1⟩

end Sift.TimeWindow
