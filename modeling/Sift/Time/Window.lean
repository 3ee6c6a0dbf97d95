/-
# Time windows

A window keeps the records of some span of time, by the RFC 3339 text in one of their fields, or just
the last records. The number of last records comes before the bounds of the span: if it is given, they
do not count. A window without any of them keeps all records; otherwise a record without a readable
time is not kept, and bounds that are zero or negative let every time pass.

Key definitions: `TimeWindow`, `TimeWindow.select`.
-/
import Sift.Record
import Sift.Time.Duration
import Sift.Time.Instant

namespace Sift

/-- What part of the records to keep. -/
structure TimeWindow where
  /-- The field with the time of a record. -/
  field : String := "timestamp"
  /-- How long ago the window begins. -/
  since : Option String := none
  /-- How many of the last records to keep; zero for no such number. -/
  lastCount : Nat := 0
  /-- The first Unix second of the window; zero for no such bound. -/
  fromSeconds : Int := 0
  /-- The last Unix second of the window; zero for no such bound. -/
  toSeconds : Int := 0
deriving DecidableEq, Inhabited

namespace TimeWindow

/-- Whether the window keeps every record. -/
def isEmpty (window : TimeWindow) : Bool :=
  window.since.isNone && window.lastCount = 0 && window.fromSeconds = 0 && window.toSeconds = 0

/-- The time of a record. -/
def time? (window : TimeWindow) (record : Record) : Option Instant :=
  match record.get? window.field with
  | some (.string text) => Instant.read? text.toList
  | _ => none

/-- The instant that the window begins at, if it begins some time ago. -/
def start (window : TimeWindow) (now : Instant) : Except DurationError (Option Instant) :=
  match window.since with
  | none => .ok none
  | some since => do
    let seconds ← Duration.read since
    match now.minus? seconds with
    | some instant => .ok (some instant)
    | none => .error (.outOfRange since)

/-- Whether a time lies in the window. -/
def admits (window : TimeWindow) (start : Option Instant) (time : Instant) : Bool :=
  start.all (·.le time) &&
    (window.fromSeconds ≤ 0 || window.fromSeconds ≤ time.seconds) &&
    (window.toSeconds ≤ 0 || time.seconds ≤ window.toSeconds)

/-- The records that the window keeps. -/
def select (window : TimeWindow) (now : Instant) (records : List Record) :
    Except DurationError (List Record) :=
  if window.isEmpty then .ok records
  else if 0 < window.lastCount then .ok (records.drop (records.length - window.lastCount))
  else do
    let start ← window.start now
    return records.filter fun record => (window.time? record).any (window.admits start)

end TimeWindow

end Sift
