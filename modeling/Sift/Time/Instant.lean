/-
# Instants

An instant is a second of Unix time and the nanoseconds into it; a leap second is the second before it
with a whole second of nanoseconds more. Instants are ordered by their seconds, then by their nanoseconds.

Instants are read from RFC 3339 texts: a date, a time of day with any number of decimal places, of
which nine count, and an offset from UTC.

Key definitions: `Date.dayNumber`, `Instant`, `Instant.minus?`, `Instant.read?`.
-/
import Sift.Text.Reader

namespace Sift

/-- A date of the Gregorian calendar, extended to all years. -/
structure Date where
  year : Int
  month : Nat
  day : Nat
deriving DecidableEq

namespace Date

def isLeapYear (year : Int) : Bool :=
  year % 4 = 0 && (year % 100 ≠ 0 || year % 400 = 0)

/-- The lengths of the months of a year. -/
def monthLengths (year : Int) : List Nat :=
  [31, if isLeapYear year then 29 else 28, 31, 30, 31, 30, 31, 31, 30, 31, 30, 31]

/-- Whether the year has the month and the month the day. -/
def isValid (date : Date) : Bool :=
  1 ≤ date.month && date.month ≤ 12 && 1 ≤ date.day &&
    date.day ≤ (monthLengths date.year).getD (date.month - 1) 0

/-- The number of days from the first day of the year 1 to the first day of a year. -/
def daysBeforeYear (year : Int) : Int :=
  let years := year - 1
  365 * years + years / 4 - years / 100 + years / 400

/-- The number of days of a year before a month. -/
def daysBeforeMonth (year : Int) (month : Nat) : Nat :=
  ((monthLengths year).take (month - 1)).foldr (· + ·) 0

/-- The number of days from 1970-01-01 to a date. -/
def dayNumber (date : Date) : Int :=
  daysBeforeYear date.year - daysBeforeYear 1970 +
    daysBeforeMonth date.year date.month + (date.day - 1 : Nat)

end Date

/-- The number of nanoseconds in a second. -/
def nanosPerSecond : Nat := 1000000000

/-- A point of time. -/
structure Instant where
  /-- Seconds since 1970-01-01 00:00 UTC. -/
  seconds : Int
  /-- Nanoseconds into the second, or past it during a leap second. -/
  nanos : Nat
deriving DecidableEq

namespace Instant

/-- Whether an instant is not after another. -/
def le (a b : Instant) : Bool :=
  a.seconds < b.seconds || (a.seconds = b.seconds && a.nanos ≤ b.nanos)

/-- The first day of those that instants are computed for. -/
def firstDay : Int :=
  Date.dayNumber ⟨-262143, 1, 1⟩

/-- The last day of those that instants are computed for. -/
def lastDay : Int :=
  Date.dayNumber ⟨262142, 12, 31⟩

/-- The same instant outside of a leap second: its nanoseconds are counted in the second itself for
what comes before, in the next second for what comes after. -/
def leaveLeapSecond (instant : Instant) (seconds : Int) : Instant :=
  if instant.nanos < nanosPerSecond ∨ seconds = 0 then instant
  else if 0 < seconds then ⟨instant.seconds + 1, instant.nanos - nanosPerSecond⟩
  else ⟨instant.seconds, instant.nanos - nanosPerSecond⟩

/-- The instant some seconds before another, or after it when they are negative, unless its day is
out of range. -/
def minus? (instant : Instant) (seconds : Int) : Option Instant :=
  let start := instant.leaveLeapSecond seconds
  let result : Instant := ⟨start.seconds - seconds, start.nanos⟩
  let day := result.seconds / 86400
  if firstDay ≤ day ∧ day ≤ lastDay then some result else none

/-! ### Reading RFC 3339 -/

open Reader

/-- Takes a number of so many digits. -/
def readDigits (count : Nat) : Reader Unit Nat := do
  let digits := (← lookAhead).take count
  if digits.length = count ∧ digits.all Char.isDigit then
    skip count
    return Nat.ofDigitChars 10 digits 0
  else fail ()

/-- Takes a date: YYYY-MM-DD. -/
def readDate : Reader Unit Date := do
  let year ← readDigits 4
  expect '-' ()
  let month ← readDigits 2
  expect '-' ()
  let day ← readDigits 2
  let date : Date := ⟨year, month, day⟩
  if date.isValid then return date else fail ()

/-- Takes the decimal places of a second, if there are some: the nanoseconds. -/
def readNanos : Reader Unit Nat := do
  if (← peek) = some '.' then
    skip 1
    let digits ← Reader.takeWhile Char.isDigit
    if digits.isEmpty then fail ()
    else return Nat.ofDigitChars 10 ((digits ++ List.replicate 9 '0').take 9) 0
  else return 0

/-- Takes a time of day, HH:MM:SS with decimal places: the seconds and nanoseconds into the day. The
second 60 is a leap second. -/
def readTimeOfDay : Reader Unit (Nat × Nat) := do
  let hour ← readDigits 2
  expect ':' ()
  let minute ← readDigits 2
  expect ':' ()
  let second ← readDigits 2
  let nanos ← readNanos
  if hour < 24 ∧ minute < 60 ∧ second ≤ 60 then
    if second = 60 then return (3600 * hour + 60 * minute + 59, nanos + nanosPerSecond)
    else return (3600 * hour + 60 * minute + second, nanos)
  else fail ()

/-- The sign of an offset; the minus sign has two forms. -/
def offsetSign? (c : Char) : Option Int :=
  if c = '+' then some 1 else if c = '-' ∨ c = '\u2212' then some (-1) else none

/-- Takes an offset from UTC, Z or ±HH:MM: the seconds. -/
def readOffset : Reader Unit Int := do
  let c ← next ()
  if c = 'Z' ∨ c = 'z' then return 0
  else
    match offsetSign? c with
    | none => fail ()
    | some sign =>
      let hours ← readDigits 2
      expect ':' ()
      let minutes ← readDigits 2
      if hours < 24 ∧ minutes < 60 then return sign * (3600 * hours + 60 * minutes : Nat)
      else fail ()

/-- Takes an instant. -/
def readInstant : Reader Unit Instant := do
  let date ← readDate
  let separator ← next ()
  if separator = 'T' ∨ separator = 't' ∨ separator = ' ' then
    let (seconds, nanos) ← readTimeOfDay
    let offset ← readOffset
    return ⟨86400 * date.dayNumber + seconds - offset, nanos⟩
  else fail ()

/-- The instant of an RFC 3339 text. -/
def read? (cs : List Char) : Option Instant :=
  (readInstant.parse () cs).toOption

end Instant

end Sift
