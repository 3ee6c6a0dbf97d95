/-
# Durations

A duration before now is written as a number, a unit and the word "ago", in any case. The unit is
second, minute, hour or day, with or without an s at its end.

Key definitions: `DurationError`, `Duration.read`.
-/
import Sift.Text.Blank
import Sift.Text.Digit
import Sift.Unicode.Casing

namespace Sift

/-- Why a text is no duration. -/
inductive DurationError where
  /-- The text does not end in the word "ago". -/
  | missingAgo
  /-- There are not exactly two words before it. -/
  | invalidFormat
  | invalidNumber (word : String)
  | unknownUnit (unit : String)
  /-- The duration, or the instant that long ago, is out of range. -/
  | outOfRange (text : String)
deriving DecidableEq

/-- The text of an error. -/
def DurationError.message : DurationError → String
  | missingAgo => "duration must end with ' ago'"
  | invalidFormat => "invalid duration format (expected '<number> <unit> ago')"
  | invalidNumber word => s!"invalid number: {word}"
  | unknownUnit unit => s!"unknown time unit: {unit}"
  | outOfRange text => s!"duration out of range: {text}"

namespace Duration

/-- Without the given end; `none` when the text does not end so. -/
def dropEnd? (ending cs : List Char) : Option (List Char) :=
  if ending.isSuffixOf cs then some (cs.take (cs.length - ending.length)) else none

/-- A unit without the s of its plural; an s alone stays. -/
def singular (unit : List Char) : List Char :=
  match dropEnd? ['s'] unit with
  | some [] => unit
  | some rest => rest
  | none => unit

/-- The number of seconds in a unit. -/
def unitSeconds? (unit : String) : Option Int :=
  if unit = "second" then some 1
  else if unit = "minute" then some 60
  else if unit = "hour" then some 3600
  else if unit = "day" then some 86400
  else none

/-- The longest duration in seconds: its milliseconds fit in 64 bits. -/
def maxSeconds : Int := 9223372036854775

/-- The seconds of a number of units. `whole` is the text that an error names. -/
def ofWords (whole number unit : List Char) : Except DurationError Int :=
  match Text.readInt64? number with
  | none => .error (.invalidNumber (String.ofList number))
  | some count =>
    let name := String.ofList (singular unit)
    match unitSeconds? name with
    | none => .error (.unknownUnit name)
    | some length =>
      let seconds := count.toInt * length
      if -maxSeconds ≤ seconds ∧ seconds ≤ maxSeconds then .ok seconds
      else .error (.outOfRange (String.ofList whole))

/-- The seconds of a duration before now. -/
def read (text : String) : Except DurationError Int :=
  let trimmed := Text.trim text.toList
  match dropEnd? [' ', 'a', 'g', 'o'] (Unicode.lowerText trimmed) with
  | none => .error .missingAgo
  | some rest =>
    match Text.words rest with
    | [number, unit] => ofWords trimmed number unit
    | _ => .error .invalidFormat

end Duration

end Sift
