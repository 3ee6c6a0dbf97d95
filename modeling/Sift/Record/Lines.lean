/-
# Records in lines

A text holds one record in a line, as a JSON object; lines of white space hold none, but are counted.
A line feed ends a line, and a carriage return before it belongs to the end; what follows the last
line feed is a line unless it is empty. Reading stops at the first line that cannot be read.

Key definitions: `splitLines`, `DecodeError`, `Record.readLines`.
-/
import Sift.Json.Reader
import Sift.Record.Json
import Sift.Text.Blank

namespace Sift

/-- A line without its end, from its bytes in reverse up to the line feed. -/
def endLine : List UInt8 → List UInt8
  | [] => []
  | byte :: bytes => if byte = 13 then bytes.reverse else (byte :: bytes).reverse

/-- The lines of a text, reading on in a line of which `current` is read, last byte first. -/
def splitLinesFrom (current : List UInt8) : List UInt8 → List (List UInt8)
  | [] => if current.isEmpty then [] else [current.reverse]
  | byte :: bytes =>
    if byte = 10 then endLine current :: splitLinesFrom [] bytes
    else splitLinesFrom (byte :: current) bytes

/-- The lines of a text. -/
def splitLines (bytes : List UInt8) : List (List UInt8) :=
  splitLinesFrom [] bytes

/-- Why a text does not hold records in lines. Lines are numbered from one. -/
inductive DecodeError where
  /-- The bytes of the line are not UTF-8. -/
  | unreadableLine (line : Nat)
  | invalidJson (line : Nat) (cause : JsonError)
  | invalidRecord (line : Nat) (cause : NotObject)
deriving DecidableEq

/-- The texts of an error and of its cause. -/
def DecodeError.messages : DecodeError → List String
  | unreadableLine line =>
    [s!"Failed to read line {line}", "stream did not contain valid UTF-8"]
  | invalidJson line cause => [s!"Invalid JSON on line {line}", cause.message]
  | invalidRecord line cause => [s!"Invalid record on line {line}", cause.message]

namespace Record

/-- The record in a line, if there is one. -/
def readLine (number : Nat) (bytes : List UInt8) : Except DecodeError (Option Record) :=
  match String.fromUTF8? bytes.toByteArray with
  | none => .error (.unreadableLine number)
  | some text =>
    if text.toList.all Text.isBlank then .ok none
    else
      match Json.read text.toList with
      | .error cause => .error (.invalidJson number cause)
      | .ok json =>
        match ofJson json with
        | .error cause => .error (.invalidRecord number cause)
        | .ok record => .ok (some record)

/-- The records in lines, the first of which has a number. -/
def readLinesFrom (number : Nat) : List (List UInt8) → Except DecodeError (List Record)
  | [] => .ok []
  | line :: lines => do
    let record ← readLine number line
    let records ← readLinesFrom (number + 1) lines
    return record.toList ++ records

/-- The records in the lines of a text. -/
def readLines (bytes : List UInt8) : Except DecodeError (List Record) :=
  readLinesFrom 1 (splitLines bytes)

end Record

end Sift
