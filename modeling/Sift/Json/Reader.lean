/-
# Reading JSON

A text is one value with white space around it and around its parts. Of the values that an object
gives to one name, the last counts. Arrays and objects nest up to a depth, which the reader of values
counts down; so it is total, and what is nested deeper is refused.

Key definitions: `Json.readValue`, `Json.read`.
-/
import Sift.Json.Number
import Sift.Json.Quoted
import Sift.Record

namespace Sift.Json

open Reader

/-- The white space of JSON. -/
def isSpace (c : Char) : Bool :=
  c == ' ' || c == '\t' || c == '\n' || c == '\r'

/-- Passes over white space. -/
def skipSpace : Reader JsonError Unit := do
  let _ ← Reader.takeWhile isSpace

/-- Takes the given characters. -/
def readWord (word : List Char) (value : Json) : Reader JsonError Json := do
  if word.isPrefixOf (← lookAhead) then
    skip word.length
    return value
  else fail .malformed

/-- Takes an item of an array and what follows it: a comma or the end. -/
def readItem (value : Reader JsonError Json) (items : List Json) :
    Reader JsonError (List Json ⊕ Json) := do
  skipSpace
  let items := (← value) :: items
  skipSpace
  let c ← next .malformed
  if c = ',' then return .inl items
  else if c = ']' then return .inr (.array items.reverse)
  else fail .malformed

/-- Takes a field of an object and what follows it: a comma or the end. -/
def readField (value : Reader JsonError Json) (fields : List (String × Json)) :
    Reader JsonError (List (String × Json) ⊕ Json) := do
  skipSpace
  let name ← readQuoted
  skipSpace
  expect ':' .malformed
  skipSpace
  let fields := insertEntry name (← value) fields
  skipSpace
  let c ← next .malformed
  if c = ',' then return .inl fields
  else if c = '\x7d' then return .inr (.object fields)
  else fail .malformed

/-- Takes an array or an object, given a reader of the values in it. -/
def readNested (value : Reader JsonError Json) : Reader JsonError Json := do
  let isArray := (← next .malformed) = '['
  skipSpace
  if (← takeIf (· == if isArray then ']' else '\x7d')) then
    return if isArray then .array [] else .object []
  else if isArray then loop .malformed (readItem value) []
  else loop .malformed (readField value) []

/-- Takes a value, given a reader of arrays and objects. -/
def readValueWith (nested : Reader JsonError Json) : Reader JsonError Json := do
  match ← peek with
  | some '[' => nested
  | some '\x7b' => nested
  | some '"' => return .string (← readQuoted)
  | some 't' => readWord ['t', 'r', 'u', 'e'] (.boolean true)
  | some 'f' => readWord ['f', 'a', 'l', 's', 'e'] (.boolean false)
  | some 'n' => readWord ['n', 'u', 'l', 'l'] .null
  | _ => return .number (← readNumber)

/-- Takes a value in which arrays and objects nest up to a depth. -/
def readValue : Nat → Reader JsonError Json
  | 0 => readValueWith (fail .tooNested)
  | depth + 1 => readValueWith (readNested (readValue depth))

/-- How deep arrays and objects may nest. -/
def depthLimit : Nat := 127

/-- The value of a text. -/
def read (cs : List Char) : Except JsonError Json :=
  let text := do
    skipSpace
    let value ← readValue depthLimit
    skipSpace
    return value
  text.parse .malformed cs

end Sift.Json
