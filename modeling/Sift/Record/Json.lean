/-
# Records as JSON

A record is written as an object. Read, an object becomes the record of its fields without those that
are null; an array or object in a field becomes a string, its compact text. An integer becomes one if
it fits in 64 bits with a sign, and a floating-point number otherwise. A floating-point number that is
not finite has no form in JSON and is written as null.

Key definitions: `Value.ofJson?`, `Value.toJson`, `Record.ofJson`, `Record.toJson`.
-/
import Sift.Json.Writer
import Sift.Record

namespace Sift

namespace Value

/-- The value of a JSON number. -/
def ofJsonNumber : Json.Number → Value
  | .integer n _ _ => if n ≤ Int64.maxValue.toInt then integer (Int64.ofInt n) else float (Binary64.ofInt n)
  | .float x _ => float x

/-- The value that a field with this JSON has; none for null. -/
def ofJson? : Json → Option Value
  | .null => none
  | .boolean b => some (boolean b)
  | .number n => some (ofJsonNumber n)
  | .string s => some (string s)
  | .array items => some (string (String.ofList (Json.array items).writeCompact))
  | .object fields => some (string (String.ofList (Json.object fields).writeCompact))

/-- The JSON of a value. -/
def toJson : Value → Json
  | boolean b => .boolean b
  | integer n =>
    .number (.integer n.toInt n.le_toInt (Int.lt_trans n.toInt_lt (by decide)))
  | float x => if h : x.isFinite = true then .number (.float x h) else .null
  | string s => .string s

end Value

/-- A JSON value of some other kind stands where an object must stand. -/
structure NotObject where
  kindName : String
deriving DecidableEq

/-- The text of the error. -/
def NotObject.message (error : NotObject) : String :=
  "Expected JSON object, found " ++ error.kindName

namespace Record

/-- The record of a JSON object. -/
def ofJson : Json → Except NotObject Record
  | .object fields =>
    .ok (ofList (fields.filterMap fun field =>
      (Value.ofJson? field.2).map fun value => (field.1, value)))
  | json => .error ⟨json.kindName⟩

/-- The JSON object of a record. -/
def toJson (record : Record) : Json :=
  .object (record.entries.map fun entry => (entry.1, entry.2.toJson))

/-- A record in one line. -/
def line (record : Record) : List Char :=
  record.toJson.writeCompact

end Record

end Sift
