/-
# JSON values

A number is an integer that fits in 64 bits, with a sign or without one, or a floating-point number
that is finite. The fields of an object stand in the order of their names.

Key definitions: `Json`, `Json.Number`, `JsonError`.
-/
import Sift.Binary64.Basic

namespace Sift

/-- A number of JSON. -/
inductive Json.Number where
  | integer (n : Int) (ge_min : -0x8000000000000000 ≤ n) (lt_max : n < 0x10000000000000000)
  | float (x : Binary64) (finite : x.isFinite = true)
deriving DecidableEq

/-- A value of JSON. -/
inductive Json where
  | null
  | boolean (b : Bool)
  | number (n : Json.Number)
  | string (s : String)
  | array (items : List Json)
  | object (fields : List (String × Json))
deriving Inhabited

/-- The name of the kind of a value. -/
def Json.kindName : Json → String
  | null => "null"
  | boolean _ => "boolean"
  | number _ => "number"
  | string _ => "string"
  | array _ => "array"
  | object _ => "object"

/-- Why a text is no JSON value. -/
inductive JsonError where
  /-- The text does not follow the grammar. -/
  | malformed
  /-- Arrays and objects are nested too deep. -/
  | tooNested
  /-- The magnitude of a number is past all finite ones. -/
  | numberOutOfRange
deriving DecidableEq

/-- The text of an error. -/
def JsonError.message : JsonError → String
  | malformed => "malformed JSON"
  | tooNested => "recursion limit exceeded"
  | numberOutOfRange => "number out of range"

end Sift
