/-
# Values

What a field of a record holds: a truth value, an integer of 64 bits, a floating-point number or a
string. Numbers and strings that are numerals have a numeric reading, by which values of different
types compare.

Two notions of equality stand side by side: `=` tells any two values apart, and `Value.same` compares
floating-point numbers as numbers, so that the two zeros are the same and what is no number differs
from itself.

Key definitions: `Value`, `Value.numeric?`, `Value.text`, `Value.literal`, `Value.same`.
-/
import Sift.Binary64.Text

namespace Sift

/-- The value of a field. -/
inductive Value where
  | boolean (b : Bool)
  | integer (n : Int64)
  | float (x : Binary64)
  | string (s : String)
deriving DecidableEq, Inhabited

namespace Value

/-- The name of the type of a value. -/
def typeName : Value → String
  | boolean _ => "boolean"
  | integer _ => "integer"
  | float _ => "float"
  | string _ => "string"

/-- The text of a string value. -/
def string? : Value → Option String
  | string s => some s
  | _ => none

/-- The numeric reading of a value. Truth values have none, strings have one when they are
numerals. -/
def numeric? : Value → Option Binary64
  | boolean _ => none
  | integer n => some (Binary64.ofInt n.toInt)
  | float x => some x
  | string s => Binary64.read? s.toList

/-- A value as text; a string stands for itself. -/
def text : Value → List Char
  | boolean b => if b then ['t', 'r', 'u', 'e'] else ['f', 'a', 'l', 's', 'e']
  | integer n => Text.writeInt n.toInt
  | float x => x.write Binary64.plain
  | string s => s.toList

/-- A value as it is written in a filter: strings stand in quotes. -/
def literal : Value → List Char
  | string s => '\'' :: (s.toList ++ ['\''])
  | value => value.text

/-- Equality with numbers compared as numbers; values of different types differ. -/
def same : Value → Value → Bool
  | boolean a, boolean b => a == b
  | integer a, integer b => a == b
  | float a, float b => a.same b
  | string a, string b => a == b
  | _, _ => false

end Value

end Sift
