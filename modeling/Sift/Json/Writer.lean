/-
# Writing JSON

The compact form has no white space; the indented form has each item and each field on a line of its
own, two spaces deeper than what it is in, and a space after each colon. Empty arrays and objects are
written without white space in both.

Key definitions: `Json.Layout`, `Json.write`, `Json.writeCompact`, `Json.writeIndented`.
-/
import Sift.Json.Number
import Sift.Json.Quoted

namespace Sift.Json

/-- The white space of a written value. -/
structure Layout where
  /-- What begins a line at a depth. -/
  line : Nat → List Char
  /-- What stands between a name and its value. -/
  colon : List Char

namespace Layout

/-- No white space. -/
def compact : Layout :=
  { line := fun _ => [], colon := [':'] }

/-- Two spaces for each level of nesting. -/
def indented : Layout :=
  { line := fun depth => '\n' :: List.replicate (2 * depth) ' ', colon := [':', ' '] }

/-- The parts of an array or object between its brackets, which stand at a depth. -/
def block (layout : Layout) (depth : Nat) (opening closing : Char) (parts : List (List Char)) :
    List Char :=
  if parts.isEmpty then [opening, closing]
  else
    opening :: (layout.line (depth + 1) ++
      List.intercalate (',' :: layout.line (depth + 1)) parts ++ layout.line depth ++ [closing])

end Layout

mutual

/-- A value that begins at a depth. -/
def write (layout : Layout) (depth : Nat) : Json → List Char
  | null => ['n', 'u', 'l', 'l']
  | boolean b => if b then ['t', 'r', 'u', 'e'] else ['f', 'a', 'l', 's', 'e']
  | number n => n.write
  | string s => quote s
  | array items => layout.block depth '[' ']' (writeItems layout (depth + 1) items)
  | object fields => layout.block depth '\x7b' '\x7d' (writeFields layout (depth + 1) fields)

/-- Each item of an array. -/
def writeItems (layout : Layout) (depth : Nat) : List Json → List (List Char)
  | [] => []
  | item :: items => write layout depth item :: writeItems layout depth items

/-- Each field of an object. -/
def writeFields (layout : Layout) (depth : Nat) : List (String × Json) → List (List Char)
  | [] => []
  | (name, value) :: fields =>
    (quote name ++ layout.colon ++ write layout depth value) :: writeFields layout depth fields

end

/-- A value without white space. -/
def writeCompact (json : Json) : List Char :=
  json.write .compact 0

/-- A value in indented lines. -/
def writeIndented (json : Json) : List Char :=
  json.write .indented 0

end Sift.Json
