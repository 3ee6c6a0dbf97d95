/-
# Tables of code points

A property of characters is a table of ranges of code points in increasing order. A table is
written as text: ranges separated by white space, each one code point or two joined by a hyphen, in
hexadecimal. Membership is a binary search.

A correspondence of characters, such as the one from capital to small letters, is a table of
runs: `lo-hi>to` maps the code points from `lo` to `hi` to those from `to` on, `lo-hi/2>to` does
so for every second one.

Key definitions: `RangeTable.ofText`, `RangeTable.contains`, `RunTable.ofText`, `RunTable.image?`.
-/
import Sift.Text.Blank
import Sift.Text.Digit

namespace Sift.Unicode

/-- Ranges of code points, both ends included, in increasing order. -/
abbrev RangeTable := Array (Nat × Nat)

/-- The pieces of a text between the occurrences of a separator. -/
def splitAt (separator : Char) : List Char → List (List Char)
  | [] => [[]]
  | c :: cs =>
    if c = separator then [] :: splitAt separator cs
    else
      match splitAt separator cs with
      | piece :: pieces => (c :: piece) :: pieces
      | [] => [[c]]

/-- The number that a text of hexadecimal digits denotes; 0 when it is none. -/
def codePoint (digits : List Char) : Nat :=
  (Text.hexNumber? digits).getD 0

/-- One range of a written table. -/
def rangeOfText (text : List Char) : Nat × Nat :=
  match splitAt '-' text with
  | [lo, hi] => (codePoint lo, codePoint hi)
  | _ => (codePoint text, codePoint text)

/-- A table from its written form. -/
def RangeTable.ofText (text : String) : RangeTable :=
  ((Text.words text.toList).map rangeOfText).toArray

/-- Binary search among the entries from `lo` to before `hi`. -/
def RangeTable.search (table : RangeTable) (code lo hi : Nat) : Bool :=
  if lo < hi then
    let middle := (lo + hi) / 2
    match table[middle]? with
    | none => false
    | some (first, last) =>
      if code < first then search table code lo middle
      else if last < code then search table code (middle + 1) hi
      else true
  else false
termination_by hi - lo

/-- Whether a character is in the table. -/
def RangeTable.contains (table : RangeTable) (c : Char) : Bool :=
  table.search c.toNat 0 table.size

/-- A run of a correspondence: the code points from `first` to `last` in steps of `step` go to
those from `image` on. -/
structure Run where
  first : Nat
  last : Nat
  step : Nat
  image : Nat

/-- A correspondence of characters as runs. -/
abbrev RunTable := List Run

/-- One run of a written correspondence. -/
def Run.ofText (text : List Char) : Run :=
  match splitAt '>' text with
  | [source, image] =>
    let (range, step) :=
      match splitAt '/' source with
      | [range, step] => (range, codePoint step)
      | _ => (source, 1)
    let (first, last) := rangeOfText range
    ⟨first, last, step, codePoint image⟩
  | _ => ⟨1, 0, 1, 0⟩

/-- A correspondence from its written form. -/
def RunTable.ofText (text : String) : RunTable :=
  (Text.words text.toList).map Run.ofText

/-- The image of a character, if it has one. -/
def RunTable.image? (table : RunTable) (c : Char) : Option Char :=
  table.findSome? fun run =>
    let code := c.toNat
    if run.first ≤ code ∧ code ≤ run.last ∧ (code - run.first) % run.step = 0 then
      some (Char.ofNat (run.image + (code - run.first)))
    else none

end Sift.Unicode
