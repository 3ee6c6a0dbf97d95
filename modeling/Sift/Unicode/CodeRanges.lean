/-
# Lists of ranges of code points

A set of code points as the list of its ranges, in increasing order and with a gap between any two
of them, so that equal sets have equal lists. Unions merge two lists and close the gaps that are
gone; with complements they give the other operations.

Key definitions: `CodeRanges.ofList`, `CodeRanges.union`, `CodeRanges.compl`, `CodeRanges.diff`,
`CodeRanges.inter`, `RunTable.imageRanges`, `RunTable.inverse`.
-/
import Sift.Unicode.RangeTable

namespace Sift.Unicode

/-- Ranges of code points, both ends included, in increasing order and with gaps between them. -/
abbrev CodeRanges := List (Nat × Nat)

namespace CodeRanges

/-- Puts together ranges that overlap or touch, where the ranges stand in the order of their first
code points. The range `current` is the one that may still grow. -/
def joinFrom (current : Nat × Nat) : List (Nat × Nat) → CodeRanges
  | [] => [current]
  | next :: rest =>
    if next.1 ≤ current.2 + 1 then joinFrom (current.1, max current.2 next.2) rest
    else current :: joinFrom next rest

/-- Puts together ranges that overlap or touch, where the ranges stand in the order of their first
code points. -/
def join : List (Nat × Nat) → CodeRanges
  | [] => []
  | range :: rest => joinFrom range rest

/-- The order in which ranges stand. -/
def startsBefore (a b : Nat × Nat) : Bool :=
  a.1 ≤ b.1

/-- The code points of any ranges. -/
def ofList (ranges : List (Nat × Nat)) : CodeRanges :=
  join (ranges.mergeSort startsBefore)

/-- The code points of both sets. -/
def union (a b : CodeRanges) : CodeRanges :=
  join (a.merge b startsBefore)

/-- The code points from `start` on that are not in a set of such code points. -/
def complFrom (start : Nat) : CodeRanges → CodeRanges
  | [] => if start ≤ 0x10FFFF then [(start, 0x10FFFF)] else []
  | (first, last) :: rest =>
    if start < first then (start, first - 1) :: complFrom (last + 1) rest
    else complFrom (last + 1) rest

/-- The code points that are not in a set. -/
def compl (a : CodeRanges) : CodeRanges :=
  complFrom 0 a

/-- The code points of the first set that are not in the second. -/
def diff (a b : CodeRanges) : CodeRanges :=
  compl (union (compl a) b)

/-- The code points in both sets. -/
def inter (a b : CodeRanges) : CodeRanges :=
  diff a (compl b)

/-- The code points in exactly one of two sets. -/
def xor (a b : CodeRanges) : CodeRanges :=
  union (diff a b) (diff b a)

/-- The code points that are halves of a pair in another encoding, and so no characters. -/
def surrogates : CodeRanges :=
  [(0xD800, 0xDFFF)]

end CodeRanges

/-- The images of the code points of a range under a run. -/
def Run.imageRanges (run : Run) (range : Nat × Nat) : List (Nat × Nat) :=
  let first := max range.1 run.first
  let last := min range.2 run.last
  if last < first then []
  else
    let low := (first - run.first + (run.step - 1)) / run.step
    let high := (last - run.first) / run.step
    if run.step = 1 then [(run.image + low, run.image + high)]
    else
      (List.range' low (high + 1 - low)).map fun k =>
        (run.image + k * run.step, run.image + k * run.step)

/-- The images of the code points of a set under a correspondence. -/
def RunTable.imageRanges (table : RunTable) (ranges : CodeRanges) : CodeRanges :=
  .ofList (table.flatMap fun run => ranges.flatMap run.imageRanges)

/-- The correspondence read backwards. -/
def RunTable.inverse (table : RunTable) : RunTable :=
  table.map fun run => ⟨run.image, run.image + (run.last - run.first), run.step, run.first⟩

end Sift.Unicode
