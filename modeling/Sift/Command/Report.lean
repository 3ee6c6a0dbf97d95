/-
# Reports of failures

A failure is reported with its causes, from the outermost to the innermost. The first text follows the
word "Error"; the others are listed below it, numbered when there are several. The lines of a text
after its first one are indented like the first one.

Key definition: `report`.
-/

namespace Sift

/-- A text whose further lines begin with an indentation. -/
def indentLines (indentation : List Char) (text : List Char) : List Char :=
  text.flatMap fun c => if c = '\n' then '\n' :: indentation else [c]

/-- A cause in the list of causes, with its number if it has one. -/
def reportCause (number : Option Nat) (text : String) : List Char :=
  match number with
  | none =>
    let margin := List.replicate 4 ' '
    margin ++ indentLines margin text.toList
  | some n =>
    let digits := Nat.toDigits 10 n
    List.replicate (5 - digits.length) ' ' ++ digits ++ ':' :: ' ' ::
      indentLines (List.replicate 7 ' ') text.toList

/-- The causes, the first of which has a number. -/
def reportCausesFrom (number : Nat) : List String → List (List Char)
  | [] => []
  | text :: texts => reportCause (some number) text :: reportCausesFrom (number + 1) texts

/-- The list of the causes. -/
def reportCauses : List String → List (List Char)
  | [text] => [reportCause none text]
  | texts => reportCausesFrom 0 texts

/-- The report of a failure with its causes. -/
def report (summary : String) (causes : List String) : List Char :=
  let first := "Error: ".toList ++ summary.toList
  if causes.isEmpty then first
  else first ++ "\n\nCaused by:".toList ++ (reportCauses causes).flatMap ('\n' :: ·)

end Sift
