/-
# Commands

There are two commands. `query` runs a query on the records of a file or of the standard input, and
writes the records one in a line, or all of them with a summary of the page in one JSON document.
`parse` writes a filter in its canonical form.

Key definitions: `Command`, `Command.ofArguments`.
-/
import Sift.Command.Arguments
import Sift.Query

namespace Sift

/-- The forms of output. -/
inductive OutputFormat where
  /-- Each record in a line. -/
  | lines
  /-- One document with the records and the summary of the page. -/
  | document
deriving DecidableEq

/-- What to query, and how to write the result. -/
structure QueryCommand where
  /-- The file with the records; none for the standard input. -/
  input : Option String := none
  query : Query := {}
  format : OutputFormat := .lines

/-- What the program is to do. -/
inductive Command where
  | query (command : QueryCommand)
  | parse (filter : String)

namespace Command

/-- The greatest natural number of 64 bits. -/
def maxCount : Int := 18446744073709551615

/-- A natural number of 64 bits, with or without a plus sign. -/
def readCount? (text : String) : Option Nat :=
  match Text.readInt? text.toList with
  | some n => if text.toList.head? ≠ some '-' ∧ n ≤ maxCount then some n.toNat else none
  | none => none

/-- An integer of 64 bits. -/
def readSeconds? (text : String) : Option Int :=
  (Text.readInt64? text.toList).map Int64.toInt

/-- The output format with a name. -/
def readFormat? (text : String) : Option OutputFormat :=
  if text = "jsonl" then some .lines else if text = "json" then some .document else none

/-- Changes the query of a command. -/
def mapQuery (command : QueryCommand) (change : Query → Query) : QueryCommand :=
  { command with query := change command.query }

/-- Changes the time window of a command. -/
def mapWindow (command : QueryCommand) (change : TimeWindow → TimeWindow) : QueryCommand :=
  mapQuery command fun query => { query with window := change query.window }

/-- Changes the page of a command. -/
def mapPage (command : QueryCommand) (change : Page → Page) : QueryCommand :=
  mapQuery command fun query => { query with page := change query.page }

/-- A command with a parameter set; none when the value of the parameter is not valid. -/
def set? (command : QueryCommand) (parameter : Parameter) (text : String) : Option QueryCommand :=
  match parameter with
  | .debug => some command
  | .input => if text.isEmpty then none else some { command with input := some text }
  | .since => some (mapWindow command fun window => { window with since := some text })
  | .lastCount => do
    let count ← readCount? text
    return mapWindow command fun window => { window with lastCount := count }
  | .fromSeconds => do
    let seconds ← readSeconds? text
    return mapWindow command fun window => { window with fromSeconds := seconds }
  | .toSeconds => do
    let seconds ← readSeconds? text
    return mapWindow command fun window => { window with toSeconds := seconds }
  | .timeField => some (mapWindow command fun window => { window with field := text })
  | .filter => some (mapQuery command fun query => { query with filter := some text })
  | .sortField => some (mapQuery command fun query =>
      { query with sortFields := query.sortFields ++ [text] })
  | .reverse => some (mapQuery command fun query => { query with isReversed := true })
  | .limit => do
    let count ← readCount? text
    return mapPage command fun page => { page with limit := count }
  | .offset => do
    let count ← readCount? text
    return mapPage command fun page => { page with offset := count }
  | .format => do
    let format ← readFormat? text
    return { command with format }

/-- A command with parameters set in order. -/
def setAll (command : QueryCommand) : List Setting → Except UsageError QueryCommand
  | [] => .ok command
  | (parameter, text) :: settings =>
    match set? command parameter text with
    | some command => setAll command settings
    | none => .error (.invalidValue parameter text)

/-- The query command with the given arguments. -/
def ofQueryArguments (arguments : List String) : Except UsageError Command := do
  let scan ← scanArguments Parameter.all arguments
  refuseRepeated scan.settings
  match scan.operands with
  | [] => return .query (← setAll {} scan.settings)
  | text :: _ => throw (.unexpectedArgument text)

/-- The command that writes a filter, with the given arguments. -/
def ofParseArguments (arguments : List String) : Except UsageError Command := do
  let scan ← scanArguments [.debug] arguments
  refuseRepeated scan.settings
  match scan.operands with
  | [] => throw .missingOperand
  | [filter] => return .parse filter
  | _ :: text :: _ => throw (.unexpectedArgument text)

/-- The command of a command line without the name of the program. -/
def ofArguments (arguments : List String) : Except UsageError Command := do
  let (settings, command, rest) ← splitCommand arguments
  refuseRepeated settings
  if command = "query" then ofQueryArguments rest
  else if command = "parse" then ofParseArguments rest
  else throw (.unexpectedArgument command)

end Command

end Sift
