/-
# Running commands

A command is run on the contents of a file or of the standard input, and gives a text to write or a
failure. The records are read before the filter is, so of two failures the one in the records counts.

Key definitions: `FileContent`, `Failure`, `Command.run`.
-/
import Sift.Command
import Sift.Command.Report
import Sift.Filter.Printer
import Sift.Record.Lines

namespace Sift

/-- What is found under the name of a file. -/
inductive FileContent where
  | bytes (bytes : List UInt8)
  /-- The file cannot be opened. -/
  | unopened (reason : String)
  /-- The file can be opened, but not read. -/
  | unread (reason : String)

/-- Why a command has no output. -/
inductive Failure where
  | cannotOpen (file reason : String)
  /-- The file, or the standard input, cannot be read from its first line on. -/
  | cannotRead (file : Option String) (reason : String)
  | cannotDecode (file : Option String) (error : DecodeError)
  | query (error : QueryError)
  | invalidFilter (text : String) (error : ParseError)

namespace Failure

/-- What could not be done with the records of a file or of the standard input. -/
def readingFrom (file : Option String) : String :=
  "Failed to read records from " ++ file.getD "stdin"

/-- The text of a failure without its causes. -/
def summary : Failure → String
  | cannotOpen file _ => s!"Failed to open input file {file}"
  | cannotRead file _ => readingFrom file
  | cannotDecode file _ => readingFrom file
  | query error => error.message
  | invalidFilter text _ => s!"Invalid filter '{text}'"

/-- The texts of the causes, from the outermost to the innermost. -/
def causes : Failure → List String
  | cannotOpen _ reason => [reason]
  | cannotRead _ reason => ["Failed to read line 1", reason]
  | cannotDecode _ error => error.messages
  | query (.invalidFilter error) => [error.message]
  | query (.evaluation error) => [error.message]
  | query (.invalidWindow error) => [error.message]
  | query .notStarted => []
  | invalidFilter _ error => [error.message]

/-- The report of a failure. -/
def report (failure : Failure) : List Char :=
  Sift.report failure.summary failure.causes

end Failure

namespace QueryResult

/-- The JSON of a number of records; null when it does not fit in 64 bits. -/
def countJson (n : Nat) : Json :=
  match Json.Number.ofInt? n with
  | some number => .number number
  | none => .null

/-- The summary of a page as JSON. -/
def pageJson (page : PageSummary) : Json :=
  .object (orderEntries
    [("total_records", countJson page.total), ("returned_records", countJson page.returned),
      ("offset", countJson page.offset), ("limit", countJson page.limit),
      ("has_more", .boolean page.hasMore)])

/-- The records and the summary of the page as JSON. -/
def toJson (result : QueryResult) : Json :=
  .object (orderEntries
    [("records", .array (result.records.map Record.toJson)),
      ("pagination", pageJson result.page)])

/-- A result as it is written. -/
def write (result : QueryResult) : OutputFormat → List Char
  | .lines => result.records.flatMap fun record => record.line ++ ['\n']
  | .document => result.toJson.writeIndented ++ ['\n']

end QueryResult

namespace Command

/-- The records of a file or of the standard input. -/
def readRecords (file : Option String) : FileContent → Except Failure (List Record)
  | .unopened reason => .error (.cannotOpen (file.getD "stdin") reason)
  | .unread reason => .error (.cannotRead file reason)
  | .bytes bytes => (Record.readLines bytes).mapError (.cannotDecode file)

/-- The file that a command reads, if it reads one; none for the standard input. -/
def inputFile? : Command → Option String
  | query command => command.input
  | parse _ => none

/-- Whether a command reads records. -/
def readsRecords : Command → Bool
  | query _ => true
  | parse _ => false

/-- The output of a command, given the content of the file that it reads or of the standard
input. -/
def run (now : Instant) (content : FileContent) : Command → Except Failure (List Char)
  | parse text =>
    match Filter.parse text with
    | .ok filter => .ok (filter.write ++ ['\n'])
    | .error error => .error (.invalidFilter text error)
  | query command => do
    let records ← readRecords command.input content
    let result ← (command.query.run now records).mapError .query
    return result.write command.format

end Command

end Sift
