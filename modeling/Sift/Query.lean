/-
# Queries

A query keeps the records in a time window that satisfy a filter, sorts them and takes a page of them.
The filter is read before any record is looked at, so a filter that is none comes before every other
error; then comes the window, then the first record on which the filter fails.

Key definitions: `Query`, `QueryError`, `QueryResult`, `Query.run`.
-/
import Sift.Filter.Parser
import Sift.Page
import Sift.Plan
import Sift.Time.Window

namespace Sift

/-- What to ask of a list of records. -/
structure Query where
  window : TimeWindow := {}
  /-- The text of the filter, if there is one. -/
  filter : Option String := none
  /-- The fields to sort by, the first of which counts most; if there are none, records keep their
  order. -/
  sortFields : List String := []
  /-- Whether to sort in descending order. -/
  isReversed : Bool := false
  page : Page := {}
deriving Inhabited

/-- Why a query has no result. -/
inductive QueryError where
  | invalidFilter (error : ParseError)
  | evaluation (error : EvalError)
  | invalidWindow (error : DurationError)
  /-- A stage was asked for a record before it was started. -/
  | notStarted
deriving DecidableEq

namespace QueryError

/-- The error of a query for an error of a stage. -/
def ofStage : StageError → QueryError
  | .notStarted => notStarted
  | .evaluation error => evaluation error

/-- The text of an error. -/
def message : QueryError → String
  | invalidFilter error => "invalid filter: " ++ error.message
  | evaluation error => "filter evaluation error: " ++ error.message
  | invalidWindow error => "invalid time window: " ++ error.message
  | notStarted => "Executor not initialized. Call init() first."

/-- The text of an error without the reason why a text is no regular expression. -/
def summary : QueryError → String
  | evaluation error => "filter evaluation error: " ++ error.summary
  | error => error.message

end QueryError

/-- The records of a page and what part of the matching records they are. -/
structure QueryResult where
  records : List Record
  page : PageSummary

namespace Query

/-- The criteria that a query sorts by. -/
def criteria (query : Query) : List Criterion :=
  query.sortFields.map fun field =>
    ⟨field, if query.isReversed then .descending else .ascending⟩

/-- The filter of a query, if it has one. -/
def parseFilter (query : Query) : Except QueryError (Option Filter) :=
  match query.filter with
  | none => .ok none
  | some text =>
    match Filter.parse text with
    | .ok condition => .ok (some condition)
    | .error error => .error (.invalidFilter error)

/-- The records in the window of a query. -/
def inWindow (query : Query) (now : Instant) (records : List Record) :
    Except QueryError (List Record) :=
  (query.window.select now records).mapError .invalidWindow

/-- The plan for the records in the window. -/
def plan (query : Query) (condition : Option Filter) (records : List Record) : Plan :=
  let source := Plan.values records
  let filtered :=
    match condition with
    | none => source
    | some condition => source.filter condition
  if query.sortFields.isEmpty then filtered else filtered.sort query.criteria

/-- The records of a plan. -/
def recordsOf (plan : Plan) : Except QueryError (List Record) :=
  plan.stage.toList.mapError .ofStage

/-- The result of a query. -/
def run (query : Query) (now : Instant) (records : List Record) : Except QueryError QueryResult := do
  let condition ← query.parseFilter
  let windowed ← query.inWindow now records
  let found ← recordsOf (query.plan condition windowed)
  let page ← recordsOf (.limit query.page.limit query.page.offset (.values found))
  return ⟨page, query.page.summary found.length⟩

end Query

end Sift
