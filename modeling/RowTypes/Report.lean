import RowTypes.Issue
import RowTypes.Json.Printer

/-!
Reports: what a run did for each table, and what it noted. The counts of warnings by code are kept
along with the warnings.
-/

namespace RowTypes

/-- What happened to the struct of a table. -/
inductive TableOutcome where
  /-- The file was written anew. -/
  | created
  /-- A block was replaced in place. -/
  | patched
  /-- The block was put at the end of a file. -/
  | appended
  /-- The file already held exactly this block. -/
  | unchanged
  /-- Nothing was written for the table. -/
  | failed
  deriving DecidableEq, Repr, Inhabited

namespace TableOutcome

def name : TableOutcome → String
  | created => "created"
  | patched => "patched"
  | appended => "appended"
  | unchanged => "unchanged"
  | failed => "failed"

def all : List TableOutcome :=
  [created, patched, appended, unchanged, failed]

end TableOutcome

/-- What happened to one table. -/
structure TableReport where
  schema : String
  table : String
  path : Option String := none
  outcome : TableOutcome
  error : Option String := none
  deriving DecidableEq, Repr, Inhabited

/-- What tells one run from another: a name of its own and the time of its start. -/
structure RunStamp where
  id : String
  startedAt : String
  deriving DecidableEq, Repr, Inhabited

/-- What a run did. -/
structure Report where
  stamp : RunStamp
  tables : List TableReport := []
  /-- How many warnings there are with each code, in the order of the code names. -/
  warningsByCode : List (String × Nat) := []
  warnings : List Issue := []
  deriving DecidableEq, Repr, Inhabited

namespace Report

/-- Count one more warning with a code. -/
def countCode (code : String) : List (String × Nat) → List (String × Nat)
  | [] => [(code, 1)]
  | (head, n) :: rest =>
    if code = head then (head, n + 1) :: rest
    else if code < head then (code, 1) :: (head, n) :: rest
    else (head, n) :: countCode code rest

def recordWarning (report : Report) (issue : Issue) : Report :=
  { report with
    warningsByCode := countCode issue.code.name report.warningsByCode
    warnings := report.warnings ++ [issue] }

def recordTable (report : Report) (entry : TableReport) : Report :=
  { report with tables := report.tables ++ [entry] }

/-- Take a table into the report that could not be loaded. -/
def recordMissing (report : Report) (schema table error : String) : Report :=
  report.recordTable { schema, table, outcome := .failed, error := some error }

def hasFailures (report : Report) : Bool :=
  report.tables.any fun entry => entry.outcome == .failed

def count (report : Report) (outcome : TableOutcome) : Nat :=
  (report.tables.filter fun entry => entry.outcome == outcome).length

def errorCount (report : Report) : Nat :=
  (report.tables.filter fun entry => entry.error.isSome).length

open Json (str int ofMembers)

/-- A member with a text, or nothing. -/
def optionalText (key : String) (value : Option String) : List (String × Json) :=
  (value.map fun s => (key, str s)).toList

def tableJson (entry : TableReport) : Json :=
  ofMembers
    ([("schema", str entry.schema), ("table", str entry.table)] ++
      optionalText "path" entry.path ++ [("outcome", str entry.outcome.name)] ++
      optionalText "error" entry.error)

def issueJson (issue : Issue) : Json :=
  ofMembers
    ([("level", str Issue.level), ("code", str issue.code.name), ("message", str issue.message),
      ("schema", str issue.schema), ("table", str issue.table)] ++
      optionalText "column" issue.column)

def toJson (report : Report) : Json :=
  ofMembers
    [("run_id", str report.stamp.id), ("started_at", str report.stamp.startedAt),
      ("tables", .array (report.tables.map tableJson)),
      ("warnings_by_code", ofMembers (report.warningsByCode.map fun (code, n) => (code, int n))),
      ("warnings", .array (report.warnings.map issueJson))]

end Report

end RowTypes
