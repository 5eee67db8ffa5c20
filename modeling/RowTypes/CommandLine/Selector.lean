import RowTypes.Report
import RowTypes.Schema.Error

/-!
Selectors: which tables a generation is asked for. `table` means the table in every schema, and
`schema.table` means that in one.
-/

namespace RowTypes

/-- The tables with a name, in one schema or in all. -/
structure Selector where
  schema : Option String
  table : String
  deriving DecidableEq, Repr, Inhabited

namespace Selector

/-- Read a selector. What stands before the first dot is the schema. -/
def parse (text : String) : Selector :=
  match text.toList.span (· != '.') with
  | (schema, _ :: table) => ⟨some (String.ofList schema), String.ofList table⟩
  | (table, []) => ⟨none, String.ofList table⟩

def selects (selector : Selector) (table : Table) : Bool :=
  table.name == selector.table && selector.schema.all (· == table.schema)

/-- Whether some of the selectors takes a table. Without selectors every table is taken. -/
def anySelects (selectors : List Selector) (table : Table) : Bool :=
  selectors.isEmpty || selectors.any fun selector => selector.selects table

def unmatched (selectors : List Selector) (tables : List Table) : List Selector :=
  selectors.filter fun selector => !tables.any selector.selects

/-- The schema in which a table is missed: that of the selector, or the first that was loaded. -/
def missedSchema (selector : Selector) (schemas : List String) : String :=
  (selector.schema <|> schemas.head?).getD ""

end Selector

/-- Take the selectors that take no table into a report, each as a table that was not found. -/
def Report.recordUnmatched (report : Report) (selectors : List Selector) (tables : List Table)
    (schemas : List String) : Report :=
  (Selector.unmatched selectors tables).foldl
    (fun report selector =>
      let schema := selector.missedSchema schemas
      report.recordMissing schema selector.table (notFoundMessage schema selector.table))
    report

end RowTypes
