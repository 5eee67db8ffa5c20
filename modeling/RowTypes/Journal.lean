import RowTypes.Log
import RowTypes.Run.Basic
import RowTypes.Server.Basic
import RowTypes.Snapshot

/-!
The journal: the notes that follow from what was done. They are computed from results alone, so that
nothing that is done hangs on the log.
-/

namespace RowTypes.Journal

open Json (str int)

/-! ## Loading tables -/

/-- A native type that its database system is not known to have. -/
def unknownType (engine : Engine) (nativeType : String) : LogEntry :=
  { level := .warn
    origin := .introspection
    event := some "unknown_vendor_type"
    message := some "received unknown data type for column"
    fields := [("engine", str engine.name), ("internal_type", str nativeType)] }

def ofTypes (engine : Engine) (nativeTypes : List String) : List LogEntry :=
  (nativeTypes.filter fun name => (engine.dataType? name).isNone).map (unknownType engine)

/-- The type by which a server knows a column. -/
def serverType? (column : Column) : Option String :=
  match column.vendor with
  | some (.postgres facts) => some facts.udtName
  | _ => none

/-- The notes about a table that was loaded from a server. -/
def ofServerTable (table : Table) : List LogEntry :=
  let foreignKeys := (table.columns.filter (·.foreignKey)).length
  { level := .debug
    origin := .introspection
    message := some "table introspected"
    fields := [("schema", str table.schema), ("table", str table.name),
      ("columns", int table.columns.length), ("foreign_keys", int foreignKeys)] } ::
    ofTypes .postgres (table.columns.filterMap serverType?)

/-- The notes about the types of a snapshot, which its engine has to know. -/
def ofSnapshotTypes (snapshot : Snapshot) : List LogEntry :=
  match Engine.ofName? snapshot.engine with
  | none => []
  | some engine =>
    ofTypes engine (((snapshot.tables.flatMap (·.columns)).filter Snapshot.leavesTypeOpen).map
      (·.nativeType))

def snapshotRead (path : String) (snapshot : Snapshot) : LogEntry :=
  { level := .debug
    origin := .introspection
    message := some "snapshot loaded"
    fields := [("path", str path), ("engine", str snapshot.engine),
      ("tables", int snapshot.tables.length)] }

/-! ## Generation -/

/-- A note of the generation without an event. -/
def generation (level : Level) (message : String) (fields : List (String × Json)) : LogEntry :=
  { level, origin := .generation, message := some message, fields }

def ofIssue (issue : Issue) : LogEntry :=
  { level := .warn
    origin := .generation
    event := some issue.code.name
    message := some issue.message
    fields := [("table", str (qualify issue.schema issue.table))] }

/-- The notes while blocks are merged into a text, up to the first that fails. -/
def ofMerges (cat : Catalog) (owners : List (String × String)) (text : String) :
    List Table → List LogEntry
  | [] => []
  | table :: rest =>
    let issues :=
      match cat.render table with
      | .ok block => block.issues.map ofIssue
      | .error _ => []
    match cat.mergeTable owners text table with
    | .error _ => issues
    | .ok merge =>
      issues ++
        generation .debug "merged table block"
          [("table", str table.qualifiedName), ("outcome", str merge.outcome.name)] ::
        ofMerges cat ((merge.block.typeName, table.qualifiedName) :: owners) merge.text rest

/-- A note about a table in the report. -/
def ofEntry (entry : TableReport) : LogEntry :=
  generation .info "table generated"
    [("schema", str entry.schema), ("table", str entry.table),
      ("path", str (entry.path.getD "")), ("outcome", str entry.outcome.name)]

def ofGroup (cat : Catalog) (run : GroupRun) : List LogEntry :=
  let path := str run.group.path
  let merging :=
    match run.original with
    | some text => ofMerges cat [] text run.group.tables
    | none => []
  match run.result with
  | .error e =>
    merging ++ [generation .warn "file left untouched"
      [("path", path), ("tables", int run.group.tables.length), ("error", str e.message)]]
  | .ok _ =>
    merging ++ run.entries.map ofEntry ++
      match run.formatterFailure with
      | some failure =>
        [generation .warn "formatter failed" [("path", path), ("error", str failure.message)]]
      | none => []

/-- The number of tables with each outcome. -/
def countFields (report : Report) : List (String × Json) :=
  TableOutcome.all.map fun outcome => (outcome.name, int (report.count outcome))

def started (cat : Catalog) (stamp : RunStamp) (files : Nat) : LogEntry :=
  generation .info "generation started"
    [("run_id", str stamp.id), ("tables", int cat.tables.length), ("files", int files)]

def completed (report : Report) : LogEntry :=
  generation .info "generation completed"
    (("run_id", str report.stamp.id) :: countFields report)

/-- The notes of a run after its first one. -/
def ofRuns (cat : Catalog) (stamp : RunStamp) (runs : List GroupRun) : List LogEntry :=
  runs.flatMap (ofGroup cat) ++ [completed (.ofRuns stamp runs)]

end RowTypes.Journal
