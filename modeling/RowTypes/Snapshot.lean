import RowTypes.Json.Reader
import RowTypes.Schema.Decoding
import RowTypes.Schema.Encoding
import RowTypes.Schema.Error
import RowTypes.Schema.NativeType

/-!
Snapshots: table sets written as JSON, to be read any number of times. A snapshot may leave the data
type of a column open; it then follows from the native type. Reading one as a table set fills this in
and checks that the set is consistent.
-/

namespace RowTypes

open Json (str ofMembers)

/-- A written table set. -/
structure Snapshot where
  version : String := "0.1"
  /-- The database system that the tables come from. -/
  engine : String
  tables : List Table
  deriving DecidableEq, Repr, Inhabited

namespace Snapshot

/-- The levels that a value inside a column of a snapshot may have: a snapshot may have 127 levels of
arrays and objects, of which a column is the fifth. -/
def columnLevels : Nat := 122

def ofJson? (j : Json) : Option Snapshot := do
  let fields ← Json.record? ["snapshot_version", "engine", "tables"] j
  return {
    version := ← fields.optional "snapshot_version" "0.1" Json.asString?
    engine := ← fields.required "engine" Json.asString?
    tables := ← fields.required "tables"
      (Json.asList? (Table.readWith? (Column.readShared? columnLevels))) }

/-- Read the text of a snapshot. -/
def parse? (text : String) : Option Snapshot :=
  (Json.parse? text).bind ofJson?

def toJson (snapshot : Snapshot) : Json :=
  ofMembers [("snapshot_version", str snapshot.version), ("engine", str snapshot.engine),
    ("tables", .array (snapshot.tables.map (Table.toJsonWith Column.toSharedJson)))]

def write (snapshot : Snapshot) : String :=
  snapshot.toJson.pretty

/-- Whether the data type of a column follows from its native type. -/
def leavesTypeOpen (column : Column) : Bool :=
  column.dataType == .unknown && !column.nativeType.isEmpty

/-- A column with what the snapshot leaves open: the data type, and whether it is a foreign key. -/
def complete (engine : Option Engine) (column : Column) : Column :=
  { column with
    dataType :=
      if leavesTypeOpen column then
        match engine with
        | some engine => engine.dataType column.nativeType
        | none => .unknown
      else column.dataType
    foreignKey := !column.target.column.isEmpty }

/-- The tables with what the snapshot leaves open. -/
def completeTables (snapshot : Snapshot) : List Table :=
  let engine := Engine.ofName? snapshot.engine
  snapshot.tables.map fun table => { table with columns := table.columns.map (complete engine) }

/-- The table set that a snapshot stands for. -/
def tableSet (snapshot : Snapshot) : Except SchemaError (List Table) :=
  match checkTables snapshot.completeTables with
  | .error place => .error (.inconsistent place)
  | .ok () => .ok snapshot.completeTables

/-- The table set that the text of a snapshot stands for, and the snapshot itself. -/
def read (text : String) : Except SchemaError (Snapshot × List Table) :=
  match parse? text with
  | none => .error .malformed
  | some snapshot => snapshot.tableSet.map (snapshot, ·)

end Snapshot

def findTable (tables : List Table) (schema name : String) : Except SchemaError Table :=
  match tables.find? fun table => table.isNamed schema name with
  | some table => .ok table
  | none => .error (.tableNotFound schema name)

/-- The tables of a schema in the order of their names. -/
def tablesOfSchema (tables : List Table) (schema : String) : List Table :=
  (tables.filter fun table => table.schema == schema).mergeSort fun a b => !decide (b.name < a.name)

end RowTypes
