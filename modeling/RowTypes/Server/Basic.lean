import RowTypes.Server.Row

/-!
Servers: what a PostgreSQL server answers to the four queries that tables are loaded with. The queries
are not spelled out: a server is what it answers. A table is loaded with three queries one after the
other; a schema is loaded table by table in the order in which the server lists them, and fails with the
first table that does.
-/

namespace RowTypes

/-- A question to a server. -/
inductive Query where
  | tables (schema : String) (includeViews : Bool)
  | columns (schema table : String)
  | primaryKeys (schema table : String)
  | foreignKeys (schema table : String)
  deriving DecidableEq, Repr

/-- What a server answers: rows, or the message of an error. -/
structure Server where
  tables : String → Bool → Except String (List (Option String))
  columns : String → String → Except String (List ColumnRow)
  primaryKeys : String → String → Except String (List (Option String))
  foreignKeys : String → String → Except String (List ForeignKeyRow)

/-- What is loaded. -/
structure LoadOptions where
  includeViews : Bool := true
  includeComments : Bool := true
  deriving DecidableEq, Repr, Inhabited

/-- Why a table is not loaded. -/
inductive TableFailure where
  | query (failure : QueryFailure)
  /-- The server knows no columns of it. -/
  | noColumns
  deriving DecidableEq, Repr

/-- A table of a schema that is not loaded, and why. -/
structure FailedTable where
  name : String
  failure : TableFailure
  deriving DecidableEq, Repr

namespace TableFailure

/-- The error for a table that was asked for by its name. -/
def error (schema name : String) : TableFailure → SchemaError
  | query failure => .introspection (.query failure)
  | noColumns => .tableNotFound schema name

end TableFailure

namespace FailedTable

/-- The error for a schema with such a table. -/
def error (schema : String) (failed : FailedTable) : SchemaError :=
  match failed.failure with
  | .query failure => .introspection (.tableQuery schema failed.name failure)
  | .noColumns => .introspection (.tableGone schema failed.name)

end FailedTable

namespace Server

def engineName : String :=
  "postgres"

/-- The rows of an answer, each read. -/
def readRows {ρ α : Type} (read : ρ → Except QueryFailure α) (answer : Except String (List ρ)) :
    Except QueryFailure (List α) :=
  match answer with
  | .error message => .error (.refused message)
  | .ok rows => rows.mapM read

def tableNames (server : Server) (schema : String) (includeViews : Bool) :
    Except QueryFailure (List String) :=
  readRows (requireField "name") (server.tables schema includeViews)

def columnInfos (server : Server) (schema table : String) : Except QueryFailure (List ColumnInfo) :=
  readRows ColumnRow.read (server.columns schema table)

def primaryKeyNames (server : Server) (schema table : String) : Except QueryFailure (List String) :=
  readRows (requireField "name") (server.primaryKeys schema table)

def foreignKeyInfos (server : Server) (schema table : String) :
    Except QueryFailure (List ForeignKeyInfo) :=
  readRows ForeignKeyRow.read (server.foreignKeys schema table)

def loadTable (server : Server) (options : LoadOptions) (schema name : String) :
    Except TableFailure Table :=
  match server.columnInfos schema name with
  | .error failure => .error (.query failure)
  | .ok [] => .error .noColumns
  | .ok infos =>
    match server.primaryKeyNames schema name with
    | .error failure => .error (.query failure)
    | .ok primaryKeys =>
      match server.foreignKeyInfos schema name with
      | .error failure => .error (.query failure)
      | .ok foreignKeys =>
        let column (info : ColumnInfo) : Column :=
          info.toColumn primaryKeys foreignKeys options.includeComments
        .ok { schema, name, columns := infos.map column }

/-- Load tables up to the first that fails. -/
def loadTables (server : Server) (options : LoadOptions) (schema : String) :
    List String → List Table × Option FailedTable
  | [] => ([], none)
  | name :: rest =>
    match server.loadTable options schema name with
    | .error failure => ([], some ⟨name, failure⟩)
    | .ok table =>
      let (tables, failed) := server.loadTables options schema rest
      (table :: tables, failed)

/-- The tables of a schema that are loaded, and the error that ended this if there was one. -/
def loadSchema (server : Server) (options : LoadOptions) (schema : String) :
    List Table × Option SchemaError :=
  match server.tableNames schema options.includeViews with
  | .error failure => ([], some (.introspection (.query failure)))
  | .ok names =>
    let (tables, failed) := server.loadTables options schema names
    (tables, failed.map (FailedTable.error schema))

def getTable (server : Server) (options : LoadOptions) (schema name : String) :
    Except SchemaError Table :=
  (server.loadTable options schema name).mapError (TableFailure.error schema name)

def getTables (server : Server) (options : LoadOptions) (schema : String) :
    Except SchemaError (List Table) :=
  match server.loadSchema options schema with
  | (_, some e) => .error e
  | (tables, none) => .ok tables

/-- The queries that loading a table asks: each only if the one before it was answered. -/
def tableQueries (server : Server) (schema name : String) : List Query :=
  match server.columnInfos schema name with
  | .ok (_ :: _) =>
    match server.primaryKeyNames schema name with
    | .ok _ => [.columns schema name, .primaryKeys schema name, .foreignKeys schema name]
    | .error _ => [.columns schema name, .primaryKeys schema name]
  | _ => [.columns schema name]

/-- The queries that loading a schema asks. -/
def schemaQueries (server : Server) (options : LoadOptions) (schema : String) : List Query :=
  let first := Query.tables schema options.includeViews
  match server.tableNames schema options.includeViews with
  | .error _ => [first]
  | .ok names =>
    match server.loadTables options schema names with
    | (tables, failed) =>
      first :: (tables.map (·.name) ++ (failed.map (·.name)).toList).flatMap
        (server.tableQueries schema)

end Server

end RowTypes
