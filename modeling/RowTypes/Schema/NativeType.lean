import RowTypes.Schema.Basic
import RowTypes.Text.Blank
import RowTypes.Text.Case

/-!
Native types: how the type names of PostgreSQL and of MariaDB are sorted into data types. Case does
not matter, and neither does what stands in parentheses (`NUMERIC(10,2)` is `numeric`).
-/

namespace RowTypes

open Text

/-- A database system whose type names are known. -/
inductive Engine where
  | postgres
  | mariadb
  deriving DecidableEq, Repr, Inhabited

namespace Engine

def name : Engine → String
  | postgres => "postgres"
  | mariadb => "mariadb"

/-- The system that an engine name stands for. MySQL shares the type names of MariaDB. -/
def ofName? : String → Option Engine
  | "postgres" => some postgres
  | "mariadb" => some mariadb
  | "mysql" => some mariadb
  | _ => none

/-- The type name without its arguments, in lower case. -/
def baseType (nativeType : String) : String :=
  String.ofList (trim ((lower nativeType.toList).takeWhile (· != '(')))

/-- The known type names of a system, by data type. -/
def knownTypes : Engine → List (DataType × List String)
  | postgres =>
    [(.string, ["varchar", "character varying", "text", "char", "character", "bpchar", "citext",
        "name", "uuid"]),
      (.integer, ["int2", "int4", "int8", "smallint", "integer", "bigint", "serial", "bigserial",
        "smallserial"]),
      (.double, ["numeric", "decimal", "float4", "float8", "real", "double precision", "money"]),
      (.date, ["date", "timestamp", "timestamptz", "timestamp without time zone",
        "timestamp with time zone"]),
      (.geo, ["point", "geometry", "geography"])]
  | mariadb =>
    [(.string, ["varchar", "text", "tinytext", "mediumtext", "longtext", "char"]),
      (.integer, ["int", "tinyint", "smallint", "mediumint", "bigint"]),
      (.double, ["decimal", "number", "float", "double"]),
      (.date, ["datetime", "date", "timestamp"]),
      (.geo, ["point"])]

/-- The data type of a native type, if the system is known to have it. -/
def dataType? (engine : Engine) (nativeType : String) : Option DataType :=
  (engine.knownTypes.find? fun entry => entry.2.contains (baseType nativeType)).map (·.1)

def dataType (engine : Engine) (nativeType : String) : DataType :=
  (engine.dataType? nativeType).getD .unknown

end Engine

end RowTypes
