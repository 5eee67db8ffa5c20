import RowTypes.Schema.Consistency
import RowTypes.Storage.Tree

/-!
Why a table set cannot be had: a table is not there, a server does not answer, or a written schema
cannot be read or is not consistent.
-/

namespace RowTypes

/-- Why a query has no result. -/
inductive QueryFailure where
  /-- The server refused it with a message. -/
  | refused (message : String)
  /-- A field of a row is null that must not be. -/
  | nullField (field : String)
  deriving DecidableEq, Repr

def QueryFailure.message : QueryFailure → String
  | refused message => "error returned from database: " ++ message
  | nullField field =>
    "error occurred while decoding column \"" ++ field ++
      "\": unexpected null; try decoding as an `Option`"

/-- Why a schema cannot be loaded from a server. -/
inductive IntrospectionFailure where
  /-- A query failed. -/
  | query (failure : QueryFailure)
  /-- A query about a table of the schema failed. -/
  | tableQuery (schema table : String) (failure : QueryFailure)
  /-- A table of the schema has no columns. -/
  | tableGone (schema table : String)
  deriving DecidableEq, Repr

def notFoundMessage (schema table : String) : String :=
  "table " ++ schema ++ "." ++ table ++ " was not found"

def introspectionMessage (reason : String) : String :=
  "introspection failed: " ++ reason

def IntrospectionFailure.message : IntrospectionFailure → String
  | query failure => failure.message
  | tableQuery schema table failure =>
    "failed to get data for " ++ schema ++ "." ++ table ++ ": " ++
      introspectionMessage failure.message
  | tableGone schema table =>
    "failed to get data for " ++ schema ++ "." ++ table ++ ": " ++ notFoundMessage schema table

/-- Why a table set cannot be had. -/
inductive SchemaError where
  | tableNotFound (schema table : String)
  | introspection (failure : IntrospectionFailure)
  | inconsistent (place : Inconsistency)
  /-- The file of a snapshot cannot be read. -/
  | unreadable (path : String) (reason : Storage.IoError)
  /-- A text is no snapshot. -/
  | malformed
  deriving DecidableEq, Repr

namespace SchemaError

/-- What is wrong with a snapshot; nothing is said about where a text is malformed. -/
def snapshotMessage (reason : String) : String :=
  "invalid snapshot: " ++ reason

/-- The text of an error. That of a malformed snapshot is left open. -/
def message? : SchemaError → Option String
  | tableNotFound schema table => some (notFoundMessage schema table)
  | introspection failure => some (introspectionMessage failure.message)
  | inconsistent place => some (snapshotMessage place.message)
  | unreadable path reason =>
    some (snapshotMessage ("failed to read " ++ path ++ ": " ++ reason.message))
  | malformed => none

end SchemaError

end RowTypes
