import RowTypes.Text.Case

/-!
Names in generated code, derived from names in the database: `user_id` gives the field `UserId` and
the key `userId`. Underscores only part words, so they never reach a field name.
-/

namespace RowTypes.Naming

open Text

/-- The word with its first letter in upper case. -/
def capitalize : List Char → List Char
  | [] => []
  | c :: r => upperChar c ++ r

/-- The words of a database name: its lower case form, parted at the underscores. -/
def words (s : List Char) : List (List Char) :=
  ((lower s).splitOn '_').filter (!·.isEmpty)

/-- The field (or type) name of a database name, on characters. -/
def fieldChars (s : List Char) : List Char :=
  (words s).flatMap capitalize

/-- The field (or type) name of a database name: `user_id` gives `UserId`. -/
def fieldName (name : String) : String :=
  String.ofList (fieldChars name.toList)

/-- The key of a database name in encoded rows: `user_id` gives `userId`. -/
def keyName (name : String) : String :=
  match fieldChars name.toList with
  | [] => ""
  | c :: r => String.ofList (lowerChar c ++ r)

/-- The base name of the file of a table, which is in lower case. -/
def fileName (table : String) : String :=
  lowered table

/-- The type name of a table: its field name and a suffix. -/
def typeName (table suffix : String) : String :=
  fieldName table ++ suffix

end RowTypes.Naming
