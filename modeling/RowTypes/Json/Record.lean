import RowTypes.Json.Value

/-!
Records in JSON: a value that is read by the names of its fields. A record is an object, in which
unknown keys do not count and known keys stand at most once, or an array of the values of the
fields in their order, of which the last ones may be missing.
-/

namespace RowTypes

namespace Json

def asString? : Json → Option String
  | .text value => value
  | _ => none

def asBool? : Json → Option Bool
  | .bool value => some value
  | _ => none

/-- The value of a number that is written as an integer. -/
def asInteger? : Json → Option Int
  | .number (.integer value) => some value
  | _ => none

def asInt32? (j : Json) : Option Int32 :=
  (asInteger? j).bind fun i =>
    if Int32.minValue.toInt ≤ i ∧ i ≤ Int32.maxValue.toInt then some (Int32.ofInt i) else none

def asInt64? (j : Json) : Option Int64 :=
  (asInteger? j).bind fun i =>
    if Int64.minValue.toInt ≤ i ∧ i ≤ Int64.maxValue.toInt then some (Int64.ofInt i) else none

/-- A value that may be null. -/
def orNull? {α : Type} (read : Json → Option α) : Json → Option (Option α)
  | .null => some none
  | j => (read j).map some

def asList? {α : Type} (read : Json → Option α) : Json → Option (List α)
  | .array items => items.mapM read
  | _ => none

/-- The values of the known fields of a record. -/
abbrev Record := List (String × Json)

/-- The members with known keys, each key once, added to those that were found before. -/
def knownMembers (names : List String) (found : Record) :
    List (Option String × Json) → Option Record
  | [] => some found.reverse
  | (none, _) :: _ => none
  | (some key, value) :: rest =>
    if names.contains key then
      if (found.lookup key).isSome then none else knownMembers names ((key, value) :: found) rest
    else knownMembers names found rest

def objectRecord? (names : List String) : Json → Option Record
  | .object members => knownMembers names [] members
  | _ => none

/-- The record that an object or an array spells. -/
def record? (names : List String) : Json → Option Record
  | .array items => if items.length ≤ names.length then some (names.zip items) else none
  | j => objectRecord? names j

namespace Record

def required {α : Type} (record : Record) (name : String) (read : Json → Option α) : Option α :=
  (record.lookup name).bind read

def optional {α : Type} (record : Record) (name : String) (default : α)
    (read : Json → Option α) : Option α :=
  match record.lookup name with
  | some j => read j
  | none => some default

end Record

end Json

end RowTypes
