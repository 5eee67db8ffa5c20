/-!
TOML tables. A document is a list of sections, each a header and the assignments below it. Tables
remember how they came to be, since that decides which later headers and dotted keys may add to
them: every table is defined once, and no key is assigned twice.
-/

namespace RowTypes

/-- How a table came to be. -/
inductive TableOrigin where
  /-- By a header of its own, or as the table of the whole document. -/
  | header
  /-- As a step in the header of a table inside it. -/
  | path
  /-- As a step in a dotted key. -/
  | dotted
  /-- Between braces. -/
  | braces
  deriving DecidableEq, Repr, Inhabited

/-- The values that are known by their kind alone. -/
inductive ScalarKind where
  | integer
  | float
  | dateTime
  deriving DecidableEq, Repr, Inhabited

/-- A TOML value. Options are texts and truth values; of numbers and dates only the kind is kept. -/
inductive Toml where
  | text (value : String)
  | boolean (value : Bool)
  | scalar (kind : ScalarKind)
  | array (items : List Toml)
  | table (origin : TableOrigin) (entries : List (String × Toml))
  /-- The tables of one header in double brackets. -/
  | tables (items : List (List (String × Toml)))
  deriving Repr, Inhabited

/-- The keys of a table with their values. -/
abbrev TomlEntries := List (String × Toml)

namespace TomlEntries

def replace (key : String) (value : Toml) (entries : TomlEntries) : TomlEntries :=
  entries.map fun entry => if entry.1 == key then (key, value) else entry

/-- Whether a table may be entered: by a header, if it is not between braces; by a dotted key, if no
header and no braces define it. -/
def mayEnter (byDots : Bool) : TableOrigin → Bool
  | .header => !byDots
  | .path => true
  | .dotted => true
  | .braces => false

/-- Change the table that a path leads to. Tables that are missing on the way are made. Of the tables
of one header the path enters the last. -/
def update (byDots : Bool) (change : TableOrigin → TomlEntries → Option TomlEntries) :
    List String → TableOrigin → TomlEntries → Option TomlEntries
  | [], origin, entries => change origin entries
  | key :: rest, _, entries =>
    match entries.lookup key with
    | none =>
      let origin := if byDots then .dotted else .path
      (update byDots change rest origin []).map fun inner => entries ++ [(key, .table origin inner)]
    | some (.table origin inner) =>
      if mayEnter byDots origin then
        (update byDots change rest origin inner).map fun inner =>
          replace key (.table origin inner) entries
      else none
    | some (.tables items) =>
      match items.getLast? with
      | none => none
      | some last =>
        (update byDots change rest .header last).map fun inner =>
          replace key (.tables (items.dropLast ++ [inner])) entries
    | some _ => none

/-- An assignment: the steps before the last key, the key, and the value. -/
structure Assignment where
  path : List String
  key : String
  value : Toml
  deriving Repr, Inhabited

/-- Carry out an assignment. The key must be new, and a dotted key must end in a table that dotted
keys have made. -/
def assign (entries : TomlEntries) (item : Assignment) : Option TomlEntries :=
  update true
    (fun origin inner =>
      if (origin == .dotted) == item.path.isEmpty then none
      else if (inner.lookup item.key).isSome then none
      else some (inner ++ [(item.key, item.value)]))
    item.path .header entries

def assignAll (entries : TomlEntries) (items : List Assignment) : Option TomlEntries :=
  items.foldlM assign entries

end TomlEntries

open TomlEntries (Assignment)

/-- A header and the assignments below it. -/
structure TomlSection where
  path : List String
  key : String
  /-- The header stands in double brackets. -/
  repeated : Bool
  assignments : List Assignment
  deriving Repr, Inhabited

namespace TomlSection

/-- Add the table of a section to the table that its header is in. A header in brackets needs a new
key, or a table that exists only as a step of other headers; one in double brackets adds to those
before it. -/
def addInside (part : TomlSection) (entries : TomlEntries) : Option TomlEntries :=
  match entries.lookup part.key, part.repeated with
  | none, false =>
    (TomlEntries.assignAll [] part.assignments).map fun inner =>
      entries ++ [(part.key, .table .header inner)]
  | none, true =>
    (TomlEntries.assignAll [] part.assignments).map fun inner =>
      entries ++ [(part.key, .tables [inner])]
  | some (.table .path inner), false =>
    (TomlEntries.assignAll inner part.assignments).map fun inner =>
      TomlEntries.replace part.key (.table .header inner) entries
  | some (.tables items), true =>
    (TomlEntries.assignAll [] part.assignments).map fun inner =>
      TomlEntries.replace part.key (.tables (items ++ [inner])) entries
  | _, _ => none

/-- Add the table of a section to the document. -/
def addTo (entries : TomlEntries) (part : TomlSection) : Option TomlEntries :=
  TomlEntries.update false (fun _ inner => part.addInside inner) part.path .header entries

end TomlSection

/-- The table of a document: assignments before the first header, then sections. -/
def TomlEntries.ofDocument (assignments : List Assignment) (sections : List TomlSection) :
    Option TomlEntries :=
  (TomlEntries.assignAll [] assignments).bind fun entries => sections.foldlM TomlSection.addTo entries

/-- The table that assignments between braces make. -/
def Toml.ofAssignments (items : List Assignment) : Option Toml :=
  (TomlEntries.assignAll [] items).map (.table .braces)

end RowTypes
