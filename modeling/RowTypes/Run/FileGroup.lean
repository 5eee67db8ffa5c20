import RowTypes.Report
import RowTypes.Run.Error
import RowTypes.SourceFile

/-!
File groups: the tables that are written to one file. The blocks of a group are merged into the text
of the file one after the other, and the file is written with all of them or not at all.
-/

namespace RowTypes

/-- The tables of one file. -/
structure FileGroup where
  path : String
  tables : List Table
  deriving DecidableEq, Repr, Inhabited

namespace FileGroup

/-- Put a table into the group of its file, which is a new one at the end if there is none yet. -/
def insert (path : String) (table : Table) : List FileGroup → List FileGroup
  | [] => [⟨path, [table]⟩]
  | group :: rest =>
    if Storage.samePath group.path path then
      { group with tables := group.tables ++ [table] } :: rest
    else group :: insert path table rest

end FileGroup

/-- The outcome for a table whose block was merged and changed the text. -/
def MergeOutcome.tableOutcome : MergeOutcome → TableOutcome
  | created => .created
  | patched => .patched
  | appended => .appended

/-- One table of a group after its block was merged. -/
structure TableMerge where
  table : Table
  block : Block
  /-- The text of the file with this block and those before it. -/
  text : String
  outcome : TableOutcome
  deriving DecidableEq, Repr, Inhabited

/-- The blocks of a group, merged into a text. -/
structure GroupMerge where
  original : String
  merges : List TableMerge
  deriving DecidableEq, Repr, Inhabited

namespace GroupMerge

def text (group : GroupMerge) : String :=
  match group.merges.getLast? with
  | some last => last.text
  | none => group.original

def changes (group : GroupMerge) : Bool :=
  group.text != group.original

/-- What there is to note about the tables. -/
def issues (group : GroupMerge) : List Issue :=
  group.merges.flatMap fun merge => merge.block.issues

end GroupMerge

namespace Catalog

/-- The groups of some tables, in the order in which their files come up first. -/
def fileGroups (cat : Catalog) (tables : List Table) : List FileGroup :=
  tables.foldl (fun groups table => FileGroup.insert (cat.options table).path table groups) []

/-- Merge the block of a table into a text. `owners` are the type names of the blocks that were
merged before, each with its table; no two tables of a file may share one. -/
def mergeTable (cat : Catalog) (owners : List (String × String)) (text : String) (table : Table) :
    Except FileError TableMerge :=
  match cat.render table with
  | .error e => .error (.missingTarget e)
  | .ok block =>
    match owners.lookup block.typeName with
    | some first => .error (.duplicateType block.typeName first table.qualifiedName)
    | none =>
      match SourceFile.merge text (cat.options table).packageName block with
      | .error e => .error (.malformed e)
      | .ok merged =>
        let outcome := if merged.text = text then .unchanged else merged.outcome.tableOutcome
        .ok ⟨table, block, merged.text, outcome⟩

/-- Merge the blocks of tables that follow those of `owners`. -/
def mergeTables (cat : Catalog) (owners : List (String × String)) (text : String) :
    List Table → Except FileError (List TableMerge)
  | [] => .ok []
  | table :: rest =>
    match cat.mergeTable owners text table with
    | .error e => .error e
    | .ok merge =>
      match cat.mergeTables ((merge.block.typeName, table.qualifiedName) :: owners) merge.text
          rest with
      | .error e => .error e
      | .ok merges => .ok (merge :: merges)

/-- Merge the blocks of some tables into the text of their file. -/
def mergeGroup (cat : Catalog) (original : String) (tables : List Table) :
    Except FileError GroupMerge :=
  (cat.mergeTables [] original tables).map (⟨original, ·⟩)

end Catalog

end RowTypes
