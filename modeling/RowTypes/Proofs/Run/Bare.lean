import RowTypes.Run.Basic

/-!
Erasing references that no foreign key uses. Nothing that is generated hangs on what a column refers to
unless the column is a foreign key, so a run over the bare tables goes step by step like a run over the
tables themselves.

What is proved:
  1. `render_bare`: the block of a table is that of the bare table.
  2. `mergeGroup_bare`, `fileGroups_bare`: the groups of a run and their merges.
  3. `runGroups_bare`, `ofRuns_bare`: the trees and the report of a run.
-/

namespace RowTypes

/-! ## Bare tables -/

/-- The column without a reference that no foreign key uses. -/
def Column.bare (column : Column) : Column :=
  { column with target := if column.foreignKey then column.target else {} }

def Table.bare (table : Table) : Table :=
  { table with columns := table.columns.map Column.bare }

def Catalog.bare (cat : Catalog) : Catalog :=
  { cat with tables := cat.tables.map Table.bare }

theorem Column.bare_of_foreignKey {column : Column} (h : column.foreignKey = true) :
    column.bare = column := by
  rw [bare, if_pos h]

theorem Column.refersTo_bare (column : Column) (schema table : String) :
    column.bare.refersTo schema table = column.refersTo schema table := by
  cases h : column.foreignKey with
  | true => rw [bare_of_foreignKey h]
  | false => simp [refersTo, bare, h]

theorem ColumnTag.ofColumn_bare (column : Column) : ofColumn column.bare = ofColumn column := by
  cases h : column.foreignKey with
  | true => rw [Column.bare_of_foreignKey h]
  | false =>
    simp only [ofColumn, Column.bare, h, Bool.false_eq_true, if_false]
    rfl

theorem Block.columnLines_bare (column : Column) (type : FieldType) :
    columnLines column.bare type = columnLines column type := by
  simp only [columnLines, ColumnTag.ofColumn_bare]
  rfl

namespace Catalog

variable {cat : Catalog}

/-! ## Rendering -/

theorem find?_bare (cat : Catalog) (schema name : String) :
    cat.bare.find? schema name = (cat.find? schema name).map Table.bare := by
  rw [find?, bare, List.find?_map]
  rfl

theorem fieldType_bare (cat : Catalog) (table : Table) (column : Column) :
    cat.bare.fieldType table.bare column.bare = cat.fieldType table column := by
  cases h : column.foreignKey with
  | true =>
    rw [Column.bare_of_foreignKey h]
    unfold fieldType
    rw [find?_bare]
    cases cat.find? column.target.schema column.target.table <;> rfl
  | false => simp [fieldType, wantsPointer, Column.bare, h]

theorem fieldTypes_bare (cat : Catalog) (table : Table) (columns : List Column) :
    cat.bare.fieldTypes table.bare (columns.map Column.bare) =
      (cat.fieldTypes table columns).map
        (List.map fun field => (field.1.bare, field.2)) := by
  induction columns with
  | nil => rfl
  | cons column columns ih =>
    rw [List.map_cons, fieldTypes, fieldTypes, fieldType_bare, ih]
    cases cat.fieldType table column with
    | error e => rfl
    | ok field => cases cat.fieldTypes table columns <;> rfl

theorem relationsFrom_bare (cat : Catalog) (target source : Table) :
    cat.bare.relationsFrom target.bare source.bare = cat.relationsFrom target source := by
  have hrefers : (fun column : Column => column.refersTo target.schema target.name) ∘ Column.bare =
      fun column => column.refersTo target.schema target.name :=
    funext fun column => column.refersTo_bare _ _
  have hcolumns : source.bare.columns.filter
      (fun column => column.refersTo target.bare.schema target.bare.name) =
        (source.columns.filter fun column => column.refersTo target.schema target.name).map
          Column.bare := by
    change (source.columns.map Column.bare).filter _ = _
    rw [List.filter_map]
    exact congrArg (fun p => (source.columns.filter p).map Column.bare) hrefers
  rw [relationsFrom, hcolumns, List.map_map]
  rfl

theorem relations_bare (cat : Catalog) (target : Table) :
    cat.bare.relations target.bare = cat.relations target := by
  have hsources : cat.bare.tables.flatMap (cat.bare.relationsFrom target.bare) =
      cat.tables.flatMap (cat.relationsFrom target) := by
    rw [bare, List.flatMap_map]
    exact congrArg (List.flatMap · cat.tables) (funext (cat.relationsFrom_bare target))
  rw [relations, hsources]
  rfl

theorem blockOf_bare (cat : Catalog) (table : Table)
    (fields : List (Column × FieldType × List Issue)) :
    cat.bare.blockOf table.bare (fields.map fun field => (field.1.bare, field.2)) =
      cat.blockOf table fields := by
  have hconstants : table.bare.columns.map (Block.columnConstant table.bare) =
      table.columns.map (Block.columnConstant table) := by
    rw [Table.bare, List.map_map]
    rfl
  simp only [blockOf, relations_bare, hconstants, List.flatMap_map, List.filterMap_map,
    Block.columnLines_bare]
  rfl

/-- The block of a table is that of the bare table. -/
theorem render_bare (cat : Catalog) (table : Table) :
    cat.bare.render table.bare = cat.render table := by
  have hfields : cat.bare.fieldTypes table.bare table.bare.columns = _ :=
    cat.fieldTypes_bare table table.columns
  rw [render, hfields, render]
  cases cat.fieldTypes table table.columns with
  | error e => rfl
  | ok fields => exact congrArg Except.ok (cat.blockOf_bare table fields)

end Catalog

/-! ## Merges -/

def TableMerge.bare (merge : TableMerge) : TableMerge :=
  { merge with table := merge.table.bare }

def GroupMerge.bare (merge : GroupMerge) : GroupMerge :=
  { merge with merges := merge.merges.map TableMerge.bare }

def FileGroup.bare (group : FileGroup) : FileGroup :=
  { group with tables := group.tables.map Table.bare }

def GroupRun.bare (run : GroupRun) : GroupRun :=
  { run with group := run.group.bare, result := run.result.map GroupMerge.bare }

theorem GroupMerge.text_bare (merge : GroupMerge) : merge.bare.text = merge.text := by
  rw [text, text, bare, List.getLast?_map]
  cases merge.merges.getLast? <;> rfl

theorem GroupMerge.changes_bare (merge : GroupMerge) : merge.bare.changes = merge.changes := by
  rw [changes, text_bare]
  rfl

theorem GroupMerge.issues_bare (merge : GroupMerge) : merge.bare.issues = merge.issues := by
  rw [issues, bare, List.flatMap_map]
  rfl

namespace Catalog

variable {cat : Catalog}

theorem mergeTable_bare (cat : Catalog) (owners : List (String × String)) (text : String)
    (table : Table) :
    cat.bare.mergeTable owners text table.bare =
      (cat.mergeTable owners text table).map TableMerge.bare := by
  rw [mergeTable, render_bare, mergeTable]
  cases cat.render table with
  | error e => rfl
  | ok block =>
    have hoptions : cat.bare.options table.bare = cat.options table := rfl
    rw [hoptions]
    dsimp only
    cases owners.lookup block.typeName with
    | some first => rfl
    | none => cases SourceFile.merge text (cat.options table).packageName block <;> rfl

theorem mergeTables_bare (cat : Catalog) (owners : List (String × String)) (text : String)
    (tables : List Table) :
    cat.bare.mergeTables owners text (tables.map Table.bare) =
      (cat.mergeTables owners text tables).map (List.map TableMerge.bare) := by
  induction tables generalizing owners text with
  | nil => rfl
  | cons table tables ih =>
    rw [List.map_cons, mergeTables, mergeTable_bare, mergeTables]
    cases cat.mergeTable owners text table with
    | error e => rfl
    | ok merge =>
      have hrest := ih ((merge.block.typeName, table.qualifiedName) :: owners) merge.text
      have hname : table.bare.qualifiedName = table.qualifiedName := rfl
      simp only [Except.map, TableMerge.bare, hname]
      rw [hrest]
      cases cat.mergeTables ((merge.block.typeName, table.qualifiedName) :: owners) merge.text
        tables <;> rfl

theorem mergeGroup_bare (cat : Catalog) (original : String) (tables : List Table) :
    cat.bare.mergeGroup original (tables.map Table.bare) =
      (cat.mergeGroup original tables).map GroupMerge.bare := by
  rw [mergeGroup, mergeTables_bare, mergeGroup]
  cases cat.mergeTables [] original tables <;> rfl

/-! ## Groups -/

theorem insert_bare (path : String) (table : Table) (groups : List FileGroup) :
    FileGroup.insert path table.bare (groups.map FileGroup.bare) =
      (FileGroup.insert path table groups).map FileGroup.bare := by
  induction groups with
  | nil => rfl
  | cons group groups ih =>
    rw [List.map_cons, FileGroup.insert, FileGroup.insert]
    change (if Storage.samePath group.path path then _ else _) = _
    split
    · simp [FileGroup.bare]
    · rw [ih, List.map_cons]

theorem fileGroups_bare (cat : Catalog) (tables : List Table) :
    cat.bare.fileGroups (tables.map Table.bare) = (cat.fileGroups tables).map FileGroup.bare := by
  have hfold : ∀ groups, (tables.map Table.bare).foldl
      (fun groups table => FileGroup.insert (cat.bare.options table).path table groups)
        (groups.map FileGroup.bare) =
      (tables.foldl (fun groups table => FileGroup.insert (cat.options table).path table groups)
        groups).map FileGroup.bare := by
    induction tables with
    | nil => exact fun _ => rfl
    | cons table tables ih =>
      intro groups
      rw [List.map_cons, List.foldl_cons, List.foldl_cons, insert_bare]
      exact ih _
  exact hfold []

theorem runGroup_bare (cat : Catalog) (tree : Storage.Tree) (group : FileGroup)
    (launch : Command.Launcher) :
    cat.bare.runGroup tree group.bare launch =
      ((cat.runGroup tree group launch).1, (cat.runGroup tree group launch).2.bare) := by
  unfold runGroup
  have hpath : group.bare.path = group.path := rfl
  rw [hpath]
  cases Storage.readExisting tree group.path with
  | error reason => rfl
  | ok original =>
    simp only
    rw [FileGroup.bare, mergeGroup_bare]
    cases cat.mergeGroup original group.tables with
    | error e => rfl
    | ok merge =>
      simp only [Except.map, GroupMerge.changes_bare, GroupMerge.text_bare]
      split
      · rcases Storage.writeAtomic tree group.path merge.text.toUTF8 with ⟨written, _ | _⟩ <;> rfl
      · rfl

theorem runGroups_bare (cat : Catalog) (tree : Storage.Tree) (groups : List FileGroup)
    (launch : Command.Launcher) :
    cat.bare.runGroups tree (groups.map FileGroup.bare) launch =
      ((cat.runGroups tree groups launch).1,
        (cat.runGroups tree groups launch).2.map GroupRun.bare) := by
  induction groups generalizing tree with
  | nil => rfl
  | cons group groups ih =>
    rw [List.map_cons, runGroups, runGroup_bare, runGroups]
    simp only [ih, List.map_cons]

end Catalog

/-! ## Reports -/

theorem GroupRun.entries_bare (run : GroupRun) : run.bare.entries = run.entries := by
  obtain ⟨group, original, result, failure⟩ := run
  cases result with
  | error e => exact List.map_map
  | ok merge => exact List.map_map

theorem GroupRun.warnings_bare (run : GroupRun) : run.bare.warnings = run.warnings := by
  obtain ⟨group, original, result, failure⟩ := run
  cases result with
  | error e => rfl
  | ok merge =>
    simp only [warnings, bare, Except.map, GroupMerge.issues_bare]
    obtain ⟨path, _ | ⟨table, tables⟩⟩ := group <;> cases failure <;> rfl

/-- The report of a run is that of the run over the bare tables. -/
theorem Report.ofRuns_bare (stamp : RunStamp) (runs : List GroupRun) :
    ofRuns stamp (runs.map GroupRun.bare) = ofRuns stamp runs := by
  have hrecord : (fun report run => GroupRun.record report (GroupRun.bare run)) = GroupRun.record := by
    funext report run
    rw [GroupRun.record, GroupRun.entries_bare, GroupRun.warnings_bare, GroupRun.record]
  rw [ofRuns, List.foldl_map, hrecord, ofRuns]

end RowTypes
