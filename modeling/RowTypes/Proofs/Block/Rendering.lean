import RowTypes.Proofs.Block.Clauses
import RowTypes.Proofs.Packages

/-!
Rendered blocks. Every table that is rendered gives lines that fit together as a `Layout`: this is
where the names, types, tags and comments of the columns are looked at, and nothing later has to.

What is proved:
  1. `isInner_fieldLine`, `isInner_constantLine`: fields and constants are indented lines.
  2. `Catalog.exists_formed`: the text of a rendered block is the lines of a layout, and the packages
     that it needs are two.
-/

namespace RowTypes

open Text Region Block

section Lines

theorem toList_unlines (lines : List String) :
    (unlines lines).toList = terminated (lines.map String.toList) := by
  simp [unlines, String.toList_join, terminated, List.flatMap_map]

theorem head?_indented (line : String) : (indented line).toList.head? = some '\t' := by
  simp [indented]

theorem clean_indented {line : String} (h : OneLine line) : '\n' ∉ (indented line).toList := by
  simpa [indented, OneLine] using h

theorem oneLine_empty : OneLine "" := by decide

/-! ## Fields -/

/-- A field: its name, its type, and what the tag says. -/
def fieldLine (name type tag : String) : String :=
  indented (Naming.fieldName name ++ " " ++ type ++ " `" ++ tag)

theorem isInner_fieldLine {name type tag : String} (hname : Unspaced name.toList)
    (htype : FieldKind type) (htag : OneLine tag) : IsInner (fieldLine name type tag).toList where
  indented := head?_indented _
  clean := clean_indented <| by
    simp only [oneLine_append]
    exact ⟨⟨⟨⟨oneLine_of_unspaced (Naming.unspaced_fieldName hname), by decide⟩,
      oneLine_of_unspaced htype.unspaced⟩, by decide⟩, htag⟩
  inked := ⟨'\x60', by simp [fieldLine, Block.indented], by decide⟩

theorem not_isImportLine_fieldLine {name type : String} (hname : Unspaced name.toList)
    (htype : FieldKind type) (tag : String) : ¬Imports.isImportLine (fieldLine name type tag) := by
  have hline : (fieldLine name type tag).toList = '\t' :: (Naming.fieldChars name.toList ++
      ' ' :: (type.toList ++ " `".toList ++ tag.toList)) := by
    simp [fieldLine, Block.indented, Naming.fieldName]
  -- Without a name the line begins with the type, of which `int` alone begins as a clause does.
  rcases Naming.fieldChars_cases name.toList with hempty | hhead
  · rw [hempty] at hline
    rcases htype.head with rfl | htypeHead
    · have htrim : trimStart (fieldLine name "int" tag).toList =
          "int `".toList ++ tag.toList := by
        simp [hline, trimStart, isWhite]
      simp [Imports.isImportLine, htrim, Imports.keyword_eq, List.isPrefixOf]
    · cases hchars : type.toList with
      | nil => simp [hchars] at htypeHead
      | cons c rest =>
        rw [hchars] at htypeHead
        have hwhite : ¬isWhite c := (unspaced_cons.mp (hchars ▸ htype.unspaced)).1
        have htrim : trimStart (fieldLine name type tag).toList =
            c :: (rest ++ " `".toList ++ tag.toList) := by
          simp [hline, hchars, trimStart, show isWhite '\t' by decide, show isWhite ' ' by decide,
            hwhite]
        exact not_isImportLine htrim (by simpa using htypeHead)
  · cases hchars : Naming.fieldChars name.toList with
    | nil => simp [hchars] at hhead
    | cons c rest =>
      rw [hchars] at hhead hline
      have hwhite : ¬isWhite c :=
        (unspaced_cons.mp (hchars ▸ Naming.unspaced_fieldChars hname)).1
      have htrim : trimStart (fieldLine name type tag).toList =
          c :: (rest ++ ' ' :: (type.toList ++ " `".toList ++ tag.toList)) := by
        simp [hline, trimStart, show isWhite '\t' by decide, hwhite]
      exact not_isImportLine htrim (by simpa using hhead)

theorem isInner_comment {line : String} (h : OneLine line) :
    IsInner (indented ("// " ++ line)).toList where
  indented := head?_indented _
  clean := clean_indented (by simp [h, show OneLine "// " by decide])
  inked := ⟨'/', by simp [Block.indented], by decide⟩

theorem not_isImportLine_comment (line : String) :
    ¬Imports.isImportLine (indented ("// " ++ line)) := by
  have htrim : trimStart (indented ("// " ++ line)).toList = '/' :: ("/ ".toList ++ line.toList) := by
    simp [Block.indented, trimStart, isWhite]
  exact not_isImportLine htrim (by decide)

theorem oneLine_of_mem_commentLines {column : Column} {line : String}
    (h : line ∈ column.commentLines) : OneLine line := by
  unfold Column.commentLines at h
  split at h
  · next text _ =>
    split at h
    · simp at h
    · obtain ⟨chars, hchars, rfl⟩ := List.mem_map.mp h
      rw [OneLine, String.toList_ofList]
      exact clean_splitOn _ chars hchars
  · simp at h

/-- What the lines of the fields have in common. -/
structure IsFieldLine (line : String) : Prop where
  inner : IsInner line.toList
  not_import : ¬Imports.isImportLine line

theorem isFieldLine_of_mem_columnLines {column : Column} {type : FieldType} {line : String}
    (hcolumn : column.Unspaced) (htype : FieldKind type.name) (h : line ∈ columnLines column type) :
    IsFieldLine line := by
  unfold columnLines at h
  rcases List.mem_append.mp h with hcomment | hfield
  · obtain ⟨comment, hmem, rfl⟩ := List.mem_map.mp hcomment
    exact ⟨isInner_comment (oneLine_of_mem_commentLines hmem), not_isImportLine_comment _⟩
  · have hline : line = fieldLine column.name type.name ("json:\"" ++ Naming.keyName column.name ++
        "\" " ++ Tag.columnKey ++ ":\"" ++ (ColumnTag.ofColumn column).format ++ "\"`") := by
      rw [List.mem_singleton.mp hfield, fieldLine, ← String.toList_inj]
      simp [Block.indented]
    have htag : OneLine ("json:\"" ++ Naming.keyName column.name ++ "\" " ++ Tag.columnKey ++
        ":\"" ++ (ColumnTag.ofColumn column).format ++ "\"`") := by
      simp only [oneLine_append]
      exact ⟨⟨⟨⟨⟨⟨by decide, oneLine_of_unspaced (Naming.unspaced_keyName hcolumn.name)⟩,
        by decide⟩, by decide⟩, by decide⟩, oneLine_columnTag hcolumn⟩, by decide⟩
    rw [hline]
    exact ⟨isInner_fieldLine hcolumn.name htype htag,
      not_isImportLine_fieldLine hcolumn.name htype _⟩

theorem isFieldLine_relationLine {field : RelationField} (h : field.Unspaced) :
    IsFieldLine (relationLine field) := by
  obtain ⟨name, hname, hfield⟩ := h.fieldName
  have htype := fieldKind_listType h.typeName
  have hline : relationLine field = fieldLine name field.listType
      (Tag.columnKey ++ ":\"" ++ field.tag.format ++ "\"`") := by
    rw [relationLine, fieldLine, hfield, ← String.toList_inj]
    simp [Block.indented]
  have htag : OneLine (Tag.columnKey ++ ":\"" ++ field.tag.format ++ "\"`") := by
    simp only [oneLine_append]
    exact ⟨⟨⟨by decide, by decide⟩,
      oneLine_format oneLine_empty oneLine_empty (oneLine_of_unspaced h.reference)⟩, by decide⟩
  rw [hline]
  exact ⟨isInner_fieldLine hname htype htag, not_isImportLine_fieldLine hname htype _⟩

/-! ## Constants -/

theorem isInner_constantLine {typeName : String} {constant : Constant}
    (hname : Unspaced typeName.toList) (hfield : OneLine constant.field)
    (hvalue : OneLine constant.value) : IsInner (constant.line typeName).toList where
  indented := head?_indented _
  clean := clean_indented <| by
    simp only [oneLine_append]
    exact ⟨⟨⟨⟨⟨oneLine_of_unspaced hname, by decide⟩, hfield⟩, by decide⟩, hvalue⟩, by decide⟩
  inked := ⟨'=', by simp [Constant.line, Block.indented], by decide⟩

theorem isInner_columnConstant {typeName : String} {table : Table} {column : Column}
    (hname : Unspaced typeName.toList) (htable : table.Unspaced) (hcolumn : column.Unspaced) :
    IsInner ((columnConstant table column).line typeName).toList := by
  have hfield := oneLine_of_unspaced (Naming.unspaced_fieldName hcolumn.name)
  refine isInner_constantLine hname hfield ?_
  simp only [columnConstant, oneLine_append]
  exact ⟨⟨hfield, by decide⟩,
    oneLine_of_unspaced (unspaced_qualifyColumn htable.schema htable.name hcolumn.name)⟩

theorem isInner_relationConstant {typeName : String} {field : RelationField}
    (hname : Unspaced typeName.toList) (h : field.Unspaced) :
    IsInner ((relationConstant field).line typeName).toList := by
  obtain ⟨name, hunspaced, hfieldName⟩ := h.fieldName
  have hfield : OneLine field.fieldName := by
    rw [hfieldName]
    exact oneLine_of_unspaced (Naming.unspaced_fieldName hunspaced)
  refine isInner_constantLine hname hfield ?_
  simp only [relationConstant, oneLine_append]
  exact ⟨⟨hfield, by decide⟩, oneLine_of_unspaced h.reference⟩

end Lines

/-! ## Blocks -/

namespace Catalog

variable {cat : Catalog} {table : Table} {block : Block}

theorem fieldTypes_ok {columns : List Column} {fields : List (Column × FieldType × List Issue)}
    (h : cat.fieldTypes table columns = .ok fields) : fields.map (·.1) = columns ∧
      ∀ field ∈ fields, cat.fieldType table field.1 = .ok field.2 := by
  induction columns generalizing fields with
  | nil =>
    cases h
    simp
  | cons column columns ih =>
    unfold fieldTypes at h
    split at h
    · simp at h
    · next type issues htype =>
      split at h
      · simp at h
      · next rest hrest =>
        cases h
        obtain ⟨hcolumns, htypes⟩ := ih hrest
        refine ⟨by simp [hcolumns], fun field hfield => ?_⟩
        rcases List.mem_cons.mp hfield with rfl | hmem
        · exact htype
        · exact htypes field hmem

/-- The lines of all fields but the reserved one. -/
def fieldLines (cat : Catalog) (table : Table) (fields : List (Column × FieldType × List Issue)) :
    List String :=
  (fields.flatMap fun field => columnLines field.1 field.2.1) ++
    (cat.relations table).map relationLine

/-- The constants of a table. -/
def constants (cat : Catalog) (table : Table) : List Constant :=
  table.columns.map (columnConstant table) ++ (cat.relations table).map relationConstant

section
variable {fields : List (Column × FieldType × List Issue)}

theorem isFieldLine_of_mem_fieldLines (h : cat.Unspaced) (htable : table.Unspaced)
    (hok : cat.fieldTypes table table.columns = .ok fields) {line : String}
    (hline : line ∈ cat.fieldLines table fields) : IsFieldLine line := by
  obtain ⟨hcolumns, htypes⟩ := fieldTypes_ok hok
  rcases List.mem_append.mp hline with hcolumn | hrelation
  · obtain ⟨field, hfield, hmem⟩ := List.mem_flatMap.mp hcolumn
    have hunspaced := htable.columns _ (hcolumns ▸ List.mem_map_of_mem hfield)
    exact isFieldLine_of_mem_columnLines hunspaced (fieldKind_fieldType h (htypes field hfield)) hmem
  · obtain ⟨field, hfield, rfl⟩ := List.mem_map.mp hrelation
    exact isFieldLine_relationLine (unspaced_of_mem_relations h hfield)

theorem isInner_of_mem_constants (h : cat.Unspaced) (htable : table.Unspaced) {constant : Constant}
    (hconstant : constant ∈ cat.constants table) :
    IsInner (constant.line (cat.typeName table)).toList := by
  have hname := unspaced_typeName h htable
  rcases List.mem_append.mp hconstant with hcolumn | hrelation
  · obtain ⟨column, hmem, rfl⟩ := List.mem_map.mp hcolumn
    exact isInner_columnConstant hname htable (htable.columns column hmem)
  · obtain ⟨field, hfield, rfl⟩ := List.mem_map.mp hrelation
    exact isInner_relationConstant hname (unspaced_of_mem_relations h hfield)

theorem length_constants_le (hok : cat.fieldTypes table table.columns = .ok fields) :
    (cat.constants table).length ≤ (cat.fieldLines table fields).length := by
  have hcolumns : table.columns.length = fields.length := by
    rw [← (fieldTypes_ok hok).1, List.length_map]
  have hlines : fields.length ≤
      (fields.flatMap fun field => columnLines field.1 field.2.1).length := by
    clear hok hcolumns
    induction fields with
    | nil => simp
    | cons field rest ih =>
      simp only [List.flatMap_cons, List.length_append, List.length_cons, columnLines] at ih ⊢
      omega
  simp only [constants, fieldLines, List.length_append, List.length_map]
  omega

/-- What the reserved field says, after its name and its type. -/
def metadata (table : Table) : String :=
  " `json:\"-\" " ++ Tag.tableKey ++ ":\"" ++ (TableTag.mk table.schema table.name).format ++ "\"`"

theorem oneLine_metadata (htable : table.Unspaced) : OneLine (metadata table) := by
  simp only [metadata, oneLine_append]
  exact ⟨⟨⟨⟨by decide, by decide⟩, by decide⟩, oneLine_tableTag htable⟩, by decide⟩

theorem toList_reservedLine (table : Table) : (reservedLine table).toList =
    '\t' :: (Tag.reservedField.toList ++ (" any".toList ++ (metadata table).toList)) := by
  simp [reservedLine, indented, FieldType.anyName, metadata]

/-- The layout of the block of a table. -/
def layout (h : cat.Unspaced) (htable : table.Unspaced)
    (hok : cat.fieldTypes table table.columns = .ok fields) :
    Layout (cat.typeName table).toList where
  fields := (cat.fieldLines table fields).map String.toList
  metadata := (metadata table).toList
  constants := (cat.constants table).map fun constant =>
    (constant.line (cat.typeName table)).toList
  unspaced_name := unspaced_typeName h htable
  inner_field := by
    intro line hline
    obtain ⟨text, htext, rfl⟩ := List.mem_map.mp hline
    exact (isFieldLine_of_mem_fieldLines h htable hok htext).inner
  inner_constant := by
    intro line hline
    obtain ⟨constant, hconstant, rfl⟩ := List.mem_map.mp hline
    exact isInner_of_mem_constants h htable hconstant
  clean_metadata := oneLine_metadata htable
  not_import := by
    intro line hline
    obtain ⟨text, htext, rfl⟩ := List.mem_map.mp hline
    rw [String.ofList_toList]
    exact (isFieldLine_of_mem_fieldLines h htable hok htext).not_import
  length_constants := by
    simpa using length_constants_le hok

theorem toList_text_blockOf (h : cat.Unspaced) (htable : table.Unspaced)
    (hok : cat.fieldTypes table table.columns = .ok fields) :
    (cat.blockOf table fields).text.toList = terminated (layout h htable hok).lines := by
  have hdeclaration : (cat.blockOf table fields).declaration =
      unlines (("type " ++ cat.typeName table ++ " struct \x7b") ::
        (cat.fieldLines table fields ++ [reservedLine table, "\x7d"])) := by
    simp [blockOf, fieldLines]
  have hconstants : (cat.blockOf table fields).constants =
      unlines (["// " ++ cat.typeName table, "const ("] ++
        (cat.constants table).map (Constant.line (cat.typeName table)) ++ [")"]) := by
    simp [blockOf, constants]
  rw [Block.text, hdeclaration, hconstants, String.toList_append, toList_unlines, toList_unlines,
    ← terminated_append]
  refine congrArg terminated ?_
  simp only [layout, Layout.lines, Layout.struct, Layout.tail, Layout.reserved, header_def,
    toList_reservedLine, List.map_cons, List.map_append, List.map_map, List.map_nil,
    String.toList_append, List.cons_append, List.nil_append, List.append_assoc, Function.comp_def]
  rfl

end

theorem dependency_fieldType {column : Column} {type : FieldType} {issues : List Issue}
    {package : String} (hok : cat.fieldType table column = .ok (type, issues))
    (hpackage : type.dependency = some package) :
    package = FieldType.sqlPackage ∨ package = FieldType.timePackage := by
  rcases fieldType_cases hok with ⟨target, -, rfl⟩ | rfl
  · simp [FieldType.pointer] at hpackage
  · cases hdata : column.dataType <;> cases hnull : column.nullable <;>
      simp_all [FieldType.scalar]

end Catalog

/-- The lines of a block, and what is known of the packages that it needs. -/
structure Block.Formed (block : Block) where
  layout : Layout block.typeName.toList
  text : block.text.toList = terminated layout.lines
  packages : ∀ package ∈ block.dependencies,
    package = FieldType.sqlPackage ∨ package = FieldType.timePackage

/-- Every rendered block is formed like this. -/
theorem Catalog.exists_formed {cat : Catalog} {table : Table} {block : Block} (h : cat.Unspaced)
    (htable : table.Unspaced) (hok : cat.render table = .ok block) : Nonempty block.Formed := by
  unfold render at hok
  split at hok
  · simp at hok
  · next fields hfields =>
    cases hok
    refine ⟨layout h htable hfields, toList_text_blockOf h htable hfields, ?_⟩
    intro package hpackage
    obtain ⟨field, hfield, hdependency⟩ := List.mem_filterMap.mp (Packages.mem_ofList.mp hpackage)
    exact dependency_fieldType ((fieldTypes_ok hfields).2 field hfield) hdependency

theorem Block.Formed.plain {block : Block} (formed : block.Formed) :
    Imports.Plain block.dependencies := by
  intro package hpackage
  rcases formed.packages package hpackage with rfl | rfl <;> decide

end RowTypes
