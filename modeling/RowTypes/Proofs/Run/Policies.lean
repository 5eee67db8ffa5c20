import RowTypes.Proofs.Block.Names
import RowTypes.Proofs.Run.Fresh

/-!
The strict policy beside the lenient one. Both resolve the same references; where a target is not
loaded, the lenient policy notes it and goes on, and the strict one ends there. So what is generated
strictly is what is generated leniently without such a note.

What is proved:
  1. `fieldType_policies`, `render_policies`: one column, and one table, under both policies.
  2. `mergeTables_strict_iff`: when the tables of a file are merged under the strict policy.
  3. `strict_refines_lenient`: blocks, errors and merged files under both policies.
-/

namespace RowTypes

/-- The catalog with another policy and all other options as they are. -/
def Catalog.withPolicy (cat : Catalog) (policy : RelationshipPolicy) : Catalog :=
  { cat with config := { cat.config with policy } }

/-- What the strict policy reports of a column whose target is not loaded. -/
def Column.missingTarget (column : Column) (table : Table) : MissingTarget :=
  ⟨table.qualifiedName, column.name, column.target.schema ++ "." ++ column.target.table⟩

/-- What the lenient policy notes of a column whose target is not loaded. -/
def Column.missingIssue (column : Column) (table : Table) : Issue :=
  .missingTarget table column.name (column.target.schema ++ "." ++ column.target.table)

/-- The targets of all pointers of the block are loaded. -/
def Block.Resolved (block : Block) : Prop :=
  ∀ issue ∈ block.issues, issue.code ≠ .missingRelationshipTarget

instance (block : Block) : Decidable block.Resolved :=
  inferInstanceAs (Decidable (∀ issue ∈ block.issues, _))

namespace Catalog

variable {cat : Catalog} {table : Table} {owners : List (String × String)} {text : String}

/-! ## Columns -/

/-- The lenient policy notes that the target of the column is not loaded. -/
def NotesMissing (cat : Catalog) (table : Table) (column : Column) : Prop :=
  ∃ type, (cat.withPolicy .lenient).fieldType table column = .ok (type, [column.missingIssue table])

/-- A column has one type under both policies, or its target is not loaded. -/
theorem fieldType_policies (cat : Catalog) (table : Table) (column : Column) :
    (∃ type, ∀ policy, (cat.withPolicy policy).fieldType table column = .ok (type, [])) ∨
      (cat.NotesMissing table column ∧
        (cat.withPolicy .strict).fieldType table column = .error (column.missingTarget table)) := by
  by_cases hwants : wantsPointer (cat.options table) column
  · cases htarget : cat.find? column.target.schema column.target.table with
    | some target =>
      left
      refine ⟨FieldType.pointer (cat.typeName target), fun policy => ?_⟩
      have hwants : wantsPointer ((cat.withPolicy policy).options table) column = true := hwants
      have htarget : (cat.withPolicy policy).find? column.target.schema column.target.table =
          some target := htarget
      simp only [fieldType, hwants, htarget, if_true]
      rfl
    | none =>
      right
      have hnone (policy : RelationshipPolicy) :
          (cat.withPolicy policy).find? column.target.schema column.target.table = none := htarget
      have hpointer (policy : RelationshipPolicy) :
          wantsPointer ((cat.withPolicy policy).options table) column = true := hwants
      refine ⟨⟨FieldType.scalar column.dataType column.nullable, ?_⟩, ?_⟩
      · simp only [fieldType, hpointer, hnone, if_true]
        rfl
      · simp only [fieldType, hpointer, hnone, if_true]
        rfl
  · left
    refine ⟨FieldType.scalar column.dataType column.nullable, fun policy => ?_⟩
    have hscalar : ¬wantsPointer ((cat.withPolicy policy).options table) column = true := hwants
    simp only [fieldType, hscalar]
    rfl

/-- Of all columns, the first one of which the lenient policy notes that its target is not loaded. -/
def FirstMissing (cat : Catalog) (table : Table) (columns : List Column) (column : Column) : Prop :=
  ∃ before after, columns = before ++ column :: after ∧ cat.NotesMissing table column ∧
    ∀ other ∈ before, ¬cat.NotesMissing table other

theorem not_notesMissing {column : Column} {type : FieldType}
    (h : (cat.withPolicy .lenient).fieldType table column = .ok (type, [])) :
    ¬cat.NotesMissing table column := by
  rintro ⟨other, hother⟩
  rw [h] at hother
  simp at hother

theorem fieldTypes_policies (cat : Catalog) (table : Table) (columns : List Column) :
    ∃ fields, (cat.withPolicy .lenient).fieldTypes table columns = .ok fields ∧
      ((fields.flatMap (fun field => field.2.2) = [] ∧
          (cat.withPolicy .strict).fieldTypes table columns = .ok fields) ∨
        ∃ column rest, cat.FirstMissing table columns column ∧
          fields.flatMap (fun field => field.2.2) = column.missingIssue table :: rest ∧
          (cat.withPolicy .strict).fieldTypes table columns = .error (column.missingTarget table)) := by
  induction columns with
  | nil => exact ⟨[], rfl, .inl ⟨rfl, rfl⟩⟩
  | cons column columns ih =>
    obtain ⟨fields, hfields, hstrict⟩ := ih
    rcases cat.fieldType_policies table column with ⟨type, htype⟩ | ⟨⟨type, htype⟩, herror⟩
    · refine ⟨(column, type, []) :: fields, by simp only [fieldTypes, htype, hfields], ?_⟩
      rcases hstrict with ⟨hnone, hsame⟩ | ⟨first, rest, ⟨before, after, rfl, hnotes, hbefore⟩, hissues,
        herror⟩
      · left
        exact ⟨by simp [hnone], by simp only [fieldTypes, htype, hsame]⟩
      · right
        refine ⟨first, rest, ⟨column :: before, after, rfl, hnotes, ?_⟩, by simp [hissues],
          by simp only [fieldTypes, htype, herror]⟩
        exact List.forall_mem_cons.mpr ⟨not_notesMissing (htype .lenient), hbefore⟩
    · refine ⟨(column, type, [column.missingIssue table]) :: fields,
        by simp only [fieldTypes, htype, hfields], .inr ?_⟩
      exact ⟨column, _, ⟨[], columns, rfl, ⟨type, htype⟩, by simp⟩, by simp; rfl,
        by simp only [fieldTypes, herror]⟩

/-! ## Blocks -/

theorem issues_blockOf (cat : Catalog) (table : Table)
    (fields : List (Column × FieldType × List Issue)) :
    (cat.blockOf table fields).issues = fields.flatMap (fun field => field.2.2) ++
      (Block.repeated [] (cat.fieldNames table)).map (Issue.duplicateField table) := rfl

/-- A block without a note about a missing target is that of the strict policy, which otherwise reports
the column of the first note. -/
theorem render_policies (cat : Catalog) (table : Table) :
    ∃ block, (cat.withPolicy .lenient).render table = .ok block ∧
      ((block.Resolved ∧ (cat.withPolicy .strict).render table = .ok block) ∨
        ∃ column, cat.FirstMissing table table.columns column ∧
          block.issues.head? = some (column.missingIssue table) ∧
          (cat.withPolicy .strict).render table = .error (column.missingTarget table)) := by
  obtain ⟨fields, hfields, hstrict⟩ := cat.fieldTypes_policies table table.columns
  refine ⟨cat.blockOf table fields, by rw [render, hfields]; rfl, ?_⟩
  rcases hstrict with ⟨hnone, hsame⟩ | ⟨column, rest, hfirst, hissues, herror⟩
  · left
    refine ⟨fun issue hissue => ?_, by rw [render, hsame]; rfl⟩
    rw [issues_blockOf, hnone, List.nil_append] at hissue
    obtain ⟨name, -, rfl⟩ := List.mem_map.mp hissue
    simp [Issue.duplicateField]
  · right
    refine ⟨column, hfirst, ?_, by rw [render, herror]⟩
    rw [issues_blockOf, hissues]
    rfl

theorem not_resolved {block : Block} {column : Column}
    (h : block.issues.head? = some (column.missingIssue table)) : ¬block.Resolved :=
  fun hresolved => hresolved _ (List.mem_of_mem_head? h) rfl

/-! ## Files -/

/-- All blocks of the tables are resolved under the lenient policy. -/
def AllResolved (cat : Catalog) (tables : List Table) : Prop :=
  ∀ table ∈ tables, ∀ block, (cat.withPolicy .lenient).render table = .ok block → block.Resolved

theorem allResolved_cons {tables : List Table} : cat.AllResolved (table :: tables) ↔
    (∀ block, (cat.withPolicy .lenient).render table = .ok block → block.Resolved) ∧
      cat.AllResolved tables :=
  List.forall_mem_cons

theorem mergeTable_strict_iff {merge : TableMerge} :
    (cat.withPolicy .strict).mergeTable owners text table = .ok merge ↔
      (cat.withPolicy .lenient).mergeTable owners text table = .ok merge ∧
        ∀ block, (cat.withPolicy .lenient).render table = .ok block → block.Resolved := by
  obtain ⟨block, hlenient, hstrict⟩ := cat.render_policies table
  rw [hlenient]
  rcases hstrict with ⟨hresolved, hsame⟩ | ⟨column, -, hissues, herror⟩
  · have hmerge : (cat.withPolicy .strict).mergeTable owners text table =
        (cat.withPolicy .lenient).mergeTable owners text table := by
      rw [mergeTable, mergeTable, hsame, hlenient]
      rfl
    rw [hmerge]
    refine ⟨fun h => ⟨h, fun other heq => ?_⟩, And.left⟩
    rwa [← Except.ok.inj heq]
  · have hfails : (cat.withPolicy .strict).mergeTable owners text table =
        .error (.missingTarget (column.missingTarget table)) := by
      rw [mergeTable, herror]
    rw [hfails]
    constructor
    · intro h
      cases h
    · intro h
      exact absurd (h.2 block rfl) (not_resolved hissues)

theorem mergeTables_cons_iff {tables : List Table} {merges : List TableMerge} :
    cat.mergeTables owners text (table :: tables) = .ok merges ↔
      ∃ first rest, merges = first :: rest ∧ cat.mergeTable owners text table = .ok first ∧
        cat.mergeTables ((first.block.typeName, table.qualifiedName) :: owners) first.text tables =
          .ok rest := by
  refine ⟨exists_of_mergeTables_cons, ?_⟩
  rintro ⟨first, rest, rfl, hfirst, hrest⟩
  exact mergeTables_cons hfirst hrest

theorem mergeTables_strict_iff {tables : List Table} {merges : List TableMerge} :
    (cat.withPolicy .strict).mergeTables owners text tables = .ok merges ↔
      (cat.withPolicy .lenient).mergeTables owners text tables = .ok merges ∧
        cat.AllResolved tables := by
  induction tables generalizing owners text merges with
  | nil => exact ⟨fun h => ⟨h, nofun⟩, And.left⟩
  | cons table tables ih =>
    rw [mergeTables_cons_iff, mergeTables_cons_iff, allResolved_cons]
    constructor
    · rintro ⟨first, rest, rfl, hfirst, hrest⟩
      obtain ⟨hfirst, htable⟩ := mergeTable_strict_iff.mp hfirst
      obtain ⟨hrest, htables⟩ := ih.mp hrest
      exact ⟨⟨first, rest, rfl, hfirst, hrest⟩, htable, htables⟩
    · rintro ⟨⟨first, rest, rfl, hfirst, hrest⟩, htable, htables⟩
      exact ⟨first, rest, rfl, mergeTable_strict_iff.mpr ⟨hfirst, htable⟩, ih.mpr ⟨hrest, htables⟩⟩

theorem mergeGroup_eq_ok_iff {original : String} {tables : List Table} {group : GroupMerge} :
    cat.mergeGroup original tables = .ok group ↔
      ∃ merges, cat.mergeTables [] original tables = .ok merges ∧ group = ⟨original, merges⟩ := by
  refine ⟨exists_of_mergeGroup, ?_⟩
  rintro ⟨merges, hmerges, rfl⟩
  rw [mergeGroup, hmerges]
  rfl

/-- The lenient policy renders every table. The strict one gives the same block if the lenient block has
no note about a missing target, and otherwise it reports the first column with such a note. Tables are
merged into a file under the strict policy iff they are under the lenient one and none of their lenient
blocks has such a note, and then the merges are the same: texts, outcomes, blocks and issues. -/
theorem strict_refines_lenient (cat : Catalog) :
    (∀ table, ∃ block, (cat.withPolicy .lenient).render table = .ok block ∧
      ((∃ other, (cat.withPolicy .strict).render table = .ok other) ↔ block.Resolved) ∧
      (∀ other, (cat.withPolicy .strict).render table = .ok other → other = block) ∧
      ∀ e, (cat.withPolicy .strict).render table = .error e →
        ∃ column, cat.FirstMissing table table.columns column ∧
          block.issues.head? = some (column.missingIssue table) ∧ e = column.missingTarget table) ∧
    ∀ original tables group,
      (cat.withPolicy .strict).mergeGroup original tables = .ok group ↔
        (cat.withPolicy .lenient).mergeGroup original tables = .ok group ∧ cat.AllResolved tables := by
  constructor
  · intro table
    obtain ⟨block, hlenient, hstrict⟩ := cat.render_policies table
    refine ⟨block, hlenient, ?_⟩
    rcases hstrict with ⟨hresolved, hsame⟩ | ⟨column, hfirst, hissues, herror⟩
    · rw [hsame]
      exact ⟨⟨fun _ => hresolved, fun _ => ⟨block, rfl⟩⟩, fun other heq => (Except.ok.inj heq).symm, nofun⟩
    · rw [herror]
      refine ⟨⟨nofun, fun hresolved => absurd hresolved (not_resolved hissues)⟩, nofun, ?_⟩
      exact fun e heq => ⟨column, hfirst, hissues, (Except.error.inj heq).symm⟩
  · intro original tables group
    rw [mergeGroup_eq_ok_iff, mergeGroup_eq_ok_iff]
    constructor
    · rintro ⟨merges, hmerges, rfl⟩
      obtain ⟨hmerges, hresolved⟩ := mergeTables_strict_iff.mp hmerges
      exact ⟨⟨merges, hmerges, rfl⟩, hresolved⟩
    · rintro ⟨⟨merges, hmerges, rfl⟩, hresolved⟩
      exact ⟨merges, mergeTables_strict_iff.mpr ⟨hmerges, hresolved⟩, rfl⟩

/-- A table whose second column refers to a table that is not loaded. -/
def unresolved : Table :=
  { name := "orders"
    columns := [{ name := "id", dataType := .integer },
      { name := "user", dataType := .integer, foreignKey := true, target := ⟨"users", "", "id"⟩ }] }

def unresolvedCatalog : Catalog :=
  { config := { tables := [("orders", { includeReferenced := ["*"] })] }, tables := [unresolved] }

theorem strict_refines_lenient_unresolved :
    (unresolvedCatalog.withPolicy .strict).render unresolved =
      .error ⟨"orders", "user", ".users"⟩ ∧
    ∃ column, unresolvedCatalog.FirstMissing unresolved unresolved.columns column ∧
      (⟨"orders", "user", ".users"⟩ : MissingTarget) = column.missingTarget unresolved := by
  have herror : (unresolvedCatalog.withPolicy .strict).render unresolved =
      .error ⟨"orders", "user", ".users"⟩ := by
    decide +kernel
  obtain ⟨_, -, -, -, hfirst⟩ := (strict_refines_lenient unresolvedCatalog).1 unresolved
  obtain ⟨column, hcolumn, -, heq⟩ := hfirst _ herror
  exact ⟨herror, column, hcolumn, heq⟩

end Catalog

end RowTypes
