import RowTypes.Run.Basic
import RowTypes.Proofs.Run.KeptBlocks
import RowTypes.Proofs.SourceFile.Fresh

/-!
Groups that begin a file. The file gets the one form that the tables determine: a package line, then
the imports that the fields need, and the blocks.

What is proved:
  1. `mergeTables_of_step`: what the merges of a group give if each of them is known.
  2. `mem_dependencies_iff`: the packages of a block, by the types of its fields.
  3. `mergeGroup_blank`: the file that a group begins.
-/

namespace RowTypes.Catalog

open Text SourceFile

variable {cat : Catalog} {tables : List Table} {blocks : List Block} {owners : List (String × String)}

/-- The tables are rendered, and these are their blocks. -/
def Renders (cat : Catalog) (tables : List Table) (blocks : List Block) : Prop :=
  List.Forall₂ (fun table block => cat.render table = .ok block) tables blocks

theorem typeName_of_render {table : Table} {block : Block} (h : cat.render table = .ok block) :
    block.typeName = cat.typeName table := by
  unfold render at h
  split at h
  · simp at h
  · cases h
    rfl

theorem Renders.map_typeName (h : cat.Renders tables blocks) :
    blocks.map Block.typeName = tables.map cat.typeName := by
  induction h with
  | nil => rfl
  | cons hrender _ ih => rw [List.map_cons, List.map_cons, typeName_of_render hrender, ih]

theorem Renders.allFormed (h : cat.Renders tables blocks) (hcat : cat.Unspaced)
    (htables : ∀ table ∈ tables, table.Unspaced) : AllFormed blocks := by
  induction h with
  | nil => exact allFormed_nil
  | cons hrender _ ih =>
    obtain ⟨htable, hrest⟩ := List.forall_mem_cons.mp htables
    exact allFormed_cons.mpr ⟨exists_formed hcat htable hrender, ih hrest⟩

/-! ## The merges of a group -/

theorem mergeTable_eq {table : Table} {block : Block} {text result : String} {placed : MergeOutcome}
    (hrender : cat.render table = .ok block) (howner : owners.lookup block.typeName = none)
    (hmerge : SourceFile.merge text (cat.options table).packageName block = .ok ⟨result, placed⟩) :
    cat.mergeTable owners text table =
      .ok ⟨table, block, result, if result = text then .unchanged else placed.tableOutcome⟩ := by
  simp only [mergeTable, hrender, howner, hmerge]

theorem mergeTables_cons {table : Table} {text : String} {first : TableMerge}
    {merges : List TableMerge} (hfirst : cat.mergeTable owners text table = .ok first)
    (hrest : cat.mergeTables ((first.block.typeName, table.qualifiedName) :: owners) first.text tables =
      .ok merges) :
    cat.mergeTables owners text (table :: tables) = .ok (first :: merges) := by
  simp only [mergeTables, hfirst, hrest]

theorem mergeGroup_single {table : Table} {block : Block} {original text : String}
    {placed : MergeOutcome} (hrender : cat.render table = .ok block)
    (hmerge : SourceFile.merge original (cat.options table).packageName block = .ok ⟨text, placed⟩)
    (hchanges : text ≠ original) :
    cat.mergeGroup original [table] =
      .ok ⟨original, [⟨table, block, text, placed.tableOutcome⟩]⟩ := by
  have hfirst : cat.mergeTable [] original table = .ok ⟨table, block, text, placed.tableOutcome⟩ := by
    rw [mergeTable_eq hrender rfl hmerge, if_neg hchanges]
  rw [mergeGroup, mergeTables_cons hfirst rfl]
  rfl

/-- What the merges of a group come to: `textOf` gives the text behind the first blocks. -/
structure MergedBy (textOf : List Block → String) (placed : MergeOutcome) (tables : List Table)
    (blocks : List Block) (merges : List TableMerge) : Prop where
  ofTables : merges.map (·.table) = tables
  ofBlocks : merges.map (·.block) = blocks
  text : (GroupMerge.mk (textOf []) merges).text = textOf blocks
  outcome : ∀ merge ∈ merges, ∃ done rest, blocks = done ++ merge.block :: rest ∧
    merge.outcome =
      if textOf (done ++ [merge.block]) = textOf done then .unchanged else placed.tableOutcome

/-- A merge put its block where the others were put, or changed nothing. -/
theorem MergedBy.outcome_cases {textOf : List Block → String} {placed : MergeOutcome}
    {merges : List TableMerge} (h : MergedBy textOf placed tables blocks merges) {merge : TableMerge}
    (hmerge : merge ∈ merges) :
    merge.outcome = placed.tableOutcome ∨ merge.outcome = .unchanged := by
  obtain ⟨done, rest, -, houtcome⟩ := h.outcome merge hmerge
  rw [houtcome]
  split
  · exact .inr rfl
  · exact .inl rfl

theorem lookup_eq_none {block : Block} {owner : String}
    (hnew : block.typeName ∉ blocks.map Block.typeName)
    (howners : ∀ other ∈ blocks, owners.lookup other.typeName = none) :
    ∀ other ∈ blocks, ((block.typeName, owner) :: owners).lookup other.typeName = none := by
  intro other hother
  have hne : other.typeName ≠ block.typeName := fun heq => hnew (heq ▸ List.mem_map_of_mem hother)
  rw [List.lookup_cons, beq_false_of_ne hne]
  exact howners other hother

/-- If it is known what each merge makes of the text behind the blocks before it, it is known what the
group makes of its text. -/
theorem mergeTables_of_step {textOf : List Block → String} {placed : MergeOutcome}
    (hrenders : cat.Renders tables blocks) (hdistinct : (blocks.map Block.typeName).Nodup)
    (howners : ∀ block ∈ blocks, owners.lookup block.typeName = none)
    (hstep : ∀ done block rest, blocks = done ++ block :: rest → ∀ packageName,
      SourceFile.merge (textOf done) packageName block = .ok ⟨textOf (done ++ [block]), placed⟩) :
    ∃ merges, cat.mergeTables owners (textOf []) tables = .ok merges ∧
      MergedBy textOf placed tables blocks merges := by
  induction hrenders generalizing owners textOf with
  | nil => exact ⟨[], rfl, rfl, rfl, rfl, by simp⟩
  | @cons table block tables blocks hrender hrenders ih =>
    obtain ⟨hnew, hdistinct⟩ := List.nodup_cons.mp hdistinct
    obtain ⟨howner, howners⟩ := List.forall_mem_cons.mp howners
    have hfirst := mergeTable_eq hrender howner (hstep [] block blocks rfl _)
    have hstepRest : ∀ done other rest, blocks = done ++ other :: rest → ∀ packageName,
        SourceFile.merge (textOf (block :: done)) packageName other =
          .ok ⟨textOf (block :: (done ++ [other])), placed⟩ := by
      intro done other rest hsplit
      exact hstep (block :: done) other rest (by rw [hsplit]; rfl)
    obtain ⟨merges, hmerges, hrest⟩ := ih hdistinct (lookup_eq_none hnew howners) hstepRest
    refine ⟨_, mergeTables_cons hfirst hmerges, ?_, ?_, ?_, ?_⟩
    · rw [List.map_cons, hrest.ofTables]
    · rw [List.map_cons, hrest.ofBlocks]
    · rw [← hrest.text]
      exact textAfter_cons _ merges
    · intro merge hmerge
      rcases List.mem_cons.mp hmerge with rfl | hmem
      · exact ⟨[], blocks, rfl, rfl⟩
      · obtain ⟨done, after, rfl, houtcome⟩ := hrest.outcome merge hmem
        exact ⟨block :: done, after, rfl, houtcome⟩

/-! ## The packages of a group -/

/-- Some column of the tables becomes a field of this type. -/
def FieldTyped (cat : Catalog) (tables : List Table) (typeName : String) : Prop :=
  ∃ table ∈ tables, ∃ column ∈ table.columns, ∃ type issues,
    cat.fieldType table column = .ok (type, issues) ∧ type.name = typeName

/-- What a file has to import for fields of some types: the package of the types that may be null, and
that of times. -/
def Needs (typed : String → Prop) (package : String) : Prop :=
  (package = "database/sql" ∧ ∃ typeName, typed typeName ∧ "sql.".toList <+: typeName.toList) ∨
    (package = "time" ∧ typed "time.Time")

variable {package : String}

theorem needs_iff {typed : String → Prop} :
    Needs typed package ↔ ∃ typeName, typed typeName ∧ Needs (· = typeName) package := by
  constructor
  · rintro (⟨rfl, typeName, htyped, hprefix⟩ | ⟨rfl, htyped⟩)
    · exact ⟨typeName, htyped, .inl ⟨rfl, typeName, rfl, hprefix⟩⟩
    · exact ⟨"time.Time", htyped, .inr ⟨rfl, rfl⟩⟩
  · rintro ⟨typeName, htyped, ⟨rfl, _, rfl, hprefix⟩ | ⟨rfl, rfl⟩⟩
    · exact .inl ⟨rfl, _, htyped, hprefix⟩
    · exact .inr ⟨rfl, htyped⟩

theorem dependency_scalar (type : DataType) (nullable : Bool) :
    (FieldType.scalar type nullable).dependency = some package ↔
      Needs (· = (FieldType.scalar type nullable).name) package := by
  cases type <;> cases nullable <;>
    simp [FieldType.scalar, Needs, FieldType.sqlPackage, FieldType.timePackage, FieldType.anyName,
      eq_comm]

theorem dependency_pointer (typeName : String) :
    (FieldType.pointer typeName).dependency = some package ↔
      Needs (· = (FieldType.pointer typeName).name) package := by
  have htime : ¬"time.Time" = "*" ++ typeName := by
    rw [← String.toList_inj, String.toList_append]
    simp
  simp [FieldType.pointer, Needs, htime]

theorem dependency_iff {table : Table} {column : Column} {type : FieldType} {issues : List Issue}
    (hok : cat.fieldType table column = .ok (type, issues)) :
    type.dependency = some package ↔ Needs (· = type.name) package := by
  rcases fieldType_cases hok with ⟨target, -, rfl⟩ | rfl
  · exact dependency_pointer _
  · exact dependency_scalar _ _

theorem mem_dependencies_iff {table : Table} {block : Block} (h : cat.render table = .ok block) :
    package ∈ block.dependencies ↔ Needs (cat.FieldTyped [table]) package := by
  unfold render at h
  split at h
  · simp at h
  next fields hfields =>
  cases h
  obtain ⟨hcolumns, htypes⟩ := fieldTypes_ok hfields
  show package ∈ Packages.ofList (fields.filterMap fun field => field.2.1.dependency) ↔ _
  rw [Packages.mem_ofList, List.mem_filterMap, needs_iff]
  constructor
  · rintro ⟨field, hfield, hdependency⟩
    have hok := htypes field hfield
    have hcolumn : field.1 ∈ table.columns := hcolumns ▸ List.mem_map_of_mem hfield
    exact ⟨field.2.1.name, ⟨table, List.mem_singleton_self _, field.1, hcolumn, _, _, hok, rfl⟩,
      (dependency_iff hok).mp hdependency⟩
  · rintro ⟨_, ⟨other, hother, column, hcolumn, type, issues, hok, rfl⟩, hneeds⟩
    rw [List.mem_singleton.mp hother] at hcolumn hok
    rw [← hcolumns] at hcolumn
    obtain ⟨field, hfield, rfl⟩ := List.mem_map.mp hcolumn
    have hsame : field.2 = (type, issues) := Except.ok.inj ((htypes field hfield).symm.trans hok)
    refine ⟨field, hfield, ?_⟩
    rw [hsame]
    exact (dependency_iff hok).mpr hneeds

/-- A group needs the packages that the types of its fields tell. -/
theorem Renders.mem_dependencies_iff (h : cat.Renders tables blocks) :
    package ∈ blocks.flatMap Block.dependencies ↔ Needs (cat.FieldTyped tables) package := by
  rw [needs_iff]
  induction h with
  | nil => simp [FieldTyped]
  | @cons table block tables blocks hrender hrenders ih =>
    rw [List.flatMap_cons, List.mem_append, ih, Catalog.mem_dependencies_iff hrender, needs_iff,
      ← exists_or]
    apply exists_congr
    intro typeName
    rw [← or_and_right]
    apply and_congr_left
    intro _
    simp [FieldTyped]

/-! ## Groups that begin a file -/

section
variable {packageName : String} {done after : List Block} {new : Block}

/-- A file that holds nothing but blocks and imports what they need. -/
def groupText (packageName : String) (blocks : List Block) : String :=
  freshText packageName (Packages.ofList (blocks.flatMap Block.dependencies)) blocks

theorem typeName_ne_of_nodup (h : ((done ++ new :: after).map Block.typeName).Nodup) :
    ∀ block ∈ done, block.typeName ≠ new.typeName := by
  intro block hblock
  rw [List.map_append] at h
  exact (List.nodup_append.mp h).2.2 _ (List.mem_map_of_mem hblock) _
    (List.mem_map_of_mem List.mem_cons_self)

theorem fresh_of_allFormed (h : AllFormed blocks) (hne : blocks ≠ [])
    (hpackage : Text.Unspaced packageName.toList) :
    Fresh packageName (blocks.flatMap Block.dependencies) blocks :=
  ⟨h, hne, plain_flatMap h, fun hfeed => hpackage '
' hfeed (by decide)⟩

theorem merge_groupText (namespaceName : String) (h : AllFormed (done ++ new :: after))
    (hdistinct : ((done ++ new :: after).map Block.typeName).Nodup) (hne : done ≠ [])
    (hpackage : Text.Unspaced packageName.toList) :
    SourceFile.merge (groupText packageName done) namespaceName new =
        .ok ⟨groupText packageName (done ++ [new]), .appended⟩ ∧
      groupText packageName (done ++ [new]) ≠ groupText packageName done := by
  obtain ⟨hdone, hrest⟩ := allFormed_append.mp h
  obtain ⟨⟨formed⟩, -⟩ := allFormed_cons.mp hrest
  have hfresh := fresh_of_allFormed hdone hne hpackage
  have hother := typeName_ne_of_nodup hdistinct
  have hmerge := merge_freshText_append namespaceName hfresh formed hother
  have hdiffers := freshText_append_ne hfresh formed hother
  constructor
  · simpa [groupText] using hmerge
  · simpa [groupText] using hdiffers

theorem mergeTable_blank {original : String} {table : Table} {block : Block} (formed : block.Formed)
    (hrender : cat.render table = .ok block) (howner : owners.lookup block.typeName = none)
    (hblank : isAllWhite original) :
    cat.mergeTable owners original table =
      .ok ⟨table, block, groupText (cat.options table).packageName [block], .created⟩ := by
  have hmerge : SourceFile.merge original (cat.options table).packageName block =
      .ok ⟨groupText (cat.options table).packageName [block], .created⟩ := by
    rw [merge_blank hblank formed, groupText, List.flatMap_singleton]
  have hchanges : groupText (cat.options table).packageName [block] ≠ original := fun heq =>
    not_isAllWhite_freshText _ _ _ (heq ▸ hblank)
  rw [mergeTable_eq hrender howner hmerge, if_neg hchanges]
  rfl

end

/-- What a group makes of a text without content. -/
theorem mergeTables_blank {original : String} {first : Table} {rest : List Table}
    (hcat : cat.Unspaced) (htables : ∀ table ∈ first :: rest, table.Unspaced)
    (hpackage : Text.Unspaced (cat.options first).packageName.toList)
    (hrenders : cat.Renders (first :: rest) blocks)
    (hdistinct : ((first :: rest).map cat.typeName).Nodup) (hblank : isAllWhite original) :
    ∃ merges, cat.mergeTables [] original (first :: rest) = .ok merges ∧
      (GroupMerge.mk original merges).text = groupText (cat.options first).packageName blocks ∧
      merges.map (·.table) = first :: rest ∧ merges.map (·.block) = blocks ∧
      merges.map (·.outcome) = .created :: rest.map fun _ => .appended := by
  have hformed := hrenders.allFormed hcat htables
  rw [← hrenders.map_typeName] at hdistinct
  cases hrenders with
  | @cons _ block _ blocks hrender hrenders =>
  obtain ⟨⟨formed⟩, -⟩ := allFormed_cons.mp hformed
  obtain ⟨hnew, hdistinctRest⟩ := List.nodup_cons.mp hdistinct
  have hfirst : cat.mergeTable [] original first =
      .ok ⟨first, block, groupText (cat.options first).packageName [block], .created⟩ :=
    mergeTable_blank formed hrender rfl hblank
  generalize (cat.options first).packageName = packageName at *
  have happend : ∀ done other after, blocks = done ++ other :: after → ∀ namespaceName,
      SourceFile.merge (groupText packageName (block :: done)) namespaceName other =
          .ok ⟨groupText packageName (block :: (done ++ [other])), .appended⟩ ∧
        groupText packageName (block :: (done ++ [other])) ≠ groupText packageName (block :: done) := by
    rintro done other after rfl namespaceName
    rw [← List.cons_append] at hformed hdistinct
    exact merge_groupText namespaceName hformed hdistinct (by simp) hpackage
  have howners : ∀ other ∈ blocks,
      [(block.typeName, first.qualifiedName)].lookup other.typeName = none :=
    lookup_eq_none hnew fun _ _ => rfl
  obtain ⟨merges, hmerges, hmerged⟩ :=
    mergeTables_of_step hrenders hdistinctRest howners fun done other after hsplit namespaceName =>
      (happend done other after hsplit namespaceName).1
  refine ⟨_, mergeTables_cons hfirst hmerges, ?_, ?_, ?_, ?_⟩
  · rw [← hmerged.text]
    exact textAfter_cons _ merges
  · rw [List.map_cons, hmerged.ofTables]
  · rw [List.map_cons, hmerged.ofBlocks]
  · rw [List.map_cons, ← hmerged.ofTables, List.map_map]
    refine congrArg _ (List.map_congr_left fun merge hmerge => ?_)
    obtain ⟨done, after, hsplit, houtcome⟩ := hmerged.outcome merge hmerge
    rw [houtcome]
    exact if_neg (happend done merge.block after hsplit packageName).2

/-- The file that a group begins: the package line of its first table, the imports that the fields
need, in order, and the blocks in the order of the tables. -/
theorem mergeGroup_blank {tree : Storage.Tree} {path : String} {first : Table} {rest : List Table}
    (hcat : cat.Unspaced) (htables : ∀ table ∈ first :: rest, table.Unspaced)
    (hpackage : Text.Unspaced (cat.options first).packageName.toList)
    (hrenders : cat.Renders (first :: rest) blocks)
    (hdistinct : ((first :: rest).map cat.typeName).Nodup)
    (hfile : tree.readText path = .error .notFound ∨
      ∃ text, tree.readText path = .ok text ∧ isAllWhite text) :
    ∃ original group packages, Storage.readExisting tree path = .ok original ∧
      cat.mergeGroup original (first :: rest) = .ok group ∧
      group.text = freshText (cat.options first).packageName packages blocks ∧
      Packages.Sorted packages ∧
      (∀ package, package ∈ packages ↔ Needs (cat.FieldTyped (first :: rest)) package) ∧
      group.merges.map (·.table) = first :: rest ∧ group.merges.map (·.block) = blocks ∧
      group.merges.map (·.outcome) = .created :: rest.map fun _ => .appended := by
  obtain ⟨original, horiginal, hblank⟩ : ∃ original,
      Storage.readExisting tree path = .ok original ∧ isAllWhite original := by
    rcases hfile with hmissing | ⟨text, htext, hwhite⟩
    · exact ⟨"", by rw [Storage.readExisting, hmissing], rfl⟩
    · exact ⟨text, by rw [Storage.readExisting, htext], hwhite⟩
  obtain ⟨merges, hmerges, htext, htable, hblock, houtcome⟩ :=
    mergeTables_blank hcat htables hpackage hrenders hdistinct hblank
  refine ⟨original, ⟨original, merges⟩, Packages.ofList (blocks.flatMap Block.dependencies),
    horiginal, ?_, htext, Packages.sorted_ofList _, ?_, htable, hblock, houtcome⟩
  · rw [mergeGroup, hmerges]
    rfl
  · intro package
    rw [Packages.mem_ofList, hrenders.mem_dependencies_iff]

/-- Two tables that need different packages. -/
def visits : Table :=
  { name := "visits"
    columns := [{ name := "id", dataType := .integer }, { name := "at", dataType := .date }] }

def notes : Table :=
  { name := "notes", columns := [{ name := "text", dataType := .string, nullable := true }] }

def visitsCatalog (tables : List Table) : Catalog :=
  { config := { packageName := "p" }, tables }

/-- The block of the table, with the types of the fields as they are. -/
def visitsBlock (tables : List Table) (table : Table) : Block :=
  (visitsCatalog tables).blockOf table
    (table.columns.map fun column => (column, .scalar column.dataType column.nullable, []))

theorem mergeGroup_blank_visits :
    Storage.Tree.fresh.readText "m.go" = .error .notFound ∧
    ∃ original group packages, Storage.readExisting Storage.Tree.fresh "m.go" = .ok original ∧
      (visitsCatalog [visits, notes]).mergeGroup original [visits, notes] = .ok group ∧
      group.text = freshText "p" packages
        [visitsBlock [visits, notes] visits, visitsBlock [visits, notes] notes] ∧
      Packages.Sorted packages ∧
      (∀ package, package ∈ packages ↔
        Needs ((visitsCatalog [visits, notes]).FieldTyped [visits, notes]) package) ∧
      group.merges.map (·.table) = [visits, notes] ∧
      group.merges.map (·.block) =
        [visitsBlock [visits, notes] visits, visitsBlock [visits, notes] notes] ∧
      group.merges.map (·.outcome) = [.created, .appended] :=
  ⟨rfl, mergeGroup_blank (show (visitsCatalog [visits, notes]).Unspaced by decide)
    (show ∀ table ∈ [visits, notes], table.Unspaced by decide)
    (show Text.Unspaced "p".toList by decide) (.cons rfl (.cons rfl .nil)) (by decide) (.inl rfl)⟩

end RowTypes.Catalog
