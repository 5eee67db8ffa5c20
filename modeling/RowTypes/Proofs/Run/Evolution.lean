import RowTypes.Proofs.Run.Fresh

/-!
Groups whose tables change. A later version of the tables that began a file, merged into that file,
gives it the form that the later tables determine, except that no package is taken away. Block after
block the old one is replaced where it stands, so that the file is always one of new blocks before old
ones.

What is proved:
  1. `merge_evolvedText`: what the merge of one block makes of such a file.
  2. `mergeGroup_evolved`: what the merge of all tables makes of it.
-/

namespace RowTypes.Catalog

open Text SourceFile

/-- The same tables in the same order, by their names; the columns may differ. -/
def SameTables (tables' tables : List Table) : Prop :=
  tables'.map (fun table => (table.schema, table.name)) =
    tables.map fun table => (table.schema, table.name)

instance (tables' tables : List Table) : Decidable (SameTables tables' tables) :=
  inferInstanceAs (Decidable (_ = _))

variable {cat cat' : Catalog}

theorem typeName_congr {table table' : Table} (hconfig : cat'.config = cat.config)
    (hschema : table'.schema = table.schema) (hname : table'.name = table.name) :
    cat'.typeName table' = cat.typeName table := by
  have hfind : cat.config.find? table' = cat.config.find? table := by
    rw [Config.find?, Config.find?, hschema, hname]
  show Naming.typeName table'.name (cat'.config.resolve table').suffix =
    Naming.typeName table.name (cat.config.resolve table).suffix
  simp only [Config.resolve, hconfig, hfind, hname]

theorem map_typeName_congr (hconfig : cat'.config = cat.config) :
    ∀ {tables' tables : List Table}, SameTables tables' tables →
      tables'.map cat'.typeName = tables.map cat.typeName
  | [], [], _ => rfl
  | [], _ :: _, h => absurd h (by simp [SameTables])
  | _ :: _, [], h => absurd h (by simp [SameTables])
  | table' :: rest', table :: rest, h => by
    obtain ⟨hhead, hrest⟩ := List.cons.inj h
    obtain ⟨hschema, hname⟩ := Prod.mk.inj hhead
    rw [List.map_cons, List.map_cons, typeName_congr hconfig hschema hname,
      map_typeName_congr hconfig hrest]

/-! ## A file with new blocks before old ones -/

/-- The file once the blocks `done` took the place of as many old ones. -/
def evolvedText (packageName : String) (olds done : List Block) : String :=
  freshText packageName (Packages.ofList ((olds ++ done).flatMap Block.dependencies))
    (done ++ olds.drop done.length)

section
variable {packageName : String} {olds done after : List Block} {new : Block}

theorem evolvedText_nil (packageName : String) (olds : List Block) :
    evolvedText packageName olds [] = groupText packageName olds := by
  simp [evolvedText, groupText]

theorem evolvedText_of_prefix (packageName : String) (h : done <+: olds) :
    evolvedText packageName olds done = groupText packageName olds := by
  obtain ⟨rest, rfl⟩ := h
  have hpackages : Packages.ofList ((done ++ rest ++ done).flatMap Block.dependencies) =
      Packages.ofList ((done ++ rest).flatMap Block.dependencies) := by
    apply Packages.ofList_eq_ofList
    intro package
    simp only [List.flatMap_append, List.mem_append]
    tauto
  rw [evolvedText, hpackages, List.drop_left, groupText]

/-- Once all blocks took the place of old ones, no old one is left. -/
theorem evolvedText_of_length_eq (packageName : String) (h : olds.length = done.length) :
    evolvedText packageName olds done = freshText packageName
      (Packages.ofList ((olds ++ done).flatMap Block.dependencies)) done := by
  rw [evolvedText, List.drop_of_length_le (Nat.le_of_eq h), List.append_nil]

/-- The merge of one block puts it in place of the old one. -/
theorem merge_evolvedText (namespaceName : String) (holds : AllFormed olds)
    (hnews : AllFormed (done ++ new :: after))
    (hsame : (done ++ new :: after).map Block.typeName = olds.map Block.typeName)
    (hdistinct : (olds.map Block.typeName).Nodup) (hpackage : Text.Unspaced packageName.toList) :
    SourceFile.merge (evolvedText packageName olds done) namespaceName new =
      .ok ⟨evolvedText packageName olds (done ++ [new]), .patched⟩ := by
  obtain ⟨hdone, hrest⟩ := allFormed_append.mp hnews
  obtain ⟨⟨formed⟩, -⟩ := allFormed_cons.mp hrest
  obtain ⟨replaced, kept, rfl, hreplaced, hkept⟩ := List.map_eq_append_iff.mp
    (hsame.symm.trans List.map_append)
  obtain ⟨old, kept, rfl, hold, -⟩ := List.map_eq_cons_iff.mp (hkept.trans List.map_cons)
  have hlength : replaced.length = done.length := by
    simpa using congrArg List.length hreplaced
  have hother : ∀ block ∈ done, block.typeName ≠ new.typeName := by
    rw [← hsame] at hdistinct
    exact typeName_ne_of_nodup hdistinct
  have hfresh : Fresh packageName ((replaced ++ old :: kept ++ done).flatMap Block.dependencies)
      (done ++ old :: kept) := by
    refine ⟨allFormed_append.mpr ⟨hdone, (allFormed_append.mp holds).2⟩, by simp,
      plain_flatMap (allFormed_append.mpr ⟨holds, hdone⟩),
      fun hfeed => hpackage '\n' hfeed (by decide)⟩
  have hmerge := merge_freshText_replace namespaceName hfresh formed hold hother
  have hbefore : (replaced ++ old :: kept).drop done.length = old :: kept := by
    rw [← hlength, List.drop_left]
  have hbehind : (replaced ++ old :: kept).drop (done ++ [new]).length = kept := by
    rw [List.length_append, ← List.drop_drop, hbefore]
    rfl
  rw [evolvedText, evolvedText, hbefore, hbehind, hmerge]
  simp

end

/-! ## The merge of a later version -/

theorem mergeTables_evolved {packageName : String} {tables : List Table} {olds blocks : List Block}
    (holds : AllFormed olds) (hblocks : AllFormed blocks)
    (hrenders : cat.Renders tables blocks)
    (hsame : blocks.map Block.typeName = olds.map Block.typeName)
    (hdistinct : (olds.map Block.typeName).Nodup) (hpackage : Text.Unspaced packageName.toList) :
    ∃ merges, cat.mergeTables [] (groupText packageName olds) tables = .ok merges ∧
      MergedBy (evolvedText packageName olds) .patched tables blocks merges := by
  have hstep : ∀ done new after, blocks = done ++ new :: after → ∀ namespaceName,
      SourceFile.merge (evolvedText packageName olds done) namespaceName new =
        .ok ⟨evolvedText packageName olds (done ++ [new]), .patched⟩ := by
    rintro done new after rfl namespaceName
    exact merge_evolvedText namespaceName holds hblocks hsame hdistinct hpackage
  rw [← evolvedText_nil]
  exact mergeTables_of_step hrenders (hsame ▸ hdistinct) (fun _ _ => rfl) hstep

theorem outcome_eq_unchanged {packageName : String} {tables : List Table} {blocks : List Block}
    {merges : List TableMerge}
    (h : MergedBy (evolvedText packageName blocks) .patched tables blocks merges)
    {merge : TableMerge} (hmerge : merge ∈ merges) : merge.outcome = .unchanged := by
  obtain ⟨done, after, hsplit, houtcome⟩ := h.outcome merge hmerge
  have hprefix : done ++ [merge.block] <+: blocks := ⟨after, by rw [hsplit]; simp⟩
  rw [houtcome, evolvedText_of_prefix packageName hprefix,
    evolvedText_of_prefix packageName ((List.prefix_append _ _).trans hprefix), if_pos rfl]

theorem runGroup_of_text_eq {launch : Command.Launcher} {tree : Storage.Tree} {path : String}
    {tables : List Table} {merge : GroupMerge}
    (hread : Storage.readExisting tree path = .ok merge.original)
    (hmerge : cat.mergeGroup merge.original tables = .ok merge) (hsame : merge.text = merge.original) :
    cat.runGroup tree ⟨path, tables⟩ launch =
      (tree, { group := ⟨path, tables⟩, original := some merge.original, result := .ok merge }) := by
  have hsilent : merge.changes = false := by simp [GroupMerge.changes, hsame]
  simp only [runGroup, hread, hmerge, hsilent, Bool.false_eq_true, if_false]

/-- The file that some tables began, once a later version of them was merged into it: the new blocks
stand in the old order, and the file imports what the old blocks and the new ones need. If no block
changed, neither does the file, and a run does not write it. -/
theorem mergeGroup_evolved {first : Table} {rest tables' : List Table} {blocks blocks' : List Block}
    {original : String} (hcat : cat.Unspaced) (hcat' : cat'.Unspaced)
    (hconfig : cat'.config = cat.config) (htables : ∀ table ∈ first :: rest, table.Unspaced)
    (htables' : ∀ table ∈ tables', table.Unspaced) (hsame : SameTables tables' (first :: rest))
    (hpackage : Text.Unspaced (cat.options first).packageName.toList)
    (hdistinct : ((first :: rest).map cat.typeName).Nodup)
    (hrenders : cat.Renders (first :: rest) blocks) (hrenders' : cat'.Renders tables' blocks')
    (hblank : isAllWhite original) :
    ∃ old new packages, cat.mergeGroup original (first :: rest) = .ok old ∧
      cat'.mergeGroup old.text tables' = .ok new ∧
      new.text = freshText (cat.options first).packageName packages blocks' ∧
      Packages.Sorted packages ∧
      (∀ package, package ∈ packages ↔ ∃ block ∈ blocks ++ blocks', package ∈ block.dependencies) ∧
      new.merges.map (·.table) = tables' ∧ new.merges.map (·.block) = blocks' ∧
      (∀ merge ∈ new.merges, merge.outcome = .patched ∨ merge.outcome = .unchanged) ∧
      (blocks' = blocks → new.text = old.text ∧ (∀ merge ∈ new.merges, merge.outcome = .unchanged) ∧
        ∀ launch tree path, Storage.readExisting tree path = .ok old.text →
          cat'.runGroup tree ⟨path, tables'⟩ launch =
            (tree, { group := ⟨path, tables'⟩, original := some old.text, result := .ok new })) := by
  obtain ⟨merges, hmerges, htext, -⟩ :=
    mergeTables_blank hcat htables hpackage hrenders hdistinct hblank
  generalize (cat.options first).packageName = packageName at *
  have hformed := hrenders.allFormed hcat htables
  have hformed' := hrenders'.allFormed hcat' htables'
  have hnames : blocks'.map Block.typeName = blocks.map Block.typeName := by
    rw [hrenders'.map_typeName, hrenders.map_typeName, map_typeName_congr hconfig hsame]
  rw [← hrenders.map_typeName] at hdistinct
  obtain ⟨merges', hmerges', hmerged⟩ :=
    mergeTables_evolved hformed hformed' hrenders' hnames hdistinct hpackage
  have hlength : blocks.length = blocks'.length := by
    simpa using (congrArg List.length hnames).symm
  -- The merges go from the file with no new block to the one with all of them.
  have htext' : (GroupMerge.mk (groupText packageName blocks) merges').text =
      evolvedText packageName blocks blocks' := by
    rw [← evolvedText_nil]
    exact hmerged.text
  have hold : cat.mergeGroup original (first :: rest) = .ok ⟨original, merges⟩ := by
    rw [mergeGroup, hmerges]
    rfl
  have hnew : cat'.mergeGroup (groupText packageName blocks) tables' =
      .ok ⟨groupText packageName blocks, merges'⟩ := by
    rw [mergeGroup, hmerges']
    rfl
  refine ⟨⟨original, merges⟩, ⟨groupText packageName blocks, merges'⟩,
    Packages.ofList ((blocks ++ blocks').flatMap Block.dependencies), hold, by rw [htext, hnew],
    htext'.trans (evolvedText_of_length_eq packageName hlength), Packages.sorted_ofList _,
    fun package => ?_, hmerged.ofTables, hmerged.ofBlocks, fun _ hmerge => hmerged.outcome_cases hmerge,
    ?_⟩
  · rw [Packages.mem_ofList, List.mem_flatMap]
  · rintro rfl
    have hunchanged : (GroupMerge.mk (groupText packageName blocks') merges').text =
        groupText packageName blocks' := by
      rw [htext', evolvedText_of_prefix packageName List.prefix_rfl]
    refine ⟨hunchanged.trans htext.symm, fun _ hmerge => outcome_eq_unchanged hmerged hmerge,
      fun launch tree path hread => ?_⟩
    rw [htext] at hread ⊢
    exact runGroup_of_text_eq hread hnew hunchanged

/-- A later version of `visits`, which needs another package. -/
def visitsLater : Table :=
  { name := "visits"
    columns := [{ name := "id", dataType := .integer, nullable := true }] }

/-- A later version replaces the blocks, and the same version changes nothing. -/
theorem mergeGroup_evolved_visits :
    (∃ old new packages,
      (visitsCatalog [visits, notes]).mergeGroup "" [visits, notes] = .ok old ∧
      (visitsCatalog [visitsLater, notes]).mergeGroup old.text [visitsLater, notes] = .ok new ∧
      new.text = freshText "p" packages
        [visitsBlock [visitsLater, notes] visitsLater, visitsBlock [visitsLater, notes] notes]) ∧
    ∃ old new, (visitsCatalog [visits, notes]).mergeGroup "" [visits, notes] = .ok old ∧
      (visitsCatalog [visits, notes]).mergeGroup old.text [visits, notes] = .ok new ∧
      new.text = old.text := by
  have hcat : (visitsCatalog [visits, notes]).Unspaced := by decide
  have hcat' : (visitsCatalog [visitsLater, notes]).Unspaced := by decide
  have hrenders : (visitsCatalog [visits, notes]).Renders [visits, notes]
      [visitsBlock [visits, notes] visits, visitsBlock [visits, notes] notes] :=
    .cons rfl (.cons rfl .nil)
  have hrenders' : (visitsCatalog [visitsLater, notes]).Renders [visitsLater, notes]
      [visitsBlock [visitsLater, notes] visitsLater, visitsBlock [visitsLater, notes] notes] :=
    .cons rfl (.cons rfl .nil)
  constructor
  · obtain ⟨old, new, packages, hold, hnew, htext, -⟩ := mergeGroup_evolved hcat hcat' rfl
      (by decide) (by decide) (by decide) (by decide) (by decide) hrenders hrenders'
      (show isAllWhite "" by rfl)
    exact ⟨old, new, packages, hold, hnew, htext⟩
  · obtain ⟨old, new, packages, hold, hnew, -, -, -, -, -, -, hsame⟩ := mergeGroup_evolved hcat hcat
      rfl (by decide) (by decide) (by decide) (by decide) (by decide) hrenders hrenders
      (show isAllWhite "" by rfl)
    exact ⟨old, new, hold, hnew, (hsame rfl).1⟩

end RowTypes.Catalog
