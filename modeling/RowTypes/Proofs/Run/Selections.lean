import RowTypes.Proofs.Run.Evolution
import RowTypes.Proofs.Run.Files

/-!
Runs of different selections over one table set. Two tables of one file must not have one type name, but
this is checked for the tables of one run only: a later run that does not select a table may give the
file a block that takes the place of its block.

What is proved:
  1. `run_ok`: the groups of a run are made of the selected tables.
  2. `MergesInto.stands_iff_leaves`: exactly when a block stands after a merge.
  3. `runs_hold_iff`: exactly when a file still holds the block of a table after a second run.
  4. `runs_lose_block`: two runs, the second of which takes the block of the first away.
-/

namespace RowTypes

open Text SourceFile

/-! ## The groups of a run -/

/-- A group of some tables. -/
structure FileGroup.Of (tables : List Table) (group : FileGroup) : Prop where
  nonempty : group.tables ≠ []
  member : ∀ table ∈ group.tables, table ∈ tables

theorem FileGroup.of_insert {tables : List Table} {groups : List FileGroup} {path : String}
    {table : Table} (h : ∀ group ∈ groups, group.Of tables) (htable : table ∈ tables) :
    ∀ group ∈ insert path table groups, group.Of tables := by
  induction groups with
  | nil =>
    intro group hgroup
    rw [List.mem_singleton.mp hgroup]
    exact ⟨by simp, by simpa using htable⟩
  | cons head rest ih =>
    obtain ⟨hhead, hrest⟩ := List.forall_mem_cons.mp h
    rw [insert]
    split
    · refine List.forall_mem_cons.mpr ⟨⟨by simp, ?_⟩, hrest⟩
      intro other hother
      rcases List.mem_append.mp hother with hother | hother
      · exact hhead.member other hother
      · rw [List.mem_singleton.mp hother]
        exact htable
    · exact List.forall_mem_cons.mpr ⟨hhead, ih hrest⟩

namespace Catalog

open Storage Storage.Tree

variable {cat : Catalog} {launch : Command.Launcher}

theorem of_foldl_insert {tables selected : List Table} {groups : List FileGroup}
    (hselected : ∀ table ∈ selected, table ∈ tables) (h : ∀ group ∈ groups, group.Of tables) :
    ∀ group ∈ selected.foldl
      (fun groups table => FileGroup.insert (cat.options table).path table groups) groups,
      group.Of tables := by
  induction selected generalizing groups with
  | nil => exact h
  | cons table rest ih =>
    obtain ⟨htable, hrest⟩ := List.forall_mem_cons.mp hselected
    exact ih hrest (FileGroup.of_insert h htable)

/-- The groups of a run are groups of the table set. -/
theorem run_ok {tree after : Tree} {select : Table → Bool} {runs : List GroupRun}
    (h : cat.run tree select launch = .ok (after, runs)) :
    ∃ groups, (∀ group ∈ groups, group.Of cat.tables) ∧
      cat.runGroups tree groups launch = (after, runs) := by
  unfold run at h
  split at h
  · cases h
  · refine ⟨_, ?_, Except.ok.inj h⟩
    apply of_foldl_insert
    · exact fun table htable => (List.mem_filter.mp htable).1
    · simp

/-! ## What a merge leaves -/

/-- What it takes for a block to stand in a text once another block, or the same one, is merged. -/
structure Leaves (cat : Catalog) (block : Block) (merge : TableMerge) (text : String) : Prop where
  /-- In the place of a text without content stands the text of a new file. -/
  written : isAllWhite text →
    Stands block (ofBlock (cat.options merge.table).packageName merge.block)
  /-- A block takes the place of that of its own type. -/
  own : ¬isAllWhite text → merge.block.typeName = block.typeName → merge.block.text = block.text
  /-- A block of another type has to leave it, or a copy of it. -/
  other : ¬isAllWhite text → merge.block.typeName ≠ block.typeName →
    Remains block merge.block text

theorem stands_iff_of_stands {block new : Block} {text : String} (h : Stands new text)
    (htype : new.typeName = block.typeName) : Stands block text ↔ new.text = block.text := by
  obtain ⟨parts, hparts, hregion⟩ := h
  rw [htype] at hparts
  constructor
  · rintro ⟨found, hfound, hblock⟩
    obtain rfl := Option.some.inj (hparts.symm.trans hfound)
    exact String.toList_inj.mp (hregion.symm.trans hblock)
  · intro htext
    exact ⟨parts, hparts, htext ▸ hregion⟩

theorem MergesInto.stands_iff_leaves {text : String} {merge : TableMerge}
    (h : cat.MergesInto text merge) {block : Block} (hblock : block.Formed)
    (formed : merge.block.Formed) : Stands block merge.text ↔ cat.Leaves block merge text := by
  by_cases hwhite : isAllWhite text
  · rw [h.text_eq hwhite]
    exact ⟨fun hstands => ⟨fun _ => hstands, absurd hwhite, absurd hwhite⟩, fun hleaves =>
      hleaves.written hwhite⟩
  · by_cases htype : merge.block.typeName = block.typeName
    · rw [stands_iff_of_stands (h.stands formed hwhite) htype]
      exact ⟨fun htext => ⟨fun hw => absurd hw hwhite, fun _ _ => htext, fun _ hne => absurd htype hne⟩,
        fun hleaves => hleaves.own hwhite htype⟩
    · rw [h.stands_iff_remains hblock formed (Ne.symm htype) hwhite]
      exact ⟨fun hremains => ⟨fun hw => absurd hw hwhite, fun _ heq => absurd heq htype,
        fun _ _ => hremains⟩, fun hleaves => hleaves.other hwhite htype⟩

/-- The last merge of a group decides which blocks stand in its text. -/
theorem Steps.stands_text_iff {group : GroupMerge} (h : cat.Steps group) {done : List TableMerge}
    {last : TableMerge} (hsplit : group.merges = done ++ [last]) {block : Block}
    (hblock : block.Formed) :
    Stands block group.text ↔ cat.Leaves block last (group.textAfter done) := by
  obtain ⟨formed⟩ := h.formed last (by rw [hsplit]; simp)
  have htext : group.text = last.text := by simp [GroupMerge.text, hsplit]
  rw [htext]
  exact (h.into done last [] hsplit).stands_iff_leaves hblock formed

/-! ## The last merge into a file -/

/-- The last merge of some runs into the file at a place. -/
def lastMerge (tree : Tree) (loc : Location) : List GroupRun → Option GroupMerge
  | [] => none
  | run :: rest =>
    (lastMerge tree loc rest).or
      (if tree.place run.group.path = loc then run.result.toOption else none)

variable {tree after : Tree} {loc : Location} {runs : List GroupRun} {run : GroupRun}
  {groups : List FileGroup} {merge last : GroupMerge}

theorem lastMerge_eq_none_iff : lastMerge tree loc runs = none ↔
    ∀ run ∈ runs, ¬(tree.place run.group.path = loc ∧ ∃ merge, run.result = .ok merge) := by
  induction runs with
  | nil => simp [lastMerge]
  | cons run rest ih =>
    rw [lastMerge, Option.or_eq_none_iff, ih, List.forall_mem_cons, and_comm]
    apply and_congr_left'
    cases run.result <;> simp [Except.toOption]

/-- The last merge is that of a group after which none is merged into the file. -/
theorem exists_of_lastMerge (h : lastMerge tree loc runs = some last) :
    ∃ before run rest, runs = before ++ run :: rest ∧ tree.place run.group.path = loc ∧
      run.result = .ok last ∧ lastMerge tree loc rest = none := by
  induction runs with
  | nil => cases h
  | cons run rest ih =>
    rw [lastMerge] at h
    cases hrest : lastMerge tree loc rest with
    | some merge =>
      rw [hrest] at h
      cases h
      obtain ⟨before, other, rest, rfl, hother⟩ := ih hrest
      exact ⟨run :: before, other, rest, rfl, hother⟩
    | none =>
      rw [hrest, Option.none_or] at h
      split at h
      · next hplace =>
        refine ⟨[], run, rest, rfl, hplace, ?_, hrest⟩
        cases hresult : run.result with
        | error e =>
          rw [hresult] at h
          cases h
        | ok merge =>
          rw [hresult] at h
          cases h
          rfl
      · cases h

section
variable (hformatter : cat.config.formatter = none) (hcat : cat.Unspaced)
  (hgroups : ∀ group ∈ groups, group.Of cat.tables)
include hformatter hcat hgroups

theorem exists_left {before rest : List GroupRun}
    (h : cat.runGroups tree groups launch = (after, before ++ run :: rest))
    (hresult : run.result = .ok merge) :
    cat.Steps merge ∧ merge.merges ≠ [] ∧ ∃ left, left.readText run.group.path = .ok merge.text ∧
      (∀ path, left.place path = tree.place path) ∧
      Keeps (fun loc => ∃ other ∈ rest, Touches tree other loc) left after := by
  obtain ⟨found, left, first, group, others, rfl, hfirst, hgroup, hothers⟩ := runGroups_split h
  have hof : group.Of cat.tables := hgroups group (by simp)
  obtain ⟨hrun, hkeeps, hsucceeds⟩ := runGroup_cases hformatter hgroup
  have hsucceeds := hsucceeds merge hresult
  have hsteps : cat.Steps merge :=
    steps_of_mergeGroup hcat (fun table htable => hcat.tables table (hof.member table htable))
      hsucceeds.merged
  have hmerges : merge.merges ≠ [] := by
    obtain ⟨merges, hmerges, hmerge⟩ := exists_of_mergeGroup hsucceeds.merged
    obtain ⟨table, tables, htables⟩ := List.exists_cons_of_ne_nil hof.nonempty
    rw [htables] at hmerges
    obtain ⟨head, tail, rfl, -⟩ := exists_of_mergeTables_cons hmerges
    rw [hmerge]
    exact List.cons_ne_nil head tail
  have htext : merge.text ≠ "" := by
    intro hempty
    apply hsteps.not_isAllWhite (List.append_nil merge.merges).symm hmerges
    show isAllWhite merge.text
    rw [hempty]
    decide
  have hbefore := runGroups_keeps hformatter hfirst
  refine ⟨hsteps, hmerges, left, hrun ▸ hsucceeds.written htext, fun path => ?_, ?_⟩
  · rw [hkeeps.place_eq, hbefore.place_eq]
  · apply (runGroups_keeps hformatter hothers).mono
    rintro loc ⟨other, hother, htouches⟩
    exact ⟨other, hother, (Touches.congr hbefore).mp ((Touches.congr hkeeps).mp htouches)⟩

theorem readText_of_runGroups (h : cat.runGroups tree groups launch = (after, runs)) (hrun : run ∈ runs)
    (hresult : run.result = .ok merge)
    (hsibling : ∀ other ∈ runs,
      siblingPlace? tree other.group.path ≠ some (tree.place run.group.path)) :
    ∃ last, lastMerge tree (tree.place run.group.path) runs = some last ∧ cat.Steps last ∧
      last.merges ≠ [] ∧ after.readText run.group.path = .ok last.text := by
  cases hlast : lastMerge tree (tree.place run.group.path) runs with
  | none => exact absurd ⟨rfl, merge, hresult⟩ (lastMerge_eq_none_iff.mp hlast run hrun)
  | some last =>
    obtain ⟨before, other, rest, hsplit, hplace, hother, hrest⟩ := exists_of_lastMerge hlast
    obtain ⟨hsteps, hmerges, left, hread, hleft, hkeeps⟩ :=
      exists_left hformatter hcat hgroups (hsplit ▸ h) hother
    have hfile : after.get? (tree.place run.group.path) = some (.file last.text.toUTF8) := by
      apply (hkeeps.files _ ?_ _).mpr
      · rw [← hplace, ← hleft]
        exact (readText_iff.mp hread).2
      · rintro ⟨third, hthird, ⟨hthere, hmerge⟩ | hthere⟩
        · exact lastMerge_eq_none_iff.mp hrest third hthird ⟨hthere, hmerge⟩
        · exact hsibling third (by simp [hsplit, hthird]) hthere
    have hlocate : after.locate run.group.path = .ok (tree.place run.group.path) := by
      obtain ⟨earlier, later, hsplit⟩ := List.append_of_mem hrun
      obtain ⟨-, -, left, hread, hleft, hkeeps⟩ :=
        exists_left hformatter hcat hgroups (hsplit ▸ h) hresult
      apply hkeeps.locate
      · rw [← hleft]
        exact (readText_iff.mp hread).1
      · rw [hfile]
        rfl
    refine ⟨last, rfl, hsteps, hmerges, readText_iff.mpr ?_⟩
    rw [(runGroups_keeps hformatter h).place_eq]
    exact ⟨hlocate, hfile⟩

end

/-- A file holds a block: the block stands in its text. -/
def Holds (tree : Tree) (path : String) (block : Block) : Prop :=
  ∃ text, tree.readText path = .ok text ∧ Stands block text

/-- A table is merged by a run, and another run follows. Exactly when its file still holds its block:
the last merge into the file has to leave it. -/
theorem runs_hold_iff {select later : Table → Bool} {between : Tree} {laterRuns : List GroupRun}
    {merged : TableMerge} (hformatter : cat.config.formatter = none) (hcat : cat.Unspaced)
    (hfirst : cat.run tree select launch = .ok (between, runs))
    (hsecond : cat.run between later launch = .ok (after, laterRuns))
    (hrun : run ∈ runs) (hresult : run.result = .ok merge) (hmerged : merged ∈ merge.merges)
    (hsibling : ∀ other ∈ runs ++ laterRuns,
      siblingPlace? tree other.group.path ≠ some (tree.place run.group.path)) :
    Holds after run.group.path merged.block ↔
      ∃ last done final,
        lastMerge tree (tree.place run.group.path) (runs ++ laterRuns) = some last ∧
          last.merges = done ++ [final] ∧
          cat.Leaves merged.block final (last.textAfter done) := by
  obtain ⟨groups, hgroups, hruns⟩ := run_ok hfirst
  obtain ⟨laterGroups, hlaterGroups, hlaterRuns⟩ := run_ok hsecond
  have hof : ∀ group ∈ groups ++ laterGroups, group.Of cat.tables := by
    intro group hgroup
    exact (List.mem_append.mp hgroup).elim (hgroups group) (hlaterGroups group)
  have hall : cat.runGroups tree (groups ++ laterGroups) launch = (after, runs ++ laterRuns) := by
    rw [runGroups_append, hruns, hlaterRuns]
  obtain ⟨last, hlast, hsteps, hmerges, hread⟩ := readText_of_runGroups hformatter hcat hof hall
    (List.mem_append_left _ hrun) hresult hsibling
  obtain ⟨hblock⟩ : Nonempty merged.block.Formed := by
    obtain ⟨before, rest, hsplit⟩ := List.append_of_mem hrun
    exact (exists_left hformatter hcat hgroups (hsplit ▸ hruns) hresult).1.formed merged hmerged
  -- Both runs are one sequence of groups, and its last merge into the file has a last table.
  obtain ⟨done, final, hsplit⟩ : ∃ done final, last.merges = done ++ [final] :=
    ⟨_, _, (List.dropLast_concat_getLast hmerges).symm⟩
  have hstands := hsteps.stands_text_iff hsplit hblock
  constructor
  · rintro ⟨text, htext, hholds⟩
    obtain rfl := Except.ok.inj (hread.symm.trans htext)
    exact ⟨last, done, final, hlast, hsplit, hstands.mp hholds⟩
  · rintro ⟨last', done', final', hlast', hsplit', hleaves⟩
    obtain rfl := Option.some.inj (hlast.symm.trans hlast')
    obtain ⟨rfl, hfinal⟩ := List.append_inj' (hsplit.symm.trans hsplit') rfl
    obtain ⟨rfl, -⟩ := List.cons.inj hfinal
    exact ⟨last.text, hread, hstands.mpr hleaves⟩

/-! ## Two tables of one name -/

def usersOf (schema : String) : Table :=
  { schema, name := "users" }

/-- The tables `users` of two schemas, which are written to one file. -/
def usersCatalog (overrides : List (String × TableConfig)) : Catalog where
  config := { packageName := "p", tables := overrides }
  tables := [usersOf "a", usersOf "b"]

def usersBlock (overrides : List (String × TableConfig)) (schema : String) : Block :=
  (usersCatalog overrides).blockOf (usersOf schema) []

theorem exists_formed_users {overrides : List (String × TableConfig)} {schema : String}
    (hcat : (usersCatalog overrides).Unspaced) (htable : (usersOf schema).Unspaced) :
    Nonempty (usersBlock overrides schema).Formed :=
  exists_formed hcat htable rfl

def inSchema (schema : String) (table : Table) : Bool :=
  table.schema == schema

/-- The working directory with the file of the tables. -/
def usersTree (content : ByteArray) : Tree where
  nodes := [(["work"], .directory), (["work", "users.go"], .file content)]
  workDir := ["work"]

theorem writeAtomic_fresh (content : ByteArray) :
    writeAtomic .fresh "users.go" content = (usersTree content, .ok ()) := rfl

theorem writeAtomic_usersTree (old content : ByteArray) :
    writeAtomic (usersTree old) "users.go" content = (usersTree content, .ok ()) := rfl

theorem readText_usersTree (text : String) :
    (usersTree text.toUTF8).readText "users.go" = .ok text :=
  readText_iff.mpr ⟨rfl, rfl⟩

theorem readExisting_usersTree (text : String) :
    readExisting (usersTree text.toUTF8) "users.go" = .ok text := by
  simp only [readExisting, readText_usersTree]

/-- A run that merges one of the tables. -/
def usersRun (overrides : List (String × TableConfig)) (schema original text : String)
    (placed : MergeOutcome) : GroupRun where
  group := ⟨"users.go", [usersOf schema]⟩
  original := some original
  result := .ok ⟨original,
    [⟨usersOf schema, usersBlock overrides schema, text, placed.tableOutcome⟩]⟩

theorem run_users {overrides : List (String × TableConfig)} {schema original text : String}
    {placed : MergeOutcome} {tree : Tree} (hcheck : (usersCatalog overrides).check = .ok ())
    (hgroups : (usersCatalog overrides).fileGroups
      ((usersCatalog overrides).tables.filter (inSchema schema)) = [⟨"users.go", [usersOf schema]⟩])
    (hpackage : ((usersCatalog overrides).options (usersOf schema)).packageName = "p")
    (hread : readExisting tree "users.go" = .ok original)
    (hmerge : SourceFile.merge original "p" (usersBlock overrides schema) = .ok ⟨text, placed⟩)
    (hchanges : text ≠ original)
    (hwrite : writeAtomic tree "users.go" text.toUTF8 = (usersTree text.toUTF8, .ok ())) :
    (usersCatalog overrides).run tree (inSchema schema) =
      .ok (usersTree text.toUTF8, [usersRun overrides schema original text placed]) := by
  have hrender : (usersCatalog overrides).render (usersOf schema) =
      .ok (usersBlock overrides schema) := rfl
  rw [← hpackage] at hmerge
  have hgroup := mergeGroup_single hrender hmerge hchanges
  exact run_single rfl hcheck hgroups hread hgroup hchanges hwrite

/-- The file after a run for the first schema. -/
def usersText (overrides : List (String × TableConfig)) : String :=
  groupText "p" [usersBlock overrides "a"]

theorem run_users_first {overrides : List (String × TableConfig)}
    (hcat : (usersCatalog overrides).Unspaced) (hcheck : (usersCatalog overrides).check = .ok ())
    (hgroups : (usersCatalog overrides).fileGroups
      ((usersCatalog overrides).tables.filter (inSchema "a")) = [⟨"users.go", [usersOf "a"]⟩])
    (hpackage : ((usersCatalog overrides).options (usersOf "a")).packageName = "p") :
    (usersCatalog overrides).run .fresh (inSchema "a") =
      .ok (usersTree (usersText overrides).toUTF8,
        [usersRun overrides "a" "" (usersText overrides) .created]) := by
  obtain ⟨formed⟩ := exists_formed_users hcat (show (usersOf "a").Unspaced by decide)
  have hmerge : SourceFile.merge "" "p" (usersBlock overrides "a") =
      .ok ⟨usersText overrides, .created⟩ := by
    rw [merge_blank (by rfl) formed, usersText, groupText, List.flatMap_singleton]
  have hchanges : usersText overrides ≠ "" := by
    have hink : ¬isAllWhite (usersText overrides) := not_isAllWhite_freshText _ _ _
    intro hempty
    rw [hempty] at hink
    exact hink rfl
  exact run_users hcheck hgroups hpackage rfl hmerge hchanges (writeAtomic_fresh _)

/-- A suffix for the table of the second schema. -/
def suffixed : List (String × TableConfig) :=
  [("b.users", { suffix := some "B" })]

/-- If the types have different names, the file holds both blocks after a run for each. -/
theorem runs_hold_users :
    (usersCatalog suffixed).config.formatter = none ∧ (usersCatalog suffixed).Unspaced ∧
    ∃ later, (usersCatalog suffixed).run .fresh (inSchema "a") =
        .ok (usersTree (usersText suffixed).toUTF8,
          [usersRun suffixed "a" "" (usersText suffixed) .created]) ∧
      (usersCatalog suffixed).run (usersTree (usersText suffixed).toUTF8) (inSchema "b") =
        .ok (usersTree later.toUTF8, [usersRun suffixed "b" (usersText suffixed) later .appended]) ∧
      (∀ other ∈ [usersRun suffixed "a" "" (usersText suffixed) .created] ++
          [usersRun suffixed "b" (usersText suffixed) later .appended],
        siblingPlace? .fresh other.group.path ≠ some (Tree.fresh.place "users.go")) ∧
      Holds (usersTree later.toUTF8) "users.go" (usersBlock suffixed "a") := by
  have hcat : (usersCatalog suffixed).Unspaced := by decide
  obtain ⟨formed⟩ := exists_formed_users hcat (show (usersOf "a").Unspaced by decide)
  obtain ⟨formed'⟩ := exists_formed_users hcat (show (usersOf "b").Unspaced by decide)
  have hboth : AllFormed ([usersBlock suffixed "a"] ++ [usersBlock suffixed "b"]) :=
    allFormed_cons.mpr ⟨⟨formed⟩, allFormed_cons.mpr ⟨⟨formed'⟩, allFormed_nil⟩⟩
  have hpackage : Text.Unspaced "p".toList := by decide
  obtain ⟨hmerge, hchanges⟩ := merge_groupText "p" hboth (by decide) (by simp) hpackage
  have hfirst := run_users_first hcat rfl rfl rfl
  have hsecond := run_users rfl rfl rfl (readExisting_usersTree _) hmerge hchanges
    (writeAtomic_usersTree _ _)
  generalize hlater : groupText "p" ([usersBlock suffixed "a"] ++ [usersBlock suffixed "b"]) = later at *
  have hsibling : ∀ other ∈ [usersRun suffixed "a" "" (usersText suffixed) .created] ++
      [usersRun suffixed "b" (usersText suffixed) later .appended],
      siblingPlace? .fresh other.group.path ≠ some (Tree.fresh.place "users.go") := by
    simp only [usersRun, List.cons_append, List.nil_append, List.forall_mem_cons]
    decide
  refine ⟨rfl, hcat, later, hfirst, hsecond, hsibling, ?_⟩
  apply (runs_hold_iff rfl hcat hfirst hsecond List.mem_cons_self rfl List.mem_cons_self hsibling).mpr
  have hinto : (usersCatalog suffixed).MergesInto (usersText suffixed)
      ⟨usersOf "b", usersBlock suffixed "b", later, .appended⟩ := ⟨rfl, .appended, hmerge⟩
  refine ⟨⟨usersText suffixed, [⟨usersOf "b", usersBlock suffixed "b", later, .appended⟩]⟩, [], _, ?_,
    rfl, (hinto.stands_iff_leaves formed formed').mp ?_⟩
  · simp [lastMerge, usersRun, usersText, Except.toOption, MergeOutcome.tableOutcome]
  · have hsplit : [usersBlock suffixed "a"] ++ [usersBlock suffixed "b"] =
        [] ++ usersBlock suffixed "a" :: [usersBlock suffixed "b"] := rfl
    have hstands := (fresh_of_allFormed (hsplit ▸ hboth) (by simp) hpackage).stands (by simp)
    show Stands (usersBlock suffixed "a") later
    rw [← hlater]
    exact hstands

/-- If the types have one name, the second run takes the block of the first away. -/
theorem runs_lose_block :
    (usersCatalog []).config.formatter = none ∧ (usersCatalog []).Unspaced ∧
    ∃ later, (usersCatalog []).run .fresh (inSchema "a") =
        .ok (usersTree (usersText []).toUTF8, [usersRun [] "a" "" (usersText []) .created]) ∧
      Holds (usersTree (usersText []).toUTF8) "users.go" (usersBlock [] "a") ∧
      (usersCatalog []).run (usersTree (usersText []).toUTF8) (inSchema "b") =
        .ok (usersTree later.toUTF8, [usersRun [] "b" (usersText []) later .patched]) ∧
      inSchema "b" (usersOf "a") = false ∧
      (usersTree later.toUTF8).readText "users.go" = .ok later ∧
      ¬(usersBlock [] "a").text.toList <:+: later.toList := by
  have hcat : (usersCatalog []).Unspaced := by decide
  obtain ⟨formed⟩ := exists_formed_users hcat (show (usersOf "a").Unspaced by decide)
  obtain ⟨formed'⟩ := exists_formed_users hcat (show (usersOf "b").Unspaced by decide)
  have hallFormed : AllFormed ([] ++ usersBlock [] "a" :: []) :=
    allFormed_cons.mpr ⟨⟨formed⟩, allFormed_nil⟩
  have hallFormed' : AllFormed ([] ++ usersBlock [] "b" :: []) :=
    allFormed_cons.mpr ⟨⟨formed'⟩, allFormed_nil⟩
  have hpackage : Text.Unspaced "p".toList := by decide
  have htype : (usersBlock [] "b").typeName = (usersBlock [] "a").typeName := by decide
  have hmerge : SourceFile.merge (usersText []) "p" (usersBlock [] "b") =
      .ok ⟨evolvedText "p" [usersBlock [] "a"] [usersBlock [] "b"], .patched⟩ := by
    have hevolved := merge_evolvedText "p" hallFormed hallFormed' (congrArg (fun name => [name]) htype)
      (by simp) hpackage
    rwa [evolvedText_nil, List.nil_append, List.nil_append] at hevolved
  have hstands : Stands (usersBlock [] "a") (usersText []) := by
    have hgroup := (fresh_of_allFormed hallFormed (by simp) hpackage).stands (by simp)
    rwa [← groupText, List.nil_append] at hgroup
  have hdiffers : (usersBlock [] "b").text ≠ (usersBlock [] "a").text := by decide +kernel
  have hlost : ¬(usersBlock [] "a").text.toList <:+:
      (evolvedText "p" [usersBlock [] "a"] [usersBlock [] "b"]).toList := by
    decide +kernel
  generalize evolvedText "p" [usersBlock [] "a"] [usersBlock [] "b"] = later at *
  have hinto : (usersCatalog []).MergesInto (usersText [])
      ⟨usersOf "b", usersBlock [] "b", later, .patched⟩ := ⟨rfl, .patched, hmerge⟩
  have hchanges : later ≠ usersText [] := by
    rintro rfl
    have hreplaced := hinto.stands formed' (not_isAllWhite_of_stands formed hstands)
    exact hdiffers ((stands_iff_of_stands hreplaced htype).mp hstands)
  have hfirst := run_users_first hcat rfl rfl rfl
  have hsecond := run_users rfl rfl rfl (readExisting_usersTree _) hmerge hchanges
    (writeAtomic_usersTree _ _)
  exact ⟨rfl, hcat, later, hfirst, ⟨usersText [], readText_usersTree _, hstands⟩, hsecond, rfl,
    readText_usersTree _, hlost⟩

end Catalog

end RowTypes
