import Mathlib.Tactic.MkIffOfInductiveProp
import RowTypes.Proofs.Run.Groups
import RowTypes.Proofs.Run.Selections
import RowTypes.Proofs.Storage.Extension

/-!
Groups that are run one after the other and do not disturb each other. A group writes to its own file
and makes directories above it, so that a later group finds its file as it was before the run, and at
most more directories on the way to it. Two things can still come of these: a directory may stand where
a group wants to put the sibling of its file, and a name that is too long is looked up and refused where
before there was no directory to look it up in.

What is proved:
  1. `runGroup_changes`, `runGroups_changes`: what one group changes, and what all of them change.
  2. `runGroups_spares`, `runGroups_each`: what a group finds, and what it leaves in its file.
  3. `Spares.result_eq`: what comes of a group after others.
  4. `run_isolates`: each group of a run against a run of its tables alone.
  5. `run_not_isolated`: a run with both exceptions.
-/

namespace RowTypes

open Storage Storage.Tree

/-- The text that a group has put into its file, if it has changed it. -/
def GroupRun.written? (run : GroupRun) : Option String :=
  match run.result with
  | .ok merge => if merge.changes then some merge.text else none
  | .error _ => none

namespace GroupRun
variable {run alone : GroupRun}

theorem entries_of_result (hgroup : run.group = alone.group) (hresult : run.result = alone.result) :
    run.entries = alone.entries := by
  simp only [entries, hgroup, hresult]

/-- Two runs of a group that come to the same, or both fail, write the same, note the same, and have the
same outcomes. -/
theorem alike_of_result (hgroup : run.group = alone.group)
    (hfailure : run.formatterFailure = alone.formatterFailure)
    (h : run.result = alone.result ∨ (∃ e, alone.result = .error e) ∧ ∃ e, run.result = .error e) :
    run.written? = alone.written? ∧ run.warnings = alone.warnings ∧
      run.entries.map (·.outcome) = alone.entries.map (·.outcome) := by
  rcases h with hsame | ⟨⟨e, halone⟩, e', hfailed⟩
  · refine ⟨?_, ?_, by rw [entries_of_result hgroup hsame]⟩
    · simp only [written?, hsame]
    · simp only [warnings, hgroup, hfailure, hsame]
  · refine ⟨?_, ?_, ?_⟩
    · simp only [written?, halone, hfailed]
    · simp only [warnings, halone, hfailed]
    · simp [entries, failedEntry, halone, hfailed, hgroup]

end GroupRun

namespace Catalog

variable {cat : Catalog} {launch : Command.Launcher} {tree found after : Tree}
  {group other : FileGroup} {groups : List FileGroup}
  {run : GroupRun} {runs : List GroupRun} {fresh written : Location → Prop} {loc : Location}

/-! ## Groups that are apart -/

/-- The files of the groups are different, no file is to be a directory above another, and no sibling is
a file that is there or is to be written. -/
@[mk_iff]
structure Apart (tree : Tree) (groups : List FileGroup) : Prop where
  level : ∀ group ∈ groups, Storage.Level group.path
  places : groups.Pairwise fun group other => ¬tree.place group.path <+: tree.place other.path ∧
    ¬tree.place other.path <+: tree.place group.path
  siblings : ∀ group ∈ groups, ∀ loc ∈ siblingPlace? tree group.path, ∀ other ∈ groups,
    loc ≠ tree.place other.path
  free : ∀ group ∈ groups, ∀ loc ∈ siblingPlace? tree group.path,
    tree.get? loc = none ∨ tree.isDirectory loc

instance (path : String) : Decidable (Storage.Level path) :=
  inferInstanceAs (Decidable (_ ∉ _))

instance (tree : Tree) (groups : List FileGroup) : Decidable (Apart tree groups) :=
  decidable_of_iff _ (apart_iff tree groups).symm

namespace Apart

theorem sublist {some : List FileGroup} (h : Apart tree groups) (hsome : some.Sublist groups) :
    Apart tree some where
  level group hgroup := h.level group (hsome.subset hgroup)
  places := h.places.sublist hsome
  siblings group hgroup loc hloc other hother :=
    h.siblings group (hsome.subset hgroup) loc hloc other (hsome.subset hother)
  free group hgroup := h.free group (hsome.subset hgroup)

theorem not_file (h : Apart tree groups) (hgroup : group ∈ groups)
    (hloc : loc ∈ siblingPlace? tree group.path) (content : ByteArray) :
    tree.get? loc ≠ some (.file content) := by
  rcases h.free group hgroup loc hloc with hnone | hdir
  · simp [hnone]
  · simp [isDirectory_iff.mp hdir]

theorem of_extends (h : Apart tree groups) (hextends : Extends fresh written tree after)
    (hwritten : ∀ loc, written loc → ∃ group ∈ groups, loc = tree.place group.path) :
    Apart after groups := by
  have hplace (path : String) : after.place path = tree.place path := place_congr hextends.workDir
  have hsibling (path : String) : siblingPlace? after path = siblingPlace? tree path := by
    simp only [siblingPlace?, hplace]
  refine ⟨h.level, by simpa only [hplace] using h.places,
    by simpa only [hplace, hsibling] using h.siblings, ?_⟩
  intro group hgroup loc hloc
  rw [hsibling] at hloc
  rcases hextends.get? loc with hloc' | hsame | ⟨-, -, hdir⟩
  · obtain ⟨other, hother, hplaced⟩ := hwritten loc hloc'
    exact absurd hplaced (h.siblings group hgroup loc hloc other hother)
  · simpa only [isDirectory, hsame] using h.free group hgroup loc hloc
  · exact .inr (isDirectory_iff.mpr hdir)

end Apart

/-! ## What groups change -/

theorem runGroup_unread {reason : IoError} (hread : readExisting tree group.path = .error reason) :
    cat.runGroup tree group launch = (tree, ⟨group, none, .error (.io reason), none⟩) := by
  simp only [runGroup, hread]

theorem runGroup_unmerged {original : String} {e : FileError}
    (hread : readExisting tree group.path = .ok original)
    (hmerge : cat.mergeGroup original group.tables = .error e) :
    cat.runGroup tree group launch = (tree, ⟨group, some original, .error e, none⟩) := by
  simp only [runGroup, hread, hmerge]

theorem runGroup_run (cat : Catalog) (tree : Tree) (group : FileGroup) (launch : Command.Launcher) :
    (cat.runGroup tree group launch).2.group = group ∧
      (cat.runGroup tree group launch).2.result =
        match readExisting tree group.path with
        | .error reason => .error (.io reason)
        | .ok original =>
          match cat.mergeGroup original group.tables with
          | .error e => .error e
          | .ok merge =>
            if merge.changes then
              match (writeAtomic tree group.path merge.text.toUTF8).2 with
              | .error reason => .error (.io reason)
              | .ok () => .ok merge
            else .ok merge := by
  unfold runGroup
  cases readExisting tree group.path with
  | error reason => exact ⟨rfl, rfl⟩
  | ok original =>
    dsimp only
    cases cat.mergeGroup original group.tables with
    | error e => exact ⟨rfl, rfl⟩
    | ok merge =>
      dsimp only
      split
      · rcases writeAtomic tree group.path merge.text.toUTF8 with ⟨left, _ | _⟩ <;> exact ⟨rfl, rfl⟩
      · exact ⟨rfl, rfl⟩

/-- A group changes its file, if it succeeds with another text, and directories above it are made. -/
structure Changes (tree : Tree) (group : FileGroup) (after : Tree) (run : GroupRun) : Prop where
  unformatted : run.formatterFailure = none
  extends_tree : Extends (fun loc => loc <+: tree.place group.path ∧ loc ≠ tree.place group.path)
    (fun loc => loc = tree.place group.path ∧ run.written? ≠ none) tree after
  file : after.get? (tree.place group.path) =
    (run.written?.map fun text => .file text.toUTF8).or (tree.get? (tree.place group.path))
  sound : tree.Sound → after.Sound

theorem runGroup_changes (hformatter : cat.config.formatter = none) (hlevel : Storage.Level group.path)
    (hsibling : ∀ loc ∈ siblingPlace? tree group.path, ∀ old, tree.get? loc ≠ some (.file old))
    (launch : Command.Launcher) :
    Changes tree group (cat.runGroup tree group launch).1 (cat.runGroup tree group launch).2 := by
  have hnothing (run : GroupRun) (hfailure : run.formatterFailure = none)
      (hwritten : run.written? = none) : Changes tree group tree run :=
    ⟨hfailure, .refl _ _ tree, by simp [hwritten], id⟩
  unfold runGroup
  cases readExisting tree group.path with
  | error reason => exact hnothing _ rfl rfl
  | ok original =>
    dsimp only
    cases cat.mergeGroup original group.tables with
    | error e => exact hnothing _ rfl rfl
    | ok merge =>
      dsimp only
      by_cases hchanges : merge.changes
      · rw [if_pos hchanges]
        have hextends := writeAtomic_extends hlevel hsibling merge.text.toUTF8
        have hsound := fun h : tree.Sound => h.writeAtomic group.path merge.text.toUTF8
        cases hwrite : writeAtomic tree group.path merge.text.toUTF8 with
        | mk left ended =>
          rw [hwrite] at hextends hsound
          cases ended with
          | error reason =>
            have hsame : left.get? (tree.place group.path) = tree.get? (tree.place group.path) :=
              hextends.get?_eq (by simp) (by simp)
            exact ⟨rfl, hextends.mono (fun _ => id) (by simp), hsame, hsound⟩
          | ok u =>
            have hfile := (writeAtomic_ok hwrite).2.2
            simp only [format, hformatter]
            refine ⟨rfl, hextends.mono (fun _ => id) ?_, ?_, hsound⟩
            · simp [GroupRun.written?, hchanges]
            · simpa [GroupRun.written?, hchanges] using hfile
      · rw [if_neg hchanges]
        exact hnothing _ rfl (by simp [GroupRun.written?, hchanges])

/-- A directory above the file of a group. -/
def Above (tree : Tree) (groups : List FileGroup) (loc : Location) : Prop :=
  ∃ group ∈ groups, loc <+: tree.place group.path ∧ loc ≠ tree.place group.path

/-- The file of a group that has changed it. -/
def HasWritten (tree : Tree) (runs : List GroupRun) (loc : Location) : Prop :=
  ∃ run ∈ runs, loc = tree.place run.group.path ∧ run.written? ≠ none

/-- What all groups change: their files, and directories above these. -/
theorem runGroups_changes (hformatter : cat.config.formatter = none) (hapart : Apart tree groups)
    (h : cat.runGroups tree groups launch = (after, runs)) :
    runs.map (·.group) = groups ∧ Extends (Above tree groups) (HasWritten tree runs) tree after ∧
      (tree.Sound → after.Sound) := by
  induction groups generalizing tree runs with
  | nil =>
    cases h
    exact ⟨rfl, .refl _ _ _, id⟩
  | cons group groups ih =>
    rw [runGroups_cons] at h
    have hfirst := runGroup_changes hformatter (hapart.level group List.mem_cons_self)
      (fun loc hloc => hapart.not_file List.mem_cons_self hloc) launch
    have hgroup := (cat.runGroup_run tree group launch).1
    generalize cat.runGroup tree group launch = first at hfirst hgroup h
    obtain ⟨left, run⟩ := first
    subst hgroup
    rcases hlast : cat.runGroups left groups launch with ⟨last, others⟩
    -- the groups that follow are still apart, since the first wrote to none of their siblings
    obtain ⟨-, htree, -, hsound⟩ := hfirst
    obtain ⟨rfl, rfl⟩ : last = after ∧ run :: others = runs := by simpa [hlast] using h
    have hapart' := (hapart.of_extends htree fun loc hloc => ⟨_, List.mem_cons_self, hloc.1⟩).sublist
      (List.sublist_cons_self _ _)
    obtain ⟨hgroups, hrest, hsound'⟩ := ih hapart' hlast
    have hplace (path : String) : left.place path = tree.place path := place_congr htree.workDir
    refine ⟨congrArg _ hgroups, ?_, hsound' ∘ hsound⟩
    refine (htree.mono ?_ ?_).trans (hrest.mono ?_ ?_)
    · exact fun loc hloc => ⟨_, List.mem_cons_self, hloc⟩
    · exact fun loc hloc => ⟨_, List.mem_cons_self, hloc⟩
    · rintro loc ⟨other, hother, hloc⟩
      rw [hplace] at hloc
      exact ⟨other, List.mem_cons_of_mem _ hother, hloc⟩
    · rintro loc ⟨other, hother, hloc⟩
      rw [hplace] at hloc
      exact ⟨other, List.mem_cons_of_mem _ hother, hloc⟩

/-! ## What groups leave to another -/

/-- A group finds its file and the directories that lead to it, and at most more of these. The sibling of
its file is as it was unless it is above the file of one of the groups. -/
structure Spares (tree : Tree) (groups : List FileGroup) (group : FileGroup) (after : Tree) : Prop where
  grown : Grown (· <+: tree.place group.path) tree after
  file : after.get? (tree.place group.path) = tree.get? (tree.place group.path)
  sibling : ∀ loc ∈ siblingPlace? tree group.path, (∀ other ∈ groups, ¬loc <+: tree.place other.path) →
    after.get? loc = tree.get? loc

theorem Spares.mono {some : List FileGroup} (h : Spares tree some group after) (hsome : some ⊆ groups) :
    Spares tree groups group after where
  grown := h.grown
  file := h.file
  sibling loc hloc hbelow := h.sibling loc hloc fun other hother => hbelow other (hsome hother)

theorem runGroups_spares (hformatter : cat.config.formatter = none) (hapart : Apart tree groups)
    (hplaces : ∀ other ∈ groups, ¬tree.place group.path <+: tree.place other.path ∧
      ¬tree.place other.path <+: tree.place group.path)
    (h : cat.runGroups tree groups launch = (after, runs)) : Spares tree groups group after := by
  obtain ⟨hruns, hchanged, -⟩ := runGroups_changes hformatter hapart h
  have hmember : ∀ run ∈ runs, run.group ∈ groups := fun run hrun =>
    hruns ▸ List.mem_map_of_mem hrun
  -- What is on the way to the file of the group is no file of the others, as none of these is above it.
  have hnear : ∀ loc, loc <+: tree.place group.path → ¬HasWritten tree runs loc := by
    rintro _ hloc ⟨run, hrun, rfl, -⟩
    exact (hplaces run.group (hmember run hrun)).2 hloc
  have habove : ¬Above tree groups (tree.place group.path) := by
    rintro ⟨other, hother, hloc, -⟩
    exact (hplaces other hother).1 hloc
  refine ⟨hchanged.grown hnear, hchanged.get?_eq habove (hnear _ (List.prefix_refl _)), ?_⟩
  intro loc _ hbelow
  refine hchanged.get?_eq ?_ ?_
  · rintro ⟨other, hother, hloc, -⟩
    exact hbelow other hother hloc
  · rintro ⟨run, hrun, rfl, -⟩
    exact hbelow run.group (hmember run hrun) (List.prefix_refl _)

/-- The file of a group after a run: its own text, or what it was. -/
theorem runGroups_each (hformatter : cat.config.formatter = none) (hapart : Apart tree groups)
    (h : cat.runGroups tree groups launch = (after, runs)) (hrun : run ∈ runs) :
    ∃ found, Spares tree groups run.group found ∧ (tree.Sound → found.Sound) ∧
      (cat.runGroup found run.group launch).2 = run ∧ run.formatterFailure = none ∧
      after.get? (tree.place run.group.path) =
        (run.written?.map fun text => .file text.toUTF8).or (tree.get? (tree.place run.group.path)) := by
  obtain ⟨before, rest, rfl⟩ := List.append_of_mem hrun
  obtain ⟨found, left, first, group, last, rfl, hfirst, hgroup, hlast⟩ := runGroups_split h
  have hfirst' := hapart.sublist (List.sublist_append_left first (group :: last))
  have hplaces := List.forall_mem_append.mp (List.pairwise_cons.mp
    ((List.pairwise_middle fun hgroups => ⟨hgroups.2, hgroups.1⟩).mp hapart.places)).1
  have hspares := runGroups_spares hformatter hfirst' hplaces.1 hfirst
  obtain ⟨hruns, hchanged, hsound⟩ := runGroups_changes hformatter hfirst' hfirst
  have hfound : Apart found (first ++ group :: last) := hapart.of_extends hchanged <| by
    rintro loc ⟨other, hother, rfl, -⟩
    exact ⟨other.group, List.mem_append_left _ (hruns ▸ List.mem_map_of_mem hother), rfl⟩
  have hmember : group ∈ first ++ group :: last := by simp
  have hown := runGroup_changes hformatter (hfound.level group hmember)
    (fun loc hloc => hfound.not_file hmember hloc) launch
  rw [hgroup] at hown
  have hleft : Apart left (first ++ group :: last) :=
    hfound.of_extends hown.extends_tree fun loc hloc => ⟨group, hmember, hloc.1⟩
  have hplaceFound (path : String) : found.place path = tree.place path :=
    place_congr hchanged.workDir
  have hplace (path : String) : left.place path = tree.place path :=
    (place_congr hown.extends_tree.workDir).trans (hplaceFound path)
  have hspares' : Spares left last group after := runGroups_spares hformatter
    ((hleft.sublist (List.sublist_append_right _ _)).sublist (List.sublist_cons_self _ _))
    (by simpa only [hplace] using hplaces.2) hlast
  obtain rfl : run.group = group := by
    simpa only [hgroup] using (cat.runGroup_run found group launch).1
  have hfile := hspares'.file
  have hfile' := hown.file
  rw [hplace] at hfile
  rw [hplaceFound, hspares.file] at hfile'
  exact ⟨found, hspares.mono (List.subset_append_left _ _), hsound, by rw [hgroup], hown.unformatted,
    hfile.trans hfile'⟩

/-! ## A group after others -/

theorem changes_of_mergeGroup {tables : List Table} {merge : GroupMerge}
    (h : cat.mergeGroup "" tables = .ok merge) (hne : tables ≠ []) : merge.changes := by
  have hink := not_isAllWhite_of_mergeGroup h hne
  obtain ⟨merges, -, rfl⟩ := exists_of_mergeGroup h
  rw [GroupMerge.changes, bne_iff_ne]
  intro hempty
  rw [hempty] at hink
  exact hink rfl

/-- What comes of a group is the same after others, or it fails then too, by a name that is too long. -/
theorem Spares.result_eq (h : Spares tree groups group found) (cat : Catalog)
    (launch : Command.Launcher) (hsound : tree.Sound) (hsound' : found.Sound)
    (hlevel : Storage.Level group.path) (htables : group.tables ≠ [])
    (hsibling : ∀ loc ∈ siblingPlace? tree group.path, found.get? loc = tree.get? loc) :
    (cat.runGroup found group launch).2.result = (cat.runGroup tree group launch).2.result ∨
      ((∃ step ∈ stepsOf group.path.toList, TooLong step) ∧
        (∃ e, (cat.runGroup tree group launch).2.result = .error e) ∧
        (cat.runGroup found group launch).2.result = .error (.io .nameTooLong)) := by
  have hcovers : Covers (· <+: tree.place group.path) tree group.path := by
    rintro loc ⟨front, hfront, rfl⟩
    rw [place_eq_foldl]
    exact foldl_next_prefix hlevel hfront _
  have hwrite := h.grown.writeAtomic hsound hsound' hcovers hlevel h.file hsibling
  -- reading can differ by a name that is too long, and if it does the write fails alone by the same name
  simp only [(cat.runGroup_run _ group launch).2]
  rcases h.grown.readExisting hsound hcovers hlevel h.file with
    hread | ⟨hread, hread', route, hroute, hwalk⟩
  · left
    simp only [hread, hwrite]
  · have hlong := exists_tooLong_of_walk hwalk
    rw [(route_ok hroute).2] at hlong
    rw [hread, hread']
    dsimp only
    cases hmerge : cat.mergeGroup "" group.tables with
    | error e => exact .inr ⟨hlong, ⟨e, rfl⟩, rfl⟩
    | ok merge =>
      have hrefused := writeAtomic_nameTooLong hsound' hlevel hroute hwalk merge.text.toUTF8
      rw [hwrite] at hrefused
      left
      dsimp only
      rw [if_pos (changes_of_mergeGroup hmerge htables), hrefused]

theorem run_alone {select : Table → Bool} (hcheck : cat.check = .ok ())
    (hgroup : group ∈ cat.fileGroups (cat.tables.filter select)) :
    cat.run tree (· ∈ group.tables) launch =
      .ok ((cat.runGroup tree group launch).1, [(cat.runGroup tree group launch).2]) := by
  have hfilter : cat.tables.filter (· ∈ group.tables) =
      (cat.tables.filter select).filter (· ∈ group.tables) := by
    rw [List.filter_filter]
    refine List.filter_congr fun table _ => ?_
    by_cases htable : table ∈ group.tables
    · have hselected := ((mem_group_iff hgroup table).mp htable).1
      simp [htable, (List.mem_filter.mp hselected).2]
    · simp [htable]
  rw [run, hcheck, hfilter, fileGroups_tables hgroup]
  rfl

/-- Each group of a run comes to what it comes to alone, if the sibling of its file is not above the file
of another group: what is in its file, its warnings and its outcomes are the same, and so are its errors,
except that a name which is too long may be reported in place of another error. A group that fails leaves
its file as it was, and no file changes but those of the groups that write. -/
theorem run_isolates {select : Table → Bool} (hformatter : cat.config.formatter = none)
    (hcheck : cat.check = .ok ()) (hsound : tree.Sound)
    (hapart : Apart tree (cat.fileGroups (cat.tables.filter select)))
    (launch : Command.Launcher) :
    ∃ after runs, cat.run tree select launch = .ok (after, runs) ∧
      runs.map (·.group) = cat.fileGroups (cat.tables.filter select) ∧
      (∀ run ∈ runs,
        (∀ loc ∈ siblingPlace? tree run.group.path, ∀ other ∈ runs,
          ¬loc <+: tree.place other.group.path) →
        ∃ aloneAfter alone,
          cat.run tree (· ∈ run.group.tables) launch = .ok (aloneAfter, [alone]) ∧
          after.get? (tree.place run.group.path) = aloneAfter.get? (tree.place run.group.path) ∧
          run.warnings = alone.warnings ∧
          run.entries.map (·.outcome) = alone.entries.map (·.outcome) ∧
          (run.entries = alone.entries ∨
            (∃ step ∈ stepsOf run.group.path.toList, TooLong step) ∧
              (∃ e, alone.result = .error e) ∧ run.result = .error (.io .nameTooLong))) ∧
      (∀ run ∈ runs, (∃ e, run.result = .error e) →
        after.get? (tree.place run.group.path) = tree.get? (tree.place run.group.path)) ∧
      ∀ loc, (∀ run ∈ runs, loc = tree.place run.group.path → run.written? = none) →
        ∀ content, after.get? loc = some (.file content) ↔ tree.get? loc = some (.file content) := by
  rcases hall : cat.runGroups tree (cat.fileGroups (cat.tables.filter select)) launch with ⟨after, runs⟩
  obtain ⟨hgroups, hchanged, -⟩ := runGroups_changes hformatter hapart hall
  refine ⟨after, runs, by simp only [run, hcheck, hall], hgroups, ?_, ?_, ?_⟩
  · intro run hrun hbelow
    have hgroup : run.group ∈ cat.fileGroups (cat.tables.filter select) :=
      hgroups ▸ List.mem_map_of_mem hrun
    have hlevel := hapart.level _ hgroup
    have htables : run.group.tables ≠ [] :=
      (of_foldl_insert (fun _ htable => htable) (by simp) run.group hgroup).nonempty
    obtain ⟨found, hspares, hfound, hran, hfailure, hfile⟩ := runGroups_each hformatter hapart hall hrun
    have hsibling : ∀ loc ∈ siblingPlace? tree run.group.path, found.get? loc = tree.get? loc := by
      intro loc hloc
      refine hspares.sibling loc hloc fun other hother => ?_
      rw [← hgroups] at hother
      obtain ⟨third, hthird, rfl⟩ := List.mem_map.mp hother
      exact hbelow loc hloc third hthird
    have hown := runGroup_changes hformatter hlevel
      (fun loc hloc => hapart.not_file hgroup hloc) launch
    have hresult := hspares.result_eq cat launch hsound (hfound hsound) hlevel htables hsibling
    rw [hran] at hresult
    have hgroup' := (cat.runGroup_run tree run.group launch).1.symm
    obtain ⟨hwritten, hwarnings, houtcomes⟩ := GroupRun.alike_of_result hgroup'
      (hfailure.trans hown.unformatted.symm) (hresult.imp_right fun hlong => ⟨hlong.2.1, _, hlong.2.2⟩)
    refine ⟨_, _, run_alone hcheck hgroup, ?_, hwarnings, houtcomes,
      hresult.imp_left (GroupRun.entries_of_result hgroup')⟩
    rw [hfile, hown.file, hwritten]
  · rintro run hrun ⟨e, hfailed⟩
    obtain ⟨-, -, -, -, -, hfile⟩ := runGroups_each hformatter hapart hall hrun
    simp [hfile, GroupRun.written?, hfailed]
  · intro loc hunwritten content
    refine hchanged.get?_file_iff ?_ content
    rintro ⟨run, hrun, hloc, hchanges⟩
    exact hchanges (hunwritten run hrun hloc)

/-! ## A run with both exceptions -/

/-- A table whose file is in a directory that is named like the sibling of another file. -/
def nestedTable : Table := { name := "a" }

/-- The table of the other file. -/
def plainTable : Table := { name := "b" }

/-- A table with a reference to a table that is not loaded, and a file with a name that is too long. -/
def longTable : Table where
  name := "c"
  columns := [{ name := "user", foreignKey := true, target := { table := "users", column := "id" } }]

def longName : String :=
  String.ofList (List.replicate 256 'c')

def longPath : String :=
  ".b.go.tmp/" ++ longName

def nestedCatalog : Catalog where
  config :=
    { packageName := "p"
      policy := .strict
      tables :=
        [(".a", { path := some ".b.go.tmp/a.go" }),
          (".c", { path := some longPath, includeReferenced := ["*"] })] }
  tables := [nestedTable, plainTable, longTable]

def nestedGroups : List FileGroup :=
  [⟨".b.go.tmp/a.go", [nestedTable]⟩, ⟨"b.go", [plainTable]⟩, ⟨longPath, [longTable]⟩]

/-- The long name is a list of characters for what follows: it takes too long to decode. -/
theorem toList_longPath : longPath.toList = ".b.go.tmp/".toList ++ List.replicate 256 'c' :=
  String.toList_append.trans (congrArg _ String.toList_ofList)

theorem ofString_longPath : Path.ofString longPath = ⟨.plain, [".b.go.tmp", longName]⟩ := by
  rw [Path.ofString, toList_longPath]
  decide +kernel

theorem stepsOf_longPath : stepsOf longPath.toList = [".b.go.tmp", longName] := by
  rw [toList_longPath]
  decide +kernel

theorem fileGroups_nested :
    nestedCatalog.fileGroups (nestedCatalog.tables.filter fun _ => true) = nestedGroups := by
  have htables : nestedCatalog.tables.filter (fun _ => true) = [nestedTable, plainTable, longTable] :=
    rfl
  have hnested : (nestedCatalog.options nestedTable).path = ".b.go.tmp/a.go" := by decide +kernel
  have hplain : (nestedCatalog.options plainTable).path = "b.go" := by decide +kernel
  have hlong : (nestedCatalog.options longTable).path = longPath := rfl
  have hfirst : samePath ".b.go.tmp/a.go" "b.go" = false := by decide +kernel
  have hothers : samePath ".b.go.tmp/a.go" longPath = false ∧ samePath "b.go" longPath = false := by
    rw [samePath, samePath, ofString_longPath]
    decide +kernel
  rw [htables]
  simp [fileGroups, FileGroup.insert, nestedGroups, hnested, hplain, hlong, hfirst, hothers]

theorem places_nested : Tree.fresh.place ".b.go.tmp/a.go" = ["work", ".b.go.tmp", "a.go"] ∧
    Tree.fresh.place "b.go" = ["work", "b.go"] ∧
    Tree.fresh.place longPath = ["work", ".b.go.tmp", longName] := by
  refine ⟨by decide +kernel, by decide +kernel, ?_⟩
  rw [place_eq_foldl, stepsOf_longPath, originOf, toList_longPath]
  decide +kernel

theorem siblings_nested :
    siblingPlace? .fresh ".b.go.tmp/a.go" = some ["work", ".b.go.tmp", ".a.go.tmp"] ∧
    siblingPlace? .fresh "b.go" = some ["work", ".b.go.tmp"] ∧
    siblingPlace? .fresh longPath = some ["work", ".b.go.tmp", siblingName longName] := by
  have hparent : (Path.ofString longPath).parent? = some ⟨.plain, [".b.go.tmp"]⟩ := by
    rw [ofString_longPath]
    decide +kernel
  have hname : (Path.ofString longPath).name? = some longName := by
    rw [ofString_longPath]
    decide +kernel
  have hdir : Tree.fresh.place (Path.toString ⟨.plain, [".b.go.tmp"]⟩) = ["work", ".b.go.tmp"] := by
    decide +kernel
  refine ⟨by decide +kernel, by decide +kernel, ?_⟩
  rw [siblingPlace?, hname, Option.map_some,
    place_temporaryPath (spelled_ofString longPath) hparent hname, hdir]
  rfl

theorem apart_nested : Apart .fresh nestedGroups := by
  have hlevel : Storage.Level ".b.go.tmp/a.go" ∧ Storage.Level "b.go" := by
    decide +kernel
  have hlevel' : Storage.Level longPath := by
    rw [Storage.Level, stepsOf_longPath]
    decide +kernel
  simp only [apart_iff, nestedGroups, List.forall_mem_cons, List.pairwise_cons, List.Pairwise.nil,
    List.not_mem_nil, false_implies, implies_true, places_nested, siblings_nested, hlevel, hlevel',
    Option.mem_def, Option.some.injEq, forall_eq', and_true, true_and]
  decide +kernel

/-- The first of three files is as it would be without the others. -/
theorem run_isolates_nested :
    nestedCatalog.config.formatter = none ∧ nestedCatalog.check = .ok () ∧ Tree.fresh.Sound ∧
    Apart .fresh (nestedCatalog.fileGroups (nestedCatalog.tables.filter fun _ => true)) ∧
    ∃ after first rest, nestedCatalog.run .fresh (fun _ => true) = .ok (after, first :: rest) ∧
      first.group = ⟨".b.go.tmp/a.go", [nestedTable]⟩ ∧
      ∃ aloneAfter alone,
        nestedCatalog.run .fresh (· ∈ first.group.tables) = .ok (aloneAfter, [alone]) ∧
        after.get? ["work", ".b.go.tmp", "a.go"] = aloneAfter.get? ["work", ".b.go.tmp", "a.go"] ∧
        first.entries = alone.entries := by
  have hcheck : nestedCatalog.check = .ok () := rfl
  have hapart : Apart .fresh (nestedCatalog.fileGroups (nestedCatalog.tables.filter fun _ => true)) :=
    fileGroups_nested ▸ apart_nested
  obtain ⟨after, runs, hrun, hgroups, halike, -, -⟩ := 
    run_isolates rfl hcheck sound_fresh hapart Shell.launch
  rw [fileGroups_nested] at hgroups
  obtain ⟨first, rest, rfl, hfirst, hrest⟩ := List.map_eq_cons_iff.mp hgroups
  have hbelow : ∀ group ∈ nestedGroups,
      ¬["work", ".b.go.tmp", ".a.go.tmp"] <+: Tree.fresh.place group.path := by
    simp only [nestedGroups, List.forall_mem_cons, places_nested, List.not_mem_nil, false_implies,
      implies_true, and_true]
    decide +kernel
  obtain ⟨aloneAfter, alone, halone, hfile, -, -, hentries⟩ := halike first List.mem_cons_self <| by
    intro loc hloc other hother
    rw [hfirst, siblings_nested.1] at hloc
    rw [← Option.some.inj hloc]
    exact hbelow other.group (hgroups ▸ List.mem_map_of_mem hother)
  rw [hfirst, places_nested.1] at hfile
  refine ⟨rfl, hcheck, sound_fresh, hapart, after, first, rest, hrun, hfirst, aloneAfter, alone, halone,
    hfile, hentries.resolve_right ?_⟩
  rintro ⟨⟨step, hstep, hlong⟩, -⟩
  have hshort : ∀ step ∈ stepsOf ".b.go.tmp/a.go".toList, ¬TooLong step := by decide +kernel
  rw [hfirst] at hstep
  exact hshort step hstep hlong

theorem locate_longPath {tree : Tree} (hworkDir : tree.workDir = ["work"]) :
    tree.locate longPath = tree.walk ["work"] [".b.go.tmp", longName] := by
  have hzero : (".b.go.tmp/".toList ++ List.replicate 256 'c').contains '\x00' = false := by
    decide +kernel
  have hends : (".b.go.tmp/".toList ++ List.replicate 256 'c').head? ≠ some '/' ∧
      (".b.go.tmp/".toList ++ List.replicate 256 'c').getLast? ≠ some '/' := by
    decide +kernel
  have hsize : longPath.isEmpty = false ∧ ¬pathLimit ≤ longPath.utf8ByteSize := by
    decide +kernel
  have hsteps := stepsOf_longPath
  rw [toList_longPath] at hsteps
  have hroute : tree.route longPath = .ok ⟨["work"], [".b.go.tmp", longName], false⟩ := by
    rw [Tree.route, toList_longPath, hzero, if_neg (by simp), if_neg (by simp [hsize.1]), if_neg hsize.2,
      if_neg hends.1, hworkDir, decide_eq_false hends.2]
    exact congrArg (fun steps => Except.ok (Route.mk ["work"] steps false)) hsteps
  rw [Tree.locate, hroute]
  dsimp only
  cases tree.walk ["work"] [".b.go.tmp", longName] <;> rfl

/-- What the first two groups leave. -/
def nestedTree : Tree :=
  (nestedCatalog.runGroups .fresh
    [⟨".b.go.tmp/a.go", [nestedTable]⟩, ⟨"b.go", [plainTable]⟩] Shell.launch).1

theorem runGroup_longPath :
    nestedCatalog.runGroup nestedTree ⟨longPath, [longTable]⟩ Shell.launch =
        (nestedTree, ⟨⟨longPath, [longTable]⟩, none, .error (.io .nameTooLong), none⟩) ∧
      nestedCatalog.runGroup .fresh ⟨longPath, [longTable]⟩ Shell.launch =
        (.fresh, ⟨⟨longPath, [longTable]⟩, some "",
          .error (.missingTarget ⟨"c", "user", ".users"⟩), none⟩) := by
  have hnested : nestedTree.workDir = ["work"] ∧
      nestedTree.walk ["work"] [".b.go.tmp", longName] = .error .nameTooLong := by
    decide +kernel
  have hfresh : Tree.fresh.walk ["work"] [".b.go.tmp", longName] = .error .notFound := by
    decide +kernel
  have hmerge : nestedCatalog.mergeGroup "" [longTable] =
      .error (.missingTarget ⟨"c", "user", ".users"⟩) := by
    decide +kernel
  constructor
  · exact runGroup_unread
      (readExisting_of_error ((locate_longPath hnested.1).trans hnested.2) (by simp))
  · have hworkDir : Tree.fresh.workDir = ["work"] := rfl
    exact runGroup_unmerged (readExisting_of_notFound ((locate_longPath hworkDir).trans hfresh)) hmerge

/-- A directory that is made for the first group stands in the way of the second, and the third fails in
it by its name and not by its reference. -/
theorem run_not_isolated :
    nestedCatalog.config.formatter = none ∧ nestedCatalog.check = .ok () ∧ Tree.fresh.Sound ∧
    Apart .fresh (nestedCatalog.fileGroups (nestedCatalog.tables.filter fun _ => true)) ∧
    ∃ after first second third,
      nestedCatalog.run .fresh (fun _ => true) = .ok (after, [first, second, third]) ∧
      (∃ aloneAfter alone,
        nestedCatalog.run .fresh (· ∈ second.group.tables) = .ok (aloneAfter, [alone]) ∧
        after.get? ["work", "b.go"] = none ∧ aloneAfter.get? ["work", "b.go"] ≠ none ∧
        second.entries.map (·.error) = [some "io error: Is a directory (os error 21)"] ∧
        alone.entries.map (·.error) = [none]) ∧
      ∃ aloneAfter alone,
        nestedCatalog.run .fresh (· ∈ third.group.tables) = .ok (aloneAfter, [alone]) ∧
        third.entries.map (·.error) = [some "io error: File name too long (os error 36)"] ∧
        alone.entries.map (·.error) =
          [some "column c.user references .users, which is not part of the loaded tables"] := by
  have hcheck : nestedCatalog.check = .ok () := rfl
  have halone : ∀ group ∈ nestedGroups, nestedCatalog.run .fresh (· ∈ group.tables) =
      .ok ((nestedCatalog.runGroup .fresh group Shell.launch).1,
        [(nestedCatalog.runGroup .fresh group Shell.launch).2]) :=
    fun group hgroup => run_alone hcheck (fileGroups_nested ▸ hgroup)
  have hplain := halone ⟨"b.go", [plainTable]⟩ (by simp [nestedGroups])
  have hlong := halone ⟨longPath, [longTable]⟩ (by simp [nestedGroups])
  have hrun : nestedCatalog.run .fresh (fun _ => true) =
      .ok (nestedCatalog.runGroups .fresh nestedGroups Shell.launch) := by
    rw [run, hcheck, fileGroups_nested]
  rw [runGroup_longPath.2] at hlong
  have hsplit : nestedGroups = [⟨".b.go.tmp/a.go", [nestedTable]⟩, ⟨"b.go", [plainTable]⟩] ++
      [⟨longPath, [longTable]⟩] := rfl
  rw [hsplit, runGroups_append, ← nestedTree, runGroups_cons _ nestedTree, runGroup_longPath.1] at hrun
  refine ⟨rfl, hcheck, sound_fresh, fileGroups_nested ▸ apart_nested, _, _, _, _, hrun, ⟨_, _, hplain, ?_⟩,
    _, _, hlong, rfl, rfl⟩
  decide +kernel

end Catalog

end RowTypes
