import Mathlib.Algebra.GroupWithZero.Nat
import Mathlib.Data.List.Pairwise
import RowTypes.Proofs.Packages
import RowTypes.Proofs.Run.Isolation
import RowTypes.Proofs.Run.Policies
import RowTypes.Proofs.Schema.Consistency

/-!
What a report says of a run. A report is filled group by group, and each group adds the entries of its
tables, all alike in whether they failed, and notes about them only if they did not fail. The counts of
the warnings are kept beside the warnings and always agree with them.

What is proved:
  1. `Tally.record`: one more warning is counted under its code.
  2. `follows_record`, `follows_ofRuns`: what a group adds to a report, and what all groups make of it.
  3. `runGroups_complete`: every group of a run is reported with exactly its tables.
  4. `run_accounts`: what the report of a run says of the tables that were selected.
-/

namespace RowTypes

open Storage FileGroup

/-! ## Counts of warnings -/

/-- How many of the issues have a code. -/
def countOf (code : String) (issues : List Issue) : Nat :=
  issues.countP fun issue => issue.code.name == code

/-- The counts of some issues: in the order of the codes, and without those that do not come up. -/
structure Tally (counts : List (String × Nat)) (issues : List Issue) : Prop where
  ascending : (counts.map (·.1)).Pairwise (· < ·)
  lookup : ∀ code, counts.lookup code =
    if countOf code issues = 0 then none else some (countOf code issues)

namespace Report

variable {counts : List (String × Nat)} {code other : String}

/-- The codes that are counted are a set, into which a code is put when it comes up. -/
theorem map_countCode (code : String) (counts : List (String × Nat)) :
    (countCode code counts).map (·.1) = Packages.insert code (counts.map (·.1)) := by
  induction counts with
  | nil => rfl
  | cons head rest ih =>
    obtain ⟨name, n⟩ := head
    unfold countCode
    rw [List.map_cons, Packages.insert]
    split
    · rfl
    · split
      · rfl
      · rw [List.map_cons, ih]

theorem ascending_countCode (h : (counts.map (·.1)).Pairwise (· < ·)) (code : String) :
    ((countCode code counts).map (·.1)).Pairwise (· < ·) := by
  rw [map_countCode]
  exact Packages.Sorted.insert h code

theorem lookup_cons_of_ne {name : String} {n : Nat} (h : other ≠ name) :
    ((name, n) :: counts).lookup other = counts.lookup other := by
  rw [List.lookup_cons, beq_false_of_ne h]

theorem lookup_of_lt {name : String} {n : Nat}
    (h : (((name, n) :: counts).map (·.1)).Pairwise (· < ·)) (hlt : code < name) :
    ((name, n) :: counts).lookup code = none := by
  obtain ⟨hhead, -⟩ := List.pairwise_cons.mp h
  refine List.lookup_eq_none_iff.mpr fun entry hentry => bne_iff_ne.mpr fun heq => ?_
  rcases List.mem_cons.mp hentry with rfl | hmem
  · exact String.lt_irrefl _ (heq ▸ hlt)
  · have hbehind := hhead _ (List.mem_map_of_mem hmem)
    exact String.lt_irrefl _ (heq ▸ String.lt_trans hlt hbehind)

theorem lookup_countCode (h : (counts.map (·.1)).Pairwise (· < ·)) :
    (countCode code counts).lookup other =
      if other = code then some ((counts.lookup code).getD 0 + 1) else counts.lookup other := by
  induction counts with
  | nil =>
    by_cases hother : other = code
    · rw [if_pos hother, hother, countCode, List.lookup_cons_self]
      rfl
    · rw [if_neg hother, countCode, lookup_cons_of_ne hother]
  | cons head rest ih =>
    obtain ⟨name, n⟩ := head
    unfold countCode
    split
    · next heq =>
      subst heq
      by_cases hother : other = code
      · simp [hother]
      · rw [if_neg hother, lookup_cons_of_ne hother, lookup_cons_of_ne hother]
    · next hne =>
      split
      · next hlt =>
        by_cases hother : other = code
        · subst hother
          rw [if_pos rfl, lookup_of_lt h hlt, List.lookup_cons_self]
          rfl
        · rw [if_neg hother, lookup_cons_of_ne hother]
      · rw [lookup_cons_of_ne hne]
        by_cases hname : other = name
        · subst hname
          rw [if_neg fun heq => hne heq.symm, List.lookup_cons_self, List.lookup_cons_self]
        · rw [lookup_cons_of_ne hname, lookup_cons_of_ne hname, ih (List.pairwise_cons.mp h).2]

end Report

theorem countOf_concat (code : String) (issues : List Issue) (issue : Issue) :
    countOf code (issues ++ [issue]) =
      countOf code issues + if issue.code.name = code then 1 else 0 := by
  simp [countOf, List.countP_append, List.countP_singleton]

theorem Tally.nil : Tally [] [] :=
  ⟨.nil, fun _ => rfl⟩

/-- One more issue is counted under its code. -/
theorem Tally.record {counts : List (String × Nat)} {issues : List Issue} (h : Tally counts issues)
    (issue : Issue) : Tally (Report.countCode issue.code.name counts) (issues ++ [issue]) where
  ascending := Report.ascending_countCode h.ascending _
  lookup := by
    intro code
    rw [Report.lookup_countCode h.ascending, h.lookup, h.lookup, countOf_concat]
    by_cases hcode : issue.code.name = code
    · rw [if_pos hcode.symm, if_pos hcode, hcode]
      by_cases hnone : countOf code issues = 0
      · simp [hnone]
      · simp [hnone]
    · rw [if_neg (Ne.symm hcode), if_neg hcode, Nat.add_zero]

/-! ## Reports that go on -/

namespace Report

/-- The report `after` is `report` with more entries and warnings, and still counts the warnings. -/
structure Follows (report after : Report) (entries : List TableReport) (noted : List Issue) :
    Prop where
  tables : after.tables = report.tables ++ entries
  warnings : after.warnings = report.warnings ++ noted
  tally : Tally report.warningsByCode report.warnings → Tally after.warningsByCode after.warnings

variable {report middle after : Report} {entries moreEntries : List TableReport}
  {noted moreNoted : List Issue}

theorem Follows.refl (report : Report) : Follows report report [] [] :=
  ⟨by simp, by simp, id⟩

theorem Follows.trans (h : Follows report middle entries noted)
    (hafter : Follows middle after moreEntries moreNoted) :
    Follows report after (entries ++ moreEntries) (noted ++ moreNoted) where
  tables := by rw [hafter.tables, h.tables, List.append_assoc]
  warnings := by rw [hafter.warnings, h.warnings, List.append_assoc]
  tally := hafter.tally ∘ h.tally

theorem follows_recordTable (report : Report) (entry : TableReport) :
    Follows report (report.recordTable entry) [entry] [] :=
  ⟨rfl, (List.append_nil _).symm, id⟩

theorem follows_recordWarning (report : Report) (issue : Issue) :
    Follows report (report.recordWarning issue) [] [issue] :=
  ⟨(List.append_nil _).symm, rfl, fun h => h.record issue⟩

theorem Follows.foldl {α : Type} {step : Report → α → Report} (adds : α → List TableReport)
    (notes : α → List Issue) (h : ∀ report a, Follows report (step report a) (adds a) (notes a))
    (l : List α) (report : Report) :
    Follows report (l.foldl step report) (l.flatMap adds) (l.flatMap notes) := by
  induction l generalizing report with
  | nil => exact .refl report
  | cons a l ih => exact (h report a).trans (ih _)

/-- The group of a run adds its entries and its warnings. -/
theorem follows_record (report : Report) (run : GroupRun) :
    Follows report (run.record report) run.entries run.warnings := by
  have hwarnings := Follows.foldl (fun _ => []) (fun issue => [issue]) follows_recordWarning
    run.warnings report
  have htables := Follows.foldl (fun entry => [entry]) (fun _ => []) follows_recordTable
    run.entries (run.warnings.foldl recordWarning report)
  have hnone {α β : Type} (l : List α) : l.flatMap (fun _ => ([] : List β)) = [] :=
    List.flatMap_eq_nil_iff.mpr fun _ _ => rfl
  have hboth := hwarnings.trans htables
  rw [hnone, hnone, List.flatMap_singleton', List.flatMap_singleton', List.nil_append,
    List.append_nil] at hboth
  exact hboth

/-- A report has the entries and the warnings of the groups, one group after the other. -/
theorem follows_ofRuns (stamp : RunStamp) (runs : List GroupRun) :
    Follows { stamp } (ofRuns stamp runs) (runs.flatMap (·.entries)) (runs.flatMap (·.warnings)) :=
  Follows.foldl _ _ follows_record runs { stamp }

end Report

/-! ## Issues about a table -/

/-- The issue is about the table. -/
def Issue.About (issue : Issue) (table : Table) : Prop :=
  issue.schema = table.schema ∧ issue.table = table.name

namespace Catalog

variable {cat : Catalog} {table : Table} {tables : List Table}

theorem about_of_fieldType {column : Column} {type : FieldType} {issues : List Issue}
    (h : cat.fieldType table column = .ok (type, issues)) : ∀ issue ∈ issues, issue.About table := by
  unfold fieldType at h
  dsimp only at h
  split at h
  · split at h
    · cases h
      simp
    · split at h
      · simp at h
      · cases h
        intro issue hissue
        rw [List.mem_singleton.mp hissue]
        exact ⟨rfl, rfl⟩
  · cases h
    simp

theorem about_of_render {block : Block} (h : cat.render table = .ok block) :
    ∀ issue ∈ block.issues, issue.About table := by
  unfold render at h
  split at h
  · simp at h
  · next fields hfields =>
    intro issue hissue
    rw [← Except.ok.inj h, issues_blockOf] at hissue
    rcases List.mem_append.mp hissue with htype | hfield
    · obtain ⟨⟨column, type, issues⟩, hmem, hissues⟩ := List.mem_flatMap.mp htype
      exact about_of_fieldType ((fieldTypes_ok hfields).2 _ hmem) issue hissues
    · obtain ⟨field, -, rfl⟩ := List.mem_map.mp hfield
      exact ⟨rfl, rfl⟩

/-! ## Groups that are reported -/

/-- A group that succeeds merged exactly its tables, in their order. -/
def Complete (cat : Catalog) (run : GroupRun) : Prop :=
  ∀ merge, run.result = .ok merge → merge.merges.map (·.table) = run.group.tables ∧
    ∀ only ∈ merge.merges, only.outcome ≠ .failed ∧ cat.render only.table = .ok only.block

theorem outcome_ne_failed {owners : List (String × String)} {text : String} {merge : TableMerge}
    (h : cat.mergeTable owners text table = .ok merge) : merge.outcome ≠ .failed := by
  unfold mergeTable at h
  split at h
  · simp at h
  · split at h
    · simp at h
    · split at h
      · simp at h
      · next merged hmerged =>
        cases h
        dsimp only
        split
        · decide
        · cases merged.outcome <;> decide

theorem mergeTables_complete {owners : List (String × String)} {text : String}
    {merges : List TableMerge} (h : cat.mergeTables owners text tables = .ok merges) :
    merges.map (·.table) = tables ∧
      ∀ only ∈ merges, only.outcome ≠ .failed ∧ cat.render only.table = .ok only.block := by
  induction tables generalizing owners text merges with
  | nil =>
    cases h
    simp
  | cons table tables ih =>
    obtain ⟨first, rest, rfl, hfirst, hrest⟩ := exists_of_mergeTables_cons h
    obtain ⟨htable, -, hinto⟩ := mergeTable_ok hfirst
    obtain ⟨htables, hall⟩ := ih hrest
    refine ⟨by rw [List.map_cons, htable, htables], ?_⟩
    exact List.forall_mem_cons.mpr ⟨⟨outcome_ne_failed hfirst, hinto.rendered⟩, hall⟩

theorem runGroup_complete (cat : Catalog) (tree : Tree) (group : FileGroup)
    (launch : Command.Launcher) : (cat.runGroup tree group launch).2.group = group ∧
      cat.Complete (cat.runGroup tree group launch).2 := by
  obtain ⟨hgroup, hresult⟩ := cat.runGroup_run tree group launch
  refine ⟨hgroup, fun merge hmerge => ?_⟩
  rw [hresult] at hmerge
  rw [hgroup]
  split at hmerge
  · simp at hmerge
  · split at hmerge
    · simp at hmerge
    · next merged hmerged =>
      obtain ⟨merges, hmerges, rfl⟩ := exists_of_mergeGroup hmerged
      have hcomplete := mergeTables_complete hmerges
      split at hmerge
      · split at hmerge
        · simp at hmerge
        · cases hmerge
          exact hcomplete
      · cases hmerge
        exact hcomplete

/-- Each group of a run is reported, in the order of the groups. -/
theorem runGroups_complete (cat : Catalog) (tree : Tree) (groups : List FileGroup)
    (launch : Command.Launcher) :
    (cat.runGroups tree groups launch).2.map (·.group) = groups ∧
      ∀ run ∈ (cat.runGroups tree groups launch).2, cat.Complete run := by
  induction groups generalizing tree with
  | nil => exact ⟨rfl, fun _ hrun => absurd hrun List.not_mem_nil⟩
  | cons group groups ih =>
    obtain ⟨hgroup, hcomplete⟩ := cat.runGroup_complete tree group launch
    obtain ⟨hgroups, hall⟩ := ih (cat.runGroup tree group launch).1
    rw [runGroups_cons]
    exact ⟨by rw [List.map_cons, hgroup, hgroups], List.forall_mem_cons.mpr ⟨hcomplete, hall⟩⟩

end Catalog

/-! ## The entries of a group -/

/-- The schema and the name of the table. -/
def TableReport.key (entry : TableReport) : String × String :=
  (entry.schema, entry.table)

namespace GroupRun

variable {cat : Catalog} {run : GroupRun}

/-- What the entries of the group have for an error. -/
def error? (run : GroupRun) : Option String :=
  match run.result with
  | .error e => some e.message
  | .ok _ => none

theorem map_entries (h : cat.Complete run) :
    run.entries.map (fun entry => (entry.key, entry.path)) =
      run.group.tables.map fun table => (table.key, some run.group.path) := by
  unfold entries
  split
  · rw [List.map_map]
    rfl
  · next merge hresult =>
    rw [← (h merge hresult).1, List.map_map, List.map_map]
    rfl

/-- The entries of a group share its path and its error, and fail with it. -/
theorem of_mem_entries (h : cat.Complete run) {entry : TableReport} (hentry : entry ∈ run.entries) :
    entry.path = some run.group.path ∧ entry.error = run.error? ∧
      (entry.outcome = .failed ↔ entry.error.isSome) := by
  unfold entries at hentry
  unfold error?
  cases hresult : run.result with
  | error e =>
    rw [hresult] at hentry
    obtain ⟨table, -, rfl⟩ := List.mem_map.mp hentry
    exact ⟨rfl, rfl, by simp [failedEntry]⟩
  | ok merge =>
    rw [hresult] at hentry
    obtain ⟨only, honly, rfl⟩ := List.mem_map.mp hentry
    exact ⟨rfl, rfl, by simp [mergedEntry, ((h merge hresult).2 only honly).1]⟩

theorem exists_entry_of_warning (h : cat.Complete run) {warning : Issue}
    (hwarning : warning ∈ run.warnings) : ∃ entry ∈ run.entries,
      entry.key = (warning.schema, warning.table) ∧ entry.outcome ≠ .failed := by
  unfold warnings at hwarning
  unfold entries
  cases hresult : run.result with
  | error e => simp [hresult] at hwarning
  | ok merge =>
    rw [hresult] at hwarning
    obtain ⟨htables, hmerges⟩ := h merge hresult
    have hfound (only : TableMerge) (honly : only ∈ merge.merges) (habout : warning.About only.table) :
        ∃ entry ∈ merge.merges.map (mergedEntry run.group.path),
          entry.key = (warning.schema, warning.table) ∧ entry.outcome ≠ .failed :=
      ⟨_, List.mem_map_of_mem honly, Prod.ext habout.1.symm habout.2.symm, (hmerges only honly).1⟩
    rcases List.mem_append.mp hwarning with hissue | hformatter
    · obtain ⟨only, honly, hissue⟩ := List.mem_flatMap.mp hissue
      exact hfound only honly (Catalog.about_of_render (hmerges only honly).2 warning hissue)
    · split at hformatter
      · next failure first rest _ hfirst =>
        rw [List.mem_singleton.mp hformatter] at hfound ⊢
        rw [hfirst] at htables
        obtain ⟨only, others, hall, htable, -⟩ := List.map_eq_cons_iff.mp htables
        exact hfound only (by simp [hall]) (htable ▸ ⟨rfl, rfl⟩)
      · simp at hformatter

end GroupRun

/-! ## Reports of runs -/

/-- What a report says of the tables that were selected. -/
structure Report.Accounts (report : Report) (cat : Catalog) (selected : List Table) : Prop where
  /-- Path by path in the order in which they come up first, the tables with the path in their order. -/
  listed : report.tables.map (fun entry => (entry.key, entry.path)) =
    (firstPaths cat.pathOf selected).flatMap fun path =>
      (ofPath cat.pathOf selected path).tables.map fun table => (table.key, some path)
  /-- Each table is listed once. -/
  complete : (report.tables.map (·.key)).Perm (selected.map Table.key)
  once : (report.tables.map (·.key)).Nodup
  /-- The tables of one path all fail with one error, or none of them fails. -/
  together : ∀ entry ∈ report.tables, ∀ other ∈ report.tables, entry.path = other.path →
    entry.error = other.error
  failed : ∀ entry ∈ report.tables, entry.outcome = .failed ↔ entry.error.isSome
  failures : report.hasFailures ↔ ∃ entry ∈ report.tables, entry.error.isSome
  outcomes : (TableOutcome.all.map report.count).sum = selected.length
  tally : Tally report.warningsByCode report.warnings
  /-- What is noted is about a table that did not fail, and nothing is noted about one that did. -/
  noted : ∀ warning ∈ report.warnings, ∃ entry ∈ report.tables,
    entry.key = (warning.schema, warning.table) ∧ entry.outcome ≠ .failed
  silent : ∀ entry ∈ report.tables, entry.outcome = .failed →
    ∀ warning ∈ report.warnings, (warning.schema, warning.table) ≠ entry.key

namespace Report

theorem sum_count (report : Report) :
    (TableOutcome.all.map report.count).sum = report.tables.length := by
  simp only [count, TableOutcome.all, List.map_cons, List.map_nil, List.sum_cons, List.sum_nil]
  induction report.tables with
  | nil => rfl
  | cons entry rest ih =>
    cases hentry : entry.outcome <;> simp [hentry] <;> omega

theorem hasFailures_iff (report : Report)
    (h : ∀ entry ∈ report.tables, entry.outcome = .failed ↔ entry.error.isSome) :
    report.hasFailures ↔ ∃ entry ∈ report.tables, entry.error.isSome := by
  rw [hasFailures, List.any_eq_true]
  refine exists_congr fun entry => and_congr_right fun hentry => ?_
  rw [beq_iff_eq]
  exact h entry hentry

end Report

section
variable {cat : Catalog} {selected : List Table} {runs : List GroupRun} {entry other : TableReport}

theorem map_flatMap_entries (hcomplete : ∀ run ∈ runs, cat.Complete run) :
    (runs.flatMap (·.entries)).map (fun entry => (entry.key, entry.path)) =
      (runs.map (·.group)).flatMap fun group =>
        group.tables.map fun table => (table.key, some group.path) := by
  rw [List.map_flatMap, List.flatMap_map]
  apply List.flatMap_congr
  intro run hrun
  exact GroupRun.map_entries (hcomplete run hrun)

theorem perm_keys (hgroups : runs.map (·.group) = cat.fileGroups selected)
    (hcomplete : ∀ run ∈ runs, cat.Complete run) :
    ((runs.flatMap (·.entries)).map (·.key)).Perm (selected.map Table.key) := calc
  (runs.flatMap (·.entries)).map (·.key)
  _ = ((runs.flatMap (·.entries)).map fun entry => (entry.key, entry.path)).map Prod.fst := by
      rw [List.map_map]
      rfl
  _ = ((cat.fileGroups selected).flatMap (·.tables)).map Table.key := by
      rw [map_flatMap_entries hcomplete, hgroups, List.map_flatMap, List.map_flatMap]
      simp only [List.map_map]
      rfl
  List.Perm _ (selected.map Table.key) := (cat.fileGroups_perm selected).map Table.key

theorem exists_run_of_entry (hcomplete : ∀ run ∈ runs, cat.Complete run)
    (hentry : entry ∈ runs.flatMap (·.entries)) : ∃ run ∈ runs,
      entry.path = some run.group.path ∧ entry.error = run.error? ∧
        (entry.outcome = .failed ↔ entry.error.isSome) := by
  obtain ⟨run, hrun, hmem⟩ := List.mem_flatMap.mp hentry
  exact ⟨run, hrun, GroupRun.of_mem_entries (hcomplete run hrun) hmem⟩

theorem exists_entry_of_noted (hcomplete : ∀ run ∈ runs, cat.Complete run) {warning : Issue}
    (hwarning : warning ∈ runs.flatMap (·.warnings)) : ∃ entry ∈ runs.flatMap (·.entries),
      entry.key = (warning.schema, warning.table) ∧ entry.outcome ≠ .failed := by
  obtain ⟨run, hrun, hmem⟩ := List.mem_flatMap.mp hwarning
  obtain ⟨entry, hentry, habout⟩ := GroupRun.exists_entry_of_warning (hcomplete run hrun) hmem
  exact ⟨entry, List.mem_flatMap.mpr ⟨run, hrun, hentry⟩, habout⟩

theorem eq_of_samePath (hgroups : runs.map (·.group) = cat.fileGroups selected)
    {run run' : GroupRun} (hrun : run ∈ runs) (hrun' : run' ∈ runs)
    (hpath : samePath run.group.path run'.group.path) : run = run' := by
  have hdistinct := cat.fileGroups_distinct selected
  rw [← hgroups, List.pairwise_map] at hdistinct
  have hsymm : Std.Symm fun run run' : GroupRun => ¬samePath run.group.path run'.group.path :=
    ⟨fun _ _ hnot hsame => hnot (samePath_symm hsame)⟩
  by_contra hne
  exact hdistinct.forall hrun hrun' hne hpath

theorem error_eq_of_path_eq (hgroups : runs.map (·.group) = cat.fileGroups selected)
    (hcomplete : ∀ run ∈ runs, cat.Complete run) (hentry : entry ∈ runs.flatMap (·.entries))
    (hother : other ∈ runs.flatMap (·.entries)) (hpath : entry.path = other.path) :
    entry.error = other.error := by
  obtain ⟨run, hrun, hrunPath, hrunError, -⟩ := exists_run_of_entry hcomplete hentry
  obtain ⟨run', hrun', hrunPath', hrunError', -⟩ := exists_run_of_entry hcomplete hother
  have hsame : samePath run.group.path run'.group.path := by
    rw [hrunPath, hrunPath'] at hpath
    rw [Option.some.inj hpath]
    exact samePath_refl _
  rw [hrunError, hrunError', eq_of_samePath hgroups hrun hrun' hsame]

/-- The report of complete groups accounts for their tables. -/
theorem accounts_ofRuns (stamp : RunStamp) (hnodup : (selected.map Table.key).Nodup)
    (hgroups : runs.map (·.group) = cat.fileGroups selected)
    (hcomplete : ∀ run ∈ runs, cat.Complete run) :
    (Report.ofRuns stamp runs).Accounts cat selected := by
  obtain ⟨htables, hwarnings, htally⟩ := Report.follows_ofRuns stamp runs
  rw [List.nil_append] at htables hwarnings
  have hperm := perm_keys hgroups hcomplete
  rw [← htables] at hperm
  have honce : ((Report.ofRuns stamp runs).tables.map (·.key)).Nodup := hperm.nodup_iff.mpr hnodup
  have hfailed : ∀ entry ∈ (Report.ofRuns stamp runs).tables,
      entry.outcome = .failed ↔ entry.error.isSome := by
    intro entry hentry
    rw [htables] at hentry
    obtain ⟨-, -, -, -, hiff⟩ := exists_run_of_entry hcomplete hentry
    exact hiff
  have hnoted : ∀ warning ∈ (Report.ofRuns stamp runs).warnings,
      ∃ entry ∈ (Report.ofRuns stamp runs).tables,
        entry.key = (warning.schema, warning.table) ∧ entry.outcome ≠ .failed := by
    rw [htables, hwarnings]
    exact fun warning hwarning => exists_entry_of_noted hcomplete hwarning
  constructor
  case listed =>
    rw [htables, map_flatMap_entries hcomplete, hgroups, Catalog.fileGroups_eq, List.flatMap_map]
    rfl
  case complete => exact hperm
  case once => exact honce
  case together =>
    rw [htables]
    intro entry hentry other hother
    exact error_eq_of_path_eq hgroups hcomplete hentry hother
  case failed => exact hfailed
  case failures => exact Report.hasFailures_iff _ hfailed
  case outcomes =>
    have hlength := hperm.length_eq
    rw [List.length_map, List.length_map] at hlength
    rw [Report.sum_count, hlength]
  case tally => exact htally .nil
  case noted => exact hnoted
  case silent =>
    intro entry hentry hfail warning hwarning heq
    obtain ⟨other, hother, hkey, hgood⟩ := hnoted warning hwarning
    obtain rfl : other = entry := List.inj_on_of_nodup_map honce hother hentry (hkey.trans heq)
    exact hgood hfail

end

theorem Catalog.consistent_of_check {cat : Catalog} (h : cat.check = .ok ()) :
    Consistent cat.tables := by
  unfold Catalog.check at h
  split at h
  · simp at h
  · cases htables : checkTables cat.tables with
    | error e =>
      rw [htables] at h
      cases h
    | ok _ => exact checkTables_eq_ok_iff.mp htables

/-- A run of a valid catalog gives a report that accounts for the tables that were selected, whatever
the files hold, whatever fails, and whatever the formatter does. -/
theorem run_accounts (cat : Catalog) (tree : Tree) (select : Table → Bool)
    (launch : Command.Launcher) (hcheck : cat.check = .ok ()) :
    ∃ after runs, cat.run tree select launch = .ok (after, runs) ∧
      ∀ stamp, (Report.ofRuns stamp runs).Accounts cat (cat.tables.filter select) := by
  have hnodup : ((cat.tables.filter select).map Table.key).Nodup :=
    (Catalog.consistent_of_check hcheck).nodup.sublist (List.filter_sublist.map _)
  obtain ⟨hgroups, hcomplete⟩ :=
    cat.runGroups_complete tree (cat.fileGroups (cat.tables.filter select)) launch
  refine ⟨_, _, by rw [Catalog.run, hcheck], ?_⟩
  intro stamp
  exact accounts_ofRuns stamp hnodup hgroups hcomplete

/-- Two tables have one path, which is spelled in two ways, another table comes between them, and the
formatter fails. -/
def spelledCatalog : Catalog where
  config :=
    { packageName := "p"
      formatter := some ["false"]
      tables := [("a", { path := some "d/m.go" }), ("b", { path := some "d//m.go" })] }
  tables := [{ name := "a" }, { name := "c" }, { name := "b" }]

theorem run_accounts_spelled :
    spelledCatalog.check = .ok () ∧ ∃ after runs,
      spelledCatalog.run .fresh (fun _ => true) Shell.launch = .ok (after, runs) ∧ ∀ stamp,
        (Report.ofRuns stamp runs).tables.map (fun entry => (entry.key, entry.path)) =
          [(("", "a"), some "d/m.go"), (("", "b"), some "d/m.go"), (("", "c"), some "c.go")] := by
  have hcheck : spelledCatalog.check = .ok () := rfl
  obtain ⟨after, runs, hrun, haccounts⟩ :=
    run_accounts spelledCatalog .fresh (fun _ => true) Shell.launch hcheck
  exact ⟨hcheck, after, runs, hrun, fun stamp => (haccounts stamp).listed.trans (by decide +kernel)⟩

end RowTypes
