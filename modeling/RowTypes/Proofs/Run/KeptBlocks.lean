import Mathlib.Data.List.Induction
import RowTypes.Run.FileGroup
import RowTypes.Proofs.SourceFile.Coexistence
import RowTypes.Proofs.SourceFile.Idempotence

/-!
The blocks of a file group. The blocks of a group are merged one after the other into one text, and
each may take away what was merged before. A block may also come back: what stands in the text decides,
and not what was merged.

What is proved:
  1. `mergeTables_step`: each table is merged into the text that the tables before it gave.
  2. `mergeGroup_keeps_iff`: exactly when all blocks of a group stand in its text, and exactly when none
     of them is lost on the way.
  3. `mergeGroup_loses_block`: a group whose second block takes the place of the first.
-/

namespace RowTypes

open Text SourceFile

/-- The text once the first merges of a group are made. -/
def GroupMerge.textAfter (group : GroupMerge) (done : List TableMerge) : String :=
  (GroupMerge.mk group.original done).text

namespace Catalog

variable {cat : Catalog} {original text : String} {tables : List Table}
  {owners : List (String × String)} {merges : List TableMerge} {merge : TableMerge}

/-- A table was merged into a text. -/
structure MergesInto (cat : Catalog) (text : String) (merge : TableMerge) : Prop where
  rendered : cat.render merge.table = .ok merge.block
  merged : ∃ outcome, SourceFile.merge text (cat.options merge.table).packageName merge.block =
    .ok ⟨merge.text, outcome⟩

/-! ## One merge after the other -/

theorem mergeTable_ok {table : Table} {merge : TableMerge}
    (h : cat.mergeTable owners text table = .ok merge) : merge.table = table ∧
      owners.lookup merge.block.typeName = none ∧ cat.MergesInto text merge := by
  unfold mergeTable at h
  split at h
  · simp at h
  · next block hblock =>
    split at h
    · simp at h
    · next howner =>
      split at h
      · simp at h
      · next merged hmerged =>
        cases h
        exact ⟨rfl, howner, hblock, merged.outcome, hmerged⟩

theorem exists_of_mergeTables_cons {table : Table}
    (h : cat.mergeTables owners text (table :: tables) = .ok merges) :
    ∃ first rest, merges = first :: rest ∧ cat.mergeTable owners text table = .ok first ∧
      cat.mergeTables ((first.block.typeName, table.qualifiedName) :: owners) first.text tables =
        .ok rest := by
  rw [mergeTables] at h
  split at h
  · simp at h
  · next first hfirst =>
    split at h
    · simp at h
    · next rest hrest =>
      cases h
      exact ⟨first, rest, rfl, hfirst, hrest⟩

theorem mergeTables_take (h : cat.mergeTables owners text tables = .ok merges) (n : Nat) :
    cat.mergeTables owners text (tables.take n) = .ok (merges.take n) := by
  induction tables generalizing owners text merges n with
  | nil =>
    cases h
    simp [mergeTables]
  | cons table tables ih =>
    obtain ⟨first, rest, rfl, hfirst, hrest⟩ := exists_of_mergeTables_cons h
    cases n with
    | zero => rfl
    | succ n =>
      rw [List.take_succ_cons, List.take_succ_cons, mergeTables, hfirst]
      simp only [ih hrest n]

theorem textAfter_cons (first : TableMerge) (done : List TableMerge) :
    (GroupMerge.mk text []).textAfter (first :: done) =
      (GroupMerge.mk first.text []).textAfter done := by
  cases hlast : done.getLast? <;>
    simp [GroupMerge.textAfter, GroupMerge.text, List.getLast?_cons, hlast]

/-- Each table is merged into the text that the tables before it gave, and its type is new. -/
theorem mergeTables_step {done rest : List TableMerge} {merge : TableMerge}
    (h : cat.mergeTables owners text tables = .ok merges) (hsplit : merges = done ++ merge :: rest) :
    merge.table ∈ tables ∧ owners.lookup merge.block.typeName = none ∧
      (∀ earlier ∈ done, earlier.block.typeName ≠ merge.block.typeName) ∧
      cat.MergesInto ((GroupMerge.mk text []).textAfter done) merge := by
  induction tables generalizing owners text merges done with
  | nil =>
    cases h
    simp at hsplit
  | cons table tables ih =>
    obtain ⟨first, others, rfl, hfirst, hothers⟩ := exists_of_mergeTables_cons h
    obtain ⟨htable, hnew, hinto⟩ := mergeTable_ok hfirst
    cases done with
    | nil =>
      obtain ⟨rfl, -⟩ := List.cons.inj hsplit
      exact ⟨by simp [htable], hnew, by simp, hinto⟩
    | cons head done =>
      obtain ⟨rfl, hrest⟩ := List.cons.inj hsplit
      obtain ⟨hmem, hlookup, hearlier, hmerged⟩ := ih hothers hrest
      rw [List.lookup_cons] at hlookup
      split at hlookup
      · simp at hlookup
      · next hne =>
        refine ⟨List.mem_cons_of_mem _ hmem, hlookup, ?_, by rw [textAfter_cons]; exact hmerged⟩
        intro earlier hin
        rcases List.mem_cons.mp hin with rfl | hin
        · intro heq
          simp [heq] at hne
        · exact hearlier earlier hin

theorem exists_of_mergeGroup {group : GroupMerge} (h : cat.mergeGroup original tables = .ok group) :
    ∃ merges, cat.mergeTables [] original tables = .ok merges ∧ group = ⟨original, merges⟩ := by
  unfold mergeGroup at h
  cases hmerges : cat.mergeTables [] original tables with
  | error e =>
    rw [hmerges] at h
    cases h
  | ok merges =>
    rw [hmerges] at h
    cases h
    exact ⟨merges, rfl, rfl⟩

/-! ## Groups that keep their blocks -/

/-- The block stands in the new text that is written for it. Only a package name of several lines can
stand in its way. -/
def StandsAnew (cat : Catalog) (merge : TableMerge) : Prop :=
  '\n' ∉ (cat.options merge.table).packageName.toList ∨
    Stands merge.block (ofBlock (cat.options merge.table).packageName merge.block)

/-- What it takes for the blocks of a group to stand in its text. The last merge decides: its own block
stands, and the others have to be found around it. -/
structure HoldsBlocks (cat : Catalog) (group : GroupMerge) : Prop where
  written : ∀ only, group.merges = [only] → isAllWhite group.original → cat.StandsAnew only
  remaining : ∀ done last, group.merges = done ++ [last] → ∀ earlier ∈ done,
    Remains earlier.block last.block (group.textAfter done)

/-- What it takes for the blocks of a group to stand, from their own merges on. -/
structure KeepsBlocks (cat : Catalog) (group : GroupMerge) : Prop where
  written : ∀ first rest, group.merges = first :: rest → isAllWhite group.original →
    cat.StandsAnew first
  /-- Each block outlives each later merge. -/
  outlived : ∀ done merge rest, group.merges = done ++ merge :: rest → ∀ earlier ∈ done,
    Outlives earlier.block merge.block (group.textAfter done)

/-- All blocks of a merge stand in its text. -/
def AllStand (group : GroupMerge) : Prop :=
  ∀ merge ∈ group.merges, Stands merge.block group.text

theorem MergesInto.formed (h : cat.MergesInto text merge) (hcat : cat.Unspaced)
    (htable : merge.table.Unspaced) : Nonempty merge.block.Formed :=
  exists_formed hcat htable h.rendered

theorem textAfter_concat (group : GroupMerge) (done : List TableMerge) (merge : TableMerge) :
    group.textAfter (done ++ [merge]) = merge.text := by
  simp [GroupMerge.textAfter, GroupMerge.text]

theorem MergesInto.stands (h : cat.MergesInto text merge) (formed : merge.block.Formed)
    (hink : ¬isAllWhite text) : Stands merge.block merge.text := by
  obtain ⟨outcome, hmerged⟩ := h.merged
  rw [merge_of_ink hink] at hmerged
  exact stands_of_patch formed hmerged

theorem MergesInto.text_eq (h : cat.MergesInto text merge) (hwhite : isAllWhite text) :
    merge.text = ofBlock (cat.options merge.table).packageName merge.block := by
  obtain ⟨outcome, hmerged⟩ := h.merged
  rw [SourceFile.merge, if_pos hwhite] at hmerged
  exact (congrArg Merged.text (Except.ok.inj hmerged)).symm

theorem MergesInto.stands_iff_remains (h : cat.MergesInto text merge) {earlier : Block}
    (hearlier : earlier.Formed) (formed : merge.block.Formed)
    (hne : earlier.typeName ≠ merge.block.typeName) (hink : ¬isAllWhite text) :
    Stands earlier merge.text ↔ Remains earlier merge.block text := by
  obtain ⟨outcome, hmerged⟩ := h.merged
  rw [merge_of_ink hink] at hmerged
  exact SourceFile.stands_iff_remains hearlier formed hne hmerged

theorem mem_text_of_render {table : Table} {block : Block} (h : cat.render table = .ok block) :
    't' ∈ block.text.toList := by
  unfold render at h
  split at h
  · simp at h
  · cases h
    simp [Block.text, blockOf, Block.unlines]

theorem MergesInto.not_isAllWhite (h : cat.MergesInto text merge) : ¬isAllWhite merge.text := by
  by_cases hwhite : isAllWhite text
  · rw [h.text_eq hwhite]
    exact not_isAllWhite_ofBlock _ _
  · obtain ⟨outcome, hmerged⟩ := h.merged
    rw [merge_of_ink hwhite] at hmerged
    obtain ⟨widened, placement, -, hsplice, -⟩ := exists_of_patch hmerged
    have hmem := subset_of_splice hsplice (mem_text_of_render h.rendered)
    exact not_isAllWhite_of_mem_toList hmem (by decide)

theorem not_isAllWhite_of_mergeGroup {group : GroupMerge}
    (h : cat.mergeGroup original tables = .ok group) (hne : tables ≠ []) :
    ¬isAllWhite group.text := by
  obtain ⟨merges, hmerges, rfl⟩ := exists_of_mergeGroup h
  obtain ⟨table, rest, rfl⟩ := List.exists_cons_of_ne_nil hne
  obtain ⟨first, others, rfl, -⟩ := exists_of_mergeTables_cons hmerges
  obtain ⟨done, last, hsplit⟩ : ∃ done last, first :: others = done ++ [last] :=
    ⟨_, _, (List.dropLast_concat_getLast (List.cons_ne_nil first others)).symm⟩
  have hinto := (mergeTables_step hmerges hsplit).2.2.2
  have htext : (GroupMerge.mk original (first :: others)).text = last.text := by
    rw [hsplit]
    simp [GroupMerge.text]
  rw [htext]
  exact hinto.not_isAllWhite

/-- A block that stands before a merge stands after it iff it outlives it. -/
theorem MergesInto.stands_iff (h : cat.MergesInto text merge) {earlier : Block}
    (hearlier : earlier.Formed) (formed : merge.block.Formed)
    (hne : earlier.typeName ≠ merge.block.typeName) (hstands : Stands earlier text) :
    Stands earlier merge.text ↔ Outlives earlier merge.block text := by
  obtain ⟨outcome, hmerged⟩ := h.merged
  rw [merge_of_ink (not_isAllWhite_of_stands hearlier hstands)] at hmerged
  exact stands_iff_outlives hearlier formed hne hstands hmerged

section Run
variable {group : GroupMerge}

/-- The merges of a group, and what each is made into. -/
structure Steps (cat : Catalog) (group : GroupMerge) : Prop where
  formed : ∀ merge ∈ group.merges, Nonempty merge.block.Formed
  into : ∀ done merge rest, group.merges = done ++ merge :: rest →
    cat.MergesInto (group.textAfter done) merge
  distinct : ∀ done merge rest, group.merges = done ++ merge :: rest → ∀ earlier ∈ done,
    earlier.block.typeName ≠ merge.block.typeName

theorem steps_of_mergeGroup (hcat : cat.Unspaced) (htables : ∀ table ∈ tables, table.Unspaced)
    (h : cat.mergeGroup original tables = .ok group) : cat.Steps group := by
  obtain ⟨merges, hmerges, rfl⟩ := exists_of_mergeGroup h
  constructor
  · intro merge hmerge
    obtain ⟨done, rest, hsplit⟩ := List.append_of_mem hmerge
    obtain ⟨hmem, -, -, hinto⟩ := mergeTables_step hmerges hsplit
    exact hinto.formed hcat (htables _ hmem)
  · intro done merge rest hsplit
    exact (mergeTables_step hmerges hsplit).2.2.2
  · intro done merge rest hsplit
    exact (mergeTables_step hmerges hsplit).2.2.1

theorem Steps.not_isAllWhite (hsteps : cat.Steps group) {done rest : List TableMerge}
    (hsplit : group.merges = done ++ rest) (hne : done ≠ []) : ¬isAllWhite (group.textAfter done) := by
  obtain ⟨before, last, rfl⟩ : ∃ before last, done = before ++ [last] :=
    ⟨done.dropLast, done.getLast hne, (List.dropLast_concat_getLast hne).symm⟩
  rw [textAfter_concat]
  rw [List.append_assoc] at hsplit
  exact (hsteps.into before last rest hsplit).not_isAllWhite

/-- The block of each merge stands in the text that the merge gives, unless that is a new text in which
it does not. -/
theorem Steps.stands (hsteps : cat.Steps group) {done rest : List TableMerge}
    (hsplit : group.merges = done ++ merge :: rest)
    (hanew : done = [] → isAllWhite group.original → cat.StandsAnew merge) :
    Stands merge.block merge.text := by
  have hinto := hsteps.into done merge rest hsplit
  obtain ⟨formed⟩ := hsteps.formed merge (by rw [hsplit]; simp)
  by_cases hwhite : isAllWhite (group.textAfter done)
  · by_cases hne : done = []
    · subst hne
      rw [hinto.text_eq hwhite]
      exact (hanew rfl hwhite).elim (fun hname => (leftAlone_ofBlock formed hname).stands) id
    · exact absurd hwhite (hsteps.not_isAllWhite hsplit hne)
  · exact hinto.stands formed hwhite

theorem allStand_iff_holdsBlocks (hsteps : cat.Steps group) :
    AllStand group ↔ cat.HoldsBlocks group := by
  by_cases hnone : group.merges = []
  · refine iff_of_true (by simp [AllStand, hnone]) ⟨?_, ?_⟩ <;> simp [hnone]
  obtain ⟨done, last, hsplit⟩ : ∃ done last, group.merges = done ++ [last] :=
    ⟨_, _, (List.dropLast_concat_getLast hnone).symm⟩
  have hinto := hsteps.into done last [] hsplit
  obtain ⟨formed⟩ := hsteps.formed last (by rw [hsplit]; simp)
  have htext : group.text = last.text := by simp [GroupMerge.text, hsplit]
  have hearlier : ∀ earlier ∈ done, (Stands earlier.block last.text ↔
      Remains earlier.block last.block (group.textAfter done)) := by
    intro earlier hin
    obtain ⟨hformed⟩ := hsteps.formed earlier (by rw [hsplit]; simp [hin])
    exact hinto.stands_iff_remains hformed formed (hsteps.distinct done last [] hsplit earlier hin)
      (hsteps.not_isAllWhite hsplit (List.ne_nil_of_mem hin))
  constructor
  · intro hall
    constructor
    · intro only honly hwhite
      have hstands := hall only (by simp [honly])
      rw [hsplit] at honly
      obtain ⟨rfl, hlast⟩ := List.append_inj' (show done ++ [last] = [] ++ [only] from honly) rfl
      obtain ⟨rfl, -⟩ := List.cons.inj hlast
      rw [htext] at hstands
      right
      rwa [← hinto.text_eq hwhite]
    · intro done' last' hsplit' earlier hin
      obtain ⟨rfl, rfl⟩ : done = done' ∧ last = last' := by
        rw [hsplit] at hsplit'
        simpa using hsplit'
      have hstands := hall earlier (by rw [hsplit]; simp [hin])
      rw [htext] at hstands
      exact (hearlier earlier hin).mp hstands
  · intro hholds merge hmerge
    rw [htext]
    rw [hsplit, List.mem_append, List.mem_singleton] at hmerge
    rcases hmerge with hin | rfl
    · exact (hearlier merge hin).mpr (hholds.remaining done last hsplit merge hin)
    · refine hsteps.stands hsplit fun hnil => hholds.written merge ?_
      rw [hsplit, hnil]
      rfl

theorem allStand_of_keepsBlocks (hsteps : cat.Steps group) (hkeeps : cat.KeepsBlocks group)
    {done rest : List TableMerge} (hsplit : group.merges = done ++ rest) :
    AllStand ⟨group.original, done⟩ := by
  -- By induction on the merges from the end: the last one writes its block, which the others outlive.
  induction done using List.reverseRecOn generalizing rest with
  | nil => simp [AllStand]
  | append_singleton done merge ih =>
    rw [List.append_assoc] at hsplit
    have hbefore := ih hsplit
    have hinto := hsteps.into done merge rest hsplit
    obtain ⟨formed⟩ := hsteps.formed merge (by rw [hsplit]; simp)
    show ∀ earlier ∈ done ++ [merge], Stands earlier.block (group.textAfter (done ++ [merge]))
    rw [textAfter_concat]
    intro earlier hearlier
    rcases List.mem_append.mp hearlier with hin | hin
    · obtain ⟨hformed⟩ := hsteps.formed earlier (by rw [hsplit]; simp [hin])
      exact (hinto.stands_iff hformed formed (hsteps.distinct done merge rest hsplit earlier hin)
        (hbefore earlier hin)).mpr (hkeeps.outlived done merge rest hsplit earlier hin)
    · rw [List.mem_singleton.mp hin]
      exact hsteps.stands hsplit fun hnil => hkeeps.written merge rest (by rw [hsplit, hnil]; rfl)

theorem keepsBlocks_of_allStand (hsteps : cat.Steps group)
    (hall : ∀ done rest, group.merges = done ++ rest → AllStand ⟨group.original, done⟩) :
    cat.KeepsBlocks group := by
  constructor
  · intro first rest hsplit hwhite
    right
    have hstands := hall [first] rest hsplit first (by simp)
    rwa [← (hsteps.into [] first rest hsplit).text_eq hwhite]
  · intro done merge rest hsplit earlier hearlier
    obtain ⟨formed⟩ := hsteps.formed merge (by rw [hsplit]; simp)
    obtain ⟨hformed⟩ := hsteps.formed earlier (by rw [hsplit]; simp [hearlier])
    have hbefore := hall done (merge :: rest) hsplit earlier hearlier
    have hafter := hall (done ++ [merge]) rest (by rw [hsplit]; simp) earlier (by simp [hearlier])
    change Stands earlier.block (group.textAfter (done ++ [merge])) at hafter
    rw [textAfter_concat] at hafter
    exact ((hsteps.into done merge rest hsplit).stands_iff hformed formed
      (hsteps.distinct done merge rest hsplit earlier hearlier) hbefore).mp hafter

end Run

/-- Exactly when all blocks of a group stand in its text, and exactly when none is lost on the way:
when they also stand in the texts of all groups of its first tables. -/
theorem mergeGroup_keeps_iff {group : GroupMerge} (hcat : cat.Unspaced)
    (htables : ∀ table ∈ tables, table.Unspaced) (h : cat.mergeGroup original tables = .ok group) :
    ((∀ merge ∈ group.merges, Stands merge.block group.text) ↔ cat.HoldsBlocks group) ∧
      ((∀ n part, cat.mergeGroup original (tables.take n) = .ok part →
        ∀ merge ∈ part.merges, Stands merge.block part.text) ↔ cat.KeepsBlocks group) := by
  have hsteps := steps_of_mergeGroup hcat htables h
  refine ⟨allStand_iff_holdsBlocks hsteps, ?_⟩
  obtain ⟨merges, hmerges, rfl⟩ := exists_of_mergeGroup h
  have hpart (n : Nat) :
      cat.mergeGroup original (tables.take n) = .ok ⟨original, merges.take n⟩ := by
    rw [mergeGroup, mergeTables_take hmerges n]
    rfl
  constructor
  · intro hall
    refine keepsBlocks_of_allStand hsteps fun done rest hsplit => ?_
    have hdone : merges.take done.length = done := by
      change merges = done ++ rest at hsplit
      rw [hsplit, List.take_left]
    rw [← hdone]
    exact hall done.length _ (hpart done.length)
  · intro hkeeps n part hmerged
    rw [hpart n] at hmerged
    cases hmerged
    exact allStand_of_keepsBlocks hsteps hkeeps (List.take_append_drop n merges).symm

/-- Two tables of one file. -/
def firstTable : Table := { name := "a" }

def secondTable : Table := { name := "b" }

def pairCatalog : Catalog := { config := {}, tables := [firstTable, secondTable] }

def pairBlock (table : Table) : Block :=
  pairCatalog.blockOf table []

/-- The merge of both into a file with a package line. -/
def keptPair : GroupMerge where
  original := "package p\n"
  merges :=
    [⟨firstTable, pairBlock firstTable, "package p\n\n" ++ (pairBlock firstTable).text, .appended⟩,
      ⟨secondTable, pairBlock secondTable,
        "package p\n\n" ++ (pairBlock firstTable).text ++ "\n" ++ (pairBlock secondTable).text,
        .appended⟩]

theorem mergeGroup_keeps_pair : pairCatalog.Unspaced ∧
    (∀ table ∈ [firstTable, secondTable], table.Unspaced) ∧
    pairCatalog.mergeGroup keptPair.original [firstTable, secondTable] = .ok keptPair ∧
    ∀ n part, pairCatalog.mergeGroup keptPair.original ([firstTable, secondTable].take n) = .ok part →
      ∀ merge ∈ part.merges, Stands merge.block part.text := by
  have hmerge : pairCatalog.mergeGroup keptPair.original [firstTable, secondTable] = .ok keptPair := by
    decide +kernel
  have hnone : Region.findLines "B".toList (widenedLines ("package p\n\n" ++
      (pairBlock firstTable).text) []) = none := by
    decide +kernel
  refine ⟨by decide, by decide, hmerge,
    (mergeGroup_keeps_iff (by decide) (by decide) hmerge).2.mpr ⟨?_, ?_⟩⟩
  · intro first rest _ hwhite
    exact absurd hwhite (by decide)
  · intro done merge rest hsplit earlier hearlier
    match done, hsplit with
    | [], _ => simp at hearlier
    | [_], hsplit =>
      obtain ⟨rfl, hrest⟩ := List.cons.inj hsplit
      obtain ⟨rfl, -⟩ := List.cons.inj hrest
      rw [List.mem_singleton.mp hearlier]
      refine ⟨fun cover covered hcover => ?_, absurd rfl⟩
      have hsome := hnone.symm.trans hcover
      simp at hsome
    | _ :: _ :: _, hsplit => simp [keptPair] at hsplit

/-- A file in which the type of the second table is declared on one line. -/
def lostPair : GroupMerge where
  original := "package p\n\ntype B struct \x7b X int \x7d\n"
  merges :=
    [⟨firstTable, pairBlock firstTable,
        "package p\n\ntype B struct \x7b X int \x7d\n\n" ++ (pairBlock firstTable).text, .appended⟩,
      ⟨secondTable, pairBlock secondTable, "package p\n\n" ++ (pairBlock secondTable).text, .patched⟩]

/-- Behind a struct that is closed on its own line the second block takes the place of the first. -/
theorem mergeGroup_loses_block :
    pairCatalog.mergeGroup lostPair.original [firstTable, secondTable] = .ok lostPair ∧
      ∃ merge ∈ lostPair.merges, ¬Stands merge.block lostPair.text := by
  have hmerge : pairCatalog.mergeGroup lostPair.original [firstTable, secondTable] = .ok lostPair := by
    decide +kernel
  have hnone : Region.find? "A".toList ("package p\n\n" ++ (pairBlock secondTable).text).toList =
      none := by
    decide +kernel
  refine ⟨hmerge, _, List.mem_cons_self, ?_⟩
  rintro ⟨parts, hparts, -⟩
  have hsome := hnone.symm.trans hparts
  simp at hsome

end Catalog

end RowTypes
