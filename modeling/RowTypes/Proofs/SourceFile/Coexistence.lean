import RowTypes.Proofs.SourceFile.FixedPoints

/-!
Two blocks in one text. When a block is merged into a text in which a block of another type stands,
the other one may be lost in two ways: the region that the new block replaces reaches over it, or a
region of its type begins before the place of the import clause.

What is proved:
  1. `standsIn_covered_iff`, `standsIn_splits_iff`: what a splice makes of another block.
  2. `standsIn_widened_iff`: what a new import clause makes of a block.
  3. `stands_iff_outlives`: exactly when a block outlives the merge of another one.
-/

namespace RowTypes.SourceFile

open Text Region Imports

section
variable {name other : List Char} {ls before after : List (List Char)}

/-! ## Blocks and headers of other types -/

theorem exists_between {line : List Char} {before' after' : List (List Char)} (layout : Layout name)
    (hline : line ∉ layout.lines) (h : before ++ (layout.lines ++ after) = before' ++ line :: after')
    (hle : before.length ≤ before'.length) : ∃ between,
      before' = before ++ (layout.lines ++ between) ∧ after = between ++ line :: after' := by
  obtain ⟨more, rfl, hmore⟩ := exists_of_append_eq h hle
  obtain ⟨between, rfl, hafter⟩ := exists_of_append_eq_cons hmore hline
  exact ⟨between, rfl, hafter⟩

theorem not_isHeader_of_mem_lines {line : List Char} (layout : Layout name) (hother : Unblank other)
    (hne : name ≠ other) (hline : line ∈ layout.lines) : ¬isHeader other line := by
  intro hheader
  rcases List.mem_cons.mp hline with rfl | hmem
  · exact hne (eq_of_isHeader_header hother (unblank_of_unspaced layout.unspaced_name) hheader).symm
  · exact layout.not_isHeader_of_mem hmem hheader

theorem shut_lines (fresh : Layout other) (hname : Unblank name) (hne : name ≠ other) :
    Shut name fresh.lines :=
  shut_of_forall_not_isHeader fun _ hline => not_isHeader_of_mem_lines fresh hname hne.symm hline

/-! ## Around a block -/

theorem before_or_after (layout : Layout name) (fresh : Layout other) (hne : name ≠ other)
    {before' after' : List (List Char)}
    (h : before ++ fresh.lines ++ after = before' ++ layout.lines ++ after') :
    (∃ between, before = before' ++ (layout.lines ++ between)) ∨
      ∃ between, before' = before ++ (fresh.lines ++ between) ∧
        after = between ++ (layout.lines ++ after') := by
  have hname := unblank_of_unspaced layout.unspaced_name
  have hother := unblank_of_unspaced fresh.unspaced_name
  rw [List.append_assoc, List.append_assoc] at h
  -- Neither block holds the header of the other, so the later header is behind the whole earlier block.
  rcases Nat.le_total before'.length before.length with hle | hle
  · have hnot : header other ∉ layout.lines := fun hmem =>
      not_isHeader_of_mem_lines layout hother hne hmem (isHeader_header hother)
    have hcut : before' ++ (layout.lines ++ after') =
        before ++ header other :: (fresh.struct ++ fresh.tail ++ after) := by
      rw [← h]
      simp [Layout.lines]
    obtain ⟨between, hbefore, -⟩ := exists_between layout hnot hcut hle
    exact .inl ⟨between, hbefore⟩
  · have hnot : header name ∉ fresh.lines := fun hmem =>
      not_isHeader_of_mem_lines fresh hname hne.symm hmem (isHeader_header hname)
    have hcut : before ++ (fresh.lines ++ after) =
        before' ++ header name :: (layout.struct ++ layout.tail ++ after') := by
      rw [h]
      simp [Layout.lines]
    obtain ⟨between, hbefore, hafter⟩ := exists_between fresh hnot hcut hle
    exact .inr ⟨between, hbefore, by rw [hafter]; simp [Layout.lines]⟩

theorem standsIn_append_blank_iff (layout : Layout name) : layout.StandsIn (ls ++ [[]]) ↔
    ∃ before after, ls = before ++ layout.lines ++ after ∧ Shut name before := by
  constructor
  · rintro ⟨before, after, heq, hafter, hshut⟩
    obtain ⟨init, last, rfl⟩ : ∃ init last, after = init ++ [last] :=
      ⟨after.dropLast, after.getLast hafter, (List.dropLast_concat_getLast hafter).symm⟩
    rw [← List.append_assoc] at heq
    exact ⟨before, init, List.append_inj_left' heq rfl, hshut⟩
  · rintro ⟨before, after, rfl, hshut⟩
    exact ⟨before, after ++ [[]], by simp, by simp, hshut⟩

theorem standsIn_append_pad_iff (layout : Layout name) {pad : List (List Char)}
    (hpad : pad = [] ∨ pad = [[]]) :
    layout.StandsIn (ls ++ pad ++ [[]]) ↔ layout.StandsIn (ls ++ [[]]) := by
  rcases hpad with rfl | rfl
  · rw [List.append_nil]
  rw [standsIn_append_blank_iff]
  constructor
  · rintro ⟨before, after, heq, hshut⟩
    refine ⟨before, after, heq, ?_, hshut⟩
    rintro rfl
    have hmem : ([] : List Char) ∈ layout.lines := by
      have hlast := congrArg List.getLast? heq
      have hlines : layout.lines ≠ [] := by simp [Layout.lines]
      rw [List.append_nil, List.getLast?_concat, List.getLast?_append,
        List.getLast?_eq_some_getLast hlines] at hlast
      have hsame : [] = layout.lines.getLast hlines := by simpa using hlast
      exact hsame ▸ List.getLast_mem hlines
    exact layout.not_mem_lines (by simp) hmem
  · rintro ⟨before, after, heq, -, hshut⟩
    exact ⟨before, after, heq, hshut⟩

theorem standsIn_closing_iff (layout : Layout name) :
    layout.StandsIn (closing after) ↔ layout.StandsIn after := by
  unfold closing
  split
  · next hnil =>
    have hlines := layout.length_lines
    rw [hnil]
    constructor <;> rintro ⟨before, rest, heq, -, -⟩ <;>
    · have hlength := congrArg List.length heq
      simp only [List.length_append, List.length_singleton, List.length_nil] at hlength
      omega
  · rfl

theorem not_standsIn_blank (layout : Layout name) : ¬layout.StandsIn [[]] := by
  rintro ⟨before, after, heq, -, -⟩
  have hlength := congrArg List.length heq
  have hlines := layout.length_lines
  simp only [List.length_append, List.length_singleton] at hlength
  omega

/-- A block stands beside another one iff it stands before it, or behind it with no region of its
type begun before. -/
theorem standsIn_around_iff (layout : Layout name) (fresh : Layout other) (hne : name ≠ other) :
    layout.StandsIn (before ++ fresh.lines ++ after) ↔
      layout.StandsIn (before ++ [[]]) ∨ (Shut name before ∧ layout.StandsIn after) := by
  rw [standsIn_append_blank_iff]
  constructor
  · rintro ⟨before', after', heq, hafter, hshut⟩
    rcases before_or_after layout fresh hne heq with ⟨between, hbefore⟩ | ⟨between, rfl, hrest⟩
    · left
      refine ⟨before', between, ?_, hshut⟩
      rw [hbefore, List.append_assoc]
    · right
      have hcut : fresh.lines ++ between ++ [] =
          header other :: (fresh.struct ++ (fresh.tail ++ between)) := by
        simp [Layout.lines]
      have hheader := isHeader_header (unblank_of_unspaced fresh.unspaced_name)
      refine ⟨hshut.of_append_left hcut hheader (fresh.structLength?_struct _), ?_⟩
      refine ⟨between, after', ?_, hafter, hshut.of_append_right.of_append_right⟩
      rw [hrest, List.append_assoc]
  · rintro (⟨before', between, rfl, hshut⟩ | ⟨hshut, between, after', rfl, hafter, hbetween⟩)
    · exact ⟨before', between ++ (fresh.lines ++ after), by simp, by simp [Layout.lines], hshut⟩
    · have hlines := shut_lines fresh (unblank_of_unspaced layout.unspaced_name) hne
      exact ⟨before ++ fresh.lines ++ between, after', by simp, hafter,
        (hshut.append hlines).append hbetween⟩

/-- If no region begins between some lines and a block, and the first region does not begin on those
lines, it begins with the block. -/
theorem before_eq_of_shut (layout : Layout name) {start between : List (List Char)}
    {parts : LineParts}
    (hfind : findLines name (start ++ (between ++ (layout.lines ++ after))) = some parts)
    (hbetween : Shut name between) (hle : start.length ≤ parts.before.length) :
    parts.before = start ++ between := by
  have hge := le_before_of_shut start (layout.lines ++ after) hfind hbetween hle
  obtain ⟨found, hfound, hlast⟩ := exists_findLines layout (start ++ between) after
  have hsame : start ++ between ++ layout.lines ++ after =
      start ++ (between ++ (layout.lines ++ after)) := by
    simp
  rw [hsame, hfind] at hfound
  cases hfound
  obtain ⟨hparts, -⟩ := findLines_eq_some hfind
  rw [← hsame, List.append_assoc, List.append_assoc _ layout.lines] at hparts
  apply List.append_inj_left hparts
  rw [List.length_append] at hlast ⊢
  omega

theorem before_eq_of_behind (layout : Layout name) {start region between : List (List Char)}
    {parts : LineParts}
    (hfind : findLines name (start ++ region ++ (between ++ (layout.lines ++ after))) = some parts)
    (hshut : Shut name start) (hbetween : Shut name between)
    (hle : start.length ≤ parts.before.length →
      start.length + region.length ≤ parts.before.length) :
    parts.before = start ++ region ++ between := by
  have hfirst : start.length ≤ parts.before.length := by
    have hge := le_before_of_shut [] (region ++ (between ++ (layout.lines ++ after)))
      (by rw [← hfind]; simp) hshut (Nat.zero_le _)
    simpa using hge
  apply before_eq_of_shut layout hfind hbetween
  rw [List.length_append]
  exact hle hfirst

/-! ## Splices -/

/-- The first region begins no later than the second and takes in its header. -/
def Covers (cover covered : LineParts) : Prop :=
  cover.before.length ≤ covered.before.length ∧
    covered.before.length < cover.before.length + cover.region.length

theorem shut_before_other {parts others : LineParts} (hfind : findLines name ls = some parts)
    (hothers : findLines other ls = some others) (hle : others.before.length ≤ parts.before.length) :
    Shut name others.before := by
  obtain ⟨hlines, -⟩ := findLines_eq_some hfind
  obtain ⟨hlines', -⟩ := findLines_eq_some hothers
  obtain ⟨header, rest, m, hregion, hheader, hstruct, -⟩ := exists_header hothers
  rw [← hlines, List.append_assoc, List.append_assoc] at hlines'
  obtain ⟨more, hbefore, hmore⟩ := exists_of_append_eq hlines' hle
  have hshut := shut_before hfind
  rw [hbefore] at hshut
  have hcut : more ++ (parts.region ++ parts.after) = header :: (rest ++ others.after) := by
    rw [← hmore, hregion]
    rfl
  exact hshut.of_append_left hcut hheader hstruct

theorem before_or_behind (layout : Layout name) (hother : Unblank other) (hne : name ≠ other)
    {cover : LineParts} (hcover : findLines other (before ++ layout.lines ++ after) = some cover)
    (hnot : cover.before.length ≤ before.length →
      cover.before.length + cover.region.length ≤ before.length) :
    (∃ between, cover.before = before ++ layout.lines ++ between) ∨
      cover.before.length ≤ before.length ∧ ∃ between,
        before = cover.before ++ cover.region ++ between ∧
          cover.after = between ++ layout.lines ++ after := by
  obtain ⟨hlines, -⟩ := findLines_eq_some hcover
  rcases Nat.le_total before.length cover.before.length with hle | hle
  · left
    obtain ⟨header, rest, m, hregion, hheader, -⟩ := exists_header hcover
    have hmem : header ∉ layout.lines := fun hmem =>
      not_isHeader_of_mem_lines layout hother hne hmem hheader
    have hcut : before ++ (layout.lines ++ after) =
        cover.before ++ header :: (rest ++ cover.after) := by
      rw [← List.append_assoc, ← hlines, hregion]
      simp
    obtain ⟨between, hbefore, -⟩ := exists_between layout hmem hcut hle
    exact ⟨between, by rw [hbefore, List.append_assoc]⟩
  · right
    rw [List.append_assoc before] at hlines
    obtain ⟨between, hbefore, hafter⟩ := exists_of_append_eq hlines (by simpa using hnot hle)
    exact ⟨hle, between, hbefore, by rw [hafter, List.append_assoc]⟩

section Splice
variable (layout : Layout name) (fresh : Layout other) (hne : name ≠ other)
include hne

/-- A block that is covered stands after a splice iff another copy of it stands behind the region. -/
theorem standsIn_covered_iff {cover covered : LineParts} (hcover : findLines other ls = some cover)
    (hcovered : findLines name ls = some covered) (h : Covers cover covered) :
    layout.StandsIn (cover.before ++ fresh.lines ++ closing cover.after) ↔
      layout.StandsIn cover.after := by
  have hnot : ¬layout.StandsIn (cover.before ++ [[]]) := by
    rw [standsIn_append_blank_iff]
    rintro ⟨before, between, hbefore, hshut⟩
    have hfind := findLines_layout layout hshut (between ++ (cover.region ++ cover.after))
    have hsame : before ++ layout.lines ++ (between ++ (cover.region ++ cover.after)) = ls := by
      obtain ⟨hlines, -⟩ := findLines_eq_some hcover
      rw [← hlines, hbefore]
      simp
    rw [hsame, hcovered] at hfind
    cases hfind
    have hle := h.1
    have hlength := layout.length_lines
    rw [hbefore] at hle
    simp only [List.length_append] at hle
    omega
  rw [standsIn_around_iff layout fresh hne, standsIn_closing_iff]
  exact ⟨fun hstands => (hstands.resolve_left hnot).2,
    fun hafter => .inr ⟨shut_before_other hcovered hcover h.1, hafter⟩⟩

theorem standsIn_replaced_iff {cover parts : LineParts} (hfind : findLines name ls = some parts)
    (hcover : findLines other ls = some cover) (hnot : ¬Covers cover parts) :
    layout.StandsIn (cover.before ++ fresh.lines ++ closing cover.after) ↔ layout.StandsIn ls := by
  simp only [Covers, not_and, Nat.not_lt] at hnot
  rw [standsIn_around_iff layout fresh hne, standsIn_append_blank_iff, standsIn_closing_iff]
  constructor
  · obtain ⟨hlines, -⟩ := findLines_eq_some hcover
    rintro (⟨before, between, hbefore, hshut⟩ | ⟨hshut, between, after, hafter, hend, hbetween⟩)
    · obtain ⟨header, rest, m, hregion, -⟩ := exists_header hcover
      refine ⟨before, between ++ (cover.region ++ cover.after), ?_, by simp [hregion], hshut⟩
      rw [← hlines, hbefore]
      simp
    · rw [hafter] at hlines
      have hsame : cover.before ++ cover.region ++ (between ++ (layout.lines ++ after)) = ls := by
        rw [← hlines]
        simp
      have hbefore := before_eq_of_behind layout (by rw [hsame]; exact hfind) hshut hbetween hnot
      refine ⟨parts.before, after, ?_, hend, shut_before hfind⟩
      rw [← hsame, hbefore]
      simp
  · rintro ⟨before, after, rfl, hafter, hshut⟩
    have hparts := findLines_layout layout hshut after
    rw [hparts] at hfind
    cases hfind
    rcases before_or_behind layout (unblank_of_unspaced fresh.unspaced_name) hne hcover hnot with
      ⟨between, hbefore⟩ | ⟨hle, between, hbehind, hrest⟩
    · exact .inl ⟨before, between, hbefore, hshut⟩
    · refine .inr ⟨shut_before_other hparts hcover hle, between, after, hrest, hafter, ?_⟩
      rw [hbehind] at hshut
      exact hshut.of_append_right

theorem standsIn_appended_iff {parts : LineParts} {pad : List (List Char)}
    (hfind : findLines name ls = some parts)
    (hlong : parts.before.length + layout.lines.length < ls.length) (hpad : pad = [] ∨ pad = [[]]) :
    layout.StandsIn (ls ++ pad ++ fresh.lines ++ [[]]) ↔ layout.StandsIn ls := by
  rw [standsIn_around_iff layout fresh hne, standsIn_append_pad_iff layout hpad,
    standsIn_append_blank_iff, or_iff_left fun hblank => not_standsIn_blank layout hblank.2]
  constructor
  · rintro ⟨before, after, heq, hshut⟩
    refine ⟨before, after, heq, ?_, hshut⟩
    rintro rfl
    rw [heq, findLines_layout layout hshut []] at hfind
    cases hfind
    rw [heq] at hlong
    simp at hlong
  · rintro ⟨before, after, heq, -, hshut⟩
    exact ⟨before, after, heq, hshut⟩

/-- A block that is not covered stands after a splice iff it stood before. -/
theorem standsIn_splits_iff {parts : LineParts} {placement : Placement}
    (hfind : findLines name ls = some parts)
    (hlong : parts.before.length + layout.lines.length < ls.length)
    (hsplits : Splits other ls placement before after)
    (hnot : ∀ cover, findLines other ls = some cover → ¬Covers cover parts) :
    layout.StandsIn (before ++ fresh.lines ++ after) ↔ layout.StandsIn ls := by
  cases hsplits with
  | @replaced cover found => exact standsIn_replaced_iff layout fresh hne hfind found (hnot cover found)
  | @appended pad none _ blank => exact standsIn_appended_iff layout fresh hne hfind hlong blank

end Splice

/-! ## Import clauses -/

section Widening
variable {packages : Packages} {widened : List String} (layout : Layout name)

/-- With no copy of it in front and behind lines that are shut, the first of which is none of its own,
a block stands iff the first region of its type begins beyond any place among these lines. -/
theorem standsIn_behind_iff {start region : List (List Char)} {parts : LineParts} {place : Nat}
    (hfind : findLines name (start ++ (region ++ (layout.lines ++ after))) = some parts)
    (hregion : Shut name region) (hafter : after ≠ [])
    (hhead : ∃ first others, region = first :: others ∧ first ∉ layout.lines)
    (hfront : ∀ before' more, start ≠ before' ++ (layout.lines ++ more))
    (hge : start.length ≤ place) (hlt : place < start.length + region.length) :
    layout.StandsIn (start ++ (region ++ (layout.lines ++ after))) ↔ place < parts.before.length := by
  obtain ⟨hlines, -⟩ := findLines_eq_some hfind
  constructor
  · intro hstands
    obtain ⟨hblock, -⟩ := (standsIn_iff_of_findLines layout hfind).mp hstands
    rcases Nat.le_total start.length parts.before.length with hle | hle
    · rw [before_eq_of_shut layout hfind hregion hle, List.length_append]
      exact hlt
    · obtain ⟨first, others, rfl, hfirst⟩ := hhead
      rw [hblock, List.append_assoc] at hlines
      obtain ⟨more, hstart, -⟩ := exists_between layout hfirst hlines hle
      exact absurd hstart (hfront _ more)
  · intro hbeyond
    have hbefore := before_eq_of_shut layout hfind hregion (by omega)
    exact ⟨parts.before, after, by rw [hbefore]; simp, hafter, shut_before hfind⟩

/-- A new clause, put before the block: it stands iff no region of its type begins before the
clause. -/
theorem standsIn_of_clause_before {start old new rest : List String} (hbefore : before ≠ [])
    (hshut : Shut name before) (hafter : after ≠ []) (hne : packages ≠ [])
    (hplaced : Placed ((before ++ layout.lines ++ after).map String.ofList) packages start old new
      rest)
    (hlines : (before ++ layout.lines ++ after).map String.ofList = start ++ (old ++ rest)) :
    ∃ parts, findLines name ((start ++ (new ++ rest)).map String.toList) = some parts ∧
      parts.before.length + layout.lines.length < (start ++ (new ++ rest)).length ∧
      (layout.StandsIn ((start ++ (new ++ rest)).map String.toList) ↔
        clauseLine ((before ++ layout.lines ++ after).map String.ofList) < parts.before.length) := by
  obtain ⟨hge, hlt⟩ := hplaced.clauseLine_bounds hne (by simp [hbefore])
  obtain ⟨first, others, rfl, hhead⟩ := hplaced.exists_head hne
  obtain ⟨between, rfl, hchars, hheaders⟩ := exists_of_placed_before layout hbefore hplaced hlines
  have hregion : Shut name ((first :: others).map String.toList ++ between) :=
    (shut_of_forall_not_isHeader hheaders).append hshut.of_append_right.of_append_right
  have hfront : ∀ before' more, start.map String.toList ≠ before' ++ (layout.lines ++ more) := by
    -- A block in front of the clause would have kept the lines before the other one from being shut.
    intro before' more hstart
    rw [hstart] at hshut
    refine layout.not_shut_of_struct before'
      (layout.tail ++ (more ++ (old.map String.toList ++ between))) ?_
    simpa [Layout.lines] using hshut
  obtain ⟨parts, hfind, hle⟩ := exists_findLines layout
    (start.map String.toList ++ ((first :: others).map String.toList ++ between)) after
  have hlength := congrArg List.length hchars
  have hpos := List.length_pos_iff.mpr hafter
  simp only [List.length_append, List.length_map] at hle hlength
  refine ⟨parts, by rw [hchars, hfind], by simp only [List.length_append]; omega, ?_⟩
  rw [List.append_assoc _ layout.lines, List.append_assoc (start.map String.toList)] at hfind hchars
  rw [hchars]
  refine standsIn_behind_iff layout hfind hregion hafter ?_ hfront (by simpa using hge) ?_
  · exact ⟨first.toList, others.map String.toList ++ between, rfl, layout.not_mem_lines hhead⟩
  · simp only [List.length_append, List.length_map]
    omega

theorem standsIn_of_clause_inside (hafter : after ≠ []) (hne : packages ≠ [])
    (hmerge : Imports.merge ((layout.lines ++ after).map String.ofList) packages = .ok widened) :
    ∃ parts, findLines name (widened.map String.toList) = some parts ∧
      parts.before.length + layout.lines.length < widened.length ∧
      (layout.StandsIn (widened.map String.toList) ↔
        clauseLine ((layout.lines ++ after).map String.ofList) < parts.before.length) := by
  have hfind := findLines_of_first layout hne hmerge
  obtain ⟨hlines, -⟩ := findLines_eq_some hfind
  have hlength := congrArg List.length hlines
  have hpos := List.length_pos_iff.mpr hafter
  simp only [Layout.lines, List.length_append, List.length_cons, List.length_map,
    List.length_nil] at hlength ⊢
  refine ⟨_, hfind, by simp only [List.length_nil]; omega, ?_⟩
  refine iff_of_false ?_ (Nat.not_lt_zero _)
  intro hstands
  have hblock := congrArg List.length ((standsIn_iff_of_findLines layout hfind).mp hstands).1
  simp [Layout.lines, framed] at hblock
  omega

/-- A block stands once packages are imported iff no region of its type begins before the clause. -/
theorem standsIn_widened_iff (hclean : Clean ls) (hne : packages ≠ []) (hstands : layout.StandsIn ls)
    (hmerge : Imports.merge (ls.map String.ofList) packages = .ok widened) :
    ∃ parts, findLines name (widened.map String.toList) = some parts ∧
      parts.before.length + layout.lines.length < widened.length ∧
      (layout.StandsIn (widened.map String.toList) ↔
        clauseLine (ls.map String.ofList) < parts.before.length) := by
  obtain ⟨before, after, rfl, hafter, hshut⟩ := hstands
  by_cases hbefore : before = []
  · subst hbefore
    exact standsIn_of_clause_inside layout hafter hne hmerge
  · obtain ⟨start, old, new, rest, hplaced, hold, rfl⟩ :=
      exists_of_merge (cleanLines_of_clean hclean) hne hmerge
    exact standsIn_of_clause_before layout hbefore hshut hafter hne hplaced hold

end Widening

end

/-! ## Merges -/

section Merge
variable {kept new : Block} {text : String}

/-- What it takes for a block that stands in a text to stand there once a block of another type is
merged. -/
structure Outlives (kept new : Block) (text : String) : Prop where
  /-- If the region that is replaced covers the block, another copy stands behind it. -/
  copied : ∀ cover covered,
    findLines new.typeName.toList (widenedLines text new.dependencies) = some cover →
    findLines kept.typeName.toList (widenedLines text new.dependencies) = some covered →
    Covers cover covered → Stands kept (String.ofList (joined cover.after))
  /-- If it is not covered and packages are needed, no region of its type begins before the clause. -/
  behind : new.dependencies ≠ [] → ∀ parts,
    findLines kept.typeName.toList (widenedLines text new.dependencies) = some parts →
    (∀ cover, findLines new.typeName.toList (widenedLines text new.dependencies) = some cover →
      ¬Covers cover parts) → clauseLine (lines text) < parts.before.length

/-- What it takes for a block to stand in a text once a block of another type is merged, whether or not
it stood there before. -/
def Remains (kept new : Block) (text : String) : Prop :=
  match findLines new.typeName.toList (widenedLines text new.dependencies) with
  | some cover =>
    Stands kept (String.ofList (terminated cover.before)) ∨
      (Shut kept.typeName.toList cover.before ∧ Stands kept (String.ofList (joined cover.after)))
  | none => Stands kept (String.ofList (terminated (widenedLines text new.dependencies)))

theorem stands_terminated_iff {ls : List (List Char)} (formed : kept.Formed) (hls : Clean ls) :
    Stands kept (String.ofList (terminated ls)) ↔ formed.layout.StandsIn (ls ++ [[]]) :=
  stands_iff formed.layout formed.text (hls.append (by simp [Clean]))
    (by rw [String.toList_ofList, terminated_eq_joined])

theorem exists_splits_of_patch {merged : Merged} (formed : kept.Formed) (fresh : new.Formed)
    (h : patch text new.typeName new.text new.dependencies = .ok merged) :
    ∃ widened placement before after, Imports.merge (lines text) new.dependencies = .ok widened ∧
      Clean (widened.map String.toList) ∧
      Splits new.typeName.toList (widened.map String.toList) placement before after ∧
      (Stands kept merged.text ↔
        formed.layout.StandsIn (before ++ fresh.layout.lines ++ after)) := by
  obtain ⟨widened, placement, before, after, hmerge, hclean, hsplits, hresult, htext⟩ :=
    exists_parts_of_patch fresh h
  exact ⟨widened, placement, before, after, hmerge, hclean, hsplits,
    stands_iff formed.layout formed.text hresult (by rw [htext, String.toList_ofList])⟩

/-- Exactly when a block stands after the merge of another one. -/
theorem stands_iff_remains {merged : Merged} (formed : kept.Formed) (fresh : new.Formed)
    (hne : kept.typeName ≠ new.typeName)
    (h : patch text new.typeName new.text new.dependencies = .ok merged) :
    Stands kept merged.text ↔ Remains kept new text := by
  obtain ⟨widened, placement, before, after, hmerge, hclean, hsplits, hstands⟩ :=
    exists_splits_of_patch formed fresh h
  obtain ⟨hbefore, -⟩ := hsplits.clean hclean
  have hnames := mt String.toList_inj.mp hne
  rw [hstands, standsIn_around_iff formed.layout fresh.layout hnames, Remains, widenedLines_eq hmerge]
  -- With a region of the new type the block is looked for around it, else in all lines.
  cases hsplits with
  | @replaced cover found =>
    obtain ⟨-, -, hrest⟩ := clean_of_findLines found hclean
    rw [found]
    dsimp only
    rw [stands_terminated_iff formed hbefore, standsIn_closing_iff,
      stands_iff formed.layout formed.text hrest (String.toList_ofList (l := joined _))]
  | @appended pad none _ blank =>
    rw [none]
    dsimp only
    rw [stands_terminated_iff formed hclean, standsIn_append_pad_iff formed.layout blank]
    exact or_iff_left fun hblank => not_standsIn_blank formed.layout hblank.2

theorem exists_of_widened (formed : kept.Formed) {packages : Packages} {widened : List String}
    (hstands : Stands kept text) (hmerge : Imports.merge (lines text) packages = .ok widened) :
    ∃ parts, findLines kept.typeName.toList (widened.map String.toList) = some parts ∧
      parts.before.length + formed.layout.lines.length < widened.length ∧
      (formed.layout.StandsIn (widened.map String.toList) ↔
        (packages ≠ [] → clauseLine (lines text) < parts.before.length)) := by
  obtain ⟨ls, hls, hne, htext⟩ := exists_lines text.toList
  have hlines := lines_eq hls hne htext.symm
  have hin := (stands_iff formed.layout formed.text hls htext.symm).mp hstands
  by_cases hnone : packages = []
  · subst hnone
    cases hmerge
    rw [hlines, map_toList_ofList]
    obtain ⟨before, after, rfl, hafter, hshut⟩ := hin
    have hafterPos := List.length_pos_iff.mpr hafter
    refine ⟨_, findLines_layout formed.layout hshut after, ?_, ?_⟩
    · simp only [List.length_map, List.length_append]
      omega
    · exact iff_of_true ⟨before, after, rfl, hafter, hshut⟩ (absurd rfl)
  · rw [hlines] at hmerge ⊢
    simpa [hnone] using standsIn_widened_iff formed.layout hls hnone hin hmerge

theorem outlives_iff {widened : List String} {parts : LineParts}
    (hmerge : Imports.merge (lines text) new.dependencies = .ok widened)
    (hfind : findLines kept.typeName.toList (widened.map String.toList) = some parts) :
    Outlives kept new text ↔
      (∀ cover, findLines new.typeName.toList (widened.map String.toList) = some cover →
        Covers cover parts → Stands kept (String.ofList (joined cover.after))) ∧
      (new.dependencies ≠ [] →
        (∀ cover, findLines new.typeName.toList (widened.map String.toList) = some cover →
          ¬Covers cover parts) → clauseLine (lines text) < parts.before.length) := by
  have hwidened := widenedLines_eq hmerge
  constructor
  · intro houtlives
    refine ⟨fun cover hcover hcovers => ?_, fun hne hnot => ?_⟩
    · exact houtlives.copied cover parts (by rw [hwidened, hcover]) (by rw [hwidened, hfind]) hcovers
    · exact houtlives.behind hne parts (by rw [hwidened, hfind]) (by rw [hwidened]; exact hnot)
  · rintro ⟨hcopied, hbehind⟩
    constructor
    · intro cover covered hcover hcovered hcovers
      rw [hwidened] at hcover hcovered
      rw [hfind] at hcovered
      cases hcovered
      exact hcopied cover hcover hcovers
    · intro hne covered hcovered hnot
      rw [hwidened] at hcovered hnot
      rw [hfind] at hcovered
      cases hcovered
      exact hbehind hne hnot

theorem outlives_iff_of_covers {widened : List String} {cover parts : LineParts}
    (hmerge : Imports.merge (lines text) new.dependencies = .ok widened)
    (hfind : findLines kept.typeName.toList (widened.map String.toList) = some parts)
    (hcover : findLines new.typeName.toList (widened.map String.toList) = some cover)
    (hcovers : Covers cover parts) :
    Outlives kept new text ↔ Stands kept (String.ofList (joined cover.after)) := by
  rw [outlives_iff hmerge hfind]
  constructor
  · intro houtlives
    exact houtlives.1 cover hcover hcovers
  · intro hcopy
    refine ⟨fun found hfound _ => ?_, fun _ hnot => absurd hcovers (hnot cover hcover)⟩
    rw [hcover] at hfound
    cases hfound
    exact hcopy

theorem outlives_iff_of_not_covers {widened : List String} {parts : LineParts}
    (hmerge : Imports.merge (lines text) new.dependencies = .ok widened)
    (hfind : findLines kept.typeName.toList (widened.map String.toList) = some parts)
    (hnot : ∀ cover, findLines new.typeName.toList (widened.map String.toList) = some cover →
      ¬Covers cover parts) :
    Outlives kept new text ↔
      (new.dependencies ≠ [] → clauseLine (lines text) < parts.before.length) := by
  rw [outlives_iff hmerge hfind]
  constructor
  · intro houtlives hdependencies
    exact houtlives.2 hdependencies hnot
  · intro hbehind
    exact ⟨fun cover hcover hcovers => absurd hcovers (hnot cover hcover),
      fun hdependencies _ => hbehind hdependencies⟩

/-- Exactly when a block outlives the merge of another one. -/
theorem stands_iff_outlives {merged : Merged} (formed : kept.Formed) (fresh : new.Formed)
    (hne : kept.typeName ≠ new.typeName) (hstands : Stands kept text)
    (h : patch text new.typeName new.text new.dependencies = .ok merged) :
    Stands kept merged.text ↔ Outlives kept new text := by
  obtain ⟨widened, placement, before, after, hmerge, hclean, hsplits, hmerged⟩ :=
    exists_splits_of_patch formed fresh h
  obtain ⟨parts, hfind, hlong, hwidened⟩ := exists_of_widened formed hstands hmerge
  have hnames := mt String.toList_inj.mp hne
  rw [hmerged]
  -- A block that is covered is taken out and has to have a copy; one that is not is at most moved.
  by_cases hcovered : ∃ cover,
      findLines new.typeName.toList (widened.map String.toList) = some cover ∧ Covers cover parts
  · obtain ⟨cover, hcover, hcovers⟩ := hcovered
    obtain ⟨-, -, hafter⟩ := clean_of_findLines hcover hclean
    rw [outlives_iff_of_covers hmerge hfind hcover hcovers,
      stands_iff formed.layout formed.text hafter (String.toList_ofList (l := joined _))]
    cases hsplits with
    | appended none => simp [hcover] at none
    | replaced found =>
      rw [hcover] at found
      cases found
      exact standsIn_covered_iff formed.layout fresh.layout hnames hcover hfind hcovers
  · have hnot : ∀ cover, findLines new.typeName.toList (widened.map String.toList) = some cover →
        ¬Covers cover parts := fun cover hcover hcovers => hcovered ⟨cover, hcover, hcovers⟩
    rw [outlives_iff_of_not_covers hmerge hfind hnot, ← hwidened]
    exact standsIn_splits_iff formed.layout fresh.layout hnames hfind (by simpa using hlong) hsplits
      hnot

end Merge

end RowTypes.SourceFile
