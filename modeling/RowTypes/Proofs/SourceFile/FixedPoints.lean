import RowTypes.Proofs.SourceFile.Splicing

/-!
Texts that a merge leaves alone. A text with a block is such a text iff the block stands in it and
the clause of its imports is left alone, or the block comes first: then a new clause falls into the
block and is removed with the old one.

What is proved:
  1. `eq_of_findLines_changed`: lines before a block that change move the block, or another region
     takes its place.
  2. `fixed_iff`: the texts that a merge leaves alone.
-/

namespace RowTypes.SourceFile

open Text Region

/-! ## Lines that change before a block -/

section Changed
variable {name : List Char} {before after start old new rest : List (List Char)}
  {parts : LineParts}

theorem exists_findLines (layout : Layout name) (before after : List (List Char)) :
    ∃ parts, findLines name (before ++ layout.lines ++ after) = some parts ∧
      parts.before.length ≤ before.length := by
  rw [List.append_assoc]
  exact exists_findLines_of_region (layout.regionLength?_lines after) before

theorem eq_of_layout {before' after' : List (List Char)} (layout : Layout name)
    (hbefore : Shut name before) (hbefore' : Shut name before')
    (h : before ++ layout.lines ++ after = before' ++ layout.lines ++ after') : before = before' := by
  have hfind := findLines_layout layout hbefore after
  rw [h, findLines_layout layout hbefore' after'] at hfind
  exact (LineParts.mk.inj (Option.some.inj hfind)).1.symm

/-- If the first region still stands behind the same lines, the lines before it did not change. -/
theorem eq_of_findLines_changed (layout : Layout name) (hshut : Shut name (start ++ (old ++ rest)))
    (hnew : ∀ line ∈ new, ¬isHeader name line)
    (hfind : findLines name (start ++ (new ++ rest) ++ layout.lines ++ after) = some parts)
    (hbefore : parts.before = start ++ (old ++ rest)) : new = old := by
  have hshutNew : Shut name (new ++ rest) :=
    (shut_of_forall_not_isHeader hnew).append hshut.of_append_right.of_append_right
  obtain ⟨found, hfound, hle⟩ := exists_findLines layout (start ++ (new ++ rest)) after
  rw [hfind] at hfound
  cases hfound
  obtain ⟨hlines, -⟩ := findLines_eq_some hfind
  have hge : start.length + (new ++ rest).length ≤ parts.before.length := by
    refine le_before_of_shut start (layout.lines ++ after) ?_ hshutNew (by simp [hbefore])
    rw [← hfind]
    simp
  rw [hbefore] at hlines hle hge
  simp only [List.length_append] at hle hge
  have htail : old ++ (rest ++ (parts.region ++ parts.after)) =
      new ++ (rest ++ (layout.lines ++ after)) := by
    have hall : start ++ (old ++ (rest ++ (parts.region ++ parts.after))) =
        start ++ (new ++ (rest ++ (layout.lines ++ after))) := by
      simpa using hlines
    exact List.append_cancel_left hall
  exact (List.append_inj_left htail (by omega)).symm

end Changed

/-! ## Lines as texts -/

theorem lines_eq {ls : List (List Char)} {text : String} (hls : Clean ls) (hne : ls ≠ [])
    (htext : text.toList = joined ls) : lines text = ls.map String.ofList := by
  rw [lines, htext, splitOn_joined hls hne]

theorem toList_ofLines (widened : List String) :
    (ofLines widened).toList = joined (widened.map String.toList) := by
  rw [ofLines, String.toList_intercalate]
  rfl

theorem map_toList_ofList (ls : List (List Char)) : (ls.map String.ofList).map String.toList = ls := by
  simp

theorem map_ofList_toList (texts : List String) :
    (texts.map String.toList).map String.ofList = texts := by
  simp

theorem ofLines_lines (text : String) : ofLines (lines text) = text := by
  rw [← String.toList_inj, toList_ofLines, lines, map_toList_ofList, joined_splitOn]

theorem cleanLines_lines (text : String) : Imports.CleanLines (lines text) := by
  intro line hline
  obtain ⟨chars, hchars, rfl⟩ := List.mem_map.mp hline
  rw [String.toList_ofList]
  exact clean_splitOn _ chars hchars

/-- The lines of a text once packages are imported, if they can be. -/
def widenedLines (text : String) (packages : Packages) : List (List Char) :=
  match Imports.merge (lines text) packages with
  | .ok widened => widened.map String.toList
  | .error _ => []

theorem widenedLines_eq {text : String} {packages : Packages} {widened : List String}
    (h : Imports.merge (lines text) packages = .ok widened) :
    widenedLines text packages = widened.map String.toList := by
  rw [widenedLines, h]

theorem lines_ne_nil (text : String) : lines text ≠ [] := by
  simp [lines, List.splitOn_ne_nil]

/-! ## Texts that a merge leaves alone -/

section Fixed
variable {block : Block} {text : String}

/-- A merge into the text succeeds and gives the same text. -/
def Fixed (block : Block) (text : String) : Prop :=
  ∃ merged, patch text block.typeName block.text block.dependencies = .ok merged ∧ merged.text = text

theorem exists_of_patch {typeName blockText : String} {dependencies : Packages} {merged : Merged}
    (h : patch text typeName blockText dependencies = .ok merged) :
    ∃ widened placement, Imports.merge (lines text) dependencies = .ok widened ∧
      splice (ofLines widened) typeName blockText = .ok (merged.text, placement) ∧
      merged.outcome = placement.outcome := by
  unfold patch at h
  split at h
  · simp at h
  · next widened hwidened =>
    split at h
    · simp at h
    · next result placement hsplice =>
      cases h
      exact ⟨widened, placement, hwidened, hsplice, rfl⟩

theorem patch_ok {typeName blockText result : String} {dependencies : Packages}
    {widened : List String} {placement : Placement}
    (hmerge : Imports.merge (lines text) dependencies = .ok widened)
    (hsplice : splice (ofLines widened) typeName blockText = .ok (result, placement)) :
    patch text typeName blockText dependencies = .ok ⟨result, placement.outcome⟩ := by
  simp only [patch, hmerge, hsplice]

theorem clean_of_cleanLines {texts : List String} (h : Imports.CleanLines texts) :
    Clean (texts.map String.toList) :=
  List.forall_mem_map.mpr h

theorem cleanLines_of_clean {ls : List (List Char)} (h : Clean ls) :
    Imports.CleanLines (ls.map String.ofList) := by
  refine List.forall_mem_map.mpr fun line hline => ?_
  rw [String.toList_ofList]
  exact h line hline

theorem cleanLines_of_merge {packages : Packages} {widened : List String}
    (hplain : Imports.Plain packages) (h : Imports.merge (lines text) packages = .ok widened) :
    Imports.CleanLines widened := by
  have hlines := cleanLines_lines text
  by_cases hne : packages = []
  · subst hne
    cases h
    exact hlines
  obtain ⟨start, old, new, rest, hplaced, hold, rfl⟩ :=
    Imports.exists_of_merge (cleanLines_lines text) hne h
  rw [hold] at hlines
  intro line hline
  rcases List.mem_append.mp hline with hmem | hmem
  · exact hlines line (by simp [hmem])
  · rcases List.mem_append.mp hmem with hnew | hrest
    · exact hplaced.cleanLines (cleanLines_lines text) hplain line hnew
    · exact hlines line (by simp [hrest])

theorem ne_nil_of_merge {packages : Packages} {widened : List String}
    (h : Imports.merge (lines text) packages = .ok widened) : widened ≠ [] := by
  by_cases hne : packages = []
  · subst hne
    cases h
    exact lines_ne_nil text
  obtain ⟨start, old, new, rest, hplaced, -, rfl⟩ :=
    Imports.exists_of_merge (cleanLines_lines text) hne h
  obtain ⟨first, others, hnew, -⟩ := hplaced.exists_head hne
  simp [hnew]

/-- A patched text, by its lines: the clause is widened, and the block is put between the parts of
what that gives. -/
theorem exists_parts_of_patch {merged : Merged} (formed : block.Formed)
    (h : patch text block.typeName block.text block.dependencies = .ok merged) :
    ∃ widened placement before after, Imports.merge (lines text) block.dependencies = .ok widened ∧
      Clean (widened.map String.toList) ∧
      Splits block.typeName.toList (widened.map String.toList) placement before after ∧
      Clean (before ++ formed.layout.lines ++ after) ∧
      merged.text = String.ofList (joined (before ++ formed.layout.lines ++ after)) := by
  obtain ⟨widened, placement, hmerge, hsplice, -⟩ := exists_of_patch h
  have hclean := clean_of_cleanLines (cleanLines_of_merge formed.plain hmerge)
  obtain ⟨before, after, hsplits, htext⟩ := exists_of_splice formed.layout.clean_name hclean
    (by simpa using ne_nil_of_merge hmerge) (toList_ofLines widened) formed.text hsplice
  obtain ⟨hbefore, hafter⟩ := hsplits.clean hclean
  exact ⟨widened, placement, before, after, hmerge, hclean, hsplits,
    (hbefore.append formed.layout.clean_lines).append hafter, htext⟩

theorem stands_of_patch {merged : Merged} (formed : block.Formed)
    (h : patch text block.typeName block.text block.dependencies = .ok merged) :
    Stands block merged.text := by
  obtain ⟨widened, placement, -, hsplice, -⟩ := exists_of_patch h
  exact stands_of_splice formed.layout formed.text hsplice

theorem fixed_of_merge (formed : block.Formed) (hstands : Stands block text)
    (hmerge : Imports.merge (lines text) block.dependencies = .ok (lines text)) :
    Fixed block text := by
  have hsplice := splice_of_stands formed.layout formed.text hstands
  exact ⟨_, patch_ok hmerge (by rw [ofLines_lines]; exact hsplice), rfl⟩

/-! ## A block that comes first -/

section First
variable {packages : Packages} {after : List (List Char)} {name : List Char}

theorem merge_of_first (layout : Layout name) (after : List (List Char)) (hne : packages ≠ []) :
    Imports.merge ((layout.lines ++ after).map String.ofList) packages =
      .ok (String.ofList (header name) :: (Imports.framed packages ++
        (layout.struct ++ layout.tail ++ after).map String.ofList)) := by
  have hlength := layout.length_lines
  have hfind : Imports.find? ((layout.lines ++ after).map String.ofList) = .ok none := by
    refine Imports.find?_of_forall_not fun line hline => ?_
    obtain ⟨i, chars, hi, hchars, rfl⟩ :=
      layout.exists_of_mem_take (Nat.le_refl _) hline
    exact layout.not_isImportLine_of_lt hi hchars
  have hblank : Imports.firstBlank? ((layout.lines ++ after).map String.ofList) = none := by
    rw [Imports.firstBlank?, Option.map_eq_none_iff, List.findIdx?_eq_none_iff]
    intro line hline
    obtain ⟨i, chars, hi, hchars, rfl⟩ :=
      layout.exists_of_mem_take (Nat.le_refl _) (List.mem_of_mem_drop hline)
    simpa using layout.not_isAllWhite_of_mem (List.mem_of_getElem? hchars)
  have hempty : ¬packages.isEmpty := by simpa using hne
  have hlong : ¬((layout.lines ++ after).map String.ofList).length ≤ 1 := by
    simp only [List.length_map, List.length_append]
    omega
  rw [Imports.merge, if_neg hempty, hfind]
  simp only [Imports.insertClause, if_neg hlong, hblank, Imports.replaceLines, Imports.framed]
  simp [Layout.lines]

theorem not_begins_of_isWritten {line : String} {c : Char} (h : Imports.IsWritten line)
    (hc : some c ∉ [none, some 'i', some '\t', some ')']) : ¬begins c line.toList := by
  intro hbegins
  have hhead : line.toList.head? = some c := by simpa [begins] using hbegins
  rw [Imports.IsWritten, hhead] at h
  exact hc h

theorem not_isHeader_of_isWritten {line : String} (h : Imports.IsWritten line) :
    ¬isHeader name line.toList :=
  fun hheader => not_begins_of_isWritten h (by decide) (begins_of_isHeader hheader)

theorem isWritten_of_mem_framed {line : String} (h : line ∈ Imports.framed packages) :
    Imports.IsWritten line := by
  simp only [Imports.framed, List.mem_append, List.mem_singleton] at h
  rcases h with (rfl | hmem) | rfl
  · decide
  · exact Imports.isWritten_of_mem_render hmem
  · decide

theorem findLines_of_inserted (layout : Layout name) (inserted after : List (List Char))
    (hinserted : ∀ line ∈ inserted, ¬begins '\x7d' line) :
    findLines name (header name :: (inserted ++ (layout.struct ++ layout.tail ++ after))) =
      some ⟨[], header name :: (inserted ++ (layout.struct ++ layout.tail)), after⟩ := by
  have hheader := isHeader_header (unblank_of_unspaced layout.unspaced_name)
  have hnone : ¬HasBrace inserted := fun ⟨line, hmem, hbrace⟩ => hinserted line hmem hbrace
  -- The struct goes on to the brace that ended it, since the lines that were put in have none.
  have hstruct : structLength? (inserted ++ (layout.struct ++ layout.tail ++ after)) =
      some (inserted.length + layout.struct.length) := by
    rw [List.append_assoc layout.struct]
    exact structLength?_append_of_not_hasBrace hnone (layout.structLength?_struct _)
  have hdrop : (inserted ++ (layout.struct ++ layout.tail ++ after)).drop
      (inserted.length + layout.struct.length) = layout.tail ++ after := by
    rw [List.append_assoc layout.struct, ← List.append_assoc inserted,
      List.drop_left' (List.length_append)]
  have hregion : regionLength? name
      (header name :: (inserted ++ (layout.struct ++ layout.tail ++ after))) =
        some (header name :: (inserted ++ (layout.struct ++ layout.tail))).length := by
    rw [regionLength?, if_pos hheader, hstruct, Option.map_some, hdrop, layout.constantsLength?_tail]
    simp
    omega
  have hsplit : header name :: (inserted ++ (layout.struct ++ layout.tail ++ after)) =
      (header name :: (inserted ++ (layout.struct ++ layout.tail))) ++ after := by simp
  rw [findLines_cons, hregion]
  simp only [hsplit, List.take_left, List.drop_left]

/-- The first region behind a new clause that was put into a block that comes first: it takes in the
clause. -/
theorem findLines_of_first (layout : Layout name) (hne : packages ≠ []) {widened : List String}
    (hmerge : Imports.merge ((layout.lines ++ after).map String.ofList) packages = .ok widened) :
    findLines name (widened.map String.toList) =
      some ⟨[], header name :: ((Imports.framed packages).map String.toList ++
        (layout.struct ++ layout.tail)), after⟩ := by
  rw [merge_of_first layout after hne] at hmerge
  cases hmerge
  rw [← findLines_of_inserted layout ((Imports.framed packages).map String.toList) after]
  · simp
  · exact List.forall_mem_map.mpr fun _ hmem =>
      not_begins_of_isWritten (isWritten_of_mem_framed hmem) (by decide)

end First

theorem fixed_of_first (formed : block.Formed) (hne : block.dependencies ≠ [])
    (hfirst : block.text.toList <+: text.toList) : Fixed block text := by
  obtain ⟨rest, hrest⟩ := hfirst
  obtain ⟨after, hafter, hafterNe, rfl⟩ := exists_lines rest
  have htext : text.toList = joined (formed.layout.lines ++ after) := by
    rw [joined_append hafterNe, ← formed.text, hrest]
  have hlines := lines_eq (formed.layout.clean_lines.append hafter) (by simp [hafterNe]) htext
  have hmerge := merge_of_first formed.layout after hne
  have hfind := findLines_of_first formed.layout hne hmerge
  rw [← hlines] at hmerge
  have hwidened := clean_of_cleanLines (cleanLines_of_merge formed.plain hmerge)
  have hsplice := splice_of_find formed.layout.clean_name hwidened (toList_ofLines _) formed.text hfind
  refine ⟨_, patch_ok hmerge hsplice, ?_⟩
  rw [← String.toList_inj, String.toList_ofList, htext]
  simp [closing, hafterNe]

/-! ## A block that does not come first -/

theorem exists_of_within {before rest : List (List Char)} {start old tail : List String}
    (hlines : (before ++ rest).map String.ofList = start ++ (old ++ tail))
    (hwithin : start.length + old.length ≤ before.length) :
    ∃ between, before = start.map String.toList ++ (old.map String.toList ++ between) ∧
      tail = between.map String.ofList ++ rest.map String.ofList := by
  rw [List.map_append, ← List.append_assoc start] at hlines
  obtain ⟨between, hbefore, htail⟩ := exists_of_append_eq hlines.symm (by simpa using hwithin)
  refine ⟨between.map String.toList, ?_, ?_⟩
  · have hchars := congrArg (List.map String.toList) hbefore
    rw [map_toList_ofList] at hchars
    simpa using hchars
  · rw [map_ofList_toList]
    exact htail

/-- A clause that is put into a text in which a block stands and does not come first: what it takes the
place of lies before the block. -/
theorem exists_of_placed_before {name : List Char} {packages : Packages}
    {before after : List (List Char)} {start old new rest : List String} (layout : Layout name)
    (hbefore : before ≠ [])
    (hplaced : Imports.Placed ((before ++ layout.lines ++ after).map String.ofList) packages start
      old new rest)
    (hlines : (before ++ layout.lines ++ after).map String.ofList = start ++ (old ++ rest)) :
    ∃ between, before = start.map String.toList ++ (old.map String.toList ++ between) ∧
      (start ++ (new ++ rest)).map String.toList = start.map String.toList ++
        (new.map String.toList ++ between) ++ layout.lines ++ after ∧
      ∀ line ∈ new.map String.toList, ¬isHeader name line := by
  have hwithin := layout.placed_within hbefore hplaced hlines
  rw [List.append_assoc before] at hlines
  obtain ⟨between, hparts, rfl⟩ := exists_of_within hlines hwithin
  exact ⟨between, hparts, by simp, List.forall_mem_map.mpr fun _ hmem =>
    not_isHeader_of_isWritten (hplaced.isWritten hmem)⟩

theorem merge_of_fixed {merged : Merged} {before after : List (List Char)} (formed : block.Formed)
    (hne : block.dependencies ≠ []) (hbefore : before ≠ [])
    (hclean : Clean (before ++ formed.layout.lines ++ after)) (hafter : after ≠ [])
    (hshut : Shut block.typeName.toList before)
    (htext : merged.text.toList = joined (before ++ formed.layout.lines ++ after))
    (hmerged : patch merged.text block.typeName block.text block.dependencies = .ok merged) :
    Imports.merge (lines merged.text) block.dependencies = .ok (lines merged.text) := by
  obtain ⟨widened, placement, before', after', hmerge, -, hsplits, hclean', heq⟩ :=
    exists_parts_of_patch formed hmerged
  have hlines := lines_eq hclean (by simp [hbefore]) htext
  obtain ⟨start, old, new, rest, hplaced, hold, rfl⟩ :=
    Imports.exists_of_merge (cleanLines_lines merged.text) hne hmerge
  rw [hmerge, hold]
  rw [hlines] at hplaced hold
  obtain ⟨between, hparts, hchars, hwritten⟩ :=
    exists_of_placed_before formed.layout hbefore hplaced hold
  rw [hchars] at hsplits
  -- The block comes to stand where it stood, as it is the first region of its type both times.
  have hsame : before' = before := by
    rw [heq, String.toList_ofList] at htext
    exact eq_of_layout formed.layout hsplits.shut hshut (joined_inj hclean' hclean
      (by simp [hsplits.after_ne_nil]) (by simp [hafter]) htext)
  rw [hparts] at hsame hshut
  have hnew : new.map String.toList = old.map String.toList := by
    cases hsplits with
    | replaced found => exact eq_of_findLines_changed formed.layout hshut hwritten found hsame
    | appended none =>
      obtain ⟨parts, hfound, -⟩ := exists_findLines formed.layout
        (start.map String.toList ++ (new.map String.toList ++ between)) after
      rw [none] at hfound
      simp at hfound
  have htexts := congrArg (List.map String.ofList) hnew
  rw [map_ofList_toList, map_ofList_toList] at htexts
  rw [htexts]

/-- The texts that a merge leaves alone: the block stands in them, and the clause is left alone if one
is needed, or the block comes first. -/
theorem fixed_iff (formed : block.Formed) : Fixed block text ↔ Stands block text ∧
    (block.dependencies = [] ∨ block.text.toList <+: text.toList ∨
      Imports.merge (lines text) block.dependencies = .ok (lines text)) := by
  constructor
  · rintro ⟨merged, hmerged, rfl⟩
    have hstands := stands_of_patch formed hmerged
    refine ⟨hstands, ?_⟩
    by_cases hne : block.dependencies = []
    · exact .inl hne
    · right
      obtain ⟨ls, hls, -, htext⟩ := exists_lines merged.text.toList
      obtain ⟨before, after, rfl, hafter, hshut⟩ :=
        (stands_iff formed.layout formed.text hls htext.symm).mp hstands
      by_cases hbefore : before = []
      · left
        subst hbefore
        rw [← htext, formed.text, joined_append hafter]
        exact List.prefix_append _ _
      · right
        exact merge_of_fixed formed hne hbefore hls hafter hshut htext.symm hmerged
  · rintro ⟨hstands, hnone | hfirst | hmerge⟩
    · refine fixed_of_merge formed hstands ?_
      rw [hnone]
      rfl
    · by_cases hne : block.dependencies = []
      · refine fixed_of_merge formed hstands ?_
        rw [hne]
        rfl
      · exact fixed_of_first formed hne hfirst
    · exact fixed_of_merge formed hstands hmerge

end Fixed

end RowTypes.SourceFile
