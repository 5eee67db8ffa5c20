import RowTypes.Proofs.SourceFile.FixedPoints

/-!
Merging a block twice. The first merge widens or inserts the import clause and puts the block into the
text; the second gives the same text iff it finds the clause where the first one left it.

What is proved:
  1. `merge_lines_iff`: when the clause is left alone in the text that a merge gave.
  2. `merge_settles_iff`: exactly when a second merge changes nothing.
  3. `merge_moves_on`: a text in which the second merge inserts the clause again.
-/

namespace RowTypes.SourceFile

open Text Region Imports

/-- The line on which the region of the block's type begins once its packages are imported. -/
def regionLine? (text : String) (block : Block) : Option Nat :=
  (findLines block.typeName.toList (widenedLines text block.dependencies)).map (·.before.length)

/-- The clause begins early enough to be found again, and before the block, and no entry of it is
lost when it is read. -/
structure ClauseSettles (text : String) (block : Block) : Prop where
  early : clauseLine (lines text) < lookahead
  first : ∀ line, regionLine? text block = some line → clauseLine (lines text) < line
  rereadable : Rereadable (clauseEntries (lines text) block.dependencies)

/-- The block stands in the text, and a merge leaves the clause of the text alone. -/
structure LeftAlone (block : Block) (text : String) : Prop where
  stands : Stands block text
  clause : Imports.merge (lines text) block.dependencies = .ok (lines text)

/-- What it takes for a text to stay as the first merge of a block leaves it. A text without content
is written anew, and only a package name of several lines can keep it from settling. In another text
either no package is needed, or the block comes first, or the clause settles. -/
def Settles (text packageName : String) (block : Block) : Prop :=
  if isAllWhite text then '\n' ∉ packageName.toList ∨ LeftAlone block (ofBlock packageName block)
  else block.dependencies = [] ∨ regionLine? text block = some 0 ∨ ClauseSettles text block

section
variable {block : Block} {text : String}

/-! ## Texts with content -/

theorem find?_of_block_before (layout : Layout block.typeName.toList)
    {before after : List (List Char)}
    (hbefore : ∀ line ∈ before, ¬isImportLine (String.ofList line)) :
    find? ((before ++ layout.lines ++ after).map String.ofList) = .ok none := by
  refine find?_of_forall_not fun line hline => ?_
  rw [List.append_assoc, List.map_append, List.take_append, List.mem_append] at hline
  rcases hline with hmem | hmem
  · obtain ⟨chars, hchars, rfl⟩ := List.mem_map.mp (List.mem_of_mem_take hmem)
    exact hbefore chars hchars
  · obtain ⟨i, chars, hi, hchars, rfl⟩ :=
      layout.exists_of_mem_take (Nat.sub_le _ _) hmem
    exact layout.not_isImportLine_of_lt hi hchars

/-- The clause is not left alone in a text in which the block stands before it: it comes too late to be
found. -/
theorem merge_ne_of_block_before (layout : Layout block.typeName.toList) {packages : Packages}
    {before after more : List (List Char)} {start : List String}
    (hstart : ∀ line ∈ start, ¬isImportLine line)
    (hmore : start.map String.toList = before ++ more)
    (hclean : Clean (before ++ layout.lines ++ after)) (hne : packages ≠ []) :
    Imports.merge ((before ++ layout.lines ++ after).map String.ofList) packages ≠
      .ok ((before ++ layout.lines ++ after).map String.ofList) := by
  refine merge_ne_of_not_found (cleanLines_of_clean hclean) hne ?_
  refine find?_of_block_before layout fun line hline => ?_
  have hmem : line ∈ start.map String.toList := by
    rw [hmore]
    exact List.mem_append_left _ hline
  obtain ⟨written, hwritten, rfl⟩ := List.mem_map.mp hmem
  rw [String.ofList_toList]
  exact hstart written hwritten

/-- The block comes to stand behind the whole clause, or in front of it. -/
theorem behind_or_before {name : List Char} {before after : List (List Char)}
    {start clause rest : List String} {placement : Placement}
    (hwritten : ∀ line ∈ clause, IsWritten line)
    (hsplits : Splits name ((start ++ (clause ++ rest)).map String.toList) placement before after) :
    ((∃ more, before = start.map String.toList ++ (clause.map String.toList ++ more)) ∧
        ∀ parts, findLines name ((start ++ (clause ++ rest)).map String.toList) = some parts →
          start.length < parts.before.length) ∨
      ((∃ more, start.map String.toList = before ++ more) ∧
        ∃ parts, findLines name ((start ++ (clause ++ rest)).map String.toList) = some parts ∧
          parts.before = before) := by
  have hchars : (start ++ (clause ++ rest)).map String.toList =
      start.map String.toList ++ (clause.map String.toList ++ rest.map String.toList) := by simp
  cases hsplits with
  | @appended pad none _ _ =>
    rw [none, hchars]
    exact .inl ⟨⟨rest.map String.toList ++ pad, by simp⟩, fun parts hparts => by simp at hparts⟩
  | @replaced parts found =>
    obtain ⟨hlines, -⟩ := findLines_eq_some found
    rw [hchars] at hlines found
    rw [List.append_assoc] at hlines
    -- No line of the clause is a header, so a region that begins behind its start begins behind all of it.
    by_cases hlt : start.length < parts.before.length
    · left
      have hshut : Shut name (clause.map String.toList) := shut_of_forall_not_isHeader <|
        List.forall_mem_map.mpr fun line hline => not_isHeader_of_isWritten (hwritten line hline)
      have hle := le_before_of_shut (start.map String.toList) _ found hshut
        (by simpa using Nat.le_of_lt hlt)
      have hcut : start.map String.toList ++ clause.map String.toList ++ rest.map String.toList =
          parts.before ++ (parts.region ++ parts.after) := by
        rw [hlines, List.append_assoc]
      obtain ⟨more, hmore, -⟩ := exists_of_append_eq hcut (by simpa using hle)
      refine ⟨⟨more, by rw [hmore, List.append_assoc]⟩, fun others hothers => ?_⟩
      rw [hchars, found] at hothers
      cases hothers
      exact hlt
    · right
      obtain ⟨more, hmore, -⟩ := exists_of_append_eq hlines (by simpa using hlt)
      exact ⟨⟨more, hmore⟩, parts, by rw [hchars, found], rfl⟩

/-- When the clause is left alone in the text that a merge gave: it has to settle. -/
theorem merge_lines_iff {widened : List String} {before after : List (List Char)}
    {placement : Placement} (formed : block.Formed) (hne : block.dependencies ≠ [])
    (hmerge : Imports.merge (lines text) block.dependencies = .ok widened)
    (hsplits : Splits block.typeName.toList (widened.map String.toList) placement before after)
    (hclean : Clean (before ++ formed.layout.lines ++ after)) :
    Imports.merge ((before ++ formed.layout.lines ++ after).map String.ofList) block.dependencies =
        .ok ((before ++ formed.layout.lines ++ after).map String.ofList) ↔
      ClauseSettles text block := by
  obtain ⟨start₀, old, new, rest₀, hplaced, hold, hnew⟩ :=
    exists_of_merge (cleanLines_lines text) hne hmerge
  obtain ⟨start, rest, hwidened, hline, hstart⟩ :=
    exists_render_of_placed (lines_ne_nil text) hold hplaced
  rw [← hnew, clauseLines] at hwidened
  have hregion : regionLine? text block =
      (findLines block.typeName.toList (widened.map String.toList)).map (·.before.length) := by
    rw [regionLine?, widenedLines_eq hmerge]
  rw [hwidened] at hsplits hregion
  rcases behind_or_before (fun line => isWritten_of_mem_render) hsplits with
    ⟨⟨more, rfl⟩, hbehind⟩ | ⟨⟨more, hmore⟩, parts, hparts, rfl⟩
  · have htexts : (start.map String.toList ++ ((render (clauseEntries (lines text)
        block.dependencies)).map String.toList ++ more) ++ formed.layout.lines ++ after).map
          String.ofList = start ++ (render (clauseEntries (lines text) block.dependencies) ++
            (more ++ formed.layout.lines ++ after).map String.ofList) := by
      simp [Function.comp_def]
    have hcleanTexts := cleanLines_of_clean hclean
    rw [htexts] at hcleanTexts ⊢
    rw [merge_append_render_iff hstart (wellRead_clauseEntries (cleanLines_lines text) formed.plain)
      (imported_clauseEntries _ _) hne hcleanTexts, hline]
    constructor
    · rintro ⟨hearly, hrereadable⟩
      refine ⟨hearly, fun r hr => ?_, hrereadable⟩
      rw [hregion] at hr
      obtain ⟨parts, hparts, rfl⟩ := Option.map_eq_some_iff.mp hr
      rw [← hline]
      exact hbehind parts hparts
    · exact fun hsettles => ⟨hsettles.early, hsettles.rereadable⟩
  · refine iff_of_false (merge_ne_of_block_before formed.layout hstart hmore hclean hne) ?_
    intro hsettles
    have hlt := hsettles.first parts.before.length (by rw [hregion, hparts]; rfl)
    have hlength := congrArg List.length hmore
    simp only [List.length_append, List.length_map] at hlength
    omega

theorem prefix_iff {name : List Char} {before after : List (List Char)} (layout : Layout name)
    (hclean : Clean (before ++ layout.lines ++ after)) (hafter : after ≠ [])
    (hshut : Shut name before) :
    terminated layout.lines <+: joined (before ++ layout.lines ++ after) ↔ before = [] := by
  constructor
  · rintro ⟨rest, hrest⟩
    obtain ⟨others, hothers, hne, rfl⟩ := exists_lines rest
    rw [← joined_append hne] at hrest
    have hsame := joined_inj (layout.clean_lines.append hothers) hclean (by simp [hne])
      (by simp [hafter]) hrest
    exact eq_of_layout layout hshut (show Shut name [] from trivial) hsame.symm
  · rintro rfl
    rw [joined_append hafter]
    exact List.prefix_append _ _

theorem before_eq_nil_iff {name : List Char} {ls before after : List (List Char)}
    {placement : Placement} (hne : ls ≠ []) (hsplits : Splits name ls placement before after) :
    before = [] ↔ (findLines name ls).map (·.before.length) = some 0 := by
  cases hsplits with
  | replaced found => simp [found]
  | appended none => simp [none, hne]

theorem merge_of_ink {packageName : String} (h : ¬isAllWhite text) : merge text packageName block =
    patch text block.typeName block.text block.dependencies := by
  rw [merge, if_neg h]

/-- When a text with content stays as the first merge leaves it. -/
theorem fixed_merged_iff {first : Merged} (formed : block.Formed)
    (h : patch text block.typeName block.text block.dependencies = .ok first) :
    Fixed block first.text ↔
      block.dependencies = [] ∨ regionLine? text block = some 0 ∨ ClauseSettles text block := by
  have hstands := stands_of_patch formed h
  obtain ⟨widened, placement, before, after, hmerge, -, hsplits, hclean, htext⟩ :=
    exists_parts_of_patch formed h
  rw [fixed_iff formed]
  by_cases hne : block.dependencies = []
  · simp [hstands, hne]
  have hchars : first.text.toList = joined (before ++ formed.layout.lines ++ after) := by
    rw [htext, String.toList_ofList]
  have hlines := lines_eq hclean (by simp [hsplits.after_ne_nil]) hchars
  have hfirst : block.text.toList <+: first.text.toList ↔ regionLine? text block = some 0 := by
    rw [hchars, formed.text, prefix_iff formed.layout hclean hsplits.after_ne_nil hsplits.shut,
      before_eq_nil_iff (by simpa using ne_nil_of_merge hmerge) hsplits, regionLine?,
      widenedLines_eq hmerge]
  rw [hlines, merge_lines_iff formed hne hmerge hsplits hclean, hfirst]
  simp [hstands, hne]

/-! ## New texts -/

/-- The lines of a new text before the block. -/
def preamble (packageName : String) (packages : Packages) : List String :=
  ["package " ++ packageName, ""] ++
    if packages = [] then [] else render (addPackages [] packages) ++ [""]

theorem render_addPackages_eq_nil {packages : Packages} :
    render (addPackages [] packages) = [] ↔ packages = [] := by
  constructor
  · intro h
    by_cases hne : packages = []
    · exact hne
    · exact absurd h (render_ne_nil (ne_nil_of_imported hne (imported_addPackages [] packages)))
  · rintro rfl
    rfl

theorem toList_ofBlock (packageName : String) (formed : block.Formed) :
    (ofBlock packageName block).toList = joined
      ((preamble packageName block.dependencies).map String.toList ++ formed.layout.lines ++
        [[]]) := by
  unfold ofBlock compose preamble
  rw [joined_append (by simp), terminated_append]
  by_cases hnone : block.dependencies = []
  · simp [hnone, formed.text, addPackages, render]
  · have hrender := mt render_addPackages_eq_nil.mp hnone
    simp only [List.isEmpty_iff, hrender, hnone, if_false, String.toList_append, toList_ofLines,
      formed.text]
    have hlines : (render (addPackages [] block.dependencies)).map String.toList ≠ [] := by
      simpa using hrender
    simp [← joined_append_feed hlines]

theorem mem_preamble {packageName line : String} {packages : Packages}
    (h : line ∈ preamble packageName packages) :
    line = "package " ++ packageName ∨ line = "" ∨ line ∈ render (addPackages [] packages) := by
  unfold preamble at h
  simp only [List.mem_append, List.mem_cons, List.not_mem_nil, or_false] at h
  rcases h with (hpackage | hempty) | hclause
  · exact .inl hpackage
  · exact .inr (.inl hempty)
  · split at hclause
    · simp at hclause
    · rcases List.mem_append.mp hclause with hmem | hempty
      · exact .inr (.inr hmem)
      · exact .inr (.inl (List.mem_singleton.mp hempty))

theorem cleanLines_preamble {packageName : String} {packages : Packages}
    (hname : '\n' ∉ packageName.toList) (hplain : Plain packages) :
    CleanLines (preamble packageName packages) := by
  intro line hline
  rcases mem_preamble hline with rfl | rfl | hclause
  · simpa using hname
  · decide
  · exact cleanLines_render (wellRead_addPackages wellRead_nil hplain).readable line hclause

theorem not_isHeader_of_mem_preamble {packageName line : String} {packages : Packages}
    {name : List Char} (h : line ∈ preamble packageName packages) : ¬isHeader name line.toList := by
  rcases mem_preamble h with rfl | rfl | hclause
  · intro hheader
    have hbegins := begins_of_isHeader hheader
    simp [begins] at hbegins
  · exact not_isHeader_of_isWritten (by decide)
  · exact not_isHeader_of_isWritten (isWritten_of_mem_render hclause)

theorem not_isImportLine_package (packageName : String) :
    ∀ line ∈ ["package " ++ packageName, ""], ¬isImportLine line := by
  intro line hline
  rcases List.mem_cons.mp hline with rfl | hempty
  · have htrim : trimStart ("package " ++ packageName).toList =
        'p' :: ("ackage ".toList ++ packageName.toList) := by
      simp [trimStart, isWhite]
    exact not_isImportLine htrim (by decide)
  · rw [List.mem_singleton.mp hempty]
    decide

theorem kept_addPackages_nil (packages : Packages) :
    kept (addPackages [] packages) = addPackages [] packages := by
  refine kept_of_uncommented fun entry hentry => ?_
  rw [addPackages_nil_eq] at hentry
  obtain ⟨path, -, rfl⟩ := List.mem_map.mp hentry
  exact not_commented_plain path

theorem merge_preamble {packageName : String} {packages : Packages} (hplain : Plain packages)
    (hne : packages ≠ []) (more : Packages) (rest : List String) :
    Imports.merge (preamble packageName packages ++ rest) more =
      .ok (preamble packageName (packages ++ more) ++ rest) := by
  by_cases hmore : more = []
  · rw [hmore, List.append_nil]
    rfl
  have hlines (packages : Packages) (hne : packages ≠ []) : preamble packageName packages ++ rest =
      ["package " ++ packageName, ""] ++ (render (addPackages [] packages) ++ ("" :: rest)) := by
    simp [preamble, hne]
  have hentries : addPackages [] packages ≠ [] :=
    ne_nil_of_imported hne (imported_addPackages [] packages)
  have hfind := find?_append_render (not_isImportLine_package packageName)
    (wellRead_addPackages wellRead_nil hplain).legible hentries ("" :: rest)
  rw [if_pos (by simp [lookahead]),
    kept_addPackages_nil] at hfind
  rw [hlines packages hne, hlines (packages ++ more) (by simp [hne]), addPackages_append,
    Imports.merge, if_neg (by simpa using hmore), hfind]
  exact congrArg Except.ok (replaceLines_append _ _ _ _)

theorem preamble_append_self (packageName : String) (packages : Packages) :
    preamble packageName (packages ++ packages) = preamble packageName packages := by
  simp only [preamble, addPackages_append, List.append_eq_nil_iff, and_self,
    addPackages_of_imported (imported_addPackages [] packages)]

theorem leftAlone_ofBlock {packageName : String} (formed : block.Formed)
    (hname : '\n' ∉ packageName.toList) : LeftAlone block (ofBlock packageName block) := by
  have htext := toList_ofBlock packageName formed
  have hpreamble := cleanLines_preamble hname formed.plain
  have hclean : Clean ((preamble packageName block.dependencies).map String.toList ++
      formed.layout.lines ++ [[]]) :=
    ((clean_of_cleanLines hpreamble).append formed.layout.clean_lines).append (by simp [Clean])
  constructor
  · refine (stands_iff formed.layout formed.text hclean htext).mpr ⟨_, _, rfl, by simp, ?_⟩
    apply shut_of_forall_not_isHeader
    intro line hline
    obtain ⟨written, hmem, rfl⟩ := List.mem_map.mp hline
    exact not_isHeader_of_mem_preamble hmem
  · by_cases hnone : block.dependencies = []
    · rw [hnone]
      rfl
    · rw [lines_eq hclean (by simp) htext, List.append_assoc, List.map_append, map_ofList_toList,
        merge_preamble formed.plain hnone, preamble_append_self]

theorem fixed_ofBlock_iff {packageName : String} (formed : block.Formed) :
    Fixed block (ofBlock packageName block) ↔ LeftAlone block (ofBlock packageName block) := by
  rw [fixed_iff formed]
  constructor
  · rintro ⟨hstands, hnone | hfirst | hmerge⟩
    · exact ⟨hstands, by rw [hnone]; rfl⟩
    · obtain ⟨rest, hrest⟩ := hfirst
      rw [formed.text] at hrest
      have hhead := congrArg List.head? hrest
      simp [Layout.lines, header_eq, ofBlock, compose] at hhead
    · exact ⟨hstands, hmerge⟩
  · exact fun hleft => ⟨hleft.stands, .inr (.inr hleft.clause)⟩

theorem not_isAllWhite_of_mem_toList {c : Char} (hc : c ∈ text.toList) (hink : ¬isWhite c) :
    ¬isAllWhite text :=
  fun h => hink (List.all_eq_true.mp h c hc)

theorem not_isAllWhite_ofBlock (packageName : String) (block : Block) :
    ¬isAllWhite (ofBlock packageName block) :=
  not_isAllWhite_of_mem_toList (c := 'p') (by simp [ofBlock, compose]) (by decide)

theorem not_isAllWhite_of_stands (formed : block.Formed) (h : Stands block text) :
    ¬isAllWhite text := by
  obtain ⟨ls, hls, -, htext⟩ := exists_lines text.toList
  obtain ⟨before, after, rfl, hafter, -⟩ :=
    (stands_iff formed.layout formed.text hls htext.symm).mp h
  rw [joined_append hafter] at htext
  refine not_isAllWhite_of_mem_toList (c := 't') ?_ (by decide)
  rw [← htext]
  simp [Layout.lines, header_eq]

end

/-- Exactly when a second merge of a rendered block changes nothing. -/
theorem merge_settles_iff {cat : Catalog} {table : Table} {block : Block} {text packageName : String}
    {first : Merged} (hcat : cat.Unspaced) (htable : table.Unspaced)
    (hok : cat.render table = .ok block) (h : merge text packageName block = .ok first) :
    (∃ second, merge first.text packageName block = .ok second ∧ second.text = first.text) ↔
      Settles text packageName block := by
  obtain ⟨formed⟩ := Catalog.exists_formed hcat htable hok
  by_cases hwhite : isAllWhite text
  · rw [merge, if_pos hwhite] at h
    cases h
    rw [Settles, if_pos hwhite, merge_of_ink (not_isAllWhite_ofBlock packageName block)]
    change Fixed block (ofBlock packageName block) ↔ _
    rw [fixed_ofBlock_iff formed]
    exact ⟨.inr, fun hsettles => hsettles.elim (leftAlone_ofBlock formed) id⟩
  · rw [merge_of_ink hwhite] at h
    have hink := not_isAllWhite_of_stands formed (stands_of_patch formed h)
    rw [Settles, if_neg hwhite, merge_of_ink hink]
    exact fixed_merged_iff formed h

/-- A table whose block needs a package. -/
def births : Table :=
  { name := "births", columns := [{ name := "born", dataType := .date }] }

theorem merge_settles_births : (usersCatalog births).Unspaced ∧ births.Unspaced ∧
    merge "package p\n" "p" (usersBlock births) =
      .ok ⟨"package p\n\nimport \"time\"\n\n" ++ (usersBlock births).text, .appended⟩ ∧
    ∃ second, merge ("package p\n\nimport \"time\"\n\n" ++ (usersBlock births).text) "p"
        (usersBlock births) = .ok second ∧
      second.text = "package p\n\nimport \"time\"\n\n" ++ (usersBlock births).text := by
  have hfirst : merge "package p\n" "p" (usersBlock births) =
      .ok ⟨"package p\n\nimport \"time\"\n\n" ++ (usersBlock births).text, .appended⟩ := by
    decide +kernel
  have hregion : regionLine? "package p\n" (usersBlock births) = none := by decide +kernel
  have hrender : (usersCatalog births).render births = .ok (usersBlock births) := rfl
  refine ⟨by decide, by decide, hfirst, ?_⟩
  refine (merge_settles_iff (by decide) (by decide) hrender hfirst).mpr ?_
  rw [Settles, if_neg (by decide)]
  exact .inr (.inr ⟨by decide, by simp [hregion], by decide⟩)

/-- A text that begins with a comment of several lines. -/
def commented : String := "package p\n// 1\n// 2\n// 3\n// 4\n\nvar x = 1\n"

/-- Behind a comment of several lines the clause is put where it is not found again. -/
theorem merge_moves_on : ∃ first, merge commented "p" (usersBlock births) = .ok first ∧
    ¬∃ second, merge first.text "p" (usersBlock births) = .ok second ∧
      second.text = first.text := by
  have hfirst : merge commented "p" (usersBlock births) =
      .ok ⟨"package p\n// 1\n// 2\n// 3\n// 4\n\nimport \"time\"\n\nvar x = 1\n\n" ++
        (usersBlock births).text, .appended⟩ := by
    decide +kernel
  have hregion : regionLine? commented (usersBlock births) = none := by decide +kernel
  have hrender : (usersCatalog births).render births = .ok (usersBlock births) := rfl
  obtain ⟨formed⟩ := Catalog.exists_formed (by decide) (by decide) hrender
  refine ⟨_, hfirst, ?_⟩
  rw [merge_of_ink (show ¬isAllWhite commented by decide)] at hfirst
  rw [merge_of_ink (not_isAllWhite_of_mem_toList (c := 'p') (by simp [String.toList_append])
    (by decide))]
  change ¬Fixed (usersBlock births) _
  rw [fixed_merged_iff formed hfirst]
  rintro (hnone | hzero | hsettles)
  · exact absurd hnone (by decide)
  · rw [hregion] at hzero
    simp at hzero
  · exact absurd hsettles.early (by decide)

end RowTypes.SourceFile
