import RowTypes.Proofs.SourceFile.Idempotence

/-!
Files that hold nothing but blocks: a package line, the imports, and blocks with a blank line between
each two. What the imports are does not depend on the order in which the packages came up, so a file
of this form is told by its package name, its packages and its blocks.

What is proved:
  1. `toList_freshText`: the lines of such a file.
  2. `merge_blank`, `merge_freshText_append`, `merge_freshText_replace`: a merge begins such a file,
     puts a block of a new type at its end, and puts any other in place of the one of its type. The
     file keeps its form and gains the packages of the block.
-/

namespace RowTypes

open Text Region

/-- The lines of a block. -/
def Block.lines (block : Block) : List (List Char) :=
  (block.text.toList.splitOn '\n').dropLast

theorem Block.Formed.lines_eq {block : Block} (formed : block.Formed) :
    block.lines = formed.layout.lines := by
  have hclean := formed.layout.clean_lines.append (show Clean [([] : List Char)] by simp [Clean])
  rw [Block.lines, formed.text, terminated_eq_joined, splitOn_joined hclean (by simp)]
  exact List.dropLast_concat

namespace SourceFile

/-- The imports of a file and the blank line behind them; nothing if no package is needed. -/
def importText : Packages → String
  | [] => ""
  | [package] => "import \"" ++ package ++ "\"\n\n"
  | packages =>
    "import (\n" ++ String.join (packages.map fun package => "\t\"" ++ package ++ "\"\n") ++ ")\n\n"

/-- A file with a package line, imports, and blocks. -/
def freshText (packageName : String) (packages : Packages) (blocks : List Block) : String :=
  "package " ++ packageName ++ "\n\n" ++ importText packages ++ "\n".intercalate (blocks.map Block.text)

/-- The lines of blocks, with an empty line behind each. -/
def spread (blocks : List Block) : List (List Char) :=
  blocks.flatMap fun block => block.lines ++ [[]]

/-- All blocks are formed as rendered blocks are. -/
def AllFormed (blocks : List Block) : Prop :=
  ∀ block ∈ blocks, Nonempty block.Formed

section
variable {packageName : String} {packages : List String} {block new old : Block}
  {blocks before after : List Block}

@[simp] theorem allFormed_nil : AllFormed [] := by
  simp [AllFormed]

@[simp] theorem allFormed_cons : AllFormed (block :: blocks) ↔ Nonempty block.Formed ∧ AllFormed blocks :=
  List.forall_mem_cons

@[simp] theorem allFormed_append : AllFormed (blocks ++ after) ↔ AllFormed blocks ∧ AllFormed after :=
  List.forall_mem_append

/-! ## The lines of a file -/

@[simp] theorem spread_append : spread (blocks ++ after) = spread blocks ++ spread after :=
  List.flatMap_append

@[simp] theorem spread_cons : spread (block :: blocks) = block.lines ++ ([] :: spread blocks) := by
  simp [spread]

@[simp] theorem spread_nil : spread [] = [] := rfl

theorem spread_ne_nil (hne : blocks ≠ []) : spread blocks ≠ [] := by
  cases blocks with
  | nil => exact absurd rfl hne
  | cons block rest => simp

theorem joined_spread (h : AllFormed blocks) :
    ("\n".intercalate (blocks.map Block.text)).toList = joined (spread blocks) := by
  induction blocks with
  | nil => rfl
  | cons block rest ih =>
    obtain ⟨⟨formed⟩, hformed⟩ := allFormed_cons.mp h
    have hrest := ih hformed
    rw [String.toList_intercalate] at hrest ⊢
    rw [spread_cons, joined_append (by simp), formed.lines_eq]
    cases rest with
    | nil => simp [formed.text]
    | cons next rest =>
      rw [joined_cons (spread_ne_nil (by simp)), ← hrest]
      simp [formed.text, List.intercalate_cons_cons]

theorem toList_importText (packages : Packages) : (importText packages).toList =
    terminated ((if packages = [] then [] else Imports.render (packages.map Imports.plain) ++ [""]).map
      String.toList) := by
  match packages with
  | [] => rfl
  | [package] => simp [importText, Imports.render, Imports.plain]
  | first :: second :: rest =>
    have hentries : String.toList (String.join ((first :: second :: rest).map fun package =>
        "\t\"" ++ package ++ "\"\n")) = terminated (((first :: second :: rest).map Imports.plain).map
          fun entry => ("\t" ++ entry.written).toList) := by
      simp [String.toList_join, terminated, Imports.plain, List.flatMap_map]
    simp only [importText, String.toList_append, hentries]
    simp [Imports.render, Function.comp_def]

theorem ofList_eq_nil : Packages.ofList packages = [] ↔ packages = [] := by
  simp only [List.eq_nil_iff_forall_not_mem, Packages.mem_ofList]

theorem toList_freshText (packageName : String) (packages : List String) (h : AllFormed blocks)
    (hne : blocks ≠ []) :
    (freshText packageName (Packages.ofList packages) blocks).toList =
      joined ((preamble packageName packages).map String.toList ++ spread blocks) := by
  have himports : (importText (Packages.ofList packages)).toList =
      terminated ((if packages = [] then []
        else Imports.render (Imports.addPackages [] packages) ++ [""]).map String.toList) := by
    rw [toList_importText, Imports.addPackages_nil_eq]
    simp only [ofList_eq_nil]
  rw [joined_append (spread_ne_nil hne), ← joined_spread h, freshText, String.toList_append,
    String.toList_append, himports, preamble, List.map_append, terminated_append]
  simp

theorem clean_spread (h : AllFormed blocks) : Clean (spread blocks) := by
  intro line hline
  obtain ⟨block, hblock, hmem⟩ := List.mem_flatMap.mp hline
  obtain ⟨formed⟩ := h block hblock
  rcases List.mem_append.mp hmem with hmem | hempty
  · exact formed.layout.clean_lines line (formed.lines_eq ▸ hmem)
  · rw [List.mem_singleton.mp hempty]
    simp

theorem plain_flatMap (h : AllFormed blocks) :
    Imports.Plain (blocks.flatMap Block.dependencies) := by
  intro package hpackage
  obtain ⟨block, hblock, hmem⟩ := List.mem_flatMap.mp hpackage
  obtain ⟨formed⟩ := h block hblock
  exact formed.plain package hmem

end

/-! ## A merge into a file -/

section Merge
variable {packageName : String} {packages : List String} {new old : Block}
  {blocks before after : List Block}

/-- What is known of a file that holds nothing but blocks. -/
structure Fresh (packageName : String) (packages : List String) (blocks : List Block) : Prop where
  formed : AllFormed blocks
  nonempty : blocks ≠ []
  plain : Imports.Plain packages
  oneLine : '\n' ∉ packageName.toList

theorem Fresh.clean (h : Fresh packageName packages blocks) :
    Clean ((preamble packageName packages).map String.toList ++ spread blocks) :=
  (clean_of_cleanLines (cleanLines_preamble h.oneLine h.plain)).append (clean_spread h.formed)

theorem Fresh.lines_eq (h : Fresh packageName packages blocks) :
    lines (freshText packageName (Packages.ofList packages) blocks) =
      preamble packageName packages ++ (spread blocks).map String.ofList := by
  rw [SourceFile.lines_eq h.clean (by simp [spread_ne_nil h.nonempty])
    (toList_freshText _ _ h.formed h.nonempty), List.map_append, map_ofList_toList]

theorem Fresh.more (h : Fresh packageName packages blocks) (hnew : new.Formed) :
    Fresh packageName (packages ++ new.dependencies) blocks := by
  refine ⟨h.formed, h.nonempty, fun package hpackage => ?_, h.oneLine⟩
  rcases List.mem_append.mp hpackage with hmem | hmem
  · exact h.plain package hmem
  · exact hnew.plain package hmem

theorem merge_package (formed : new.Formed) (after : List (List Char)) {more : Packages}
    (hmore : more ≠ []) :
    Imports.merge (preamble packageName [] ++ (new.lines ++ after).map String.ofList) more =
      .ok (preamble packageName more ++ (new.lines ++ after).map String.ofList) := by
  have hfind : Imports.find? (preamble packageName [] ++ (new.lines ++ after).map String.ofList) =
      .ok none := by
    apply Imports.find?_of_forall_not
    intro line hline
    rw [List.take_append] at hline
    rcases List.mem_append.mp hline with hmem | hmem
    · exact not_isImportLine_package packageName line (List.mem_of_mem_take hmem)
    · rw [formed.lines_eq] at hmem
      obtain ⟨i, chars, hi, hchars, rfl⟩ := formed.layout.exists_of_mem_take (Nat.sub_le _ _) hmem
      exact formed.layout.not_isImportLine_of_lt hi hchars
  have hblank : Imports.firstBlank? (preamble packageName [] ++
      (new.lines ++ after).map String.ofList) = some 1 := rfl
  have hlong : ¬(preamble packageName [] ++ (new.lines ++ after).map String.ofList).length ≤ 1 := by
    simp [preamble]
  rw [Imports.merge, if_neg (by simpa using hmore), hfind]
  simp only [Imports.insertClause, if_neg hlong, hblank]
  simp [preamble, hmore, Imports.replaceLines]

theorem Fresh.merge_eq (h : Fresh packageName packages blocks) (more : Packages) :
    Imports.merge (lines (freshText packageName (Packages.ofList packages) blocks)) more =
      .ok (preamble packageName (packages ++ more) ++ (spread blocks).map String.ofList) := by
  rw [h.lines_eq]
  by_cases hnone : packages = []
  · subst hnone
    by_cases hmore : more = []
    · subst hmore
      rfl
    obtain ⟨first, rest, rfl⟩ := List.exists_cons_of_ne_nil h.nonempty
    obtain ⟨⟨formed⟩, -⟩ := allFormed_cons.mp h.formed
    rw [spread_cons]
    exact merge_package formed _ hmore
  · exact merge_preamble h.plain hnone more _

theorem Fresh.ofLines_eq (h : Fresh packageName packages blocks) :
    ofLines (preamble packageName packages ++ (spread blocks).map String.ofList) =
      freshText packageName (Packages.ofList packages) blocks := by
  rw [← h.lines_eq, ofLines_lines]

/-- A merge into a file is a splice into the file with more packages. -/
theorem Fresh.patch_eq (h : Fresh packageName packages blocks) (hnew : new.Formed) {result : String}
    {placement : Placement}
    (hsplice : splice (freshText packageName (Packages.ofList (packages ++ new.dependencies)) blocks)
      new.typeName new.text = .ok (result, placement)) :
    patch (freshText packageName (Packages.ofList packages) blocks) new.typeName new.text
      new.dependencies = .ok ⟨result, placement.outcome⟩ := by
  apply patch_ok (h.merge_eq new.dependencies)
  rw [(h.more hnew).ofLines_eq]
  exact hsplice

/-! ## A block at the end -/

theorem toList_append_terminated {text blockText : String} {ls block : List (List Char)}
    (hne : ls ≠ []) (htext : text.toList = terminated ls) (hblock : blockText.toList = terminated block) :
    (append text blockText).toList = joined (ls ++ ([] :: block ++ [[]])) := by
  have hend : text.toList.getLast? = some '\n' := by
    rw [htext, ← joined_append_feed hne]
    exact List.getLast?_concat
  rw [append, if_pos hend, joined_append (by simp), List.cons_append, joined_cons (by simp),
    ← terminated_eq_joined]
  simp [htext, hblock]

theorem Fresh.append_eq (h : Fresh packageName packages blocks) (hnew : new.Formed) :
    append (freshText packageName (Packages.ofList packages) blocks) new.text =
      freshText packageName (Packages.ofList packages) (blocks ++ [new]) := by
  have hformed : AllFormed (blocks ++ [new]) :=
    allFormed_append.mpr ⟨h.formed, allFormed_cons.mpr ⟨⟨hnew⟩, allFormed_nil⟩⟩
  obtain ⟨init, last, rfl⟩ : ∃ init last, blocks = init ++ [last] :=
    ⟨blocks.dropLast, blocks.getLast h.nonempty, (List.dropLast_concat_getLast h.nonempty).symm⟩
  have htext : (freshText packageName (Packages.ofList packages) (init ++ [last])).toList =
      terminated ((preamble packageName packages).map String.toList ++ (spread init ++ last.lines)) := by
    rw [toList_freshText _ _ h.formed h.nonempty, terminated_eq_joined]
    simp
  rw [← String.toList_inj, toList_freshText _ _ hformed (by simp),
    toList_append_terminated (by simp [preamble]) htext (hnew.lines_eq ▸ hnew.text)]
  simp

theorem not_isDeclaration_of_mem_spread {name line : List Char} (hname : Unblank name)
    (h : AllFormed blocks) (hother : ∀ block ∈ blocks, block.typeName.toList ≠ name)
    (hline : line ∈ spread blocks) : ¬isDeclaration name line := by
  intro hdeclaration
  have hbegins := begins_of_isDeclaration hdeclaration
  obtain ⟨block, hblock, hmem⟩ := List.mem_flatMap.mp hline
  obtain ⟨formed⟩ := h block hblock
  rcases List.mem_append.mp hmem with hmem | hempty
  · rw [formed.lines_eq] at hmem
    rcases List.mem_cons.mp hmem with rfl | hinner
    · unfold isDeclaration at hdeclaration
      obtain ⟨rest, hwords, -⟩ := (Option.any_eq_true _ _).mp hdeclaration
      exact hother block hblock (eq_of_afterHeaderWords_header hname
        (unblank_of_unspaced formed.layout.unspaced_name) hwords).symm
    · have hhead := formed.layout.head?_of_mem hinner
      have ht : line.head? = some 't' := by simpa [begins] using hbegins
      rw [ht] at hhead
      simp at hhead
  · rw [List.mem_singleton.mp hempty] at hbegins
    simp [begins] at hbegins

theorem not_isDeclaration_of_mem_preamble {name : List Char} {line : String}
    (h : line ∈ preamble packageName packages) : ¬isDeclaration name line.toList := by
  intro hdeclaration
  have hbegins := begins_of_isDeclaration hdeclaration
  rcases mem_preamble h with rfl | rfl | hclause
  · simp [begins] at hbegins
  · simp [begins] at hbegins
  · exact not_begins_of_isWritten (Imports.isWritten_of_mem_render hclause) (by decide) hbegins

theorem not_isDeclaration_of_mem {name line : List Char} (hname : Unblank name)
    (h : AllFormed blocks) (hother : ∀ block ∈ blocks, block.typeName.toList ≠ name)
    (hline : line ∈ (preamble packageName packages).map String.toList ++ spread blocks) :
    ¬isDeclaration name line := by
  rcases List.mem_append.mp hline with hmem | hmem
  · obtain ⟨written, hwritten, rfl⟩ := List.mem_map.mp hmem
    exact not_isDeclaration_of_mem_preamble hwritten
  · exact not_isDeclaration_of_mem_spread hname h hother hmem

theorem shut_of_other (packageName : String) (packages : List String) {name : List Char}
    (hname : Unblank name) (h : AllFormed blocks)
    (hother : ∀ block ∈ blocks, block.typeName.toList ≠ name) :
    Shut name ((preamble packageName packages).map String.toList ++ spread blocks) := by
  apply shut_of_forall_not_isHeader
  intro line hline hheader
  exact not_isDeclaration_of_mem hname h hother hline (isDeclaration_of_isHeader hheader)

theorem Fresh.find?_eq_none {name : List Char} (h : Fresh packageName packages blocks)
    (hname : Unspaced name) (hother : ∀ block ∈ blocks, block.typeName.toList ≠ name) :
    Region.find? name (freshText packageName (Packages.ofList packages) blocks).toList = none := by
  have hlines := findLines_append (shut_of_other packageName packages
    (unblank_of_unspaced hname) h.formed hother) []
  rw [List.append_nil] at hlines
  rw [toList_freshText _ _ h.formed h.nonempty,
    find?_joined (fun hfeed => hname '\n' hfeed (by decide)) h.clean, hlines]
  rfl

theorem splice_freshText_append (h : Fresh packageName packages blocks) (hnew : new.Formed)
    (hother : ∀ block ∈ blocks, block.typeName ≠ new.typeName) :
    splice (freshText packageName (Packages.ofList packages) blocks) new.typeName new.text =
      .ok (freshText packageName (Packages.ofList packages) (blocks ++ [new]), .appended) := by
  have hothers : ∀ block ∈ blocks, block.typeName.toList ≠ new.typeName.toList :=
    fun block hblock heq => hother block hblock (String.toList_inj.mp heq)
  have hdeclares : Region.declares new.typeName.toList
      (freshText packageName (Packages.ofList packages) blocks).toList = false := by
    rw [toList_freshText _ _ h.formed h.nonempty, declares_joined hnew.layout.clean_name h.clean,
      List.any_eq_false]
    intro line hline
    exact not_isDeclaration_of_mem (unblank_of_unspaced hnew.layout.unspaced_name) h.formed hothers
      hline
  rw [splice, h.find?_eq_none hnew.layout.unspaced_name hothers]
  simp only [hdeclares, Bool.false_eq_true, if_false]
  exact congrArg (fun text => Except.ok (text, Placement.appended)) (h.append_eq hnew)

/-! ## A block in place of another -/

theorem splice_freshText_replace (h : Fresh packageName packages (before ++ old :: after))
    (hnew : new.Formed) (hsame : old.typeName = new.typeName)
    (hother : ∀ block ∈ before, block.typeName ≠ new.typeName) :
    splice (freshText packageName (Packages.ofList packages) (before ++ old :: after)) new.typeName
        new.text =
      .ok (freshText packageName (Packages.ofList packages) (before ++ new :: after), .replaced) := by
  obtain ⟨hbefore, hrest⟩ := allFormed_append.mp h.formed
  obtain ⟨⟨formed⟩, hafter⟩ := allFormed_cons.mp hrest
  have hformed : AllFormed (before ++ new :: after) :=
    allFormed_append.mpr ⟨hbefore, allFormed_cons.mpr ⟨⟨hnew⟩, hafter⟩⟩
  have hshut := shut_of_other packageName packages
    (unblank_of_unspaced hnew.layout.unspaced_name) hbefore
    fun block hblock heq => hother block hblock (String.toList_inj.mp heq)
  obtain ⟨layout, hlayout⟩ : ∃ layout : Layout new.typeName.toList, old.lines = layout.lines := by
    rw [← hsame]
    exact ⟨formed.layout, formed.lines_eq⟩
  have hlines : (preamble packageName packages).map String.toList ++ spread (before ++ old :: after) =
      (preamble packageName packages).map String.toList ++ spread before ++ layout.lines ++
        ([] :: spread after) := by
    simp [← hlayout]
  have hclean := h.clean
  have htext := toList_freshText packageName packages h.formed h.nonempty
  rw [hlines] at hclean htext
  rw [splice_of_find hnew.layout.clean_name hclean htext hnew.text
    (findLines_layout layout hshut ([] :: spread after))]
  refine congrArg (fun text => Except.ok (text, Placement.replaced)) ?_
  rw [← String.toList_inj, toList_freshText _ _ hformed (by simp), String.toList_ofList]
  simp [closing, hnew.lines_eq]

theorem Fresh.stands (h : Fresh packageName packages (before ++ new :: after))
    (hother : ∀ block ∈ before, block.typeName ≠ new.typeName) :
    Stands new (freshText packageName (Packages.ofList packages) (before ++ new :: after)) := by
  obtain ⟨⟨formed⟩, -⟩ := allFormed_cons.mp (allFormed_append.mp h.formed).2
  exact stands_of_splice formed.layout formed.text (splice_freshText_replace h formed rfl hother)

/-! ## Whole merges -/

/-- A file without content becomes one with the block. -/
theorem merge_blank {text : String} (hblank : isAllWhite text) (hnew : new.Formed) :
    merge text packageName new =
      .ok ⟨freshText packageName (Packages.ofList new.dependencies) [new], .created⟩ := by
  have hformed : AllFormed [new] := allFormed_cons.mpr ⟨⟨hnew⟩, allFormed_nil⟩
  rw [merge, if_pos hblank]
  refine congrArg (fun text => Except.ok (Merged.mk text .created)) ?_
  rw [← String.toList_inj, toList_ofBlock packageName hnew, toList_freshText _ _ hformed (by simp)]
  simp [hnew.lines_eq]

theorem not_isAllWhite_freshText (packageName : String) (packages : Packages) (blocks : List Block) :
    ¬isAllWhite (freshText packageName packages blocks) :=
  not_isAllWhite_of_mem_toList (c := 'p') (by simp [freshText]) (by decide)

/-- A merge of a block of a new type. -/
theorem merge_freshText_append (namespaceName : String) (h : Fresh packageName packages blocks)
    (hnew : new.Formed) (hother : ∀ block ∈ blocks, block.typeName ≠ new.typeName) :
    merge (freshText packageName (Packages.ofList packages) blocks) namespaceName new =
      .ok ⟨freshText packageName (Packages.ofList (packages ++ new.dependencies)) (blocks ++ [new]),
        .appended⟩ := by
  rw [merge_of_ink (not_isAllWhite_freshText _ _ _)]
  exact h.patch_eq hnew (splice_freshText_append (h.more hnew) hnew hother)

theorem freshText_append_ne (h : Fresh packageName packages blocks)
    (hnew : new.Formed) (hother : ∀ block ∈ blocks, block.typeName ≠ new.typeName) :
    freshText packageName (Packages.ofList (packages ++ new.dependencies)) (blocks ++ [new]) ≠
      freshText packageName (Packages.ofList packages) blocks := by
  intro heq
  obtain ⟨parts, hfind, -⟩ := stands_of_splice hnew.layout hnew.text
    (splice_freshText_append (h.more hnew) hnew hother)
  rw [heq, h.find?_eq_none hnew.layout.unspaced_name
    fun block hblock heq => hother block hblock (String.toList_inj.mp heq)] at hfind
  simp at hfind

/-- A merge of a block whose type has one. -/
theorem merge_freshText_replace (namespaceName : String)
    (h : Fresh packageName packages (before ++ old :: after)) (hnew : new.Formed)
    (hsame : old.typeName = new.typeName) (hother : ∀ block ∈ before, block.typeName ≠ new.typeName) :
    merge (freshText packageName (Packages.ofList packages) (before ++ old :: after)) namespaceName
        new =
      .ok ⟨freshText packageName (Packages.ofList (packages ++ new.dependencies))
        (before ++ new :: after), .patched⟩ := by
  rw [merge_of_ink (not_isAllWhite_freshText _ _ _)]
  exact h.patch_eq hnew (splice_freshText_replace (h.more hnew) hnew hsame hother)

end Merge

end SourceFile

end RowTypes
