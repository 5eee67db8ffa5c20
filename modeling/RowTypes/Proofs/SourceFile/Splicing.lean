import RowTypes.SourceFile
import RowTypes.Proofs.Block.Rendering
import RowTypes.Proofs.Region.Lines
import RowTypes.Proofs.Region.Search

/-!
Splicing, line by line. Putting a block into a text leaves the lines before it and those after it as
they are, and the block is then the first region of its type.

What is proved:
  1. `exists_splits`, `exists_of_splice`: where a splice puts a block, whichever it is, and what it
     makes of the lines of a text.
  2. `stands_of_splice`: the block stands in the text that a splice gives.
  3. `splice_of_stands`: to put a block where it stands changes nothing.
  4. `splice_block_in_place`: a block is replaced by another of its type, and nothing else changes.
-/

namespace RowTypes

open Text Region

/-- The first region of the block's type is the block. -/
def Stands (block : Block) (text : String) : Prop :=
  ∃ parts, Region.find? block.typeName.toList text.toList = some parts ∧
    parts.region = block.text.toList

instance (block : Block) (text : String) : Decidable (Stands block text) :=
  decidable_of_iff ((Region.find? block.typeName.toList text.toList).map (·.region) =
      some block.text.toList) Option.map_eq_some_iff

/-- The lines of the layout stand among other lines, the last of which is not theirs, and no region of
the type begins before. -/
def Layout.StandsIn {name : List Char} (layout : Layout name) (ls : List (List Char)) : Prop :=
  ∃ before after, ls = before ++ layout.lines ++ after ∧ after ≠ [] ∧ Shut name before

namespace SourceFile

/-- The lines after a block that ends with a line feed: at least one, which may be empty. -/
def closing (after : List (List Char)) : List (List Char) :=
  if after = [] then [[]] else after

section
variable {name : List Char} {ls before block after : List (List Char)}

theorem closing_ne_nil : closing after ≠ [] := by
  unfold closing
  split
  · simp
  · assumption

theorem clean_closing (h : Clean after) : Clean (closing after) := by
  unfold closing
  split
  · simp [Clean]
  · exact h

theorem joined_closing : joined (closing after) = joined after := by
  unfold closing
  split
  · next h => rw [h]; rfl
  · rfl

/-! ## Splices of lines -/

theorem isDeclaration_of_isHeader {line : List Char} (h : isHeader name line) :
    isDeclaration name line := by
  unfold isHeader at h
  obtain ⟨rest, hwords, hbrace⟩ := (Option.any_eq_true _ _).mp h
  rw [isDeclaration, hwords]
  cases rest with
  | nil => rfl
  | cons c rest =>
    suffices hc : c = ' ' ∨ c = '\t' ∨ c = '\x7b' by
      rcases hc with rfl | rfl | rfl <;> rfl
    by_cases hblank : isBlank c
    · have : c = ' ' ∨ c = '\t' := by simpa [isBlank] using hblank
      rcases this with hc | hc
      · exact .inl hc
      · exact .inr (.inl hc)
    · rw [skipBlanks, List.dropWhile_cons_of_neg hblank] at hbrace
      obtain ⟨tail, htail⟩ := Option.isSome_iff_exists.mp hbrace
      rw [afterWord_eq_some] at htail
      exact .inr (.inr (List.cons.inj htail).1)

theorem splice_of_find {text : String} {typeName blockText : String} {parts : LineParts}
    (hname : '\n' ∉ typeName.toList) (hls : Clean ls) (htext : text.toList = joined ls)
    (hblock : blockText.toList = terminated block)
    (h : findLines typeName.toList ls = some parts) : splice text typeName blockText =
      .ok (String.ofList (joined (parts.before ++ block ++ closing parts.after)), .replaced) := by
  have hfind : Region.find? typeName.toList text.toList = some parts.toParts := by
    rw [htext, find?_joined hname hls, h]
    rfl
  unfold splice
  rw [hfind]
  refine congrArg (fun text => Except.ok (text, Placement.replaced)) ?_
  rw [← String.toList_inj]
  simp only [String.toList_append, String.toList_ofList, hblock, LineParts.toParts,
    joined_append closing_ne_nil, terminated_append, joined_closing]

theorem append_joined {text : String} (hls : Clean ls) (hne : ls ≠ [])
    (htext : text.toList = joined ls) :
    ∃ pad, (pad = [] ∨ pad = [[]]) ∧ ∀ {blockText : String} {block : List (List Char)},
      blockText.toList = terminated block →
        append text blockText = String.ofList (joined (ls ++ pad ++ block ++ [[]])) := by
  obtain ⟨init, last, rfl⟩ : ∃ init last, ls = init ++ [last] :=
    ⟨ls.dropLast, ls.getLast hne, (List.dropLast_concat_getLast hne).symm⟩
  have hlast : '\n' ∉ last := hls last (by simp)
  have hend : [([] : List Char)] ≠ [] := by simp
  rw [joined_append (by simp), joined_singleton] at htext
  by_cases hbreak : text.toList.getLast? = some '\n'
  · have hempty : last = [] := by
      by_cases hl : last = []
      · exact hl
      · rw [htext, List.getLast?_append, List.getLast?_eq_some_getLast hl] at hbreak
        have hfeed : last.getLast hl = '\n' := by simpa using hbreak
        exact absurd (hfeed ▸ List.getLast_mem hl) hlast
    subst hempty
    refine ⟨[], .inl rfl, fun hblock => ?_⟩
    rw [append, if_pos hbreak, ← String.toList_inj]
    simp only [String.toList_append, String.toList_ofList, hblock, htext,
      joined_append hend, terminated_append]
    simp
  · refine ⟨[[]], .inr rfl, fun hblock => ?_⟩
    rw [append, if_neg hbreak, ← String.toList_inj]
    simp only [String.toList_append, String.toList_ofList, hblock, htext,
      joined_append hend, terminated_append]
    simp

theorem clean_of_findLines {parts : LineParts} (h : findLines name ls = some parts) (hls : Clean ls) :
    Clean parts.before ∧ Clean parts.region ∧ Clean parts.after := by
  obtain ⟨hlines, -⟩ := findLines_eq_some h
  rw [← hlines] at hls
  exact ⟨hls.of_append_left.of_append_left, hls.of_append_left.of_append_right, hls.of_append_right⟩

/-- The lines that come to stand before a block and after it when it is put into the lines of a
text. -/
inductive Splits (name : List Char) (ls : List (List Char)) :
    Placement → List (List Char) → List (List Char) → Prop where
  | replaced {parts : LineParts} (found : findLines name ls = some parts) :
      Splits name ls .replaced parts.before (closing parts.after)
  | appended {pad : List (List Char)} (none : findLines name ls = none)
      (undeclared : ∀ line ∈ ls, ¬isDeclaration name line) (blank : pad = [] ∨ pad = [[]]) :
      Splits name ls .appended (ls ++ pad) [[]]

namespace Splits
variable {placement : Placement}

theorem after_ne_nil (h : Splits name ls placement before after) : after ≠ [] := by
  cases h with
  | replaced => exact closing_ne_nil
  | appended => simp

theorem clean (h : Splits name ls placement before after) (hls : Clean ls) :
    Clean before ∧ Clean after := by
  cases h with
  | replaced found =>
    obtain ⟨hbefore, -, hafter⟩ := clean_of_findLines found hls
    exact ⟨hbefore, clean_closing hafter⟩
  | appended _ _ blank =>
    refine ⟨hls.append ?_, by simp [Clean]⟩
    rcases blank with rfl | rfl <;> simp [Clean]

theorem shut (h : Splits name ls placement before after) : Shut name before := by
  cases h with
  | replaced found => exact shut_before found
  | appended _ undeclared blank =>
    apply shut_of_forall_not_isHeader
    intro line hline hheader
    rcases List.mem_append.mp hline with hmem | hmem
    · exact undeclared line hmem (isDeclaration_of_isHeader hheader)
    · have hempty : line = [] := by
        rcases blank with rfl | rfl
        · simp at hmem
        · simpa using hmem
      rw [hempty] at hheader
      simp [isHeader, afterHeaderWords, afterWord] at hheader

end Splits

/-- A splice parts the lines of a text, and whichever block is put there comes between the parts. -/
theorem exists_splits {text typeName blockText result : String} {placement : Placement}
    (hname : '\n' ∉ typeName.toList) (hls : Clean ls) (hne : ls ≠ [])
    (htext : text.toList = joined ls)
    (h : splice text typeName blockText = .ok (result, placement)) :
    ∃ before after, Splits typeName.toList ls placement before after ∧
      ∀ {newText : String} {block : List (List Char)}, newText.toList = terminated block →
        splice text typeName newText =
          .ok (String.ofList (joined (before ++ block ++ after)), placement) := by
  cases hfind : findLines typeName.toList ls with
  | some parts =>
    have hnew {newText : String} {block : List (List Char)} (hblock : newText.toList = terminated block) :=
      splice_of_find hname hls htext hblock hfind
    obtain rfl : placement = .replaced := by
      unfold splice at h
      rw [htext, find?_joined hname hls, hfind] at h
      cases h
      rfl
    exact ⟨_, _, .replaced hfind, hnew⟩
  | none =>
    have hnone : Region.find? typeName.toList text.toList = none := by
      rw [htext, find?_joined hname hls, hfind]
      rfl
    unfold splice at h ⊢
    rw [hnone] at h ⊢
    dsimp only at h ⊢
    split at h
    · simp at h
    · next hdeclares =>
      cases h
      obtain ⟨pad, hpad, happend⟩ := append_joined hls hne htext
      refine ⟨_, _, .appended hfind ?_ hpad, fun hblock => ?_⟩
      · intro line hline hdeclaration
        rw [htext, declares_joined hname hls] at hdeclares
        exact hdeclares (List.any_eq_true.mpr ⟨line, hline, hdeclaration⟩)
      · rw [if_neg hdeclares, happend hblock]

/-- What a splice makes of the lines of a text. -/
theorem exists_of_splice {text typeName blockText result : String} {placement : Placement}
    (hname : '\n' ∉ typeName.toList) (hls : Clean ls) (hne : ls ≠ [])
    (htext : text.toList = joined ls) (hblock : blockText.toList = terminated block)
    (h : splice text typeName blockText = .ok (result, placement)) :
    ∃ before after, Splits typeName.toList ls placement before after ∧
      result = String.ofList (joined (before ++ block ++ after)) := by
  obtain ⟨before, after, hsplits, hnew⟩ := exists_splits hname hls hne htext h
  rw [hnew hblock] at h
  cases h
  exact ⟨before, after, hsplits, rfl⟩

theorem subset_of_splice {text typeName blockText result : String} {placement : Placement}
    (h : splice text typeName blockText = .ok (result, placement)) :
    blockText.toList ⊆ result.toList := by
  unfold splice at h
  split at h
  · cases h
    simp
  · split at h
    · simp at h
    · cases h
      intro c hc
      simp [append, hc]

/-! ## Blocks that stand -/

theorem findLines_layout (layout : Layout name) (hbefore : Shut name before)
    (after : List (List Char)) :
    findLines name (before ++ layout.lines ++ after) = some ⟨before, layout.lines, after⟩ := by
  have hregion := layout.regionLength?_lines after
  have hfind : findLines name (layout.lines ++ after) = some ⟨[], layout.lines, after⟩ := by
    cases hlines : layout.lines with
    | nil => simp [Layout.lines] at hlines
    | cons line rest =>
      rw [hlines] at hregion
      rw [List.cons_append, findLines_cons, ← List.cons_append, hregion]
      simp
  rw [List.append_assoc, findLines_append hbefore, hfind]
  simp

/-- A block stands iff the first region of its type is the block and is not the last of the lines. -/
theorem standsIn_iff (layout : Layout name) : layout.StandsIn ls ↔
    ∃ before after, after ≠ [] ∧ findLines name ls = some ⟨before, layout.lines, after⟩ := by
  constructor
  · rintro ⟨before, after, rfl, hafter, hshut⟩
    exact ⟨before, after, hafter, findLines_layout layout hshut after⟩
  · rintro ⟨before, after, hafter, hfind⟩
    obtain ⟨hlines, -⟩ := findLines_eq_some hfind
    exact ⟨before, after, hlines.symm, hafter, shut_before hfind⟩

theorem standsIn_iff_of_findLines (layout : Layout name) {parts : LineParts}
    (hfind : findLines name ls = some parts) :
    layout.StandsIn ls ↔ parts.region = layout.lines ∧ parts.after ≠ [] := by
  obtain ⟨before, region, after⟩ := parts
  rw [standsIn_iff, hfind]
  simp [and_comm]

end

section
variable {block : Block} {text : String} {ls : List (List Char)}

theorem stands_iff (layout : Layout block.typeName.toList)
    (hblock : block.text.toList = terminated layout.lines) (hls : Clean ls)
    (htext : text.toList = joined ls) : Stands block text ↔ layout.StandsIn ls := by
  have hname := layout.clean_name
  constructor
  · rintro ⟨parts, hfind, hregion⟩
    rw [htext, find?_joined hname hls] at hfind
    obtain ⟨found, hfound, rfl⟩ := Option.map_eq_some_iff.mp hfind
    obtain ⟨-, hlength⟩ := findLines_eq_some hfound
    obtain ⟨-, hclean, -⟩ := clean_of_findLines hfound hls
    obtain ⟨header, rest, -, hcons, -⟩ := exists_header hfound
    have hne : found.region ≠ [] := by simp [hcons]
    have hafter : found.after ≠ [] := by
      intro hnil
      have hlonger : found.region = layout.lines ++ [[]] := by
        refine joined_inj hclean (layout.clean_lines.append (by simp [Clean])) hne (by simp) ?_
        rw [← terminated_eq_joined, ← hblock, ← hregion, LineParts.toParts, if_pos hnil]
      rw [hnil, List.append_nil, hlonger, layout.regionLength?_lines] at hlength
      simp at hlength
    have hsame : found.region = layout.lines := by
      refine terminated_inj hclean layout.clean_lines ?_
      rw [← hblock, ← hregion, LineParts.toParts, if_neg hafter]
    exact (standsIn_iff_of_findLines layout hfound).mpr ⟨hsame, hafter⟩
  · intro hstands
    obtain ⟨before, after, hafter, hfound⟩ := (standsIn_iff layout).mp hstands
    refine ⟨LineParts.toParts ⟨before, layout.lines, after⟩, ?_, ?_⟩
    · rw [htext, find?_joined hname hls, hfound]
      rfl
    · simp [LineParts.toParts, hafter, hblock]

/-- The block stands in the text that a splice gives. -/
theorem stands_of_splice {result : String} {placement : Placement}
    (layout : Layout block.typeName.toList) (hblock : block.text.toList = terminated layout.lines)
    (h : splice text block.typeName block.text = .ok (result, placement)) : Stands block result := by
  obtain ⟨ls, hls, hne, htext⟩ := exists_lines text.toList
  obtain ⟨before, after, hsplits, rfl⟩ :=
    exists_of_splice layout.clean_name hls hne htext.symm hblock h
  obtain ⟨hbefore, hafter⟩ := hsplits.clean hls
  exact (stands_iff layout hblock ((hbefore.append layout.clean_lines).append hafter)
    String.toList_ofList).mpr ⟨before, after, rfl, hsplits.after_ne_nil, hsplits.shut⟩

/-- To put a block where it stands changes nothing. -/
theorem splice_of_stands (layout : Layout block.typeName.toList)
    (hblock : block.text.toList = terminated layout.lines) (h : Stands block text) :
    splice text block.typeName block.text = .ok (text, .replaced) := by
  obtain ⟨ls, hls, -, htext⟩ := exists_lines text.toList
  obtain ⟨before, after, rfl, hafter, hshut⟩ := (stands_iff layout hblock hls htext.symm).mp h
  rw [splice_of_find layout.clean_name hls htext.symm hblock (findLines_layout layout hshut after)]
  simp only [closing, if_neg hafter]
  rw [htext, String.ofList_toList]

/-! ## Replacement -/

theorem exists_terminated {s : List Char} (h : s = [] ∨ s.getLast? = some '\n') :
    ∃ ls, Clean ls ∧ s = terminated ls := by
  obtain ⟨ls, hls, hne, rfl⟩ := exists_lines s
  obtain ⟨init, last, rfl⟩ : ∃ init last, ls = init ++ [last] :=
    ⟨ls.dropLast, ls.getLast hne, (List.dropLast_concat_getLast hne).symm⟩
  have hlast : '\n' ∉ last := hls last (by simp)
  rw [joined_append (by simp), joined_singleton] at h ⊢
  refine ⟨init, hls.of_append_left, ?_⟩
  by_cases hl : last = []
  · simp [hl]
  · rcases h with hnil | hfeed
    · simp [hl] at hnil
    · rw [List.getLast?_append, List.getLast?_eq_some_getLast hl] at hfeed
      have heq : last.getLast hl = '\n' := by simpa using hfeed
      exact absurd (heq ▸ List.getLast_mem hl) hlast

end

/-- A block is replaced by another one exactly where it stands. What comes before it has to end with
a line and must have no header of the type; what comes after it may be anything. -/
theorem splice_block_in_place {cat cat' : Catalog} {table table' : Table} {old new : Block}
    (hcat : cat.Unspaced) (htable : table.Unspaced) (hold : cat.render table = .ok old)
    (hcat' : cat'.Unspaced) (htable' : table'.Unspaced) (hnew : cat'.render table' = .ok new)
    (pre post : String)
    (hpre : pre = "" ∨ pre.toList.getLast? = some '\n')
    (hheader : ∀ line ∈ lines pre, ¬isHeader old.typeName.toList line.toList) :
    splice (pre ++ old.text ++ post) old.typeName new.text =
      .ok (pre ++ new.text ++ post, .replaced) := by
  obtain ⟨layout, hlayout, -⟩ := Catalog.exists_formed hcat htable hold
  obtain ⟨layout', hlayout', -⟩ := Catalog.exists_formed hcat' htable' hnew
  obtain ⟨before, hbefore, hpreLines⟩ :=
    exists_terminated (s := pre.toList) (by simpa using hpre)
  obtain ⟨after, hafter, hne, hpost⟩ := exists_lines post.toList
  have hshut : Shut old.typeName.toList before := by
    apply shut_of_forall_not_isHeader
    intro line hline
    have hmem : String.ofList line ∈ lines pre := by
      rw [lines, hpreLines, terminated_eq_joined, splitOn_joined (hbefore.append (by simp [Clean]))
        (by simp)]
      exact List.mem_map_of_mem (List.mem_append_left _ hline)
    simpa using hheader _ hmem
  have htext : (pre ++ old.text ++ post).toList = joined (before ++ layout.lines ++ after) := by
    rw [joined_append hne, terminated_append, String.toList_append, String.toList_append, hpreLines,
      hlayout, hpost]
  have hclean : Clean (before ++ layout.lines ++ after) :=
    (hbefore.append layout.clean_lines).append hafter
  rw [splice_of_find layout.clean_name hclean htext hlayout' (findLines_layout layout hshut after)]
  refine congrArg (fun text => Except.ok (text, Placement.replaced)) ?_
  rw [← String.toList_inj]
  simp only [String.toList_ofList, String.toList_append, closing, if_neg hne, joined_append hne,
    terminated_append, hpreLines, hlayout', hpost]

/-- Two states of a table: the later one has another column, and a comment that looks like a struct. -/
def users : Table :=
  { name := "users", columns := [{ name := "id", dataType := .integer }] }

def usersLater : Table :=
  { name := "users"
    columns := [{ name := "id", dataType := .integer, comment := some "\x7d\ntype Users struct \x7b" },
      { name := "born", dataType := .date }] }

def usersCatalog (table : Table) : Catalog :=
  { config := {}, tables := [table] }

/-- The block of the table, with the types of the fields as they are. -/
def usersBlock (table : Table) : Block :=
  (usersCatalog table).blockOf table
    (table.columns.map fun column => (column, .scalar column.dataType column.nullable, []))

theorem splice_block_in_place_users :
    (usersCatalog users).Unspaced ∧ (usersCatalog usersLater).Unspaced ∧
    splice ("package p\n\n" ++ (usersBlock users).text ++ "const (\n\tUsers_x = 1\n)\n")
        (usersBlock users).typeName (usersBlock usersLater).text =
      .ok ("package p\n\n" ++ (usersBlock usersLater).text ++ "const (\n\tUsers_x = 1\n)\n",
        .replaced) :=
  ⟨by decide, by decide,
    splice_block_in_place (show (usersCatalog users).Unspaced by decide)
      (show users.Unspaced by decide) rfl (show (usersCatalog usersLater).Unspaced by decide)
      (show usersLater.Unspaced by decide) rfl _ _ (.inr (by decide)) (by decide)⟩

end SourceFile

end RowTypes
