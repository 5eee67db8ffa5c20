import RowTypes.Proofs.SourceFile.Splicing

/-!
Splicing one block after another. Where a block is put into a text is settled by the text and the type
alone, and the block that was put there is the first region of the type, so the next block of the type
takes its place. Nothing of the first block stays, and no declaration is added twice.

What is proved:
  1. `Splits.splice_eq`: the second splice replaces the block of the first.
  2. `Splits.countP_le`: how many lines declare the type after a splice.
  3. `splice_resplice`: both of these for rendered blocks, and that the first block stands meanwhile.
-/

namespace RowTypes.SourceFile

open Text Region

/-- How many lines of the text are such lines. -/
def countLines (p : List Char → Bool) (text : String) : Nat :=
  (text.toList.splitOn '\n').countP p

section
variable {name : List Char} {ls before after : List (List Char)} {placement : Placement}
  {p : List Char → Bool}

/-! ## The second splice -/

/-- A block between the parts of a text is replaced, and the parts stay. -/
theorem Splits.splice_eq {typeName secondText : String} {second : List (List Char)}
    (layout : Layout typeName.toList) (h : Splits typeName.toList ls placement before after)
    (hls : Clean ls) (hsecond : secondText.toList = terminated second) :
    splice (String.ofList (joined (before ++ layout.lines ++ after))) typeName secondText =
      .ok (String.ofList (joined (before ++ second ++ after)), .replaced) := by
  obtain ⟨hbefore, hafter⟩ := h.clean hls
  rw [splice_of_find layout.clean_name ((hbefore.append layout.clean_lines).append hafter)
    String.toList_ofList hsecond (findLines_layout layout h.shut after)]
  simp only [closing, if_neg h.after_ne_nil]

/-! ## Lines that declare the type -/

theorem countP_layout (layout : Layout name) (hheader : ∀ line, isHeader name line → p line)
    (hdeclares : ∀ line, p line → isDeclaration name line) : layout.lines.countP p = 1 := by
  have hfirst : p (header name) :=
    hheader _ (isHeader_header (unblank_of_unspaced layout.unspaced_name))
  have hrest : (layout.struct ++ layout.tail).countP p = 0 := by
    refine List.countP_eq_zero.mpr fun line hline hp => ?_
    exact layout.not_begins_of_mem hline (begins_of_isDeclaration (hdeclares line hp))
  rw [Layout.lines, List.countP_cons_of_pos hfirst, hrest]

theorem countP_closing (hempty : ¬p []) : (closing after).countP p = after.countP p := by
  unfold closing
  split
  · next hnil =>
    rw [hnil, List.countP_cons_of_neg hempty]
  · rfl

/-- A block takes the place of a header of its type, or comes to lines without a declaration. -/
theorem Splits.countP_le (layout : Layout name) (h : Splits name ls placement before after)
    (hheader : ∀ line, isHeader name line → p line)
    (hdeclares : ∀ line, p line → isDeclaration name line) :
    (before ++ layout.lines ++ after).countP p ≤ max 1 (ls.countP p) := by
  have hempty : ¬p [] := fun hp => by
    have hbegins := begins_of_isDeclaration (hdeclares [] hp)
    simp [begins] at hbegins
  rw [List.countP_append, List.countP_append, countP_layout layout hheader hdeclares]
  cases h with
  | @replaced parts found =>
    obtain ⟨hlines, -⟩ := findLines_eq_some found
    obtain ⟨first, rest, -, hregion, hfirst, -⟩ := exists_header found
    have hone : 0 < parts.region.countP p :=
      List.countP_pos_iff.mpr ⟨first, by simp [hregion], hheader first hfirst⟩
    rw [countP_closing hempty, ← hlines, List.countP_append, List.countP_append]
    omega
  | @appended pad _ undeclared blank =>
    have hnone : ls.countP p = 0 :=
      List.countP_eq_zero.mpr fun line hline hp => undeclared line hline (hdeclares line hp)
    have hpad : pad.countP p = 0 := by
      rcases blank with rfl | rfl <;> simp [hempty]
    have hend : List.countP p [([] : List Char)] = 0 := by simp [hempty]
    rw [List.countP_append, hnone, hpad, hend]
    omega

end

/-- The laws of splicing for two blocks of one type. The first block stands in the text that it was put
into; a second one replaces it and gives the text that it would have given without the first; and no
declaration of the type is added to one that is there, whether a line counts as a declaration only
with its brace or without. -/
theorem splice_resplice {cat cat' : Catalog} {table table' : Table} {first second : Block}
    (hcat : cat.Unspaced) (htable : table.Unspaced) (hfirst : cat.render table = .ok first)
    (hcat' : cat'.Unspaced) (htable' : table'.Unspaced) (hsecond : cat'.render table' = .ok second)
    (hname : second.typeName = first.typeName) {text between : String} {placement : Placement}
    (h : splice text first.typeName first.text = .ok (between, placement)) :
    Stands first between ∧
    (∃ result, splice text second.typeName second.text = .ok (result, placement) ∧
      splice between second.typeName second.text = .ok (result, .replaced)) ∧
    countLines (isHeader first.typeName.toList) between ≤
      max 1 (countLines (isHeader first.typeName.toList) text) ∧
    countLines (isDeclaration first.typeName.toList) between ≤
      max 1 (countLines (isDeclaration first.typeName.toList) text) := by
  obtain ⟨formed⟩ := Catalog.exists_formed hcat htable hfirst
  obtain ⟨formed'⟩ := Catalog.exists_formed hcat' htable' hsecond
  have hlines := clean_splitOn text.toList
  obtain ⟨before, after, hsplits, hsplice⟩ := exists_splits formed.layout.clean_name hlines
    (List.splitOn_ne_nil _ _) (joined_splitOn _).symm h
  obtain ⟨hbefore, hafter⟩ := hsplits.clean hlines
  obtain rfl : between = String.ofList (joined (before ++ formed.layout.lines ++ after)) := by
    rw [hsplice formed.text] at h
    cases h
    rfl
  have hcount (p : List Char → Bool) :
      countLines p (String.ofList (joined (before ++ formed.layout.lines ++ after))) =
        (before ++ formed.layout.lines ++ after).countP p := by
    rw [countLines, String.toList_ofList, splitOn_joined
      ((hbefore.append formed.layout.clean_lines).append hafter) (by simp [hsplits.after_ne_nil])]
  refine ⟨stands_of_splice formed.layout formed.text h, ?again, ?headers, ?declarations⟩
  case again =>
    rw [hname]
    exact ⟨_, hsplice formed'.text, hsplits.splice_eq formed.layout hlines formed'.text⟩
  case headers =>
    rw [hcount]
    exact hsplits.countP_le formed.layout (fun _ hline => hline)
      fun _ hline => isDeclaration_of_isHeader hline
  case declarations =>
    rw [hcount]
    exact hsplits.countP_le formed.layout (fun _ hline => isDeclaration_of_isHeader hline)
      fun _ hline => hline

/-- A block is put at the end of a file, and the block of a later state of its table takes its place. -/
theorem splice_resplice_users : (usersCatalog users).Unspaced ∧ (usersCatalog usersLater).Unspaced ∧
    ∃ between result,
      splice "package p\n" (usersBlock users).typeName (usersBlock users).text =
        .ok (between, .appended) ∧
      Stands (usersBlock users) between ∧
      splice between (usersBlock usersLater).typeName (usersBlock usersLater).text =
        .ok (result, .replaced) ∧
      countLines (isHeader (usersBlock users).typeName.toList) between ≤ 1 := by
  have happend : splice "package p\n" (usersBlock users).typeName (usersBlock users).text =
      .ok (append "package p\n" (usersBlock users).text, .appended) := rfl
  obtain ⟨hstands, ⟨result, -, hreplaced⟩, hcount, -⟩ := splice_resplice
    (show (usersCatalog users).Unspaced by decide) (show users.Unspaced by decide) rfl
    (show (usersCatalog usersLater).Unspaced by decide) (show usersLater.Unspaced by decide) rfl rfl
    happend
  exact ⟨by decide, by decide, _, result, happend, hstands, hreplaced, hcount⟩

end RowTypes.SourceFile
