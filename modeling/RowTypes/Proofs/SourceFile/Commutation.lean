import RowTypes.Proofs.Imports.Order
import RowTypes.Proofs.SourceFile.Coexistence
import RowTypes.Proofs.SourceFile.Idempotence

/-!
Two blocks that are merged in either order. A merge widens the clause at the beginning of the text and
replaces one block behind it; it moves the other block and leaves it as it is. So the merges of two
blocks of different types give the same text, whichever comes first.

What is proved:
  1. `Front.merge_eq`: a merge behind a clause, by the lines of the text.
  2. `merge_comm`: the text that both orders give.
-/

namespace RowTypes.SourceFile

open Text Region Imports

/-- The block is rendered for a table of this type, and no name and no suffix holds white space. -/
def RenderedAs (typeName : String) (block : Block) : Prop :=
  block.typeName = typeName ∧
    ∃ (cat : Catalog) (table : Table), cat.Unspaced ∧ table.Unspaced ∧ cat.render table = .ok block

/-- The entry has no alias, or one without a slash, such as `_`, `.` and identifiers. -/
def PlainlyNamed (entry : ImportEntry) : Prop :=
  ∃ name path, '/' ∉ name ∧ entry = entryOf name path

theorem PlainlyNamed.not_commented {entry : ImportEntry} (h : PlainlyNamed entry) :
    ¬Commented entry := by
  obtain ⟨name, path, hname, rfl⟩ := h
  rintro ⟨rest, hrest⟩
  rw [written_entryOf, aliasPart] at hrest
  have hhead := congrArg List.head? hrest
  cases name with
  | nil => simp at hhead
  | cons c name =>
    have hc : '/' = c := by simpa using hhead
    exact hname (hc ▸ List.mem_cons_self)

theorem RenderedAs.exists_layout {typeName : String} {block : Block} (h : RenderedAs typeName block) :
    (∃ layout : Layout typeName.toList, block.text.toList = terminated layout.lines) ∧
      Plain block.dependencies := by
  obtain ⟨rfl, cat, table, hcat, htable, hrender⟩ := h
  obtain ⟨formed⟩ := Catalog.exists_formed hcat htable hrender
  exact ⟨⟨formed.layout, formed.text⟩, formed.plain⟩

/-- The lines of a text up to a block: those before the clause, the clause, and the others. -/
def frontLines (before own : List String) (others : List (List Char)) : List (List Char) :=
  (before ++ own).map String.toList ++ others

/-- What stands in front of a block of the type: a clause, and no header of the type. -/
structure Front (name : List Char) (before own : List String) (others : List (List Char))
    (entries : ImportEntries) : Prop where
  opening : Opening before own entries
  clean : Clean (frontLines before own others)
  noHeader : ∀ line ∈ frontLines before own others, ¬isHeader name line

namespace Front
variable {typeName : String} {block : Block} {name other : List Char} {before own : List String}
  {others after : List (List Char)} {entries : ImportEntries} {packages : Packages}

theorem cleanLines (h : Front name before own others entries) : CleanLines (before ++ (own ++ [])) := by
  intro line hline
  rw [List.append_nil] at hline
  exact h.clean _ (List.mem_append_left _ (List.mem_map_of_mem hline))

theorem widen (h : Front name before own others entries) (hplain : Plain packages) :
    Front name before (widenedClause own entries packages) others (addPackages entries packages) := by
  have hopening := h.opening.widen fun path hpath => (hplain path hpath).1
  by_cases hne : packages = []
  · rw [hne, widenedClause, if_pos rfl]
    exact h
  have hclause : widenedClause own entries packages = render (addPackages entries packages) :=
    if_neg hne
  have hclean := h.clean
  have hnoHeader := h.noHeader
  have hread : WellRead entries := (exists_of_find? h.cleanLines (h.opening.found [])).1
  simp only [frontLines, List.map_append, List.append_assoc] at hclean hnoHeader
  refine ⟨hopening, ?_, ?_⟩
  · rw [frontLines, List.map_append, List.append_assoc, hclause]
    exact hclean.of_append_left.append
      ((clean_of_cleanLines (cleanLines_render (wellRead_addPackages hread hplain).readable)).append
        hclean.of_append_right.of_append_right)
  · rw [frontLines, List.map_append, List.append_assoc, hclause]
    intro line hline
    rcases List.mem_append.mp hline with hmem | hmem
    · exact hnoHeader line (List.mem_append_left _ hmem)
    · rcases List.mem_append.mp hmem with hmem | hmem
      · obtain ⟨written, hwritten, rfl⟩ := List.mem_map.mp hmem
        exact not_isHeader_of_isWritten (isWritten_of_mem_render hwritten)
      · exact hnoHeader line (List.mem_append_right _ (List.mem_append_right _ hmem))

theorem append (h : Front name before own others entries) {more : List (List Char)}
    (hclean : Clean more) (hnoHeader : ∀ line ∈ more, ¬isHeader name line) :
    Front name before own (others ++ more) entries where
  opening := h.opening
  clean := by
    rw [frontLines, ← List.append_assoc]
    exact h.clean.append hclean
  noHeader := by
    rw [frontLines, ← List.append_assoc]
    exact fun line hline => (List.mem_append.mp hline).elim (h.noHeader line) (hnoHeader line)

/-- A merge behind a clause widens the clause and replaces the block. -/
theorem merge_eq (h : Front typeName.toList before own others entries) (hblock : RenderedAs typeName block)
    (old new : Layout typeName.toList) (hnew : block.text.toList = terminated new.lines)
    (hafter : Clean after) (hne : after ≠ []) (packageName : String) :
    merge (String.ofList (joined (frontLines before own others ++ old.lines ++ after))) packageName
        block = .ok ⟨String.ofList (joined
          (frontLines before (widenedClause own entries block.dependencies) others ++ new.lines ++
            after)), .patched⟩ := by
  have hwidened := h.widen hblock.exists_layout.2
  have hclean := (h.clean.append old.clean_lines).append hafter
  have hink : ¬isAllWhite
      (String.ofList (joined (frontLines before own others ++ old.lines ++ after))) := by
    refine not_isAllWhite_of_mem_toList (c := 't') ?_ (by decide)
    rw [String.toList_ofList, joined_append hne]
    simp [Layout.lines, header_eq]
  have hlines := lines_eq hclean (by simp [hne]) String.toList_ofList
  have himports : Imports.merge
      (lines (String.ofList (joined (frontLines before own others ++ old.lines ++ after))))
      block.dependencies = .ok (before ++ (widenedClause own entries block.dependencies ++
        (others ++ old.lines ++ after).map String.ofList)) := by
    rw [hlines, ← h.opening.merge_eq]
    simp [frontLines, Function.comp_def]
  have htext : (ofLines (before ++ (widenedClause own entries block.dependencies ++
      (others ++ old.lines ++ after).map String.ofList))).toList =
      joined (frontLines before (widenedClause own entries block.dependencies) others ++ old.lines ++
        after) := by
    rw [toList_ofLines]
    simp [frontLines, Function.comp_def]
  have hsplice := splice_of_find old.clean_name ((hwidened.clean.append old.clean_lines).append hafter)
    htext hnew (findLines_layout old (shut_of_forall_not_isHeader hwidened.noHeader) after)
  rw [merge_of_ink hink, hblock.1, patch_ok himports hsplice, closing, if_neg hne]
  rfl

end Front

/-! ## Two blocks -/

/-- A text with two blocks. -/
def withBlocks (pre : String) (first : Block) (mid : String) (second : Block) (post : String) : String :=
  pre ++ first.text ++ mid ++ second.text ++ post

/-- A text with other entries in its clause. -/
def withEntries (pre : String) (clause : Clause) (entries : ImportEntries) : String :=
  ofLines (replaceLines (lines pre) clause.start clause.stop (render entries))

/-- The same text by its lines. -/
def lineText (front first mid second post : List (List Char)) : String :=
  String.ofList (joined (front ++ first ++ (mid ++ second ++ post)))

section
variable {typeName other : String} {block first second : Block} {pre mid post : String}
  {clause : Clause} {entries : ImportEntries} {before own : List String}
  {others preLines firstLines midLines secondLines postLines : List (List Char)}

theorem withBlocks_eq (hpre : pre.toList = terminated preLines)
    (hfirst : first.text.toList = terminated firstLines) (hmid : mid.toList = terminated midLines)
    (hsecond : second.text.toList = terminated secondLines) (hpost : joined postLines = post.toList)
    (hne : postLines ≠ []) : withBlocks pre first mid second post =
      lineText preLines firstLines midLines secondLines postLines := by
  rw [← String.toList_inj, lineText, String.toList_ofList, joined_append (by simp [hne]), joined_append hne,
    terminated_append, terminated_append, hpost]
  simp only [withBlocks, String.toList_append, hpre, hfirst, hmid, hsecond, List.append_assoc]

theorem exists_frontLines (hpre : pre = "" ∨ pre.toList.getLast? = some '\n')
    (hclause : find? (lines pre) = .ok (some clause))
    (hnames : ∀ entry ∈ clause.entries, PlainlyNamed entry) :
    ∃ before own others, Clean (frontLines before own others) ∧
      pre.toList = terminated (frontLines before own others) ∧
      lines pre = before ++ (own ++ (others ++ [[]]).map String.ofList) ∧
      clause.start = before.length ∧ clause.stop = before.length + own.length ∧
      Opening before own clause.entries := by
  obtain ⟨preLines, hclean, hpreLines⟩ := exists_terminated (s := pre.toList) (by simpa using hpre)
  have hlines : lines pre = (preLines ++ [[]]).map String.ofList :=
    lines_eq (hclean.append (by simp [Clean])) (by simp) (by rw [hpreLines, terminated_eq_joined])
  obtain ⟨before, own, after, hsplit, hisClause, hstart, hstop, hopening⟩ := exists_opening hclause
    fun entry hentry => (hnames entry hentry).not_commented
  obtain ⟨init, last, hown, hlast⟩ := hisClause.exists_last
  have hafter : after ≠ [] := by
    rintro rfl
    rw [hsplit, hown, List.append_nil, ← List.append_assoc, List.map_append] at hlines
    exact hlast (List.head_eq_of_cons_eq (List.append_inj_right' hlines rfl))
  obtain ⟨rest, final, rfl⟩ : ∃ rest final, after = rest ++ [final] :=
    ⟨after.dropLast, after.getLast hafter, (List.dropLast_concat_getLast hafter).symm⟩
  rw [hsplit, List.map_append, ← List.append_assoc, ← List.append_assoc] at hlines
  have hfinal : final = "" := List.head_eq_of_cons_eq (List.append_inj_right' hlines rfl)
  have hfront : frontLines before own (rest.map String.toList) = preLines := by
    rw [frontLines, ← List.map_append, List.append_inj_left' hlines rfl, map_toList_ofList]
  refine ⟨before, own, rest.map String.toList, hfront ▸ hclean, by rw [hfront, hpreLines], ?_, hstart,
    hstop, hopening⟩
  · rw [hsplit, hfinal, List.map_append, map_ofList_toList]
    rfl

theorem toList_withEntries
    (hlines : lines pre = before ++ (own ++ (others ++ [[]]).map String.ofList))
    (hstart : clause.start = before.length) (hstop : clause.stop = before.length + own.length) :
    (withEntries pre clause entries).toList = terminated (frontLines before (render entries) others) := by
  rw [withEntries, toList_ofLines, hlines, hstart, hstop, replaceLines_append, terminated_eq_joined]
  simp [frontLines, Function.comp_def]

theorem mem_lines_of_terminated {text : String} {ls : List (List Char)} {line : List Char}
    (hclean : Clean ls) (htext : text.toList = terminated ls) (hline : line ∈ ls) :
    String.ofList line ∈ lines text := by
  rw [lines_eq (hclean.append (show Clean [[]] by simp [Clean])) (by simp)
    (by rw [htext, terminated_eq_joined])]
  exact List.mem_map_of_mem (List.mem_append_left _ hline)

theorem merge_first (h : Front typeName.toList before own others entries)
    (hblock : RenderedAs typeName block) (old new : Layout typeName.toList)
    (hnew : block.text.toList = terminated new.lines) (hmid : Clean midLines)
    (kept : Layout other.toList) (hpost : Clean postLines) (hne : postLines ≠ [])
    (packageName : String) :
    merge (lineText (frontLines before own others) old.lines midLines kept.lines postLines)
      packageName block = .ok ⟨lineText
        (frontLines before (widenedClause own entries block.dependencies) others) new.lines midLines
          kept.lines postLines, .patched⟩ :=
  h.merge_eq hblock old new hnew ((hmid.append kept.clean_lines).append hpost) (by simp [hne])
    packageName

theorem merge_second (h : Front typeName.toList before own others entries)
    (hblock : RenderedAs typeName block) (old new : Layout typeName.toList)
    (hnew : block.text.toList = terminated new.lines) (hmid : Clean midLines)
    (hmidHeader : ∀ line ∈ midLines, ¬isHeader typeName.toList line) (kept : Layout other.toList)
    (hother : other ≠ typeName) (hpost : Clean postLines) (hne : postLines ≠ [])
    (packageName : String) :
    merge (lineText (frontLines before own others) kept.lines midLines old.lines postLines)
      packageName block = .ok ⟨lineText
        (frontLines before (widenedClause own entries block.dependencies) others) kept.lines midLines
          new.lines postLines, .patched⟩ := by
  have hshift (own : List String) (ls : List (List Char)) :
      lineText (frontLines before own others) kept.lines midLines ls postLines =
        String.ofList (joined (frontLines before own (others ++ (kept.lines ++ midLines)) ++ ls ++
          postLines)) := by
    simp [lineText, frontLines]
  have hname : Unblank typeName.toList := unblank_of_unspaced old.unspaced_name
  -- The first block and the lines between are part of the front, as they have no header of the second type.
  have hfront := h.append (kept.clean_lines.append hmid) fun line hline =>
    (List.mem_append.mp hline).elim
      (not_isHeader_of_mem_lines kept hname fun heq => hother (String.toList_inj.mp heq))
      (hmidHeader line)
  rw [hshift, hfront.merge_eq hblock old new hnew hpost hne, hshift]

/-- Blocks of two types behind a clause are replaced in either order, with the same result: the clause
imports what both need, and both new blocks stand where the old ones did. -/
theorem merge_comm {typeX typeY : String} {oldX newX oldY newY : Block} (htypes : typeX ≠ typeY)
    (holdX : RenderedAs typeX oldX) (hnewX : RenderedAs typeX newX) (holdY : RenderedAs typeY oldY)
    (hnewY : RenderedAs typeY newY) {pre mid : String} (post : String) {clause : Clause}
    (hpre : pre = "" ∨ pre.toList.getLast? = some '\n')
    (hmid : mid = "" ∨ mid.toList.getLast? = some '\n')
    (hheaders : ∀ line ∈ lines pre ++ lines mid,
      ¬isHeader typeX.toList line.toList ∧ ¬isHeader typeY.toList line.toList)
    (hclause : find? (lines pre) = .ok (some clause))
    (hnames : ∀ entry ∈ clause.entries, PlainlyNamed entry) (packageX packageY : String) :
    ∃ entries widened textX textY,
      IsUnion clause.entries (newX.dependencies ++ newY.dependencies) entries ∧
      widened = (if newX.dependencies ++ newY.dependencies = [] then pre
        else withEntries pre clause entries) ∧
      merge (withBlocks pre oldX mid oldY post) packageX newX = .ok ⟨textX, .patched⟩ ∧
      merge textX packageY newY = .ok ⟨withBlocks widened newX mid newY post, .patched⟩ ∧
      merge (withBlocks pre oldX mid oldY post) packageY newY = .ok ⟨textY, .patched⟩ ∧
      merge textY packageX newX = .ok ⟨withBlocks widened newX mid newY post, .patched⟩ := by
  obtain ⟨⟨oldLayoutX, holdTextX⟩, -⟩ := holdX.exists_layout
  obtain ⟨⟨newLayoutX, hnewTextX⟩, hplainX⟩ := hnewX.exists_layout
  obtain ⟨⟨oldLayoutY, holdTextY⟩, -⟩ := holdY.exists_layout
  obtain ⟨⟨newLayoutY, hnewTextY⟩, hplainY⟩ := hnewY.exists_layout
  obtain ⟨before, own, others, hclean, hpreText, hlines, hstart, hstop, hopening⟩ :=
    exists_frontLines hpre hclause hnames
  obtain ⟨midLines, hcleanMid, hmidText⟩ := exists_terminated (s := mid.toList) (by simpa using hmid)
  obtain ⟨postLines, hcleanPost, hne, hpostText⟩ := exists_lines post.toList
  have hheaderPre (line : List Char) (hline : line ∈ frontLines before own others) :=
    hheaders _ (List.mem_append_left _ (mem_lines_of_terminated hclean hpreText hline))
  have hheaderMid (line : List Char) (hline : line ∈ midLines) :=
    hheaders _ (List.mem_append_right _ (mem_lines_of_terminated hcleanMid hmidText hline))
  simp only [String.toList_ofList] at hheaderPre hheaderMid
  have hfrontX : Front typeX.toList before own others clause.entries :=
    ⟨hopening, hclean, fun line hline => (hheaderPre line hline).1⟩
  have hfrontY : Front typeY.toList before own others clause.entries :=
    ⟨hopening, hclean, fun line hline => (hheaderPre line hline).2⟩
  have hmidY (line : List Char) (hline : line ∈ midLines) := (hheaderMid line hline).2
  have hsorted := hopening.wellRead.sorted
  have htext := withBlocks_eq hpreText holdTextX hmidText holdTextY hpostText hne
  have hX := merge_first hfrontX hnewX oldLayoutX newLayoutX hnewTextX hcleanMid oldLayoutY hcleanPost
    hne packageX
  have hXY := merge_second (hfrontY.widen hplainX) hnewY oldLayoutY newLayoutY hnewTextY hcleanMid hmidY
    newLayoutX htypes hcleanPost hne packageY
  have hY := merge_second hfrontY hnewY oldLayoutY newLayoutY hnewTextY hcleanMid hmidY oldLayoutX
    htypes hcleanPost hne packageY
  have hYX := merge_first (hfrontX.widen hplainY) hnewX oldLayoutX newLayoutX hnewTextX hcleanMid
    newLayoutY hcleanPost hne packageX
  rw [widenedClause_append] at hXY hYX
  rw [widenedClause_comm own hsorted] at hYX
  have hwidened : (if newX.dependencies ++ newY.dependencies = [] then pre
      else withEntries pre clause (addPackages clause.entries (newX.dependencies ++
        newY.dependencies))).toList = terminated (frontLines before
          (widenedClause own clause.entries (newX.dependencies ++ newY.dependencies)) others) := by
    unfold widenedClause
    split
    · exact hpreText
    · exact toList_withEntries hlines hstart hstop
  have hresult := withBlocks_eq hwidened hnewTextX hmidText hnewTextY hpostText hne
  rw [← hresult] at hXY hYX
  rw [← htext] at hX hY
  exact ⟨_, _, _, _, isUnion_addPackages hsorted _, rfl, hX, hXY, hY, hYX⟩

end

/-- The beginning of a file that imports a driver for its side effects, and a package by another name. -/
def aliasedFront : String :=
  "package p\n\nimport (\n\t_ \"lib\"\n\tpq \"github.com/lib/pq\"\n)\n\n"

def aliasedEntries : ImportEntries :=
  [entryOf "pq".toList "github.com/lib/pq".toList, entryOf "_".toList "lib".toList]

/-- A table whose block needs another package. -/
def memos : Table :=
  { name := "memos", columns := [{ name := "text", dataType := .string, nullable := true }] }

theorem merge_comm_users :
    find? (lines aliasedFront) = .ok (some ⟨2, 6, aliasedEntries⟩) ∧
    ∃ entries textX textY, IsUnion aliasedEntries ["time", "database/sql"] entries ∧
      merge (withBlocks aliasedFront (usersBlock users) "\n" (usersBlock memos) "") "p"
        (usersBlock usersLater) = .ok ⟨textX, .patched⟩ ∧
      merge textX "p" (usersBlock memos) =
        .ok ⟨withBlocks (withEntries aliasedFront ⟨2, 6, aliasedEntries⟩ entries)
          (usersBlock usersLater) "\n" (usersBlock memos) "", .patched⟩ ∧
      merge (withBlocks aliasedFront (usersBlock users) "\n" (usersBlock memos) "") "p"
        (usersBlock memos) = .ok ⟨textY, .patched⟩ ∧
      merge textY "p" (usersBlock usersLater) =
        .ok ⟨withBlocks (withEntries aliasedFront ⟨2, 6, aliasedEntries⟩ entries)
          (usersBlock usersLater) "\n" (usersBlock memos) "", .patched⟩ := by
  have hclause : find? (lines aliasedFront) = .ok (some ⟨2, 6, aliasedEntries⟩) := by decide +kernel
  have hrendered (table : Table) (htable : table.Unspaced) (hcat : (usersCatalog table).Unspaced)
      (hrender : (usersCatalog table).render table = .ok (usersBlock table)) :
      RenderedAs (usersBlock table).typeName (usersBlock table) :=
    ⟨rfl, usersCatalog table, table, hcat, htable, hrender⟩
  have husers := hrendered users (by decide) (by decide) rfl
  have hlater := hrendered usersLater (by decide) (by decide) rfl
  have hmemos := hrendered memos (by decide) (by decide) rfl
  have hnames : ∀ entry ∈ aliasedEntries, PlainlyNamed entry := by
    intro entry hentry
    rcases List.mem_pair.mp hentry with rfl | rfl
    · exact ⟨_, _, by decide, rfl⟩
    · exact ⟨_, _, by decide, rfl⟩
  have hpackages : (usersBlock usersLater).dependencies ++ (usersBlock memos).dependencies =
      ["time", "database/sql"] := by
    decide
  obtain ⟨entries, widened, textX, textY, hunion, hwidened, hX, hXY, hY, hYX⟩ :=
    merge_comm (show (usersBlock users).typeName ≠ (usersBlock memos).typeName by decide) husers
      hlater hmemos hmemos "" (.inr (by decide)) (show "\n" = "" ∨ _ from .inr (by decide))
      (by decide +kernel) hclause hnames "p" "p"
  rw [hpackages] at hunion hwidened
  rw [hwidened] at hXY hYX
  exact ⟨hclause, entries, textX, textY, hunion, hX, hXY, hY, hYX⟩

end RowTypes.SourceFile
