import RowTypes.Proofs.Region.Search
import RowTypes.Proofs.Region.Shape

/-!
What a region is, said of lines and characters alone. The scan counts lines; here the same regions are
described by how their lines are spelled and by which line comes first, with no word of a search.

What is proved:
  1. `isHeader_iff`, `isReserved_iff`, `closes_iff`, `isConstLine_iff`, `isPassed_iff`: how the lines
     that the scan looks for are spelled.
  2. `regionLength?_eq_some_iff`: the lines of a region are a struct of a block and, if one follows it,
     a list of constants.
  3. `findLines_eq_some_iff`, `findLines_eq_none_iff`: the scan finds the first region, and it finds none
     only where there is none.
-/

namespace RowTypes.Region

open Text

/-! ## How lines are spelled -/

/-- Only blanks, or nothing at all. -/
def AllBlank (s : List Char) : Prop :=
  ∀ c ∈ s, isBlank c

/-- The line is `type`, the name, `struct` and a brace, with blanks in between. -/
def OpensStruct (name line : List Char) : Prop :=
  ∃ b gap space rest, Blanks b ∧ Blanks gap ∧ AllBlank space ∧
    line = "type".toList ++ (b ++ (name ++ (gap ++ ("struct".toList ++ (space ++ '\x7b' :: rest)))))

/-- The line begins with `type`, the name and `struct`, and the last of these words ends there. -/
def DeclaresType (name line : List Char) : Prop :=
  ∃ b gap rest, Blanks b ∧ Blanks gap ∧ endsWord rest ∧
    line = "type".toList ++ (b ++ (name ++ (gap ++ ("struct".toList ++ rest))))

/-- The line is the reserved field and a blank, behind blanks. -/
def HoldsReserved (line : List Char) : Prop :=
  ∃ space c rest, AllBlank space ∧ isBlank c ∧
    line = space ++ (Tag.reservedField.toList ++ c :: rest)

/-- The line is `bracket`, with nothing but blanks and carriage returns behind it. -/
def IsClosing (bracket : Char) (line : List Char) : Prop :=
  ∃ trail, (∀ c ∈ trail, c = ' ' ∨ c = '\t' ∨ c = '\r') ∧ line = bracket :: trail

/-- The line is `const` and a parenthesis, with blanks before each of them. -/
def OpensConstants (line : List Char) : Prop :=
  ∃ space gap rest, AllBlank space ∧ AllBlank gap ∧
    line = space ++ ("const".toList ++ (gap ++ '(' :: rest))

/-- The line is blank, whether it ends with a carriage return or not, or a line comment. -/
def IsGap (line : List Char) : Prop :=
  ∃ space, AllBlank space ∧
    (line = space ∨ line = space ++ ['\r'] ∨ ∃ rest, line = space ++ '/' :: '/' :: rest)

section
variable {name line s rest : List Char} {bracket : Char}

theorem skipBlanks_append_left {space : List Char} (h : AllBlank space) :
    skipBlanks (space ++ s) = skipBlanks s :=
  List.dropWhile_append_of_pos h

theorem skipBlanks_of_head? (h : ¬s.head?.any isBlank) : skipBlanks s = s := by
  cases s with
  | nil => rfl
  | cons c s => exact List.dropWhile_cons_of_neg (by simpa using h)

theorem exists_skipBlanks (s : List Char) : ∃ space, AllBlank space ∧ s = space ++ skipBlanks s :=
  ⟨s.takeWhile isBlank, fun _ hc => List.all_eq_true.mp List.all_takeWhile _ hc,
    List.takeWhile_append_dropWhile.symm⟩

theorem afterWord_skipBlanks {word : List Char} (hword : Unblank word) (hne : word ≠ []) :
    afterWord word (skipBlanks s) = some rest ↔ ∃ space, AllBlank space ∧ s = space ++ (word ++ rest) := by
  rw [afterWord_eq_some]
  constructor
  · intro h
    obtain ⟨space, hspace, hs⟩ := exists_skipBlanks s
    exact ⟨space, hspace, h ▸ hs⟩
  · rintro ⟨space, hspace, rfl⟩
    rw [skipBlanks_append_left hspace]
    exact skipBlanks_of_head? (not_any_isBlank_append hword hne)

theorem isHeader_iff (hname : Unblank name) : isHeader name line ↔ OpensStruct name line := by
  unfold isHeader
  simp only [Option.any_eq_true, Option.isSome_iff_exists, afterHeaderWords_eq_some hname,
    afterWord_skipBlanks (show Unblank ['\x7b'] by decide) (List.cons_ne_nil _ _)]
  constructor
  · rintro ⟨_, ⟨b, gap, hb, hgap, rfl⟩, rest, space, hspace, rfl⟩
    exact ⟨b, gap, space, rest, hb, hgap, hspace, rfl⟩
  · rintro ⟨b, gap, space, rest, hb, hgap, hspace, rfl⟩
    exact ⟨_, ⟨b, gap, hb, hgap, rfl⟩, rest, space, hspace, rfl⟩

theorem isDeclaration_iff (hname : Unblank name) :
    isDeclaration name line ↔ DeclaresType name line := by
  unfold isDeclaration
  simp only [Option.any_eq_true, afterHeaderWords_eq_some hname]
  constructor
  · rintro ⟨rest, ⟨b, gap, hb, hgap, rfl⟩, hends⟩
    exact ⟨b, gap, rest, hb, hgap, hends, rfl⟩
  · rintro ⟨b, gap, rest, hb, hgap, hends, rfl⟩
    exact ⟨rest, ⟨b, gap, hb, hgap, rfl⟩, hends⟩

theorem isReserved_iff : isReserved line ↔ HoldsReserved line := by
  unfold isReserved
  simp only [Option.any_eq_true, afterWord_skipBlanks (show Unblank Tag.reservedField.toList by decide)
    (show Tag.reservedField.toList ≠ [] by decide)]
  constructor
  · rintro ⟨_, ⟨space, hspace, rfl⟩, c, hc, hblank⟩
    obtain ⟨rest, rfl⟩ := List.head?_eq_some_iff.mp hc
    exact ⟨space, c, rest, hspace, hblank, rfl⟩
  · rintro ⟨space, c, rest, hspace, hblank, rfl⟩
    exact ⟨c :: rest, ⟨space, hspace, rfl⟩, c, rfl, hblank⟩

theorem isTrailing_iff {c : Char} : isTrailing c ↔ c = ' ' ∨ c = '\t' ∨ c = '\r' := by
  simp [isTrailing, isBlank, or_assoc]

theorem closes_iff : closes bracket line ↔ IsClosing bracket line := by
  unfold closes begins IsClosing
  cases line with
  | nil => simp
  | cons c trail =>
    simp only [List.head?_cons, List.tail_cons, Bool.and_eq_true, beq_iff_eq, Option.some.injEq,
      List.all_eq_true, isTrailing_iff, List.cons.injEq]
    constructor
    · rintro ⟨hc, htrail⟩
      exact ⟨trail, htrail, hc, rfl⟩
    · rintro ⟨_, htrail, hc, rfl⟩
      exact ⟨hc, htrail⟩

theorem isConstLine_iff : isConstLine line ↔ OpensConstants line := by
  unfold isConstLine
  simp only [Option.any_eq_true, Option.isSome_iff_exists,
    afterWord_skipBlanks (show Unblank "const".toList by decide) (show "const".toList ≠ [] by decide),
    afterWord_skipBlanks (show Unblank ['('] by decide) (List.cons_ne_nil _ _)]
  constructor
  · rintro ⟨_, ⟨space, hspace, rfl⟩, rest, gap, hgap, rfl⟩
    exact ⟨space, gap, rest, hspace, hgap, rfl⟩
  · rintro ⟨space, gap, rest, hspace, hgap, rfl⟩
    exact ⟨_, ⟨space, hspace, rfl⟩, rest, gap, hgap, rfl⟩

theorem isPassed_iff : isPassed line ↔ IsGap line := by
  constructor
  · intro h
    obtain ⟨space, hspace, hline⟩ := exists_skipBlanks line
    refine ⟨space, hspace, ?_⟩
    unfold isPassed at h
    split at h
    · next hskip => exact .inl (by simpa [hskip] using hline)
    · next hskip => exact .inr (.inl (by rw [hline, hskip]))
    · next rest hskip => exact .inr (.inr ⟨rest, by rw [hline, hskip]⟩)
    · simp at h
  · rintro ⟨space, hspace, hline⟩
    unfold isPassed
    have hskip (s : List Char) : skipBlanks (space ++ s) = skipBlanks s :=
      skipBlanks_append_left hspace
    rcases hline with rfl | rfl | ⟨rest, rfl⟩
    · rw [← List.append_nil line, hskip]
      rfl
    · rw [hskip]
      rfl
    · rw [hskip, skipBlanks_of_head? (show ¬('/' :: '/' :: rest).head?.any isBlank by simp [isBlank])]
      rfl

end

/-! ## What the lines of a region are -/

/-- The struct of a block: its header, lines of which none begins with a brace and the last holds the
reserved field, and the line of its brace. -/
inductive BlockStruct (name : List Char) : List (List Char) → Prop where
  | intro {header reserved brace : List Char} {inside : List (List Char)}
      (opens : OpensStruct name header) (unclosed : ∀ line ∈ inside, ¬begins '\x7d' line)
      (holds : HoldsReserved reserved) (closes : IsClosing '\x7d' brace) :
      BlockStruct name (header :: (inside ++ [reserved, brace]))

/-- A list of constants that only blank lines and line comments precede. -/
inductive ConstantList : List (List Char) → Prop where
  | intro {const paren : List Char} {gaps inside : List (List Char)}
      (gap : ∀ line ∈ gaps, IsGap line) (opens : OpensConstants const)
      (unclosed : ∀ line ∈ inside, ¬begins ')' line) (closes : IsClosing ')' paren) :
      ConstantList (gaps ++ const :: (inside ++ [paren]))

/-- A region and the lines behind it: the struct of a block, with the list of constants that follows it
if one does. -/
inductive IsRegion (name : List Char) : List (List Char) → List (List Char) → Prop where
  | struct {struct after : List (List Char)} (block : BlockStruct name struct)
      (alone : ∀ list, ConstantList list → ¬list <+: after) : IsRegion name struct after
  | constants {struct list after : List (List Char)} (block : BlockStruct name struct)
      (follows : ConstantList list) : IsRegion name (struct ++ list) after

/-- Lines parted at the region of their first struct of a block. -/
structure FirstRegion (name : List Char) (ls : List (List Char)) (parts : LineParts) : Prop where
  lines : parts.before ++ (parts.region ++ parts.after) = ls
  region : IsRegion name parts.region parts.after
  first : ∀ before struct after, before ++ (struct ++ after) = ls → BlockStruct name struct →
    parts.before.length ≤ before.length

section
variable {name : List Char} {ls struct list after : List (List Char)}

theorem IsRegion.exists_struct {region : List (List Char)} (h : IsRegion name region after) :
    ∃ struct rest, BlockStruct name struct ∧ region = struct ++ rest := by
  cases h with
  | struct block => exact ⟨_, [], block, by simp⟩
  | constants block => exact ⟨_, _, block, rfl⟩

/-! ## Regions by their length -/

theorem BlockStruct.exists_cons (hname : Unblank name) (h : BlockStruct name struct) :
    ∃ header rest, struct = header :: rest ∧ isHeader name header ∧
      ∀ more, structLength? (rest ++ more) = some rest.length := by
  obtain @⟨header, reserved, brace, inside, hopens, hunclosed, hholds, hcloses⟩ := h
  refine ⟨header, _, rfl, (isHeader_iff hname).mpr hopens, fun more => ?_⟩
  have hreserved : isReserved reserved := isReserved_iff.mpr hholds
  have hbrace : Region.closes '\x7d' brace := closes_iff.mpr hcloses
  have hopen : ∀ line ∈ inside ++ [reserved], ¬begins '\x7d' line := by
    intro line hline
    rcases List.mem_append.mp hline with hinside | hlast
    · exact hunclosed line hinside
    · rw [List.mem_singleton.mp hlast, begins_of_isReserved hreserved]
      decide
  have hbody : body '\x7d' (inside ++ [reserved, brace] ++ more) = inside ++ [reserved] := by
    have hbody := body_append_cons hopen (begins_of_closes hbrace) more
    simpa using hbody
  unfold structLength?
  rw [hbody]
  simp [hreserved, hbrace]

theorem exists_blockStruct (hname : Unblank name) {header : List Char} {rest : List (List Char)} {n : Nat}
    (hheader : isHeader name header) (h : structLength? rest = some n) :
    BlockStruct name (header :: rest.take n) := by
  obtain ⟨brace, hbrace, hrest, hn⟩ := exists_of_structLength? h
  obtain ⟨reserved, hlast, hreserved⟩ : ∃ reserved,
      (body '\x7d' rest).getLast? = some reserved ∧ isReserved reserved := by
    unfold structLength? at h
    split at h
    · next hends =>
      rw [Bool.and_eq_true] at hends
      exact (Option.any_eq_true _ _).mp hends.1
    · simp at h
  obtain ⟨inside, hbody⟩ := List.getLast?_eq_some_iff.mp hlast
  have htake : rest.take n = inside ++ [reserved, brace] := by
    have hlines : rest = inside ++ [reserved, brace] ++ afterBrace rest := by
      rw [hbody] at hrest
      simpa using hrest
    have hlength : (inside ++ [reserved, brace]).length = n := by
      rw [hn, hbody]
      simp
    rw [hlines]
    exact List.take_left' hlength
  rw [htake]
  refine .intro ((isHeader_iff hname).mp hheader) ?_ (isReserved_iff.mp hreserved)
    (closes_iff.mp hbrace)
  intro line hline
  have hmem : line ∈ body '\x7d' rest := by
    rw [hbody]
    exact List.mem_append_left _ hline
  exact not_begins_of_mem_body hmem

theorem ConstantList.constantsLength? (h : ConstantList list) (more : List (List Char)) :
    constantsLength? (list ++ more) = some list.length := by
  obtain ⟨hgap, hopens, hunclosed, hcloses⟩ := h
  have hlength := (constantsLength?_append (fun line hline => isPassed_iff.mpr (hgap line hline))
    (isConstLine_iff.mpr hopens) hunclosed (closes_iff.mpr hcloses) more).1
  rw [List.append_assoc, List.cons_append, List.append_assoc, List.singleton_append, hlength]
  simp only [List.length_append, List.length_cons, List.length_nil]
  congr 1
  omega

theorem exists_constantList {n : Nat} (h : constantsLength? ls = some n) :
    ConstantList (ls.take n) := by
  obtain ⟨passed, const, paren, hpassed, hconst, hinside, hparen, htake⟩ :=
    exists_of_constantsLength? h
  rw [htake]
  exact .intro (fun line hline => isPassed_iff.mp (hpassed line hline)) (isConstLine_iff.mp hconst)
    hinside (closes_iff.mp hparen)

theorem constantsLength?_eq_none_iff :
    constantsLength? ls = none ↔ ∀ list, ConstantList list → ¬list <+: ls := by
  constructor
  · rintro hnone list hlist ⟨more, rfl⟩
    rw [hlist.constantsLength?] at hnone
    simp at hnone
  · intro h
    cases hlength : constantsLength? ls with
    | none => rfl
    | some n => exact absurd (List.take_prefix n ls) (h _ (exists_constantList hlength))

theorem IsRegion.regionLength? (hname : Unblank name) {region : List (List Char)}
    (h : IsRegion name region after) : regionLength? name (region ++ after) = some region.length := by
  cases h with
  | struct block alone =>
    obtain ⟨header, rest, rfl, hheader, hstruct⟩ := block.exists_cons hname
    have hnone := constantsLength?_eq_none_iff.mpr alone
    rw [List.cons_append, Region.regionLength?, if_pos hheader, hstruct, Option.map_some,
      List.drop_left, hnone]
    simp
  | @constants struct list _ block follows =>
    obtain ⟨header, rest, rfl, hheader, hstruct⟩ := block.exists_cons hname
    rw [List.append_assoc, List.cons_append, Region.regionLength?, if_pos hheader, hstruct,
      Option.map_some, List.drop_left, follows.constantsLength?]
    simp

/-- The first lines are a region iff the scan says so. -/
theorem regionLength?_eq_some_iff (hname : Unblank name) {region : List (List Char)} :
    regionLength? name (region ++ after) = some region.length ↔ IsRegion name region after := by
  refine ⟨fun h => ?_, IsRegion.regionLength? hname⟩
  obtain ⟨header, rest, m, hlines, hheader, hstruct, hlength⟩ := regionLength?_eq_some h
  have hblock := exists_blockStruct hname hheader hstruct
  have hm := structLength?_le hstruct
  have hregion : region = header :: rest.take (m + (constantsLength? (rest.drop m)).getD 0) := calc
    region = (region ++ after).take region.length := List.take_left.symm
    _ = header :: rest.take (m + (constantsLength? (rest.drop m)).getD 0) := by
      rw [hlines, hlength, List.take_succ_cons]
  have hafter : after = (rest.drop m).drop ((constantsLength? (rest.drop m)).getD 0) := calc
    after = (region ++ after).drop region.length := List.drop_left.symm
    _ = (rest.drop m).drop ((constantsLength? (rest.drop m)).getD 0) := by
      rw [hlines, hlength, List.drop_succ_cons, List.drop_drop]
  rw [List.take_add, ← List.cons_append] at hregion
  cases hconstants : constantsLength? (rest.drop m) with
  | none =>
    rw [hconstants] at hregion hafter
    rw [hregion, hafter]
    simp only [Option.getD_none, List.take_zero, List.append_nil, List.drop_zero]
    exact .struct hblock (constantsLength?_eq_none_iff.mp hconstants)
  | some n =>
    rw [hconstants] at hregion hafter
    rw [hregion]
    exact .constants hblock (exists_constantList hconstants)

theorem BlockStruct.exists_regionLength? (hname : Unblank name) (h : BlockStruct name struct)
    (after : List (List Char)) : ∃ n, regionLength? name (struct ++ after) = some n := by
  obtain ⟨header, rest, rfl, hheader, hstruct⟩ := h.exists_cons hname
  rw [List.cons_append, Region.regionLength?, if_pos hheader, hstruct]
  exact ⟨_, rfl⟩

/-! ## The first region -/

theorem firstRegion_of_findLines (hname : Unblank name) {parts : LineParts}
    (h : findLines name ls = some parts) : FirstRegion name ls parts := by
  obtain ⟨hlines, hlength⟩ := findLines_eq_some h
  rw [List.append_assoc] at hlines
  refine ⟨hlines, (regionLength?_eq_some_iff hname).mp hlength, ?_⟩
  rintro before struct after rfl hstruct
  obtain ⟨n, hn⟩ := hstruct.exists_regionLength? hname after
  obtain ⟨found, hfound, hle⟩ := exists_findLines_of_region hn before
  rw [h] at hfound
  cases hfound
  exact hle

/-- The scan finds the first region. -/
theorem findLines_eq_some_iff (hname : Unblank name) {parts : LineParts} :
    findLines name ls = some parts ↔ FirstRegion name ls parts := by
  refine ⟨firstRegion_of_findLines hname, fun h => ?_⟩
  have hlength := h.region.regionLength? hname
  obtain ⟨found, hfound, hle⟩ := exists_findLines_of_region hlength parts.before
  rw [h.lines] at hfound
  have hfirst := firstRegion_of_findLines hname hfound
  obtain ⟨struct, rest, hstruct, hregion⟩ := hfirst.region.exists_struct
  have hge : parts.before.length ≤ found.before.length := by
    apply h.first found.before struct (rest ++ found.after) _ hstruct
    rw [← List.append_assoc struct, ← hregion, hfirst.lines]
  -- The two regions begin on one line, and where one begins settles where it ends.
  obtain ⟨hbefore, hrest⟩ := List.append_inj (hfirst.lines.trans h.lines.symm)
    (Nat.le_antisymm hle hge)
  have hsame := hfirst.region.regionLength? hname
  rw [hrest, hlength] at hsame
  obtain ⟨hregion, hafter⟩ := List.append_inj hrest (Option.some.inj hsame).symm
  have hparts : found = parts := by
    cases found
    cases parts
    cases hbefore
    cases hregion
    cases hafter
    rfl
  rw [hfound, hparts]

/-- The scan finds nothing iff no lines are the struct of a block. -/
theorem findLines_eq_none_iff (hname : Unblank name) :
    findLines name ls = none ↔ ∀ struct, BlockStruct name struct → ¬struct <:+: ls := by
  constructor
  · rintro hnone struct hstruct ⟨before, after, rfl⟩
    obtain ⟨n, hn⟩ := hstruct.exists_regionLength? hname after
    obtain ⟨found, hfound, -⟩ := exists_findLines_of_region hn before
    rw [List.append_assoc, hfound] at hnone
    simp at hnone
  · intro h
    cases hfound : findLines name ls with
    | none => rfl
    | some found =>
      have hfirst := firstRegion_of_findLines hname hfound
      obtain ⟨struct, rest, hstruct, hregion⟩ := hfirst.region.exists_struct
      refine absurd ?_ (h struct hstruct)
      refine ⟨found.before, rest ++ found.after, ?_⟩
      rw [List.append_assoc, ← List.append_assoc struct, ← hregion, hfirst.lines]

end

end RowTypes.Region
