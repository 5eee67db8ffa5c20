import RowTypes.Proofs.SourceFile.Splicing
import RowTypes.Proofs.Region.Shape

/-!
What a replacement removes. The region of a type goes from its header to the first line that begins
with a brace and takes in a list of constants behind it. Nothing in between is looked at, so what
stands there is removed with it.

What is proved:
  1. `exists_of_findLines`: the lines of a region, part by part.
  2. `splice_removes_own_iff`: a replacement removes no other struct and no other constant iff none
     stands before the brace or in the list of constants.
  3. `splice_removes_other_struct`: after a struct on one line, another struct is removed.
-/

namespace RowTypes.SourceFile

open Text Region

/-- The line begins with a declaration of some struct. -/
def DeclaresStruct (line : List Char) : Prop :=
  ∃ name, name ≠ [] ∧ Unblank name ∧ isDeclaration name line

/-- Among the lines of a region, only the first declares a struct, and all constants are named after
the type. `declared` is any way to read the constants off a line. -/
structure OnlyOwn (declared : List Char → List (List Char)) (name : List Char)
    (region : List (List Char)) : Prop where
  structs : ∀ line ∈ region.tail, ¬DeclaresStruct line
  constants : ∀ line ∈ constantLines (afterBrace region.tail), ∀ constant ∈ declared line,
    name ++ ['_'] <+: constant

/-- After a header, no struct is declared before the first line that begins with a brace, and none in
the list of constants behind that, whose constants are all named after the type. -/
structure NoneInside (declared : List Char → List (List Char)) (name : List Char)
    (rest : List (List Char)) : Prop where
  structs : ∀ line ∈ body '\x7d' rest, ¬DeclaresStruct line
  structs_constants : ∀ line ∈ constantLines (afterBrace rest), ¬DeclaresStruct line
  constants : ∀ line ∈ constantLines (afterBrace rest), ∀ constant ∈ declared line,
    name ++ ['_'] <+: constant

section
variable {name line : List Char} {ls more : List (List Char)}

/-! ## Lines that declare nothing -/

theorem begins_of_declaresStruct (h : DeclaresStruct line) : begins 't' line := by
  obtain ⟨name, -, -, hdeclaration⟩ := h
  exact begins_of_isDeclaration hdeclaration

theorem not_declaresStruct_of_begins {bracket : Char} (h : begins bracket line)
    (hbracket : bracket ≠ 't') : ¬DeclaresStruct line :=
  fun hdeclares => not_begins_of_begins h hbracket (begins_of_declaresStruct hdeclares)

theorem skipBlanks_of_begins (h : begins 't' line) : skipBlanks line = line := by
  cases line with
  | nil => rfl
  | cons c line =>
    have hc : c = 't' := by simpa [begins] using h
    subst hc
    rfl

theorem not_declaresStruct_of_isPassed (h : isPassed line) : ¬DeclaresStruct line := by
  intro hdeclares
  have hbegins := begins_of_declaresStruct hdeclares
  rw [isPassed, skipBlanks_of_begins hbegins] at h
  cases line with
  | nil => simp [begins] at hbegins
  | cons c line =>
    have hc : c = 't' := by simpa [begins] using hbegins
    subst hc
    simp at h

theorem not_declaresStruct_of_isConstLine (h : isConstLine line) : ¬DeclaresStruct line := by
  intro hdeclares
  have hbegins := begins_of_declaresStruct hdeclares
  unfold isConstLine at h
  rw [skipBlanks_of_begins hbegins] at h
  obtain ⟨rest, hrest, -⟩ := (Option.any_eq_true _ _).mp h
  rw [afterWord_eq_some.mp hrest] at hbegins
  simp [begins] at hbegins

theorem not_declaresStruct_of_mem_pad {pad : List (List Char)} (hpad : pad = [] ∨ pad = [[]]) :
    ∀ line ∈ pad, ¬DeclaresStruct line := by
  intro line hline hdeclares
  have hbegins := begins_of_declaresStruct hdeclares
  rcases hpad with rfl | rfl
  · simp at hline
  · simp [List.mem_singleton.mp hline, begins] at hbegins

/-! ## The parts of a region -/

/-- The lines of a region after its header: those before the brace, the brace, and those that the
list of constants takes. -/
theorem exists_of_findLines {parts : LineParts} (h : findLines name ls = some parts) :
    ∃ header rest brace, parts.region ++ parts.after = header :: rest ∧ closes '\x7d' brace ∧
      parts.region = header :: (body '\x7d' rest ++ brace ::
        (afterBrace rest).take ((constantsLength? (afterBrace rest)).getD 0)) := by
  obtain ⟨-, hlength⟩ := findLines_eq_some h
  obtain ⟨header, rest, m, hlines, -, hstruct, hn⟩ := regionLength?_eq_some hlength
  obtain ⟨brace, hbrace, hrest, hm⟩ := exists_of_structLength? hstruct
  refine ⟨header, rest, brace, hlines, hbrace, ?_⟩
  have htake : parts.region = (header :: rest).take parts.region.length := by
    rw [← hlines, List.take_left]
  have hdrop : rest.drop m = afterBrace rest := by rw [hm]; rfl
  have hcount : m + (constantsLength? (afterBrace rest)).getD 0 =
      (body '\x7d' rest).length + (1 + (constantsLength? (afterBrace rest)).getD 0) := by omega
  rw [htake, hn, hdrop, List.take_succ_cons, hcount]
  refine congrArg (header :: ·) ((congrArg (List.take _) hrest).trans ?_)
  rw [List.take_length_add_append, Nat.add_comm 1, List.take_succ_cons]

theorem mem_take_and_declaresStruct_iff (hdeclares : DeclaresStruct line) :
    line ∈ ls.take ((constantsLength? ls).getD 0) ↔ line ∈ constantLines ls := by
  cases hlength : constantsLength? ls with
  | none => simp [constantLines, hlength]
  | some n =>
    obtain ⟨passed, const, paren, hpassed, hconst, -, hparen, htake⟩ :=
      exists_of_constantsLength? hlength
    rw [Option.getD_some, htake]
    simp only [List.mem_append, List.mem_cons, List.not_mem_nil, or_false]
    constructor
    · rintro (hmem | rfl | hmem | rfl)
      · exact absurd hdeclares (not_declaresStruct_of_isPassed (hpassed line hmem))
      · exact absurd hdeclares (not_declaresStruct_of_isConstLine hconst)
      · exact hmem
      · exact absurd hdeclares (not_declaresStruct_of_begins (begins_of_closes hparen) (by decide))
    · exact fun hmem => .inr (.inr (.inl hmem))

theorem constantLines_take_append {pad : List (List Char)} (hpad : pad = [] ∨ pad = [[]]) :
    constantLines (ls.take ((constantsLength? ls).getD 0) ++ pad) = constantLines ls := by
  cases hlength : constantsLength? ls with
  | none =>
    simp only [Option.getD_none, List.take_zero, List.nil_append, constantLines, hlength]
    rcases hpad with rfl | rfl <;> rfl
  | some n =>
    obtain ⟨passed, const, paren, hpassed, hconst, hinside, hparen, htake⟩ :=
      exists_of_constantsLength? hlength
    have hsame := (constantsLength?_append hpassed hconst hinside hparen pad).2
    rw [Option.getD_some, htake]
    simpa using hsame

/-! ## What a region holds -/

/-- No struct is declared behind a header iff none is declared before the brace and none among the
constants. -/
theorem structs_region_iff {rest pad : List (List Char)} {brace : List Char}
    (hbrace : closes '\x7d' brace) (hpad : pad = [] ∨ pad = [[]]) :
    (∀ line ∈ body '\x7d' rest ++ brace ::
        ((afterBrace rest).take ((constantsLength? (afterBrace rest)).getD 0) ++ pad),
      ¬DeclaresStruct line) ↔
      (∀ line ∈ body '\x7d' rest, ¬DeclaresStruct line) ∧
        ∀ line ∈ constantLines (afterBrace rest), ¬DeclaresStruct line := by
  constructor
  · intro hall
    refine ⟨fun line hline => hall line (by simp [hline]), fun line hline hdeclares => ?_⟩
    have hmem := (mem_take_and_declaresStruct_iff hdeclares).mpr hline
    exact hall line (by simp [hmem]) hdeclares
  · rintro ⟨hbodies, hconstants⟩ line hline hdeclares
    simp only [List.mem_append, List.mem_cons] at hline
    rcases hline with hmem | rfl | hmem | hmem
    · exact hbodies line hmem hdeclares
    · exact not_declaresStruct_of_begins (begins_of_closes hbrace) (by decide) hdeclares
    · exact hconstants line ((mem_take_and_declaresStruct_iff hdeclares).mp hmem) hdeclares
    · exact not_declaresStruct_of_mem_pad hpad line hmem hdeclares

theorem onlyOwn_iff {parts : LineParts} {pad : List (List Char)}
    (declared : List Char → List (List Char)) (h : findLines name ls = some parts)
    (hpad : pad = [] ∨ pad = [[]]) : OnlyOwn declared name (parts.region ++ pad) ↔
      NoneInside declared name (parts.region ++ parts.after).tail := by
  obtain ⟨header, rest, brace, hlines, hbrace, hregion⟩ := exists_of_findLines h
  have hbody : ∀ line ∈ body '\x7d' rest, ¬begins '\x7d' line :=
    fun _ hline => not_begins_of_mem_body hline
  have htail : (parts.region ++ pad).tail = body '\x7d' rest ++ brace ::
      ((afterBrace rest).take ((constantsLength? (afterBrace rest)).getD 0) ++ pad) := by
    simp [hregion]
  have hafter : afterBrace (parts.region ++ pad).tail =
      (afterBrace rest).take ((constantsLength? (afterBrace rest)).getD 0) ++ pad := by
    rw [htail, afterBrace, body_append_cons hbody (begins_of_closes hbrace)]
    simp
  have hstructs : (∀ line ∈ (parts.region ++ pad).tail, ¬DeclaresStruct line) ↔
      (∀ line ∈ body '\x7d' rest, ¬DeclaresStruct line) ∧
        ∀ line ∈ constantLines (afterBrace rest), ¬DeclaresStruct line := by
    rw [htail]
    exact structs_region_iff hbrace hpad
  have hconstants : constantLines (afterBrace (parts.region ++ pad).tail) =
      constantLines (afterBrace rest) := by
    rw [hafter]
    exact constantLines_take_append hpad
  rw [hlines, List.tail_cons]
  constructor
  · rintro ⟨hown, hnamed⟩
    obtain ⟨hbodies, hinside⟩ := hstructs.mp hown
    exact ⟨hbodies, hinside, hconstants ▸ hnamed⟩
  · rintro ⟨hbodies, hinside, hnamed⟩
    exact ⟨hstructs.mpr ⟨hbodies, hinside⟩, hconstants.symm ▸ hnamed⟩

/-! ## The text of a region -/

theorem toParts_region_append (parts : LineParts) :
    parts.toParts.region ++ parts.toParts.after = joined (parts.region ++ parts.after) := by
  unfold LineParts.toParts
  by_cases hafter : parts.after = []
  · simp [hafter]
  · simp [hafter, joined_append hafter]

theorem splitOn_region {parts : LineParts} (hclean : Clean parts.region) (hne : parts.region ≠ []) :
    ∃ pad, (pad = [] ∨ pad = [[]]) ∧ parts.toParts.region.splitOn '\n' = parts.region ++ pad := by
  unfold LineParts.toParts
  by_cases hafter : parts.after = []
  · exact ⟨[], .inl rfl, by simp [hafter, splitOn_joined hclean hne]⟩
  · refine ⟨[[]], .inr rfl, ?_⟩
    simp only [if_neg hafter]
    rw [terminated_eq_joined, splitOn_joined (hclean.append (by simp [Clean])) (by simp)]

end

/-- A replacement removes one region of the text and keeps what is before it and after it. The region
holds the struct of the type and nothing foreign iff, behind its header, no other struct is declared
before the first line that begins with a brace, and a list of constants that follows this line
declares no struct and only constants that are named after the type. -/
theorem splice_removes_own_iff (declared : List Char → List (List Char))
    {text typeName block result : String} (hname : '\n' ∉ typeName.toList)
    (h : splice text typeName block = .ok (result, .replaced)) :
    ∃ parts, Region.find? typeName.toList text.toList = some parts ∧
      text.toList = parts.before ++ parts.region ++ parts.after ∧
      result.toList = parts.before ++ block.toList ++ parts.after ∧
      (OnlyOwn declared typeName.toList (parts.region.splitOn '\n') ↔
        NoneInside declared typeName.toList ((parts.region ++ parts.after).splitOn '\n').tail) := by
  obtain ⟨ls, hls, hne, htext⟩ := exists_lines text.toList
  cases hfind : findLines typeName.toList ls with
  | none =>
    have hnone : Region.find? typeName.toList text.toList = none := by
      rw [← htext, find?_joined hname hls, hfind]
      rfl
    unfold splice at h
    rw [hnone] at h
    dsimp only at h
    split at h <;> simp at h
  | some found =>
    have hparts : Region.find? typeName.toList text.toList = some found.toParts := by
      rw [← htext, find?_joined hname hls, hfind]
      rfl
    unfold splice at h
    rw [hparts] at h
    cases h
    obtain ⟨hlines, -⟩ := findLines_eq_some hfind
    obtain ⟨header, rest, m, hregion, -⟩ := exists_header hfind
    have hregionNe : found.region ≠ [] := by simp [hregion]
    have hclean : Clean (found.region ++ found.after) := by
      rw [← hlines, List.append_assoc] at hls
      exact hls.of_append_right
    refine ⟨found.toParts, hparts, ?_, by simp, ?_⟩
    · rw [List.append_assoc, toParts_region_append, ← htext, ← hlines, List.append_assoc,
        joined_append (by simp [hregionNe])]
      rfl
    · obtain ⟨pad, hpad, hsplit⟩ := splitOn_region hclean.of_append_left hregionNe
      rw [hsplit, toParts_region_append, splitOn_joined hclean (by simp [hregionNe])]
      exact onlyOwn_iff declared hfind hpad

/-- The struct of a table without columns, behind which a list of constants stands. -/
def bareStruct : String :=
  "package p\n\ntype B struct \x7b\n\tDbMetadata_ any\n\x7d\n\nconst (\n\tB_X = 1\n)\n"

/-- The first word of a line. -/
def firstWord (line : List Char) : List (List Char) :=
  [(line.dropWhile isBlank).takeWhile fun c => !isBlank c]

theorem splice_removes_own_bareStruct : ∃ parts,
    Region.find? "B".toList bareStruct.toList = some parts ∧
      OnlyOwn firstWord "B".toList (parts.region.splitOn '\n') := by
  have hsplice : splice bareStruct "B" "new\n" = .ok ("package p\n\nnew\n", .replaced) := rfl
  obtain ⟨parts, hfind, -, -, hiff⟩ :=
    splice_removes_own_iff firstWord (show '\n' ∉ "B".toList by decide) hsplice
  refine ⟨parts, hfind, hiff.mpr ?_⟩
  have hrest : ((parts.region ++ parts.after).splitOn '\n').tail =
      ["\tDbMetadata_ any", "\x7d", "", "const (", "\tB_X = 1", ")", ""].map String.toList := by
    cases hfind
    rfl
  rw [hrest]
  have hinside : constantLines (afterBrace (["\tDbMetadata_ any", "\x7d", "", "const (", "\tB_X = 1",
      ")", ""].map String.toList)) = ["\tB_X = 1".toList] := by decide
  refine ⟨?_, ?_, ?_⟩
  · have hbody : body '\x7d' (["\tDbMetadata_ any", "\x7d", "", "const (", "\tB_X = 1", ")", ""].map
        String.toList) = ["\tDbMetadata_ any".toList] := by decide
    rw [hbody]
    intro line hline
    rw [List.mem_singleton.mp hline]
    exact not_declaresStruct_of_begins (show begins '\t' _ by decide) (by decide)
  · rw [hinside]
    intro line hline
    rw [List.mem_singleton.mp hline]
    exact not_declaresStruct_of_begins (show begins '\t' _ by decide) (by decide)
  · rw [hinside]
    decide

/-- A struct that is closed on its own line, and behind it the block of another type. -/
def oneLineStruct : String :=
  "package p\n\ntype B struct \x7b X int \x7d\n\ntype A struct \x7b\n\tDbMetadata_ any\n\x7d\n"

/-- Behind a struct that is closed on its own line the region goes on to the next reserved field. -/
theorem splice_removes_other_struct : ∃ parts,
    Region.find? "B".toList oneLineStruct.toList = some parts ∧
      splice oneLineStruct "B" "new\n" = .ok ("package p\n\nnew\n", .replaced) ∧
      ¬OnlyOwn firstWord "B".toList (parts.region.splitOn '\n') := by
  refine ⟨_, rfl, rfl, fun hown => ?_⟩
  exact hown.structs "type A struct \x7b".toList (by decide) ⟨['A'], by decide, by decide, by decide⟩

end RowTypes.SourceFile
