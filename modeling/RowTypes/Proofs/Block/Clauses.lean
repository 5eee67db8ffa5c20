import RowTypes.Proofs.Block.Layout
import RowTypes.Proofs.Imports.Widening

/-!
Blocks and import clauses. A clause is looked for in the first lines of a text, where a block may
stand, and a bracketed clause may be long. No clause begins in a block and none reaches into one.

What is proved:
  1. `Layout.not_isImportLine_of_lt`: no clause begins on the first lines of a block.
  2. `Layout.not_isListed_reserved`: the line of the reserved field is no line of a clause.
  3. `Layout.placed_within`: what a widening replaces ends before a block that does not come first.
-/

namespace RowTypes

open Text Region Imports

namespace Layout

variable {name line : List Char} (layout : Layout name)

/-! ## Lines of a block that are no lines of a clause -/

theorem trimStart_reserved : trimStart layout.reserved =
    Tag.reservedField.toList ++ (" any".toList ++ layout.metadata) := by
  simp [reserved, trimStart, Tag.reservedField, show isWhite '\t' by decide,
    show ¬isWhite 'D' by decide]

theorem not_isImportLine_of_mem
    (h : line ∈ header name :: (layout.struct ++ ["// ".toList ++ name, "const (".toList])) :
    ¬isImportLine (String.ofList line) := by
  simp only [struct, List.mem_cons, List.mem_append, List.not_mem_nil, or_false] at h
  rcases h with rfl | (hfield | rfl | rfl) | rfl | rfl
  · have htrim : trimStart (String.ofList (header name)).toList = 't' :: (header name).tail := by
      simp [header_eq, trimStart, isWhite]
    exact not_isImportLine htrim (by decide)
  · exact layout.not_import line hfield
  · have htrim : trimStart (String.ofList layout.reserved).toList =
        'D' :: (Tag.reservedField.toList.tail ++ (" any".toList ++ layout.metadata)) := by
      rw [String.toList_ofList, trimStart_reserved]
      rfl
    exact not_isImportLine htrim (by decide)
  · decide
  · have htrim : trimStart (String.ofList ("// ".toList ++ name)).toList =
        '/' :: ("/ ".toList ++ name) := by
      simp [trimStart, isWhite]
    exact not_isImportLine htrim (by decide)
  · decide

/-- No clause begins on the first lines of a block. -/
theorem not_isImportLine_of_lt {i : Nat} (hi : i < lookahead) (h : layout.lines[i]? = some line) :
    ¬isImportLine (String.ofList line) := by
  have hlines : layout.lines =
      (header name :: (layout.struct ++ ["// ".toList ++ name, "const (".toList])) ++
        (layout.constants ++ [[')']]) := by
    simp [lines, tail]
  have hlookahead : lookahead = 6 := rfl
  have hlength : (header name :: (layout.struct ++ ["// ".toList ++ name, "const (".toList])).length =
      layout.fields.length + 5 := by
    simp [struct]
  rw [hlines] at h
  by_cases hlt : i < layout.fields.length + 5
  · rw [List.getElem?_append_left (by omega)] at h
    exact layout.not_isImportLine_of_mem (List.mem_of_getElem? h)
  · have hconstants := layout.length_constants
    have hnil : layout.constants = [] := List.length_eq_zero_iff.mp (by omega)
    have hlast : i - (layout.fields.length + 5) = 0 := by omega
    rw [List.getElem?_append_right (by omega), hlength, hlast, hnil] at h
    cases h
    decide

theorem trim_ne_paren {c : Char} (hc : c ∈ line) (hink : ¬isWhite c) (hne : c ≠ ')') :
    trim line ≠ [')'] := by
  intro htrim
  have hmem := mem_trim_of_not_isWhite hc hink
  rw [htrim, List.mem_singleton] at hmem
  exact hne hmem

theorem trim_ne_paren_of_mem (h : line ∈ header name :: (layout.fields ++ [layout.reserved])) :
    trim line ≠ [')'] := by
  simp only [List.mem_cons, List.mem_append, List.not_mem_nil, or_false] at h
  rcases h with rfl | hfield | rfl
  · exact trim_ne_paren (c := 't') (by simp [header_eq]) (by decide) (by decide)
  · obtain ⟨c, hc, hink, hne⟩ := (layout.inner_field line hfield).inked
    exact trim_ne_paren hc hink hne
  · exact trim_ne_paren (c := 'D') (by simp [reserved, Tag.reservedField]) (by decide) (by decide)

/-- The words before the first quote on the line of the reserved field. -/
def reservedWords : List Char :=
  Tag.reservedField.toList ++ " any".toList

theorem reservedWords_prefix_trim {s : List Char} (h : trimStart s = s) (hs : reservedWords <+: s) :
    reservedWords <+: trim s := by
  obtain ⟨rest, rfl⟩ := hs
  rw [trim, h]
  refine prefix_trimEnd_append (fun c hc => ?_) rest
  have hc : 'y' = c := by simpa [reservedWords] using hc
  rw [← hc]
  decide

theorem trimStart_reservedWords (rest : List Char) :
    trimStart (reservedWords ++ rest) = reservedWords ++ rest :=
  trimStart_of_head? fun c hc => by
    have hc : 'D' = c := by simpa [reservedWords, Tag.reservedField] using hc
    rw [← hc]
    decide

/-- The line of the reserved field is no line of a bracketed clause: two words stand before its first
quote. -/
theorem not_isListed_reserved : ¬IsListed (String.ofList layout.reserved) := by
  have hstart : trimStart layout.reserved = reservedWords ++ layout.metadata := by
    rw [trimStart_reserved, reservedWords, List.append_assoc]
  obtain ⟨rest, hrest⟩ : reservedWords <+: trim layout.reserved := by
    have htrim : trim layout.reserved = trim (reservedWords ++ layout.metadata) := by
      rw [trim, hstart, trim, trimStart_reservedWords]
    rw [htrim]
    exact reservedWords_prefix_trim (trimStart_reservedWords _) (List.prefix_append _ _)
  rintro ⟨-, hlisted⟩
  rw [String.toList_ofList, ← hrest] at hlisted
  rcases hlisted with hcomment | hspec
  · simp [isCommentOrBlank, reservedWords, Tag.reservedField] at hcomment
  · obtain ⟨entry, hentry⟩ := Option.isSome_iff_exists.mp hspec
    obtain ⟨before, path, tail, hsplit, -, -, hname, -⟩ := exists_of_parseSpec hentry
    obtain ⟨more, rfl, -⟩ := exists_of_append_eq_cons hsplit (by decide)
    have htrim := reservedWords_prefix_trim (trimStart_reservedWords more) (List.prefix_append _ _)
    exact hname ' ' (htrim.subset (by decide)) (by decide)

/-! ## Stretches before a block -/

section Within
variable {before after : List (List Char)} {start old new rest : List String} {packages : Packages}

theorem not_isAllWhite_of_mem (h : line ∈ layout.lines) : ¬isAllWhite (String.ofList line) := by
  obtain ⟨c, hc, hink⟩ := layout.inked_of_mem h
  intro hwhite
  rw [isAllWhite, String.toList_ofList] at hwhite
  exact hink (List.all_eq_true.mp hwhite c hc)

theorem exists_of_mem_take {text : String} {count : Nat}
    (hcount : count ≤ lookahead) (h : text ∈ ((layout.lines ++ after).map String.ofList).take count) :
    ∃ i line, i < lookahead ∧ layout.lines[i]? = some line ∧ text = String.ofList line := by
  have hlookahead : lookahead = 6 := rfl
  have hlength := layout.length_lines
  obtain ⟨i, hi, rfl⟩ := List.mem_take_iff_getElem.mp h
  have hlt : i < layout.lines.length := by omega
  refine ⟨i, layout.lines[i], by omega, List.getElem?_eq_getElem hlt, ?_⟩
  rw [List.getElem_map, List.getElem_append_left hlt]

theorem exists_of_line {text : String} (hle : before.length ≤ start.length)
    (hlt : start.length < before.length + lookahead)
    (hlines : (before ++ layout.lines ++ after).map String.ofList = start ++ text :: rest) :
    ∃ i line, i < lookahead ∧ layout.lines[i]? = some line ∧ text = String.ofList line := by
  have hlookahead : lookahead = 6 := rfl
  have hlength := layout.length_lines
  have hcut : start ++ text :: rest = before.map String.ofList ++
      (((layout.lines ++ after).map String.ofList).take lookahead ++
        ((layout.lines ++ after).map String.ofList).drop lookahead) := by
    rw [List.take_append_drop, ← hlines, List.append_assoc, List.map_append]
  have hmem := mem_of_append_eq hcut (by simpa using hle) <| by
    simp only [List.length_map, List.length_take, List.length_append]
    omega
  exact layout.exists_of_mem_take (Nat.le_refl _) hmem

theorem clause_within (hbefore : start.length < before.length) (hclause : IsClause old)
    (hlines : (before ++ layout.lines ++ after).map String.ofList = start ++ (old ++ rest)) :
    start.length + old.length ≤ before.length := by
  cases hclause with
  | one opens =>
    simp only [List.length_singleton]
    omega
  | @list line paren inside opens listed closes =>
    by_contra hlong
    simp only [List.length_cons, List.length_append, List.length_nil] at hlong
    by_cases hreserved : before.length + (1 + layout.fields.length) < start.length + 1 + inside.length
    · have hcut : (before ++ header name :: layout.fields).map String.ofList ++
          String.ofList layout.reserved ::
            (['}'] :: (layout.tail ++ after)).map String.ofList =
              (start ++ [line]) ++ (inside ++ paren :: rest) := by
        simpa [lines, struct] using hlines
      have hmem := mem_of_append_eq hcut (by simp; omega) (by simp; omega)
      exact layout.not_isListed_reserved (listed _ hmem)
    · have hcut : (start ++ line :: inside) ++ paren :: rest = before.map String.ofList ++
          ((header name :: (layout.fields ++ [layout.reserved])).map String.ofList ++
            (['}'] :: (layout.tail ++ after)).map String.ofList) := by
        simpa [lines, struct] using hlines.symm
      obtain ⟨found, hfound, rfl⟩ :=
        List.mem_map.mp (mem_of_append_eq hcut (by simp; omega) (by simp; omega))
      rw [String.toList_ofList] at closes
      exact layout.trim_ne_paren_of_mem hfound closes

/-- What a widening replaces ends before a block that does not come first. -/
theorem placed_within (hbefore : before ≠ [])
    (hplaced : Placed ((before ++ layout.lines ++ after).map String.ofList) packages start old new
      rest)
    (hlines : (before ++ layout.lines ++ after).map String.ofList = start ++ (old ++ rest)) :
    start.length + old.length ≤ before.length := by
  have hpos := List.length_pos_iff.mpr hbefore
  cases hplaced with
  | clause found _ stop noneBefore isClause early =>
    refine layout.clause_within ?_ isClause hlines
    by_contra hge
    obtain ⟨opening, others, rfl, hopens⟩ := isClause.exists_cons
    obtain ⟨i, line, hi, hline, rfl⟩ := layout.exists_of_line (by omega) (by omega) hlines
    exact layout.not_isImportLine_of_lt hi hline hopens
  | blank notFound firstBlank white =>
    by_contra hge
    obtain ⟨-, hearly, -⟩ := firstBlank?_eq_some firstBlank
    simp only [List.length_singleton] at hge
    obtain ⟨i, line, -, hline, rfl⟩ := layout.exists_of_line (by omega) (by omega) hlines
    exact layout.not_isAllWhite_of_mem (List.mem_of_getElem? hline) white
  | first => exact hpos
  | short notFound short =>
    have hlength := layout.length_lines
    simp only [List.length_map, List.length_append] at short
    omega

end Within

end Layout

end RowTypes
