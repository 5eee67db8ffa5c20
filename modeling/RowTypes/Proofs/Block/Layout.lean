import RowTypes.Proofs.Block.Unspaced
import RowTypes.Proofs.Region.Header
import RowTypes.Proofs.Region.Search
import RowTypes.Proofs.Region.Shape

/-!
The lines of a block. Whatever the columns are and whatever their comments say, a block is a header,
indented lines, the line of the reserved field, its brace, and a list of constants that a comment
introduces. A `Layout` is such lines with what keeps them together.

What is proved:
  1. `Layout.not_isHeader_of_mem`: only the first line is a header.
  2. `Layout.regionLength?_lines`: a region that begins with these lines ends with them.
-/

namespace RowTypes

open Text Region

theorem not_isImportLine {c : Char} {line : String} {rest : List Char}
    (htrim : trimStart line.toList = c :: rest) (hc : c ≠ 'i') : ¬Imports.isImportLine line := by
  have hi : 'i' ≠ c := Ne.symm hc
  simp [Imports.isImportLine, htrim, Imports.keyword_eq, List.isPrefixOf, hi]

/-- A line inside a struct or a list of constants. -/
structure IsInner (line : List Char) : Prop where
  indented : line.head? = some '\t'
  clean : '\n' ∉ line
  /-- The line is not blank, and not a closing parenthesis either. -/
  inked : ∃ c ∈ line, ¬isWhite c ∧ c ≠ ')'

/-- The lines of a block of the type `name`, by their parts. -/
structure Layout (name : List Char) where
  /-- The lines of the columns and of the relations. -/
  fields : List (List Char)
  /-- What the line of the reserved field says about the table. -/
  metadata : List Char
  constants : List (List Char)
  unspaced_name : Unspaced name
  inner_field : ∀ line ∈ fields, IsInner line
  inner_constant : ∀ line ∈ constants, IsInner line
  clean_metadata : '\n' ∉ metadata
  not_import : ∀ line ∈ fields, ¬Imports.isImportLine (String.ofList line)
  length_constants : constants.length ≤ fields.length

namespace Layout

variable {name : List Char}

/-- The line of the reserved field. -/
def reserved (layout : Layout name) : List Char :=
  '\t' :: (Tag.reservedField.toList ++ (" any".toList ++ layout.metadata))

/-- The struct after its header. -/
def struct (layout : Layout name) : List (List Char) :=
  layout.fields ++ [layout.reserved, ['\x7d']]

/-- The list of constants and the comment before it. -/
def tail (layout : Layout name) : List (List Char) :=
  ["// ".toList ++ name, "const (".toList] ++ layout.constants ++ [[')']]

/-- All lines. -/
def lines (layout : Layout name) : List (List Char) :=
  header name :: (layout.struct ++ layout.tail)

variable (layout : Layout name)

/-! ## What the lines are -/

include layout in
theorem clean_name : '\n' ∉ name :=
  fun h => layout.unspaced_name '\n' h (by decide)

theorem clean_lines : Clean layout.lines := by
  intro line hline
  have hname := layout.clean_name
  have hmetadata := layout.clean_metadata
  simp only [lines, struct, tail, List.mem_cons, List.mem_append, List.not_mem_nil, or_false] at hline
  rcases hline with rfl | (hfield | rfl | rfl) | ((rfl | rfl) | hconstant) | rfl
  · simp [header_eq, hname]
  · exact (layout.inner_field line hfield).clean
  · simp [reserved, Tag.reservedField, hmetadata]
  · decide
  · simp [hname]
  · decide
  · exact (layout.inner_constant line hconstant).clean
  · decide

theorem inked_of_mem {line : List Char} (h : line ∈ layout.lines) : ∃ c ∈ line, ¬isWhite c := by
  simp only [lines, struct, tail, List.mem_cons, List.mem_append, List.not_mem_nil, or_false] at h
  rcases h with rfl | (hfield | rfl | rfl) | ((rfl | rfl) | hconstant) | rfl
  · exact ⟨'t', by simp [header_eq], by decide⟩
  · obtain ⟨c, hc, hwhite, -⟩ := (layout.inner_field line hfield).inked
    exact ⟨c, hc, hwhite⟩
  · exact ⟨'D', by simp [reserved, Tag.reservedField], by decide⟩
  · exact ⟨'\x7d', by simp, by decide⟩
  · exact ⟨'/', by simp, by decide⟩
  · exact ⟨'c', by simp, by decide⟩
  · obtain ⟨c, hc, hwhite, -⟩ := (layout.inner_constant line hconstant).inked
    exact ⟨c, hc, hwhite⟩
  · exact ⟨')', by simp, by decide⟩

theorem length_lines :
    layout.lines.length = layout.fields.length + layout.constants.length + 6 := by
  simp [lines, struct, tail]
  omega

theorem head?_of_mem {line : List Char} (h : line ∈ layout.struct ++ layout.tail) :
    line.head? ∈ [some '\t', some '\x7d', some '/', some 'c', some ')'] := by
  simp only [struct, tail, List.mem_cons, List.mem_append, List.not_mem_nil, or_false] at h
  rcases h with (hfield | rfl | rfl) | ((rfl | rfl) | hconstant) | rfl
  · simp [(layout.inner_field line hfield).indented]
  · simp [reserved]
  · decide
  · simp
  · decide
  · simp [(layout.inner_constant line hconstant).indented]
  · decide

theorem not_begins_of_mem {line : List Char} (h : line ∈ layout.struct ++ layout.tail) :
    ¬begins 't' line := by
  intro hbegins
  have hhead := layout.head?_of_mem h
  have ht : line.head? = some 't' := by simpa [begins] using hbegins
  rw [ht] at hhead
  simp at hhead

/-- Only the first line may be a header. -/
theorem not_isHeader_of_mem {other line : List Char} (h : line ∈ layout.struct ++ layout.tail) :
    ¬isHeader other line :=
  fun hheader => layout.not_begins_of_mem h (begins_of_isHeader hheader)

theorem not_mem_lines {line : List Char} (h : line.head? ∈ [none, some 'i']) :
    line ∉ layout.lines := by
  intro hmem
  rcases List.mem_cons.mp hmem with rfl | hmem
  · simp [header_eq] at h
  · have hhead := layout.head?_of_mem hmem
    simp only [List.mem_cons, List.not_mem_nil, or_false] at h hhead
    rcases h with h | h <;> simp [h] at hhead

/-! ## The region of a block -/

theorem isReserved_reserved : isReserved layout.reserved := by
  have hskip : skipBlanks layout.reserved =
      Tag.reservedField.toList ++ (" any".toList ++ layout.metadata) := by
    simp [reserved, skipBlanks, isBlank, Tag.reservedField]
  rw [isReserved, hskip, afterWord_eq_some.mpr rfl]
  simp [isBlank]

theorem not_begins_of_inner {line : List Char} {bracket : Char} (h : IsInner line)
    (hbracket : bracket ≠ '\t') : ¬begins bracket line := by
  simp [begins, h.indented, Ne.symm hbracket]

theorem structLength?_struct (more : List (List Char)) :
    structLength? (layout.struct ++ more) = some layout.struct.length := by
  have hopen : ∀ line ∈ layout.fields ++ [layout.reserved], ¬begins '\x7d' line := by
    intro line hline
    rcases List.mem_append.mp hline with hfield | hreserved
    · exact not_begins_of_inner (layout.inner_field line hfield) (by decide)
    · rw [List.mem_singleton.mp hreserved]
      simp [begins, reserved]
  have hbody : body '\x7d' (layout.struct ++ more) = layout.fields ++ [layout.reserved] := by
    have hbody := body_append_cons hopen (show begins '\x7d' ['\x7d'] by decide) more
    simpa [struct] using hbody
  unfold structLength?
  rw [hbody]
  simp [layout.isReserved_reserved, struct, closes, begins]

theorem constantsLength?_tail (more : List (List Char)) :
    constantsLength? (layout.tail ++ more) = some layout.tail.length := by
  have hpassed : ∀ line ∈ ["// ".toList ++ name], isPassed line := by
    simp [isPassed, skipBlanks, isBlank]
  have hopen : ∀ line ∈ layout.constants, ¬begins ')' line := fun line hline =>
    not_begins_of_inner (layout.inner_constant line hline) (by decide)
  have hlength := (constantsLength?_append hpassed (show isConstLine "const (".toList by decide) hopen
    (show closes ')' [')'] by decide) more).1
  simp only [tail, List.cons_append, List.nil_append, List.append_assoc] at hlength ⊢
  rw [hlength]
  simp
  omega

/-- A region that begins with the lines of a block ends with them. -/
theorem regionLength?_lines (more : List (List Char)) :
    regionLength? name (layout.lines ++ more) = some layout.lines.length := by
  have hheader := isHeader_header (unblank_of_unspaced layout.unspaced_name)
  have hstruct := layout.structLength?_struct (layout.tail ++ more)
  rw [lines, List.cons_append, List.append_assoc, regionLength?, if_pos hheader, hstruct,
    Option.map_some, List.drop_left, layout.constantsLength?_tail]
  simp

theorem not_shut_of_struct (before more : List (List Char)) :
    ¬Shut name (before ++ (header name :: (layout.struct ++ more))) := by
  intro h
  have hstruct := layout.structLength?_struct more
  have hheader := isHeader_header (unblank_of_unspaced layout.unspaced_name)
  rw [(h.of_append_right.1 hheader).2] at hstruct
  simp at hstruct

end Layout

end RowTypes
