import RowTypes.Proofs.Region.Scan

/-!
The readers of a region on lines. A reader that looks for words stays on its line, and a reader of lines
goes on with the lines that follow.

What is proved:
  1. `lineLocal_afterHeaderWords`: the words of a header are read off one line.
  2. `afterHeader_joined`, `afterConstLine_append`: the lines that open a struct and a list of constants.
  3. `afterBody_joined`: one line of a body closes it, ends the search or is passed.
-/

namespace RowTypes.Region

open Text

/-! ## Readers that stay on their line -/

/-- `read` looks at no more than the first line of a text. -/
structure LineLocal (read : List Char → Option (List Char)) : Prop where
  append : ∀ {line : List Char}, '\n' ∉ line → ∀ rest,
    read (line ++ '\n' :: rest) = (read line).map (· ++ '\n' :: rest)
  stays : ∀ {line : List Char}, '\n' ∉ line → ∀ {rest}, read line = some rest → '\n' ∉ rest

theorem isPrefixOf_append_line {word : List Char} (hword : '\n' ∉ word) (line rest : List Char) :
    word.isPrefixOf (line ++ '\n' :: rest) = word.isPrefixOf line := by
  induction word generalizing line with
  | nil => simp
  | cons c word ih =>
    obtain ⟨hc, hrest⟩ := feedless_cons hword
    cases line with
    | nil => simp [List.isPrefixOf, hc]
    | cons d line => simp [List.isPrefixOf, ih hrest]

theorem lineLocal_afterWord {word : List Char} (hword : '\n' ∉ word) :
    LineLocal (afterWord word) where
  append {line} _ rest := by
    unfold afterWord
    rw [isPrefixOf_append_line hword]
    split
    · next h =>
      have hle : word.length ≤ line.length := (List.isPrefixOf_iff_prefix.mp h).length_le
      simp [List.drop_append_of_le_length hle]
    · rfl
  stays {line} hline rest h := by
    unfold afterWord at h
    split at h
    · cases h
      exact fun hmem => hline (List.mem_of_mem_drop hmem)
    · simp at h

theorem skipBlanks_append {line : List Char} (rest : List Char) :
    skipBlanks (line ++ '\n' :: rest) = skipBlanks line ++ '\n' :: rest := by
  unfold skipBlanks
  induction line with
  | nil => simp [isBlank]
  | cons c line ih =>
    simp only [List.cons_append, List.dropWhile_cons]
    split
    · exact ih
    · rfl

theorem skipBlanks_clean {line : List Char} (hline : '\n' ∉ line) : '\n' ∉ skipBlanks line :=
  fun h => hline ((List.dropWhile_sublist _).subset h)

theorem lineLocal_afterBlanks {next : List Char → Option (List Char)} (hnext : LineLocal next) :
    LineLocal (afterBlanks next) where
  append {line} hline rest := by
    induction line with
    | nil => simp [afterBlanks, isBlank]
    | cons c line ih =>
      have hrest : '\n' ∉ line := fun h => hline (List.mem_cons_of_mem _ h)
      simp only [List.cons_append, afterBlanks]
      split
      · rw [ih hrest, hnext.append hrest]
        cases afterBlanks next line <;> simp
      · rfl
  stays {line} hline rest h := by
    induction line with
    | nil => simp [afterBlanks] at h
    | cons c line ih =>
      have hrest : '\n' ∉ line := fun h => hline (List.mem_cons_of_mem _ h)
      simp only [afterBlanks] at h
      split at h
      · cases hb : afterBlanks next line with
        | none =>
          rw [hb] at h
          exact hnext.stays hrest (by simpa using h)
        | some found =>
          rw [hb] at h
          exact ih hrest (by simpa [hb] using h)
      · simp at h

theorem LineLocal.bind {first second : List Char → Option (List Char)} (hfirst : LineLocal first)
    (hsecond : LineLocal second) : LineLocal fun s => (first s).bind second where
  append {line} hline rest := by
    simp only [hfirst.append hline]
    cases h : first line with
    | none => rfl
    | some found => simpa using hsecond.append (hfirst.stays hline h) rest
  stays {line} hline rest h := by
    obtain ⟨found, hfound, hrest⟩ := Option.bind_eq_some_iff.mp h
    exact hsecond.stays (hfirst.stays hline hfound) hrest

/-- The words of a header stand on one line. -/
theorem lineLocal_afterHeaderWords {name : List Char} (hname : '\n' ∉ name) :
    LineLocal (afterHeaderWords name) :=
  (lineLocal_afterWord (by decide)).bind <| lineLocal_afterBlanks <|
    (lineLocal_afterWord hname).bind <| lineLocal_afterBlanks <| lineLocal_afterWord (by decide)

/-! ## The lines that open a part -/

section Parts
variable {name line : List Char} {lines : List (List Char)}

@[simp] theorem afterLine_append (hline : '\n' ∉ line) (rest : List Char) :
    afterLine (line ++ '\n' :: rest) = some rest := by
  induction line with
  | nil => simp [afterLine]
  | cons c line ih =>
    obtain ⟨hc, htail⟩ := feedless_cons hline
    simp [afterLine, hc, ih htail]

theorem afterLine_eq_none (hline : '\n' ∉ line) : afterLine line = none := by
  induction line with
  | nil => rfl
  | cons c line ih =>
    obtain ⟨hc, htail⟩ := feedless_cons hline
    simp [afterLine, hc, ih htail]

theorem bind_afterLine_append {read : List Char → Option (List Char)} (hread : LineLocal read)
    (hline : '\n' ∉ line) (rest : List Char) :
    (read (line ++ '\n' :: rest)).bind afterLine =
      if (read line).isSome then some rest else none := by
  rw [hread.append hline]
  cases h : read line with
  | none => rfl
  | some found => simp [afterLine_append (hread.stays hline h)]

theorem bind_afterLine_eq_none {read : List Char → Option (List Char)} (hread : LineLocal read)
    (hline : '\n' ∉ line) : (read line).bind afterLine = none := by
  cases h : read line with
  | none => rfl
  | some found => simp [afterLine_eq_none (hread.stays hline h)]

theorem lineLocal_skipBlanks_bind {read : List Char → Option (List Char)} (hread : LineLocal read) :
    LineLocal fun s => read (skipBlanks s) where
  append {line} hline rest := by
    simp only [skipBlanks_append]
    exact hread.append (skipBlanks_clean hline) rest
  stays {line} hline rest h := hread.stays (skipBlanks_clean hline) h

theorem lineLocal_headerStart {name : List Char} (hname : '\n' ∉ name) :
    LineLocal fun s => (afterHeaderWords name s).bind fun s =>
      afterWord ['\x7b'] (skipBlanks s) :=
  (lineLocal_afterHeaderWords hname).bind (lineLocal_skipBlanks_bind (lineLocal_afterWord (by decide)))

theorem afterHeader_eq_bind (s : List Char) : afterHeader name s =
    ((afterHeaderWords name s).bind fun s => afterWord ['\x7b'] (skipBlanks s)).bind afterLine := by
  simp [afterHeader, Option.bind_assoc]

theorem isHeader_eq_isSome : isHeader name line =
    ((afterHeaderWords name line).bind fun s => afterWord ['\x7b'] (skipBlanks s)).isSome := by
  unfold isHeader
  cases afterHeaderWords name line <;> simp

/-- A header has to be a whole line with its line feed. -/
theorem afterHeader_joined (hname : '\n' ∉ name) (hline : '\n' ∉ line) :
    afterHeader name (joined (line :: lines)) =
      if isHeader name line ∧ lines ≠ [] then some (joined lines) else none := by
  rw [afterHeader_eq_bind, isHeader_eq_isSome]
  cases lines with
  | nil =>
    rw [joined_singleton, bind_afterLine_eq_none (lineLocal_headerStart hname) hline]
    simp
  | cons next rest =>
    rw [joined_cons_cons, bind_afterLine_append (lineLocal_headerStart hname) hline]
    simp

theorem afterConstLine_eq_bind (s : List Char) : afterConstLine s =
    ((afterWord "const".toList (skipBlanks s)).bind fun s =>
      afterWord ['('] (skipBlanks s)).bind afterLine := by
  simp [afterConstLine, Option.bind_assoc]

theorem lineLocal_constStart : LineLocal fun s =>
    (afterWord "const".toList (skipBlanks s)).bind fun s => afterWord ['('] (skipBlanks s) :=
  (lineLocal_skipBlanks_bind (lineLocal_afterWord (by decide))).bind
    (lineLocal_skipBlanks_bind (lineLocal_afterWord (by decide)))

theorem isConstLine_eq_isSome : isConstLine line =
    ((afterWord "const".toList (skipBlanks line)).bind fun s =>
      afterWord ['('] (skipBlanks s)).isSome := by
  unfold isConstLine
  cases afterWord "const".toList (skipBlanks line) <;> simp

theorem afterConstLine_append (hline : '\n' ∉ line) (rest : List Char) :
    afterConstLine (line ++ '\n' :: rest) = if isConstLine line then some rest else none := by
  rw [afterConstLine_eq_bind, isConstLine_eq_isSome,
    bind_afterLine_append lineLocal_constStart hline]

theorem afterConstLine_eq_none (hline : '\n' ∉ line) : afterConstLine line = none := by
  rw [afterConstLine_eq_bind, bind_afterLine_eq_none lineLocal_constStart hline]

/-! ## Closing lines -/

theorem skipTrailing_eq (s : List Char) : skipTrailing s = s.dropWhile isTrailing := rfl

theorem afterBreak_skipTrailing_append {tail : List Char} (htail : '\n' ∉ tail)
    (rest : List Char) : afterBreak (skipTrailing (tail ++ '\n' :: rest)) =
      if tail.all isTrailing then some rest else none := by
  rw [skipTrailing_eq]
  induction tail with
  | nil => simp [isTrailing, isBlank, afterBreak]
  | cons c tail ih =>
    obtain ⟨hc, htail⟩ := feedless_cons htail
    by_cases hblank : isTrailing c
    · simp [hblank, ih htail]
    · simp [hblank, afterBreak, hc]

theorem afterBreak_skipTrailing {tail : List Char} (htail : '\n' ∉ tail) :
    afterBreak (skipTrailing tail) = if tail.all isTrailing then some [] else none := by
  rw [skipTrailing_eq]
  induction tail with
  | nil => simp [afterBreak]
  | cons c tail ih =>
    obtain ⟨hc, htail⟩ := feedless_cons htail
    by_cases hblank : isTrailing c
    · simp [hblank, ih htail]
    · simp [hblank, afterBreak, hc]

theorem afterWord_bracket (bracket : Char) (hbracket : bracket ≠ '\n') (line : List Char) :
    afterWord [bracket] (joined (line :: lines)) =
      if begins bracket line then some (joined (line.tail :: lines)) else none := by
  cases line with
  | nil =>
    cases lines <;> simp [afterWord, List.isPrefixOf, begins, hbracket]
  | cons c tail =>
    by_cases hc : c = bracket
    · subst hc
      cases lines <;> simp [afterWord, begins]
    · have hc' : bracket ≠ c := fun h => hc h.symm
      cases lines <;> simp [afterWord, List.isPrefixOf, begins, hc, hc']

theorem afterBreak_skipTrailing_joined {tail : List Char} (htail : '\n' ∉ tail) :
    afterBreak (skipTrailing (joined (tail :: lines))) =
      if tail.all isTrailing then some (joined lines) else none := by
  cases lines with
  | nil => rw [joined_singleton, afterBreak_skipTrailing htail, joined_nil]
  | cons next rest => rw [joined_cons_cons, afterBreak_skipTrailing_append htail]

theorem afterClosingParen_joined (hline : '\n' ∉ line) :
    afterClosingParen (joined (line :: lines)) =
      if closes ')' line then some (joined lines) else none := by
  unfold afterClosingParen closes
  rw [afterWord_bracket ')' (by decide)]
  by_cases hb : begins ')' line
  · have htail : '\n' ∉ line.tail := fun h => hline (List.mem_of_mem_tail h)
    simp [hb, afterBreak_skipTrailing_joined htail]
  · simp [hb]

/-! ## Bodies -/

section Body
variable {bracket : Char} {close : List Char → Option (List Char)}

theorem afterBody_false_append (hline : '\n' ∉ line) (rest : List Char) :
    afterBody bracket close false (line ++ '\n' :: rest) = afterBody bracket close true rest := by
  induction line with
  | nil => simp [afterBody]
  | cons c line ih =>
    obtain ⟨hc, htail⟩ := feedless_cons hline
    simp [afterBody, beq_false_of_ne hc, ih htail]

theorem afterBody_false_eq_none (hline : '\n' ∉ line) :
    afterBody bracket close false line = none := by
  induction line with
  | nil => rfl
  | cons c line ih =>
    obtain ⟨hc, htail⟩ := feedless_cons hline
    simp [afterBody, beq_false_of_ne hc, ih htail]

/-- One line of a body: it closes the body, ends the search, or is passed. -/
theorem afterBody_joined (hbracket : bracket ≠ '\n') (hline : '\n' ∉ line) (hne : lines ≠ []) :
    afterBody bracket close true (joined (line :: lines)) =
      (close (joined (line :: lines)) <|>
        if begins bracket line then none else afterBody bracket close true (joined lines)) := by
  rw [joined_cons hne]
  cases line with
  | nil =>
    simp only [List.nil_append, afterBody, begins]
    cases close ('\n' :: joined lines) <;> simp [Ne.symm hbracket]
  | cons c tail =>
    obtain ⟨hc, htail⟩ := feedless_cons hline
    simp only [List.cons_append, afterBody, begins, beq_false_of_ne hc, afterBody_false_append htail]
    cases close (c :: (tail ++ '\n' :: joined lines)) <;> simp

theorem afterBody_last (hclose : close [] = none) (hline : '\n' ∉ line) :
    afterBody bracket close true line = close line := by
  cases line with
  | nil => simp [afterBody, hclose]
  | cons c tail =>
    obtain ⟨hc, htail⟩ := feedless_cons hline
    simp only [afterBody, beq_false_of_ne hc, afterBody_false_eq_none htail]
    cases close (c :: tail) <;> simp

end Body

end Parts

end RowTypes.Region
