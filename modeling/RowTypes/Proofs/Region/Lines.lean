import RowTypes.Proofs.Region.Readers

/-!
Regions line by line. The regions that `Region.find?` reads in a text are those that the scan finds in
its lines.

What is proved:
  1. `afterBody_struct`, `afterBody_closed`, `afterConstants_joined`: the parts of a region end where
     the scan says.
  2. `find?_joined`: the first region of a text is the first one that the scan finds.
  3. `declares_joined`: a text declares a type iff one of its lines does.
-/

namespace RowTypes.Region

open Text

section Parts
variable {name line : List Char} {lines : List (List Char)}

/-! ## Lists of constants -/

/-- A list of constants ends with its first line that begins with a parenthesis. -/
theorem afterBody_closed (h : Clean lines) :
    afterBody ')' afterClosingParen true (joined lines) =
      (closedLength? lines).map fun n => joined (lines.drop n) := by
  induction lines with
  | nil => rfl
  | cons line rest ih =>
    have hline : '\n' ∉ line := h line (by simp)
    have hclosing : afterClosingParen (joined (line :: rest)) =
        if closes ')' line then some (joined rest) else none := afterClosingParen_joined hline
    rw [closedLength?_cons]
    by_cases hne : rest = []
    · subst hne
      rw [joined_singleton] at hclosing ⊢
      rw [afterBody_last rfl hline, hclosing]
      by_cases hc : closes ')' line <;> simp [hc, closedLength?, body]
    · rw [afterBody_joined (by decide) hline hne, hclosing, ih h.tail]
      by_cases hc : closes ')' line
      · simp [hc]
      · by_cases hb : begins ')' line
        · simp [hc, hb]
        · simp only [hc, hb, if_false, Bool.false_eq_true]
          cases closedLength? rest <;> simp

theorem afterConstants_append {read : List Char} (hread : read ≠ []) (hline : '\n' ∉ line)
    (rest : List Char) : afterConstants read (line ++ '\n' :: rest) =
      if isPassed (read.reverse ++ line) then afterConstants [] rest else none := by
  induction line generalizing read with
  | nil => simp [afterConstants, hread]
  | cons c line ih =>
    obtain ⟨hc, hrest⟩ := feedless_cons hline
    simp [afterConstants, hread, hc, ih (List.cons_ne_nil c read) hrest]

theorem afterConstants_eq_none {read : List Char} (hline : '\n' ∉ line) :
    afterConstants read line = none := by
  induction line generalizing read with
  | nil => rfl
  | cons c line ih =>
    obtain ⟨hc, hrest⟩ := feedless_cons hline
    simp [afterConstants, hc, ih hrest, afterConstLine_eq_none hline]

theorem afterConstants_joined_cons (hline : '\n' ∉ line) (hne : lines ≠ []) :
    afterConstants [] (joined (line :: lines)) =
      if isConstLine line then afterBody ')' afterClosingParen true (joined lines)
      else if isPassed line then afterConstants [] (joined lines) else none := by
  rw [joined_cons hne]
  have hconst := afterConstLine_append hline (joined lines)
  cases line with
  | nil =>
    have hnot : isConstLine [] = false := rfl
    simp only [List.nil_append] at hconst ⊢
    simp [afterConstants, hconst, hnot, isPassed, skipBlanks]
  | cons c tail =>
    obtain ⟨hc, htail⟩ := feedless_cons hline
    simp only [List.cons_append] at hconst ⊢
    by_cases his : isConstLine (c :: tail)
    · simp [afterConstants, hconst, his]
    · simp [afterConstants, hconst, his, hc,
        afterConstants_append (List.cons_ne_nil c []) htail]

/-- A list of constants that follows is found where the scan finds it. -/
theorem afterConstants_joined (h : Clean lines) :
    afterConstants [] (joined lines) =
      (constantsLength? lines).map fun n => joined (lines.drop n) := by
  induction lines with
  | nil => rfl
  | cons line rest ih =>
    have hline : '\n' ∉ line := h line (by simp)
    rw [constantsLength?_cons]
    by_cases hne : rest = []
    · subst hne
      rw [joined_singleton, afterConstants_eq_none hline]
      by_cases hconst : isConstLine line <;> by_cases hpassed : isPassed line <;>
        simp [hconst, hpassed, closedLength?, body, constantsLength?, gap]
    · rw [afterConstants_joined_cons hline hne, afterBody_closed h.tail, ih h.tail]
      by_cases hconst : isConstLine line
      · simp only [hconst, if_true, Option.map_map]
        rfl
      · by_cases hpassed : isPassed line
        · simp only [hconst, hpassed, if_true, if_false, Option.map_map, Bool.false_eq_true]
          rfl
        · simp [hconst, hpassed]

/-! ## Structs -/

theorem afterOptionalConstants_eq (s : List Char) : afterOptionalConstants s =
    (afterBreak s).map fun rest => (afterConstants [] rest).getD rest := by
  cases s with
  | nil => rfl
  | cons c rest =>
    by_cases hc : c = '\n'
    · subst hc
      simp only [afterOptionalConstants, afterBreak, if_true, Option.map_some]
      cases afterConstants [] rest <;> rfl
    · simp [afterOptionalConstants, afterBreak, hc]

theorem getD_afterConstants (h : Clean lines) :
    (afterConstants [] (joined lines)).getD (joined lines) = joined (dropConstants lines) := by
  rw [afterConstants_joined h, dropConstants]
  cases constantsLength? lines <;> rfl

theorem afterReserved_joined {next : List Char} (hline : '\n' ∉ line) :
    afterReserved (joined (line :: next :: lines)) =
      if isReserved line && begins '\x7d' next then
        some (skipTrailing (joined (next.tail :: lines)))
      else none := by
  have hread := (lineLocal_afterWord (show '\n' ∉ Tag.reservedField.toList by decide)).append
    (skipBlanks_clean hline)
  unfold afterReserved isReserved
  rw [joined_cons_cons, skipBlanks_append, hread]
  cases hword : afterWord Tag.reservedField.toList (skipBlanks line) with
  | none => simp
  | some rest =>
    have hrest : '\n' ∉ rest :=
      (lineLocal_afterWord (by decide)).stays (skipBlanks_clean hline) hword
    cases rest with
    | nil => simp [isBlank]
    | cons c rest =>
      have htail : '\n' ∉ rest := fun h => hrest (List.mem_cons_of_mem _ h)
      by_cases hc : isBlank c
      · by_cases hb : begins '\x7d' next <;>
          simp [hc, hb, afterLine_append htail, afterWord_bracket '\x7d' (by decide)]
      · simp [hc]

theorem afterReserved_eq_none (hline : '\n' ∉ line) : afterReserved line = none := by
  unfold afterReserved
  cases hword : afterWord Tag.reservedField.toList (skipBlanks line) with
  | none => rfl
  | some rest =>
    have hrest : '\n' ∉ rest :=
      (lineLocal_afterWord (by decide)).stays (skipBlanks_clean hline) hword
    cases rest with
    | nil => rfl
    | cons c rest =>
      simp [afterLine_eq_none fun h => hrest (List.mem_cons_of_mem c h)]

theorem afterClose_joined {next : List Char} (hline : '\n' ∉ line) (hnext : '\n' ∉ next)
    (hlines : Clean lines) : afterClose (joined (line :: next :: lines)) =
      if isReserved line && closes '\x7d' next then some (joined (dropConstants lines))
      else none := by
  have htail : '\n' ∉ next.tail := fun h => hnext (List.mem_of_mem_tail h)
  unfold afterClose
  rw [afterReserved_joined hline]
  by_cases hr : isReserved line
  · by_cases hb : begins '\x7d' next
    · by_cases ht : next.tail.all isTrailing <;>
        simp [hr, hb, ht, closes, afterOptionalConstants_eq,
          afterBreak_skipTrailing_joined htail, getD_afterConstants hlines]
    · simp [hr, hb, closes]
  · simp [hr]

/-- A struct ends with its first line that begins with a brace, after the reserved field. -/
theorem afterBody_struct (h : Clean lines) :
    afterBody '\x7d' afterClose true (joined lines) =
      (structLength? lines).map fun n => joined (dropConstants (lines.drop n)) := by
  induction lines with
  | nil => rfl
  | cons line rest ih =>
    have hline : '\n' ∉ line := h line (by simp)
    cases rest with
    | nil =>
      have hclose : afterClose line = none := by simp [afterClose, afterReserved_eq_none hline]
      rw [joined_singleton, afterBody_last rfl hline, hclose]
      by_cases hb : begins '\x7d' line <;> simp [structLength?, body, hb]
    | cons next rest =>
      have hnext : '\n' ∉ next := h next (by simp)
      rw [afterBody_joined (by decide) hline (by simp), afterClose_joined hline hnext h.tail.tail,
        structLength?_cons_cons, ih h.tail]
      by_cases hclose : isReserved line && closes '\x7d' next
      · simp [hclose]
      · by_cases hb : begins '\x7d' line
        · simp [hclose, hb]
        · simp only [hclose, hb, if_false, Bool.false_eq_true, Option.map_map]
          cases structLength? (next :: rest) <;> simp

/-! ## The first region -/

theorem afterRegion_joined (hname : '\n' ∉ name) (h : Clean lines) :
    afterRegion name (joined lines) =
      (regionLength? name lines).map fun n => joined (lines.drop n) := by
  unfold afterRegion
  cases lines with
  | nil =>
    have : afterHeader name [] = none := by
      simp [afterHeader, afterHeaderWords, afterWord]
    simp [this, regionLength?]
  | cons header rest =>
    have hheader : '\n' ∉ header := h header (by simp)
    rw [afterHeader_joined hname hheader]
    by_cases hh : isHeader name header
    · by_cases hne : rest = []
      · subst hne
        simp [regionLength?, structLength?, body]
      · simp only [hh, hne, ne_eq, not_false_eq_true, and_self, if_true, Option.bind_some,
          afterBody_struct h.tail, regionLength?, Option.map_map]
        congr 1
        funext n
        simp [dropConstants, List.drop_drop]
    · simp [hh, regionLength?]

theorem findFrom_false_append (hline : '\n' ∉ line) (rest : List Char) :
    findFrom name false (line ++ '\n' :: rest) =
      (findFrom name true rest).map fun parts =>
        { parts with before := line ++ '\n' :: parts.before } := by
  induction line with
  | nil => simp [findFrom]
  | cons c line ih =>
    obtain ⟨hc, htail⟩ := feedless_cons hline
    simp [findFrom, beq_false_of_ne hc, ih htail, Function.comp_def]

theorem findFrom_false_eq_none (hline : '\n' ∉ line) : findFrom name false line = none := by
  induction line with
  | nil => rfl
  | cons c line ih =>
    obtain ⟨hc, htail⟩ := feedless_cons hline
    simp [findFrom, beq_false_of_ne hc, ih htail]

/-- No region begins where the text ends, nor further on in a line. -/
theorem findFrom_joined_cons (hline : '\n' ∉ line) (hne : lines ≠ [])
    (hregion : afterRegion name (joined (line :: lines)) = none) :
    findFrom name true (joined (line :: lines)) =
      (findFrom name true (joined lines)).map fun parts =>
        { parts with before := line ++ '\n' :: parts.before } := by
  rw [joined_cons hne] at hregion ⊢
  cases line with
  | nil => simp at hregion; simp [findFrom, hregion]
  | cons c line =>
    obtain ⟨hc, htail⟩ := feedless_cons hline
    simp only [List.cons_append] at hregion ⊢
    simp [findFrom, hregion, beq_false_of_ne hc, findFrom_false_append htail, Function.comp_def]

theorem findFrom_last (hline : '\n' ∉ line) (hregion : afterRegion name line = none) :
    findFrom name true line = none := by
  cases line with
  | nil => rfl
  | cons c line =>
    obtain ⟨hc, htail⟩ := feedless_cons hline
    simp [findFrom, hregion, beq_false_of_ne hc, findFrom_false_eq_none htail]

theorem findFrom_of_afterRegion {s rest : List Char} (h : afterRegion name s = some rest)
    (hs : s ≠ []) :
    findFrom name true s = some ⟨[], s.take (s.length - rest.length), rest⟩ := by
  cases s with
  | nil => exact absurd rfl hs
  | cons c s => simp [findFrom, h]

theorem take_joined (n : Nat) :
    (joined lines).take ((joined lines).length - (joined (lines.drop n)).length) =
      if lines.drop n = [] then joined (lines.take n) else terminated (lines.take n) := by
  by_cases hne : lines.drop n = []
  · have hall : lines.take n = lines := List.take_of_length_le (List.drop_eq_nil_iff.mp hne)
    simp [hne, hall]
  · have hsplit : joined lines = terminated (lines.take n) ++ joined (lines.drop n) := by
      rw [← joined_append hne, List.take_append_drop]
    rw [if_neg hne, hsplit]
    simp

/-- The first region of a text is the first one that the scan of its lines finds. -/
theorem find?_joined (hname : '\n' ∉ name) (h : Clean lines) :
    find? name (joined lines) = (findLines name lines).map LineParts.toParts := by
  unfold find?
  induction lines with
  | nil => rfl
  | cons line rest ih =>
    have hline : '\n' ∉ line := h line (by simp)
    have hregion := afterRegion_joined hname h
    cases hlen : regionLength? name (line :: rest) with
    | none =>
      rw [hlen] at hregion
      simp only [findLines, hlen]
      by_cases hne : rest = []
      · subst hne
        rw [joined_singleton] at hregion ⊢
        rw [findFrom_last hline hregion]
        rfl
      · rw [findFrom_joined_cons hline hne hregion, ih h.tail]
        simp only [Option.map_map]
        congr 1
        funext parts
        simp [LineParts.toParts, Function.comp]
    | some n =>
      rw [hlen] at hregion
      have hne : joined (line :: rest) ≠ [] := by
        intro hempty
        rw [hempty] at hregion
        simp [afterRegion, afterHeader, afterHeaderWords, afterWord] at hregion
      rw [findFrom_of_afterRegion hregion hne, take_joined]
      simp [findLines, hlen, LineParts.toParts]

/-! ## Declarations -/

theorem endsWord_append (line rest : List Char) :
    endsWord (line ++ '\n' :: rest) = endsWord line := by
  cases line with
  | nil => rfl
  | cons c line => rfl

theorem isDeclaration_joined (hname : '\n' ∉ name) (hline : '\n' ∉ line) :
    isDeclaration name (joined (line :: lines)) = isDeclaration name line := by
  cases lines with
  | nil => simp
  | cons next rest =>
    unfold isDeclaration
    rw [joined_cons_cons, (lineLocal_afterHeaderWords hname).append hline]
    cases afterHeaderWords name line <;> simp [endsWord_append]

theorem declaresFrom_false_append (hline : '\n' ∉ line) (rest : List Char) :
    declaresFrom name false (line ++ '\n' :: rest) = declaresFrom name true rest := by
  induction line with
  | nil => simp [declaresFrom]
  | cons c line ih =>
    obtain ⟨hc, htail⟩ := feedless_cons hline
    simp [declaresFrom, beq_false_of_ne hc, ih htail]

theorem declaresFrom_false_eq_false (hline : '\n' ∉ line) :
    declaresFrom name false line = false := by
  induction line with
  | nil => rfl
  | cons c line ih =>
    obtain ⟨hc, htail⟩ := feedless_cons hline
    simp [declaresFrom, beq_false_of_ne hc, ih htail]

/-- A text declares a type iff one of its lines does. -/
theorem declares_joined (hname : '\n' ∉ name) (h : Clean lines) :
    declares name (joined lines) = lines.any (isDeclaration name) := by
  unfold declares
  induction lines with
  | nil => rfl
  | cons line rest ih =>
    have hline : '\n' ∉ line := h line (by simp)
    have hhere : isDeclaration name (joined (line :: rest)) = isDeclaration name line :=
      isDeclaration_joined hname hline
    rw [List.any_cons, ← hhere]
    cases line with
    | nil =>
      have hnot : isDeclaration name (joined ([] :: rest)) = false := by
        rw [hhere]
        simp [isDeclaration, afterHeaderWords, afterWord]
      rw [hnot]
      cases rest with
      | nil => simp [declaresFrom]
      | cons next rest =>
        simp only [joined_cons_cons, List.nil_append] at hnot ⊢
        simp [declaresFrom, hnot, ih h.tail]
    | cons c line =>
      obtain ⟨hc, htail⟩ := feedless_cons hline
      cases rest with
      | nil => simp [declaresFrom, beq_false_of_ne hc, declaresFrom_false_eq_false htail]
      | cons next rest =>
        simp only [joined_cons_cons, List.cons_append]
        simp [declaresFrom, beq_false_of_ne hc, declaresFrom_false_append htail, ih h.tail]

end Parts

end RowTypes.Region
