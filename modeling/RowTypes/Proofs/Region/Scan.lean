import RowTypes.Region
import RowTypes.Proofs.Text.Lines

/-!
A scan of lines for regions. `Region.find?` reads characters, with choices that may fail late. The scan
decides on whole lines: a struct ends at the first line that begins with a brace, and it is that of a
block iff the reserved field stands on the line before.

What is proved:
  1. `structLength?_cons_cons`, `constantsLength?_cons`: what one more line does to the scan.
  2. `regionLength?_le`: a region is no longer than the lines.
-/

namespace RowTypes.Region

open Text

/-! ## What a line is -/

/-- The line begins with `bracket`. -/
def begins (bracket : Char) (line : List Char) : Bool :=
  line.head? == some bracket

/-- A blank or a carriage return, which may stand after a closing bracket. -/
def isTrailing (c : Char) : Bool :=
  isBlank c || c == '\r'

/-- The line is `bracket`, with nothing but blanks and carriage returns after it. -/
def closes (bracket : Char) (line : List Char) : Bool :=
  begins bracket line && line.tail.all isTrailing

/-- The line opens the struct of the type `name`. -/
def isHeader (name line : List Char) : Bool :=
  (afterHeaderWords name line).any fun rest => (afterWord ['\x7b'] (skipBlanks rest)).isSome

/-- The line holds the reserved field. -/
def isReserved (line : List Char) : Bool :=
  (afterWord Tag.reservedField.toList (skipBlanks line)).any fun rest => rest.head?.any isBlank

/-- The line opens a list of constants. -/
def isConstLine (line : List Char) : Bool :=
  (afterWord "const".toList (skipBlanks line)).any fun rest =>
    (afterWord ['('] (skipBlanks rest)).isSome

/-! ## How many lines a part takes -/

/-- The lines before the first that begins with `bracket`. -/
def body (bracket : Char) (lines : List (List Char)) : List (List Char) :=
  lines.takeWhile fun line => !begins bracket line

/-- How many lines a struct takes after its header, if it is that of a block. -/
def structLength? (lines : List (List Char)) : Option Nat :=
  if (body '\x7d' lines).getLast?.any isReserved &&
      lines[(body '\x7d' lines).length]?.any (closes '\x7d')
  then some ((body '\x7d' lines).length + 1) else none

/-- How many lines a list of constants takes after the line that opens it. -/
def closedLength? (lines : List (List Char)) : Option Nat :=
  if lines[(body ')' lines).length]?.any (closes ')') then some ((body ')' lines).length + 1) else none

/-- How many blank lines and line comments come first. -/
def gap (lines : List (List Char)) : Nat :=
  (lines.takeWhile isPassed).length

/-- How many lines there are down to the end of a list of constants that only blank lines and line
comments precede. -/
def constantsLength? (lines : List (List Char)) : Option Nat :=
  if lines[gap lines]?.any isConstLine then
    (closedLength? (lines.drop (gap lines + 1))).map (gap lines + 1 + ·)
  else none

/-- What is left of lines once the constants that stand first are taken off. -/
def dropConstants (lines : List (List Char)) : List (List Char) :=
  lines.drop ((constantsLength? lines).getD 0)

/-- How many lines a region takes that begins on the first line. -/
def regionLength? (name : List Char) : List (List Char) → Option Nat
  | [] => none
  | header :: lines =>
    if isHeader name header then
      (structLength? lines).map fun n => n + (constantsLength? (lines.drop n)).getD 0 + 1
    else none

/-- Lines parted into those before a region, those of the region, and those after it. -/
structure LineParts where
  before : List (List Char)
  region : List (List Char)
  after : List (List Char)
  deriving DecidableEq, Repr

/-- The parts of lines at the first region. -/
def findLines (name : List Char) : List (List Char) → Option LineParts
  | [] => none
  | line :: lines =>
    match regionLength? name (line :: lines) with
    | some n => some ⟨[], (line :: lines).take n, (line :: lines).drop n⟩
    | none => (findLines name lines).map fun parts => { parts with before := line :: parts.before }

/-- The parts as text: a line feed ends the region unless the text ends with it. -/
def LineParts.toParts (parts : LineParts) : Parts :=
  { before := terminated parts.before
    region := if parts.after = [] then joined parts.region else terminated parts.region
    after := joined parts.after }

section
variable {name line : List Char} {lines : List (List Char)}

/-! ## One line more -/

theorem begins_of_closes {bracket : Char} (h : closes bracket line) : begins bracket line := by
  simp only [closes, Bool.and_eq_true] at h
  exact h.1

theorem body_cons (bracket : Char) : body bracket (line :: lines) =
    if begins bracket line then [] else line :: body bracket lines := by
  cases h : begins bracket line <;> simp [body, h]

theorem closedLength?_cons : closedLength? (line :: lines) =
    if closes ')' line then some 1
    else if begins ')' line then none else (closedLength? lines).map (· + 1) := by
  by_cases hb : begins ')' line
  · by_cases hc : closes ')' line <;> simp [closedLength?, body_cons, hb, hc]
  · have hc : ¬closes ')' line := fun h => hb (begins_of_closes h)
    by_cases hend : lines[(body ')' lines).length]?.any (closes ')') <;>
      simp [closedLength?, body_cons, hb, hc, hend]

theorem isPassed_eq_false (h : isConstLine line) : isPassed line = false := by
  unfold isConstLine at h
  unfold isPassed
  generalize skipBlanks line = s at h ⊢
  cases s with
  | nil => simp [afterWord] at h
  | cons c rest =>
    by_cases hc : c = 'c'
    · subst hc
      rfl
    · have : afterWord "const".toList (c :: rest) = none := by
        simp [afterWord, List.isPrefixOf, Ne.symm hc]
      rw [this] at h
      exact absurd h (by simp)

theorem gap_cons : gap (line :: lines) = if isPassed line then gap lines + 1 else 0 := by
  cases h : isPassed line <;> simp [gap, h]

theorem constantsLength?_cons : constantsLength? (line :: lines) =
    if isConstLine line then (closedLength? lines).map (· + 1)
    else if isPassed line then (constantsLength? lines).map (· + 1) else none := by
  by_cases hconst : isConstLine line
  · simp [constantsLength?, gap_cons, isPassed_eq_false hconst, hconst, Nat.add_comm]
  · by_cases hpassed : isPassed line
    · by_cases hopen : lines[gap lines]?.any isConstLine
      · simp only [constantsLength?, gap_cons, hconst, hpassed, hopen, if_true, if_false,
          List.getElem?_cons_succ, List.drop_succ_cons, Option.map_map, Bool.false_eq_true]
        congr 1
        funext n
        simp only [Function.comp]
        omega
      · simp [constantsLength?, gap_cons, hconst, hpassed, hopen]
    · simp [constantsLength?, gap_cons, hpassed, hconst]

theorem begins_of_isReserved (h : isReserved line) : begins '\x7d' line = false := by
  cases line with
  | nil => rfl
  | cons c rest =>
    by_cases hc : c = '\x7d'
    · subst hc
      revert h
      simp [isReserved, skipBlanks, isBlank, afterWord, Tag.reservedField]
    · simpa [begins] using hc

theorem structLength?_cons_cons {next : List Char} : structLength? (line :: next :: lines) =
    if isReserved line && closes '\x7d' next then some 2
    else if begins '\x7d' line then none
    else (structLength? (next :: lines)).map (· + 1) := by
  by_cases hb : begins '\x7d' line
  · have hr : ¬isReserved line := fun h => by simp [begins_of_isReserved h] at hb
    simp [structLength?, body_cons, hb, hr]
  · by_cases hbn : begins '\x7d' next
    · by_cases hr : isReserved line <;> by_cases hc : closes '\x7d' next <;>
        simp [structLength?, body_cons, hb, hbn, hr, hc]
    · have hc : ¬closes '\x7d' next := fun h => hbn (begins_of_closes h)
      simp only [structLength?, body_cons, hb, hbn, hc, if_false, Bool.and_false,
        List.getLast?_cons_cons, List.length_cons, List.getElem?_cons_succ, Bool.false_eq_true]
      split <;> rfl

/-! ## Lengths -/

theorem lt_length_of_any {p : List Char → Bool} {i : Nat} (h : lines[i]?.any p) :
    i < lines.length := by
  rcases Nat.lt_or_ge i lines.length with hi | hi
  · exact hi
  · simp [List.getElem?_eq_none hi] at h

theorem structLength?_le {n : Nat} (h : structLength? lines = some n) : n ≤ lines.length := by
  unfold structLength? at h
  split at h
  · next hends =>
    cases h
    exact lt_length_of_any (Bool.and_eq_true _ _ ▸ hends).2
  · simp at h

theorem constantsLength?_le {n : Nat} (h : constantsLength? lines = some n) :
    n ≤ lines.length := by
  unfold constantsLength? at h
  split at h
  · obtain ⟨m, hm, rfl⟩ := Option.map_eq_some_iff.mp h
    unfold closedLength? at hm
    split at hm
    · next hends =>
      cases hm
      have := lt_length_of_any hends
      simp only [List.length_drop] at this
      omega
    · simp at hm
  · simp at h

theorem regionLength?_le {n : Nat} (h : regionLength? name lines = some n) :
    n ≤ lines.length := by
  cases lines with
  | nil => simp [regionLength?] at h
  | cons header rest =>
    simp only [regionLength?] at h
    split at h
    · obtain ⟨m, hm, rfl⟩ := Option.map_eq_some_iff.mp h
      have hstruct := structLength?_le hm
      have hconstants : (constantsLength? (rest.drop m)).getD 0 ≤ rest.length - m := by
        cases hc : constantsLength? (rest.drop m) with
        | none => simp
        | some k => simpa using constantsLength?_le hc
      simp only [List.length_cons]
      omega
    · simp at h

end

end RowTypes.Region
