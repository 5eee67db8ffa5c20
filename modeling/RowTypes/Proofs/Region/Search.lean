import RowTypes.Proofs.Region.Header

/-!
Where the first region of a type stands. Whether a header opens a region is settled by the lines down
to the next one that begins with a brace, so what comes later never matters for the headers before.

What is proved:
  1. `findLines_eq_some`, `exists_findLines_of_region` — the parts are parts of the lines, the region is
     one by itself, and no other begins before it.
  2. `structLength?_append` — lines after a closing brace do not change how a struct ends.
  3. `findLines_append`, `shut_before` — the first region stands behind some lines iff these are
     `Shut`: each header among them is followed by a brace that does not close a block.
-/

namespace RowTypes.Region

open Text

section Search
variable {name line : List Char} {lines more : List (List Char)}

/-! ## The parts at the first region -/

theorem findLines_cons : findLines name (line :: lines) =
    match regionLength? name (line :: lines) with
    | some n => some ⟨[], (line :: lines).take n, (line :: lines).drop n⟩
    | none => (findLines name lines).map fun parts => { parts with before := line :: parts.before } :=
  rfl

theorem regionLength?_eq_some {n : Nat} (h : regionLength? name lines = some n) :
    ∃ header rest m, lines = header :: rest ∧ isHeader name header ∧ structLength? rest = some m ∧
      n = m + (constantsLength? (rest.drop m)).getD 0 + 1 := by
  cases lines with
  | nil => simp [regionLength?] at h
  | cons header rest =>
    simp only [regionLength?] at h
    split at h
    · next hheader =>
      obtain ⟨m, hm, rfl⟩ := Option.map_eq_some_iff.mp h
      exact ⟨header, rest, m, rfl, hheader, hm, rfl⟩
    · simp at h

/-- The first region begins no later than any other. -/
theorem exists_findLines_of_region {n : Nat} (h : regionLength? name lines = some n)
    (before : List (List Char)) : ∃ parts, findLines name (before ++ lines) = some parts ∧
      parts.before.length ≤ before.length := by
  induction before with
  | nil =>
    obtain ⟨header, rest, -, rfl, -⟩ := regionLength?_eq_some h
    rw [List.nil_append, findLines_cons, h]
    exact ⟨_, rfl, Nat.le_refl _⟩
  | cons line before ih =>
    obtain ⟨found, hfound, hle⟩ := ih
    rw [List.cons_append, findLines_cons]
    split
    · exact ⟨_, rfl, Nat.zero_le _⟩
    · rw [hfound]
      exact ⟨_, rfl, Nat.succ_le_succ hle⟩

/-- The parts make up the lines, and the region begins and ends as its own header says. -/
theorem findLines_eq_some {parts : LineParts} (h : findLines name lines = some parts) :
    parts.before ++ parts.region ++ parts.after = lines ∧
      regionLength? name (parts.region ++ parts.after) = some parts.region.length := by
  induction lines generalizing parts with
  | nil => simp [findLines] at h
  | cons line rest ih =>
    rw [findLines_cons] at h
    cases hlen : regionLength? name (line :: rest) with
    | some n =>
      rw [hlen] at h
      cases h
      have hle := regionLength?_le hlen
      simp only [List.nil_append, List.take_append_drop, List.length_take, true_and]
      rw [hlen, Nat.min_eq_left hle]
    | none =>
      rw [hlen] at h
      obtain ⟨found, hfound, rfl⟩ := Option.map_eq_some_iff.mp h
      obtain ⟨hlines, hregion⟩ := ih hfound
      refine ⟨?_, hregion⟩
      simp [← hlines]

/-- A region begins with its header and is at least a line longer. -/
theorem exists_header {parts : LineParts} (h : findLines name lines = some parts) :
    ∃ header rest m, parts.region = header :: rest ∧ isHeader name header ∧
      structLength? (rest ++ parts.after) = some m ∧ m ≤ rest.length := by
  obtain ⟨-, hlen⟩ := findLines_eq_some h
  obtain ⟨header, tail, m, htail, hheader, hm, hn⟩ := regionLength?_eq_some hlen
  cases hregion : parts.region with
  | nil => simp [hregion] at hn
  | cons first rest =>
    rw [hregion] at htail hn
    obtain ⟨rfl, rfl⟩ := List.cons.inj htail
    refine ⟨first, rest, m, rfl, hheader, hm, ?_⟩
    simp only [List.length_cons] at hn
    omega

/-! ## Structs and the lines after them -/

/-- Some line begins with a brace. -/
def HasBrace (lines : List (List Char)) : Prop :=
  ∃ line ∈ lines, begins '\x7d' line

instance : Decidable (HasBrace lines) :=
  inferInstanceAs (Decidable (∃ line ∈ lines, begins '\x7d' line))

theorem body_append_of_hasBrace (h : HasBrace lines) (more : List (List Char)) :
    body '\x7d' (lines ++ more) = body '\x7d' lines ∧ (body '\x7d' lines).length < lines.length := by
  induction lines with
  | nil => obtain ⟨_, hmem, _⟩ := h; simp at hmem
  | cons line rest ih =>
    rw [List.cons_append, body_cons, body_cons]
    by_cases hb : begins '\x7d' line
    · simp [hb]
    · have hrest : HasBrace rest := by
        obtain ⟨other, hmem, hother⟩ := h
        rcases List.mem_cons.mp hmem with rfl | hmem
        · exact absurd hother hb
        · exact ⟨other, hmem, hother⟩
      obtain ⟨heq, hlt⟩ := ih hrest
      simp [hb, heq, hlt]

/-- Lines after a closing brace do not change how a struct ends. -/
theorem structLength?_append (h : HasBrace lines) (more : List (List Char)) :
    structLength? (lines ++ more) = structLength? lines := by
  obtain ⟨hbody, hlt⟩ := body_append_of_hasBrace h more
  unfold structLength?
  simp only [hbody, List.getElem?_append_left hlt]

theorem structLength?_append_of_not_hasBrace {n : Nat} (h : ¬HasBrace lines)
    (hmore : structLength? more = some n) :
    structLength? (lines ++ more) = some (lines.length + n) := by
  induction lines with
  | nil => simpa using hmore
  | cons line rest ih =>
    have hrest : ¬HasBrace rest := fun ⟨other, hmem, hother⟩ =>
      h ⟨other, List.mem_cons_of_mem _ hmem, hother⟩
    have hline : ¬begins '\x7d' line := fun hb => h ⟨line, by simp, hb⟩
    have hsum := ih hrest
    cases hall : rest ++ more with
    | nil => rw [hall] at hsum; simp [structLength?, body] at hsum
    | cons next others =>
      rw [hall] at hsum
      have hnext : ¬(isReserved line && closes '\x7d' next) := by
        intro hclose
        have hb : begins '\x7d' next := begins_of_closes (Bool.and_eq_true _ _ ▸ hclose).2
        simp [structLength?, body_cons, hb] at hsum
      rw [List.cons_append, hall, structLength?_cons_cons, if_neg hnext, if_neg hline, hsum]
      simp only [Option.map_some, List.length_cons]
      congr 1
      omega

theorem hasBrace_append : HasBrace (lines ++ more) ↔ HasBrace lines ∨ HasBrace more := by
  simp [HasBrace, or_and_right, exists_or]

theorem begins_of_afterHeaderWords {rest : List Char} (h : afterHeaderWords name line = some rest) :
    begins 't' line := by
  obtain ⟨behind, hword, -⟩ := Option.bind_eq_some_iff.mp h
  obtain rfl := afterWord_eq_some.mp hword
  rfl

theorem begins_of_isHeader (h : isHeader name line) : begins 't' line := by
  obtain ⟨rest, hwords, -⟩ := (Option.any_eq_true _ _).mp h
  exact begins_of_afterHeaderWords hwords

theorem begins_of_isDeclaration (h : isDeclaration name line) : begins 't' line := by
  obtain ⟨rest, hwords, -⟩ := (Option.any_eq_true _ _).mp h
  exact begins_of_afterHeaderWords hwords

theorem not_begins_of_begins {first second : Char} (h : begins first line) (hne : first ≠ second) :
    ¬begins second line := by
  unfold begins at h ⊢
  simp_all

theorem structLength?_append_header {n : Nat} (h : ¬HasBrace lines) (hheader : isHeader name line)
    (hmore : structLength? more = some n) :
    structLength? (lines ++ line :: more) = some (lines.length + 1 + n) := by
  have hline : ¬begins '\x7d' line := not_begins_of_begins (begins_of_isHeader hheader) (by decide)
  have hnone : ¬HasBrace (lines ++ [line]) := by
    rw [hasBrace_append]
    rintro (hb | ⟨other, hmem, hb⟩)
    · exact h hb
    · rw [List.mem_singleton.mp hmem] at hb
      exact hline hb
  simpa using structLength?_append_of_not_hasBrace hnone hmore

/-! ## Lines without a region for what follows -/

/-- Each header of the type is followed by a brace, and the struct that the brace closes is not that
of a block. Then no region begins on these lines, whatever follows them. -/
def Shut (name : List Char) : List (List Char) → Prop
  | [] => True
  | line :: lines =>
    (isHeader name line → HasBrace lines ∧ structLength? lines = none) ∧ Shut name lines

theorem shut_of_forall_not_isHeader (h : ∀ line ∈ lines, ¬isHeader name line) :
    Shut name lines := by
  induction lines with
  | nil => trivial
  | cons line rest ih =>
    refine ⟨fun hheader => absurd hheader (h line (by simp)), ?_⟩
    exact ih fun other hother => h other (List.mem_cons_of_mem _ hother)

theorem regionLength?_append_of_shut (h : Shut name lines) (hne : lines ≠ [])
    (more : List (List Char)) : regionLength? name (lines ++ more) = none := by
  cases lines with
  | nil => exact absurd rfl hne
  | cons line rest =>
    simp only [List.cons_append, regionLength?]
    split
    · next hheader =>
      obtain ⟨hbrace, hstruct⟩ := h.1 hheader
      rw [structLength?_append hbrace, hstruct]
      rfl
    · rfl

/-- Past lines that are shut the search goes on as if they were not there. -/
theorem findLines_append (h : Shut name lines) (more : List (List Char)) :
    findLines name (lines ++ more) =
      (findLines name more).map fun parts => { parts with before := lines ++ parts.before } := by
  induction lines with
  | nil => simp
  | cons line rest ih =>
    have hnone := regionLength?_append_of_shut h (by simp) more
    rw [List.cons_append] at hnone ⊢
    rw [findLines_cons, hnone, ih h.2]
    simp [Function.comp_def]

/-- The lines before the first region are shut. -/
theorem shut_before {parts : LineParts} (h : findLines name lines = some parts) :
    Shut name parts.before := by
  induction lines generalizing parts with
  | nil => simp [findLines] at h
  | cons line rest ih =>
    rw [findLines_cons] at h
    cases hlen : regionLength? name (line :: rest) with
    | some n =>
      rw [hlen] at h
      cases h
      trivial
    | none =>
      rw [hlen] at h
      obtain ⟨found, hfound, rfl⟩ := Option.map_eq_some_iff.mp h
      refine ⟨fun hheader => ?_, ih hfound⟩
      obtain ⟨hlines, -⟩ := findLines_eq_some hfound
      obtain ⟨header, tail, m, hregion, hfirst, hm, -⟩ := exists_header hfound
      have hstruct : structLength? rest = none := by
        simpa [regionLength?, hheader] using hlen
      -- Were the struct of this header still open at the region, it would end as the region's does.
      have hbrace : HasBrace found.before := by
        by_cases hb : HasBrace found.before
        · exact hb
        · rw [← hlines, hregion, List.append_assoc, List.cons_append,
            structLength?_append_header hb hfirst hm] at hstruct
          simp at hstruct
      refine ⟨hbrace, ?_⟩
      rw [← hlines, List.append_assoc, structLength?_append hbrace] at hstruct
      exact hstruct

/-! ## Parts of lines that are shut -/

theorem Shut.append (h : Shut name lines) (hmore : Shut name more) : Shut name (lines ++ more) := by
  induction lines with
  | nil => exact hmore
  | cons line rest ih =>
    rw [List.cons_append]
    refine ⟨fun hheader => ?_, ih h.2⟩
    obtain ⟨hbrace, hstruct⟩ := h.1 hheader
    exact ⟨hasBrace_append.mpr (.inl hbrace), by rw [structLength?_append hbrace, hstruct]⟩

theorem Shut.of_append_right (h : Shut name (lines ++ more)) : Shut name more := by
  induction lines with
  | nil => exact h
  | cons line rest ih => exact ih h.2

/-- What stands before a block, of whatever type, is shut if the lines on to some point behind it are:
a struct that is open there would end as the struct of that block does. -/
theorem Shut.of_append_left {other header : List Char} {rest after : List (List Char)} {m : Nat}
    (h : Shut name (lines ++ more)) (hsplit : more ++ after = header :: rest)
    (hheader : isHeader other header) (hstruct : structLength? rest = some m) : Shut name lines := by
  induction lines with
  | nil => trivial
  | cons line tail ih =>
    rw [List.cons_append] at h
    refine ⟨fun hfirst => ?_, ih h.2⟩
    obtain ⟨hbrace, hnone⟩ := h.1 hfirst
    by_cases hb : HasBrace tail
    · exact ⟨hb, by rw [← hnone, structLength?_append hb]⟩
    · exfalso
      have hends := structLength?_append_header hb hheader hstruct
      rw [← hsplit, ← List.append_assoc, structLength?_append hbrace, hnone] at hends
      simp at hends

theorem le_before_of_shut (start rest : List (List Char)) {parts : LineParts}
    (hfind : findLines name (start ++ (lines ++ rest)) = some parts) (h : Shut name lines)
    (hle : start.length ≤ parts.before.length) :
    start.length + lines.length ≤ parts.before.length := by
  by_cases hlt : parts.before.length < start.length + lines.length
  · exfalso
    obtain ⟨hlines, hregion⟩ := findLines_eq_some hfind
    have hdrop := congrArg (List.drop parts.before.length) hlines
    rw [List.append_assoc, List.drop_left, List.drop_append, List.drop_eq_nil_of_le hle,
      List.nil_append, List.drop_append_of_le_length (by omega)] at hdrop
    have hshut : Shut name (lines.drop (parts.before.length - start.length)) := by
      rw [← List.take_append_drop (parts.before.length - start.length) lines] at h
      exact h.of_append_right
    have hne : lines.drop (parts.before.length - start.length) ≠ [] := by
      simp only [ne_eq, List.drop_eq_nil_iff]
      omega
    rw [hdrop, regionLength?_append_of_shut hshut hne] at hregion
    simp at hregion
  · omega

end Search

end RowTypes.Region
