import RowTypes.Proofs.Region.Scan

/-!
The shape of a region. A struct and a list of constants are told by a few lines: the one that begins
with a bracket, the one before it, and the one that opens the list.

What is proved:
  1. `exists_of_structLength?`: the lines of the struct of a block, down to its brace.
  2. `exists_of_constantsLength?`, `constantsLength?_append`: the lines of a list of constants, and
     what makes lines one.
-/

namespace RowTypes.Region

open Text

/-- The lines that follow the first one that begins with a brace. -/
def afterBrace (ls : List (List Char)) : List (List Char) :=
  ls.drop ((body '\x7d' ls).length + 1)

/-- The lines in the list of constants that stands first, after blank lines and line comments. -/
def constantLines (ls : List (List Char)) : List (List Char) :=
  if (constantsLength? ls).isSome then body ')' (ls.drop (gap ls + 1)) else []

section
variable {bracket : Char} {line brace paren const : List Char} {ls before passed inside more : List (List Char)}

/-! ## Bodies -/

theorem body_append_cons (h : ∀ other ∈ before, ¬begins bracket other) (hline : begins bracket line)
    (more : List (List Char)) : body bracket (before ++ line :: more) = before := by
  induction before with
  | nil => simp [body_cons, hline]
  | cons other before ih =>
    have hother := h other List.mem_cons_self
    rw [List.cons_append, body_cons, ih fun next hnext => h next (List.mem_cons_of_mem _ hnext)]
    simp [hother]

theorem not_begins_of_mem_body (h : line ∈ body bracket ls) : ¬begins bracket line := by
  induction ls with
  | nil => simp [body] at h
  | cons other ls ih =>
    rw [body_cons] at h
    by_cases hother : begins bracket other
    · simp [hother] at h
    · rw [if_neg hother] at h
      rcases List.mem_cons.mp h with rfl | hmem
      · exact hother
      · exact ih hmem

theorem exists_of_any_getElem? {p : List Char → Bool} (h : ls[(body bracket ls).length]?.any p) :
    ∃ line, p line ∧ ls = body bracket ls ++ line :: ls.drop ((body bracket ls).length + 1) := by
  have hlt := lt_length_of_any h
  refine ⟨ls[(body bracket ls).length], ?_, ?_⟩
  · simpa [List.getElem?_eq_getElem hlt] using h
  · have htake : body bracket ls = ls.take (body bracket ls).length :=
      List.prefix_iff_eq_take.mp (List.takeWhile_prefix _)
    rw [← List.drop_eq_getElem_cons hlt]
    conv => rhs; arg 1; rw [htake]
    exact (List.take_append_drop _ _).symm

/-- The lines of the struct of a block, down to its brace. -/
theorem exists_of_structLength? {n : Nat} (h : structLength? ls = some n) :
    ∃ brace, closes '\x7d' brace ∧ ls = body '\x7d' ls ++ brace :: afterBrace ls ∧
      n = (body '\x7d' ls).length + 1 := by
  unfold structLength? at h
  split at h
  · next hends =>
    cases h
    rw [Bool.and_eq_true] at hends
    obtain ⟨brace, hbrace, hls⟩ := exists_of_any_getElem? hends.2
    exact ⟨brace, hbrace, hls, rfl⟩
  · simp at h

/-! ## Lists of constants -/

theorem gap_append (h : ∀ line ∈ passed, isPassed line) (hline : ¬isPassed line)
    (more : List (List Char)) : gap (passed ++ line :: more) = passed.length := by
  induction passed with
  | nil => simp [gap, hline]
  | cons other passed ih =>
    have hother := h other List.mem_cons_self
    have hrest := ih fun next hnext => h next (List.mem_cons_of_mem _ hnext)
    simpa [gap, hother] using hrest

/-- What makes lines a list of constants. -/
theorem constantsLength?_append (hpassed : ∀ line ∈ passed, isPassed line)
    (hconst : isConstLine const) (hinside : ∀ line ∈ inside, ¬begins ')' line)
    (hparen : closes ')' paren) (more : List (List Char)) :
    constantsLength? (passed ++ const :: (inside ++ paren :: more)) =
        some (passed.length + 1 + (inside.length + 1)) ∧
      constantLines (passed ++ const :: (inside ++ paren :: more)) = inside := by
  have hgap : gap (passed ++ const :: (inside ++ paren :: more)) = passed.length :=
    gap_append hpassed (by simp [isPassed_eq_false hconst]) _
  have hbody : body ')' (inside ++ paren :: more) = inside :=
    body_append_cons hinside (begins_of_closes hparen) more
  have hdrop : (passed ++ const :: (inside ++ paren :: more)).drop (passed.length + 1) =
      inside ++ paren :: more := by
    rw [← List.drop_drop, List.drop_left, List.drop_one, List.tail_cons]
  have hclosed : closedLength? (inside ++ paren :: more) = some (inside.length + 1) := by
    unfold closedLength?
    rw [hbody]
    simp [hparen]
  have hlength : constantsLength? (passed ++ const :: (inside ++ paren :: more)) =
      some (passed.length + 1 + (inside.length + 1)) := by
    unfold constantsLength?
    rw [hgap, hdrop, hclosed]
    simp [hconst]
  refine ⟨hlength, ?_⟩
  unfold constantLines
  rw [hlength, hgap, hdrop, hbody]
  rfl

/-- The lines of a list of constants, down to its parenthesis. -/
theorem exists_of_constantsLength? {n : Nat} (h : constantsLength? ls = some n) :
    ∃ passed const paren, (∀ line ∈ passed, isPassed line) ∧ isConstLine const ∧
      (∀ line ∈ constantLines ls, ¬begins ')' line) ∧ closes ')' paren ∧
      ls.take n = passed ++ const :: (constantLines ls ++ [paren]) := by
  have hsome : (constantsLength? ls).isSome := by rw [h]; rfl
  unfold constantsLength? at h
  split at h
  · next hconst =>
    obtain ⟨m, hm, rfl⟩ := Option.map_eq_some_iff.mp h
    have hlt := lt_length_of_any hconst
    unfold closedLength? at hm
    split at hm
    · next hends =>
      cases hm
      obtain ⟨paren, hparen, htail⟩ := exists_of_any_getElem? hends
      have hlines : constantLines ls = body ')' (ls.drop (gap ls + 1)) := by
        rw [constantLines, if_pos hsome]
      have hpassed : ls.takeWhile isPassed = ls.take (gap ls) :=
        List.prefix_iff_eq_take.mp (List.takeWhile_prefix _)
      refine ⟨ls.takeWhile isPassed, ls[gap ls], paren, ?_, ?_, ?_, hparen, ?_⟩
      · exact List.all_eq_true.mp List.all_takeWhile
      · simpa [List.getElem?_eq_getElem hlt] using hconst
      · rw [hlines]
        exact fun line => not_begins_of_mem_body
      · rw [← hlines] at htail ⊢
        have hls : ls = (ls.takeWhile isPassed ++ ls[gap ls] :: (constantLines ls ++ [paren])) ++
            (ls.drop (gap ls + 1)).drop ((constantLines ls).length + 1) := by
          rw [List.append_assoc, List.cons_append, List.append_assoc, List.singleton_append, ← htail,
            ← List.drop_eq_getElem_cons hlt, hpassed, List.take_append_drop]
        refine (congrArg (List.take _) hls).trans (List.take_left' ?_)
        simp [gap]
        omega
    · simp at hm
  · simp at h

end

end RowTypes.Region
