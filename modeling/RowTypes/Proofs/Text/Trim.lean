import Mathlib.Data.List.DropRight
import Mathlib.Data.List.TakeDrop
import RowTypes.Proofs.Text.Case

/-!
Texts without the white space at their ends. White space is what `isWhite` says, and ink is anything
else.

What is proved:
  1. `trim_append_cons`: trimming around a character with ink trims what comes before it and what comes
     after it.
  2. `trim_around`: a word is found again between white space.
  3. `mem_trim_of_not_isWhite`, `mem_of_mem_trim`: trimming removes no ink and adds nothing.
-/

namespace RowTypes.Text

/-- Only white space. -/
def White (s : List Char) : Prop :=
  ∀ c ∈ s, isWhite c

instance (s : List Char) : Decidable (White s) :=
  List.decidableBAll (fun c => isWhite c = true) s

variable {s rest lead gap : List Char} {c : Char}

/-! ## Words -/

theorem trimStart_of_head? (h : ∀ c, s.head? = some c → ¬isWhite c) : trimStart s = s := by
  cases s with
  | nil => rfl
  | cons c rest => simp [trimStart, h c rfl]

theorem trimEnd_of_getLast? (h : ∀ c, s.getLast? = some c → ¬isWhite c) : trimEnd s = s := by
  rw [trimEnd, trimStart_of_head?, List.reverse_reverse]
  intro c hc
  rw [List.head?_reverse] at hc
  exact h c hc

theorem trim_of_ends (hhead : ∀ c, s.head? = some c → ¬isWhite c)
    (hlast : ∀ c, s.getLast? = some c → ¬isWhite c) : trim s = s := by
  rw [trim, trimStart_of_head? hhead, trimEnd_of_getLast? hlast]

theorem trim_cons_of_isWhite (h : isWhite c) : trim (c :: s) = trim s := by
  simp [trim, trimStart, h]

theorem mem_of_mem_trimStart (h : c ∈ trimStart s) : c ∈ s :=
  (List.dropWhile_sublist _).subset h

theorem mem_of_mem_trim (h : c ∈ trim s) : c ∈ s := by
  rw [trim, trimEnd, List.mem_reverse] at h
  exact mem_of_mem_trimStart (List.mem_reverse.mp (mem_of_mem_trimStart h))

theorem trim_of_unspaced (h : Unspaced s) : trim s = s :=
  trim_of_ends (fun c hc => h c (List.mem_of_head? hc)) fun c hc => h c (List.mem_of_getLast? hc)

/-! ## White space around a text -/

theorem trimStart_append_white (h : White lead) (s : List Char) : trimStart (lead ++ s) = trimStart s := by
  rw [trimStart, List.dropWhile_append_of_pos h]
  rfl

theorem trimEnd_append_white (s : List Char) (h : White gap) : trimEnd (s ++ gap) = trimEnd s := by
  have hreverse : White gap.reverse := fun c hc => h c (List.mem_reverse.mp hc)
  rw [trimEnd, List.reverse_append, trimStart_append_white hreverse, trimEnd]

theorem trimStart_of_white (h : White s) : trimStart s = [] := by
  have hstart := trimStart_append_white h []
  rwa [List.append_nil] at hstart

theorem trimEnd_of_white (h : White s) : trimEnd s = [] :=
  trimEnd_append_white [] h

theorem trim_of_white (h : White s) : trim s = [] := by
  rw [trim, trimStart_of_white h]
  rfl

theorem trim_trimStart (s : List Char) : trim (trimStart s) = trim s := by
  rw [trim, trim, trimStart, trimStart, List.dropWhile_idempotent]

theorem trim_append_white (s : List Char) (h : White gap) : trim (s ++ gap) = trim s := by
  induction s with
  | nil => exact trim_of_white h
  | cons c s ih =>
    by_cases hc : isWhite c
    · rw [List.cons_append, trim_cons_of_isWhite hc, trim_cons_of_isWhite hc, ih]
    · have hstart (t : List Char) : trimStart (c :: t) = c :: t := by simp [trimStart, hc]
      rw [List.cons_append, trim, trim, hstart, hstart, ← List.cons_append, trimEnd_append_white _ h]

theorem trim_trimEnd (s : List Char) : trim (trimEnd s) = trim s := by
  have hsplit : s = trimEnd s ++ (s.reverse.takeWhile isWhite).reverse := by
    rw [trimEnd, trimStart, ← List.reverse_append, List.takeWhile_append_dropWhile,
      List.reverse_reverse]
  have hwhite : White (s.reverse.takeWhile isWhite).reverse := by
    intro c hc
    exact List.all_eq_true.mp List.all_takeWhile c (List.mem_reverse.mp hc)
  conv_rhs => rw [hsplit, trim_append_white _ hwhite]

/-- A word is found again between white space. -/
theorem trim_around (hlead : White lead) (hgap : White gap) (h : Unspaced s) :
    trim (lead ++ (s ++ gap)) = s := by
  rw [trim, trimStart_append_white hlead, ← trim, trim_append_white s hgap, trim_of_unspaced h]

/-! ## Ink -/

theorem trimStart_append_cons (hc : ¬isWhite c) (s rest : List Char) :
    trimStart (s ++ c :: rest) = trimStart s ++ c :: rest := by
  induction s with
  | nil => simp [trimStart, hc]
  | cons d s ih =>
    by_cases hd : isWhite d
    · have hskip (t : List Char) : trimStart (d :: t) = trimStart t := by simp [trimStart, hd]
      rw [List.cons_append, hskip, hskip, ih]
    · have hstay (t : List Char) : trimStart (d :: t) = d :: t := by simp [trimStart, hd]
      rw [List.cons_append, hstay, hstay, List.cons_append]

theorem trimEnd_append_cons (hc : ¬isWhite c) (s rest : List Char) :
    trimEnd (s ++ c :: rest) = s ++ c :: trimEnd rest := by
  have hreverse : (s ++ c :: rest).reverse = rest.reverse ++ c :: s.reverse := by simp
  rw [trimEnd, hreverse, trimStart_append_cons hc]
  simp [trimEnd]

/-- Trimming around ink trims what comes before it and what comes after it. -/
theorem trim_append_cons (hc : ¬isWhite c) (s rest : List Char) :
    trim (s ++ c :: rest) = trimStart s ++ c :: trimEnd rest := by
  rw [trim, trimStart_append_cons hc, trimEnd_append_cons hc]

theorem mem_trimStart_of_not_isWhite (hc : c ∈ s) (hink : ¬isWhite c) : c ∈ trimStart s := by
  rw [← List.takeWhile_append_dropWhile (p := isWhite) (l := s)] at hc
  rcases List.mem_append.mp hc with hmem | hmem
  · exact absurd (List.all_eq_true.mp List.all_takeWhile c hmem) hink
  · exact hmem

/-- Trimming removes no ink. -/
theorem mem_trim_of_not_isWhite (hc : c ∈ s) (hink : ¬isWhite c) : c ∈ trim s := by
  rw [trim, trimEnd, List.mem_reverse]
  refine mem_trimStart_of_not_isWhite ?_ hink
  rw [List.mem_reverse]
  exact mem_trimStart_of_not_isWhite hc hink

theorem prefix_trimEnd_append (h : ∀ c, s.getLast? = some c → ¬isWhite c) (t : List Char) :
    s <+: trimEnd (s ++ t) := by
  have hself : trimStart s.reverse = s.reverse := trimStart_of_head? fun c hc => by
    rw [List.head?_reverse] at hc
    exact h c hc
  rw [trimEnd, List.reverse_append, trimStart, List.dropWhile_append, ← trimStart, ← trimStart]
  split
  · simp [hself]
  · rw [List.reverse_append, List.reverse_reverse]
    exact List.prefix_append _ _

end RowTypes.Text
