import Mathlib.Data.List.TakeDrop
import Mathlib.Data.List.TakeWhile

/-!
Texts as lines. A text is read as the lines that its line feeds part, or is written as lines that
each end with one.

What is proved:
  1. `joined_append` — a text is the terminated lines of its first part before its other lines.
  2. `splitOn_joined`, `terminated_inj` — lines without line feeds are found again in the text.
  3. `span_append`, `exists_of_span` — where a text is parted at its first mark.
-/

namespace RowTypes.Text

/-- The text of lines that are parted by line feeds. -/
def joined (lines : List (List Char)) : List Char :=
  ['\n'].intercalate lines

/-- The text of lines that each end with a line feed. -/
def terminated (lines : List (List Char)) : List Char :=
  lines.flatMap (· ++ ['\n'])

/-- No line holds a line feed. -/
def Clean (lines : List (List Char)) : Prop :=
  ∀ line ∈ lines, '\n' ∉ line

variable {line : List Char} {lines more : List (List Char)}

@[simp] theorem joined_nil : joined [] = [] := rfl

@[simp] theorem joined_singleton : joined [line] = line := by
  simp [joined]

theorem joined_cons (h : lines ≠ []) : joined (line :: lines) = line ++ '\n' :: joined lines := by
  cases lines with
  | nil => exact absurd rfl h
  | cons next rest => simp [joined, List.intercalate_cons_cons]

@[simp] theorem joined_cons_cons {next : List Char} :
    joined (line :: next :: lines) = line ++ '\n' :: joined (next :: lines) :=
  joined_cons (by simp)

@[simp] theorem terminated_nil : terminated [] = [] := rfl

@[simp] theorem terminated_cons :
    terminated (line :: lines) = line ++ '\n' :: terminated lines := by
  simp [terminated]

@[simp] theorem terminated_append :
    terminated (lines ++ more) = terminated lines ++ terminated more := by
  simp [terminated]

/-- Only the last line of a text may lack its line feed. -/
theorem joined_append (h : more ≠ []) :
    joined (lines ++ more) = terminated lines ++ joined more := by
  induction lines with
  | nil => simp
  | cons line lines ih =>
    rw [List.cons_append, joined_cons (by simp [h]), ih]
    simp

theorem terminated_eq_joined : terminated lines = joined (lines ++ [[]]) := by
  rw [joined_append (by simp)]
  simp

theorem joined_append_feed (h : lines ≠ []) : joined lines ++ ['\n'] = terminated lines := by
  rw [← List.dropLast_concat_getLast h, joined_append (by simp), terminated_append]
  simp

theorem joined_splitOn (s : List Char) : joined (s.splitOn '\n') = s :=
  List.intercalate_splitOn '\n'

theorem splitOn_joined (h : Clean lines) (hne : lines ≠ []) :
    (joined lines).splitOn '\n' = lines :=
  List.splitOn_intercalate '\n' h hne

theorem joined_inj (h : Clean lines) (h' : Clean more) (hne : lines ≠ []) (hne' : more ≠ [])
    (heq : joined lines = joined more) : lines = more := by
  rw [← splitOn_joined h hne, heq, splitOn_joined h' hne']

theorem Clean.append (h : Clean lines) (h' : Clean more) : Clean (lines ++ more) := by
  intro line hline
  rcases List.mem_append.mp hline with hl | hl
  · exact h line hl
  · exact h' line hl

theorem Clean.of_append_left (h : Clean (lines ++ more)) : Clean lines :=
  fun line hline => h line (List.mem_append_left _ hline)

theorem Clean.of_append_right (h : Clean (lines ++ more)) : Clean more :=
  fun line hline => h line (List.mem_append_right _ hline)

theorem Clean.tail (h : Clean (line :: lines)) : Clean lines :=
  fun other hother => h other (List.mem_cons_of_mem _ hother)

theorem feedless_cons {c : Char} (h : '\n' ∉ c :: line) : c ≠ '\n' ∧ '\n' ∉ line :=
  ⟨fun hc => h (hc ▸ List.mem_cons_self), fun hmem => h (List.mem_cons_of_mem _ hmem)⟩

theorem terminated_inj (h : Clean lines) (h' : Clean more)
    (heq : terminated lines = terminated more) : lines = more := by
  rw [terminated_eq_joined, terminated_eq_joined] at heq
  have hlast : Clean [([] : List Char)] := by simp [Clean]
  exact List.append_cancel_right
    (joined_inj (h.append hlast) (h'.append hlast) (by simp) (by simp) heq)

/-! ## Cuts -/

section Cuts
variable {α : Type} {a b c d e : List α}

/-- Of two ways to cut a list, the later one cuts the rest of the earlier one. -/
theorem exists_of_append_eq (h : a ++ b = c ++ d) (hle : a.length ≤ c.length) :
    ∃ more, c = a ++ more ∧ b = more ++ d := by
  rcases List.append_eq_append_iff.mp h with hmore | ⟨more, rfl, rfl⟩
  · exact hmore
  · rw [List.length_append] at hle
    have hnil : more = [] := List.length_eq_zero_iff.mp (by omega)
    exact ⟨[], by simp [hnil], by simp [hnil]⟩

theorem exists_of_append_eq_cons {x : α} (h : a ++ b = c ++ x :: d) (hx : x ∉ a) :
    ∃ more, c = a ++ more ∧ b = more ++ x :: d := by
  refine exists_of_append_eq h (Nat.le_of_not_lt fun hlt => hx ?_)
  obtain ⟨more, rfl, hrest⟩ := exists_of_append_eq h.symm (Nat.le_of_lt hlt)
  cases more with
  | nil => simp at hlt
  | cons y more =>
    obtain ⟨rfl, -⟩ := List.cons.inj hrest
    simp

theorem mem_of_append_eq {x : α} (h : a ++ x :: b = c ++ (d ++ e)) (hle : c.length ≤ a.length)
    (hlt : a.length < c.length + d.length) : x ∈ d := by
  obtain ⟨more, rfl, hrest⟩ := exists_of_append_eq h.symm hle
  rw [List.length_append] at hlt
  obtain ⟨tail, rfl, htail⟩ := exists_of_append_eq hrest.symm (by omega)
  cases tail with
  | nil => simp at hlt
  | cons y tail =>
    obtain ⟨rfl, -⟩ := List.cons.inj htail
    simp

end Cuts

/-! ## Marks -/

section Marks
variable {before rest s : List Char} {c : Char}

/-- The part before the first mark. -/
theorem span_append (h : c ∉ before) (rest : List Char) :
    (before ++ c :: rest).span (· != c) = (before, c :: rest) := by
  have hall : ∀ d ∈ before, d != c := fun d hd => by
    simpa using fun heq : d = c => h (heq ▸ hd)
  rw [List.span_eq_takeWhile_dropWhile, List.takeWhile_append_of_pos hall,
    List.dropWhile_append_of_pos hall]
  simp

theorem exists_of_span {d : Char} (h : s.span (· != c) = (before, d :: rest)) :
    s = before ++ c :: rest ∧ c ∉ before := by
  rw [List.span_eq_takeWhile_dropWhile] at h
  obtain ⟨rfl, hdrop⟩ := Prod.mk.inj h
  have hd : d = c := by
    have := List.head?_dropWhile_not (fun e => e != c) s
    simpa [hdrop] using this
  subst hd
  refine ⟨by rw [← hdrop, List.takeWhile_append_dropWhile], fun hmem => ?_⟩
  simpa using List.all_eq_true.mp List.all_takeWhile _ hmem

end Marks

/-! ## The lines of a text -/

theorem not_mem_of_mem_splitOn {a : Char} {s piece : List Char} (h : piece ∈ s.splitOn a) :
    a ∉ piece := by
  induction s generalizing piece with
  | nil => simp_all
  | cons c s ih =>
    rw [List.splitOn_cons_eq_if_modifyHead] at h
    split at h
    · rcases List.mem_cons.mp h with rfl | hrest
      · simp
      · exact ih hrest
    · next hc =>
      obtain ⟨first, rest, hs⟩ := List.exists_cons_of_ne_nil (List.splitOn_ne_nil a s)
      rw [hs] at h ih
      rcases List.mem_cons.mp h with rfl | hrest
      · have hfirst : a ∉ first := ih List.mem_cons_self
        have hcne : c ≠ a := by simpa using hc
        simp [hfirst, Ne.symm hcne]
      · exact ih (List.mem_cons_of_mem _ hrest)

theorem clean_splitOn (s : List Char) : Clean (s.splitOn '\n') :=
  fun _ hline => not_mem_of_mem_splitOn hline

theorem exists_lines (s : List Char) : ∃ lines, Clean lines ∧ lines ≠ [] ∧ joined lines = s :=
  ⟨s.splitOn '\n', clean_splitOn s, List.splitOn_ne_nil '\n' s, joined_splitOn s⟩

end RowTypes.Text
