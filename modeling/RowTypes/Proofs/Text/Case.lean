import RowTypes.Text.Blank
import RowTypes.Text.Case

/-!
Case mapping and white space: no letter becomes white space when its case changes, and none becomes
an `i` when it is put into upper case.

What is proved:
  1. `shiftBy_cases`: a character is left alone or moved to a number that a run reaches.
  2. `Unspaced.lower`, `unspaced_upperChar`: the case mappings add no white space.
  3. `head?_upperChar`: upper case begins with some character that is no `i`.
  4. `underscore_not_mem_upperChar`: upper case makes no underscores.
-/

namespace RowTypes.Text

/-- No character is white space. -/
def Unspaced (s : List Char) : Prop :=
  ∀ c ∈ s, ¬isWhite c

instance (s : List Char) : Decidable (Unspaced s) :=
  List.decidableBAll (fun c => ¬isWhite c) s

@[simp] theorem unspaced_nil : Unspaced [] := by
  simp [Unspaced]

@[simp] theorem unspaced_cons {c : Char} {s : List Char} :
    Unspaced (c :: s) ↔ ¬isWhite c ∧ Unspaced s := by
  simp [Unspaced]

@[simp] theorem unspaced_append {s t : List Char} : Unspaced (s ++ t) ↔ Unspaced s ∧ Unspaced t := by
  simp only [Unspaced, List.mem_append]
  constructor
  · intro h
    exact ⟨fun c hc => h c (.inl hc), fun c hc => h c (.inr hc)⟩
  · rintro ⟨hs, ht⟩ c (hc | hc)
    · exact hs c hc
    · exact ht c hc

/-! ## White space by number -/

/-- The numbers of the white space characters. -/
def whiteNumbers : List Nat :=
  [9, 10, 11, 12, 13, 32, 0x85, 0xa0, 0x1680, 0x2000, 0x2001, 0x2002, 0x2003, 0x2004, 0x2005,
    0x2006, 0x2007, 0x2008, 0x2009, 0x200a, 0x2028, 0x2029, 0x202f, 0x205f, 0x3000]

theorem mem_whiteNumbers {c : Char} (h : isWhite c) : c.toNat ∈ whiteNumbers := by
  simp only [isWhite, Bool.or_eq_true, beq_iff_eq, Bool.and_eq_true, decide_eq_true_eq] at h
  rcases h with (((((((((rfl | ⟨hl, hu⟩) | rfl) | rfl) | rfl) | ⟨hl, hu⟩) | rfl) | rfl) | rfl) |
    rfl) | rfl
  case inl.inl.inl.inl.inl.inl.inl.inl.inl.inr =>
    have hlow : 9 ≤ c.toNat := Char.le_def.mp hl
    have hhigh : c.toNat ≤ 13 := Char.le_def.mp hu
    simp only [whiteNumbers, List.mem_cons]
    omega
  case inl.inl.inl.inl.inl.inr =>
    have hlow : 0x2000 ≤ c.toNat := Char.le_def.mp hl
    have hhigh : c.toNat ≤ 0x200a := Char.le_def.mp hu
    simp only [whiteNumbers, List.mem_cons]
    omega
  all_goals decide

theorem not_isWhite_of_not_mem {c : Char} (h : c.toNat ∉ whiteNumbers) : ¬isWhite c :=
  fun hwhite => h (mem_whiteNumbers hwhite)

/-! ## Runs -/

/-- Some run moves a character to the number `n`. -/
def reaches (runs : List CaseRun) (n : Nat) : Bool :=
  runs.any fun run => decide (run.shift ≤ n) && run.covers (n - run.shift).toNat

theorem toNat_ofNat (n : Nat) : (Char.ofNat n).toNat = n ∨ (Char.ofNat n).toNat = 0 := by
  by_cases h : n.isValidChar
  · left
    rw [Char.ofNat, dif_pos h]
    rfl
  · right
    rw [Char.ofNat, dif_neg h]
    rfl

/-- What the runs leave alone stays, and what they move they move to where they reach. -/
theorem shiftBy_cases (runs : List CaseRun) (c : Char) :
    shiftBy runs c = c ∨ (shiftBy runs c).toNat = 0 ∨ reaches runs (shiftBy runs c).toNat := by
  unfold shiftBy
  cases hfind : runs.find? fun run => run.covers c.toNat with
  | none => exact .inl rfl
  | some run =>
    have hcovers : run.covers c.toNat := by simpa using List.find?_some hfind
    have hmem : run ∈ runs := List.mem_of_find?_eq_some hfind
    rcases toNat_ofNat (c.toNat + run.shift).toNat with hto | hto
    · right
      by_cases hzero : (c.toNat + run.shift).toNat = 0
      · exact .inl (hto.trans hzero)
      · right
        simp only [hto, reaches, List.any_eq_true, Bool.and_eq_true, decide_eq_true_eq]
        refine ⟨run, hmem, by omega, ?_⟩
        have hback : ((c.toNat + run.shift).toNat - run.shift).toNat = c.toNat := by omega
        rwa [hback]
    · exact .inr (.inl hto)

theorem not_isWhite_shiftBy {runs : List CaseRun} {c : Char} (hc : ¬isWhite c)
    (hruns : ∀ n ∈ whiteNumbers, reaches runs n = false) : ¬isWhite (shiftBy runs c) := by
  rcases shiftBy_cases runs c with hsame | hzero | hreach
  · rwa [hsame]
  · apply not_isWhite_of_not_mem
    rw [hzero]
    decide
  · intro hwhite
    rw [hruns _ (mem_whiteNumbers hwhite)] at hreach
    exact absurd hreach (by decide)

theorem forall_basic (p : Char → Prop) (h : ∀ n < 128, p (Char.ofNat n)) {c : Char}
    (hc : c.toNat < 128) : p c := by
  have := h c.toNat hc
  rwa [Char.ofNat_toNat] at this

/-! ## Case mappings -/

theorem unspaced_lowerChar {c : Char} (h : ¬isWhite c) : Unspaced (lowerChar c) := by
  unfold lowerChar
  split
  · next hbasic =>
    exact forall_basic (fun c => ¬isWhite c → Unspaced [c.toLower]) (by decide +kernel) hbasic h
  · split
    · decide
    · have hruns : ∀ n ∈ whiteNumbers, reaches lowerRuns n = false := by decide +kernel
      simpa using not_isWhite_shiftBy h hruns

theorem unspaced_upperChar {c : Char} (h : ¬isWhite c) : Unspaced (upperChar c) := by
  unfold upperChar
  split
  · next hbasic =>
    exact forall_basic (fun c => ¬isWhite c → Unspaced [c.toUpper]) (by decide +kernel) hbasic h
  · split
    · next numbers hlookup =>
      have hall : ∀ entry ∈ upperSpecial, Unspaced (entry.2.map Char.ofNat) := by decide +kernel
      obtain ⟨before, after, hsplit, -⟩ := List.lookup_eq_some_iff.mp hlookup
      exact hall (c.toNat, numbers) (by simp [hsplit])
    · have hruns : ∀ n ∈ whiteNumbers, reaches upperRuns n = false := by decide +kernel
      simpa using not_isWhite_shiftBy h hruns

theorem unspaced_lowerAfter {before s : List Char} (h : Unspaced s) :
    Unspaced (lowerAfter before s) := by
  induction s generalizing before with
  | nil => simp [lowerAfter]
  | cons c s ih =>
    obtain ⟨hc, hs⟩ := unspaced_cons.mp h
    simp only [lowerAfter, unspaced_append]
    refine ⟨?_, ih hs⟩
    split
    · split <;> decide
    · exact unspaced_lowerChar hc

/-- Lower case adds no white space. -/
theorem Unspaced.lower {s : List Char} (h : Unspaced s) : Unspaced (lower s) :=
  unspaced_lowerAfter h

/-- Upper case begins with some character that is no `i`. -/
theorem head?_upperChar (c : Char) : (upperChar c).head?.any (· != 'i') := by
  unfold upperChar
  split
  · next hbasic =>
    exact forall_basic (fun c => [c.toUpper].head?.any (· != 'i')) (by decide +kernel) hbasic
  · next hbasic =>
    split
    · next numbers hlookup =>
      have hall : ∀ entry ∈ upperSpecial, (entry.2.map Char.ofNat).head?.any (· != 'i') := by
        decide +kernel
      obtain ⟨before, after, hsplit, -⟩ := List.lookup_eq_some_iff.mp hlookup
      exact hall (c.toNat, numbers) (by simp [hsplit])
    · suffices hne : shiftBy upperRuns c ≠ 'i' by simpa using hne
      intro hi
      rcases shiftBy_cases upperRuns c with hsame | hzero | hreach
      · rw [hi] at hsame
        exact hbasic (hsame ▸ by decide)
      · rw [hi] at hzero
        exact absurd hzero (by decide)
      · rw [hi] at hreach
        exact absurd hreach (by decide +kernel)

theorem shiftBy_ne_underscore {runs : List CaseRun} {c : Char} (h : c ≠ '_')
    (hruns : reaches runs '_'.toNat = false) : shiftBy runs c ≠ '_' := by
  intro hunderscore
  rcases shiftBy_cases runs c with hsame | hzero | hreach
  · exact h (hsame.symm.trans hunderscore)
  · rw [hunderscore] at hzero
    exact absurd hzero (by decide)
  · rw [hunderscore, hruns] at hreach
    cases hreach

/-- No character but an underscore has one in upper case. -/
theorem underscore_not_mem_upperChar {c : Char} (h : c ≠ '_') : '_' ∉ upperChar c := by
  unfold upperChar
  split
  · next hbasic =>
    exact forall_basic (fun c => c ≠ '_' → '_' ∉ [c.toUpper]) (by decide +kernel) hbasic h
  · split
    · next numbers hlookup =>
      have hall : ∀ entry ∈ upperSpecial, '_' ∉ entry.2.map Char.ofNat := by decide +kernel
      obtain ⟨before, after, hsplit, -⟩ := List.lookup_eq_some_iff.mp hlookup
      exact hall (c.toNat, numbers) (by simp [hsplit])
    · rw [List.mem_singleton]
      exact (shiftBy_ne_underscore h (by decide +kernel)).symm

theorem underscore_not_mem_lowerChar {c : Char} (h : c ≠ '_') : '_' ∉ lowerChar c := by
  unfold lowerChar
  split
  · next hbasic =>
    exact forall_basic (fun c => c ≠ '_' → '_' ∉ [c.toLower]) (by decide +kernel) hbasic h
  · split
    · decide
    · rw [List.mem_singleton]
      exact (shiftBy_ne_underscore h (by decide +kernel)).symm

theorem underscore_not_mem_lowerAfter {before s : List Char} (h : '_' ∉ s) :
    '_' ∉ lowerAfter before s := by
  induction s generalizing before with
  | nil => simp [lowerAfter]
  | cons c s ih =>
    rw [List.mem_cons, not_or] at h
    rw [lowerAfter, List.mem_append, not_or]
    refine ⟨?_, ih h.2⟩
    split
    · split <;> decide
    · exact underscore_not_mem_lowerChar (Ne.symm h.1)

end RowTypes.Text
