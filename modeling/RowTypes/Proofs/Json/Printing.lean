import Mathlib.Data.List.DropRight
import Mathlib.Data.List.TakeDrop
import RowTypes.Json.Printer
import RowTypes.Json.Reader

/-!
Printed values are read again. A text, an integer and an array or object of such values has one printed
form with a line for each item, and the reader gives back the value with what stands behind it.

What is proved:
  1. `readString_quote`: a quoted text is read as the text, whatever characters it has.
  2. `readNumber_toDigits`: the digits of an integer are read as the integer.
  3. `readValue_pretty`, `parse?_pretty`: a printed value is read as the value.
-/

namespace RowTypes.Json

variable {s rest : List Char} {c : Char} {depth fuel n : Nat}

/-! ## Texts -/

theorem hexNumber?_hexDigit : ∀ n < 32,
    hexNumber? '0' '0' (hexDigit (n / 16)) (hexDigit (n % 16)) = some n := by
  decide

theorem readText_short {e : Char} (hu : e ≠ 'u') (he : shortEscape? e = some c) (s : List Char) :
    readText none ('\\' :: e :: s) =
      (readText none s).map fun (chars, rest) => (chars.map (c :: ·), rest) := by
  rw [readText]
  · cases readText none s <;> simp [he]
  · simp_all

theorem readText_control (hc : c.toNat < 32) (s : List Char) :
    readText none ('\\' :: 'u' :: '0' :: '0' :: hexDigit (c.toNat / 16) :: hexDigit (c.toNat % 16) ::
      s) = (readText none s).map fun (chars, rest) => (chars.map (c :: ·), rest) := by
  have hhigh : ¬(0xD800 ≤ c.toNat ∧ c.toNat ≤ 0xDBFF) := by omega
  have hhalf : ¬(0xD800 ≤ c.toNat ∧ c.toNat ≤ 0xDFFF) := by omega
  rw [readText]
  cases readText none s <;>
    simp [hexNumber?_hexDigit _ hc, hhigh, hhalf, consUnit, Char.ofNat_toNat]

theorem readText_plain (hquote : c ≠ '"') (hback : c ≠ '\\') (hc : ¬c.toNat < 32) (s : List Char) :
    readText none (c :: s) =
      (readText none s).map fun (chars, rest) => (chars.map (c :: ·), rest) := by
  rw [readText]
  · cases readText none s <;> simp [hc]
  all_goals simp_all

theorem readText_escapeChar (c : Char) (s : List Char) :
    readText none (escapeChar c ++ s) =
      (readText none s).map fun (chars, rest) => (chars.map (c :: ·), rest) := by
  unfold escapeChar
  split
  · next h => subst h; exact readText_short (by decide) rfl s
  split
  · next h => subst h; exact readText_short (by decide) rfl s
  split
  · next h => subst h; exact readText_short (by decide) rfl s
  split
  · next h => subst h; exact readText_short (by decide) rfl s
  split
  · next h => subst h; exact readText_short (by decide) rfl s
  split
  · next h => subst h; exact readText_short (by decide) rfl s
  split
  · next h => subst h; exact readText_short (by decide) rfl s
  split
  · next hc => exact readText_control hc s
  · next hquote hback _ _ _ _ _ hc => exact readText_plain hquote hback hc s

theorem readText_quoted (s rest : List Char) :
    readText none (s.flatMap escapeChar ++ '"' :: rest) = some (some s, rest) := by
  induction s with
  | nil => rfl
  | cons c s ih =>
    rw [List.flatMap_cons, List.append_assoc, readText_escapeChar, ih]
    rfl

/-- A quoted text is read as the text. -/
theorem readString_quote (s : String) (rest : List Char) :
    readString (s.toList.flatMap escapeChar ++ '"' :: rest) = some (some s, rest) := by
  simp [readString, readText_quoted]

/-! ## Numbers -/

/-- What may stand behind a value in a printed text: nothing, the next item, or a closing line. -/
def Closes (rest : List Char) : Prop :=
  ∀ c ∈ rest.head?, c = ',' ∨ c = '\n'

theorem Closes.not_isDigit (h : Closes rest) : ∀ c ∈ rest.head?, c.isDigit = false := by
  intro c hc
  rcases h c hc with rfl | rfl <;> decide

theorem digitsValue_toDigits (n : Nat) : digitsValue (Nat.toDigits 10 n) = n := by
  have hvalue := @Nat.ofDigitChars_ten_toDigits n
  rw [Nat.ofDigitChars_eq_foldl] at hvalue
  simpa only [digitsValue, Nat.mul_comm] using hvalue

/-- The digits of a number begin with a zero only if there is no other. -/
theorem eq_nil_of_toDigits_eq (h : Nat.toDigits 10 n = '0' :: rest) : rest = [] := by
  have hzero : ∀ n, (Nat.toDigits 10 n).head? = some '0' → n = 0 := by
    intro n
    induction n using Nat.strongRecOn with
    | ind n ih =>
      rw [Nat.toDigits_eq_if (by decide)]
      split
      · simp
      · next hn =>
        intro hhead
        have hfront : (Nat.toDigits 10 (n / 10)).head? = some '0' := by
          cases hdigits : Nat.toDigits 10 (n / 10) with
          | nil => cases Nat.toDigits_ne_nil hdigits
          | cons d digits => simpa [hdigits] using hhead
        have := ih (n / 10) (by omega) hfront
        omega
  obtain rfl := hzero n (by rw [h]; rfl)
  simpa using h.symm

theorem exists_toDigits_eq_cons (n : Nat) :
    ∃ c digits, Nat.toDigits 10 n = c :: digits ∧ c.isDigit := by
  cases h : Nat.toDigits 10 n with
  | nil => cases Nat.toDigits_ne_nil h
  | cons c digits =>
    exact ⟨c, digits, rfl,
      Nat.isDigit_of_mem_toDigits (b := 10) (n := n) (by decide) (by decide) (by simp [h])⟩

theorem span_toDigits (h : Closes rest) (n : Nat) :
    (Nat.toDigits 10 n ++ rest).span Char.isDigit = (Nat.toDigits 10 n, rest) := by
  have hdigits : ∀ c ∈ Nat.toDigits 10 n, c.isDigit := fun c hc =>
    Nat.isDigit_of_mem_toDigits (by decide) (by decide) hc
  rw [List.span_eq_takeWhile_dropWhile, List.takeWhile_append_of_pos hdigits,
    List.dropWhile_append_of_pos hdigits]
  cases rest with
  | nil => simp
  | cons c rest => simp [h.not_isDigit c rfl]

theorem readWhole_toDigits (h : Closes rest) (n : Nat) :
    readWhole (Nat.toDigits 10 n ++ rest) = some (Nat.toDigits 10 n, rest) := by
  have hdigits : readDigits (Nat.toDigits 10 n ++ rest) = some (Nat.toDigits 10 n, rest) := by
    unfold readDigits
    rw [span_toDigits h]
    split
    · next hnil => exact absurd (Prod.mk.inj hnil).1 Nat.toDigits_ne_nil
    · next heq =>
      obtain ⟨rfl, rfl⟩ := Prod.mk.inj heq
      rfl
  unfold readWhole
  rw [hdigits]
  split
  · next heq =>
    obtain ⟨hdigits, -⟩ := Prod.mk.inj (Option.some.inj heq)
    cases eq_nil_of_toDigits_eq hdigits
  · rfl

theorem readFraction_of_closes (h : Closes rest) : readFraction rest = some ([], rest) := by
  unfold readFraction
  split
  · next r => simpa using h '.' rfl
  · rfl

theorem readExponent_of_closes (h : Closes rest) : readExponent rest = some (none, rest) := by
  cases rest with
  | nil => rfl
  | cons c r =>
    have hc : (c == 'e' || c == 'E') = false := by
      rcases h c rfl with rfl | rfl <;> decide
    simp [readExponent, hc]

/-- The digits of an integer are read as the integer; there is no negative zero. -/
theorem readNumber_toDigits (negative : Bool) (h : Closes rest) (hn : negative = true → n ≠ 0) :
    readNumber negative (Nat.toDigits 10 n ++ rest) =
      some (.number (.integer (if negative then -n else n)), rest) := by
  have hnumber : numberOf negative (Nat.toDigits 10 n) [] none =
      .integer (if negative then -n else n) := by
    have hkept : (negative && n == 0) = false := by
      cases negative
      · rfl
      · simpa using hn rfl
    simp [numberOf, digitsValue_toDigits, hkept]
  simp [readNumber, readWhole_toDigits h, readFraction_of_closes h, readExponent_of_closes h, hnumber]

/-! ## Values -/

/-- The values that are printed without loss: integers and no other numbers, and no text or key that
cannot be read. -/
inductive Plain : Json → Prop where
  | null : Plain .null
  | bool (b : Bool) : Plain (.bool b)
  | int (i : Int) : Plain (int i)
  | str (s : String) : Plain (str s)
  | array {items : List Json} (h : ∀ item ∈ items, Plain item) : Plain (.array items)
  | object {members : List (String × Json)} (h : ∀ member ∈ members, Plain member.2) :
      Plain (ofMembers members)

theorem skipSpace_cons (hc : isSpace c = false) (s : List Char) : skipSpace (c :: s) = c :: s := by
  simp [skipSpace, hc]

theorem skipSpace_newLine (depth : Nat) (s : List Char) :
    skipSpace (newLine depth ++ s) = skipSpace s := by
  have hspaces : ∀ n, (List.replicate n ' ' ++ s).dropWhile isSpace = s.dropWhile isSpace := by
    intro n
    induction n with
    | zero => rfl
    | succ n ih => rw [List.replicate_succ, List.cons_append, List.dropWhile_cons]; exact ih
  exact hspaces (2 * depth)

theorem readValue_newLine (fuel depth : Nat) (s : List Char) :
    readValue fuel (newLine depth ++ s) = readValue fuel s := by
  cases fuel with
  | zero => rfl
  | succ fuel => simp only [readValue, skipSpace_newLine]

theorem readValue_space (fuel : Nat) (s : List Char) :
    readValue fuel (' ' :: s) = readValue fuel s := by
  cases fuel with
  | zero => rfl
  | succ fuel => rfl

theorem readItems_newLine (fuel depth : Nat) (s : List Char) :
    readItems fuel (newLine depth ++ s) = readItems fuel s := by
  cases fuel with
  | zero => rfl
  | succ fuel => simp only [readItems, readValue_newLine]

theorem readItems_skipSpace (fuel : Nat) (s : List Char) :
    readItems fuel (skipSpace s) = readItems fuel s := by
  have hvalue : ∀ fuel, readValue fuel (skipSpace s) = readValue fuel s := by
    rintro (_ | fuel)
    · rfl
    · simp only [readValue, skipSpace, List.dropWhile_idempotent]
  cases fuel with
  | zero => rfl
  | succ fuel => simp only [readItems, hvalue]

theorem readMembers_skipSpace (fuel : Nat) (s : List Char) :
    readMembers fuel (skipSpace s) = readMembers fuel s := by
  cases fuel with
  | zero => rfl
  | succ fuel => simp only [readMembers, skipSpace, List.dropWhile_idempotent]

theorem isSpace_of_isDigit (hc : c.isDigit) : isSpace c = false := by
  by_contra h
  simp only [isSpace, Bool.not_eq_false, Bool.or_eq_true, beq_iff_eq] at h
  rcases h with ((rfl | rfl) | rfl) | rfl <;> exact absurd hc (by decide)

theorem readValue_digit (hc : c.isDigit) (fuel : Nat) (s : List Char) :
    readValue (fuel + 1) (c :: s) = readNumber false (c :: s) := by
  rw [readValue, skipSpace_cons (isSpace_of_isDigit hc)]
  split
  · next heq => cases heq; exact absurd hc (by decide)
  · next heq => cases heq; exact absurd hc (by decide)
  · next heq => cases heq; exact absurd hc (by decide)
  · next heq => cases heq; exact absurd hc (by decide)
  · next heq => cases heq; exact if_pos hc
  · next heq => cases heq

/-- The value is read where it is printed, with fuel for each character. -/
def Reads (depth : Nat) (j : Json) : Prop :=
  ∀ fuel rest, Closes rest → (prettyChars depth j).length ≤ fuel →
    readValue fuel (prettyChars depth j ++ rest) = some (j, rest)

theorem exists_prettyChars_eq_cons (depth : Nat) {j : Json} (hj : Plain j) :
    ∃ c s, prettyChars depth j = c :: s ∧ isSpace c = false ∧ c ≠ ']' := by
  cases hj with
  | null => exact ⟨'n', _, rfl, by decide, by decide⟩
  | bool b => cases b <;> exact ⟨_, _, rfl, by decide, by decide⟩
  | int i =>
    rw [int, prettyChars, numberChars, integerChars]
    split
    · exact ⟨'-', _, rfl, by decide, by decide⟩
    · obtain ⟨c, digits, hdigits, hc⟩ := exists_toDigits_eq_cons i.natAbs
      refine ⟨c, digits, hdigits, isSpace_of_isDigit hc, ?_⟩
      rintro rfl
      exact absurd hc (by decide)
  | str s => exact ⟨'"', _, rfl, by decide, by decide⟩
  | array h =>
    rw [prettyChars, enclose]
    split <;> exact ⟨'[', _, rfl, by decide, by decide⟩
  | object h =>
    rw [ofMembers, prettyChars, enclose]
    split <;> exact ⟨'\x7b', _, rfl, by decide, by decide⟩

theorem reads_int (depth : Nat) (i : Int) : Reads depth (int i) := by
  intro fuel rest hrest hfuel
  obtain ⟨fuel, rfl⟩ : ∃ k, fuel = k + 1 := by
    obtain ⟨c, s, hs, -⟩ := exists_prettyChars_eq_cons depth (.int i)
    exact Nat.exists_eq_add_one.2 (by rw [hs] at hfuel; simp at hfuel; omega)
  rw [int, prettyChars, numberChars, integerChars]
  split
  · next hi =>
    have hnumber := readNumber_toDigits (n := i.natAbs) true hrest (by omega)
    rw [List.cons_append, readValue, skipSpace_cons (by decide)]
    have hneg : -(i.natAbs : Int) = i := by omega
    simp only [if_true, hneg] at hnumber
    simpa using hnumber
  · next hi =>
    have hnumber := readNumber_toDigits (n := i.natAbs) false hrest (by simp)
    obtain ⟨c, digits, hdigits, hc⟩ := exists_toDigits_eq_cons i.natAbs
    rw [hdigits] at hnumber ⊢
    rw [List.cons_append, readValue_digit hc, ← List.cons_append, hnumber]
    simp [show (i.natAbs : Int) = i by omega]

/-! ## Arrays and objects -/

section Bodies

variable {item : Json} {key : Option String} {r body : List Char}

theorem readItems_last (hitem : readValue fuel s = some (item, r)) (hr : skipSpace r = ']' :: rest) :
    readItems (fuel + 1) s = some ([item], rest) := by
  simp [readItems, hitem, hr]

theorem readItems_next (hitem : readValue fuel s = some (item, r)) (hr : skipSpace r = ',' :: body) :
    readItems (fuel + 1) s =
      (readItems fuel body).map fun (items, rest) => (item :: items, rest) := by
  simp [readItems, hitem, hr]

theorem readValue_array (hr : skipSpace r = c :: s) (hc : c ≠ ']') :
    readValue (fuel + 1) ('[' :: r) =
      (readItems fuel r).map fun (items, rest) => (.array items, rest) := by
  rw [← readItems_skipSpace fuel r, hr, readValue, skipSpace_cons (by decide)]
  simp only [hr]
  split
  · next heq => exact absurd (List.cons.inj heq).1 hc
  · rfl

theorem readValue_object (hr : skipSpace r = c :: s) (hc : c ≠ '\x7d') :
    readValue (fuel + 1) ('\x7b' :: r) =
      (readMembers fuel r).map fun (members, rest) => (.object members, rest) := by
  rw [← readMembers_skipSpace fuel r, hr, readValue, skipSpace_cons (by decide)]
  simp only [hr]
  split
  · next heq => exact absurd (List.cons.inj heq).1 hc
  · rfl

theorem readMembers_last (hs : skipSpace s = '"' :: r) {r' r'' : List Char}
    (hkey : readString r = some (key, ':' :: r')) (hitem : readValue fuel r' = some (item, r''))
    (hr : skipSpace r'' = '\x7d' :: rest) :
    readMembers (fuel + 1) s = some ([(key, item)], rest) := by
  simp [readMembers, hs, hkey, skipSpace_cons (show isSpace ':' = false by decide), hitem, hr]

theorem readMembers_next (hs : skipSpace s = '"' :: r) {r' r'' : List Char}
    (hkey : readString r = some (key, ':' :: r')) (hitem : readValue fuel r' = some (item, r''))
    (hr : skipSpace r'' = ',' :: body) :
    readMembers (fuel + 1) s =
      (readMembers fuel body).map fun (members, rest) => ((key, item) :: members, rest) := by
  simp [readMembers, hs, hkey, skipSpace_cons (show isSpace ':' = false by decide), hitem, hr]

end Bodies

theorem prettyItems_cons_cons (depth : Nat) (item next : Json) (items : List Json) :
    prettyItems depth (item :: next :: items) =
      newLine depth ++ prettyChars depth item ++ ',' :: prettyItems depth (next :: items) := by
  rw [prettyItems]
  simp

theorem closes_newLine (depth : Nat) (s : List Char) : Closes (newLine depth ++ s) := by
  rintro c ⟨⟩
  exact .inr rfl

theorem closes_comma (s : List Char) : Closes (',' :: s) := by
  rintro c ⟨⟩
  exact .inl rfl

theorem readItems_pretty (outer : Nat) (rest : List Char) (item : Json) (items : List Json)
    (hitems : ∀ j ∈ item :: items, Reads depth j) (fuel : Nat)
    (hfuel : (prettyItems depth (item :: items)).length ≤ fuel) :
    readItems fuel (prettyItems depth (item :: items) ++ (newLine outer ++ ']' :: rest)) =
      some (item :: items, rest) := by
  -- Each item takes one from the fuel and prints more than one character.
  induction items generalizing item fuel with
  | nil =>
    rw [prettyItems] at hfuel ⊢
    obtain ⟨fuel, rfl⟩ : ∃ k, fuel = k + 1 :=
      Nat.exists_eq_add_one.2 (by simp [newLine] at hfuel; omega)
    rw [List.append_assoc, readItems_newLine]
    refine readItems_last (hitems item (by simp) fuel _ (closes_newLine _ _) ?_) ?_
    · simp [newLine] at hfuel; omega
    · rw [skipSpace_newLine, skipSpace_cons (by decide)]
  | cons next items ih =>
    rw [prettyItems_cons_cons] at hfuel ⊢
    obtain ⟨fuel, rfl⟩ : ∃ k, fuel = k + 1 :=
      Nat.exists_eq_add_one.2 (by simp [newLine] at hfuel; omega)
    simp only [List.append_assoc, List.cons_append, readItems_newLine]
    rw [readItems_next (hitems item (by simp) fuel _ (closes_comma _) ?_)
      (skipSpace_cons (by decide) _), ih next (fun j hj => hitems j (by simp [hj])) fuel ?_]
    · rfl
    all_goals simp [newLine] at hfuel; omega

/-- The members of an object whose keys are texts. -/
def keyed (members : List (String × Json)) : List (Option String × Json) :=
  members.map fun (key, value) => (some key, value)

theorem prettyMembers_cons_cons (depth : Nat) (member next : String × Json)
    (members : List (String × Json)) :
    prettyMembers depth (keyed (member :: next :: members)) =
      newLine depth ++ '"' :: (member.1.toList.flatMap escapeChar ++ '"' :: ':' :: ' ' ::
        (prettyChars depth member.2 ++ ',' :: prettyMembers depth (keyed (next :: members)))) := by
  simp [keyed, prettyMembers, textChars, quote]

theorem prettyMembers_singleton (depth : Nat) (member : String × Json) :
    prettyMembers depth (keyed [member]) =
      newLine depth ++ '"' :: (member.1.toList.flatMap escapeChar ++ '"' :: ':' :: ' ' ::
        prettyChars depth member.2) := by
  simp [keyed, prettyMembers, textChars, quote]

theorem skipSpace_newLine_quote (depth : Nat) (s : List Char) :
    skipSpace (newLine depth ++ '"' :: s) = '"' :: s := by
  rw [skipSpace_newLine, skipSpace_cons (by decide)]

theorem readMembers_pretty (outer : Nat) (rest : List Char) (member : String × Json) (members : List (String × Json))
    (hmembers : ∀ m ∈ member :: members, Reads depth m.2) (fuel : Nat)
    (hfuel : (prettyMembers depth (keyed (member :: members))).length ≤ fuel) :
    readMembers fuel (prettyMembers depth (keyed (member :: members)) ++
        (newLine outer ++ '\x7d' :: rest)) =
      some (keyed (member :: members), rest) := by
  induction members generalizing member fuel with
  | nil =>
    rw [prettyMembers_singleton] at hfuel ⊢
    obtain ⟨fuel, rfl⟩ : ∃ k, fuel = k + 1 :=
      Nat.exists_eq_add_one.2 (by simp [newLine] at hfuel; omega)
    simp only [List.append_assoc, List.cons_append]
    refine readMembers_last (skipSpace_newLine_quote _ _) (readString_quote _ _)
      ((readValue_space _ _).trans
        (hmembers member (by simp) fuel _ (closes_newLine _ _) ?_)) ?_
    · simp [newLine] at hfuel; omega
    · rw [skipSpace_newLine, skipSpace_cons (by decide)]
  | cons next members ih =>
    rw [prettyMembers_cons_cons] at hfuel ⊢
    obtain ⟨fuel, rfl⟩ : ∃ k, fuel = k + 1 :=
      Nat.exists_eq_add_one.2 (by simp [newLine] at hfuel; omega)
    simp only [List.append_assoc, List.cons_append]
    rw [readMembers_next (skipSpace_newLine_quote _ _) (readString_quote _ _)
      ((readValue_space _ _).trans (hmembers member (by simp) fuel _ (closes_comma _) ?_))
      (skipSpace_cons (by decide) _), ih next (fun m hm => hmembers m (by simp [hm])) fuel ?_]
    · rfl
    all_goals simp [newLine] at hfuel; omega

theorem enclose_of_ne_nil {opening closing : Char} {lines : List Char} (h : lines ≠ []) :
    enclose opening closing depth lines = opening :: (lines ++ (newLine depth ++ [closing])) := by
  simp [enclose, h]

theorem reads_array {items : List Json} (hplain : ∀ item ∈ items, Plain item)
    (hitems : ∀ depth, ∀ item ∈ items, Reads depth item) (depth : Nat) :
    Reads depth (.array items) := by
  intro fuel rest hrest hfuel
  cases items with
  | nil =>
    cases fuel with
    | zero => simp [prettyChars, prettyItems, enclose] at hfuel
    | succ fuel => rfl
  | cons item items =>
    obtain ⟨after, hafter⟩ : ∃ after, prettyItems (depth + 1) (item :: items) =
        newLine (depth + 1) ++ (prettyChars (depth + 1) item ++ after) := by
      cases items with
      | nil => exact ⟨[], by simp [prettyItems]⟩
      | cons next items => exact ⟨_, by rw [prettyItems_cons_cons, List.append_assoc]⟩
    have hlines : prettyItems (depth + 1) (item :: items) ≠ [] := by
      simp [hafter, newLine]
    rw [prettyChars, enclose_of_ne_nil hlines] at hfuel ⊢
    cases fuel with
    | zero => simp at hfuel
    | succ fuel =>
      obtain ⟨c, s, hs, hspace, hc⟩ := exists_prettyChars_eq_cons (depth + 1) (hplain item (by simp))
      have hread := readItems_pretty depth rest item items (hitems (depth + 1))
        fuel (by simp at hfuel; omega)
      simp only [List.cons_append, List.append_assoc, List.nil_append]
      have hopen : skipSpace (prettyItems (depth + 1) (item :: items) ++
          (newLine depth ++ ']' :: rest)) = c :: (s ++ (after ++ (newLine depth ++ ']' :: rest))) := by
        rw [hafter, hs]
        simp only [List.append_assoc, skipSpace_newLine, List.cons_append, skipSpace_cons hspace]
      rw [readValue_array hopen hc, hread]
      rfl

theorem reads_object {members : List (String × Json)}
    (hmembers : ∀ depth, ∀ member ∈ members, Reads depth member.2) (depth : Nat) :
    Reads depth (ofMembers members) := by
  intro fuel rest hrest hfuel
  change (prettyChars depth (.object (keyed members))).length ≤ fuel at hfuel
  change readValue fuel (prettyChars depth (.object (keyed members)) ++ rest) =
    some (.object (keyed members), rest)
  cases members with
  | nil =>
    cases fuel with
    | zero => simp [keyed, prettyChars, prettyMembers, enclose] at hfuel
    | succ fuel => rfl
  | cons member members =>
    obtain ⟨after, hafter⟩ : ∃ after, prettyMembers (depth + 1) (keyed (member :: members)) =
        newLine (depth + 1) ++ '"' :: after := by
      cases members with
      | nil => exact ⟨_, prettyMembers_singleton _ _⟩
      | cons next members => exact ⟨_, prettyMembers_cons_cons _ _ _ _⟩
    have hlines : prettyMembers (depth + 1) (keyed (member :: members)) ≠ [] := by
      simp [hafter]
    rw [prettyChars, enclose_of_ne_nil hlines] at hfuel ⊢
    cases fuel with
    | zero => simp at hfuel
    | succ fuel =>
      have hread := readMembers_pretty depth rest member members
        (hmembers (depth + 1)) fuel (by simp at hfuel; omega)
      simp only [List.cons_append, List.append_assoc, List.nil_append]
      have hopen : skipSpace (prettyMembers (depth + 1) (keyed (member :: members)) ++
          (newLine depth ++ '\x7d' :: rest)) = '"' :: (after ++ (newLine depth ++ '\x7d' :: rest)) := by
        rw [hafter, List.append_assoc]
        exact skipSpace_newLine_quote _ _
      rw [readValue_object hopen (by decide), hread]
      rfl

/-- A plain value is read where it is printed. -/
theorem readValue_pretty {j : Json} (hj : Plain j) (depth : Nat) : Reads depth j := by
  induction hj generalizing depth with
  | null =>
    intro fuel rest _ hfuel
    cases fuel with
    | zero => simp [prettyChars] at hfuel
    | succ fuel => rfl
  | bool b =>
    intro fuel rest _ hfuel
    cases fuel with
    | zero => cases b <;> simp [prettyChars] at hfuel
    | succ fuel => cases b <;> rfl
  | int i => exact reads_int depth i
  | str s =>
    intro fuel rest _ hfuel
    cases fuel with
    | zero => simp [str, prettyChars, textChars, quote] at hfuel
    | succ fuel => simp [str, prettyChars, textChars, quote, readValue,
        skipSpace_cons (show isSpace '"' = false by decide), readString_quote]
  | array h ih => exact reads_array h (fun depth item hitem => ih item hitem depth) depth
  | object h ih => exact reads_object (fun depth member hm => ih member hm depth) depth

/-- A printed value is read as the value. -/
theorem parse?_pretty {j : Json} (hj : Plain j) : parse? j.pretty = some j := by
  have hread := readValue_pretty hj 0 (2 * j.pretty.length + 1) [] (by simp [Closes])
    (by simp [pretty]; omega)
  rw [List.append_nil] at hread
  have htext : j.pretty.toList = prettyChars 0 j := by simp [pretty]
  rw [parse?, htext, hread]
  rfl

end RowTypes.Json
