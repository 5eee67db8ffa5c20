import RowTypes.Json.Reader
import RowTypes.Toml.Value

/-!
Numbers and dates of TOML. They are only recognised; what they stand for matters as far as a number
may be too large and a date may not exist.
-/

namespace RowTypes.Toml

open Json (digitsValue)

/-- Digits in groups that single underscores part, and what follows them. -/
def readGroups (isDigit : Char → Bool) : List Char → Option (List Char × List Char)
  | [] => none
  | [c] => if isDigit c then some ([c], []) else none
  | c :: '_' :: r =>
    if isDigit c then (readGroups isDigit r).map fun (digits, rest) => (c :: digits, rest) else none
  | c :: d :: r =>
    if !isDigit c then none
    else if isDigit d then
      (readGroups isDigit (d :: r)).map fun (digits, rest) => (c :: digits, rest)
    else some ([c], d :: r)

/-- Read a sign, if there is one, and say whether it is a minus. -/
def readSign : List Char → Bool × List Char
  | '-' :: r => (true, r)
  | '+' :: r => (false, r)
  | s => (false, s)

/-- Read the digits of a whole number: a zero, or digits that do not begin with a zero. -/
def readWhole : List Char → Option (List Char × List Char)
  | '0' :: r => some (['0'], r)
  | s => readGroups Char.isDigit s

/-- The number that digits in a base spell, if it fits 63 bits. -/
def baseFits (base : Nat) (digits : List Char) : Bool :=
  digits.foldl (fun n c => n * base + (Json.hexValue? c).getD 0) 0 < Nat.pow 2 63

/-- Read a number in a base other than ten, after its two characters for the base. -/
def readBased (base : Nat) (s : List Char) : Option (List Char) :=
  match readGroups (fun c => (Json.hexValue? c).any (· < base)) s with
  | some (digits, rest) => if baseFits base digits then some rest else none
  | none => none

def readInteger : List Char → Option (List Char)
  | '0' :: 'x' :: r => readBased 16 r
  | '0' :: 'o' :: r => readBased 8 r
  | '0' :: 'b' :: r => readBased 2 r
  | s =>
    let (negative, s) := readSign s
    match readWhole s with
    | some (digits, rest) =>
      if digitsValue digits < Nat.pow 2 63 + (if negative then 1 else 0) then some rest else none
    | none => none

def readExponent : List Char → Option (Int × List Char)
  | c :: r =>
    if c = 'e' ∨ c = 'E' then
      let (negative, r) := readSign r
      (readGroups Char.isDigit r).map fun (digits, rest) =>
        (if negative then -(digitsValue digits : Int) else digitsValue digits, rest)
    else none
  | [] => none

/-- A positive number must be finite in double precision. -/
def floatFits (negative : Bool) (digits : List Char) (exponent : Int) : Bool :=
  negative || JsonNumber.fits (digitsValue digits) exponent

/-- Read a number with a fraction, an exponent or both. -/
def readDecimal (s : List Char) : Option (List Char) :=
  let (negative, s) := readSign s
  match readWhole s with
  | none => none
  | some (whole, '.' :: r) =>
    match readGroups Char.isDigit r with
    | none => none
    | some (fraction, rest) =>
      let (exponent, rest) := (readExponent rest).getD (0, rest)
      if floatFits negative (whole ++ fraction) (exponent - fraction.length) then some rest else none
  | some (whole, r) =>
    match readExponent r with
    | some (exponent, rest) => if floatFits negative whole exponent then some rest else none
    | none => none

/-- Read infinity or the number that is none. -/
def readSpecial (s : List Char) : Option (List Char) :=
  match (readSign s).2 with
  | 'i' :: 'n' :: 'f' :: r => some r
  | 'n' :: 'a' :: 'n' :: r => some r
  | _ => none

def readFixed (count : Nat) (s : List Char) : Option (Nat × List Char) :=
  let digits := s.take count
  if digits.length = count ∧ digits.all Char.isDigit then some (digitsValue digits, s.drop count)
  else none

/-- Read two digits, for a number up to a greatest one. -/
def readUpTo (greatest : Nat) (s : List Char) : Option (List Char) :=
  match readFixed 2 s with
  | some (n, rest) => if n ≤ greatest then some rest else none
  | none => none

/-- Read one character. -/
def readChar (c : Char) : List Char → Option (List Char)
  | d :: r => if d = c then some r else none
  | [] => none

def isLeapYear (year : Nat) : Bool :=
  year % 4 == 0 && (year % 100 != 0 || year % 400 == 0)

def daysIn (year month : Nat) : Nat :=
  if month = 2 then (if isLeapYear year then 29 else 28)
  else if month = 4 ∨ month = 6 ∨ month = 9 ∨ month = 11 then 30
  else 31

/-- Read a date that exists. -/
def readDate (s : List Char) : Option (List Char) := do
  let (year, s) ← readFixed 4 s
  let (month, s) ← readFixed 2 (← readChar '-' s)
  let (day, s) ← readFixed 2 (← readChar '-' s)
  if 1 ≤ month ∧ month ≤ 12 ∧ 1 ≤ day ∧ day ≤ daysIn year month then some s else none

/-- Drop a fraction of a second, if there is one. -/
def skipFraction : List Char → List Char
  | '.' :: r =>
    match r.span Char.isDigit with
    | ([], _) => '.' :: r
    | (_, rest) => rest
  | s => s

def readTime (s : List Char) : Option (List Char) := do
  let s ← readChar ':' (← readUpTo 23 s)
  let s ← readChar ':' (← readUpTo 59 s)
  return skipFraction (← readUpTo 60 s)

/-- Read an offset of hours and minutes, after its sign. -/
def readOffset (s : List Char) : Option (List Char) := do
  readUpTo 59 (← readChar ':' (← readUpTo 23 s))

/-- Drop an offset, if there is one. -/
def skipOffset : List Char → List Char
  | c :: r =>
    if c = 'Z' ∨ c = 'z' then r
    else if c = '+' ∨ c = '-' then (readOffset r).getD (c :: r)
    else c :: r
  | [] => []

/-- Drop a time after a date, if there is one. -/
def skipTime : List Char → List Char
  | c :: r =>
    if c = 'T' ∨ c = 't' ∨ c = ' ' then
      match readTime r with
      | some rest => skipOffset rest
      | none => c :: r
    else c :: r
  | [] => []

def readDateTime (s : List Char) : Option (List Char) :=
  match readDate s with
  | some rest => some (skipTime rest)
  | none => readTime s

def readScalar (s : List Char) : Option (Toml × List Char) :=
  ((readDateTime s).map fun rest => (.scalar .dateTime, rest)) <|>
  (((readDecimal s) <|> (readSpecial s)).map fun rest => (.scalar .float, rest)) <|>
  ((readInteger s).map fun rest => (.scalar .integer, rest))

end RowTypes.Toml
