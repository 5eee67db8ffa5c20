import RowTypes.Json.Value

/-!
Reading JSON texts. Every function takes the characters that are left and gives back those that
follow what it has read, or nothing where the text is no JSON. Arrays and objects may stand inside
each other to any depth.
-/

namespace RowTypes

namespace Json

def isSpace (c : Char) : Bool :=
  c == ' ' || c == '\n' || c == '\t' || c == '\r'

def skipSpace (s : List Char) : List Char :=
  s.dropWhile isSpace

def hexValue? (c : Char) : Option Nat :=
  if c.isDigit then some (c.toNat - '0'.toNat)
  else if 'a' ≤ c ∧ c ≤ 'f' then some (c.toNat - 'a'.toNat + 10)
  else if 'A' ≤ c ∧ c ≤ 'F' then some (c.toNat - 'A'.toNat + 10)
  else none

def hexNumber? (a b c d : Char) : Option Nat := do
  return (((← hexValue? a) * 16 + (← hexValue? b)) * 16 + (← hexValue? c)) * 16 + (← hexValue? d)

/-- The character that an escape of one letter stands for. -/
def shortEscape? : Char → Option Char
  | '"' => some '"'
  | '\\' => some '\\'
  | '/' => some '/'
  | 'b' => some '\x08'
  | 'f' => some '\x0c'
  | 'n' => some '\n'
  | 'r' => some '\r'
  | 't' => some '\t'
  | _ => none

/-- The character of a pair of escapes, the first of which is in the upper half. -/
def pairChar (high low : Nat) : Char :=
  Char.ofNat (0x10000 + (high - 0xD800) * 0x400 + (low - 0xDC00))

/-- The text that a unit adds in front of a text; half of a pair makes it unreadable. -/
def consUnit (unit : Nat) (chars : Option (List Char)) : Option (List Char) :=
  if 0xD800 ≤ unit ∧ unit ≤ 0xDFFF then none else chars.map (Char.ofNat unit :: ·)

/-- Read the rest of a quoted text. `pending` is the upper half of a pair, if the last escape was
one. -/
def readText (pending : Option Nat) : List Char → Option (Option (List Char) × List Char)
  | [] => none
  | '"' :: r => some (if pending.isSome then none else some [], r)
  | '\\' :: 'u' :: a :: b :: c :: d :: r => do
    let unit ← hexNumber? a b c d
    match pending with
    | some high =>
      let (chars, rest) ← readText none r
      return (if 0xDC00 ≤ unit ∧ unit ≤ 0xDFFF then chars.map (pairChar high unit :: ·) else none,
        rest)
    | none =>
      if 0xD800 ≤ unit ∧ unit ≤ 0xDBFF then readText (some unit) r
      else
        let (chars, rest) ← readText none r
        return (consUnit unit chars, rest)
  | '\\' :: c :: r => do
    let char ← shortEscape? c
    let (chars, rest) ← readText none r
    return (if pending.isSome then none else chars.map (char :: ·), rest)
  | c :: r =>
    if c.toNat < 32 then none
    else do
      let (chars, rest) ← readText none r
      return (if pending.isSome then none else chars.map (c :: ·), rest)

def readString (s : List Char) : Option (Option String × List Char) :=
  (readText none s).map fun (chars, rest) => (chars.map String.ofList, rest)

def digitsValue (digits : List Char) : Nat :=
  digits.foldl (fun n c => n * 10 + (c.toNat - '0'.toNat)) 0

def readDigits (s : List Char) : Option (List Char × List Char) :=
  match s.span Char.isDigit with
  | ([], _) => none
  | (digits, rest) => some (digits, rest)

/-- Read the digits before a point: a zero, or digits that do not begin with a zero. -/
def readWhole (s : List Char) : Option (List Char × List Char) :=
  match readDigits s with
  | some ('0' :: _ :: _, _) => none
  | other => other

def readFraction : List Char → Option (List Char × List Char)
  | '.' :: r => readDigits r
  | s => some ([], s)

def readExponent (s : List Char) : Option (Option Int × List Char) :=
  match s with
  | c :: r =>
    if c == 'e' || c == 'E' then
      match r with
      | '-' :: r => (readDigits r).map fun (digits, rest) =>
          (some (-(digitsValue digits : Int)), rest)
      | '+' :: r => (readDigits r).map fun (digits, rest) => (some (digitsValue digits : Int), rest)
      | r => (readDigits r).map fun (digits, rest) => (some (digitsValue digits : Int), rest)
    else some (none, s)
  | [] => some (none, s)

/-- The number with these parts. Minus zero is no integer. -/
def numberOf (negative : Bool) (whole fraction : List Char) (exponent : Option Int) : JsonNumber :=
  let digits := digitsValue (whole ++ fraction)
  if fraction.isEmpty && exponent.isNone && !(negative && digits == 0) then
    .integer (if negative then -digits else digits)
  else .real negative digits (exponent.getD 0 - fraction.length)

/-- Read a number; its sign was read. -/
def readNumber (negative : Bool) (s : List Char) : Option (Json × List Char) := do
  let (whole, s) ← readWhole s
  let (fraction, s) ← readFraction s
  let (exponent, s) ← readExponent s
  return (.number (numberOf negative whole fraction exponent), s)

/-- Read a word and take it for a value. -/
def readWord (word : String) (value : Json) (s : List Char) : Option (Json × List Char) :=
  if word.toList.isPrefixOf s then some (value, s.drop word.length) else none

mutual

/-- Read a value; `fuel` bounds the number of values that are read one inside or after the other. -/
def readValue : Nat → List Char → Option (Json × List Char)
  | 0, _ => none
  | fuel + 1, s =>
    match skipSpace s with
    | '"' :: r => (readString r).map fun (chars, rest) => (.text chars, rest)
    | '[' :: r =>
      match skipSpace r with
      | ']' :: rest => some (.array [], rest)
      | r => (readItems fuel r).map fun (items, rest) => (.array items, rest)
    | '\x7b' :: r =>
      match skipSpace r with
      | '\x7d' :: rest => some (.object [], rest)
      | r => (readMembers fuel r).map fun (members, rest) => (.object members, rest)
    | '-' :: r => readNumber true r
    | c :: r =>
      if c.isDigit then readNumber false (c :: r)
      else readWord "null" .null (c :: r) <|> readWord "true" (.bool true) (c :: r) <|>
        readWord "false" (.bool false) (c :: r)
    | [] => none

def readItems : Nat → List Char → Option (List Json × List Char)
  | 0, _ => none
  | fuel + 1, s =>
    match readValue fuel s with
    | none => none
    | some (item, r) =>
      match skipSpace r with
      | ',' :: r => (readItems fuel r).map fun (items, rest) => (item :: items, rest)
      | ']' :: rest => some ([item], rest)
      | _ => none

def readMembers : Nat → List Char → Option (List (Option String × Json) × List Char)
  | 0, _ => none
  | fuel + 1, s =>
    match skipSpace s with
    | '"' :: r =>
      match readString r with
      | none => none
      | some (key, r) =>
        match skipSpace r with
        | ':' :: r =>
          match readValue fuel r with
          | none => none
          | some (value, r) =>
            match skipSpace r with
            | ',' :: r =>
              (readMembers fuel r).map fun (members, rest) => ((key, value) :: members, rest)
            | '\x7d' :: rest => some ([(key, value)], rest)
            | _ => none
        | _ => none
    | _ => none

end

/-- Read a text that holds one value and nothing else. -/
def parse? (s : String) : Option Json :=
  match readValue (2 * s.length + 1) s.toList with
  | some (value, rest) => if (skipSpace rest).isEmpty then some value else none
  | none => none

end Json

end RowTypes
