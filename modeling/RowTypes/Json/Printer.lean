import RowTypes.Json.Value

/-!
JSON texts of values, without any white space or with one member a line. Only quotes, backslashes
and control characters are escaped.
-/

namespace RowTypes

namespace Json

def hexDigit (n : Nat) : Char :=
  if n < 10 then Char.ofNat ('0'.toNat + n) else Char.ofNat ('a'.toNat + n - 10)

/-- A character inside a quoted text. -/
def escapeChar (c : Char) : List Char :=
  if c = '"' then ['\\', '"']
  else if c = '\\' then ['\\', '\\']
  else if c = '\n' then ['\\', 'n']
  else if c = '\r' then ['\\', 'r']
  else if c = '\t' then ['\\', 't']
  else if c = '\x08' then ['\\', 'b']
  else if c = '\x0c' then ['\\', 'f']
  else if c.toNat < 32 then
    ['\\', 'u', '0', '0', hexDigit (c.toNat / 16), hexDigit (c.toNat % 16)]
  else [c]

def quote (s : List Char) : List Char :=
  '"' :: (s.flatMap escapeChar ++ ['"'])

def integerChars (i : Int) : List Char :=
  if i < 0 then '-' :: Nat.toDigits 10 i.natAbs else Nat.toDigits 10 i.natAbs

def numberChars : JsonNumber → List Char
  | .integer value => integerChars value
  | .real negative digits exponent =>
    (if negative then ['-'] else []) ++ Nat.toDigits 10 digits ++ 'e' :: integerChars exponent

/-- A key or a text; one that cannot be read is printed as if it were empty. -/
def textChars (value : Option String) : List Char :=
  quote (value.getD "").toList

mutual

/-- The text of a value without white space. -/
def compactChars : Json → List Char
  | .null => "null".toList
  | .bool true => "true".toList
  | .bool false => "false".toList
  | .number value => numberChars value
  | .text value => textChars value
  | .array items => '[' :: (compactItems items ++ [']'])
  | .object members => '\x7b' :: (compactMembers members ++ ['\x7d'])

def compactItems : List Json → List Char
  | [] => []
  | [item] => compactChars item
  | item :: rest => compactChars item ++ ',' :: compactItems rest

def compactMembers : List (Option String × Json) → List Char
  | [] => []
  | [(key, value)] => textChars key ++ ':' :: compactChars value
  | (key, value) :: rest =>
    textChars key ++ ':' :: (compactChars value ++ ',' :: compactMembers rest)

end

/-- A line feed and the space before a line at some depth. -/
def newLine (depth : Nat) : List Char :=
  '\n' :: List.replicate (2 * depth) ' '

/-- Lines between brackets; without lines the brackets stand together. -/
def enclose (opening closing : Char) (depth : Nat) (lines : List Char) : List Char :=
  if lines.isEmpty then [opening, closing]
  else opening :: (lines ++ newLine depth ++ [closing])

mutual

/-- The text of a value that stands at some depth, with a line for each item and each member. -/
def prettyChars (depth : Nat) : Json → List Char
  | .null => "null".toList
  | .bool true => "true".toList
  | .bool false => "false".toList
  | .number value => numberChars value
  | .text value => textChars value
  | .array items => enclose '[' ']' depth (prettyItems (depth + 1) items)
  | .object members => enclose '\x7b' '\x7d' depth (prettyMembers (depth + 1) members)

def prettyItems (depth : Nat) : List Json → List Char
  | [] => []
  | [item] => newLine depth ++ prettyChars depth item
  | item :: rest => newLine depth ++ prettyChars depth item ++ ',' :: prettyItems depth rest

def prettyMembers (depth : Nat) : List (Option String × Json) → List Char
  | [] => []
  | [(key, value)] => newLine depth ++ textChars key ++ ':' :: ' ' :: prettyChars depth value
  | (key, value) :: rest =>
    newLine depth ++ textChars key ++ ':' :: ' ' :: (prettyChars depth value ++
      ',' :: prettyMembers depth rest)

end

/-- The text of a value on one line. -/
def compact (j : Json) : String :=
  String.ofList (compactChars j)

/-- The text of a value with a line for each item and each member. -/
def pretty (j : Json) : String :=
  String.ofList (prettyChars 0 j)

end Json

end RowTypes
