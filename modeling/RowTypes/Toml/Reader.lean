import RowTypes.Toml.Scalar
import RowTypes.Toml.Text

/-!
Reading TOML documents. Every function takes the characters that are left and gives back those that
follow what it has read, or nothing where the text is no TOML. Arrays and braces may be 79 deep, and
a dotted key may have 79 parts.
-/

namespace RowTypes.Toml

open TomlEntries (Assignment)

/-- The least depth that is too deep, for values and for keys. -/
def depthLimit : Nat := 80

def skipBlanks (s : List Char) : List Char :=
  s.dropWhile isBlank

def skipComment : List Char → List Char
  | '#' :: r => r.dropWhile isPlain
  | s => s

/-- Read the end of a line after a value or a header: blanks, a comment, and a line end or the end of
the text. -/
def readLineEnd (s : List Char) : Option (List Char) :=
  match skipComment (skipBlanks s) with
  | [] => some []
  | s => readNewline s

/-- Drop blanks, line ends and whole comments; `fuel` bounds the number of lines. -/
def skipLines : Nat → List Char → Option (List Char)
  | 0, s => some s
  | fuel + 1, s =>
    match skipBlanks s with
    | '#' :: r => (readNewline (skipComment ('#' :: r))).bind (skipLines fuel)
    | '\n' :: r => skipLines fuel r
    | '\r' :: r => (readNewline ('\r' :: r)).bind (skipLines fuel)
    | s => some s

/-- A character of a key without quotes. -/
def isKeyChar (c : Char) : Bool :=
  c.isAlphanum || c == '_' || c == '-'

def readKeyPart (s : List Char) : Option (String × List Char) :=
  match s with
  | '"' :: _ => readShortText s
  | '\'' :: _ => readShortText s
  | s =>
    match s.span isKeyChar with
    | ([], _) => none
    | (chars, rest) => some (String.ofList chars, rest)

/-- Read the parts of a dotted key, with blanks around them; `fuel` bounds their number. -/
def readParts : Nat → List Char → Option (List String × List Char)
  | 0, _ => none
  | fuel + 1, s =>
    match readKeyPart (skipBlanks s) with
    | none => none
    | some (part, rest) =>
      match skipBlanks rest with
      | '.' :: r => (readParts fuel r).map fun (parts, rest) => (part :: parts, rest)
      | rest => some ([part], rest)

/-- A key: the steps before its last part, and that part. -/
abbrev KeyPath := List String × String

def readKey (s : List Char) : Option (KeyPath × List Char) :=
  match readParts (depthLimit - 1) s with
  | none => none
  | some (parts, rest) => parts.getLast?.map fun key => ((parts.dropLast, key), rest)

def readBoolean : List Char → Option (Bool × List Char)
  | 't' :: 'r' :: 'u' :: 'e' :: r => some (true, r)
  | 'f' :: 'a' :: 'l' :: 's' :: 'e' :: r => some (false, r)
  | _ => none

mutual

/-- Read a value. `levels` is how many arrays and braces may still open inside each other; `fuel`
bounds the number of values that are read. -/
def readValue (levels : Nat) : Nat → List Char → Option (Toml × List Char)
  | 0, _ => none
  | fuel + 1, s =>
    match s with
    | '[' :: r =>
      if levels = 0 then none
      else (readItems (levels - 1) fuel r).map fun (items, rest) => (.array items, rest)
    | '\x7b' :: r =>
      if levels = 0 then none
      else
        match skipBlanks r with
        | '\x7d' :: rest => some (.table .braces [], rest)
        | r =>
          match readPairs (levels - 1) fuel r with
          | none => none
          | some (items, rest) => (Toml.ofAssignments items).map fun value => (value, rest)
    | '"' :: _ => (readText s).map fun (chars, rest) => (.text chars, rest)
    | '\'' :: _ => (readText s).map fun (chars, rest) => (.text chars, rest)
    | s => ((readBoolean s).map fun (value, rest) => (.boolean value, rest)) <|> readScalar s

/-- Read the items of an array and its closing bracket. A comma may follow the last item. -/
def readItems (levels : Nat) : Nat → List Char → Option (List Toml × List Char)
  | 0, _ => none
  | fuel + 1, s =>
    match skipLines (s.length + 1) s with
    | none => none
    | some (']' :: rest) => some ([], rest)
    | some s =>
      match readValue levels fuel s with
      | none => none
      | some (item, r) =>
        match skipLines (r.length + 1) r with
        | some (',' :: r) => (readItems levels fuel r).map fun (items, rest) => (item :: items, rest)
        | some (']' :: rest) => some ([item], rest)
        | _ => none

/-- Read the assignments between braces and the closing brace. No comma follows the last one, and all
stand on one line. -/
def readPairs (levels : Nat) : Nat → List Char → Option (List Assignment × List Char)
  | 0, _ => none
  | fuel + 1, s =>
    match readKey s with
    | some ((path, key), '=' :: r) =>
      match readValue levels fuel (skipBlanks r) with
      | none => none
      | some (value, r) =>
        match skipBlanks r with
        | ',' :: r =>
          (readPairs levels fuel r).map fun (items, rest) => (⟨path, key, value⟩ :: items, rest)
        | '\x7d' :: rest => some ([⟨path, key, value⟩], rest)
        | _ => none
    | _ => none

end

/-- Read an assignment and the end of its line. -/
def readAssignment (s : List Char) : Option (Assignment × List Char) :=
  match readKey s with
  | some ((path, key), '=' :: r) =>
    match readValue (depthLimit - 1) (r.length + 1) (skipBlanks r) with
    | none => none
    | some (value, rest) => (readLineEnd rest).map (⟨path, key, value⟩, ·)
  | _ => none

/-- Read assignments with blank lines and comments between them, up to a header or the end of the
text; `fuel` bounds the number of lines. -/
def readAssignments : Nat → List Char → Option (List Assignment × List Char)
  | 0, _ => none
  | fuel + 1, s =>
    match skipBlanks s with
    | [] => some ([], [])
    | '[' :: r => some ([], '[' :: r)
    | '#' :: r => (readLineEnd ('#' :: r)).bind (readAssignments fuel)
    | c :: r =>
      if c = '\n' ∨ c = '\r' then (readNewline (c :: r)).bind (readAssignments fuel)
      else
        match readAssignment (c :: r) with
        | none => none
        | some (item, rest) =>
          (readAssignments fuel rest).map fun (items, rest) => (item :: items, rest)

/-- Read a header and the end of its line. -/
def readHeader (s : List Char) : Option ((KeyPath × Bool) × List Char) :=
  match s with
  | '[' :: '[' :: r =>
    match readKey r with
    | some (key, ']' :: ']' :: rest) => (readLineEnd rest).map ((key, true), ·)
    | _ => none
  | '[' :: r =>
    match readKey r with
    | some (key, ']' :: rest) => (readLineEnd rest).map ((key, false), ·)
    | _ => none
  | _ => none

/-- Read sections up to the end of the text; `fuel` bounds their number. -/
def readSections : Nat → List Char → Option (List TomlSection)
  | 0, _ => none
  | _ + 1, [] => some []
  | fuel + 1, s =>
    match readHeader s with
    | none => none
    | some (((path, key), repeated), r) =>
      match readAssignments (r.length + 1) r with
      | none => none
      | some (assignments, rest) =>
        (readSections fuel rest).map (⟨path, key, repeated, assignments⟩ :: ·)

/-- The text without a byte order mark at its start. -/
def withoutMark : List Char → List Char
  | '\uFEFF' :: r => r
  | s => s

def parse? (text : String) : Option TomlEntries :=
  let s := withoutMark text.toList
  match readAssignments (s.length + 1) s with
  | none => none
  | some (assignments, rest) =>
    (readSections (rest.length + 1) rest).bind (TomlEntries.ofDocument assignments)

end RowTypes.Toml
