import RowTypes.Json.Reader

/-!
Quoted texts of TOML: between quotes with escapes or between apostrophes without, each on one line or
between three of them on several. Every function takes the characters that are left and gives back
those that follow what it has read.
-/

namespace RowTypes.Toml

/-- A character that may stand in a comment or a text: no control character but the tab. -/
def isPlain (c : Char) : Bool :=
  c == '\t' || (32 ≤ c.toNat && c.toNat != 127)

/-- A blank that does not end the line. -/
def isBlank (c : Char) : Bool :=
  c == ' ' || c == '\t'

def readNewline : List Char → Option (List Char)
  | '\n' :: r => some r
  | '\r' :: '\n' :: r => some r
  | _ => none

def skipBlankLines : List Char → List Char
  | '\r' :: '\n' :: r => skipBlankLines r
  | c :: r => if isBlank c || c == '\n' then skipBlankLines r else c :: r
  | [] => []

/-- The character with a number, if there is one. -/
def charOf? (n : Nat) : Option Char :=
  if n.isValidChar then some (Char.ofNat n) else none

def hexDigits? (digits : List Char) : Option Nat :=
  digits.foldlM (fun n c => (Json.hexValue? c).map (n * 16 + ·)) 0

/-- The character of an escape with a fixed number of digits. -/
def readCode (count : Nat) (s : List Char) : Option (Char × List Char) :=
  if s.length < count then none
  else ((hexDigits? (s.take count)).bind charOf?).map fun c => (c, s.drop count)

/-- Read an escape after its backslash. -/
def readEscape : List Char → Option (Char × List Char)
  | 'b' :: r => some ('\x08', r)
  | 't' :: r => some ('\t', r)
  | 'n' :: r => some ('\n', r)
  | 'f' :: r => some ('\x0c', r)
  | 'r' :: r => some ('\r', r)
  | '"' :: r => some ('"', r)
  | '\\' :: r => some ('\\', r)
  | 'u' :: r => readCode 4 r
  | 'U' :: r => readCode 8 r
  | _ => none

/-- The form of a quoted text. -/
structure QuoteForm where
  quote : Char
  escapes : Bool
  /-- Between three quotes, and on any number of lines. -/
  long : Bool
  deriving DecidableEq, Repr

/-- A backslash at the end of a line joins it to the next text; what follows the blanks and line ends
is given back. -/
def readJoin (s : List Char) : Option (List Char) :=
  (readNewline (s.dropWhile isBlank)).map skipBlankLines

/-- Add a character to a text that was read. -/
def consRead (c : Char) (result : Option (List Char × List Char)) :
    Option (List Char × List Char) :=
  result.map fun (chars, rest) => (c :: chars, rest)

/-- The greatest number of quotes in a row at the end of a long text: two of its own, and three that
close it. -/
def maxClosing : Nat := 5

/-- Read the rest of a text and the quotes that close it. -/
def readQuoted (form : QuoteForm) : Nat → List Char → Option (List Char × List Char)
  | 0, _ => none
  | _ + 1, [] => none
  | fuel + 1, c :: r =>
    if c = form.quote then
      if form.long then
        let run := ((c :: r).takeWhile (· == c)).length
        if run < 3 then consRead c (readQuoted form fuel r)
        else
          let count := min run maxClosing
          some (List.replicate (count - 3) c, (c :: r).drop count)
      else some ([], r)
    else if c = '\\' ∧ form.escapes then
      match (if form.long then readJoin r else none) with
      | some rest => readQuoted form fuel rest
      | none =>
        match readEscape r with
        | none => none
        | some (char, rest) => consRead char (readQuoted form fuel rest)
    else if isPlain c then consRead c (readQuoted form fuel r)
    else
      match (if form.long then readNewline (c :: r) else none) with
      | some rest => consRead '\n' (readQuoted form fuel rest)
      | none => none

/-- Read a text in a form, whose opening quotes were read. A line end directly after three quotes
does not count. -/
def readForm (form : QuoteForm) (s : List Char) : Option (String × List Char) :=
  let s := if form.long then (readNewline s).getD s else s
  (readQuoted form (s.length + 1) s).map fun (chars, rest) => (String.ofList chars, rest)

def readShortText : List Char → Option (String × List Char)
  | '"' :: r => readForm ⟨'"', true, false⟩ r
  | '\'' :: r => readForm ⟨'\'', false, false⟩ r
  | _ => none

def readText : List Char → Option (String × List Char)
  | '"' :: '"' :: '"' :: r => readForm ⟨'"', true, true⟩ r
  | '\'' :: '\'' :: '\'' :: r => readForm ⟨'\'', false, true⟩ r
  | s => readShortText s

end RowTypes.Toml
