import RowTypes.Imports
import RowTypes.Tag
import RowTypes.Text.Word

/-!
Regions: where the block of a type stands inside a text. A region begins at the start of a line with
`type Name struct {`, goes on to the first line that begins with a brace, which has to follow the
line of the reserved field, and takes in a list of constants if nothing but blank lines and line
comments stands between. Every function here reads a text from its start and gives back what follows
the part that it has read.
-/

namespace RowTypes.Region

open Text

/-- What follows `word` at the start of a text. -/
def afterWord (word s : List Char) : Option (List Char) :=
  if word.isPrefixOf s then some (s.drop word.length) else none

def skipBlanks (s : List Char) : List Char :=
  s.dropWhile isBlank

/-- What follows the first line, if a line feed ends it. -/
def afterLine : List Char → Option (List Char)
  | [] => none
  | c :: r => if c = '\n' then some r else afterLine r

/-- Whatever `next` finds after one or more blanks; of several ways the one with most blanks. -/
def afterBlanks {α : Type} (next : List Char → Option α) : List Char → Option α
  | [] => none
  | c :: r => if isBlank c then afterBlanks next r <|> next r else none

/-- What follows `struct` in `type Name struct`. -/
def afterHeaderWords (name s : List Char) : Option (List Char) :=
  (afterWord "type".toList s).bind fun s =>
    afterBlanks (fun s => (afterWord name s).bind (afterBlanks (afterWord "struct".toList))) s

/-- What follows the line `type Name struct {`. -/
def afterHeader (name s : List Char) : Option (List Char) :=
  (afterHeaderWords name s).bind fun s =>
    (afterWord ['\x7b'] (skipBlanks s)).bind afterLine

/-- Blanks and carriage returns at the end of a line. -/
def skipTrailing (s : List Char) : List Char :=
  s.dropWhile fun c => isBlank c || c == '\r'

/-- What follows the line of the reserved field and the brace on the next line. -/
def afterReserved (s : List Char) : Option (List Char) :=
  (afterWord Tag.reservedField.toList (skipBlanks s)).bind fun s =>
    match s with
    | c :: r =>
      if isBlank c then (afterLine r).bind fun s => (afterWord ['\x7d'] s).map skipTrailing
      else none
    | [] => none

/-- What follows a line break, or nothing at the end of the text. -/
def afterBreak : List Char → Option (List Char)
  | [] => some []
  | c :: r => if c = '\n' then some r else none

/-- What follows the first line at which `close` succeeds, as long as no line before it begins with
`bracket`. `atStart` says whether the text is at the start of a line. -/
def afterBody (bracket : Char) (close : List Char → Option (List Char)) :
    Bool → List Char → Option (List Char)
  | _, [] => none
  | false, c :: r => afterBody bracket close (c == '\n') r
  | true, c :: r =>
    match close (c :: r) with
    | some rest => some rest
    | none => if c = bracket then none else afterBody bracket close (c == '\n') r

/-- What follows the line that closes a list of constants. -/
def afterClosingParen (s : List Char) : Option (List Char) :=
  (afterWord [')'] s).bind fun s => afterBreak (skipTrailing s)

/-- What follows the line `const (`. -/
def afterConstLine (s : List Char) : Option (List Char) :=
  (afterWord "const".toList (skipBlanks s)).bind fun s =>
    (afterWord ['('] (skipBlanks s)).bind afterLine

/-- Whether a line, given without its line feed, is blank or a line comment. -/
def isPassed (line : List Char) : Bool :=
  match skipBlanks line with
  | [] => true
  | ['\r'] => true
  | '/' :: '/' :: _ => true
  | _ => false

/-- What follows a list of constants, where only blank lines and line comments may stand before it.
`line` is what was read of the current line, in reverse. -/
def afterConstants (line : List Char) : List Char → Option (List Char)
  | [] => none
  | c :: r =>
    match if line.isEmpty then afterConstLine (c :: r) else none with
    | some s => afterBody ')' afterClosingParen true s
    | none =>
      if c = '\n' then if isPassed line.reverse then afterConstants [] r else none
      else afterConstants (c :: line) r

/-- What follows the end of the current line and the constants after it, if there are any. -/
def afterOptionalConstants (s : List Char) : Option (List Char) :=
  match s with
  | '\n' :: r => afterConstants [] r <|> some r
  | s => afterBreak s

/-- What follows the reserved field, its brace and the constants. -/
def afterClose (s : List Char) : Option (List Char) :=
  (afterReserved s).bind afterOptionalConstants

/-- What follows the region that begins here. -/
def afterRegion (name s : List Char) : Option (List Char) :=
  (afterHeader name s).bind (afterBody '\x7d' afterClose true)

/-- A text parted into what stands before a region, the region, and what follows it. -/
structure Parts where
  before : List Char
  region : List Char
  after : List Char
  deriving DecidableEq, Repr

/-- The parts of a text at its first region. `atStart` says whether the text is at the start of a
line. -/
def findFrom (name : List Char) : Bool → List Char → Option Parts
  | _, [] => none
  | atStart, c :: r =>
    let here := if atStart then afterRegion name (c :: r) else none
    match here with
    | some rest => some ⟨[], (c :: r).take (r.length + 1 - rest.length), rest⟩
    | none =>
      (findFrom name (c == '\n') r).map fun parts => { parts with before := c :: parts.before }

/-- The parts of a text at the first region of the type `name`. -/
def find? (name text : List Char) : Option Parts :=
  findFrom name true text

def isDeclaration (name s : List Char) : Bool :=
  (afterHeaderWords name s).any endsWord

/-- Whether some line begins with a declaration of the type. -/
def declaresFrom (name : List Char) : Bool → List Char → Bool
  | _, [] => false
  | atStart, c :: r =>
    (atStart && isDeclaration name (c :: r)) || declaresFrom name (c == '\n') r

/-- Whether some line of the text begins with a declaration of the type. -/
def declares (name text : List Char) : Bool :=
  declaresFrom name true text

end RowTypes.Region
