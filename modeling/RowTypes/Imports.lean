import RowTypes.Packages
import RowTypes.Text.Blank

/-!
Import clauses of source files, as lines. A clause is looked for in the first lines of a file only.
It is one line (`import "a"`, `import ( "a"; x "b" )`) or a bracketed list of lines, and it is always
written in one form: a line for one package, a bracketed list in the order of the paths for several.
-/

namespace RowTypes

open Text

/-- Why a source file cannot take a block. Lines count from one. Regions are found without a pattern that
would have to be compiled, so no error of a pattern is among these. -/
inductive MergeError where
  | malformedImport (line : Nat) (content : String)
  | unterminatedImport (line : Nat)
  /-- The type is declared, but not by a block. -/
  | unmatchedDeclaration (typeName : String)
  deriving DecidableEq, Repr

namespace MergeError

def message : MergeError → String
  | malformedImport line content =>
    "line " ++ toString line ++ ": not a valid import statement: " ++ content
  | unterminatedImport line => "line " ++ toString line ++ ": import clause is never closed"
  | unmatchedDeclaration typeName =>
    "type " ++ typeName ++ " is declared, but not as a generated block"

end MergeError

/-- An imported package: its path, and the entry as it is written, with an alias if it has one. -/
structure ImportEntry where
  path : String
  written : String
  deriving DecidableEq, Repr, Inhabited

/-- Entries in ascending order of their paths, each path once. -/
abbrev ImportEntries := List ImportEntry

namespace ImportEntries

/-- Put an entry at its place; it replaces one with its path. -/
def insert (entry : ImportEntry) : ImportEntries → ImportEntries
  | [] => [entry]
  | head :: rest =>
    if entry.path = head.path then entry :: rest
    else if entry.path < head.path then entry :: head :: rest
    else head :: insert entry rest

def ofList (entries : List ImportEntry) : ImportEntries :=
  entries.foldl (fun set entry => insert entry set) []

end ImportEntries

namespace Imports

/-- The entry of a package without an alias. -/
def plain (path : String) : ImportEntry :=
  ⟨path, "\"" ++ path ++ "\""⟩

/-- Add plain entries for the packages whose paths are not there yet. -/
def addPackages (entries : ImportEntries) (packages : Packages) : ImportEntries :=
  packages.foldl (fun set path =>
    if set.any fun entry => entry.path == path then set else ImportEntries.insert (plain path) set)
    entries

def render : ImportEntries → List String
  | [] => []
  | [entry] => ["import " ++ entry.written]
  | entries => ["import ("] ++ entries.map (fun entry => "\t" ++ entry.written) ++ [")"]

/-- How many lines at the start of a file may hold a clause. -/
def lookahead : Nat := 6

/-- A clause: the lines from `start` to before `stop`, and what they import. -/
structure Clause where
  start : Nat
  stop : Nat
  entries : ImportEntries
  deriving DecidableEq, Repr

def keyword : List Char := "import".toList

theorem keyword_eq : keyword = ['i', 'm', 'p', 'o', 'r', 't'] :=
  String.toList_ofList

def mayFollowKeyword : List Char → Bool
  | [] => true
  | c :: _ => c == ' ' || c == '\t' || c == '(' || c == '"'

def isImportLine (line : String) : Bool :=
  let s := trimStart line.toList
  keyword.isPrefixOf s && mayFollowKeyword (s.drop keyword.length)

/-- Read `alias "path"`, the alias optional; what follows the closing quote does not matter. -/
def parseSpec (spec : List Char) : Option ImportEntry :=
  match spec.span (· != '"') with
  | (_, []) => none
  | (before, _ :: rest) =>
    match rest.span (· != '"') with
    | (_, []) => none
    | (path, _ :: _) =>
      let name := trim before
      if name.any isWhite then none
      else
        let entry := plain (String.ofList path)
        some (if name.isEmpty then entry
          else { entry with written := String.ofList name ++ " " ++ entry.written })

/-- The text between parentheses that enclose all of `s`. -/
def parenthesized? : List Char → Option (List Char)
  | '(' :: inner => if inner.getLast? = some ')' then some inner.dropLast else none
  | _ => none

/-- The specs of a clause on one line, from what follows the keyword. -/
def specsOf (rest : List Char) : List (List Char) :=
  match parenthesized? rest with
  | some inner => (inner.splitOn ';').filter fun spec => !(trim spec).isEmpty
  | none => [rest]

/-- Read specs into entries; a later one replaces an earlier one with its path. -/
def parseSpecs (entries : ImportEntries) : List (List Char) → Option ImportEntries
  | [] => some entries
  | spec :: rest =>
    match parseSpec spec with
    | none => none
    | some entry => parseSpecs (ImportEntries.insert entry entries) rest

/-- The error for the line with index `index`. -/
def malformed (index : Nat) (line : String) : MergeError :=
  .malformedImport (index + 1) (trimmed line)

/-- Whether a line of a bracketed list holds no entry. -/
def isCommentOrBlank (s : List Char) : Bool :=
  s.isEmpty || ['/', '/'].isPrefixOf s

/-- Read the lines of a bracketed list that was opened on line `start`; the first line here has the
index `index`. -/
def parseBracketed (start index : Nat) (entries : ImportEntries) :
    List String → Except MergeError Clause
  | [] => .error (.unterminatedImport (start + 1))
  | line :: rest =>
    let s := trim line.toList
    if s = [')'] then .ok ⟨start, index + 1, entries⟩
    else if isCommentOrBlank s then parseBracketed start (index + 1) entries rest
    else
      match parseSpec s with
      | none => .error (malformed index line)
      | some entry => parseBracketed start (index + 1) (ImportEntries.insert entry entries) rest

/-- Read the clause that begins on `line`, which has the index `start` and is followed by `rest`. -/
def parseClause (start : Nat) (line : String) (rest : List String) : Except MergeError Clause :=
  let body := trim ((trim line.toList).drop keyword.length)
  if body = ['('] then parseBracketed start (start + 1) [] rest
  else
    match parseSpecs [] (specsOf body) with
    | none => .error (malformed start line)
    | some [] => .error (malformed start line)
    | some entries => .ok ⟨start, start + 1, entries⟩

/-- Find the clause among the first lines of a file. -/
def find? (lines : List String) : Except MergeError (Option Clause) :=
  match (lines.take lookahead).findIdx? isImportLine with
  | none => .ok none
  | some start =>
    match lines.drop start with
    | [] => .ok none
    | line :: rest =>
      match parseClause start line rest with
      | .error e => .error e
      | .ok clause => .ok (some clause)

/-- The lines with those from `start` to before `stop` replaced. -/
def replaceLines (lines : List String) (start stop : Nat) (new : List String) : List String :=
  lines.take start ++ new ++ lines.drop stop

/-- The first blank line after the first line, among the lines that may hold a clause. -/
def firstBlank? (lines : List String) : Option Nat :=
  (((lines.take lookahead).drop 1).findIdx? isAllWhite).map (· + 1)

/-- Put a clause into a file without one: in place of the first blank line, or else after the first
line, with a blank line on both sides. -/
def insertClause (lines clause : List String) : List String :=
  if lines.length ≤ 1 then lines ++ [""] ++ clause
  else
    let framed := [""] ++ clause ++ [""]
    match firstBlank? lines with
    | some index => replaceLines lines index (index + 1) framed
    | none => replaceLines lines 1 1 framed

/-- Make the lines of a file import packages. An entry that is there keeps its alias. -/
def merge (lines : List String) (packages : Packages) : Except MergeError (List String) :=
  if packages.isEmpty then .ok lines
  else
    match find? lines with
    | .error e => .error e
    | .ok (some clause) =>
      .ok (replaceLines lines clause.start clause.stop
        (render (addPackages clause.entries packages)))
    | .ok none => .ok (insertClause lines (render (addPackages [] packages)))

end Imports

end RowTypes
