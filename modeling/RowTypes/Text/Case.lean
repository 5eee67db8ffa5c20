import RowTypes.Text.CaseTable

/-!
Upper and lower case of whole texts. A letter may become several (`ß` is `SS` in upper case), and a
capital sigma becomes `ς` at the end of a word and `σ` elsewhere, which is the only place where the
neighbours of a character matter.
-/

namespace RowTypes.Text

/-- The character moved by the run that covers it, or itself. -/
def shiftBy (runs : List CaseRun) (c : Char) : Char :=
  match runs.find? fun run => run.covers c.toNat with
  | some run => Char.ofNat (c.toNat + run.shift).toNat
  | none => c

def lowerChar (c : Char) : List Char :=
  if c.toNat < 128 then [c.toLower]
  else if c == 'İ' then ['i', '\u0307']
  else [shiftBy lowerRuns c]

def upperChar (c : Char) : List Char :=
  if c.toNat < 128 then [c.toUpper]
  else
    match upperSpecial.lookup c.toNat with
    | some numbers => numbers.map Char.ofNat
    | none => [shiftBy upperRuns c]

def isCased (c : Char) : Bool :=
  casedRanges.any fun range => range.holds c.toNat

/-- Characters that stand between letters without parting them. -/
def isIgnorable (c : Char) : Bool :=
  ignorableRanges.any fun range => range.holds c.toNat

/-- Whether the first character that is not ignorable has case. -/
def meetsCased (s : List Char) : Bool :=
  match s.dropWhile isIgnorable with
  | c :: _ => isCased c
  | [] => false

/-- A sigma ends a word if a letter stands before it and none after it. `before` is in reverse. -/
def sigmaIsFinal (before after : List Char) : Bool :=
  meetsCased before && !meetsCased after

/-- Lower case of a text that follows the text `before`, which is in reverse. -/
def lowerAfter (before : List Char) : List Char → List Char
  | [] => []
  | c :: r =>
    (if c == 'Σ' then [if sigmaIsFinal before r then 'ς' else 'σ'] else lowerChar c) ++
      lowerAfter (c :: before) r

def lower (s : List Char) : List Char :=
  lowerAfter [] s

def lowered (s : String) : String :=
  String.ofList (lower s.toList)

end RowTypes.Text
