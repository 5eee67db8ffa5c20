/-!
White space in the wide sense, and the operations that remove it from the ends of a text.
-/

namespace RowTypes.Text

/-- White space of all scripts: the controls from tab to carriage return, next line, and the
separators. -/
def isWhite (c : Char) : Bool :=
  c == ' ' || ('\t' ≤ c && c ≤ '\r') || c == '\u0085' || c == '\u00a0' || c == '\u1680' ||
  ('\u2000' ≤ c && c ≤ '\u200a') || c == '\u2028' || c == '\u2029' || c == '\u202f' ||
  c == '\u205f' || c == '\u3000'

/-- A space or a tab: the blanks that part the words of one line. -/
def isBlank (c : Char) : Bool :=
  c == ' ' || c == '\t'

def trimStart (s : List Char) : List Char :=
  s.dropWhile isWhite

def trimEnd (s : List Char) : List Char :=
  (trimStart s.reverse).reverse

def trim (s : List Char) : List Char :=
  trimEnd (trimStart s)

def trimmed (s : String) : String :=
  String.ofList (trim s.toList)

/-- Only white space, or nothing at all. -/
def isAllWhite (s : String) : Bool :=
  s.toList.all isWhite

end RowTypes.Text
