/-!
Texts and bytes. Every text has its bytes; bytes that are no text are read with a replacement
character for each part that cannot be the start of a character.
-/

namespace RowTypes.Text

def bytesOf (s : List Char) : List UInt8 :=
  (String.ofList s).toUTF8.toList

/-- A character of which some bytes were read: its number so far, how many bytes are missing, and
between which bounds the next one has to be. -/
structure Unfinished where
  number : Nat
  missing : Nat
  lowest : Nat
  highest : Nat

/-- What stands for bytes that are no character. -/
def replacement : Char := '\ufffd'

/-- Begin a character with a byte: the characters that are complete, and the one that is not. -/
def beginChar (byte : Nat) : List Char × Option Unfinished :=
  if byte < 0x80 then ([Char.ofNat byte], none)
  else if byte < 0xC2 then ([replacement], none)
  else if byte < 0xE0 then ([], some ⟨byte - 0xC0, 1, 0x80, 0xBF⟩)
  else if byte < 0xF0 then
    ([], some ⟨byte - 0xE0, 2, if byte = 0xE0 then 0xA0 else 0x80,
      if byte = 0xED then 0x9F else 0xBF⟩)
  else if byte < 0xF5 then
    ([], some ⟨byte - 0xF0, 3, if byte = 0xF0 then 0x90 else 0x80,
      if byte = 0xF4 then 0x8F else 0xBF⟩)
  else ([replacement], none)

/-- Read bytes that follow the start of a character. -/
def decodeAfter : Option Unfinished → List UInt8 → List Char
  | none, [] => []
  | some _, [] => [replacement]
  | none, byte :: rest =>
    let (chars, next) := beginChar byte.toNat
    chars ++ decodeAfter next rest
  | some char, byte :: rest =>
    if char.lowest ≤ byte.toNat ∧ byte.toNat ≤ char.highest then
      let number := char.number * 64 + (byte.toNat - 0x80)
      if char.missing = 1 then Char.ofNat number :: decodeAfter none rest
      else decodeAfter (some ⟨number, char.missing - 1, 0x80, 0xBF⟩) rest
    else
      let (chars, next) := beginChar byte.toNat
      replacement :: (chars ++ decodeAfter next rest)

/-- Read bytes as a text, whatever they are. -/
def decodeLossy (bytes : List UInt8) : List Char :=
  decodeAfter none bytes

end RowTypes.Text
