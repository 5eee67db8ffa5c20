/-!
JSON values. A value keeps all that the text of it says which a reader may ask for: members in their
order with repeated keys, whether a number was written as an integer, and texts that no string can
hold because an escape in them is half of a pair.
-/

namespace RowTypes

/-- A number as it is written: an integer, or `digits · 10 ^ exponent` with a sign. -/
inductive JsonNumber where
  | integer (value : Int)
  | real (negative : Bool) (digits : Nat) (exponent : Int)
  deriving DecidableEq, Repr, Inhabited

/-- A JSON value. Of texts, `none` stands for one with an unpaired escape: such a text may be skipped
but not read. -/
inductive Json where
  | null
  | bool (value : Bool)
  | number (value : JsonNumber)
  | text (value : Option String)
  | array (items : List Json)
  | object (members : List (Option String × Json))
  deriving Repr, Inhabited

namespace JsonNumber

/-- The least magnitude that double precision rounds to infinity. -/
def overflow : Nat := Nat.pow 2 1024 - Nat.pow 2 970

/-- Whether `digits · 10 ^ exponent` is finite in double precision. -/
def fits (digits : Nat) (exponent : Int) : Bool :=
  let magnitude : Int := (Nat.toDigits 10 digits).length + exponent
  if digits = 0 ∨ magnitude < 300 then true
  else if 310 < magnitude then false
  else if 0 ≤ exponent then digits * Nat.pow 10 exponent.toNat < overflow
  else digits < overflow * Nat.pow 10 (-exponent).toNat

/-- Whether the number is finite in double precision. -/
def isFinite : JsonNumber → Bool
  | integer value => fits value.natAbs 0
  | real _ digits exponent => fits digits exponent

end JsonNumber

namespace Json

def str (s : String) : Json :=
  .text (some s)

def int (i : Int) : Json :=
  .number (.integer i)

/-- An object with keys that are all texts. -/
def ofMembers (members : List (String × Json)) : Json :=
  .object (members.map fun (key, value) => (some key, value))

mutual

/-- How many arrays and objects stand inside each other. -/
def depth : Json → Nat
  | .array items => depthOfItems items + 1
  | .object members => depthOfMembers members + 1
  | _ => 0

def depthOfItems : List Json → Nat
  | [] => 0
  | item :: rest => max (depth item) (depthOfItems rest)

def depthOfMembers : List (Option String × Json) → Nat
  | [] => 0
  | (_, value) :: rest => max (depth value) (depthOfMembers rest)

end

mutual

/-- Whether all texts, keys and numbers of a value can be read. -/
def isReadable : Json → Bool
  | .number value => value.isFinite
  | .text value => value.isSome
  | .array items => itemsReadable items
  | .object members => membersReadable members
  | _ => true

def itemsReadable : List Json → Bool
  | [] => true
  | item :: rest => isReadable item && itemsReadable rest

def membersReadable : List (Option String × Json) → Bool
  | [] => true
  | (key, value) :: rest => key.isSome && isReadable value && membersReadable rest

end

end Json

end RowTypes
