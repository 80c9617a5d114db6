/-!
JSON documents as trees. A tree keeps what the text says and judges nothing: members stay in
order and may repeat, numbers keep their digits, and a string that no Unicode text spells is
still a string.
-/

namespace NativeViews.Json

/-- A string of a document. There is no text where an escape names one half of a surrogate pair
without the other. -/
abbrev Text := Option String

/-- A number as it is written. -/
structure Numeral where
  negative : Bool
  whole : List Char
  fraction : Option (List Char) := none
  /-- The sign and the digits. -/
  exponent : Option (Bool × List Char) := none
  deriving DecidableEq, Repr

/-- A value without parts. -/
inductive Scalar where
  | null
  | bool (value : Bool)
  | number (value : Numeral)
  | text (value : Text)
  deriving DecidableEq, Repr

end Json

/-- A document, or a value inside one. -/
inductive Json where
  | scalar (value : Json.Scalar)
  | array (items : List Json)
  | object (members : List (Json.Text × Json))

namespace Json

abbrev null : Json := .scalar .null

abbrev bool (value : Bool) : Json := .scalar (.bool value)

abbrev text (value : String) : Json := .scalar (.text (some value))

/-- An object whose keys are texts. -/
def record (members : List (String × Json)) : Json :=
  .object (members.map fun (key, value) => (some key, value))

def Numeral.ofInt (n : Int) : Numeral where
  negative := n < 0
  whole := Nat.toDigits 10 n.natAbs

def int (n : Int) : Json := .scalar (.number (.ofInt n))

end Json

end NativeViews
