import NativeViews.Json.Document
import NativeViews.Json.Numeral

/-!
Reading records out of a document: an object by the names of its members, an array by the order
of its items. What is read must be sound, what a record does not know is passed over.
-/

namespace NativeViews.Json

/-- How many brackets a document may hold open at any place that is read. -/
def depthLimit : Nat := 127

/-- Whether a value without parts is sound: its text is a text and its number fits a double. -/
def Scalar.isSound : Scalar → Bool
  | .null => true
  | .bool _ => true
  | .number value => !value.overflows
  | .text value => value.isSome

mutual

/-- Whether a value is sound in all its parts and opens at most so many brackets inside each
other. -/
def isSound : Nat → Json → Bool
  | _, .scalar value => value.isSound
  | 0, _ => false
  | levels + 1, .array items => areSound levels items
  | levels + 1, .object members => areMembersSound levels members
termination_by structural _ json => json

def areSound : Nat → List Json → Bool
  | _, [] => true
  | levels, item :: rest => isSound levels item && areSound levels rest
termination_by structural _ items => items

def isMemberSound : Nat → Text × Json → Bool
  | levels, (key, value) => key.isSome && isSound levels value
termination_by structural _ member => member

def areMembersSound : Nat → List (Text × Json) → Bool
  | _, [] => true
  | levels, member :: rest => isMemberSound levels member && areMembersSound levels rest
termination_by structural _ members => members

end

def text? : Json → Option String
  | .scalar (.text value) => value
  | _ => none

/-- The integer of a numeral, if it lies between two bounds. -/
def int? (low high : Int) : Json → Option Int
  | .scalar (.number numeral) =>
    numeral.toInt?.bind fun value => if low ≤ value ∧ value ≤ high then some value else none
  | _ => none

/-- The fields of a record that are present, each once. -/
abbrev Fields := List (String × Json)

/-- The fields among the members of an object. A known field stands once at most; every key,
known or not, is a text. -/
def Fields.ofMembers (names : List String) : List (Text × Json) → Option Fields
  | [] => some []
  | (none, _) :: _ => none
  | (some key, value) :: rest => do
    let fields ← Fields.ofMembers names rest
    if key ∈ names then
      if (fields.lookup key).isSome then none else some ((key, value) :: fields)
    else
      some fields

/-- The fields of a record: the members of an object, or the items of an array in the order of
the names, which are not more than the names. -/
def fields? (names : List String) : Json → Option Fields
  | .object members => Fields.ofMembers names members
  | .array items => if items.length ≤ names.length then some (names.zip items) else none
  | .scalar _ => none

/-- Reads a field that must be present. -/
def Fields.require {α : Type} (fields : Fields) (name : String) (read : Json → Option α) :
    Option α :=
  (fields.lookup name).bind read

/-- Reads a field that has a value of its own where it is absent. -/
def Fields.readD {α : Type} (fields : Fields) (name : String) (read : Json → Option α)
    (absent : α) : Option α :=
  match fields.lookup name with
  | none => some absent
  | some value => read value

/-- Reads a field that may be absent or null. -/
def Fields.read? {α : Type} (fields : Fields) (name : String) (read : Json → Option α) :
    Option (Option α) :=
  fields.readD name (fun
    | .scalar .null => some none
    | value => (read value).map some) none

/-- Reads the items of an array, which opens one bracket. -/
def list? {α : Type} (read : Nat → Json → Option α) : Nat → Json → Option (List α)
  | levels + 1, .array items => items.mapM (read levels)
  | _, _ => none

/-- Reads the members of an object under arbitrary keys, which opens one bracket. -/
def entries? {α : Type} (read : Nat → Json → Option α) :
    Nat → Json → Option (List (String × α))
  | levels + 1, .object members =>
    members.mapM fun (key, value) => do
      let key ← key
      let value ← read levels value
      pure (key, value)
  | _, _ => none

end NativeViews.Json
