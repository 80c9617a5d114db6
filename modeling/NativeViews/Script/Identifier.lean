import NativeViews.Text.Numeric

/-!
The names that a script may use bare, as a binding or as the key of a member.
-/

namespace NativeViews.Script

/-- Whether an identifier may begin with `c`. -/
def startsIdentifier (c : Char) : Bool :=
  c = '_' || c = '$' || Text.isAlphabetic c

/-- Whether an identifier may go on with `c`. -/
def continuesIdentifier (c : Char) : Bool :=
  c = '_' || c = '$' || Text.isAlphanumeric c

/-- Whether a name can stand bare. -/
def isIdentifier (name : String) : Bool :=
  match name.toList with
  | [] => false
  | first :: rest => startsIdentifier first && rest.all continuesIdentifier

end NativeViews.Script
