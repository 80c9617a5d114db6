/-!
The values of TOML documents.
-/

namespace NativeViews

inductive Toml where
  | string (text : String)
  | boolean (value : Bool)
  /-- An integer; without a value where what is written is none that has at most 128 bits. -/
  | integer (value : Option Int)
  /-- A number with a fraction or an exponent, or none at all, as it is written; without a text
  where it is too large for a double. -/
  | float (text : Option String)
  /-- A date, a time, or both, as it is written. -/
  | moment (text : String)
  | array (items : List Toml)
  | table (entries : List (String × Toml))

namespace Toml

def text? : Toml → Option String
  | string text => some text
  | _ => none

mutual

/-- Whether all numbers in a value have values. -/
def isReadable : Toml → Bool
  | integer value => value.isSome
  | float text => text.isSome
  | array items => areReadable items
  | table entries => haveReadable entries
  | _ => true

def areReadable : List Toml → Bool
  | [] => true
  | item :: rest => item.isReadable && areReadable rest

def haveReadable : List (String × Toml) → Bool
  | [] => true
  | (_, value) :: rest => value.isReadable && haveReadable rest

end

/-- How many brackets a document may hold open at any place. -/
def depthLimit : Nat := 80

/-- How many parts a key may have. -/
def keyLimit : Nat := 80

/-- Whether a character is a blank inside a line. -/
def isBlank (c : Char) : Bool :=
  c = ' ' || c = '\t'

/-- Whether a character may stand as itself in comments and between quotes: no control character
but the tab. -/
def isPlain (c : Char) : Bool :=
  c = '\t' || (' ' ≤ c && c != '\x7f')

/-- A text without the blanks at its start. -/
def skipBlanks (chars : List Char) : List Char :=
  chars.dropWhile isBlank

/-- What follows a comment, if there is one: at most the end of its line. None where the comment
holds a control character. -/
def skipComment (chars : List Char) : Option (List Char) :=
  match chars with
  | '#' :: rest =>
    match rest.dropWhile isPlain with
    | [] => some []
    | '\n' :: after => some ('\n' :: after)
    | '\r' :: '\n' :: after => some ('\r' :: '\n' :: after)
    | _ => none
  | _ => some chars

/-- What follows the end of a line, if it comes first. The end of the text ends a line too. -/
def lineEnd? : List Char → Option (List Char)
  | [] => some []
  | '\n' :: rest => some rest
  | '\r' :: '\n' :: rest => some rest
  | _ => none

/-- What follows the rest of a line that holds nothing more than blanks and a comment. -/
def endLine? (chars : List Char) : Option (List Char) :=
  (skipComment (skipBlanks chars)).bind lineEnd?

end Toml

end NativeViews
