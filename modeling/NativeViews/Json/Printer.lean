import NativeViews.Json.Basic

/-!
The written forms of a document: on one line without blanks, or with a line for each part and
two spaces for each level.
-/

namespace NativeViews.Json

/-- How a character is written inside a string. Beyond the quote, the backslash and the
controls all characters are written as they are. -/
def encodeChar (c : Char) : List Char :=
  if c = '"' then ['\\', '"']
  else if c = '\\' then ['\\', '\\']
  else if c = '\x08' then ['\\', 'b']
  else if c = '\x0c' then ['\\', 'f']
  else if c = '\n' then ['\\', 'n']
  else if c = '\r' then ['\\', 'r']
  else if c = '\t' then ['\\', 't']
  else if c < ' ' then
    ['\\', 'u', '0', '0', Nat.digitChar (c.toNat / 16), Nat.digitChar (c.toNat % 16)]
  else [c]

def renderString (value : String) : String :=
  String.ofList ('"' :: value.toList.flatMap encodeChar ++ ['"'])

def Numeral.render (numeral : Numeral) : String :=
  let fraction := numeral.fraction.elim [] ('.' :: ·)
  let exponent := numeral.exponent.elim [] fun (negative, digits) =>
    'e' :: (if negative then '-' :: digits else digits)
  String.ofList ((if numeral.negative then ['-'] else []) ++ numeral.whole ++ fraction ++ exponent)

/-- A value without parts. A string that no text spells is written as the empty one. -/
def Scalar.render : Scalar → String
  | .null => "null"
  | .bool value => if value then "true" else "false"
  | .number value => value.render
  | .text value => renderString (value.getD "")

mutual

/-- A document on one line. -/
def render : Json → String
  | .scalar value => value.render
  | .array items => "[" ++ renderItems items ++ "]"
  | .object members => "\x7b" ++ renderMembers members ++ "\x7d"

def renderItems : List Json → String
  | [] => ""
  | item :: rest => item.render ++ renderMoreItems rest

def renderMoreItems : List Json → String
  | [] => ""
  | item :: rest => "," ++ item.render ++ renderMoreItems rest

def renderMembers : List (Text × Json) → String
  | [] => ""
  | (key, value) :: rest =>
    renderString (key.getD "") ++ ":" ++ value.render ++ renderMoreMembers rest

def renderMoreMembers : List (Text × Json) → String
  | [] => ""
  | (key, value) :: rest =>
    "," ++ renderString (key.getD "") ++ ":" ++ value.render ++ renderMoreMembers rest

end

/-- The end of a line and the blanks at the start of the next. -/
def newLine (level : Nat) : String :=
  "\n" ++ String.ofList (List.replicate (2 * level) ' ')

mutual

/-- A document with a line for each part, `level` levels in. What is empty stays on its line. -/
def renderLines : Nat → Json → String
  | _, .scalar value => value.render
  | _, .array [] => "[]"
  | level, .array (item :: rest) =>
    "[" ++ newLine (level + 1) ++ renderLines (level + 1) item
      ++ renderItemLines (level + 1) rest ++ newLine level ++ "]"
  | _, .object [] => "\x7b\x7d"
  | level, .object (member :: rest) =>
    "\x7b" ++ newLine (level + 1) ++ renderMemberLine (level + 1) member
      ++ renderMemberLines (level + 1) rest ++ newLine level ++ "\x7d"
termination_by structural _ json => json

/-- Items that follow another, each on a line of its own. -/
def renderItemLines : Nat → List Json → String
  | _, [] => ""
  | level, item :: rest =>
    "," ++ newLine level ++ renderLines level item ++ renderItemLines level rest
termination_by structural _ items => items

def renderMemberLine : Nat → Text × Json → String
  | level, (key, value) => renderString (key.getD "") ++ ": " ++ renderLines level value
termination_by structural _ member => member

/-- Members that follow another, each on a line of its own. -/
def renderMemberLines : Nat → List (Text × Json) → String
  | _, [] => ""
  | level, member :: rest =>
    "," ++ newLine level ++ renderMemberLine level member ++ renderMemberLines level rest
termination_by structural _ members => members

end

/-- A document with a line for each part. -/
def renderPretty (document : Json) : String :=
  renderLines 0 document

end NativeViews.Json
