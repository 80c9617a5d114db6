import NativeViews.Settings.Reference
import NativeViews.Text.Numeric

/-!
Lines of a variables file, each a name with a value. A value may have quotes, escapes, and
references to variables, which stand for nothing where the variable is not set.
-/

namespace NativeViews

/-- A variable with the pieces of its value. -/
structure Assignment where
  name : String
  value : List Piece
  deriving DecidableEq, Repr

namespace Assignment

/-- What the next character of a value is part of. -/
inductive Place where
  /-- Nothing that was begun. -/
  | plain
  /-- An escape. -/
  | escape
  /-- Single quotes, between which everything stands for itself. -/
  | verbatim
  /-- The name of a reference without braces; its characters so far, the last one first. -/
  | name (before : List Char)
  /-- The name of a reference in braces. -/
  | braces (before : List Char)
  /-- The blanks behind the value. -/
  | ended
  /-- A comment behind the value. -/
  | comment
  deriving DecidableEq, Repr

/-- Where a reader of a value stands. -/
structure Reading where
  /-- Whether double quotes are open. -/
  quoted : Bool := false
  place : Place := .plain
  deriving DecidableEq, Repr

/-- The reference to the variable whose name is read, the last character first. -/
def reference (before : List Char) : Piece :=
  .reference ⟨String.ofList before.reverse, some ""⟩

/-- Where a reader stands after a character that nothing begun takes up, with the piece that the
character makes. -/
def Reading.begin (reading : Reading) (c : Char) : Reading × List Piece :=
  if c = '$' then ({ reading with place := .name [] }, [])
  else if c = '\\' then ({ reading with place := .escape }, [])
  else if c = '"' then ({ reading with quoted := !reading.quoted }, [])
  else if reading.quoted then (reading, [.char c])
  else if c = '\'' then ({ reading with place := .verbatim }, [])
  else if c = ' ' ∨ c = '\t' then ({ reading with place := .ended }, [])
  else (reading, [.char c])

/-- What an escape stands for. -/
def unescape? (c : Char) : Option Char :=
  if c = 'n' then some '\n'
  else if c ∈ ['\\', '\'', '"', '$', ' '] then some c
  else none

/-- Where a reader stands after a character, with the pieces that it completes; none where the
character may not follow. The character that ends a name without braces always stands for itself,
unless it begins another name. -/
def Reading.next (reading : Reading) (c : Char) : Option (Reading × List Piece) :=
  match reading.place with
  | .plain => some (reading.begin c)
  | .escape => (unescape? c).map fun c => ({ reading with place := .plain }, [.char c])
  | .verbatim =>
    if c = '\'' then some ({ reading with place := .plain }, []) else some (reading, [.char c])
  | .name before =>
    if Text.isAlphanumeric c then some ({ reading with place := .name (c :: before) }, [])
    else if c = '\x7b' ∧ before.isEmpty then some ({ reading with place := .braces [] }, [])
    else if c = '$' then some ({ reading with place := .name [] }, [reference before])
    else some ({ reading with place := .plain }, [reference before, .char c])
  | .braces before =>
    if c = '\x7d' then some ({ reading with place := .plain }, [reference before])
    else some ({ reading with place := .braces (c :: before) }, [])
  | .ended =>
    if c = '#' then some ({ reading with place := .comment }, [])
    else if c = ' ' ∨ c = '\t' then some (reading, [])
    else none
  | .comment => some (reading, [])

/-- The last pieces of a value that ends here; none where something is still open. -/
def Reading.finish (reading : Reading) : Option (List Piece) :=
  if reading.quoted then none
  else
    match reading.place with
    | .verbatim | .braces _ => none
    | .name before => some [reference before]
    | _ => some []

/-- The pieces of a value from here on. -/
def scanValue (reading : Reading) : List Char → Option (List Piece)
  | [] => reading.finish
  | c :: rest => do
    let (reading, before) ← reading.next c
    let after ← scanValue reading rest
    pure (before ++ after)

/-- The name that begins here, with what follows it and the blanks behind it. -/
def scanName (chars : List Char) : Option (String × List Char) :=
  let isInner (c : Char) : Bool := c.isAlphanum || c = '_' || c = '.'
  match chars with
  | first :: _ =>
    if first.isAlpha ∨ first = '_' then
      some (String.ofList (chars.takeWhile isInner),
        (chars.dropWhile isInner).dropWhile Text.isBlank)
    else
      none
  | [] => none

/-- The name of an assignment, with what follows its equals sign. The word `export` may come
before the name. -/
def scanTarget (chars : List Char) : Option (String × List Char) := do
  let (name, rest) ← scanName chars
  match rest with
  | '=' :: rest => some (name, rest)
  | _ =>
    if name = "export" then
      match ← scanName rest with
      | (name, '=' :: rest) => some (name, rest)
      | _ => none
    else
      none

/-- The assignment on a line, if the line has one; the outer option is none where the line is no
line of a variables file. -/
def ofLine? (line : String) : Option (Option Assignment) :=
  let trimmed := (line.toList.reverse.dropWhile Text.isBlank).reverse.dropWhile Text.isBlank
  match trimmed with
  | [] => some none
  | '#' :: _ => some none
  | chars => do
    let (name, rest) ← scanTarget chars
    match rest.dropWhile Text.isBlank with
    | '#' :: _ => some (some ⟨name, []⟩)
    | value => (scanValue {} value).map fun pieces => some ⟨name, pieces⟩

def referredVariables (assignment : Assignment) : List String :=
  Piece.names assignment.value

def evaluate (environment : Environment) (assignment : Assignment) : String :=
  String.ofList (assignment.value.flatMap fun
    | .char c => [c]
    | .reference found => ((found.value? environment).getD "").toList)

end Assignment

/-- The lines of a file, without their ends. -/
def linesOf (bytes : List UInt8) : List (List UInt8) :=
  match bytes with
  | [] => [[]]
  | byte :: rest =>
    if byte = 10 then [] :: linesOf rest
    else
      match linesOf rest with
      | [] => [[byte]]
      | line :: lines => (byte :: line) :: lines

/-- The assignments of a variables file up to the first line that is malformed. -/
def assignments (bytes : ByteArray) : List Assignment :=
  go (linesOf bytes.toList)
where
  /-- The assignments of lines. -/
  go : List (List UInt8) → List Assignment
    | [] => []
    | line :: lines =>
      match (String.fromUTF8? ⟨line.toArray⟩).bind Assignment.ofLine? with
      | some (some assignment) => assignment :: go lines
      | some none => go lines
      | none => []

end NativeViews
