/-!
Paths as they are written: names with slashes between them. Nothing here looks at files.
-/

namespace NativeViews

/-- A path. It is kept as it is written, since messages show it so. -/
structure Path where
  text : String
  deriving DecidableEq, Repr

namespace Path

/-- Pieces of a text between slashes, the first piece first. -/
def splitSlashes : List Char → List (List Char)
  | [] => [[]]
  | c :: rest =>
    if c = '/' then [] :: splitSlashes rest
    else
      match splitSlashes rest with
      | [] => [[c]]
      | piece :: pieces => (c :: piece) :: pieces

/-- The pieces of a path between its slashes. Some may be empty. -/
def pieces (path : Path) : List String :=
  (splitSlashes path.text.toList).map String.ofList

def isAbsolute (path : Path) : Bool :=
  path.text.toList.head? = some '/'

/-- The path of a name as seen from a directory. A name that is an absolute path stands for
itself. -/
def join (directory : Path) (name : String) : Path :=
  if name.toList.head? = some '/' then ⟨name⟩
  else if directory.text.isEmpty ∨ directory.text.toList.getLast? = some '/' then
    ⟨directory.text ++ name⟩
  else
    ⟨directory.text ++ "/" ++ name⟩

/-- What a path starts from. -/
inductive Start where
  /-- The directory in which the program works, unnamed. -/
  | here
  /-- The same directory, named by a dot. -/
  | dot
  | root
  deriving DecidableEq, Repr

def Start.text : Start → String
  | here => ""
  | dot => "."
  | root => "/"

/-- What a path starts from, with the pieces of what follows it. -/
def split (path : Path) : Start × List String :=
  let pieces (chars : List Char) := (splitSlashes chars).map String.ofList
  match path.text.toList with
  | '/' :: rest => (.root, pieces rest)
  | ['.'] => (.dot, [])
  | '.' :: '/' :: rest => (.dot, pieces ('/' :: rest))
  | chars => (.here, pieces chars)

/-- Whether a piece behind the start leads nowhere else. -/
def isIdle (piece : String) : Bool :=
  piece = "" || piece = "."

/-- The directories above what is reached by pieces from a start, the nearest one first. The
last piece comes first. -/
def above (start : Start) : List String → List Path
  | [] => if start = .dot then [⟨""⟩] else []
  | piece :: rest =>
    if isIdle piece then above start rest
    else
      let before := rest.dropWhile isIdle
      ⟨start.text ++ "/".intercalate before.reverse⟩ :: above start rest

/-- A path and the directories above it, as far as it names them, the nearest one first. -/
def ancestors (path : Path) : List Path :=
  let (start, pieces) := path.split
  path :: above start pieces.reverse

/-- The directory that holds what a path names, if the path names it. -/
def parent? (path : Path) : Option Path :=
  path.ancestors[1]?

/-- The name that a path ends in, if it ends in one and not in a step upwards. -/
def name? (path : Path) : Option String :=
  match path.split.2.reverse.dropWhile isIdle with
  | name :: _ => if name = ".." then none else some name
  | [] => none

/-- A name without the text from its last dot on. A dot in front of everything else does not
count. -/
def withoutExtension (name : List Char) : List Char :=
  match (name.reverse.dropWhile (· != '.')).reverse.dropLast with
  | [] => name
  | stem => stem

/-- The name that a path ends in, without its extension. -/
def stem? (path : Path) : Option String :=
  path.name?.map fun name => String.ofList (withoutExtension name.toList)

end Path

end NativeViews
