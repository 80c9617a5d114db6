import NativeViews.Failure
import NativeViews.Files.Path
import NativeViews.Files.Tree

/-!
Reading and changing a tree of files by paths. A path is followed piece by piece: every piece but
the last must lead to a directory, and a step upwards leaves the directory that was reached.
-/

namespace NativeViews

namespace FileTree

/-- The length in bytes that a name may have. -/
def nameLimit : Nat := 255

/-- The length in bytes that a path must stay below. -/
def pathLimit : Nat := 4096

/-- Whether a piece of a path names nothing in the directory it is read in. -/
def isStep (piece : String) : Bool :=
  Path.isIdle piece || piece = ".."

/-- The location after one piece of a path. Nothing need stand there yet. -/
def step (tree : FileTree) (place : Location) (piece : String) : Except Fault Location :=
  match tree.find? place with
  | none => .error .notFound
  | some (file _) => .error .notDirectory
  | some (directory _) =>
    if Path.isIdle piece then .ok place
    else if piece = ".." then .ok place.dropLast
    else if nameLimit < piece.utf8ByteSize then .error .tooLong
    else .ok (place ++ [piece])

def walk (tree : FileTree) (place : Location) (pieces : List String) : Except Fault Location :=
  pieces.foldlM (step tree) place

/-- The pieces of a path, if it can name anything. -/
def piecesOf (path : Path) : Except Fault (List String) :=
  if path.text.isEmpty then .error .notFound
  else if path.text.toList.contains '\x00' then .error .nullInPath
  else if pathLimit ≤ path.text.utf8ByteSize then .error .tooLong
  else .ok path.pieces

/-- Where following a path begins. -/
def origin (working : Location) (path : Path) : Location :=
  if path.isAbsolute then [] else working

/-- The location of what a path names, and what stands there. -/
def locate (tree : FileTree) (working : Location) (path : Path) :
    Except Fault (Location × FileTree) := do
  let pieces ← piecesOf path
  let place ← tree.walk (origin working path) pieces
  match tree.find? place with
  | some node => pure (place, node)
  | none => throw .notFound

/-- The location of what pieces of a path would create. They must end in a name; `taken` is what
is wrong where they end in a step to a directory. -/
def vacancy (tree : FileTree) (taken : Fault) (place : Location) (pieces : List String) :
    Except Fault Location := do
  let place ← tree.walk place pieces
  match pieces.getLast? with
  | none => throw taken
  | some last => if isStep last then throw taken else pure place

/-- Pieces without the blanks that slashes at the end of a path leave. -/
def solidPieces (pieces : List String) : List String :=
  (pieces.reverse.dropWhile (· = "")).reverse

/-- The pieces by which a file is created. A path that ends in a slash names no file, and is only
followed to the directory that would hold it. -/
def filePieces (pieces : List String) : List String :=
  if pieces.getLast? = some "" then (solidPieces pieces).dropLast ++ ["."] else pieces

def read (tree : FileTree) (working : Location) (path : Path) : Except Fault ByteArray := do
  match ← tree.locate working path with
  | (_, file bytes) => pure bytes
  | (_, directory _) => throw .isDirectory

/-- Whether a path names something for which a test holds. -/
def has (tree : FileTree) (test : FileTree → Bool) (working : Location) (path : Path) : Bool :=
  match tree.locate working path with
  | .ok (_, node) => test node
  | .error _ => false

/-- The tree after a file has been given its bytes. It is created if it is not there. -/
def write (tree : FileTree) (working : Location) (path : Path) (bytes : ByteArray) :
    Except Fault FileTree := do
  let pieces ← piecesOf path
  let place ← tree.vacancy .isDirectory (origin working path) (filePieces pieces)
  match tree.find? place with
  | some (directory _) => throw .isDirectory
  | _ => pure (tree.put place (file bytes))

/-- The tree after a directory has been created. The path may end in slashes. -/
def makeDirectory (tree : FileTree) (working : Location) (path : Path) :
    Except Fault FileTree := do
  let pieces ← piecesOf path
  let place ← tree.vacancy .alreadyExists (origin working path) (solidPieces pieces)
  match tree.find? place with
  | some _ => throw .alreadyExists
  | none => pure (tree.put place (directory []))

end FileTree

end NativeViews
