import NativeViews.Host.Library
import NativeViews.Shell.Access

/-!
Bringing generated files into a directory, and comparing them with what is there.
-/

namespace NativeViews.GeneratedFiles

/-- Files with one more, in its place in the order of names. It takes the place of a file with its
name. -/
def insert (files : GeneratedFiles) (name text : String) : GeneratedFiles :=
  match files with
  | [] => [(name, text)]
  | file :: rest =>
    if name = file.1 then (name, text) :: rest
    else if name < file.1 then (name, text) :: file :: rest
    else file :: insert rest name text

/-- Files in the order of their names. Of several with one name the last counts. -/
def ofList (files : List (String × String)) : GeneratedFiles :=
  files.foldl (fun files (name, text) => files.insert name text) []

variable {m : Type → Type} [Monad m] [Shell m]

/-- Writes the files into a directory, which is created if it is not there. Gives the paths of
what was written. -/
def deliver (directory : Path) (files : GeneratedFiles) : Attempt m (List Path) := do
  Attempt.ofAccess (← Shell.ensureDirectory directory)
  files.mapM fun (name, text) => do
    let path := directory.join name
    Attempt.writeText path text
    pure path

/-- Fails unless a file has a text. That it is not there is no other failure than that its text
differs. -/
def compareFile (path : Path) (text : String) : Attempt m Unit := do
  match ← Shell.read path with
  | .error .notFound => throw (.outOfDate path.text)
  | found =>
    let present ← Attempt.decode (← Attempt.ofAccess found)
    if present ≠ text then throw (.outOfDate path.text)

/-- Fails unless all files are in a directory as they would be written. -/
def compare (directory : Path) (files : GeneratedFiles) : Attempt m Unit :=
  files.forM fun (name, text) => compareFile (directory.join name) text

end NativeViews.GeneratedFiles
