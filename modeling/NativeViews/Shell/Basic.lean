import NativeViews.Environment.Assignment
import NativeViews.Files.Access

/-!
What a command can do with the machine that it runs on, and what follows from that alone:
looking upwards for a file, creating a directory with those above it, and taking over the
variables of a file.
-/

namespace NativeViews

/-- Access to files, variables and the output of a machine. -/
class Shell (m : Type → Type) where
  /-- The directory in which the program works, as an absolute path. -/
  workingDirectory : m Path
  /-- The bytes of a file. -/
  read : Path → m (Except Fault ByteArray)
  isFile : Path → m Bool
  isDirectory : Path → m Bool
  /-- Gives a file its bytes, creating it if it is not there. -/
  write : Path → ByteArray → m (Except Fault Unit)
  /-- Creates a directory in one that is there. -/
  makeDirectory : Path → m (Except Fault Unit)
  /-- Those variables out of a list that are set. -/
  environmentOf : List String → m Environment
  /-- Sets a variable. -/
  setVariable : String → String → m Unit
  print : String → m Unit

namespace Shell

variable {m : Type → Type} [Monad m] [Shell m]

/-- Whether a path leads to a file or directory. -/
def isPresent (path : Path) : m Bool := do
  if ← isFile path then pure true else isDirectory path

/-- The first file of a name in the directories of a path, the innermost one first. -/
def findAbove (name : String) (start : Path) : m (Option Path) :=
  (start.ancestors.map (·.join name)).findM? isFile

/-- Creates the first of some directories, each of which lies in the next one, with those that it
needs. -/
def makeDirectories : List Path → m (Except Fault Unit)
  | [] | [_] => pure (.ok ())
  | path :: above => do
    match ← makeDirectory path with
    | .ok () => pure (.ok ())
    | .error .notFound =>
      match ← makeDirectories above with
      | .ok () => settle path (← makeDirectory path)
      | .error fault => pure (.error fault)
    | .error fault => settle path (.error fault)
where
  /-- A directory that was not created counts if it is there. -/
  settle (path : Path) : Except Fault Unit → m (Except Fault Unit)
    | .ok () => pure (.ok ())
    | .error fault => do
      if ← isDirectory path then pure (.ok ()) else pure (.error fault)

/-- Creates a directory with those above it, as far as they are not there. -/
def ensureDirectory (path : Path) : m (Except Fault Unit) :=
  makeDirectories path.ancestors

/-- Sets a variable to the value of an assignment, unless it is set. -/
def define (assignment : Assignment) : m Unit := do
  let known ← environmentOf (assignment.name :: assignment.referredVariables)
  if (known.get? assignment.name).isNone then
    setVariable assignment.name (assignment.evaluate known)

def variablesFileName : String := ".env"

/-- Takes over the variables of the nearest variables file, if there is one that can be read. -/
def loadVariables : m Unit := do
  match ← findAbove variablesFileName (← workingDirectory) with
  | none => pure ()
  | some path =>
    match ← read path with
    | .ok bytes => (assignments bytes).forM define
    | .error _ => pure ()

end Shell

end NativeViews
