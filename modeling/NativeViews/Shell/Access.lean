import NativeViews.Failure
import NativeViews.Shell.Basic

/-!
Files as commands see them: texts, with every fault that is nothing special a failure.
-/

namespace NativeViews

/-- A part of a command. What it did to the machine stays done where it fails. -/
abbrev Attempt (m : Type → Type) := ExceptT Failure m

namespace Attempt

variable {m : Type → Type} [Monad m]

instance [Shell m] : Shell (Attempt m) where
  workingDirectory := ExceptT.lift Shell.workingDirectory
  read path := ExceptT.lift (Shell.read path)
  isFile path := ExceptT.lift (Shell.isFile path)
  isDirectory path := ExceptT.lift (Shell.isDirectory path)
  write path bytes := ExceptT.lift (Shell.write path bytes)
  makeDirectory path := ExceptT.lift (Shell.makeDirectory path)
  environmentOf names := ExceptT.lift (Shell.environmentOf names)
  setVariable name value := ExceptT.lift (Shell.setVariable name value)
  print text := ExceptT.lift (Shell.print text)

/-- An outcome with its fault as a failure. -/
def ofAccess {α : Type} : Except Fault α → Attempt m α
  | .ok value => pure value
  | .error fault => throw (.inaccessible fault)

/-- The text that bytes encode. -/
def decode (bytes : ByteArray) : Attempt m String :=
  match String.fromUTF8? bytes with
  | some text => pure text
  | none => throw (.inaccessible .notText)

variable [Shell m]

def readText (path : Path) : Attempt m String := do
  decode (← ofAccess (← Shell.read path))

def writeText (path : Path) (text : String) : Attempt m Unit := do
  ofAccess (← Shell.write path text.toUTF8)

end Attempt

end NativeViews
