import NativeViews.Action.Run

/-!
The command line program: commands on the machine that it runs on.
-/

namespace NativeViews

/-- Computations on the real machine. The environment holds the variables that were set since the
program began. -/
abbrev OnThisMachine := StateT Environment IO

/-- The fault that an error of the machine stands for. -/
def Fault.ofError : IO.Error → Fault
  | .noFileOrDirectory .. => .notFound
  | .alreadyExists .. => .alreadyExists
  | .inappropriateType _ 21 _ => .isDirectory
  | .inappropriateType .. => .notDirectory
  | .invalidArgument _ 36 _ => .tooLong
  | .invalidArgument .. => .nullInPath
  | _ => .denied

/-- JSON and TOML are read by this program itself. -/
instance : Libraries := .silent

namespace OnThisMachine

/-- The result of a computation, or the fault that it ended with. -/
def outcomeOf {α : Type} (computation : IO α) : OnThisMachine (Except Fault α) := do
  match ← (computation.toBaseIO : BaseIO (Except IO.Error α)) with
  | .ok value => pure (.ok value)
  | .error error => pure (.error (Fault.ofError error))

/-- Whether something can be opened, or is there and may not be. -/
def opens (path : String) : OnThisMachine Bool := do
  match ← outcomeOf (IO.FS.Handle.mk path .read) with
  | .ok _ | .error .denied => pure true
  | .error _ => pure false

/-- Whether a path leads to a directory: only then it can be followed by a dot. -/
def leadsToDirectory (path : Path) : OnThisMachine Bool :=
  if path.text.isEmpty then pure false else opens (path.text ++ "/.")

instance : Shell OnThisMachine where
  workingDirectory := do pure ⟨toString (← IO.currentDir)⟩
  read path := outcomeOf (IO.FS.readBinFile path.text)
  isFile path := do
    if ← leadsToDirectory path then pure false else opens path.text
  isDirectory := leadsToDirectory
  write path bytes := outcomeOf (IO.FS.writeBinFile path.text bytes)
  makeDirectory path := outcomeOf (IO.FS.createDir path.text)
  environmentOf names := do
    let known ← get
    names.foldlM (fun found name => do
      let value ←
        match known.get? name with
        | some value => pure (some value)
        | none => IO.getEnv name
      match value with
      | some value => pure (found.insert name value)
      | none => pure found) .empty
  setVariable name value := modify (·.insert name value)
  print text := IO.print text

end OnThisMachine

/-- What is printed when help is wanted, or a command line cannot be read. -/
def usage : String :=
  "Usage: viewgen [OPTIONS] <COMMAND>\n"
    ++ "\n"
    ++ "Commands:\n"
    ++ "  generate [SCHEMA] [-l <NAME>] [--check]\n"
    ++ "  validate [SCHEMA]\n"
    ++ "  info [SCHEMA] [--format pretty|json]\n"
    ++ "  init [-f]\n"
    ++ "\n"
    ++ "Options:\n"
    ++ "  -c, --config <FILE>\n"
    ++ "  -o, --output <DIRECTORY>\n"
    ++ "  -v, --verbose\n"
    ++ "  -q, --quiet\n"
    ++ "  -h, --help\n"
    ++ "  -V, --version\n"

def versionLine : String := "viewgen 0.1.0\n"

/-- Tells why a command line was turned down, with the exit code. -/
def Refusal.report : Refusal → IO UInt32
  | .helpWanted => do
    IO.print usage
    pure 0
  | .versionWanted => do
    IO.print versionLine
    pure 0
  | _ => do
    IO.eprint usage
    pure 2

end NativeViews

def main (arguments : List String) : IO UInt32 := do
  let command : NativeViews.OnThisMachine (Except NativeViews.RunError Unit) :=
    NativeViews.runCommandLine arguments
  match ← command.run' .empty with
  | .ok () => pure 0
  | .error (.refused refusal) => refusal.report
  | .error (.failed failure) =>
    IO.eprintln ("Error: " ++ failure.message)
    pure 1
