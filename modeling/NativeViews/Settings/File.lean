import NativeViews.Settings.Basic
import NativeViews.Shell.Access

/-!
Settings files: finding and reading the one that holds, and starting a new one.
-/

namespace NativeViews.Settings

variable [Libraries] {m : Type → Type} [Monad m] [Shell m]

/-- The settings in a file. Variables files are taken over first. -/
def ofFile (path : Path) : Attempt m Settings := do
  Shell.loadVariables
  let settings ← Settings.ofText (← Attempt.readText path)
  settings.resolve (← Shell.environmentOf settings.referredVariables)

/-- The nearest settings file in the working directory and above it. -/
def findFile : m (Option Path) := do
  Shell.findAbove settingsFileName (← Shell.workingDirectory)

/-- The settings in the nearest file, which must be there. -/
def nearest : Attempt m Settings := do
  match ← findFile with
  | some path => ofFile path
  | none => throw .settingsNotFound

/-- The settings in the nearest file, or what holds without one. -/
def nearestOrSilent : Attempt m Settings := do
  match ← findFile with
  | some path => ofFile path
  | none =>
    Shell.loadVariables
    pure {}

/-- The text of a new settings file. It decides nothing else than what holds without it. -/
def template : String :=
  "# viewgen Configuration\n"
    ++ "\n"
    ++ "[general]\n"
    ++ "# Library name used when --library is not given.\n"
    ++ "# Defaults to the schema file name in PascalCase.\n"
    ++ "# library_name = \"MyLibrary\"\n"
    ++ "\n"
    ++ "[codegen]\n"
    ++ "# Output directory for the generated view config file\n"
    ++ "# Supports $\x7bVAR\x7d and $\x7bVAR:-default\x7d\n"
    ++ "output_path = \"./generated/\"\n"
    ++ "\n"
    ++ "# Extension of the generated file\n"
    ++ "file_extension = \"js\"\n"
    ++ "\n"
    ++ "# Schema used when none is given on the command line\n"
    ++ "# schema_path = \"./schema.json\"\n"

/-- Starts a settings file, unless the path is taken and `force` is not set. Tells whether it
did. -/
def start (path : Path) (force : Bool) : Attempt m Bool := do
  let present ← Shell.isPresent path
  if present && !force then pure false
  else
    Attempt.writeText path template
    pure true

end NativeViews.Settings
