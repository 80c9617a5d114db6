import NativeViews.CommandLine.Basic
import NativeViews.Schema.Reader
import NativeViews.Settings.File
import NativeViews.Text.Words

/-!
What a command works on: its settings, its schema, the name of the library, and the directory to
write to. A command line wins over the settings.
-/

namespace NativeViews

/-- A name without the endings that mark schema files, the last character of the name first. -/
def dropSchemaEndings : List Char → List Char
  | 'a' :: 'm' :: 'e' :: 'h' :: 'c' :: 's' :: '.' :: rest => dropSchemaEndings rest
  | chars => chars

/-- The name of the library of a schema file: its stem in Pascal case. -/
def deriveLibrary (schema : Path) : Except Failure String :=
  match schema.stem?.map fun stem => (dropSchemaEndings stem.toList.reverse).reverse with
  | some (first :: rest) => .ok (Text.pascalCase (String.ofList (first :: rest)))
  | _ => .error (.libraryNotDerived schema.text)

namespace Settings

/-- The name of the library: as given, as configured, or else as the schema file has it. -/
def library (settings : Settings) (given : Option String) (schema : Path) :
    Except Failure String :=
  match given.orElse fun _ => settings.libraryName with
  | some name => .ok name
  | none => deriveLibrary schema

/-- The schema file: as given, or else as configured. -/
def schemaFile (settings : Settings) (given : Option Path) : Except Failure Path :=
  match given.orElse fun _ => settings.schemaPath.map Path.mk with
  | some path => .ok path
  | none => .error .schemaNotGiven

/-- The directory to write to: as given, or else as configured. -/
def outputDirectory (settings : Settings) (given : Option Path) : Path :=
  given.getD ⟨settings.outputPath⟩

end Settings

variable [Libraries] {m : Type → Type} [Monad m] [Shell m]

def Invocation.settings (invocation : Invocation) : Attempt m Settings :=
  match invocation.config with
  | some path => Settings.ofFile path
  | none => Settings.nearestOrSilent

def Schema.ofFile (path : Path) : Attempt m Schema := do
  Schema.ofText (← Attempt.readText path)

end NativeViews
