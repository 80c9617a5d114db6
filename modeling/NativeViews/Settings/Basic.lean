import NativeViews.Host.Library
import NativeViews.Settings.Reference
import NativeViews.Toml.Document

/-!
Settings: what a settings file decides, and what holds where it is silent.
-/

namespace NativeViews

structure Settings where
  libraryName : Option String := none
  outputPath : String := "./generated/"
  fileExtension : String := defaultExtension
  schemaPath : Option String := none
  deriving DecidableEq, Repr

namespace Settings

/-- The settings that a section gives, one value for each of its names. A section is a table, or
an array of values in the order of the names. What else is in it does not count, but in a table
its numbers must have values. A date is a section that gives nothing. -/
def section? (names : List String) : Toml → Option (List (Option Toml))
  | .table entries =>
    if entries.all (fun (name, value) => names.contains name || value.isReadable) then
      some (names.map fun name => entries.lookup name)
    else
      none
  | .array items => some (names.zipIdx.map fun (_, position) => items[position]?)
  | .moment _ => some (names.map fun _ => none)
  | _ => none

/-- The texts that an optional section gives under its names. -/
def sectionTexts? (names : List String) (found : Option Toml) : Option (List (Option String)) := do
  let values ← section? names (found.getD (.table []))
  values.mapM fun value => value.mapM Toml.text?

/-- The settings in a document, references still in place. -/
def ofToml? (document : Toml) : Option Settings := do
  match ← section? ["general", "codegen"] document with
  | [general, codegen] =>
    match ← sectionTexts? ["library_name"] general,
        ← sectionTexts? ["output_path", "file_extension", "schema_path"] codegen with
    | [libraryName], [outputPath, fileExtension, schemaPath] =>
      let silent : Settings := {}
      some {
        libraryName
        outputPath := outputPath.getD silent.outputPath
        fileExtension := fileExtension.getD silent.fileExtension
        schemaPath }
    | _, _ => none
  | _ => none

/-- The settings with every reference replaced. The extension of files is taken as it is. -/
def resolve (environment : Environment) (settings : Settings) : Except Failure Settings := do
  let outputPath ← substitute environment settings.outputPath
  let schemaPath ← settings.schemaPath.mapM (substitute environment)
  let libraryName ← settings.libraryName.mapM (substitute environment)
  pure { settings with outputPath, schemaPath, libraryName }

/-- The texts of settings that may hold references. -/
def referring (settings : Settings) : List String :=
  settings.outputPath :: settings.schemaPath.toList ++ settings.libraryName.toList

def referredVariables (settings : Settings) : List String :=
  settings.referring.flatMap referredNames

/-- The settings that a text holds, references still in place. -/
def ofText [Libraries] (text : String) : Except Failure Settings :=
  match (Toml.parse? text).bind ofToml? with
  | some settings => .ok settings
  | none => .error (.malformedSettings (Libraries.toml text))

def fileName (settings : Settings) (library : String) : String :=
  NativeViews.fileName settings.fileExtension library

end Settings

end NativeViews
