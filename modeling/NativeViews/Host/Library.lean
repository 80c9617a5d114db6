import NativeViews.Host.ComponentModule
import NativeViews.Script.Printer

/-!
The file of a library: a banner, the imports, and the modules of all components.
-/

namespace NativeViews

open Script (Program)

def fileBanner : String :=
  "/**\n"
    ++ " * This code was generated by viewgen.\n"
    ++ " *\n"
    ++ " * Do not edit this file as changes may cause incorrect behavior and will be lost\n"
    ++ " * once the code is regenerated.\n"
    ++ " *\n"
    ++ " * @flow\n"
    ++ " *\n"
    ++ " * @generated by viewgen\n"
    ++ " */\n"
    ++ "\n"
    ++ "'use strict';\n"

/-- A text without the line ends at its end. -/
def trimLineEnds (text : String) : String :=
  String.ofList (text.toList.reverse.dropWhile (· = '\n')).reverse

/-- The text of a file with imports and a body. Either is left out, with its blank line, when
there is nothing in it; the body ends with one line end. -/
def renderFile (imports : Imports) (body : String) : String :=
  let statements := imports.statements
  let head := if statements.isEmpty then "" else "\n" ++ String.join (statements.map (· ++ "\n"))
  let trimmed := trimLineEnds body
  let tail := if trimmed.isEmpty then "" else "\n" ++ trimmed ++ "\n"
  fileBanner ++ head ++ tail

def defaultExtension : String := "js"

/-- The name of the file of a library. Dots before the extension are ignored, and so is an
extension of dots alone. -/
def fileName (extension library : String) : String :=
  let trimmed := String.ofList (extension.toList.dropWhile (· = '.'))
  library ++ "NativeViewConfig" ++ (if trimmed.isEmpty then "" else "." ++ trimmed)

/-- The modules of the components in one module of a schema, none if it is of another kind. -/
def Module.toModules (module : Module) : Building (List Program) :=
  match module.components? with
  | none => pure []
  | some parts => parts.entries.mapM fun (name, component) => component.toModule name

/-- The modules of all components, module by module. -/
def Schema.toModules (schema : Schema) : Building (List Program) := do
  let modules ← schema.modules.entries.mapM fun ((_, module) : String × Module) => module.toModules
  pure modules.flatten

/-- The modules of a file, a blank line apart. -/
def renderModules (modules : List Program) : String :=
  "\n\n".intercalate (modules.map fun module => trimLineEnds module.render)

def Schema.toFileText (schema : Schema) : Except Failure String :=
  let built := schema.toModules
  built.outcome.map fun modules => renderFile built.imports (renderModules modules)

/-- Names of files with their texts, in the order of the names. -/
abbrev GeneratedFiles := List (String × String)

def Schema.generate (extension library : String) (schema : Schema) :
    Except Failure GeneratedFiles :=
  schema.toFileText.map fun text => [(fileName extension library, text)]

end NativeViews
