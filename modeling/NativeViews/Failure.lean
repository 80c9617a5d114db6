import NativeViews.Text.Printable

/-!
What can go wrong between a schema and a generated file, each with its message.
-/

namespace NativeViews

/-! ## What others report -/

/-- Why a file or directory cannot be reached or changed, or not be read as a text. -/
inductive Fault where
  | notFound
  | notDirectory
  | isDirectory
  | alreadyExists
  /-- A name or a path with more bytes than it may have. -/
  | tooLong
  /-- A path with a null character. -/
  | nullInPath
  /-- A file with bytes that are not those of a text. -/
  | notText
  /-- Whatever else a machine may have against it. -/
  | denied
  deriving DecidableEq, Repr

/-- The words of the operating system, or of the code that asks it. -/
def Fault.message : Fault → String
  | notFound => "No such file or directory (os error 2)"
  | notDirectory => "Not a directory (os error 20)"
  | isDirectory => "Is a directory (os error 21)"
  | alreadyExists => "File exists (os error 17)"
  | tooLong => "File name too long (os error 36)"
  | nullInPath => "file name contained an unexpected NUL byte"
  | notText => "stream did not contain valid UTF-8"
  | denied => "Permission denied (os error 13)"

/-- What a JSON text is read as. -/
inductive JsonTarget where
  | schema
  | component
  | base
  | type
  | map
  deriving DecidableEq, Repr

/-- Why a JSON text is refused, and how far it had been read by then. -/
structure JsonReport where
  cause : String
  line : Nat
  column : Nat
  deriving DecidableEq, Repr

/-- A report without a place has line 0. -/
def JsonReport.message (report : JsonReport) : String :=
  if report.line = 0 then report.cause
  else report.cause ++ " at line " ++ toString report.line ++ " column " ++ toString report.column

/-- The libraries that read JSON and TOML, as far as they tell why they refuse a text. Which texts
they refuse is not left to them: that is decided by the readers of this project. -/
class Libraries where
  /-- What is reported of a JSON text that cannot be read as what it should be. -/
  json : JsonTarget → String → JsonReport
  /-- What is reported of a TOML text that cannot be read as settings. -/
  toml : String → String

/-- Libraries that say no more than that a text was refused. -/
@[reducible] def Libraries.silent : Libraries where
  json _ _ := ⟨"the text cannot be read", 0, 0⟩
  toml _ := "the text cannot be read"

/-! ## Failures -/

inductive Failure where
  /-- A type with a tag, or a reserved name, that has no meaning. -/
  | unknownType (tag : String)
  /-- A base of the props that is not built in. -/
  | invalidInheritance (kind known : String)
  | missingField (field : String)
  /-- A text that is no JSON, or has not the shape of what is read from it. -/
  | malformedJson (report : JsonReport)
  /-- A text that is no TOML, or has not the shape of settings. -/
  | malformedSettings (report : String)
  /-- No settings file in the working directory and above. -/
  | settingsNotFound
  /-- A reference to a variable that is not set and has no default. -/
  | variableNotSet (name : String)
  | schemaNotGiven
  /-- A schema path without a stem to name the library after. -/
  | libraryNotDerived (path : String)
  /-- A generated file that is absent, or differs from what would be written. -/
  | outOfDate (path : String)
  /-- A file or directory that cannot be read or written. -/
  | inaccessible (fault : Fault)
  deriving DecidableEq, Repr

def settingsFileName : String := "viewgen.toml"

namespace Text

/-- How a character of a quoted text is shown in a message. -/
def shownChar (c : Char) : List Char :=
  if c = '\x00' then ['\\', '0']
  else if c = '\t' then ['\\', 't']
  else if c = '\r' then ['\\', 'r']
  else if c = '\n' then ['\\', 'n']
  else if c = '\\' ∨ c = '"' then ['\\', c]
  else if isPrintable c then [c]
  else ['\\', 'u', '\x7b'] ++ Nat.toDigits 16 c.toNat ++ ['\x7d']

/-- A text between double quotes, as messages show it. -/
def shown (text : String) : String :=
  String.ofList ('"' :: text.toList.flatMap shownChar ++ ['"'])

end Text

def Failure.message : Failure → String
  | unknownType tag => "Received unknown typeAnnotation: \"" ++ tag ++ "\""
  | invalidInheritance kind known =>
    "Invalid extended type: " ++ kind ++ " (knownTypeName: " ++ known ++ ")"
  | missingField field => "Missing required field: " ++ field
  | malformedJson report => "JSON error: " ++ report.message
  | malformedSettings report => "Configuration error: " ++ report
  | settingsNotFound =>
    "Configuration error: " ++ settingsFileName
      ++ " not found in current or any parent directory."
  | variableNotSet name => "Environment variable not set: " ++ name
  | schemaNotGiven =>
    "Configuration error: No schema given and codegen.schema_path is not set in the configuration"
  | libraryNotDerived path =>
    "Configuration error: Cannot derive a library name from " ++ Text.shown path
      ++ "; pass --library"
  | outOfDate path => "Generated file is out of date: " ++ path
  | inaccessible fault => "IO error: " ++ fault.message

end NativeViews
