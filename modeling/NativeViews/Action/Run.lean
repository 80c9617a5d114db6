import NativeViews.Action.Delivery
import NativeViews.Action.Inputs
import NativeViews.CommandLine.Reader
import NativeViews.Schema.Summary

/-!
Carrying out commands. Everything that can go wrong with the inputs goes wrong before anything is
written.
-/

namespace NativeViews

structure Validation where
  modules : Nat
  components : Nat
  /-- The length in bytes of what would be written. -/
  outputLength : Nat
  deriving DecidableEq, Repr

/-- A command line that was turned down, or a command that failed. -/
inductive RunError where
  | refused (refusal : Refusal)
  | failed (failure : Failure)
  deriving DecidableEq, Repr

variable [Libraries] {m : Type → Type} [Monad m] [Shell m]

/-- The files of a library for the schema in a file. -/
def filesOf (extension library : String) (schema : Path) : Attempt m GeneratedFiles := do
  let schema ← Schema.ofFile schema
  schema.generate extension library

/-- What generation would do for the schema in a file. -/
def validate (extension library : String) (schema : Path) : Attempt m Validation := do
  let schema ← Schema.ofFile schema
  let files ← schema.generate extension library
  pure {
    modules := schema.modules.size
    components := schema.components.length
    outputLength := files.foldl (fun length file => length + file.2.utf8ByteSize) 0 }

namespace Invocation

/-- The directory to write to, and the files of a library. -/
def prepare (invocation : Invocation) (schema : Option Path) (library : Option String) :
    Attempt m (Path × GeneratedFiles) := do
  let settings ← invocation.settings
  let schema ← settings.schemaFile schema
  let library ← settings.library library schema
  let files ← filesOf settings.fileExtension library schema
  pure (settings.outputDirectory invocation.output, files)

def validation (invocation : Invocation) (schema : Option Path) : Attempt m Validation := do
  let settings ← invocation.settings
  let schema ← settings.schemaFile schema
  let library ← settings.library none schema
  validate settings.fileExtension library schema

def summary (invocation : Invocation) (schema : Option Path) (form : SummaryForm) :
    Attempt m String := do
  let settings ← invocation.settings
  let schema ← Schema.ofFile (← settings.schemaFile schema)
  match form with
  | .pretty => pure (renderSummary schema.summary)
  | .json => pure (renderSummaryJson schema.summary ++ "\n")

/-- The settings file that `init` starts. -/
def startedFile (invocation : Invocation) : Path :=
  invocation.config.getD ⟨settingsFileName⟩

def run (invocation : Invocation) : Attempt m Unit := do
  match invocation.action with
  | .generate schema library check =>
    let (directory, files) ← invocation.prepare schema library
    if check then files.compare directory else discard (files.deliver directory)
  | .validate schema => discard (invocation.validation schema)
  | .info schema form => Shell.print (← invocation.summary schema form)
  | .init force => discard (Settings.start invocation.startedFile force)

end Invocation

/-- Reads a command line and carries it out. -/
def runCommandLine (arguments : List String) : m (Except RunError Unit) := do
  let found ← Shell.environmentOf [CommandLine.configVariableName]
  match CommandLine.read (found.get? CommandLine.configVariableName) arguments with
  | .error refusal => pure (.error (.refused refusal))
  | .ok invocation => do
    match ← invocation.run.run with
    | .ok () => pure (.ok ())
    | .error failure => pure (.error (.failed failure))

end NativeViews
