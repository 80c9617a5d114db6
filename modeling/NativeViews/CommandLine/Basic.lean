import NativeViews.Files.Path

/-!
What a command line asks for, and why it may be turned down.
-/

namespace NativeViews

inductive SummaryForm where
  | pretty
  | json
  deriving DecidableEq, Repr

namespace SummaryForm

def name : SummaryForm → String
  | pretty => "pretty"
  | json => "json"

def all : List SummaryForm := [pretty, json]

def ofName? (name : String) : Option SummaryForm :=
  all.find? fun form => form.name = name

end SummaryForm

inductive Verb where
  | generate
  | validate
  | info
  | init
  deriving DecidableEq, Repr

namespace Verb

def name : Verb → String
  | generate => "generate"
  | validate => "validate"
  | info => "info"
  | init => "init"

def all : List Verb := [generate, validate, info, init]

def ofName? (name : String) : Option Verb :=
  all.find? fun verb => verb.name = name

end Verb

/-- A command with what only it takes. -/
inductive Action where
  /-- Writes the file of a library, or with `check` only compares it. -/
  | generate (schema : Option Path) (library : Option String) (check : Bool)
  /-- Does all that `generate` does before it writes. -/
  | validate (schema : Option Path)
  /-- Prints a summary of a schema. -/
  | info (schema : Option Path) (form : SummaryForm)
  /-- Starts a settings file; with `force` also where there is one. -/
  | init (force : Bool)
  deriving DecidableEq, Repr

inductive LogLevel where
  | error
  | info
  | debug
  | trace
  deriving DecidableEq, Repr

def LogLevel.name : LogLevel → String
  | error => "error"
  | info => "info"
  | debug => "debug"
  | trace => "trace"

structure Invocation where
  /-- The settings file to use in place of the nearest one. -/
  config : Option Path := none
  /-- How often more output was asked for. -/
  verbosity : Nat := 0
  quiet : Bool := false
  /-- The directory to write to in place of the one in the settings. -/
  output : Option Path := none
  action : Action
  deriving DecidableEq, Repr

/-- How much an invocation logs. To be quiet wins over everything else. -/
def Invocation.logLevel (invocation : Invocation) : LogLevel :=
  if invocation.quiet then .error
  else
    match invocation.verbosity with
    | 0 => .info
    | 1 => .debug
    | _ => .trace

/-- Why a command line asks for nothing that can be done. -/
inductive Refusal where
  /-- An option that is not known here, or an argument too many. -/
  | unknownArgument
  | invalidSubcommand
  /-- A value that is missing, or not one of those that an option takes. -/
  | invalidValue
  /-- An option that is given twice. -/
  | argumentConflict
  /-- A value for an option that takes none. -/
  | tooManyValues
  | missingSubcommand
  | helpWanted
  | versionWanted
  /-- Nothing at all was given, so help is shown. -/
  | nothingGiven
  deriving DecidableEq, Repr

end NativeViews
