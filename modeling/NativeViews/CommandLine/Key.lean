import NativeViews.CommandLine.Basic

/-!
The options of command lines: those that take a value and those that do not, with the names under
which a command knows them. Some hold for every command and may also come before it.
-/

namespace NativeViews

/-- An option that takes a value. -/
inductive Setting where
  | config
  | output
  | library
  | form
  deriving DecidableEq, Repr

/-- An option that takes no value. -/
inductive Switch where
  | verbose
  | quiet
  | check
  | force
  | help
  | version
  deriving DecidableEq, Repr

inductive Key where
  | setting (setting : Setting)
  | switch (switch : Switch)
  deriving DecidableEq, Repr

namespace Key

/-- The name behind two dashes. -/
def long : Key → String
  | setting .config => "config"
  | setting .output => "output"
  | setting .library => "library"
  | setting .form => "format"
  | switch .verbose => "verbose"
  | switch .quiet => "quiet"
  | switch .check => "check"
  | switch .force => "force"
  | switch .help => "help"
  | switch .version => "version"

/-- The letter behind one dash. -/
def short? : Key → Option Char
  | setting .config => some 'c'
  | setting .output => some 'o'
  | setting .library => some 'l'
  | setting .form => none
  | switch .verbose => some 'v'
  | switch .quiet => some 'q'
  | switch .check => none
  | switch .force => some 'f'
  | switch .help => some 'h'
  | switch .version => some 'V'

def everywhere : List Key :=
  [setting .config, setting .output, switch .verbose, switch .quiet, switch .help, switch .version]

/-- The options of one command, or of none for those before the command. -/
def ownOf : Option Verb → List Key
  | none => []
  | some .generate => [setting .library, switch .check]
  | some .validate => []
  | some .info => [setting .form]
  | some .init => [switch .force]

/-- The options that may be given to a command, or before it. -/
def knownTo (verb : Option Verb) : List Key :=
  everywhere ++ ownOf verb

def ofLong? (verb : Option Verb) (name : String) : Option Key :=
  (knownTo verb).find? fun key => key.long = name

def ofShort? (verb : Option Verb) (letter : Char) : Option Key :=
  (knownTo verb).find? fun key => key.short? = some letter

end Key

end NativeViews
