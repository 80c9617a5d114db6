import NativeViews.CommandLine.Level

/-!
Reading command lines. What comes before the command and what comes after it are read in the
same way; options that hold everywhere may be in either part.
-/

namespace NativeViews.CommandLine

def configVariableName : String := "VIEWGEN_CONFIG"

/-- The highest count of requests for more output. -/
def verbosityLimit : Nat := 255

/-- What both parts of a command line ask for. An option behind the command wins over the same
option before it, and either wins over the variable. -/
def assemble (configVariable : Option String) (verb : Verb) (before after : Level) :
    Invocation :=
  let path (setting : Setting) : Option Path :=
    ((after.value? (.setting setting)).orElse fun _ => before.value? (.setting setting)).map .mk
  let count (level : Level) : Nat := min verbosityLimit (level.switches.count .verbose)
  let schema : Option Path := (after.value? .schema).map .mk
  { config := (path .config).orElse fun _ => configVariable.map .mk
    verbosity := if count after = 0 then count before else count after
    quiet := before.switches.contains .quiet || after.switches.contains .quiet
    output := path .output
    action :=
      match verb with
      | .generate =>
        .generate schema (after.value? (.setting .library)) (after.switches.contains .check)
      | .validate => .validate schema
      | .info =>
        .info schema (((after.value? (.setting .form)).bind SummaryForm.ofName?).getD .pretty)
      | .init => .init (after.switches.contains .force) }

/-- Why a command line ends without a command. -/
def withoutCommand (configVariable : Option String) (level : Level) : Refusal :=
  if level.values.isEmpty ∧ level.switches.isEmpty ∧ configVariable.isNone then .nothingGiven
  else .missingSubcommand

/-- What becomes of a request for help on a command. -/
def helpOn : List String → Refusal
  | [] => .helpWanted
  | [name] => if Level.isCommandName name then .helpWanted else .invalidSubcommand
  | _ => .invalidSubcommand

/-- The command that an argument names where it may name one. -/
def commandName? (level : Level) (argument : String) : Option String :=
  if level.bare || level.isAwaiting || !Level.isCommandName argument then none else some argument

/-- What the rest of a command line asks for, when `level` came before it. -/
def readFrom (configVariable : Option String) (level : Level) :
    List String → Except Refusal Invocation
  | [] => do
    let level ← level.finish configVariable
    throw (withoutCommand configVariable level)
  | argument :: rest => do
    match commandName? level argument with
    | none =>
      let level ← level.read argument
      readFrom configVariable level rest
    | some name =>
      match Verb.ofName? name with
      | none => throw (helpOn rest)
      | some verb =>
        let after ← rest.foldlM Level.read { verb := some verb }
        let after ← after.finish configVariable
        let before ← level.finish configVariable
        pure (assemble configVariable verb before after)

def read (configVariable : Option String) (arguments : List String) :
    Except Refusal Invocation :=
  readFrom configVariable { verb := none } arguments

end NativeViews.CommandLine
