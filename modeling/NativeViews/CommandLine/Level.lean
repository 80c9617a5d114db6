import NativeViews.CommandLine.Key

/-!
What has been given so far to a command, or before the command. A value that stands on its own
is looked at only when something follows it, so that what is wrong with it may be told late.
-/

namespace NativeViews

/-- What a value may be for. -/
inductive Slot where
  | setting (setting : Setting)
  /-- The schema, which needs no option. -/
  | schema
  deriving DecidableEq, Repr

def Slot.accepts : Slot → String → Bool
  | setting .library, _ => true
  | setting .form, value => (SummaryForm.ofName? value).isSome
  | _, value => !value.isEmpty

/-- What has been given to a command, or before it. -/
structure Level where
  verb : Option Verb
  values : List (Slot × String) := []
  switches : List Switch := []
  /-- A slot whose value is awaited, or was given and has not been looked at. -/
  pending : Option (Slot × Option String) := none
  /-- Whether a double dash has ended the options. -/
  bare : Bool := false
  deriving DecidableEq, Repr

namespace Level

def value? (level : Level) (slot : Slot) : Option String :=
  level.values.lookup slot

/-- Whether the next argument is the value of an option. -/
def isAwaiting (level : Level) : Bool :=
  match level.pending with
  | some (_, none) => true
  | _ => false

def give (level : Level) (slot : Slot) (value : String) : Except Refusal Level :=
  if (level.value? slot).isSome then .error .argumentConflict
  else if slot.accepts value then .ok { level with values := (slot, value) :: level.values }
  else .error .invalidValue

/-- A level in which nothing is left to look at. -/
def settle (level : Level) : Except Refusal Level :=
  match level.pending with
  | none => .ok level
  | some (_, none) => .error .invalidValue
  | some (slot, some value) => { level with pending := none }.give slot value

def turn (level : Level) (switch : Switch) : Except Refusal Level := do
  let level ← level.settle
  match switch with
  | .help => throw .helpWanted
  | .version => throw .versionWanted
  | .verbose => pure { level with switches := .verbose :: level.switches }
  | switch =>
    if switch ∈ level.switches then throw .argumentConflict
    else pure { level with switches := switch :: level.switches }

/-- A level with an option that takes a value. Without a value attached, the next argument is
awaited. -/
def choose (level : Level) (setting : Setting) (attached : Option String) :
    Except Refusal Level := do
  let level ← level.settle
  match attached with
  | some value => level.give (.setting setting) value
  | none => pure { level with pending := some (.setting setting, none) }

/-- A level after an option with two dashes. -/
def readLong (level : Level) (name : String) (attached : Option String) :
    Except Refusal Level :=
  match Key.ofLong? level.verb name with
  | none => .error .unknownArgument
  | some (.setting setting) => level.choose setting attached
  | some (.switch switch) =>
    if attached.isSome then .error .tooManyValues else level.turn switch

/-- The value attached to a letter by what follows it, with or without an equals sign. -/
def attachedTo : List Char → Option String
  | [] => none
  | '=' :: rest => some (String.ofList rest)
  | rest => some (String.ofList rest)

/-- A level after options by their letters. The first one that takes a value takes the rest. -/
def readLetters (level : Level) : List Char → Except Refusal Level
  | [] => .ok level
  | letter :: rest =>
    match Key.ofShort? level.verb letter with
    | none => .error .unknownArgument
    | some (.setting setting) => level.choose setting (attachedTo rest)
    | some (.switch switch) => do
      let level ← level.turn switch
      level.readLetters rest

/-- Whether a level has a place for a schema that nothing has taken. -/
def hasSchemaLeft (level : Level) : Bool :=
  (level.verb.any (· != .init)) && (level.value? .schema).isNone
    && level.pending.all (·.1 != .schema)

def isCommandName (name : String) : Bool :=
  name = "help" || (Verb.ofName? name).isSome

/-- A level after an argument that stands on its own. -/
def readBare (level : Level) (argument : String) : Except Refusal Level :=
  if level.hasSchemaLeft then do
    let level ← level.settle
    pure { level with pending := some (.schema, some argument) }
  else if level.verb.isSome || (level.bare && isCommandName argument) then
    .error .unknownArgument
  else
    .error .invalidSubcommand

def read (level : Level) (argument : String) : Except Refusal Level :=
  if level.bare then level.readBare argument
  else
    match argument.toList with
    | ['-', '-'] => .ok { level with bare := true }
    | '-' :: '-' :: chars =>
      let name := String.ofList (chars.takeWhile (· != '='))
      match chars.dropWhile (· != '=') with
      | [] => level.readLong name none
      | _ :: value => level.readLong name (some (String.ofList value))
    | '-' :: letter :: rest => level.readLetters (letter :: rest)
    | _ =>
      match level.pending with
      | some (slot, none) => .ok { level with pending := some (slot, some argument) }
      | _ => level.readBare argument

/-- A level at its end. The variable gives the settings file where no option does, and must then
not be empty. -/
def finish (configVariable : Option String) (level : Level) : Except Refusal Level := do
  let level ← level.settle
  match level.value? (.setting .config), configVariable with
  | none, some "" => throw .invalidValue
  | _, _ => pure level

end Level

end NativeViews
