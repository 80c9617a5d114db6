import NativeViews.OrderedMap

/-!
Environments: the variables that are set, with their values.
-/

namespace NativeViews

/-- The variables that are set. A value is a text: one of other bytes cannot be written here, and
commands take a variable with such a value as not set. -/
abbrev Environment := OrderedMap String

namespace Environment

/-- The variable in which a name is looked up: the name up to its first equals sign. -/
def variableOf (name : String) : String :=
  String.ofList (name.toList.takeWhile (· != '='))

/-- What is found under a name. A variable is kept as its name, an equals sign and its value, and
a name is looked for with an equals sign behind it; so a name that holds an equals sign finds what
follows in a value that begins like the rest of the name. -/
def find? (environment : Environment) (name : String) : Option String :=
  match name.toList.dropWhile (· != '=') with
  | [] => environment.get? name
  | _ :: rest => do
    let value ← environment.get? (variableOf name)
    let start := rest ++ ['=']
    if start.isPrefixOf value.toList then some (String.ofList (value.toList.drop start.length))
    else none

end Environment

end NativeViews
