import NativeViews.Shell.Basic

/-!
A machine as a value: its files, its variables, and what was printed on it. Commands run on it as
they do on a real one.
-/

namespace NativeViews

structure Machine where
  files : FileTree
  /-- The directory in which the program works. -/
  working : Location
  environment : Environment
  printed : String

abbrev OnMachine := StateM Machine

namespace Machine

/-- Changes the files, or leaves them as they are where the change fails. -/
def changeFiles (machine : Machine) : Except Fault FileTree → Except Fault Unit × Machine
  | .ok files => (.ok (), { machine with files })
  | .error fault => (.error fault, machine)

/-- The variables of an environment that a list names. -/
def restrict (environment : Environment) (names : List String) : Environment :=
  names.foldl (fun found name =>
    match environment.get? name with
    | some value => found.insert name value
    | none => found) .empty

/-- The absolute path of a location. -/
def pathOf (place : Location) : Path :=
  ⟨"/" ++ "/".intercalate place⟩

end Machine

instance : Shell OnMachine where
  workingDirectory machine := (Machine.pathOf machine.working, machine)
  read path machine := (machine.files.read machine.working path, machine)
  isFile path machine := (machine.files.has (·.isFile) machine.working path, machine)
  isDirectory path machine := (machine.files.has (·.isDirectory) machine.working path, machine)
  write path bytes machine :=
    machine.changeFiles (machine.files.write machine.working path bytes)
  makeDirectory path machine :=
    machine.changeFiles (machine.files.makeDirectory machine.working path)
  environmentOf names machine := (Machine.restrict machine.environment names, machine)
  setVariable name value machine :=
    ((), { machine with environment := machine.environment.insert name value })
  print text machine := ((), { machine with printed := machine.printed ++ text })

end NativeViews
