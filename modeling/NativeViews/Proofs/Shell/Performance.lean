import NativeViews.Shell.Access
import NativeViews.Shell.Machine
import NativeViews.Settings.File

/-!
Commands performed on a machine: what each step gives, and the machine that it leaves. What only
looks at the machine is an expression over its state.
-/

namespace NativeViews

namespace Machine

variable {α β : Type} {machine later : Machine}

/-- What comes of a part of a command on a machine, and the machine after it. -/
def perform (machine : Machine) (part : Attempt OnMachine α) : Except Failure α × Machine :=
  (part.run.run machine).run

/-! ## Steps -/

@[simp] theorem perform_pure (machine : Machine) (value : α) :
    machine.perform (pure value) = (.ok value, machine) := rfl

theorem perform_bind (machine : Machine) (first : Attempt OnMachine α)
    (next : α → Attempt OnMachine β) :
    machine.perform (first >>= next) =
      match machine.perform first with
      | (.ok value, later) => later.perform (next value)
      | (.error failure, later) => (.error failure, later) := by
  unfold perform
  rw [ExceptT.run_bind, StateT.run_bind]
  cases first.run.run machine with
  | mk outcome later => cases outcome <;> rfl

theorem perform_bind_of_ok {first : Attempt OnMachine α} {value : α}
    (done : machine.perform first = (.ok value, later)) (next : α → Attempt OnMachine β) :
    machine.perform (first >>= next) = later.perform (next value) := by
  rw [perform_bind, done]

/-- Steps that leave a machine as it is give what their outcomes give. -/
theorem perform_bind_of_looks {first : Attempt OnMachine α} {outcome : Except Failure α}
    {next : α → Attempt OnMachine β} {outcomes : α → Except Failure β}
    (done : machine.perform first = (outcome, later))
    (looks : ∀ value, later.perform (next value) = (outcomes value, later)) :
    machine.perform (first >>= next) = (outcome >>= outcomes, later) := by
  rw [perform_bind, done]
  cases outcome with
  | error failure => rfl
  | ok value => exact looks value

theorem perform_discard (machine : Machine) (part : Attempt OnMachine α) :
    machine.perform (discard part)
      = ((machine.perform part).1.map fun _ => (), (machine.perform part).2) := by
  have steps : discard part = part >>= fun _ => pure () := (bind_pure_comp (fun _ => ()) part).symm
  rw [steps, perform_bind]
  rcases machine.perform part with ⟨outcome, later⟩
  cases outcome <;> rfl

/-- What does not ask the machine leaves it as it is. -/
theorem perform_lift (machine : Machine) (outcome : Except Failure α) :
    machine.perform (liftM outcome) = (outcome, machine) := by
  cases outcome <;> rfl

theorem perform_ofAccess (machine : Machine) (outcome : Except Fault α) :
    machine.perform (Attempt.ofAccess outcome)
      = (outcome.mapError .inaccessible, machine) := by
  cases outcome <;> rfl

theorem perform_read (machine : Machine) (path : Path) :
    machine.perform (Shell.read path)
      = (.ok (machine.files.read machine.working path), machine) := rfl

theorem perform_isFile (machine : Machine) (path : Path) :
    machine.perform (Shell.isFile path)
      = (.ok (machine.files.has (·.isFile) machine.working path), machine) := rfl

theorem perform_workingDirectory (machine : Machine) :
    machine.perform Shell.workingDirectory = (.ok (pathOf machine.working), machine) := rfl

theorem perform_environmentOf (machine : Machine) (names : List String) :
    machine.perform (Shell.environmentOf names)
      = (.ok (restrict machine.environment names), machine) := rfl

/-! ## Looking for files -/

/-- The first file of a name in the working directory and above. -/
def nearest? (machine : Machine) (name : String) : Option Path :=
  ((pathOf machine.working).ancestors.map (·.join name)).find?
    (machine.files.has (·.isFile) machine.working)

theorem perform_findM? (machine : Machine) (paths : List Path) :
    machine.perform (paths.findM? Shell.isFile)
      = (.ok (paths.find? (machine.files.has (·.isFile) machine.working)), machine) := by
  induction paths with
  | nil => rfl
  | cons path paths ih =>
    rw [List.findM?, perform_bind_of_ok (perform_isFile machine path), List.find?_cons]
    cases machine.files.has (·.isFile) machine.working path with
    | true => rfl
    | false => exact ih

theorem perform_findAbove (machine : Machine) (name : String) :
    machine.perform (Shell.findAbove name (pathOf machine.working))
      = (.ok (machine.nearest? name), machine) :=
  perform_findM? machine _

/-- The text that bytes encode. -/
def decoded (bytes : ByteArray) : Except Failure String :=
  match String.fromUTF8? bytes with
  | some text => .ok text
  | none => .error (.inaccessible .notText)

theorem decoded_ok_iff {bytes : ByteArray} {text : String} :
    decoded bytes = .ok text ↔ bytes = text.toUTF8 := by
  rw [decoded, String.fromUTF8?]
  split
  · next found same =>
    split at same
    · next valid =>
      obtain rfl := Option.some.inj same
      rw [Except.ok.injEq, ← String.toByteArray_inj]
      rfl
    · exact nomatch same
  · next absent =>
    split at absent
    · exact nomatch absent
    · next invalid =>
      refine ⟨nofun, ?_⟩
      rintro rfl
      exact absurd text.isValidUTF8 invalid

theorem perform_decode (machine : Machine) (bytes : ByteArray) :
    machine.perform (Attempt.decode bytes) = (decoded bytes, machine) := by
  rw [Attempt.decode, decoded]
  cases String.fromUTF8? bytes <;> rfl

/-- The text of a file. -/
def textOf (machine : Machine) (path : Path) : Except Failure String := do
  let bytes ← (machine.files.read machine.working path).mapError Failure.inaccessible
  decoded bytes

theorem perform_readText (machine : Machine) (path : Path) :
    machine.perform (Attempt.readText path) = (machine.textOf path, machine) := by
  rw [Attempt.readText, perform_bind_of_ok (perform_read machine path)]
  exact perform_bind_of_looks (perform_ofAccess machine _) (perform_decode machine)

/-! ## Variables -/

/-- An environment with the variable of an assignment, if it was not set. -/
def define (environment : Environment) (assignment : Assignment) : Environment :=
  let known := restrict environment (assignment.name :: assignment.referredVariables)
  if (known.get? assignment.name).isNone then
    environment.insert assignment.name (assignment.evaluate known)
  else environment

theorem perform_define (machine : Machine) (assignment : Assignment) :
    machine.perform (Shell.define assignment)
      = (.ok (), { machine with environment := define machine.environment assignment }) := by
  rw [Shell.define, perform_bind_of_ok (perform_environmentOf machine _), define]
  split <;> rfl

theorem perform_forM_define (machine : Machine) (assignments : List Assignment) :
    machine.perform (assignments.forM Shell.define)
      = (.ok (), { machine with environment := assignments.foldl define machine.environment }) := by
  induction assignments generalizing machine with
  | nil => rfl
  | cons assignment assignments ih =>
    rw [List.foldl_cons, ← ih { machine with environment := define machine.environment assignment }]
    exact perform_bind_of_ok (perform_define machine assignment) fun _ =>
      assignments.forM Shell.define

/-- The bytes of the nearest variables file. -/
def variablesFile? (machine : Machine) : Option ByteArray :=
  (machine.nearest? Shell.variablesFileName).bind fun path =>
    (machine.files.read machine.working path).toOption

/-- The assignments of the nearest variables file. -/
def assigned (machine : Machine) : List Assignment :=
  machine.variablesFile?.elim [] assignments

/-- The machine after the variables of the nearest variables file were taken over. -/
def withVariables (machine : Machine) : Machine :=
  { machine with environment := machine.assigned.foldl define machine.environment }

@[simp] theorem files_withVariables (machine : Machine) :
    machine.withVariables.files = machine.files := by
  rw [withVariables]

@[simp] theorem working_withVariables (machine : Machine) :
    machine.withVariables.working = machine.working := by
  rw [withVariables]

theorem perform_loadVariables (machine : Machine) :
    machine.perform Shell.loadVariables = (.ok (), machine.withVariables) := by
  rw [Shell.loadVariables, perform_bind_of_ok (perform_workingDirectory machine),
    perform_bind_of_ok (perform_findAbove machine _), withVariables, assigned, variablesFile?]
  cases machine.nearest? Shell.variablesFileName with
  | none => rfl
  | some path =>
    rw [perform_bind_of_ok (perform_read machine path), Option.bind_some]
    cases machine.files.read machine.working path with
    | error fault => rfl
    | ok bytes => exact perform_forM_define machine _

/-! ## Settings -/

section Settings

variable [Libraries]

/-- The settings that a text gives in an environment, references replaced. -/
def settingsOf (environment : Environment) (text : String) : Except Failure Settings := do
  let settings ← Settings.ofText text
  settings.resolve (restrict environment settings.referredVariables)

/-- The settings that a file gives, references replaced. -/
def settingsIn (machine : Machine) (path : Path) : Except Failure Settings := do
  let text ← machine.textOf path
  settingsOf machine.withVariables.environment text

omit [Libraries] in
theorem textOf_withVariables (machine : Machine) (path : Path) :
    machine.withVariables.textOf path = machine.textOf path := by
  simp only [textOf, files_withVariables, working_withVariables]

theorem perform_ofFile (machine : Machine) (path : Path) :
    machine.perform (Settings.ofFile path) = (machine.settingsIn path, machine.withVariables) := by
  rw [Settings.ofFile, perform_bind_of_ok (perform_loadVariables machine), settingsIn,
    ← textOf_withVariables]
  refine perform_bind_of_looks (perform_readText _ path) fun text => ?_
  refine perform_bind_of_looks (perform_lift _ _) fun settings => ?_
  rw [perform_bind_of_ok (perform_environmentOf _ _), perform_lift]

/-- The settings file: the one that is given, or the nearest one. -/
def settingsFile? (machine : Machine) (given : Option Path) : Option Path :=
  given.orElse fun _ => machine.nearest? settingsFileName

/-- The settings in the given file, else in the nearest one, else what holds without any. -/
def settings (machine : Machine) (given : Option Path) : Except Failure Settings :=
  match machine.settingsFile? given with
  | some path => machine.settingsIn path
  | none => .ok {}

omit [Libraries] in
theorem perform_findFile (machine : Machine) :
    machine.perform Settings.findFile = (.ok (machine.nearest? settingsFileName), machine) := by
  rw [Settings.findFile, perform_bind_of_ok (perform_workingDirectory machine), perform_findAbove]

theorem perform_nearestOrSilent (machine : Machine) :
    machine.perform Settings.nearestOrSilent
      = (machine.settings none, machine.withVariables) := by
  rw [Settings.nearestOrSilent, perform_bind_of_ok (perform_findFile machine), settings,
    settingsFile?, Option.orElse_none]
  cases machine.nearest? settingsFileName with
  | none => rw [perform_bind_of_ok (perform_loadVariables machine), perform_pure]
  | some path => exact perform_ofFile machine path

end Settings

end Machine

end NativeViews
