import NativeViews.Action.Run
import NativeViews.Proofs.Host.Assembly
import NativeViews.Proofs.Shell.Performance

/-!
Plans: what the settings and the command line decide before the schema is read. What is prepared
on a machine is settled by a plan and by the text of the schema file.
-/

namespace NativeViews

/-- What the settings and a command line decide together. -/
structure Plan where
  settingsFile : Option Path
  /-- The schema file. -/
  schema : Path
  library : String
  extension : String
  /-- The directory to write to. -/
  directory : Path
  deriving DecidableEq, Repr

namespace Plan

/-- The name of the file that is generated. -/
def name (plan : Plan) : String := fileName plan.extension plan.library

/-- The path of the file that is generated. -/
def target (plan : Plan) : Path := plan.directory.join plan.name

/-- The paths of the files that decide what is generated. -/
def sources (plan : Plan) : List Path := plan.settingsFile.toList ++ [plan.schema]

end Plan

namespace Machine

variable [Libraries]

/-- The plan for a schema and a library, as far as they are given. -/
def plan (machine : Machine) (options : Invocation) (schema : Option Path)
    (library : Option String) : Except Failure Plan := do
  let settings ← machine.settings options.config
  let schema ← settings.schemaFile schema
  let library ← settings.library library schema
  pure {
    settingsFile := machine.settingsFile? options.config
    schema
    library
    extension := settings.fileExtension
    directory := settings.outputDirectory options.output }

/-- The schema in a file. -/
def schemaIn (machine : Machine) (path : Path) : Except Failure Schema := do
  Schema.ofText (← machine.textOf path)

/-- The schema that a plan names, with the text that is generated for it. -/
def draft (machine : Machine) (plan : Plan) : Except Failure (Schema × String) := do
  let schema ← machine.schemaIn plan.schema
  let text ← schema.toFileText
  pure (schema, text)

theorem perform_schemaFile (machine : Machine) (path : Path) :
    machine.perform (Schema.ofFile path) = (machine.schemaIn path, machine) :=
  perform_bind_of_looks (perform_readText machine path) fun _ => perform_lift machine _

theorem perform_invocationSettings (machine : Machine) (options : Invocation) :
    machine.perform options.settings
      = (machine.settings options.config, machine.withVariables) := by
  rw [Invocation.settings]
  cases options.config with
  | none => exact perform_nearestOrSilent machine
  | some path => exact perform_ofFile machine path

theorem schemaIn_withVariables (machine : Machine) (path : Path) :
    machine.withVariables.schemaIn path = machine.schemaIn path := by
  rw [schemaIn, schemaIn, textOf_withVariables]

/-- What is prepared is the directory of the plan, with the one file that the plan names. -/
theorem perform_prepare (machine : Machine) (options : Invocation) (schema : Option Path)
    (library : Option String) :
    machine.perform (options.prepare schema library)
      = (do
          let plan ← machine.plan options schema library
          let (_, text) ← machine.draft plan
          pure (plan.directory, [(plan.name, text)]), machine.withVariables) := by
  have steps := perform_bind_of_looks (perform_invocationSettings machine options)
    fun settings => perform_bind_of_looks (perform_lift _ (settings.schemaFile schema))
      fun path => perform_bind_of_looks (perform_lift _ (settings.library library path))
        fun name => perform_bind_of_looks
          (perform_bind_of_looks (perform_schemaFile machine.withVariables path) fun schema =>
            perform_lift _ (schema.generate settings.fileExtension name))
          fun files => perform_pure machine.withVariables
            (settings.outputDirectory options.output, files)
  refine steps.trans ?_
  simp only [plan, draft, schemaIn_withVariables, Schema.generate_eq_bind, bind_assoc, pure_bind,
    ok_bind]
  rfl

/-- Something is prepared exactly where there is a plan and a draft for it. -/
theorem prepare_ok_iff {machine : Machine} {options : Invocation} {schema : Option Path}
    {library : Option String} {directory : Path} {files : GeneratedFiles} :
    (machine.perform (options.prepare schema library)).1 = .ok (directory, files) ↔
      ∃ plan given text, machine.plan options schema library = .ok plan ∧
        machine.draft plan = .ok (given, text) ∧
        directory = plan.directory ∧ files = [(plan.name, text)] := by
  rw [perform_prepare, bind_ok_iff]
  constructor
  · rintro ⟨plan, planned, drafted⟩
    obtain ⟨⟨given, text⟩, done, same⟩ := exists_of_bind_ok drafted
    obtain ⟨rfl, rfl⟩ := Prod.mk.inj (Except.ok.inj same)
    exact ⟨plan, given, text, planned, done, rfl, rfl⟩
  · rintro ⟨plan, given, text, planned, drafted, rfl, rfl⟩
    exact ⟨plan, planned, bind_ok_iff.mpr ⟨_, drafted, rfl⟩⟩

/-- A validation goes through the same plan, and counts what is generated. -/
theorem perform_validation (machine : Machine) (options : Invocation) (schema : Option Path) :
    machine.perform (options.validation schema)
      = (do
          let plan ← machine.plan options schema none
          let (schema, text) ← machine.draft plan
          pure {
            modules := schema.modules.size
            components := schema.components.length
            outputLength := text.utf8ByteSize }, machine.withVariables) := by
  have steps := perform_bind_of_looks (perform_invocationSettings machine options)
    fun settings => perform_bind_of_looks (perform_lift _ (settings.schemaFile schema))
      fun path => perform_bind_of_looks (perform_lift _ (settings.library none path))
        fun name => perform_bind_of_looks (perform_schemaFile machine.withVariables path)
          fun schema => perform_bind_of_looks
            (perform_lift _ (schema.generate settings.fileExtension name))
            fun files => perform_pure machine.withVariables ({
              modules := schema.modules.size
              components := schema.components.length
              outputLength := files.foldl (fun length file => length + file.2.utf8ByteSize) 0 } :
                Validation)
  refine steps.trans ?_
  simp only [plan, draft, schemaIn_withVariables, Schema.generate_eq_bind, bind_assoc, pure_bind,
    ok_bind, List.foldl_cons, List.foldl_nil, Nat.zero_add]
  rfl

/-- A summary is read off the schema, without a library. -/
theorem perform_summary (machine : Machine) (options : Invocation) (schema : Option Path)
    (form : SummaryForm) :
    machine.perform (options.summary schema form)
      = (do
          let settings ← machine.settings options.config
          let path ← settings.schemaFile schema
          let schema ← machine.schemaIn path
          pure (match form with
            | .pretty => renderSummary schema.summary
            | .json => renderSummaryJson schema.summary ++ "\n"), machine.withVariables) := by
  have steps := perform_bind_of_looks (perform_invocationSettings machine options)
    fun settings => perform_bind_of_looks (perform_lift _ (settings.schemaFile schema))
      fun path => perform_bind_of_looks (perform_schemaFile machine.withVariables path)
        fun schema => perform_pure machine.withVariables (match form with
          | .pretty => renderSummary schema.summary
          | .json => renderSummaryJson schema.summary ++ "\n")
  simp only [schemaIn_withVariables] at steps
  refine Eq.trans ?_ steps
  cases form <;> rfl

end Machine

end NativeViews
