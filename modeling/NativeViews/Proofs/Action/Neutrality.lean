import NativeViews.Proofs.Action.Delivery
import NativeViews.Proofs.Settings.Template
import NativeViews.Proofs.Shell.Blindness

/-!
Starting a settings file, and what that changes for later commands: nothing, since the new file
decides nothing. Commands are run on a machine with the file and on the same machine without it.
-/

namespace NativeViews

open GeneratedFiles (deliver compare compareFile)
open NativeViews.Path (course)

/-- The paths that an action goes to where no settings file decides anything: those of the schema,
of the directory to write to, and of the file that is generated. -/
def Invocation.paths (options : Invocation) : Action → List Path
  | .generate schema library _ =>
    let silent : Settings := {}
    let directory := silent.outputDirectory options.output
    let target? (schema : Path) : Option Path :=
      (silent.library library schema).toOption.map fun name => directory.join (silent.fileName name)
    directory :: schema.toList ++ schema.toList.filterMap target?
  | .validate schema | .info schema _ => schema.toList
  | .init _ => [options.startedFile]

namespace Machine

variable {machine first second : Machine} {working spot : Location} {path directory : Path}
  {options : Invocation} {schema : Option Path} {library : Option String}

/-! ## Generated files -/

theorem blind_deliver {files : GeneratedFiles} (apart : spot ∉ directory.course working)
    (names : ∀ file ∈ files, spot ∉ (directory.join file.1).course working) :
    Blind working spot (deliver directory files : Attempt OnMachine _) := by
  refine (blind_ensureDirectory apart).bind fun outcome => (blind_ofAccess outcome).bind fun _ => ?_
  induction files with
  | nil => exact blind_pure _
  | cons file files ih =>
    obtain ⟨here, later⟩ := List.forall_mem_cons.mp names
    rw [List.mapM_cons]
    refine Blind.bind ?_ fun path => (ih later).bind fun paths => blind_pure _
    exact (blind_writeText here _).bind fun _ => blind_pure _

theorem blind_compareFile (apart : spot ∉ path.course working) (text : String) :
    Blind working spot (compareFile path text : Attempt OnMachine _) := by
  refine (blind_read apart).bind fun found => ?_
  split
  · exact blind_throw _
  · refine (blind_ofAccess found).bind fun bytes => (blind_decode bytes).bind fun present => ?_
    split
    · exact blind_throw _
    · exact blind_pure _

theorem blind_compare {files : GeneratedFiles}
    (names : ∀ file ∈ files, spot ∉ (directory.join file.1).course working) :
    Blind working spot (compare directory files : Attempt OnMachine _) := by
  induction files with
  | nil => exact blind_pure _
  | cons file files ih =>
    obtain ⟨here, later⟩ := List.forall_mem_cons.mp names
    exact (blind_compareFile here _).bind fun _ => ih later

theorem blind_start (apart : spot ∉ path.course working) (force : Bool) :
    Blind working spot (Settings.start path force : Attempt OnMachine _) := by
  refine (blind_isPresent apart).bind fun present => ?_
  split
  · exact blind_pure _
  · exact (blind_writeText apart _).bind fun _ => blind_pure _

/-! ## Without settings -/

section Commands

variable [Libraries]

theorem Alike.schemaIn (alike : Alike working spot first second)
    (apart : spot ∉ path.course working) : first.schemaIn path = second.schemaIn path := by
  rw [Machine.schemaIn, Machine.schemaIn, textOf, textOf, alike.here, alike.there,
    alike.files.read apart]

/-- What is prepared where the settings decide nothing. -/
theorem prepare_of_silent (unset : options.config = none) (silent : machine.settings none = .ok {})
    (schema : Option Path) (library : Option String) :
    (machine.perform (options.prepare schema library)).1 = (do
      let settings : Settings := {}
      let path ← settings.schemaFile schema
      let name ← settings.library library path
      let given ← machine.schemaIn path
      let text ← given.toFileText
      pure (settings.outputDirectory options.output, [(settings.fileName name, text)])) := by
  rw [perform_prepare]
  simp only [plan, draft, unset, silent, ok_bind, bind_assoc, pure_bind]
  rfl

/-- The paths of what is prepared are among those of the action. -/
theorem mem_paths_of_prepare {files : GeneratedFiles} (unset : options.config = none)
    (silent : machine.settings none = .ok {}) (check : Bool)
    (prepared : (machine.perform (options.prepare schema library)).1 = .ok (directory, files)) :
    directory ∈ options.paths (.generate schema library check) ∧
    ∀ file ∈ files, directory.join file.1 ∈ options.paths (.generate schema library check) := by
  rw [prepare_of_silent unset silent] at prepared
  obtain ⟨path, chosen, rest⟩ := exists_of_bind_ok prepared
  obtain ⟨name, derived, rest⟩ := exists_of_bind_ok rest
  obtain ⟨given, _, rest⟩ := exists_of_bind_ok rest
  obtain ⟨text, _, same⟩ := exists_of_bind_ok rest
  obtain ⟨rfl, rfl⟩ := Prod.mk.inj (Except.ok.inj same)
  obtain rfl : schema = some path := by
    cases schema with
    | none => exact nomatch chosen
    | some other => exact congrArg some (Except.ok.inj chosen)
  simp [Invocation.paths, derived, Except.toOption]

theorem Alike.prepare (alike : Alike working spot first second) (unset : options.config = none)
    (one : first.settings none = .ok {}) (other : second.settings none = .ok {})
    (apart : ∀ path ∈ schema, spot ∉ path.course working) (library : Option String) :
    (first.perform (options.prepare schema library)).1
      = (second.perform (options.prepare schema library)).1 := by
  rw [prepare_of_silent unset one, prepare_of_silent unset other]
  cases schema with
  | none => rfl
  | some path =>
    simp only [Settings.schemaFile, Option.orElse_some, ok_bind, alike.schemaIn (apart path rfl)]

theorem Alike.validation (alike : Alike working spot first second) (unset : options.config = none)
    (one : first.settings none = .ok {}) (other : second.settings none = .ok {})
    (apart : ∀ path ∈ schema, spot ∉ path.course working) :
    (first.perform (options.validation schema)).1
      = (second.perform (options.validation schema)).1 := by
  rw [perform_validation, perform_validation]
  cases schema with
  | none => simp only [plan, unset, one, other, ok_bind, Settings.schemaFile]; rfl
  | some path =>
    simp only [plan, draft, unset, one, other, ok_bind, bind_assoc, pure_bind, Settings.schemaFile,
      Option.orElse_some, alike.schemaIn (apart path rfl)]

theorem Alike.summary (alike : Alike working spot first second) (unset : options.config = none)
    (one : first.settings none = .ok {}) (other : second.settings none = .ok {})
    (apart : ∀ path ∈ schema, spot ∉ path.course working) (form : SummaryForm) :
    (first.perform (options.summary schema form)).1
      = (second.perform (options.summary schema form)).1 := by
  rw [perform_summary, perform_summary]
  cases schema with
  | none => simp only [unset, one, other, ok_bind, Settings.schemaFile]; rfl
  | some path =>
    simp only [unset, one, other, ok_bind, Settings.schemaFile, Option.orElse_some,
      alike.schemaIn (apart path rfl)]

theorem carryOut_info (machine : Machine) (options : Invocation) (schema : Option Path)
    (form : SummaryForm) :
    machine.carryOut options (.info schema form)
      = match (machine.perform (options.summary schema form)).1 with
        | .ok text => machine.withVariables.perform (Shell.print text)
        | .error failure => (.error failure, machine.withVariables) := by
  have steps := perform_bind machine (options.summary schema form) Shell.print
  rw [perform_summary] at steps ⊢
  refine steps.trans ?_
  split
  · next same =>
    obtain ⟨found, rfl⟩ := Prod.mk.inj same
    rw [found]
  · next same =>
    obtain ⟨found, rfl⟩ := Prod.mk.inj same
    rw [found]

/-- Where the settings decide nothing, a command does not see a place that its paths do not go
through. -/
theorem Alike.carryOut (alike : Alike working spot first second)
    (missed : Missed Shell.variablesFileName spot) (unset : options.config = none)
    (one : first.settings none = .ok {}) (other : second.settings none = .ok {}) (action : Action)
    (apart : ∀ path ∈ options.paths action, spot ∉ path.course working) :
    (first.carryOut options action).1 = (second.carryOut options action).1 ∧
    Alike working spot (first.carryOut options action).2 (second.carryOut options action).2 := by
  have later := alike.withVariables missed
  cases action with
  | generate schema library check =>
    have read (path : Path) (given : path ∈ schema) : spot ∉ path.course working :=
      apart path (by simp [Invocation.paths, Option.mem_def.mp given])
    have same := alike.prepare unset one other read library
    cases prepared : (second.perform (options.prepare schema library)).1 with
    | error failure =>
      rw [carryOut_generate_of_error prepared, carryOut_generate_of_error (same.trans prepared)]
      exact ⟨rfl, later⟩
    | ok result =>
      rcases result with ⟨directory, files⟩
      obtain ⟨within, names⟩ := mem_paths_of_prepare unset other check prepared
      have free := fun file member => apart _ (names file member)
      rw [carryOut_generate_of_ok prepared, carryOut_generate_of_ok (same.trans prepared)]
      split
      · exact blind_compare free _ _ later
      · exact (blind_deliver (apart _ within) free).discard _ _ later
  | validate schema =>
    have same := alike.validation unset one other
      fun path given => apart path (Option.mem_toList.mpr given)
    rw [carryOut_validate, carryOut_validate, same]
    exact ⟨rfl, later⟩
  | info schema form =>
    have same := alike.summary unset one other
      (fun path given => apart path (Option.mem_toList.mpr given)) form
    rw [carryOut_info, carryOut_info, same]
    split
    · exact blind_print _ _ _ later
    · exact ⟨rfl, later⟩
  | init force =>
    exact (blind_start (apart options.startedFile (List.mem_singleton_self _)) force).discard
      _ _ alike

/-! ## Starting a settings file -/

omit [Libraries] in
theorem perform_isPresent (machine : Machine) (path : Path) :
    ∃ present, machine.perform (Shell.isPresent path) = (.ok present, machine) := by
  rw [Shell.isPresent, perform_bind_of_ok (perform_isFile machine path)]
  split
  · exact ⟨true, rfl⟩
  · exact ⟨_, perform_isDirectory machine path⟩

/-- Starting a settings file writes it, or does nothing at all. -/
theorem exists_of_init (machine : Machine) (options : Invocation) (force : Bool) :
    (machine.carryOut options (.init force)).2 = machine ∨
      ∃ after, machine.files.write machine.working options.startedFile Settings.template.toUTF8
          = .ok after ∧
        (machine.carryOut options (.init force)).2 = { machine with files := after } := by
  have discarded : (machine.carryOut options (.init force)).2
      = (machine.perform (Settings.start options.startedFile force)).2 :=
    congrArg (·.2) (perform_discard machine _)
  obtain ⟨present, asked⟩ := machine.perform_isPresent options.startedFile
  rw [discarded, Settings.start, perform_bind_of_ok asked]
  split
  · exact .inl rfl
  · rw [perform_bind, perform_writeText]
    cases machine.files.write machine.working options.startedFile Settings.template.toUTF8 with
    | error fault => exact .inl rfl
    | ok after => exact .inr ⟨after, rfl, rfl⟩

/-- Where no settings file was found, the one that is found after a new one was started is the new
one; so the settings decide nothing. -/
theorem settings_of_started {after : FileTree} (absent : machine.nearest? settingsFileName = none)
    (same : FileTree.SameBut spot machine.files after)
    (started : after.standing? spot = some (.file Settings.template.toUTF8)) :
    Machine.settings { machine with files := after } none = .ok {} := by
  rw [Machine.settings, settingsFile?, Option.orElse_none]
  cases found : nearest? { machine with files := after } settingsFileName with
  | none => rfl
  | some path =>
    obtain ⟨bytes, held⟩ := FileTree.has_isFile_iff.mp (List.find?_some found)
    obtain ⟨place, resolved, standing⟩ := FileTree.read_ok_iff.mp held
    by_cases here : place = spot
    · rw [here, started] at standing
      obtain rfl := Standing.file.inj (Option.some.inj standing)
      have text : textOf { machine with files := after } path = .ok Settings.template :=
        textOf_ok_iff.mpr held
      refine bind_ok_iff.mpr ⟨_, text, bind_ok_iff.mpr ⟨{}, Settings.ofText_template, ?_⟩⟩
      exact Settings.resolve_of_plain (by decide) _
    · have before := same.symm.keepsBut.read_of_ok
        (fun other => here (Except.ok.inj (resolved.symm.trans other))) held
      exact absurd (FileTree.has_isFile_iff.mpr ⟨bytes, before⟩)
        (List.find?_eq_none.mp absent path (List.mem_of_find?_eq_some found))

/-! ## Command lines -/

/-- What comes of a command line on a machine, and the machine after it. -/
def enter (machine : Machine) (arguments : List String) : Except RunError Unit × Machine :=
  (runCommandLine arguments : OnMachine _).run machine

omit [Libraries] in
theorem get?_restrict (environment : Environment) (name : String) :
    (restrict environment [name]).get? name = environment.get? name := by
  rw [restrict, List.foldl_cons, List.foldl_nil]
  cases environment.get? name with
  | none => rfl
  | some value => simp [OrderedMap.get?, OrderedMap.insert, OrderedMap.lookup_putEntry]

/-- A command line that is read is carried out. -/
theorem enter_eq {arguments : List String}
    (read : CommandLine.read (machine.environment.get? CommandLine.configVariableName) arguments
      = .ok options) :
    machine.enter arguments
      = Prod.map (Except.mapError .failed) id (machine.carryOut options options.action) := by
  have asked : (Shell.environmentOf [CommandLine.configVariableName] : OnMachine _).run machine
      = (restrict machine.environment [CommandLine.configVariableName], machine) := rfl
  have ran : (options.run.run : OnMachine _).run machine
      = machine.carryOut options options.action := rfl
  rw [enter, runCommandLine, StateT.run_bind, asked]
  refine (pure_bind _ _).trans ?_
  simp only [get?_restrict, read, StateT.run_bind, ran]
  rcases machine.carryOut options options.action with ⟨outcome, later⟩
  cases outcome <;> rfl

omit [Libraries] in
theorem destination_settingsFile (working : Location) :
    Path.destination working ⟨settingsFileName⟩ = working ++ [settingsFileName] := by
  rw [Path.destination, Path.pieces_of_plain (by decide), List.foldl_cons, List.foldl_nil,
    Path.turn_name (by decide)]
  rfl

/-- To start a settings file is neutral. Where none was found, a command line with no settings file
gives the same, prints the same and leaves the same files after `init` as it does without it, but
for the file that was started. Its paths are not to go through the place of that file. -/
theorem enter_after_init {arguments starting : List String} {begun : Invocation} {force : Bool}
    (absent : machine.nearest? settingsFileName = none)
    (started : CommandLine.read (machine.environment.get? CommandLine.configVariableName) starting
      = .ok begun) (beginning : begun.action = .init force) (plain : begun.config = none)
    (read : CommandLine.read (machine.environment.get? CommandLine.configVariableName) arguments
      = .ok options) (unset : options.config = none)
    (apart : ∀ path ∈ options.paths options.action,
      machine.working ++ [settingsFileName] ∉ path.course machine.working) :
    let after := (machine.enter starting).2
    (after.enter arguments).1 = (machine.enter arguments).1 ∧
    (after.enter arguments).2.printed = (machine.enter arguments).2.printed ∧
    (after.enter arguments).2.environment = (machine.enter arguments).2.environment ∧
    ∀ place, place ≠ machine.working ++ [settingsFileName] →
      (after.enter arguments).2.files.standing? place
        = (machine.enter arguments).2.files.standing? place := by
  intro after
  have same : after = (machine.carryOut begun (.init force)).2 := by
    simp only [after, enter_eq started, beginning, Prod.map_snd, id]
  obtain nothing | ⟨files, written, done⟩ := machine.exists_of_init begun force
  · rw [same, nothing]
    exact ⟨rfl, rfl, rfl, fun _ _ => rfl⟩
  · rw [done] at same
    rw [same]
    obtain ⟨above, name, last, named, resolved, present, other⟩ := FileTree.SameBut.of_write written
    have place : above ++ [name] = machine.working ++ [settingsFileName] := by
      rw [Path.eq_destination_of_resolve resolved, Invocation.startedFile, plain]
      exact destination_settingsFile machine.working
    rw [place] at present other
    have silent : machine.settings none = .ok {} := by
      rw [Machine.settings, settingsFile?, Option.orElse_none, absent]
    have missed : Missed Shell.variablesFileName (machine.working ++ [settingsFileName]) := {
      plain := by decide
      solid := by decide
      other := by rw [List.getLast?_concat]; decide }
    have alike : Alike machine.working (machine.working ++ [settingsFileName])
        { machine with files } machine := ⟨other.symm, rfl, rfl, rfl, rfl⟩
    obtain ⟨outcome, later⟩ := alike.carryOut missed unset
      (settings_of_started absent other present) silent options.action apart
    have withFile : enter { machine with files } arguments = _ := enter_eq read
    rw [enter_eq read, withFile]
    exact ⟨congrArg (Except.mapError RunError.failed) outcome, later.printed, later.environment,
      fun place elsewhere => later.files.elsewhere elsewhere⟩

end Commands

theorem enter_after_init_generate :
    ∃ (_ : Libraries) (machine : Machine) (arguments starting : List String),
      let after := (machine.enter starting).2
      arguments = ["--output", "views", "generate", "schema.json"] ∧
      machine.schemaIn ⟨"schema.json"⟩ = .ok sampleSchema ∧
      after.files.read machine.working ⟨settingsFileName⟩ = .ok Settings.template.toUTF8 ∧
      (after.enter arguments).1 = .ok () ∧ (machine.enter arguments).1 = .ok () ∧
      ∀ place, place ≠ machine.working ++ [settingsFileName] →
        (after.enter arguments).2.files.standing? place
          = (machine.enter arguments).2.files.standing? place := by
  let libraries : Libraries := .silent
  let arguments := ["--output", "views", "generate", "schema.json"]
  let options := sampleOptions none
  let plan := samplePlan "Schema" "views"
  let given := sample.environment.get? CommandLine.configVariableName
  have started : CommandLine.read given ["init"] = .ok { action := .init false } := by
    decide +kernel
  have read : CommandLine.read given arguments = .ok options := by decide +kernel
  have apart : ∀ path ∈ options.paths options.action,
      sample.working ++ [settingsFileName] ∉ path.course sample.working := by decide +kernel
  have planned : sample.plan options (some ⟨"schema.json"⟩) none = .ok plan := by decide +kernel
  have ran : sample.carryOut options options.action = (.ok (), (sampleDelivery plan).2) :=
    carryOut_sample planned (by decide +kernel)
  have done : (sample.enter arguments).1 = .ok () := by
    rw [enter_eq read, ran]
    rfl
  have present : (sample.enter ["init"]).2.files.has (·.isFile) sample.working
      ⟨settingsFileName⟩ := by decide +kernel
  have template : (sample.enter ["init"]).2.files.read sample.working ⟨settingsFileName⟩
      = .ok Settings.template.toUTF8 := by
    rw [enter_eq started] at present ⊢
    obtain nothing | ⟨files, written, begun⟩ :=
      sample.exists_of_init { action := .init false } false
    · rw [Prod.map_snd, id, nothing] at present
      exact absurd present (by decide +kernel)
    · rw [Prod.map_snd, id, begun]
      exact FileTree.read_of_write written
  obtain ⟨same, _, _, files⟩ :=
    enter_after_init (by decide +kernel) started rfl rfl read rfl apart
  exact ⟨libraries, sample, arguments, ["init"], rfl, schemaIn_sample,
    template, same.trans done, done, files⟩

end Machine

end NativeViews
