import NativeViews.Proofs.Action.Plan
import NativeViews.Proofs.Schema.RoundTrip
import NativeViews.Proofs.Shell.Creation

/-!
Delivery of a generated file: what it changes, that a second one changes nothing, and what a
comparison says about the file that is there.
-/

namespace NativeViews

open FileTree (Grown)
open GeneratedFiles (deliver compare compareFile)

/-- How a delivered file changes a tree: it stands where its path leads, in place of a file or of
nothing; anything else stands where it stood, but for directories on the way that were created. -/
def Delivered (working : Location) (directory : Path) (name text : String)
    (before after : FileTree) : Prop :=
  ∃ place, after.resolve working (directory.join name) = .ok place ∧
    after.standing? place = some (.file text.toUTF8) ∧
    before.standing? place ≠ some .directory ∧
    ∀ other, other ≠ place →
      after.standing? other = before.standing? other ∨
      before.standing? other = none ∧ after.standing? other = some .directory ∧
        ∃ path ∈ directory.ancestors, after.resolve working path = .ok other

open FileTree in
theorem delivered_of_write {working : Location} {directory : Path} {name text : String}
    {before middle after : FileTree} (grown : Grown working directory.ancestors before middle)
    (written : middle.write working (directory.join name) text.toUTF8 = .ok after) :
    Delivered working directory name text before after := by
  obtain ⟨above, last, free, _, _, resolved, standing⟩ := exists_place_of_write written
  have kept := (KeepsBut.of_standing? free standing).directories
  refine ⟨above ++ [last], resolved, by rw [standing, if_pos rfl], ?_, fun other elsewhere => ?_⟩
  · exact fun occupied => free (grown.keepsDirectories _ occupied)
  · rw [standing, if_neg elsewhere]
    obtain same | ⟨absent, created, path, member, led⟩ := grown other
    · exact .inl same
    · exact .inr ⟨absent, created, path, member, kept.resolve_of_ok led⟩

namespace Machine

variable {machine : Machine} {directory path : Path} {name text : String}

/-! ## Writing -/

theorem perform_writeText (machine : Machine) (path : Path) (text : String) :
    machine.perform (Attempt.writeText path text)
      = match machine.files.write machine.working path text.toUTF8 with
        | .ok after => (.ok (), { machine with files := after })
        | .error fault => (.error (.inaccessible fault), machine) := by
  rw [Attempt.writeText, perform_bind, perform_write]
  cases machine.files.write machine.working path text.toUTF8 <;> rfl

/-- A file is written once its directory is ready. -/
theorem perform_deliver {outcome : Except Fault Unit} {grown : FileTree}
    (created : machine.perform (Shell.ensureDirectory directory)
      = (.ok outcome, { machine with files := grown })) (name text : String) :
    machine.perform (deliver directory [(name, text)])
      = match outcome, grown.write machine.working (directory.join name) text.toUTF8 with
        | .ok (), .ok after => (.ok [directory.join name], { machine with files := after })
        | .error fault, _ | .ok (), .error fault =>
          (.error (.inaccessible fault), { machine with files := grown }) := by
  have written := perform_writeText { machine with files := grown } (directory.join name) text
  rw [deliver, perform_bind_of_ok created, perform_bind]
  cases outcome with
  | error fault => rfl
  | ok =>
    simp only [List.mapM_cons, List.mapM_nil, perform_bind, Attempt.ofAccess, perform_pure,
      written]
    cases grown.write machine.working (directory.join name) text.toUTF8 <;> rfl

theorem exists_of_deliver {paths : List Path} {later : Machine}
    (done : machine.perform (deliver directory [(name, text)]) = (.ok paths, later)) :
    ∃ grown after, later = { machine with files := after } ∧
      Grown machine.working directory.ancestors machine.files grown ∧
      Ready grown machine.working directory.ancestors ∧
      grown.write machine.working (directory.join name) text.toUTF8 = .ok after := by
  obtain ⟨outcome, grown, created, further, ready⟩ :=
    creates_makeDirectories machine directory.ancestors
  rw [perform_deliver created] at done
  cases outcome with
  | error fault => exact nomatch (Prod.mk.inj done).1
  | ok =>
    cases written : grown.write machine.working (directory.join name) text.toUTF8 with
    | error fault =>
      rw [written] at done
      exact nomatch (Prod.mk.inj done).1
    | ok after =>
      rw [written] at done
      exact ⟨grown, after, (Prod.mk.inj done).2.symm, further, ready rfl, written⟩

/-- A file that is delivered to where its directory is ready is only written. -/
theorem perform_deliver_of_ready {after : FileTree}
    (ready : Ready machine.files machine.working directory.ancestors)
    (written : machine.files.write machine.working (directory.join name) text.toUTF8 = .ok after) :
    machine.perform (deliver directory [(name, text)])
      = (.ok [directory.join name], { machine with files := after }) := by
  rw [perform_deliver (perform_makeDirectories_of_ready ready), written]

/-! ## Comparing -/

/-- What comes of comparing a file with a text. -/
def comparison (machine : Machine) (path : Path) (text : String) : Except Failure Unit :=
  match machine.files.read machine.working path with
  | .ok bytes => do
    let present ← decoded bytes
    if present ≠ text then .error (.outOfDate path.text) else .ok ()
  | .error .notFound => .error (.outOfDate path.text)
  | .error fault => .error (.inaccessible fault)

theorem perform_compareFile (machine : Machine) (path : Path) (text : String) :
    machine.perform (compareFile path text) = (machine.comparison path text, machine) := by
  rw [compareFile, perform_bind_of_ok (perform_read machine path), comparison]
  rcases machine.files.read machine.working path with fault | bytes
  · cases fault <;> rfl
  · refine perform_bind_of_looks (perform_decode machine bytes) fun present => ?_
    split <;> rfl

theorem perform_compare (machine : Machine) (directory : Path) (name text : String) :
    machine.perform (compare directory [(name, text)])
      = (machine.comparison (directory.join name) text, machine) := by
  have steps := perform_bind_of_looks (perform_compareFile machine (directory.join name) text)
    fun _ => perform_pure machine ()
  refine steps.trans ?_
  cases machine.comparison (directory.join name) text <;> rfl

theorem comparison_of_text {present : String}
    (held : machine.files.read machine.working path = .ok present.toUTF8) :
    machine.comparison path text
      = if present ≠ text then .error (.outOfDate path.text) else .ok () := by
  rw [comparison, held]
  exact congrArg (· >>= _) (decoded_ok_iff.mpr rfl)

theorem comparison_of_notFound
    (missing : machine.files.read machine.working path = .error .notFound) :
    machine.comparison path text = .error (.outOfDate path.text) := by
  rw [comparison, missing]

/-! ## Commands -/

section Commands

variable [Libraries]

/-- What comes of an action with the options of an invocation, and the machine after it. -/
def carryOut (machine : Machine) (options : Invocation) (action : Action) :
    Except Failure Unit × Machine :=
  machine.perform { options with action }.run

variable {options : Invocation} {schema : Option Path} {library : Option String}

theorem carryOut_generate_of_error {failure : Failure}
    (failed : (machine.perform (options.prepare schema library)).1 = .error failure)
    (check : Bool) :
    machine.carryOut options (.generate schema library check)
      = (.error failure, machine.withVariables) := by
  have prepared : machine.perform (options.prepare schema library)
      = (.error failure, machine.withVariables) := by
    rw [← failed, perform_prepare]
  exact (perform_bind machine (options.prepare schema library) _).trans (by rw [prepared])

/-- What was prepared is compared or delivered. -/
theorem carryOut_generate_of_ok {files : GeneratedFiles}
    (prepared : (machine.perform (options.prepare schema library)).1 = .ok (directory, files))
    (check : Bool) :
    machine.carryOut options (.generate schema library check)
      = machine.withVariables.perform
          (if check then compare directory files else discard (deliver directory files)) := by
  have done : machine.perform (options.prepare schema library)
      = (.ok (directory, files), machine.withVariables) := by
    rw [← prepared, perform_prepare]
  exact perform_bind_of_ok done _

/-- A check compares what was prepared with what is there. -/
theorem carryOut_check
    (prepared : (machine.perform (options.prepare schema library)).1
      = .ok (directory, [(name, text)])) :
    machine.carryOut options (.generate schema library true)
      = (machine.comparison (directory.join name) text, machine.withVariables) := by
  rw [carryOut_generate_of_ok prepared, if_pos rfl, perform_compare, comparison, comparison,
    files_withVariables, working_withVariables]

theorem check_of_text {present : String}
    (prepared : (machine.perform (options.prepare schema library)).1
      = .ok (directory, [(name, text)]))
    (held : machine.files.read machine.working (directory.join name) = .ok present.toUTF8) :
    (machine.carryOut options (.generate schema library true)).1
      = if present ≠ text then .error (.outOfDate (directory.join name).text) else .ok () := by
  rw [carryOut_check prepared, comparison_of_text held]

theorem check_of_notFound
    (prepared : (machine.perform (options.prepare schema library)).1
      = .ok (directory, [(name, text)]))
    (missing : machine.files.read machine.working (directory.join name) = .error .notFound) :
    (machine.carryOut options (.generate schema library true)).1
      = .error (.outOfDate (directory.join name).text) := by
  rw [carryOut_check prepared, comparison_of_notFound missing]

/-- A generation only writes where its directory is ready. -/
theorem carryOut_generate_of_ready {after : FileTree}
    (prepared : (machine.perform (options.prepare schema library)).1
      = .ok (directory, [(name, text)]))
    (ready : Ready machine.files machine.working directory.ancestors)
    (written : machine.files.write machine.working (directory.join name) text.toUTF8 = .ok after) :
    machine.carryOut options (.generate schema library false)
      = (.ok (), { machine.withVariables with files := after }) := by
  rw [← files_withVariables, ← working_withVariables] at ready written
  rw [carryOut_generate_of_ok prepared, if_neg Bool.false_ne_true, perform_discard,
    perform_deliver_of_ready ready written]
  rfl

/-- A generation that succeeds has delivered what was prepared. -/
theorem exists_of_generate
    (done : (machine.carryOut options (.generate schema library false)).1 = .ok ()) :
    ∃ plan given text grown, machine.plan options schema library = .ok plan ∧
      machine.draft plan = .ok (given, text) ∧
      Grown machine.working plan.directory.ancestors machine.files grown ∧
      Ready grown machine.working plan.directory.ancestors ∧
      grown.write machine.working plan.target text.toUTF8
        = .ok (machine.carryOut options (.generate schema library false)).2.files := by
  cases prepared : (machine.perform (options.prepare schema library)).1 with
  | error failure =>
    rw [carryOut_generate_of_error prepared] at done
    exact nomatch done
  | ok result =>
    rcases result with ⟨directory, files⟩
    obtain ⟨plan, given, text, planned, drafted, rfl, rfl⟩ := prepare_ok_iff.mp prepared
    rw [carryOut_generate_of_ok prepared, if_neg Bool.false_ne_true, perform_discard] at done ⊢
    cases delivery : machine.withVariables.perform
        (deliver plan.directory [(plan.name, text)]) with
    | mk outcome later =>
      cases outcome with
      | error failure =>
        rw [delivery] at done
        exact nomatch done
      | ok paths =>
        obtain ⟨grown, after, rfl, further, ready, written⟩ := exists_of_deliver delivery
        rw [files_withVariables, working_withVariables] at further
        rw [working_withVariables] at ready written
        exact ⟨plan, given, text, grown, planned, drafted, further, ready, written⟩

theorem carryOut_validate (machine : Machine) (options : Invocation) (schema : Option Path) :
    machine.carryOut options (.validate schema)
      = ((machine.perform (options.validation schema)).1.map fun _ => (),
          machine.withVariables) := by
  have discarded := perform_discard machine (options.validation schema)
  rw [perform_validation] at discarded ⊢
  exact discarded

/-- Printing leaves the files as they are. -/
theorem files_carryOut_info (machine : Machine) (options : Invocation) (schema : Option Path)
    (form : SummaryForm) :
    (machine.carryOut options (.info schema form)).2.files = machine.files := by
  have steps := perform_bind machine (options.summary schema form) Shell.print
  rw [perform_summary] at steps
  refine (congrArg (·.2.files) steps).trans ?_
  split
  · next summary later same =>
    rw [← (Prod.mk.inj same).2]
    exact files_withVariables machine
  · next failure later same =>
    rw [← (Prod.mk.inj same).2]
    exact files_withVariables machine

end Commands

/-! ## A machine to run commands on -/

/-- A schema with two components in one module, and a module of another kind. -/
def sampleSchema : Schema :=
  ⟨.ofList [
    ("Controls", .components (.ofList [
      ("Slider", {
        props := [⟨"tint", .reserved .color⟩]
        events := [⟨"onSlide", .bubble, none⟩]
        bases := [.coreViewProps] }),
      ("Picker", { commands := [⟨"pick", ["index", "animated"]⟩] })])),
    ("Timers", .other)]⟩

/-- What is generated for it. -/
def sampleText : String := sampleSchema.toFileText.toOption.getD ""

theorem toFileText_sample : sampleSchema.toFileText = .ok sampleText := rfl

/-- A machine with a text in a file of its working directory, and nothing else. -/
def holding (text : String) : Machine where
  files := .directory [("schema.json", .file text.toUTF8)]
  working := []
  environment := .empty
  printed := ""

theorem textOf_holding (text : String) : (holding text).textOf ⟨"schema.json"⟩ = .ok text := by
  have found : (holding text).files.read [] ⟨"schema.json"⟩ = .ok text.toUTF8 := by
    with_unfolding_all rfl
  have working : (holding text).working = [] := rfl
  rw [textOf, working, found]
  exact decoded_ok_iff.mpr rfl

/-- A machine with the schema in a file. -/
def sample : Machine := holding sampleSchema.toJson.render

theorem schemaIn_sample [Libraries] : sample.schemaIn ⟨"schema.json"⟩ = .ok sampleSchema := by
  -- the text of the schema is long to evaluate, and so is read back by the general law
  rw [schemaIn, sample, textOf_holding, ok_bind, Schema.ofText_render_toJson, if_pos (by decide)]

/-- A command line that generates it into a directory. -/
def sampleOptions (library : Option String) : Invocation where
  output := some ⟨"views"⟩
  action := .generate (some ⟨"schema.json"⟩) library false

/-- A plan to generate it. -/
def samplePlan (library directory : String) : Plan where
  settingsFile := none
  schema := ⟨"schema.json"⟩
  library
  extension := "js"
  directory := ⟨directory⟩

theorem draft_sample [Libraries] (library directory : String) :
    sample.draft (samplePlan library directory) = .ok (sampleSchema, sampleText) := by
  rw [draft, samplePlan, schemaIn_sample, ok_bind, toFileText_sample]
  rfl

/-- What comes of delivering its text where a plan says. -/
def sampleDelivery (plan : Plan) : Except Failure Unit × Machine :=
  sample.withVariables.perform (discard (deliver plan.directory [(plan.name, sampleText)]))

theorem carryOut_sample [Libraries] {options : Invocation} {given : Option String}
    {library directory : String}
    (planned : sample.plan options (some ⟨"schema.json"⟩) given
      = .ok (samplePlan library directory))
    (done : (sampleDelivery (samplePlan library directory)).1 = .ok ()) :
    sample.carryOut options (.generate (some ⟨"schema.json"⟩) given false)
      = (.ok (), (sampleDelivery (samplePlan library directory)).2) := by
  have prepared := prepare_ok_iff.mpr
    ⟨samplePlan library directory, _, _, planned, draft_sample library directory, rfl, rfl⟩
  exact (carryOut_generate_of_ok prepared false).trans (Prod.ext done rfl)

end Machine

end NativeViews
