import NativeViews.Proofs.Action.Delivery

/-!
Validation as a prediction of generation: it fails where nothing can be generated, and otherwise
counts what would be written.
-/

namespace NativeViews.Machine

open Script (Program)

section Commands

variable [Libraries] {machine : Machine} {options : Invocation} {schema : Option Path}
  {library : Option String}

/-- A validation fails with what preparing a generation fails with. -/
theorem carryOut_validate_error_iff {failure : Failure} :
    (machine.carryOut options (.validate schema)).1 = .error failure ↔
      (machine.perform (options.prepare schema none)).1 = .error failure := by
  rw [carryOut_validate, perform_validation, perform_prepare]
  cases machine.plan options schema none with
  | error other => simp only [error_bind, Except.map, Except.error.injEq]
  | ok plan =>
    simp only [ok_bind]
    cases machine.draft plan with
    | error other => simp only [error_bind, Except.map, Except.error.injEq]
    | ok drafted => exact ⟨nofun, nofun⟩

/-- A validation that succeeds has counted what is prepared. -/
theorem exists_of_validation {seen : Validation}
    (done : (machine.perform (options.validation schema)).1 = .ok seen) :
    ∃ plan given text, machine.plan options schema none = .ok plan ∧
      machine.draft plan = .ok (given, text) ∧
      seen = {
        modules := given.modules.size
        components := given.components.length
        outputLength := text.utf8ByteSize } := by
  rw [perform_validation] at done
  obtain ⟨plan, planned, rest⟩ := exists_of_bind_ok done
  obtain ⟨⟨given, text⟩, drafted, same⟩ := exists_of_bind_ok rest
  exact ⟨plan, given, text, planned, drafted, (Except.ok.inj same).symm⟩

/-- A draft writes one module for each component. -/
theorem exists_of_draft {plan : Plan} {given : Schema} {text : String}
    (drafted : machine.draft plan = .ok (given, text)) :
    machine.schemaIn plan.schema = .ok given ∧
      ∃ modules, given.toModules.outcome = .ok modules ∧
        modules.length = given.components.length ∧
        text = renderFile given.toModules.imports (renderModules modules) := by
  obtain ⟨schema, found, rest⟩ := exists_of_bind_ok drafted
  obtain ⟨written, rendered, same⟩ := exists_of_bind_ok rest
  obtain ⟨rfl, rfl⟩ := Prod.mk.inj (Except.ok.inj same)
  obtain ⟨modules, built, shown⟩ := Schema.toFileText_ok_iff.mp rendered
  exact ⟨found, modules, built, Schema.length_of_toModules built, shown⟩

/-- A validation predicts a generation for which no library is given. It fails exactly where
preparing one fails, and so with what the generation fails with before it compares or writes
anything. It counts the modules of the schema, the component modules of the text that is prepared,
each of which stands in it with lines of its own, and the bytes of that text, which are those of
the file that is written. -/
theorem validation_predicts (machine : Machine) (options : Invocation) (schema : Option Path) :
    (∀ failure, (machine.carryOut options (.validate schema)).1 = .error failure ↔
      (machine.perform (options.prepare schema none)).1 = .error failure) ∧
    (∀ failure check, (machine.perform (options.prepare schema none)).1 = .error failure →
      (machine.carryOut options (.generate schema none check)).1 = .error failure) ∧
    ∀ seen, (machine.perform (options.validation schema)).1 = .ok seen →
      ∃ plan given modules text, machine.plan options schema none = .ok plan ∧
        machine.schemaIn plan.schema = .ok given ∧
        (machine.perform (options.prepare schema none)).1
          = .ok (plan.directory, [(plan.name, text)]) ∧
        given.toModules.outcome = .ok modules ∧
        given.components.mapM (fun entry => (entry.component.toModule entry.name).outcome)
          = .ok modules ∧
        text = renderFile given.toModules.imports (renderModules modules) ∧
        text = fileBanner ++ importHead given.toModules.imports
          ++ String.join (modules.map fun module => "\n" ++ Program.render module) ∧
        (∀ module ∈ modules, ∃ lines, EndsInLine lines ∧ Program.render module = lines ++ "\n") ∧
        seen = {
          modules := given.modules.size
          components := modules.length
          outputLength := text.toUTF8.size } ∧
        ((machine.carryOut options (.generate schema none false)).1 = .ok () →
          (machine.carryOut options (.generate schema none false)).2.files.read machine.working
            plan.target = .ok text.toUTF8) := by
  refine ⟨fun _ => carryOut_validate_error_iff, fun failure check failed => ?_, fun seen done => ?_⟩
  · exact congrArg (·.1) (carryOut_generate_of_error failed check)
  · obtain ⟨plan, given, text, planned, drafted, rfl⟩ := exists_of_validation done
    obtain ⟨found, modules, built, count, shown⟩ := exists_of_draft drafted
    have prepared := prepare_ok_iff.mpr ⟨plan, given, text, planned, drafted, rfl, rfl⟩
    refine ⟨plan, given, modules, text, planned, found, prepared, built,
      Schema.outcome_toModules_ok_iff.mp built, shown,
      shown.trans (Schema.renderFile_toModules built), fun module member =>
        Script.Program.render_eq_line (Schema.ne_nil_of_toModules built module member), ?_,
      fun written => ?_⟩
    · rw [count]
      rfl
    · obtain ⟨_, _, _, _, again, same, _, _, delivered⟩ := exists_of_generate written
      obtain rfl := Except.ok.inj (planned.symm.trans again)
      obtain ⟨rfl, rfl⟩ := Prod.mk.inj (Except.ok.inj (drafted.symm.trans same))
      exact FileTree.read_of_write delivered

end Commands

theorem validation_predicts_modules :
    ∃ (_ : Libraries) (machine : Machine) (options : Invocation) (plan : Plan)
      (modules : List Program),
      options.action = .validate (some ⟨"schema.json"⟩) ∧
      machine.schemaIn plan.schema = .ok sampleSchema ∧
      (machine.perform (options.validation (some ⟨"schema.json"⟩))).1
        = .ok { modules := 2, components := 2, outputLength := sampleText.utf8ByteSize } ∧
      (machine.perform (options.prepare (some ⟨"schema.json"⟩) none)).1
        = .ok (plan.directory, [(plan.name, sampleText)]) ∧
      modules.length = 2 ∧
      sampleText = fileBanner ++ importHead sampleSchema.toModules.imports
        ++ String.join (modules.map fun module => "\n" ++ Program.render module) ∧
      (machine.carryOut options (.generate (some ⟨"schema.json"⟩) none false)).2.files.read
        machine.working plan.target = .ok sampleText.toUTF8 := by
  let libraries : Libraries := .silent
  let options : Invocation := { action := .validate (some ⟨"schema.json"⟩) }
  let target := samplePlan "Schema" "./generated/"
  have planned : sample.plan options (some ⟨"schema.json"⟩) none = .ok target := by
    decide +kernel
  have drafted : sample.draft target = .ok (sampleSchema, sampleText) := draft_sample _ _
  have seen : (sample.perform (options.validation (some ⟨"schema.json"⟩))).1
      = .ok { modules := 2, components := 2, outputLength := sampleText.utf8ByteSize } := by
    rw [perform_validation, planned, ok_bind, drafted]
    rfl
  have done := congrArg (·.1) (carryOut_sample planned (by decide +kernel))
  obtain ⟨_, _, counted⟩ := validation_predicts sample options (some ⟨"schema.json"⟩)
  obtain ⟨plan, given, modules, text, again, found, prepared, _, _, _, shown, _, same, file⟩ :=
    counted _ seen
  obtain rfl := Except.ok.inj (planned.symm.trans again)
  have read := (exists_of_draft drafted).1
  obtain rfl := Except.ok.inj (read.symm.trans found)
  have ready : (sample.perform (options.prepare (some ⟨"schema.json"⟩) none)).1
      = .ok (target.directory, [(target.name, sampleText)]) :=
    prepare_ok_iff.mpr ⟨target, _, _, planned, drafted, rfl, rfl⟩
  have alike : text = sampleText := by
    simpa only [Except.ok.injEq, Prod.mk.injEq, List.cons.injEq, true_and, and_true]
      using prepared.symm.trans ready
  rw [alike] at shown file
  exact ⟨libraries, sample, options, target, modules, rfl, read, seen, ready,
    (Validation.mk.inj same).2.1.symm, shown, file done⟩

end NativeViews.Machine
