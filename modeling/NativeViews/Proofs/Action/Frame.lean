import NativeViews.Proofs.Action.Delivery

/-!
What commands change on a machine: validation, summaries and checks nothing, and generation one
file.
-/

namespace NativeViews.Machine

section Commands

variable [Libraries] {machine : Machine} {options : Invocation} {schema : Option Path}
  {library : Option String}

theorem files_carryOut_validate (machine : Machine) (options : Invocation)
    (schema : Option Path) :
    (machine.carryOut options (.validate schema)).2.files = machine.files := by
  rw [carryOut_validate]
  exact files_withVariables machine

theorem files_carryOut_generate_of_error {failure : Failure}
    (failed : (machine.perform (options.prepare schema library)).1 = .error failure)
    (check : Bool) :
    (machine.carryOut options (.generate schema library check)).2.files = machine.files := by
  rw [carryOut_generate_of_error failed]
  exact files_withVariables machine

/-- A check only looks. -/
theorem files_carryOut_check (machine : Machine) (options : Invocation) (schema : Option Path)
    (library : Option String) :
    (machine.carryOut options (.generate schema library true)).2.files = machine.files := by
  cases prepared : (machine.perform (options.prepare schema library)).1 with
  | error failure => exact files_carryOut_generate_of_error prepared true
  | ok result =>
    rcases result with ⟨directory, files⟩
    obtain ⟨plan, given, text, _, _, rfl, rfl⟩ := prepare_ok_iff.mp prepared
    rw [carryOut_check prepared]
    exact files_withVariables machine

/-- Commands change no more files than they must. A validation, a summary and a check change none,
whatever comes of them. A generation changes none if it fails before it writes; if it succeeds, the
file of the plan has the text that was prepared, and all else is as it was, but for directories on
the way to it. -/
theorem files_carryOut (machine : Machine) (options : Invocation) (schema : Option Path)
    (library : Option String) (form : SummaryForm) :
    (machine.carryOut options (.validate schema)).2.files = machine.files ∧
    (machine.carryOut options (.info schema form)).2.files = machine.files ∧
    (machine.carryOut options (.generate schema library true)).2.files = machine.files ∧
    (∀ failure, (machine.perform (options.prepare schema library)).1 = .error failure →
      (machine.carryOut options (.generate schema library false)).1 = .error failure ∧
      (machine.carryOut options (.generate schema library false)).2.files = machine.files) ∧
    ((machine.carryOut options (.generate schema library false)).1 = .ok () →
      ∃ plan given text, machine.plan options schema library = .ok plan ∧
        machine.draft plan = .ok (given, text) ∧
        (machine.perform (options.prepare schema library)).1
          = .ok (plan.directory, [(plan.name, text)]) ∧
        Delivered machine.working plan.directory plan.name text machine.files
          (machine.carryOut options (.generate schema library false)).2.files) := by
  refine ⟨files_carryOut_validate machine options schema,
    files_carryOut_info machine options schema form,
    files_carryOut_check machine options schema library, fun failure failed => ?_, fun done => ?_⟩
  · exact ⟨congrArg (·.1) (carryOut_generate_of_error failed false),
      files_carryOut_generate_of_error failed false⟩
  · obtain ⟨plan, given, text, grown, planned, drafted, further, _, written⟩ :=
      exists_of_generate done
    have prepared := prepare_ok_iff.mpr ⟨plan, given, text, planned, drafted, rfl, rfl⟩
    exact ⟨plan, given, text, planned, drafted, prepared, delivered_of_write further written⟩

end Commands

theorem files_carryOut_kit :
    ∃ (_ : Libraries) (machine : Machine) (options : Invocation) (plan : Plan) (text : String),
      options.action = .generate (some ⟨"schema.json"⟩) (some "Kit") false ∧
      machine.plan options (some ⟨"schema.json"⟩) (some "Kit") = .ok plan ∧
      machine.draft plan = .ok (sampleSchema, text) ∧
      (machine.carryOut options (.generate (some ⟨"schema.json"⟩) (some "Kit") false)).1
        = .ok () ∧
      Delivered machine.working plan.directory plan.name text machine.files
        (machine.carryOut options (.generate (some ⟨"schema.json"⟩) (some "Kit") false)).2.files := by
  let libraries : Libraries := .silent
  let options := sampleOptions (some "Kit")
  let target := samplePlan "Kit" "views"
  have planned : sample.plan options (some ⟨"schema.json"⟩) (some "Kit") = .ok target := by
    decide +kernel
  have done := congrArg (·.1) (carryOut_sample planned (by decide +kernel))
  obtain ⟨_, _, _, _, succeeded⟩ :=
    files_carryOut sample options (some ⟨"schema.json"⟩) (some "Kit") .pretty
  obtain ⟨plan, given, text, again, drafted, _, delivered⟩ := succeeded done
  obtain rfl := Except.ok.inj (planned.symm.trans again)
  obtain ⟨rfl, rfl⟩ := Prod.mk.inj (Except.ok.inj ((draft_sample _ _).symm.trans drafted))
  exact ⟨libraries, sample, options, target, sampleText, rfl, planned, drafted, done, delivered⟩

end NativeViews.Machine
