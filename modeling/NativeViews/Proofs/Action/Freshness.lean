import NativeViews.Proofs.Action.Delivery
import NativeViews.Proofs.Shell.Stability

/-!
Generation as its own check: after it, a check finds nothing wrong, and generation again changes
nothing, until the file that was written is gone or holds something else.
-/

namespace NativeViews.Machine

open FileTree (KeepsBut)

section Commands

variable [Libraries] {machine : Machine} {options : Invocation} {schema : Option Path}
  {library : Option String} {plan : Plan} {after : FileTree} {spot : Location}

/-- A plan is the same where none of its paths leads to the file that differs. -/
theorem plan_of_overlooks (same : machine.Overlooks after spot)
    (apart : ∀ source ∈ plan.sources, machine.files.resolve machine.working source ≠ .ok spot)
    (planned : machine.plan options schema library = .ok plan) :
    Machine.plan { machine with files := after } options schema library = .ok plan := by
  obtain ⟨settings, done, rest⟩ := exists_of_bind_ok planned
  obtain ⟨path, chosen, rest⟩ := exists_of_bind_ok rest
  obtain ⟨given, derived, made⟩ := exists_of_bind_ok rest
  obtain rfl := Except.ok.inj made
  have again := settings_of_overlooks same
    (fun path present => apart path (by simp [Plan.sources, Option.mem_def.mp present])) done
  rw [Machine.plan, again, ok_bind, chosen, ok_bind, derived, ok_bind,
    settingsFile?_of_overlooks same]
  rfl

theorem draft_of_keepsBut {given : Schema} {text : String}
    (kept : KeepsBut spot machine.files after)
    (apart : machine.files.resolve machine.working plan.schema ≠ .ok spot)
    (drafted : machine.draft plan = .ok (given, text)) :
    draft { machine with files := after } plan = .ok (given, text) := by
  obtain ⟨schema, found, rest⟩ := exists_of_bind_ok drafted
  obtain ⟨source, read, parsed⟩ := exists_of_bind_ok found
  exact bind_ok_iff.mpr
    ⟨schema, bind_ok_iff.mpr ⟨source, textOf_of_keepsBut kept apart read, parsed⟩, rest⟩

/-- What was prepared is prepared again. -/
theorem prepare_of_overlooks {given : Schema} {text : String}
    (same : machine.Overlooks after spot)
    (apart : ∀ source ∈ plan.sources, machine.files.resolve machine.working source ≠ .ok spot)
    (planned : machine.plan options schema library = .ok plan)
    (drafted : machine.draft plan = .ok (given, text)) :
    (perform { machine with files := after } (options.prepare schema library)).1
      = .ok (plan.directory, [(plan.name, text)]) := by
  have read := apart plan.schema (by simp [Plan.sources])
  exact prepare_ok_iff.mpr ⟨plan, given, text, plan_of_overlooks same apart planned,
    draft_of_keepsBut same.kept read drafted, rfl, rfl⟩

/-- A generation that succeeds is its own check. The working directory has names as directories
have them, and it is supposed that what was written is none of the files that were read, and has
not the name of one that is looked for. Then a check finds nothing wrong, and a second generation
changes nothing; once the file is erased or holds another text, a check says that it is out of
date. -/
theorem check_after_generate {later : Machine} (spelled : IsSpelled machine.working)
    (planned : machine.plan options schema library = .ok plan)
    (done : machine.carryOut options (.generate schema library false) = (.ok (), later))
    (apart : ∀ source ∈ plan.sources, later.files.resolve machine.working source
      ≠ later.files.resolve machine.working plan.target)
    (configured : plan.target.name? ≠ some settingsFileName)
    (defined : plan.target.name? ≠ some Shell.variablesFileName) :
    (carryOut { machine with files := later.files } options (.generate schema library true)).1
      = .ok () ∧
    (∃ again, carryOut { machine with files := later.files } options
      (.generate schema library false) = (.ok (), again) ∧ again.files = later.files) ∧
    ∃ (place : Location) (text : String), later.files.locate machine.working plan.target
        = .ok (place, .file text.toUTF8) ∧
      (carryOut { machine with files := later.files.erase place } options
        (.generate schema library true)).1 = .error (.outOfDate plan.target.text) ∧
      ∀ other : String, other ≠ text →
        (carryOut { machine with files := later.files.put place (.file other.toUTF8) } options
          (.generate schema library true)).1 = .error (.outOfDate plan.target.text) := by
  obtain ⟨_, given, text, grown, again, drafted, further, ready, written⟩ :=
    exists_of_generate (congrArg (·.1) done)
  obtain rfl := Except.ok.inj (planned.symm.trans again)
  rw [done] at written
  obtain ⟨above, name, free, last, named, resolved, standing⟩ :=
    FileTree.exists_place_of_write written
  have changed := KeepsBut.of_standing? free standing
  have kept := (further.keepsBut _).trans changed
  have unread : ∀ source ∈ plan.sources,
      machine.files.resolve machine.working source ≠ .ok (above ++ [name]) := by
    intro source member same
    exact apart source member ((kept.directories.resolve_of_ok same).trans resolved.symm)
  -- whatever becomes of the file that was written, the same is prepared
  have prepared {files : FileTree} (same : KeepsBut (above ++ [name]) later.files files) :=
    prepare_of_overlooks {
      kept := kept.trans same
      spelled
      configured := missed_of_name? (by decide) (by decide) last named configured
      defined := missed_of_name? (by decide) (by decide) last named defined } unread planned drafted
  have present : later.files.standing? (above ++ [name]) = some (.file text.toUTF8) := by
    rw [standing, if_pos rfl]
  refine ⟨?_, ⟨_, carryOut_generate_of_ready (prepared (.refl _ _)) ?_ ?_, rfl⟩,
    above ++ [name], text, ?_, ?_, fun other different => ?_⟩
  · exact (check_of_text (prepared (.refl _ _)) (FileTree.read_of_write written)).trans
      (if_neg fun differs => differs rfl)
  · exact ready.of_keepsDirectories changed.directories
  · exact FileTree.write_again written
  · exact FileTree.locate_ok_iff.mpr ⟨resolved, FileTree.standing?_eq_file_iff.mp present⟩
  · exact check_of_notFound (prepared (.erase_file present))
      (FileTree.read_erase_file present resolved)
  · exact (check_of_text (prepared (.put_file present _))
      (FileTree.read_put_file present resolved _)).trans (if_pos different)

end Commands

theorem check_after_generate_kit :
    ∃ (_ : Libraries) (machine later : Machine) (options : Invocation) (plan : Plan),
      options.action = .generate (some ⟨"schema.json"⟩) (some "Kit") false ∧
      machine.plan options (some ⟨"schema.json"⟩) (some "Kit") = .ok plan ∧
      machine.carryOut options (.generate (some ⟨"schema.json"⟩) (some "Kit") false)
        = (.ok (), later) ∧
      machine.draft plan = .ok (sampleSchema, sampleText) ∧
      plan.target.text = "views/KitNativeViewConfig.js" ∧
      (carryOut { machine with files := later.files } options
        (.generate (some ⟨"schema.json"⟩) (some "Kit") true)).1 = .ok () := by
  let libraries : Libraries := .silent
  have planned : sample.plan (sampleOptions (some "Kit")) (some ⟨"schema.json"⟩) (some "Kit")
      = .ok (samplePlan "Kit" "views") := by
    decide +kernel
  have done := carryOut_sample planned (by decide +kernel)
  have apart : ∀ source ∈ (samplePlan "Kit" "views").sources,
      (sampleDelivery (samplePlan "Kit" "views")).2.files.resolve sample.working source
        ≠ (sampleDelivery (samplePlan "Kit" "views")).2.files.resolve sample.working
            (samplePlan "Kit" "views").target := by
    decide +kernel
  obtain ⟨checked, _⟩ := check_after_generate (by simp [IsSpelled, sample, holding]) planned done
    apart (by decide +kernel) (by decide +kernel)
  exact ⟨libraries, sample, _, sampleOptions (some "Kit"), samplePlan "Kit" "views", rfl, planned,
    done, draft_sample "Kit" "views", by decide +kernel, checked⟩

end NativeViews.Machine
