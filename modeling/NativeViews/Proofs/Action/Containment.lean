import NativeViews.Proofs.Action.Delivery
import NativeViews.Proofs.Files.Course

/-!
Where generated files lie. The name of a file is made of the library and the extension, which may
hold slashes, and it is joined to the directory as it is; so it need not lie in the directory.
-/

namespace NativeViews

open NativeViews.Path (turn isIdle isAbsolute)

variable {working : Location} {path directory : Path} {name piece : String}
  {above pieces : List String} {depth : Nat}

/-- Whether a path names something in a directory, or in a directory in it. -/
def LiesIn (working : Location) (directory path : Path) : Prop :=
  ∃ names ≠ [], path.destination working = directory.destination working ++ names

/-- How far below a directory one is after a piece of a path, unless that leads above it. -/
def level? (depth : Nat) (piece : String) : Option Nat :=
  if isIdle piece then some depth
  else if piece = ".." then
    if depth = 0 then none else some (depth - 1)
  else some (depth + 1)

/-- Whether a name leads down from wherever it is read, and never above it. -/
def Descends (name : String) : Prop :=
  isAbsolute ⟨name⟩ = false ∧ ∃ depth > 0, (Path.pieces ⟨name⟩).foldlM level? 0 = some depth

/-! ## Names that descend -/

/-- A piece that does not lead above a directory leaves alone what leads there. -/
theorem exists_of_level? (led : level? above.length piece = some depth) :
    ∃ below, below.length = depth ∧ ∀ start, turn (start ++ above) piece = start ++ below := by
  rw [level?] at led
  simp only [turn]
  split at led
  · next idle => exact ⟨above, Option.some.inj led, fun start => by rw [if_pos idle]⟩
  · next busy =>
    simp only [if_neg busy]
    split at led
    · next upwards =>
      split at led
      · cases led
      · next below =>
        obtain ⟨before, last, rfl⟩ := (List.eq_nil_or_concat' above).resolve_left
          fun empty => below (by rw [empty]; rfl)
        refine ⟨before, by simpa using led, fun start => ?_⟩
        rw [if_pos upwards, ← List.append_assoc, List.dropLast_concat]
    · next named =>
      refine ⟨above ++ [piece], by simpa using led, fun start => ?_⟩
      rw [if_neg named, List.append_assoc]

theorem exists_of_foldlM_level? (above : List String)
    (led : pieces.foldlM level? above.length = some depth) :
    ∃ below, below.length = depth ∧
      ∀ start, pieces.foldl turn (start ++ above) = start ++ below := by
  induction pieces generalizing above with
  | nil => exact ⟨above, Option.some.inj led, fun start => rfl⟩
  | cons piece rest ih =>
    rw [List.foldlM_cons] at led
    obtain ⟨level, here, later⟩ := Option.bind_eq_some_iff.mp led
    obtain ⟨below, rfl, turned⟩ := exists_of_level? here
    obtain ⟨deeper, length, followed⟩ := ih below later
    exact ⟨deeper, length, fun start => by rw [List.foldl_cons, turned, followed]⟩

/-- Pieces that lead above a directory forget its name. -/
theorem foldl_turn_congr (above : List String) (left : pieces.foldlM level? above.length = none)
    (first second : String) :
    pieces.foldl turn (first :: above) = pieces.foldl turn (second :: above) := by
  induction pieces generalizing above with
  | nil => exact nomatch left
  | cons piece rest ih =>
    rw [List.foldlM_cons] at left
    rw [List.foldl_cons, List.foldl_cons]
    cases here : level? above.length piece with
    | none =>
      rw [level?] at here
      split at here
      · exact nomatch here
      · next busy =>
        split at here
        · next upwards =>
          obtain rfl : above = [] := by simpa using here
          rw [upwards]
          rfl
        · exact nomatch here
    | some depth =>
      obtain ⟨below, rfl, turned⟩ := exists_of_level? here
      rw [here] at left
      have one := turned [first]
      have other := turned [second]
      rw [List.singleton_append, List.singleton_append] at one other
      rw [one, other]
      exact ih below left

theorem liesIn_of_descends (down : Descends name) (working : Location) (directory : Path) :
    LiesIn working directory (directory.join name) := by
  obtain ⟨relative, depth, below, led⟩ := down
  obtain ⟨names, rfl, followed⟩ := exists_of_foldlM_level? [] led
  refine ⟨names, List.ne_nil_of_length_pos below, ?_⟩
  rw [Path.destination_join relative]
  simpa using followed (directory.destination working)

/-- A name that leads into each of two directories is read from them, and leads down. -/
theorem descends_of_liesIn (within : ∀ directory, LiesIn [] directory (directory.join name)) :
    Descends name := by
  obtain ⟨names, some, one⟩ := within ⟨"/a"⟩
  obtain ⟨others, _, other⟩ := within ⟨"/b"⟩
  have here : Path.destination [] ⟨"/a"⟩ = ["a"] := by decide
  have there : Path.destination [] ⟨"/b"⟩ = ["b"] := by decide
  rw [here] at one
  rw [there] at other
  cases absolute : isAbsolute ⟨name⟩ with
  | true =>
    rw [Path.join_of_isAbsolute absolute] at one other
    simpa using one.symm.trans other
  | false =>
    rw [Path.destination_join absolute, here] at one
    rw [Path.destination_join absolute, there] at other
    cases led : (Path.pieces ⟨name⟩).foldlM level? 0 with
    | none =>
      rw [foldl_turn_congr [] led "a" "b"] at one
      simpa using one.symm.trans other
    | some depth =>
      obtain ⟨below, rfl, followed⟩ := exists_of_foldlM_level? [] led
      have same := followed ["a"]
      rw [List.append_nil, one, List.append_cancel_left_eq] at same
      exact ⟨absolute, below.length, List.length_pos_iff.mpr (same ▸ some), led⟩

/-- A name without slashes leads down, if it is not a step. -/
theorem descends_of_plain (plain : '/' ∉ name.toList) (named : FileTree.isStep name = false) :
    Descends name := by
  rw [FileTree.isStep, Bool.or_eq_false_iff, decide_eq_false_iff_not] at named
  refine ⟨?_, 1, Nat.one_pos, ?_⟩
  · rw [← Bool.not_eq_true, Path.isAbsolute_iff]
    exact fun slash => plain (List.mem_of_head? slash)
  · rw [Path.pieces_of_plain plain, List.foldlM_cons, level?, if_neg (by simp [named.1]),
      if_neg named.2]
    rfl

theorem isStep_fileName (extension library : String) :
    FileTree.isStep (fileName extension library) = false := by
  have long : 16 ≤ (fileName extension library).length := by
    rw [fileName]
    simp only [String.length_append]
    have : "NativeViewConfig".length = 16 := by decide
    omega
  have short (step : String) (length : step.length ≤ 2) : fileName extension library ≠ step := by
    rintro same
    rw [same] at long
    omega
  simp [FileTree.isStep, isIdle, short "" (by decide), short "." (by decide),
    short ".." (by decide)]

theorem slash_notMem_fileName {extension library : String} (plain : '/' ∉ library.toList)
    (solid : '/' ∉ extension.toList) : '/' ∉ (fileName extension library).toList := by
  have trimmed : '/' ∉ extension.toList.dropWhile (· = '.') := fun slash =>
    solid ((List.dropWhile_sublist _).subset slash)
  rw [fileName]
  split <;> simp [plain, trimmed]

/-! ## Generated files -/

section Generated

variable [Libraries]

namespace Machine

/-- A generation that succeeds has written what was prepared at the place that its path names. -/
theorem standing?_of_generate {machine later : Machine} {options : Invocation}
    {schema : Option Path} {library : Option String} {plan : Plan}
    (planned : machine.plan options schema library = .ok plan)
    (done : machine.carryOut options (.generate schema library false) = (.ok (), later)) :
    ∃ text, (machine.perform (options.prepare schema library)).1
        = .ok (plan.directory, [(plan.name, text)]) ∧
      later.files.standing? (plan.target.destination machine.working)
        = some (.file text.toUTF8) := by
  obtain ⟨_, source, text, grown, again, drafted, _, _, written⟩ :=
    exists_of_generate (congrArg (·.1) done)
  obtain rfl := Except.ok.inj (planned.symm.trans again)
  obtain ⟨_, _, _, _, _, resolved, standing⟩ := FileTree.exists_place_of_write written
  rw [done] at resolved standing
  refine ⟨text, prepare_ok_iff.mpr ⟨plan, source, text, planned, drafted, rfl, rfl⟩, ?_⟩
  rw [← Path.eq_destination_of_resolve resolved, standing, if_pos rfl]

end Machine

/-- Where a generated file lies. Its path leads into every directory that it can be written to
exactly if its name leads down, as it does where neither the library nor the extension holds a
slash. A generation that succeeds has written it at the place that its path names. -/
theorem liesIn_iff_descends (plan : Plan) :
    ((∀ working directory, LiesIn working directory (directory.join plan.name)) ↔
      Descends plan.name) ∧
    ('/' ∉ plan.library.toList → '/' ∉ plan.extension.toList → Descends plan.name) ∧
    ∀ (machine later : Machine) (options : Invocation) (schema : Option Path)
      (library : Option String),
      machine.plan options schema library = .ok plan →
      machine.carryOut options (.generate schema library false) = (.ok (), later) →
      ∃ text, (machine.perform (options.prepare schema library)).1
          = .ok (plan.directory, [(plan.name, text)]) ∧
        later.files.standing? (plan.target.destination machine.working)
          = some (.file text.toUTF8) := by
  refine ⟨⟨fun within => descends_of_liesIn (within []), liesIn_of_descends⟩, fun plain solid => ?_,
    fun _ _ _ _ _ planned done => Machine.standing?_of_generate planned done⟩
  exact descends_of_plain (slash_notMem_fileName plain solid) (isStep_fileName _ _)

end Generated

theorem liesIn_iff_descends_kit :
    ∃ (_ : Libraries) (machine later : Machine) (options : Invocation) (plan : Plan)
      (bytes : ByteArray),
      options.action = .generate (some ⟨"schema.json"⟩) (some "Kit") false ∧
      machine.plan options (some ⟨"schema.json"⟩) (some "Kit") = .ok plan ∧
      machine.carryOut options (.generate (some ⟨"schema.json"⟩) (some "Kit") false)
        = (.ok (), later) ∧
      later.files.standing? (plan.target.destination machine.working) = some (.file bytes) ∧
      LiesIn machine.working plan.directory plan.target := by
  let libraries : Libraries := .silent
  let options := Machine.sampleOptions (some "Kit")
  let plan := Machine.samplePlan "Kit" "views"
  have planned : Machine.sample.plan options (some ⟨"schema.json"⟩) (some "Kit") = .ok plan := by
    decide +kernel
  have done := Machine.carryOut_sample planned (by decide +kernel)
  obtain ⟨within, descends, written⟩ := liesIn_iff_descends plan
  obtain ⟨text, _, standing⟩ := written .sample _ options _ _ planned done
  exact ⟨libraries, .sample, _, options, plan, text.toUTF8, rfl, planned, done, standing,
    within.mpr (descends (by decide) (by decide)) Machine.sample.working plan.directory⟩

/-- A library that is named with a step upwards is generated beside the directory. -/
theorem not_liesIn_beside :
    ∃ (_ : Libraries) (machine later : Machine) (options : Invocation) (plan : Plan)
      (bytes : ByteArray),
      options.action = .generate (some ⟨"schema.json"⟩) (some "../Kit") false ∧
      machine.plan options (some ⟨"schema.json"⟩) (some "../Kit") = .ok plan ∧
      machine.carryOut options (.generate (some ⟨"schema.json"⟩) (some "../Kit") false)
        = (.ok (), later) ∧
      later.files.standing? (plan.target.destination machine.working) = some (.file bytes) ∧
      ¬ LiesIn machine.working plan.directory plan.target := by
  let libraries : Libraries := .silent
  let options := Machine.sampleOptions (some "../Kit")
  let plan := Machine.samplePlan "../Kit" "views"
  have planned : Machine.sample.plan options (some ⟨"schema.json"⟩) (some "../Kit")
      = .ok plan := by
    decide +kernel
  have done := Machine.carryOut_sample planned (by decide +kernel)
  obtain ⟨text, _, standing⟩ := Machine.standing?_of_generate planned done
  refine ⟨libraries, .sample, _, options, plan, text.toUTF8, rfl, planned, done, standing, ?_⟩
  rintro ⟨names, _, same⟩
  have target : plan.target.destination Machine.sample.working = ["KitNativeViewConfig.js"] := by
    decide +kernel
  have directory : plan.directory.destination Machine.sample.working = ["views"] := by
    decide +kernel
  rw [target, directory] at same
  simp at same

end NativeViews
