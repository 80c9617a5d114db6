import Mathlib.Data.List.Find
import NativeViews.Proofs.Files.Spelling
import NativeViews.Proofs.Shell.Performance

/-!
What a command finds out about a machine does not depend on a file that it does not look for: the
nearest files, variables and settings are the same where only such a file differs.
-/

namespace NativeViews

open FileTree (KeepsBut isStep)
open Machine (pathOf)

variable {machine : Machine} {after : FileTree} {spot : Location} {path : Path}
  {name text : String} {bytes : ByteArray}

namespace Machine

/-! ## Reading -/

theorem textOf_ok_iff : machine.textOf path = .ok text ↔
    machine.files.read machine.working path = .ok text.toUTF8 := by
  rw [textOf, bind_ok_iff]
  simp only [decoded_ok_iff]
  cases machine.files.read machine.working path with
  | error fault => simp [Except.mapError]
  | ok bytes => simp [Except.mapError]

theorem textOf_of_keepsBut (kept : KeepsBut spot machine.files after)
    (apart : machine.files.resolve machine.working path ≠ .ok spot)
    (done : machine.textOf path = .ok text) :
    textOf { machine with files := after } path = .ok text :=
  textOf_ok_iff.mpr (kept.read_of_ok apart (textOf_ok_iff.mp done))

/-! ## Looking for files -/

/-- Whether a name can be looked for without coming upon a place. -/
structure Missed (name : String) (spot : Location) : Prop where
  plain : '/' ∉ name.toList
  solid : isStep name = false
  other : spot.getLast? ≠ some name

/-- A place is missed where it is reached by a path that ends in another name. -/
theorem missed_of_name? {above : Location} {last : String} (plain : '/' ∉ name.toList)
    (solid : isStep name = false) (ends : path.pieces.getLast? = some last)
    (named : isStep last = false) (other : path.name? ≠ some name) :
    Missed name (above ++ [last]) where
  plain := plain
  solid := solid
  other := by
    rw [List.getLast?_concat, ← Path.name?_of_getLast? ends named]
    exact other

theorem read_above (kept : KeepsBut spot machine.files after) (spelled : IsSpelled machine.working)
    (missed : Missed name spot)
    (member : path ∈ (pathOf machine.working).ancestors.map (·.join name)) :
    after.read machine.working path = .ok bytes ↔
      machine.files.read machine.working path = .ok bytes := by
  obtain ⟨directory, above, rfl⟩ := List.mem_map.mp member
  obtain ⟨front, short, rfl⟩ := exists_of_mem_ancestors spelled above
  have within : IsSpelled front := fun piece inside => spelled piece (short.subset inside)
  have whole : IsSpelled (front ++ [name]) :=
    List.forall_mem_append.mpr ⟨within, by simp [missed.plain, missed.solid]⟩
  have elsewhere : front ++ [name] ≠ spot := by
    rintro rfl
    exact missed.other List.getLast?_concat
  rw [join_pathOf within missed.plain]
  exact kept.read_pathOf (by simp) whole elsewhere

theorem nearest?_of_keepsBut (kept : KeepsBut spot machine.files after)
    (spelled : IsSpelled machine.working) (missed : Missed name spot) :
    nearest? { machine with files := after } name = machine.nearest? name := by
  refine List.find?_congr fun path member => ?_
  rw [Bool.eq_iff_iff, FileTree.has_isFile_iff, FileTree.has_isFile_iff]
  exact exists_congr fun bytes => read_above kept spelled missed member

theorem mem_of_nearest? (found : machine.nearest? name = some path) :
    path ∈ (pathOf machine.working).ancestors.map (·.join name) :=
  List.mem_of_find?_eq_some found

/-! ## Variables and settings -/

/-- Whether a machine with other files is the same to a command, but for a file that the command
comes upon only if it is given a path to it. -/
structure Overlooks (machine : Machine) (after : FileTree) (spot : Location) : Prop where
  kept : KeepsBut spot machine.files after
  spelled : IsSpelled machine.working
  configured : Missed settingsFileName spot
  defined : Missed Shell.variablesFileName spot

theorem assigned_of_overlooks (same : machine.Overlooks after spot) :
    assigned { machine with files := after } = machine.assigned := by
  have file : variablesFile? { machine with files := after } = machine.variablesFile? := by
    rw [variablesFile?, nearest?_of_keepsBut same.kept same.spelled same.defined, variablesFile?]
    cases found : machine.nearest? Shell.variablesFileName with
    | none => rfl
    | some path =>
      exact toOption_congr fun bytes =>
        read_above same.kept same.spelled same.defined (mem_of_nearest? found)
  rw [assigned, file, assigned]

theorem withVariables_of_overlooks (same : machine.Overlooks after spot) :
    withVariables { machine with files := after }
      = { machine.withVariables with files := after } := by
  rw [withVariables, assigned_of_overlooks same, withVariables]

theorem settingsFile?_of_overlooks (same : machine.Overlooks after spot) (given : Option Path) :
    settingsFile? { machine with files := after } given = machine.settingsFile? given := by
  rw [settingsFile?, nearest?_of_keepsBut same.kept same.spelled same.configured, settingsFile?]

/-- The settings are the same if their file is not the one that differs. -/
theorem settings_of_overlooks [Libraries] {given : Option Path} {settings : Settings}
    (same : machine.Overlooks after spot)
    (apart : ∀ path ∈ machine.settingsFile? given,
      machine.files.resolve machine.working path ≠ .ok spot)
    (done : machine.settings given = .ok settings) :
    Machine.settings { machine with files := after } given = .ok settings := by
  rw [Machine.settings] at done ⊢
  rw [settingsFile?_of_overlooks same]
  cases found : machine.settingsFile? given with
  | none =>
    rw [found] at done
    exact done
  | some path =>
    rw [found] at done
    obtain ⟨text, read, rest⟩ := exists_of_bind_ok done
    refine bind_ok_iff.mpr ⟨text, textOf_of_keepsBut same.kept (apart path found) read, ?_⟩
    rw [withVariables_of_overlooks same]
    exact rest

end Machine

end NativeViews
