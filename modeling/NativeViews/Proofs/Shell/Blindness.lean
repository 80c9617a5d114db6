import NativeViews.Proofs.Files.Elsewhere
import NativeViews.Proofs.Shell.Creation
import NativeViews.Proofs.Shell.Stability

/-!
Parts of commands that do not see a place: on two machines that differ only there, the same comes
of them, and the machines after them differ only there.
-/

namespace NativeViews.Machine

open FileTree (SameBut SameChange)
open NativeViews.Path (course)

variable {α β : Type} {first second : Machine} {working spot : Location} {path directory : Path}

/-- Whether two machines work in a place, and are the same but for what stands at another. -/
structure Alike (working spot : Location) (first second : Machine) : Prop where
  files : SameBut spot first.files second.files
  here : first.working = working
  there : second.working = working
  environment : first.environment = second.environment
  printed : first.printed = second.printed

/-- Whether a part of a command does not see what stands at a place. -/
def Blind (working spot : Location) (part : Attempt OnMachine α) : Prop :=
  ∀ first second : Machine, Alike working spot first second →
    (first.perform part).1 = (second.perform part).1 ∧
    Alike working spot (first.perform part).2 (second.perform part).2

theorem Alike.changeFiles {change other : Except Fault FileTree}
    (alike : Alike working spot first second) (same : SameChange spot change other) :
    (first.changeFiles change).1 = (second.changeFiles other).1 ∧
    Alike working spot (first.changeFiles change).2 (second.changeFiles other).2 := by
  cases same with
  | failed fault => exact ⟨rfl, alike⟩
  | done same => exact ⟨rfl, { alike with files := same }⟩

/-! ## Composition -/

theorem blind_pure (value : α) : Blind working spot (pure value) :=
  fun _ _ alike => ⟨rfl, alike⟩

theorem blind_throw (failure : Failure) :
    Blind working spot (throw failure : Attempt OnMachine α) :=
  fun _ _ alike => ⟨rfl, alike⟩

theorem Blind.bind {part : Attempt OnMachine α} {next : α → Attempt OnMachine β}
    (before : Blind working spot part) (after : ∀ value, Blind working spot (next value)) :
    Blind working spot (part >>= next) := by
  intro first second alike
  obtain ⟨same, later⟩ := before first second alike
  rw [perform_bind, perform_bind]
  rcases one : first.perform part with ⟨outcome, machine⟩
  rcases other : second.perform part with ⟨_, next⟩
  rw [one, other] at same later
  obtain rfl := same
  cases outcome with
  | error failure => exact ⟨rfl, later⟩
  | ok value => exact after value _ _ later

theorem Blind.discard {part : Attempt OnMachine α} (blind : Blind working spot part) :
    Blind working spot (Functor.discard part) := by
  intro first second alike
  obtain ⟨same, later⟩ := blind first second alike
  rw [perform_discard, perform_discard]
  exact ⟨congrArg (Except.map fun _ => ()) same, later⟩

theorem blind_ofAccess (outcome : Except Fault α) :
    Blind working spot (Attempt.ofAccess outcome : Attempt OnMachine α) := by
  cases outcome
  · exact blind_throw _
  · exact blind_pure _

theorem blind_decode (bytes : ByteArray) :
    Blind working spot (Attempt.decode bytes : Attempt OnMachine String) := by
  rw [Attempt.decode]
  split
  · exact blind_pure _
  · exact blind_throw _

/-! ## Steps -/

theorem blind_read (apart : spot ∉ path.course working) :
    Blind working spot (Shell.read path : Attempt OnMachine _) := by
  intro first second alike
  refine ⟨?_, alike⟩
  rw [perform_read, perform_read, alike.here, alike.there, alike.files.read apart]

theorem blind_isDirectory (path : Path) :
    Blind working spot (Shell.isDirectory path : Attempt OnMachine _) := by
  intro first second alike
  refine ⟨?_, alike⟩
  rw [perform_isDirectory, perform_isDirectory, alike.here, alike.there,
    alike.files.has_isDirectory]

theorem blind_isFile (apart : spot ∉ path.course working) :
    Blind working spot (Shell.isFile path : Attempt OnMachine _) := by
  intro first second alike
  refine ⟨?_, alike⟩
  rw [perform_isFile, perform_isFile, alike.here, alike.there,
    alike.files.has_isFile fun tree resolved => FileTree.ne_of_resolve apart resolved rfl]

theorem blind_isPresent (apart : spot ∉ path.course working) :
    Blind working spot (Shell.isPresent path : Attempt OnMachine _) := by
  refine (blind_isFile apart).bind fun present => ?_
  split
  · exact blind_pure _
  · exact blind_isDirectory path

theorem blind_write (apart : spot ∉ path.course working) (bytes : ByteArray) :
    Blind working spot (Shell.write path bytes : Attempt OnMachine _) := by
  intro first second alike
  obtain ⟨same, later⟩ := alike.changeFiles (alike.files.write apart bytes)
  rw [perform_write, perform_write, alike.here, alike.there]
  exact ⟨congrArg Except.ok same, later⟩

theorem blind_makeDirectory (apart : spot ∉ path.course working) :
    Blind working spot (Shell.makeDirectory path : Attempt OnMachine _) := by
  intro first second alike
  obtain ⟨same, later⟩ := alike.changeFiles (alike.files.makeDirectory apart)
  rw [perform_makeDirectory, perform_makeDirectory, alike.here, alike.there]
  exact ⟨congrArg Except.ok same, later⟩

theorem blind_print (text : String) :
    Blind working spot (Shell.print text : Attempt OnMachine _) :=
  fun _ _ alike => ⟨rfl, { alike with printed := congrArg (· ++ text) alike.printed }⟩

/-! ## Creating directories -/

theorem blind_settle (path : Path) (outcome : Except Fault Unit) :
    Blind working spot (Shell.makeDirectories.settle path outcome : Attempt OnMachine _) := by
  cases outcome with
  | ok => exact blind_pure _
  | error fault =>
    refine (blind_isDirectory path).bind fun present => ?_
    split <;> exact blind_pure _

theorem blind_makeDirectories {paths : List Path}
    (apart : ∀ path ∈ paths, spot ∉ path.course working) :
    Blind working spot (Shell.makeDirectories paths : Attempt OnMachine _) := by
  induction paths with
  | nil => exact blind_pure _
  | cons path above ih =>
    obtain ⟨here, later⟩ := List.forall_mem_cons.mp apart
    cases above with
    | nil => exact blind_pure _
    | cons next above =>
      simp only [Shell.makeDirectories]
      refine (blind_makeDirectory here).bind fun outcome => ?_
      split
      · exact blind_pure _
      · refine (ih later).bind fun outcome => ?_
        split
        · exact (blind_makeDirectory here).bind fun outcome => blind_settle path outcome
        · exact blind_pure _
      · exact blind_settle path _

theorem blind_ensureDirectory (apart : spot ∉ directory.course working) :
    Blind working spot (Shell.ensureDirectory directory : Attempt OnMachine _) :=
  blind_makeDirectories fun _ member inside =>
    apart (Path.course_subset_of_mem_ancestors member working inside)

/-! ## Looking for files -/

/-- A file that is looked for in a directory is not at a place with another name. -/
theorem Missed.resolve_ne {name : String} (missed : Missed name spot) (tree : FileTree)
    (directory : Path) : tree.resolve working (directory.join name) ≠ .ok spot := by
  intro resolved
  have last := Path.getLast?_pieces_join missed.plain directory
  obtain ⟨above, rfl, _⟩ := FileTree.exists_directory_of_walk
    (FileTree.resolve_ok_iff.mp resolved).2 last missed.solid
  exact missed.other List.getLast?_concat

theorem Alike.nearest? {name : String} (alike : Alike working spot first second)
    (missed : Missed name spot) : first.nearest? name = second.nearest? name := by
  rw [Machine.nearest?, Machine.nearest?, alike.here, alike.there]
  refine List.find?_congr fun path member => ?_
  obtain ⟨directory, _, rfl⟩ := List.mem_map.mp member
  exact alike.files.has_isFile fun tree => missed.resolve_ne tree directory

theorem Alike.assigned (alike : Alike working spot first second)
    (missed : Missed Shell.variablesFileName spot) : first.assigned = second.assigned := by
  have file : first.variablesFile? = second.variablesFile? := by
    rw [variablesFile?, variablesFile?, alike.nearest? missed, alike.here, alike.there]
    cases found : second.nearest? Shell.variablesFileName with
    | none => rfl
    | some path =>
      obtain ⟨directory, _, rfl⟩ := List.mem_map.mp (mem_of_nearest? found)
      exact toOption_congr fun bytes =>
        alike.files.read_ok_iff fun tree => missed.resolve_ne tree directory
  rw [Machine.assigned, file, Machine.assigned]

/-- The same variables are taken over. -/
theorem Alike.withVariables (alike : Alike working spot first second)
    (missed : Missed Shell.variablesFileName spot) :
    Alike working spot first.withVariables second.withVariables where
  files := by rw [files_withVariables, files_withVariables]; exact alike.files
  here := alike.here
  there := alike.there
  environment := by
    rw [Machine.withVariables, Machine.withVariables, alike.assigned missed, alike.environment]
  printed := alike.printed

/-! ## Texts -/

theorem blind_writeText (apart : spot ∉ path.course working) (text : String) :
    Blind working spot (Attempt.writeText path text : Attempt OnMachine _) :=
  (blind_write apart _).bind blind_ofAccess

end NativeViews.Machine
