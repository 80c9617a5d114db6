import NativeViews.Proofs.Files.Change
import NativeViews.Proofs.Shell.Performance

/-!
Creating a directory with those above it on a machine: what it adds to the files, whether or not it
succeeds, and that it adds nothing where the directory is.
-/

namespace NativeViews.Machine

open FileTree (Grown)

variable {machine : Machine} {path : Path} {paths : List Path}

theorem perform_isDirectory (machine : Machine) (path : Path) :
    machine.perform (Shell.isDirectory path)
      = (.ok (machine.files.has (·.isDirectory) machine.working path), machine) := rfl

theorem perform_makeDirectory (machine : Machine) (path : Path) :
    machine.perform (Shell.makeDirectory path)
      = Prod.map .ok id
          (machine.changeFiles (machine.files.makeDirectory machine.working path)) := rfl

theorem perform_write (machine : Machine) (path : Path) (bytes : ByteArray) :
    machine.perform (Shell.write path bytes)
      = Prod.map .ok id
          (machine.changeFiles (machine.files.write machine.working path bytes)) := rfl

/-- Where a directory is, a failed attempt to create it counts. -/
theorem perform_settle (machine : Machine) (path : Path) (fault : Fault) :
    machine.perform (Shell.makeDirectories.settle path (.error fault))
      = (.ok (if machine.files.has (·.isDirectory) machine.working path then .ok ()
          else .error fault), machine) := by
  rw [Shell.makeDirectories.settle, perform_bind_of_ok (perform_isDirectory machine path)]
  split <;> rfl

/-- Whether nothing has to be created for the first of some paths: it is itself a directory, or
there is none above it. -/
def Ready (tree : FileTree) (working : Location) (paths : List Path) : Prop :=
  ∀ path next above, paths = path :: next :: above → tree.has (·.isDirectory) working path

theorem ready_cons {tree : FileTree} {working : Location} {path : Path}
    (present : tree.has (·.isDirectory) working path) (above : List Path) :
    Ready tree working (path :: above) := by
  rintro _ _ _ ⟨⟩
  exact present

theorem Ready.of_keepsDirectories {before after : FileTree} {working : Location}
    (ready : Ready before working paths) (kept : FileTree.KeepsDirectories before after) :
    Ready after working paths :=
  fun path next above same => kept.has_isDirectory (ready path next above same)

/-- What a part of a command does that creates directories: it only adds some to which given paths
lead, and what they are for is ready if it succeeds. -/
def Creates (machine : Machine) (paths : List Path)
    (part : Attempt OnMachine (Except Fault Unit)) : Prop :=
  ∃ outcome after, machine.perform part = (.ok outcome, { machine with files := after }) ∧
    Grown machine.working paths machine.files after ∧
    (outcome = .ok () → Ready after machine.working paths)

theorem Creates.after {α : Type} {first : Attempt OnMachine α} {found : α} {middle : FileTree}
    {next : α → Attempt OnMachine (Except Fault Unit)}
    (done : machine.perform first = (.ok found, { machine with files := middle }))
    (grown : Grown machine.working paths machine.files middle)
    (rest : Creates { machine with files := middle } paths (next found)) :
    machine.Creates paths (first >>= next) := by
  obtain ⟨outcome, after, performed, further, ready⟩ := rest
  refine ⟨outcome, after, ?_, grown.trans further, ready⟩
  rw [perform_bind_of_ok done, performed]

theorem creates_pure (machine : Machine) (paths : List Path) (outcome : Except Fault Unit)
    (ready : outcome = .ok () → Ready machine.files machine.working paths) :
    machine.Creates paths (pure outcome) :=
  ⟨outcome, machine.files, rfl, .refl _ _ _, ready⟩

theorem creates_settle (machine : Machine) (path : Path) (above : List Path) (fault : Fault) :
    machine.Creates (path :: above) (Shell.makeDirectories.settle path (.error fault)) := by
  refine .after (perform_isDirectory machine path) (.refl _ _ _) ?_
  split
  · next present => exact creates_pure _ _ _ fun _ => ready_cons present above
  · exact creates_pure _ _ _ nofun

/-- One directory is created, and what then is to be done depends on the fault alone. -/
theorem creates_makeDirectory (machine : Machine) (path : Path) (above : List Path)
    {next : Except Fault Unit → Attempt OnMachine (Except Fault Unit)}
    (made : next (.ok ()) = pure (.ok ()))
    (failed : ∀ fault, machine.Creates (path :: above) (next (.error fault))) :
    machine.Creates (path :: above) (Shell.makeDirectory path >>= next) := by
  have step := perform_makeDirectory machine path
  cases result : machine.files.makeDirectory machine.working path with
  | ok after =>
    rw [result] at step
    refine .after step ((Grown.of_makeDirectory result).mono (by simp)) ?_
    rw [made]
    exact creates_pure _ _ _ fun _ =>
      ready_cons (FileTree.has_isDirectory_of_makeDirectory result) above
  | error fault =>
    rw [result] at step
    exact .after step (.refl _ _ _) (failed fault)

theorem creates_makeDirectories (machine : Machine) (paths : List Path) :
    machine.Creates paths (Shell.makeDirectories paths) := by
  induction paths with
  | nil => exact creates_pure _ _ _ fun _ _ _ _ => nofun
  | cons path above ih =>
    cases above with
    | nil => exact creates_pure _ _ _ fun _ _ _ _ => nofun
    | cons next above =>
      simp only [Shell.makeDirectories]
      refine creates_makeDirectory machine path _ rfl fun fault => ?_
      cases fault with
      | notFound =>
        -- only here the directories above are created first, and the attempt is made again
        obtain ⟨outcome, middle, done, grown, _⟩ := ih
        refine .after done (grown.mono fun _ member => List.mem_cons_of_mem _ member) ?_
        cases outcome with
        | error fault => exact creates_pure _ _ _ nofun
        | ok => exact creates_makeDirectory _ path _ rfl (creates_settle _ path _)
      | _ => exact creates_settle machine path _ _

/-- Creating what is ready changes nothing. -/
theorem perform_makeDirectories_of_ready {paths : List Path}
    (ready : Ready machine.files machine.working paths) :
    machine.perform (Shell.makeDirectories paths) = (.ok (.ok ()), machine) := by
  cases paths with
  | nil => rfl
  | cons path above =>
    cases above with
    | nil => rfl
    | cons next above =>
      have present := ready path next above rfl
      have step := perform_makeDirectory machine path
      rw [FileTree.makeDirectory_of_isDirectory present] at step
      simp only [Shell.makeDirectories]
      rw [perform_bind_of_ok step]
      exact (perform_settle machine path _).trans (by rw [if_pos present])

end NativeViews.Machine
