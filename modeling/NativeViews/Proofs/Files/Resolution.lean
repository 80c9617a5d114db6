import Mathlib.Data.List.DropRight
import NativeViews.Proofs.Files.Standing
import NativeViews.Proofs.Outcome

/-!
Where paths lead. Following a path asks for nothing but the directories on the way, so it leads to
the same place in every tree that has them.
-/

namespace NativeViews.FileTree

variable {tree before after : FileTree} {working start place next : Location} {path : Path}
  {piece name : String} {pieces : List String} {bytes : ByteArray}

/-! ## Steps and walks -/

/-- Where a piece of a path leads from a directory. -/
def advance (place : Location) (piece : String) : Except Fault Location :=
  if Path.isIdle piece then .ok place
  else if piece = ".." then .ok place.dropLast
  else if nameLimit < piece.utf8ByteSize then .error .tooLong
  else .ok (place ++ [piece])

theorem step_eq (tree : FileTree) (place : Location) (piece : String) :
    tree.step place piece =
      match tree.standing? place with
      | none => .error .notFound
      | some (.file _) => .error .notDirectory
      | some .directory => advance place piece := by
  rw [step, standing?]
  cases tree.find? place with
  | none => rfl
  | some node => cases node <;> rfl

theorem step_of_directory (held : tree.standing? place = some .directory) (piece : String) :
    tree.step place piece = advance place piece := by
  rw [step_eq, held]

theorem directory_of_step (stepped : tree.step place piece = .ok next) :
    tree.standing? place = some .directory ∧ advance place piece = .ok next := by
  rw [step_eq] at stepped
  split at stepped
  · exact nomatch stepped
  · exact nomatch stepped
  · next held => exact ⟨held, stepped⟩

theorem advance_idle (idle : Path.isIdle piece) : advance place piece = .ok place := by
  rw [advance, if_pos idle]

/-- A name leads into what has the name. -/
theorem advance_name (named : isStep piece = false) (led : advance place piece = .ok next) :
    next = place ++ [piece] := by
  rw [isStep, Bool.or_eq_false_iff, decide_eq_false_iff_not] at named
  rw [advance, if_neg (by simp [named.1]), if_neg named.2] at led
  split at led
  · exact nomatch led
  · exact (Except.ok.inj led).symm

theorem walk_cons (tree : FileTree) (start : Location) (piece : String) (pieces : List String) :
    tree.walk start (piece :: pieces)
      = tree.step start piece >>= fun next => tree.walk next pieces :=
  List.foldlM_cons

theorem walk_append (tree : FileTree) (start : Location) (pieces rest : List String) :
    tree.walk start (pieces ++ rest)
      = tree.walk start pieces >>= fun next => tree.walk next rest :=
  List.foldlM_append

/-- A walk that ends in a name leads to a place in a directory. -/
theorem exists_directory_of_walk (walked : tree.walk start pieces = .ok place)
    (last : pieces.getLast? = some name) (named : isStep name = false) :
    ∃ above, place = above ++ [name] ∧ tree.standing? above = some .directory := by
  obtain ⟨front, rfl⟩ := List.getLast?_eq_some_iff.mp last
  rw [walk_append] at walked
  obtain ⟨above, _, ending⟩ := exists_of_bind_ok walked
  rw [walk_cons] at ending
  obtain ⟨found, stepped, same⟩ := exists_of_bind_ok ending
  obtain rfl := Except.ok.inj same
  obtain ⟨held, led⟩ := directory_of_step stepped
  exact ⟨above, advance_name named led, held⟩

/-! ## Trees with the same directories, and more -/

/-- Whether a tree has all directories of another. -/
def KeepsDirectories (before after : FileTree) : Prop :=
  ∀ place, before.standing? place = some .directory → after.standing? place = some .directory

/-- A walk leads to the same place where there are more directories. -/
theorem KeepsDirectories.walk_of_ok (kept : KeepsDirectories before after)
    (walked : before.walk start pieces = .ok place) : after.walk start pieces = .ok place := by
  induction pieces generalizing start with
  | nil => exact walked
  | cons piece pieces ih =>
    rw [walk_cons] at walked ⊢
    obtain ⟨next, stepped, onward⟩ := exists_of_bind_ok walked
    obtain ⟨held, led⟩ := directory_of_step stepped
    rw [step_of_directory (kept start held), led, ok_bind]
    exact ih onward

/-! ## Paths -/

/-- The location that a path leads to. Nothing need stand there. -/
def resolve (tree : FileTree) (working : Location) (path : Path) : Except Fault Location := do
  let pieces ← piecesOf path
  tree.walk (origin working path) pieces

theorem pieces_of_piecesOf (given : piecesOf path = .ok pieces) : pieces = path.pieces := by
  unfold piecesOf at given
  split at given
  · exact nomatch given
  · split at given
    · exact nomatch given
    · split at given
      · exact nomatch given
      · exact (Except.ok.inj given).symm

theorem resolve_ok_iff : tree.resolve working path = .ok place ↔
    piecesOf path = .ok path.pieces ∧ tree.walk (origin working path) path.pieces = .ok place := by
  constructor
  · intro resolved
    obtain ⟨pieces, given, walked⟩ := exists_of_bind_ok resolved
    obtain rfl := pieces_of_piecesOf given
    exact ⟨given, walked⟩
  · rintro ⟨given, walked⟩
    rw [resolve, given]
    exact walked

theorem KeepsDirectories.resolve_of_ok (kept : KeepsDirectories before after)
    (resolved : before.resolve working path = .ok place) :
    after.resolve working path = .ok place := by
  rw [resolve_ok_iff] at resolved ⊢
  exact ⟨resolved.1, kept.walk_of_ok resolved.2⟩

theorem locate_eq (tree : FileTree) (working : Location) (path : Path) :
    tree.locate working path = tree.resolve working path >>= fun place =>
      match tree.find? place with
      | some node => .ok (place, node)
      | none => .error .notFound := by
  rw [locate, resolve, bind_assoc]
  rfl

theorem locate_ok_iff {node : FileTree} : tree.locate working path = .ok (place, node) ↔
    tree.resolve working path = .ok place ∧ tree.find? place = some node := by
  rw [locate_eq, bind_ok_iff]
  constructor
  · rintro ⟨found, resolved, present⟩
    split at present
    · next other standing =>
      obtain ⟨rfl, rfl⟩ := Prod.mk.inj (Except.ok.inj present)
      exact ⟨resolved, standing⟩
    · exact nomatch present
  · rintro ⟨resolved, standing⟩
    exact ⟨place, resolved, by rw [standing]⟩

/-! ## Reading -/

theorem standing?_eq_file_iff : tree.standing? place = some (.file bytes) ↔
    tree.find? place = some (file bytes) := by
  rw [standing?, Option.map_eq_some_iff]
  constructor
  · rintro ⟨node, found, same⟩
    cases node with
    | file held => rw [found, ← Standing.file.inj same]
    | directory entries => cases same
  · intro found
    exact ⟨_, found, rfl⟩

theorem standing?_eq_directory_iff : tree.standing? place = some .directory ↔
    ∃ entries, tree.find? place = some (directory entries) := by
  rw [standing?, Option.map_eq_some_iff]
  constructor
  · rintro ⟨node, found, same⟩
    obtain ⟨entries, rfl⟩ := eq_directory_of_standing same
    exact ⟨entries, found⟩
  · rintro ⟨entries, found⟩
    exact ⟨_, found, rfl⟩

theorem read_of_resolve (resolved : tree.resolve working path = .ok place) :
    tree.read working path =
      match tree.standing? place with
      | some (.file bytes) => .ok bytes
      | some .directory => .error .isDirectory
      | none => .error .notFound := by
  rw [read, locate_eq, resolved, ok_bind, standing?]
  cases tree.find? place with
  | none => rfl
  | some node => cases node <;> rfl

theorem read_ok_iff : tree.read working path = .ok bytes ↔
    ∃ place, tree.resolve working path = .ok place ∧
      tree.standing? place = some (.file bytes) := by
  constructor
  · intro done
    obtain ⟨⟨place, node⟩, located, held⟩ := exists_of_bind_ok done
    obtain ⟨resolved, standing⟩ := locate_ok_iff.mp located
    cases node with
    | directory entries => exact nomatch held
    | file other =>
      obtain rfl := Except.ok.inj held
      exact ⟨place, resolved, standing?_eq_file_iff.mpr standing⟩
  · rintro ⟨place, resolved, standing⟩
    rw [read_of_resolve resolved, standing]

theorem has_iff {test : FileTree → Bool} : tree.has test working path ↔
    ∃ place node, tree.resolve working path = .ok place ∧ tree.find? place = some node ∧
      test node := by
  simp only [← and_assoc, ← locate_ok_iff]
  rw [has]
  cases tree.locate working path with
  | error fault => simp
  | ok result => simp [Prod.ext_iff]

theorem has_isFile_iff : tree.has (·.isFile) working path ↔
    ∃ bytes, tree.read working path = .ok bytes := by
  simp only [has_iff, read_ok_iff]
  constructor
  · rintro ⟨place, node, resolved, found, holds⟩
    cases node with
    | file bytes => exact ⟨bytes, place, resolved, standing?_eq_file_iff.mpr found⟩
    | directory entries => exact nomatch holds
  · rintro ⟨bytes, place, resolved, standing⟩
    exact ⟨place, _, resolved, standing?_eq_file_iff.mp standing, rfl⟩

theorem has_isDirectory_iff : tree.has (·.isDirectory) working path ↔
    ∃ place, tree.resolve working path = .ok place ∧
      tree.standing? place = some .directory := by
  rw [has_iff]
  constructor
  · rintro ⟨place, node, resolved, found, holds⟩
    cases node with
    | file bytes => exact nomatch holds
    | directory entries =>
      exact ⟨place, resolved, standing?_eq_directory_iff.mpr ⟨entries, found⟩⟩
  · rintro ⟨place, resolved, standing⟩
    obtain ⟨entries, found⟩ := standing?_eq_directory_iff.mp standing
    exact ⟨place, _, resolved, found, rfl⟩

/-! ## Writing -/

theorem vacancy_ok_iff {taken : Fault} : tree.vacancy taken start pieces = .ok place ↔
    tree.walk start pieces = .ok place ∧
      ∃ name, pieces.getLast? = some name ∧ isStep name = false := by
  rw [vacancy, bind_ok_iff]
  cases last : pieces.getLast? with
  | none => simp [throw, throwThe, MonadExceptOf.throw]
  | some name =>
    cases named : isStep name with
    | false => simp [named, pure, Except.pure]
    | true => simp [named]

theorem filePieces_of_named (last : pieces.getLast? = some name) (named : isStep name = false) :
    filePieces pieces = pieces := by
  rw [filePieces, if_neg]
  rintro blank
  obtain rfl := Option.some.inj (last.symm.trans blank)
  exact absurd named (by decide)

/-- What is followed before a file is created ends in a name only if the path does. -/
theorem filePieces_eq_of_named (last : (filePieces pieces).getLast? = some name)
    (named : isStep name = false) : filePieces pieces = pieces := by
  rw [filePieces] at last ⊢
  split
  · next blank =>
    rw [if_pos blank, List.getLast?_concat] at last
    obtain rfl := Option.some.inj last
    exact absurd named (by decide)
  · rfl

/-- A file is written at a vacancy, unless a directory is there. -/
theorem write_eq (given : piecesOf path = .ok path.pieces) (bytes : ByteArray) :
    tree.write working path bytes
      = tree.vacancy .isDirectory (origin working path) (filePieces path.pieces) >>= fun place =>
          match tree.standing? place with
          | some .directory => .error .isDirectory
          | _ => .ok (tree.put place (file bytes)) := by
  rw [write, given, ok_bind]
  congr 1
  funext place
  rw [standing?]
  cases tree.find? place with
  | none => rfl
  | some node => cases node <;> rfl

/-- A file is written where a path that ends in a name leads, unless a directory is there. -/
theorem write_ok_iff : tree.write working path bytes = .ok after ↔
    ∃ place name, tree.resolve working path = .ok place ∧ path.pieces.getLast? = some name ∧
      isStep name = false ∧ tree.standing? place ≠ some .directory ∧
      after = tree.put place (file bytes) := by
  constructor
  · intro written
    obtain ⟨pieces, given, _⟩ := exists_of_bind_ok written
    obtain rfl := pieces_of_piecesOf given
    rw [write_eq given] at written
    obtain ⟨place, free, done⟩ := exists_of_bind_ok written
    obtain ⟨walked, name, last, named⟩ := vacancy_ok_iff.mp free
    rw [filePieces_eq_of_named last named] at walked last
    split at done
    · cases done
    · next vacant =>
      exact ⟨place, name, resolve_ok_iff.mpr ⟨given, walked⟩, last, named, vacant,
        (Except.ok.inj done).symm⟩
  · rintro ⟨place, name, resolved, last, named, vacant, rfl⟩
    obtain ⟨given, walked⟩ := resolve_ok_iff.mp resolved
    rw [write_eq given, filePieces_of_named last named,
      vacancy_ok_iff.mpr ⟨walked, name, last, named⟩, ok_bind]
    split
    · next taken => exact absurd taken vacant
    · rfl

/-! ## Creating directories -/

/-- Pieces are those up to the last name or step, with blanks behind them. -/
theorem exists_blanks (pieces : List String) :
    ∃ blanks, pieces = solidPieces pieces ++ blanks ∧ ∀ piece ∈ blanks, piece = "" := by
  refine ⟨pieces.rtakeWhile (· = ""), List.rdropWhile_append_rtakeWhile.symm, ?_⟩
  intro piece member
  simpa using List.mem_rtakeWhile_imp member

theorem walk_blanks {blanks : List String} (blank : ∀ piece ∈ blanks, piece = "")
    (held : tree.standing? start = some .directory) : tree.walk start blanks = .ok start := by
  induction blanks with
  | nil => rfl
  | cons piece blanks ih =>
    obtain ⟨here, later⟩ := List.forall_mem_cons.mp blank
    rw [walk_cons, step_of_directory held, advance_idle (by simp [here, Path.isIdle]), ok_bind]
    exact ih later

theorem eq_of_walk_blanks {blanks : List String} (blank : ∀ piece ∈ blanks, piece = "")
    (walked : tree.walk start blanks = .ok place) : place = start := by
  induction blanks with
  | nil => exact (Except.ok.inj walked).symm
  | cons piece blanks ih =>
    obtain ⟨here, later⟩ := List.forall_mem_cons.mp blank
    rw [walk_cons] at walked
    obtain ⟨next, stepped, rest⟩ := exists_of_bind_ok walked
    obtain ⟨_, led⟩ := directory_of_step stepped
    rw [advance_idle (by simp [here, Path.isIdle])] at led
    obtain rfl := Except.ok.inj led
    exact ih later rest

theorem makeDirectory_eq (given : piecesOf path = .ok path.pieces) :
    tree.makeDirectory working path
      = tree.vacancy .alreadyExists (origin working path) (solidPieces path.pieces) >>= fun place =>
          match tree.find? place with
          | some _ => .error .alreadyExists
          | none => .ok (tree.put place (directory [])) := by
  rw [makeDirectory, given, ok_bind]
  rfl

theorem keepsDirectories_put {node : FileTree} (held : tree.standing? place = some .directory)
    (free : tree.standing? (place ++ [name]) ≠ some .directory) (leaf : node.IsLeaf) :
    KeepsDirectories tree (tree.put (place ++ [name]) node) := by
  intro other standing
  have elsewhere : other ≠ place ++ [name] := by
    rintro rfl
    exact free standing
  rw [standing?_put held free leaf, if_neg elsewhere, standing]

/-- A directory is created in one that is there, where nothing was, and the path leads to it. -/
theorem makeDirectory_ok (made : tree.makeDirectory working path = .ok after) :
    ∃ above name, tree.standing? above = some .directory ∧
      tree.standing? (above ++ [name]) = none ∧
      after = tree.put (above ++ [name]) (directory []) ∧
      after.resolve working path = .ok (above ++ [name]) := by
  obtain ⟨pieces, given, _⟩ := exists_of_bind_ok made
  obtain rfl := pieces_of_piecesOf given
  rw [makeDirectory_eq given, bind_ok_iff] at made
  obtain ⟨place, free, done⟩ := made
  obtain ⟨walked, name, last, named⟩ := vacancy_ok_iff.mp free
  obtain ⟨above, rfl, held⟩ := exists_directory_of_walk walked last named
  split at done
  · exact nomatch done
  · next absent =>
    obtain rfl := (Except.ok.inj done)
    have nothing : tree.standing? (above ++ [name]) = none := by rw [standing?, absent]; rfl
    have vacant : tree.standing? (above ++ [name]) ≠ some .directory := by simp [nothing]
    have kept := keepsDirectories_put held vacant isLeaf_empty
    have standing := standing?_put held vacant isLeaf_empty (above ++ [name])
    rw [if_pos rfl] at standing
    refine ⟨above, name, held, nothing, rfl, resolve_ok_iff.mpr ⟨given, ?_⟩⟩
    obtain ⟨blanks, split, blank⟩ := exists_blanks path.pieces
    rw [split, walk_append, kept.walk_of_ok walked, ok_bind]
    exact walk_blanks blank standing

/-- Where a directory is, none is created. -/
theorem makeDirectory_of_isDirectory (present : tree.has (·.isDirectory) working path) :
    tree.makeDirectory working path = .error .alreadyExists := by
  obtain ⟨place, resolved, standing⟩ := has_isDirectory_iff.mp present
  obtain ⟨given, walked⟩ := resolve_ok_iff.mp resolved
  obtain ⟨entries, found⟩ := standing?_eq_directory_iff.mp standing
  obtain ⟨blanks, split, blank⟩ := exists_blanks path.pieces
  rw [split, walk_append] at walked
  obtain ⟨reached, front, behind⟩ := exists_of_bind_ok walked
  obtain rfl := eq_of_walk_blanks blank behind
  rw [makeDirectory_eq given, vacancy, front, ok_bind]
  cases (solidPieces path.pieces).getLast? with
  | none => rfl
  | some name =>
    by_cases named : isStep name
    · simp only [named, if_true]
      rfl
    · simp only [named, if_false, pure, Except.pure, ok_bind, found, Bool.false_eq_true]

end NativeViews.FileTree
