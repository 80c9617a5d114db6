import NativeViews.Proofs.Files.Course

/-!
Trees that are the same but for a file at one place. They cannot be told apart by a path that does
not go through the place: it is followed, read and written alike, with the same faults.
-/

namespace NativeViews.FileTree

open NativeViews.Path (turn course)

variable {first second : FileTree} {working start place spot : Location} {path : Path}
  {pieces : List String} {taken : Fault} {bytes : ByteArray}

/-- Whether two trees are the same but at one place, where neither has a directory. -/
structure SameBut (spot : Location) (first second : FileTree) : Prop where
  elsewhere : ∀ {place}, place ≠ spot → first.standing? place = second.standing? place
  here : first.standing? spot ≠ some .directory
  there : second.standing? spot ≠ some .directory

theorem SameBut.symm (same : SameBut spot first second) : SameBut spot second first where
  elsewhere other := (same.elsewhere other).symm
  here := same.there
  there := same.here

theorem SameBut.keepsBut (same : SameBut spot first second) : KeepsBut spot first second where
  directories place held := by
    have other : place ≠ spot := by
      rintro rfl
      exact same.here held
    rw [← same.elsewhere other, held]
  files other := by rw [same.elsewhere other]

/-- Trees are the same but for a file that one of them was given. -/
theorem SameBut.of_write (written : first.write working path bytes = .ok second) :
    ∃ above name, path.pieces.getLast? = some name ∧ isStep name = false ∧
      second.resolve working path = .ok (above ++ [name]) ∧
      second.standing? (above ++ [name]) = some (.file bytes) ∧
      SameBut (above ++ [name]) first second := by
  obtain ⟨above, name, free, last, named, resolved, standing⟩ := exists_place_of_write written
  have present := standing (above ++ [name])
  rw [if_pos rfl] at present
  refine ⟨above, name, last, named, resolved, present, ⟨fun other => ?_, free, by simp [present]⟩⟩
  rw [standing, if_neg other]

/-! ## Following paths -/

theorem SameBut.step (same : SameBut spot first second) (apart : start ≠ spot) (piece : String) :
    first.step start piece = second.step start piece := by
  rw [step_eq, step_eq, same.elsewhere apart]

theorem SameBut.walk (same : SameBut spot first second)
    (apart : spot ∉ pieces.scanl turn start) :
    first.walk start pieces = second.walk start pieces := by
  induction pieces generalizing start with
  | nil => rfl
  | cons piece rest ih =>
    rw [List.scanl_cons, List.mem_cons, not_or] at apart
    rw [walk_cons, walk_cons, same.step (Ne.symm apart.1)]
    cases stepped : second.step start piece with
    | error fault => rfl
    | ok next =>
      obtain rfl := Path.turn_of_advance (directory_of_step stepped).2
      exact ih apart.2

theorem SameBut.resolve (same : SameBut spot first second) (apart : spot ∉ path.course working) :
    first.resolve working path = second.resolve working path := by
  rw [FileTree.resolve, FileTree.resolve]
  cases given : piecesOf path with
  | error fault => rfl
  | ok pieces =>
    obtain rfl := pieces_of_piecesOf given
    exact same.walk apart

/-- Pieces do not lead to a place that they do not go through. -/
theorem ne_of_walk (apart : spot ∉ pieces.scanl turn start)
    (walked : first.walk start pieces = .ok place) : place ≠ spot := by
  rintro rfl
  rw [Path.eq_foldl_of_walk walked] at apart
  exact apart (Path.foldl_mem_scanl start pieces)

/-- A path does not lead to a place that it does not go through. -/
theorem ne_of_resolve (apart : spot ∉ path.course working)
    (resolved : first.resolve working path = .ok place) : place ≠ spot :=
  ne_of_walk apart (resolve_ok_iff.mp resolved).2

/-! ## Looking -/

theorem SameBut.read (same : SameBut spot first second) (apart : spot ∉ path.course working) :
    first.read working path = second.read working path := by
  have alike := same.resolve apart
  cases resolved : second.resolve working path with
  | error fault =>
    rw [FileTree.read, FileTree.read, locate_eq, locate_eq, alike, resolved]
    rfl
  | ok place =>
    rw [resolved] at alike
    rw [read_of_resolve alike, read_of_resolve resolved,
      same.elsewhere (ne_of_resolve apart resolved)]

/-- Of what is read, only the file where the trees differ tells them apart. -/
theorem SameBut.read_ok_iff (same : SameBut spot first second)
    (apart : ∀ tree : FileTree, tree.resolve working path ≠ .ok spot) :
    first.read working path = .ok bytes ↔ second.read working path = .ok bytes :=
  ⟨same.keepsBut.read_of_ok (apart first), same.symm.keepsBut.read_of_ok (apart second)⟩

theorem SameBut.has_isFile (same : SameBut spot first second)
    (apart : ∀ tree : FileTree, tree.resolve working path ≠ .ok spot) :
    first.has (·.isFile) working path = second.has (·.isFile) working path := by
  rw [Bool.eq_iff_iff, has_isFile_iff, has_isFile_iff]
  exact exists_congr fun bytes => same.read_ok_iff apart

theorem SameBut.has_isDirectory (same : SameBut spot first second) (working : Location)
    (path : Path) : first.has (·.isDirectory) working path
      = second.has (·.isDirectory) working path := by
  rw [Bool.eq_iff_iff]
  exact ⟨same.keepsBut.directories.has_isDirectory,
    same.symm.keepsBut.directories.has_isDirectory⟩

/-! ## Changes -/

/-- Whether two changes fail alike, or give trees that are the same but at one place. -/
inductive SameChange (spot : Location) : Except Fault FileTree → Except Fault FileTree → Prop
  | failed (fault : Fault) : SameChange spot (.error fault) (.error fault)
  | done {first second : FileTree} (same : SameBut spot first second) :
    SameChange spot (.ok first) (.ok second)

theorem SameBut.vacancy (same : SameBut spot first second)
    (apart : spot ∉ pieces.scanl turn start) (taken : Fault) :
    first.vacancy taken start pieces = second.vacancy taken start pieces := by
  rw [FileTree.vacancy, FileTree.vacancy, same.walk apart]

/-- What is put where a path would create something stands there in both trees. -/
theorem SameBut.put {node : FileTree} (same : SameBut spot first second) (apart : place ≠ spot)
    (free : first.vacancy taken start pieces = .ok place)
    (vacant : first.standing? place ≠ some .directory) (leaf : node.IsLeaf) :
    SameBut spot (first.put place node) (second.put place node) := by
  obtain ⟨walked, name, last, named⟩ := vacancy_ok_iff.mp free
  obtain ⟨above, rfl, held⟩ := exists_directory_of_walk walked last named
  have one := standing?_put held vacant leaf
  have other := standing?_put (same.keepsBut.directories _ held)
    (by rwa [← same.elsewhere apart]) leaf
  refine ⟨fun elsewhere => ?_, ?_, ?_⟩
  · rw [one, other, same.elsewhere elsewhere]
  · rw [one, if_neg (Ne.symm apart)]
    exact same.here
  · rw [other, if_neg (Ne.symm apart)]
    exact same.there

theorem notMem_scanl_front {front : List String} (before : front <+: pieces)
    (apart : spot ∉ pieces.scanl turn start) : spot ∉ front.scanl turn start := by
  obtain ⟨behind, rfl⟩ := before
  intro member
  rw [List.scanl_append] at apart
  exact apart (List.mem_append_left _ member)

theorem prefix_solidPieces (pieces : List String) : solidPieces pieces <+: pieces := by
  obtain ⟨blanks, split, _⟩ := exists_blanks pieces
  exact ⟨blanks, split.symm⟩

/-- What is followed before a file is created goes through no other places than the path. -/
theorem notMem_scanl_filePieces (apart : spot ∉ pieces.scanl turn start) :
    spot ∉ (filePieces pieces).scanl turn start := by
  rw [filePieces]
  split
  · have above := List.dropLast_prefix (solidPieces pieces)
    have front := notMem_scanl_front (above.trans (prefix_solidPieces pieces)) apart
    rw [List.scanl_append, List.mem_append, not_or]
    refine ⟨front, fun member => front ?_⟩
    obtain rfl : spot = (solidPieces pieces).dropLast.foldl turn start := by
      simpa [turn, Path.isIdle] using member
    exact Path.foldl_mem_scanl start _
  · exact apart

theorem SameBut.write (same : SameBut spot first second) (apart : spot ∉ path.course working)
    (bytes : ByteArray) :
    SameChange spot (first.write working path bytes) (second.write working path bytes) := by
  cases given : piecesOf path with
  | error fault =>
    rw [FileTree.write, FileTree.write, given]
    exact .failed fault
  | ok pieces =>
    obtain rfl := pieces_of_piecesOf given
    have followed := notMem_scanl_filePieces apart
    have alike := same.vacancy followed .isDirectory
    rw [write_eq given, write_eq given, ← alike]
    cases free : first.vacancy .isDirectory (origin working path) (filePieces path.pieces) with
    | error fault => exact .failed fault
    | ok place =>
      have other := ne_of_walk followed (vacancy_ok_iff.mp free).1
      rw [ok_bind, ok_bind, ← same.elsewhere other]
      split
      · exact .failed _
      · next vacant => exact .done (same.put other free vacant (isLeaf_file bytes))

theorem SameBut.makeDirectory (same : SameBut spot first second)
    (apart : spot ∉ path.course working) :
    SameChange spot (first.makeDirectory working path) (second.makeDirectory working path) := by
  cases given : piecesOf path with
  | error fault =>
    rw [FileTree.makeDirectory, FileTree.makeDirectory, given]
    exact .failed fault
  | ok pieces =>
    obtain rfl := pieces_of_piecesOf given
    -- blanks at the end of the path are not followed
    have named := notMem_scanl_front (prefix_solidPieces path.pieces) apart
    have alike := same.vacancy named .alreadyExists
    rw [makeDirectory_eq given, makeDirectory_eq given, ← alike]
    cases free : first.vacancy .alreadyExists (origin working path)
        (solidPieces path.pieces) with
    | error fault => exact .failed fault
    | ok place =>
      have other := ne_of_walk named (vacancy_ok_iff.mp free).1
      have standing := same.elsewhere other
      rw [standing?, standing?] at standing
      rw [ok_bind, ok_bind]
      cases one : first.find? place with
      | some node =>
        obtain ⟨held, found⟩ : ∃ held, second.find? place = some held := by
          cases found : second.find? place <;> simp_all
        rw [found]
        exact .failed _
      | none =>
        have nothing : second.find? place = none := by simpa [one] using standing.symm
        rw [nothing]
        exact .done (same.put other free (by simp [standing?, one]) isLeaf_empty)

end NativeViews.FileTree
