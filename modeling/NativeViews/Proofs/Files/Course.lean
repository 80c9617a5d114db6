import NativeViews.Proofs.Files.Spelling

/-!
Where paths lead by their pieces alone, whatever files there are: the place that a path names, and
the places on the way to it. A path that can be followed leads to the place that it names.
-/

namespace NativeViews

open FileTree (origin advance isStep)

variable {working start place : Location} {path directory : Path} {piece name : String}
  {pieces : List String}

namespace Path

/-! ## Turns -/

/-- The place that a piece of a path leads to. -/
def turn (place : Location) (piece : String) : Location :=
  if isIdle piece then place
  else if piece = ".." then place.dropLast
  else place ++ [piece]

/-- The place that a path names. -/
def destination (working : Location) (path : Path) : Location :=
  path.pieces.foldl turn (origin working path)

/-- The places that a path goes through, from where following it begins to the one it names. -/
def course (working : Location) (path : Path) : List Location :=
  path.pieces.scanl turn (origin working path)

theorem turn_of_advance {next : Location} (led : advance place piece = .ok next) :
    next = turn place piece := by
  rw [advance] at led
  rw [turn]
  split
  · next idle => simpa [idle] using led.symm
  · next busy =>
    rw [if_neg busy] at led
    split
    · next upwards => simpa [upwards] using led.symm
    · next named =>
      rw [if_neg named] at led
      split at led
      · cases led
      · exact (Except.ok.inj led).symm

theorem turn_name (named : isStep piece = false) (place : Location) :
    turn place piece = place ++ [piece] := by
  rw [isStep, Bool.or_eq_false_iff, decide_eq_false_iff_not] at named
  rw [turn, if_neg (by simp [named.1]), if_neg named.2]

theorem origin_mem_course (working : Location) (path : Path) :
    origin working path ∈ path.course working := by
  rw [course]
  cases path.pieces <;> simp [List.scanl]

theorem foldl_mem_scanl (start : Location) (pieces : List String) :
    pieces.foldl turn start ∈ pieces.scanl turn start := by
  rw [← List.getLast_scanl List.scanl_ne_nil]
  exact List.getLast_mem _

theorem eq_foldl_of_walk {tree : FileTree} (walked : tree.walk start pieces = .ok place) :
    place = pieces.foldl turn start := by
  induction pieces generalizing start with
  | nil => exact (Except.ok.inj walked).symm
  | cons piece rest ih =>
    rw [FileTree.walk_cons] at walked
    obtain ⟨next, stepped, onward⟩ := exists_of_bind_ok walked
    obtain rfl := turn_of_advance (FileTree.directory_of_step stepped).2
    exact ih onward

/-- A path that can be followed leads to the place that it names. -/
theorem eq_destination_of_resolve {tree : FileTree}
    (resolved : tree.resolve working path = .ok place) : place = path.destination working :=
  eq_foldl_of_walk (FileTree.resolve_ok_iff.mp resolved).2

/-! ## Pieces of composed paths -/

theorem splitSlashes_append (before after : List Char) :
    splitSlashes (before ++ '/' :: after) = splitSlashes before ++ splitSlashes after := by
  induction before with
  | nil => rfl
  | cons c before ih =>
    obtain ⟨piece, others, split⟩ := List.exists_cons_of_ne_nil (splitSlashes_ne_nil before)
    rw [List.cons_append, splitSlashes, splitSlashes, ih, split]
    split <;> rfl

/-- The pieces on both sides of a slash. -/
theorem pieces_append (before after : String) :
    Path.pieces ⟨before ++ "/" ++ after⟩ = Path.pieces ⟨before⟩ ++ Path.pieces ⟨after⟩ := by
  rw [Path.pieces, String.append_assoc, String.toList_append, String.toList_append]
  exact (congrArg (·.map String.ofList) (splitSlashes_append _ _)).trans List.map_append

/-- What is behind a slash does not change where a path begins. -/
theorem origin_append {before : String} (some : before ≠ "") (after : String)
    (working : Location) : origin working ⟨before ++ "/" ++ after⟩ = origin working ⟨before⟩ := by
  have full : before.toList ≠ [] := fun empty => some (String.toList_eq_nil_iff.mp empty)
  rw [origin, origin, isAbsolute, isAbsolute, String.append_assoc, String.toList_append,
    List.head?_append_of_ne_nil _ full]

theorem destination_append {before : String} (some : before ≠ "") (after : String)
    (working : Location) :
    destination working ⟨before ++ "/" ++ after⟩
      = (Path.pieces ⟨after⟩).foldl turn (destination working ⟨before⟩) := by
  rw [destination, pieces_append, origin_append some, List.foldl_append]
  rfl

theorem course_append {before : String} (some : before ≠ "") (after : String)
    (working : Location) :
    course working ⟨before⟩ ⊆ course working ⟨before ++ "/" ++ after⟩ := by
  rw [course, course, pieces_append, origin_append some, List.scanl_append]
  exact List.subset_append_left _ _

theorem splitSlashes_of_plain {chars : List Char} (plain : '/' ∉ chars) :
    splitSlashes chars = [chars] := by
  induction chars with
  | nil => rfl
  | cons c rest ih =>
    rw [List.mem_cons, not_or] at plain
    rw [splitSlashes, if_neg (Ne.symm plain.1), ih plain.2]

theorem pieces_of_plain (plain : '/' ∉ name.toList) : Path.pieces ⟨name⟩ = [name] := by
  rw [Path.pieces, splitSlashes_of_plain plain, List.map_singleton, String.ofList_toList]

/-! ## Joined paths -/

theorem isAbsolute_iff {name : String} : isAbsolute ⟨name⟩ ↔ name.toList.head? = some '/' := by
  simp [isAbsolute]

/-- A slash at the end of a path leads nowhere else. -/
theorem destination_slash (before : String) (working : Location) :
    destination working ⟨before ++ "/"⟩
      = if before = "" then [] else destination working ⟨before⟩ := by
  split
  · next root =>
    simp [root, destination, origin, isAbsolute, Path.pieces, splitSlashes, turn, isIdle]
  · next some =>
    simpa [Path.pieces, splitSlashes, turn, isIdle] using destination_append some "" working

/-- A name that is no absolute path leads on from where the directory is. -/
theorem destination_join (relative : isAbsolute ⟨name⟩ = false) (working : Location)
    (directory : Path) :
    (directory.join name).destination working
      = (Path.pieces ⟨name⟩).foldl turn (directory.destination working) := by
  rcases directory with ⟨text⟩
  have here : origin working ⟨name⟩ = working := if_neg (by simp [relative])
  rw [← Bool.not_eq_true, isAbsolute_iff] at relative
  rw [join, if_neg relative]
  split
  · next bare =>
    obtain empty | slash := bare
    · obtain rfl : text = "" := by simpa using empty
      rw [destination, String.empty_append, here]
      simp [destination, origin, isAbsolute, Path.pieces, splitSlashes, turn, isIdle]
    · obtain ⟨front, ends⟩ := List.getLast?_eq_some_iff.mp slash
      obtain rfl : text = String.ofList front ++ "/" := by simp [← String.toList_inj, ends]
      rw [destination_slash]
      by_cases root : String.ofList front = ""
      · rw [if_pos root, root, destination, pieces_append]
        simp [origin, isAbsolute, Path.pieces, splitSlashes, turn, isIdle]
      · rw [if_neg root, destination_append root]
  · next more =>
    have some : text ≠ "" := fun empty => more (.inl (String.isEmpty_iff.mpr empty))
    exact destination_append some name working

/-- A file that is looked for in a directory has its name there. -/
theorem getLast?_pieces_join (plain : '/' ∉ name.toList) (directory : Path) :
    (directory.join name).pieces.getLast? = some name := by
  rcases directory with ⟨text⟩
  have alone := pieces_of_plain plain
  rw [join, if_neg fun slash => plain (List.mem_of_head? slash)]
  split
  · next bare =>
    obtain empty | slash := bare
    · obtain rfl : text = "" := by simpa using empty
      rw [String.empty_append, alone, List.getLast?_singleton]
    · obtain ⟨front, ends⟩ := List.getLast?_eq_some_iff.mp slash
      obtain rfl : text = String.ofList front ++ "/" := by simp [← String.toList_inj, ends]
      rw [pieces_append, alone, List.getLast?_concat]
  · rw [pieces_append, alone, List.getLast?_concat]

theorem join_of_isAbsolute (absolute : isAbsolute ⟨name⟩) (directory : Path) :
    directory.join name = ⟨name⟩ :=
  if_pos (isAbsolute_iff.mp absolute)

/-! ## Directories above -/

theorem intercalate_splitSlashes (chars : List Char) :
    "/".intercalate ((splitSlashes chars).map String.ofList) = String.ofList chars := by
  rw [← String.toList_inj, String.toList_intercalate, splitSlashes_eq_splitOn]
  simp [Function.comp_def]

/-- A path is what it starts from and the pieces behind it. -/
theorem text_of_split (path : Path) :
    path.text = path.split.1.text ++ "/".intercalate path.split.2 := by
  rw [← String.toList_inj, split]
  split
  · next rest text => simp [text, Start.text, intercalate_splitSlashes]
  · next text => simp [text, Start.text]
  · next rest text => simp [text, Start.text, intercalate_splitSlashes]
  · simp [Start.text, intercalate_splitSlashes]

theorem isAbsolute_iff_split : path.isAbsolute ↔ path.split.1 = .root := by
  rw [isAbsolute, split]
  split
  · next rest text => simp [text]
  · next text => simp [text]
  · next rest text => simp [text]
  · next rooted _ _ =>
    simp only [decide_eq_true_eq, reduceCtorEq, iff_false]
    intro slash
    obtain ⟨rest, text⟩ := List.head?_eq_some_iff.mp slash
    exact rooted rest text

/-- A start leads nowhere else than where a path with it begins. -/
theorem eq_of_mem_course_start (member : place ∈ course working ⟨path.split.1.text⟩) :
    place = origin working path := by
  have rooted : path.isAbsolute ↔ path.split.1 = .root := isAbsolute_iff_split
  rw [origin]
  cases begun : path.split.1 <;>
    simp_all [course, Start.text, Path.pieces, splitSlashes, origin, isAbsolute, turn, isIdle]

theorem ancestors_eq (path : Path) :
    path.ancestors = path :: above path.split.1 path.split.2.reverse := rfl

/-- What is above pieces behind a start is the start, or ends with a name before other pieces. -/
theorem exists_of_mem_above {start : Start} (member : path ∈ above start pieces) :
    start = .dot ∧ path = ⟨""⟩ ∨ path = ⟨start.text⟩ ∨
      ∃ front name rest, pieces.reverse = front ++ [name] ++ rest ∧ rest ≠ [] ∧ name ≠ "" ∧
        path.text = start.text ++ "/".intercalate (front ++ [name]) := by
  induction pieces with
  | nil =>
    rw [above] at member
    split at member
    · next dotted => exact .inl ⟨dotted, by simpa using member⟩
    · exact absurd member List.not_mem_nil
  | cons piece rest ih =>
    by_cases inside : path ∈ above start rest
    · obtain dotted | bare | ⟨front, name, behind, split, some, named, text⟩ := ih inside
      · exact .inl dotted
      · exact .inr (.inl bare)
      · exact .inr (.inr ⟨front, name, behind ++ [piece], by simp [split], by simp, named, text⟩)
    · rw [above] at member
      split at member
      · exact absurd member inside
      · obtain rfl := (List.mem_cons.mp member).resolve_right inside
        cases before : rest.dropWhile isIdle with
        | nil => exact .inr (.inl (by simp))
        | cons name others =>
          refine .inr (.inr ⟨others.reverse, name, (rest.takeWhile isIdle).reverse ++ [piece], ?_,
            by simp, ?_, by rw [List.reverse_cons]⟩)
          · rw [← List.reverse_cons, ← before, ← List.append_assoc, ← List.reverse_append,
              List.takeWhile_append_dropWhile, List.reverse_cons]
          · rintro rfl
            have busy := List.head?_dropWhile_not isIdle rest
            simp [before, isIdle] at busy

/-- What goes through a directory above a path goes through the path. -/
theorem course_subset_of_mem_ancestors (member : directory ∈ path.ancestors)
    (working : Location) : directory.course working ⊆ path.course working := by
  rw [ancestors_eq] at member
  obtain rfl | inside := List.mem_cons.mp member
  · exact List.Subset.refl _
  · obtain ⟨dotted, rfl⟩ | rfl | ⟨front, name, rest, split, more, named, text⟩ :=
      exists_of_mem_above inside
    · have begun : origin working path = working :=
        if_neg (by rw [isAbsolute_iff_split, dotted]; exact nofun)
      intro place here
      have start : place = working := by
        simpa [course, Path.pieces, splitSlashes, origin, isAbsolute, turn, isIdle] using here
      rw [start.trans begun.symm]
      exact origin_mem_course working path
    · intro place here
      rw [eq_of_mem_course_start here]
      exact origin_mem_course working path
    · have whole : path.text = directory.text ++ "/" ++ "/".intercalate rest := by
        rw [List.reverse_reverse] at split
        rw [text_of_split path, split, String.intercalate_append_of_ne_nil (by simp) more, text]
        simp only [String.append_assoc]
      have some : directory.text ≠ "" := by
        obtain ⟨before, ends⟩ := exists_toList_intercalate front name
        rw [text, ← String.toList_inj.ne, String.toList_append, ends]
        simp [named]
      rcases path with ⟨_⟩
      obtain rfl := whole
      exact course_append some _ working

end Path

end NativeViews
