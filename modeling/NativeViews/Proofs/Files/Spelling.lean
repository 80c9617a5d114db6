import NativeViews.Proofs.Files.Change
import NativeViews.Shell.Machine

/-!
The paths of locations: their pieces are the names of the location, and so are those of the files
that are looked for in it and above it.
-/

namespace NativeViews

open FileTree (isStep)
open Machine (pathOf)

variable {working start place : Location} {path : Path} {name : String} {pieces : List String}

/-- Whether the names of a location can be pieces of a path that name what they lead to. -/
def IsSpelled (place : Location) : Prop :=
  ∀ name ∈ place, '/' ∉ name.toList ∧ isStep name = false

/-! ## Pieces -/

theorem Path.splitSlashes_eq_splitOn (chars : List Char) :
    splitSlashes chars = chars.splitOn '/' := by
  induction chars with
  | nil => rfl
  | cons c rest ih =>
    rw [splitSlashes, ih, List.splitOn, List.splitOn, List.splitOnP_cons_eq_if_modifyHead]
    by_cases slash : c = '/'
    · simp [slash]
    · obtain ⟨piece, pieces, split⟩ :=
        List.exists_cons_of_ne_nil (List.splitOnP_ne_nil (· == '/') rest)
      simp [slash, split]

theorem Path.splitSlashes_ne_nil (chars : List Char) : splitSlashes chars ≠ [] := by
  rw [splitSlashes_eq_splitOn]
  exact List.splitOnP_ne_nil _ _

/-- The last piece of a path is the last one behind its start, if it is a name. -/
theorem Path.getLast?_split (last : path.pieces.getLast? = some name)
    (named : isStep name = false) : path.split.2.getLast? = some name := by
  have behind (rest : List Char) :
      ∃ piece others, (splitSlashes rest).map String.ofList = piece :: others := by
    obtain ⟨piece, others, split⟩ := List.exists_cons_of_ne_nil (splitSlashes_ne_nil rest)
    exact ⟨_, _, congrArg (·.map String.ofList) split⟩
  rw [pieces] at last
  rw [split]
  split
  · next rest text =>
    obtain ⟨piece, others, split⟩ := behind rest
    rw [text, splitSlashes, if_pos rfl, List.map_cons, split] at last
    simpa [split] using last
  · next text =>
    rw [text] at last
    obtain rfl : "." = name := by simpa [splitSlashes] using last
    exact nomatch named
  · next rest text =>
    obtain ⟨piece, others, split⟩ := behind rest
    have whole : (splitSlashes ('.' :: '/' :: rest)).map String.ofList
        = "." :: (splitSlashes rest).map String.ofList := by
      rw [splitSlashes, if_neg (by decide), splitSlashes, if_pos rfl]
      rfl
    rw [text, whole, split] at last
    simpa [splitSlashes, split] using last
  · exact last

/-- A path that ends in a name has that name. -/
theorem Path.name?_of_getLast? (last : path.pieces.getLast? = some name)
    (named : isStep name = false) : path.name? = some name := by
  obtain ⟨front, behind⟩ := List.getLast?_eq_some_iff.mp (getLast?_split last named)
  rw [isStep, Bool.or_eq_false_iff, decide_eq_false_iff_not] at named
  rw [name?, behind, List.reverse_concat, List.dropWhile_cons_of_neg (by simp [named.1])]
  exact if_neg named.2

theorem splitSlashes_intercalate (below : place ≠ []) (spelled : IsSpelled place) :
    (Path.splitSlashes ("/".intercalate place).toList).map String.ofList = place := by
  have apart : ∀ name ∈ place.map String.toList, '/' ∉ name := by
    intro name member
    obtain ⟨source, inside, rfl⟩ := List.mem_map.mp member
    exact (spelled source inside).1
  have split := List.splitOn_intercalate '/' apart (by simpa using below)
  rw [Path.splitSlashes_eq_splitOn, String.toList_intercalate]
  refine (congrArg (·.map String.ofList) split).trans ?_
  simp

theorem toList_pathOf (place : Location) :
    (pathOf place).text.toList = '/' :: ("/".intercalate place).toList := by
  rw [pathOf, String.toList_append]
  rfl

theorem isAbsolute_pathOf (place : Location) : (pathOf place).isAbsolute := by
  rw [Path.isAbsolute, toList_pathOf]
  rfl

theorem pieces_pathOf (below : place ≠ []) (spelled : IsSpelled place) :
    (pathOf place).pieces = "" :: place := by
  rw [Path.pieces, toList_pathOf, Path.splitSlashes, if_pos rfl, List.map_cons,
    splitSlashes_intercalate below spelled]

/-! ## Files above -/

theorem isIdle_of_isStep (named : isStep name = false) : Path.isIdle name = false := by
  rw [isStep, Bool.or_eq_false_iff] at named
  exact named.1

/-- Behind the root, what lies above pieces are the paths of their beginnings. -/
theorem above_root (spelled : IsSpelled pieces) :
    ∀ path ∈ Path.above .root pieces, ∃ front, front <+: pieces.reverse ∧ path = pathOf front := by
  induction pieces with
  | nil => simp [Path.above]
  | cons piece rest ih =>
    obtain ⟨here, later⟩ := List.forall_mem_cons.mp spelled
    have whole : rest.dropWhile Path.isIdle = rest := by
      cases rest with
      | nil => rfl
      | cons next rest =>
        exact List.dropWhile_cons_of_neg (by simp [isIdle_of_isStep (later next (by simp)).2])
    intro path member
    rw [Path.above, if_neg (by simp [isIdle_of_isStep here.2]), whole, List.mem_cons] at member
    obtain rfl | inside := member
    · exact ⟨rest.reverse, by simp, rfl⟩
    · obtain ⟨front, short, same⟩ := ih later path inside
      exact ⟨front, short.trans (by simp), same⟩

theorem split_pathOf (place : Location) :
    (pathOf place).split
      = (.root, (Path.splitSlashes ("/".intercalate place).toList).map String.ofList) := by
  rw [Path.split, toList_pathOf]
  rfl

theorem exists_of_mem_ancestors (spelled : IsSpelled place)
    (member : path ∈ (pathOf place).ancestors) :
    ∃ front, front <+: place ∧ path = pathOf front := by
  rw [Path.ancestors, split_pathOf] at member
  obtain rfl | inside := List.mem_cons.mp member
  · exact ⟨place, List.prefix_rfl, rfl⟩
  · by_cases root : place = []
    · subst root
      exact absurd inside (by simp [Path.splitSlashes, Path.above, Path.isIdle])
    · rw [splitSlashes_intercalate root spelled] at inside
      have backwards : IsSpelled place.reverse := fun name inside =>
        spelled name (List.mem_reverse.mp inside)
      simpa using above_root backwards path inside

theorem exists_toList_intercalate (front : Location) (last : String) :
    ∃ before, ("/".intercalate (front ++ [last])).toList = before ++ last.toList := by
  by_cases alone : front = []
  · exact ⟨[], by simp [alone]⟩
  · refine ⟨("/".intercalate front ++ "/").toList, ?_⟩
    rw [String.intercalate_append_of_ne_nil alone (by simp), String.toList_append]
    simp

/-- The path of a location other than the root does not end in a slash. -/
theorem getLast?_pathOf (below : place ≠ []) (spelled : IsSpelled place) :
    (pathOf place).text.toList.getLast? ≠ some '/' := by
  obtain rfl | ⟨front, last, rfl⟩ := List.eq_nil_or_concat' place
  · exact absurd rfl below
  · obtain ⟨plain, solid⟩ := spelled last (by simp)
    obtain ⟨before, ends⟩ := exists_toList_intercalate front last
    have full : last.toList ≠ [] := by
      intro empty
      rw [String.toList_eq_nil_iff] at empty
      subst empty
      exact nomatch solid
    rw [toList_pathOf, ends, ← List.cons_append, List.getLast?_append_of_ne_nil _ full]
    exact fun slash => plain (List.mem_of_getLast? slash)

/-- A file of a location has the path that leads to it. -/
theorem join_pathOf (spelled : IsSpelled place) (named : '/' ∉ name.toList) :
    (pathOf place).join name = pathOf (place ++ [name]) := by
  have relative : name.toList.head? ≠ some '/' := fun head => named (List.mem_of_head? head)
  rw [Path.join, if_neg relative]
  by_cases root : place = []
  · subst root
    rw [if_pos (.inr (by rw [toList_pathOf]; simp)), List.nil_append, pathOf, pathOf]
    simp
  · have nonempty : (pathOf place).text.isEmpty = false := by
      rw [← Bool.not_eq_true, String.isEmpty_iff, ← String.toList_eq_nil_iff, toList_pathOf]
      exact List.cons_ne_nil _ _
    rw [if_neg (by simp [nonempty, getLast?_pathOf root spelled]), pathOf, pathOf,
      String.intercalate_append_of_ne_nil root (by simp)]
    simp [String.append_assoc]

/-! ## Where they lead -/

namespace FileTree

variable {tree before after : FileTree} {found spot : Location} {bytes : ByteArray}

/-- Names lead down, one by one. -/
theorem eq_of_walk (named : ∀ name ∈ pieces, isStep name = false)
    (walked : tree.walk start pieces = .ok found) : found = start ++ pieces := by
  induction pieces generalizing start with
  | nil => simpa using (Except.ok.inj walked).symm
  | cons name rest ih =>
    obtain ⟨here, later⟩ := List.forall_mem_cons.mp named
    rw [walk_cons] at walked
    obtain ⟨next, stepped, onward⟩ := exists_of_bind_ok walked
    obtain rfl := advance_name here (directory_of_step stepped).2
    simpa using ih later onward

/-- Names lead to what stands in a tree if they lead there in any other. -/
theorem walk_of_standing (named : ∀ name ∈ pieces, isStep name = false)
    (held : before.standing? (start ++ pieces) ≠ none)
    (walked : after.walk start pieces = .ok found) : before.walk start pieces = .ok found := by
  induction pieces generalizing start with
  | nil => exact walked
  | cons name rest ih =>
    -- names never lead back up, so every step is at a directory above what stands in the end
    obtain ⟨here, later⟩ := List.forall_mem_cons.mp named
    rw [walk_cons] at walked ⊢
    obtain ⟨next, stepped, onward⟩ := exists_of_bind_ok walked
    obtain ⟨_, led⟩ := directory_of_step stepped
    rw [step_of_directory (standing?_of_held (by simp) held), led]
    obtain rfl := advance_name here led
    exact ih later (by simpa using held) onward

theorem resolve_pathOf_iff (below : place ≠ []) (spelled : IsSpelled place) :
    tree.resolve working (pathOf place) = .ok found ↔
      piecesOf (pathOf place) = .ok ("" :: place) ∧ tree.standing? [] = some .directory ∧
        tree.walk [] place = .ok found := by
  have rooted : origin working (pathOf place) = [] := if_pos (isAbsolute_pathOf place)
  rw [resolve_ok_iff, pieces_pathOf below spelled, rooted, walk_cons, standing?_nil]
  cases tree with
  | file bytes => simp [step, find?, standing, error_bind]
  | directory entries =>
    rw [step_of_directory (standing?_nil _), advance_idle (by simp [Path.isIdle]), ok_bind]
    simp [standing]

/-- The path of a location leads to it. -/
theorem eq_of_resolve_pathOf (below : place ≠ []) (spelled : IsSpelled place)
    (resolved : tree.resolve working (pathOf place) = .ok found) : found = place := by
  obtain ⟨_, _, walked⟩ := (resolve_pathOf_iff below spelled).mp resolved
  exact eq_of_walk (fun name member => (spelled name member).2) walked

/-- The files elsewhere are read as before where they are read by the path of their location. -/
theorem KeepsBut.read_pathOf (kept : KeepsBut spot before after) (below : place ≠ [])
    (spelled : IsSpelled place) (elsewhere : place ≠ spot) :
    after.read working (pathOf place) = .ok bytes ↔
      before.read working (pathOf place) = .ok bytes := by
  rw [read_ok_iff, read_ok_iff]
  constructor
  · rintro ⟨found, resolved, held⟩
    obtain rfl := eq_of_resolve_pathOf below spelled resolved
    have there := (kept.files elsewhere).mp held
    have present : before.standing? ([] ++ found) ≠ none := by simp [there]
    obtain ⟨given, _, walked⟩ := (resolve_pathOf_iff below spelled).mp resolved
    refine ⟨found, (resolve_pathOf_iff below spelled).mpr ⟨given, ?_, ?_⟩, there⟩
    · exact standing?_of_held below present
    · exact walk_of_standing (fun name member => (spelled name member).2) present walked
  · rintro ⟨found, resolved, held⟩
    obtain rfl := eq_of_resolve_pathOf below spelled resolved
    exact ⟨found, kept.directories.resolve_of_ok resolved, (kept.files elsewhere).mpr held⟩

end FileTree

end NativeViews
