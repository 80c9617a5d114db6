import Mathlib.Data.List.Basic
import NativeViews.Files.Access
import NativeViews.Proofs.OrderedMap

/-!
Trees of files place by place: what stands at each location, and what a change at one location does
there. Everything else about a tree is seen through this.
-/

namespace NativeViews

/-- What stands at a location, apart from what a directory holds. -/
inductive Standing where
  | file (bytes : ByteArray)
  | directory

namespace FileTree

/-- What a tree is at its root. -/
def standing : FileTree → Standing
  | file bytes => .file bytes
  | directory _ => .directory

/-- What stands at a location of a tree. -/
def standing? (tree : FileTree) (place : Location) : Option Standing :=
  (tree.find? place).map standing

@[simp] theorem standing?_nil (tree : FileTree) : tree.standing? [] = some tree.standing := by
  simp [standing?, find?]

@[simp] theorem standing?_file_cons (bytes : ByteArray) (name : String) (rest : Location) :
    (file bytes).standing? (name :: rest) = none := by
  simp [standing?, find?]

theorem standing?_directory_cons (entries : List (String × FileTree)) (name : String)
    (rest : Location) :
    (directory entries).standing? (name :: rest)
      = (entries.lookup name).bind (·.standing? rest) := by
  rw [standing?, find?]
  cases entries.lookup name <;> rfl

theorem find?_append (tree : FileTree) (place rest : Location) :
    tree.find? (place ++ rest) = (tree.find? place).bind (·.find? rest) := by
  induction place generalizing tree with
  | nil => simp [find?]
  | cons name place ih =>
    cases tree with
    | file bytes => simp [find?]
    | directory entries =>
      rw [List.cons_append, find?, find?]
      cases entries.lookup name with
      | none => rfl
      | some child => exact ih child

/-- Only a directory holds something. -/
theorem standing?_of_held {tree : FileTree} {place rest : Location} (below : rest ≠ [])
    (held : tree.standing? (place ++ rest) ≠ none) : tree.standing? place = some .directory := by
  rw [standing?, find?_append] at held
  rw [standing?]
  cases node : tree.find? place with
  | none => simp [node] at held
  | some node' =>
    cases node' with
    | directory entries => rfl
    | file bytes =>
      cases rest with
      | nil => exact absurd rfl below
      | cons name rest => simp [node, find?] at held

/-- Whether a tree is a file or an empty directory. -/
def IsLeaf (tree : FileTree) : Prop :=
  ∀ name rest, tree.standing? (name :: rest) = none

theorem isLeaf_file (bytes : ByteArray) : (file bytes).IsLeaf :=
  fun name rest => standing?_file_cons bytes name rest

theorem isLeaf_empty : (directory []).IsLeaf := fun name rest => by
  rw [standing?_directory_cons]
  rfl

/-! ## Putting and erasing -/

theorem put_single (entries : List (String × FileTree)) (name : String) (node : FileTree) :
    (directory entries).put [name] node = directory (OrderedMap.putEntry name node entries) := by
  cases found : entries.lookup name <;> simp [put, found]

/-- What stands in a directory with one entry put in. -/
theorem standing?_putEntry_cons (entries : List (String × FileTree)) (name asked : String)
    (child : FileTree) (rest : Location) :
    (directory (OrderedMap.putEntry name child entries)).standing? (asked :: rest)
      = if asked = name then child.standing? rest
        else (directory entries).standing? (asked :: rest) := by
  rw [standing?_directory_cons, standing?_directory_cons, OrderedMap.lookup_putEntry]
  split <;> rfl

theorem put_cons {entries : List (String × FileTree)} {name : String} {child : FileTree}
    (found : entries.lookup name = some child) (rest : Location) (node : FileTree) :
    (directory entries).put (name :: rest) node
      = directory (OrderedMap.putEntry name (child.put rest node) entries) := by
  simp [put, found]

theorem eq_directory_of_standing {tree : FileTree} (standing : tree.standing = .directory) :
    ∃ entries, tree = directory entries := by
  cases tree with
  | file bytes => exact nomatch standing
  | directory entries => exact ⟨entries, rfl⟩

theorem exists_child_of_standing? {tree : FileTree} {name : String} {rest : Location}
    {standing : Standing} (found : tree.standing? (name :: rest) = some standing) :
    ∃ entries child, tree = directory entries ∧ entries.lookup name = some child ∧
      child.standing? rest = some standing := by
  cases tree with
  | file bytes => simp at found
  | directory entries =>
    rw [standing?_directory_cons] at found
    obtain ⟨child, held, later⟩ := Option.bind_eq_some_iff.mp found
    exact ⟨entries, child, rfl, held, later⟩

/-- What is put into a directory, in the place of a file or of nothing, stands there; everything
else stands where it stood. -/
theorem standing?_put {tree node : FileTree} {before : Location} {name : String}
    (held : tree.standing? before = some .directory)
    (free : tree.standing? (before ++ [name]) ≠ some .directory) (leaf : node.IsLeaf)
    (other : Location) :
    (tree.put (before ++ [name]) node).standing? other
      = if other = before ++ [name] then some node.standing else tree.standing? other := by
  induction before generalizing tree other with
  | nil =>
    obtain ⟨entries, rfl⟩ := eq_directory_of_standing (by simpa using held)
    rw [List.nil_append, put_single]
    cases other with
    | nil => simp [standing]
    | cons first rest =>
      rw [standing?_putEntry_cons]
      by_cases same : first = name
      · subst same
        cases rest with
        | nil => simp
        | cons next rest =>
          have nothing : (directory entries).standing? ([first] ++ next :: rest) = none := by
            by_contra present
            exact free (standing?_of_held (by simp) present)
          rw [List.singleton_append] at nothing
          simp [leaf next rest, nothing]
      · simp [same]
  | cons first before ih =>
    obtain ⟨entries, child, rfl, found, inside⟩ := exists_child_of_standing? held
    rw [List.cons_append, standing?_directory_cons, found, Option.bind_some] at free
    rw [List.cons_append, put_cons found]
    cases other with
    | nil => simp [standing]
    | cons asked rest =>
      rw [standing?_putEntry_cons, ih inside free]
      by_cases same : asked = first
      · subst same
        simp [standing?_directory_cons, found]
      · simp [same]

/-- Putting in what is there changes nothing. -/
theorem put_of_find? {tree node : FileTree} {place : Location}
    (found : tree.find? place = some node) : tree.put place node = tree := by
  induction place generalizing tree with
  | nil =>
    rw [find?, Option.some.injEq] at found
    rw [put, found]
  | cons name rest ih =>
    cases tree with
    | file bytes => rw [put]
    | directory entries =>
      rw [find?] at found
      obtain ⟨child, held, later⟩ := Option.bind_eq_some_iff.mp found
      rw [put_cons held, ih later, OrderedMap.putEntry_of_lookup held]

theorem erase_cons {entries : List (String × FileTree)} {name : String} {rest : Location}
    (below : rest ≠ []) {child : FileTree} (found : entries.lookup name = some child) :
    (directory entries).erase (name :: rest)
      = directory (OrderedMap.putEntry name (child.erase rest) entries) := by
  cases rest with
  | nil => exact absurd rfl below
  | cons next rest => rw [erase, found]

/-- Erasing a file takes away nothing else. -/
theorem standing?_erase {tree : FileTree} {bytes : ByteArray} {before : Location} {name : String}
    (file : tree.standing? (before ++ [name]) = some (.file bytes)) (other : Location) :
    (tree.erase (before ++ [name])).standing? other
      = if other = before ++ [name] then none else tree.standing? other := by
  induction before generalizing tree other with
  | nil =>
    have alone : tree.standing? [name] = some (.file bytes) := file
    obtain ⟨entries, child, rfl, found, leaf⟩ := exists_child_of_standing? alone
    rw [List.nil_append, erase]
    cases other with
    | nil => simp [standing]
    | cons first rest =>
      rw [standing?_directory_cons, standing?_directory_cons, OrderedMap.lookup_filter_ne]
      by_cases same : first = name
      · subst same
        cases rest with
        | nil => simp
        | cons next rest =>
          have nothing : child.standing? ([] ++ next :: rest) = none := by
            by_contra present
            have holds := standing?_of_held (by simp) present
            rw [leaf] at holds
            exact nomatch holds
          simpa [found] using nothing.symm
      · simp [same]
  | cons first before ih =>
    obtain ⟨entries, child, rfl, found, inside⟩ := exists_child_of_standing? file
    rw [List.cons_append, erase_cons (by simp) found]
    cases other with
    | nil => simp [standing]
    | cons asked rest =>
      rw [standing?_putEntry_cons, ih inside]
      by_cases same : asked = first
      · subst same
        simp [standing?_directory_cons, found]
      · simp [same]

end FileTree

end NativeViews
