import NativeViews.Proofs.Files.Resolution

/-!
How far trees differ after changes: by directories that were created on the way to somewhere, and
by one file.
-/

namespace NativeViews.FileTree

variable {tree before middle after : FileTree} {working place above : Location} {path : Path}
  {paths : List Path} {name : String} {bytes : ByteArray}

/-! ## New directories -/

/-- Whether a tree is another with directories created, to each of which one of some paths
leads. -/
def Grown (working : Location) (paths : List Path) (before after : FileTree) : Prop :=
  ∀ place, after.standing? place = before.standing? place ∨
    before.standing? place = none ∧ after.standing? place = some .directory ∧
      ∃ path ∈ paths, after.resolve working path = .ok place

theorem Grown.refl (working : Location) (paths : List Path) (tree : FileTree) :
    Grown working paths tree tree :=
  fun _ => .inl rfl

theorem Grown.keepsDirectories (grown : Grown working paths before after) :
    KeepsDirectories before after := by
  intro place held
  obtain same | ⟨absent, _, _⟩ := grown place
  · rw [same, held]
  · rw [absent] at held
    exact nomatch held

theorem Grown.mono {more : List Path} (grown : Grown working paths before after)
    (within : ∀ path ∈ paths, path ∈ more) : Grown working more before after := by
  intro place
  obtain same | ⟨absent, created, path, member, resolved⟩ := grown place
  · exact .inl same
  · exact .inr ⟨absent, created, path, within path member, resolved⟩

theorem Grown.trans (first : Grown working paths before middle)
    (second : Grown working paths middle after) : Grown working paths before after := by
  intro place
  obtain same | ⟨absent, created, path, member, resolved⟩ := second place
  · rw [same]
    obtain unchanged | ⟨absent, created, path, member, resolved⟩ := first place
    · exact .inl unchanged
    · exact .inr ⟨absent, created, path, member, second.keepsDirectories.resolve_of_ok resolved⟩
  · obtain unchanged | ⟨_, earlier, _⟩ := first place
    · exact .inr ⟨unchanged ▸ absent, created, path, member, resolved⟩
    · rw [absent] at earlier
      exact nomatch earlier

theorem Grown.of_makeDirectory (made : before.makeDirectory working path = .ok after) :
    Grown working [path] before after := by
  obtain ⟨above, name, held, nothing, rfl, resolved⟩ := makeDirectory_ok made
  intro place
  rw [standing?_put held (by simp [nothing]) isLeaf_empty]
  split
  · next here =>
    subst here
    exact .inr ⟨nothing, rfl, path, by simp, resolved⟩
  · exact .inl rfl

theorem has_isDirectory_of_makeDirectory (made : before.makeDirectory working path = .ok after) :
    after.has (·.isDirectory) working path := by
  obtain ⟨above, name, held, nothing, rfl, resolved⟩ := makeDirectory_ok made
  rw [has_isDirectory_iff]
  refine ⟨_, resolved, ?_⟩
  rw [standing?_put held (by simp [nothing]) isLeaf_empty, if_pos rfl]
  rfl

theorem KeepsDirectories.has_isDirectory (kept : KeepsDirectories before after)
    (present : before.has (·.isDirectory) working path) :
    after.has (·.isDirectory) working path := by
  rw [has_isDirectory_iff] at present ⊢
  obtain ⟨place, resolved, held⟩ := present
  exact ⟨place, kept.resolve_of_ok resolved, kept place held⟩

/-! ## Trees that differ at one place -/

/-- Whether a tree has all directories of another, and the same files but at one place. -/
structure KeepsBut (place : Location) (before after : FileTree) : Prop where
  directories : KeepsDirectories before after
  files : ∀ {other bytes}, other ≠ place →
    (after.standing? other = some (.file bytes) ↔ before.standing? other = some (.file bytes))

theorem KeepsBut.refl (place : Location) (tree : FileTree) : KeepsBut place tree tree where
  directories _ held := held
  files _ := Iff.rfl

theorem KeepsBut.trans (first : KeepsBut place before middle)
    (second : KeepsBut place middle after) : KeepsBut place before after where
  directories other held := second.directories other (first.directories other held)
  files elsewhere := (second.files elsewhere).trans (first.files elsewhere)

theorem Grown.keepsBut (grown : Grown working paths before after) (place : Location) :
    KeepsBut place before after where
  directories := grown.keepsDirectories
  files {other bytes} _ := by
    obtain same | ⟨absent, created, _⟩ := grown other
    · rw [same]
    · simp [absent, created]

/-- A tree that differs at a place, where no directory was, is the same but there. -/
theorem KeepsBut.of_standing? {change : Option Standing}
    (free : before.standing? place ≠ some .directory)
    (changed : ∀ other, after.standing? other
      = if other = place then change else before.standing? other) :
    KeepsBut place before after where
  directories other held := by
    rw [changed, if_neg (by rintro rfl; exact free held), held]
  files elsewhere := by rw [changed, if_neg elsewhere]

/-- What was read is read again, unless its path leads to where the trees differ. -/
theorem KeepsBut.read_of_ok (kept : KeepsBut place before after)
    (apart : before.resolve working path ≠ .ok place)
    (held : before.read working path = .ok bytes) : after.read working path = .ok bytes := by
  obtain ⟨other, resolved, standing⟩ := read_ok_iff.mp held
  have elsewhere : other ≠ place := fun same => apart (same ▸ resolved)
  exact read_ok_iff.mpr
    ⟨other, kept.directories.resolve_of_ok resolved, (kept.files elsewhere).mpr standing⟩

/-! ## Written files -/

/-- What is written stands where its path leads, and all else stands where it stood. -/
theorem exists_place_of_write (written : before.write working path bytes = .ok after) :
    ∃ above name, before.standing? (above ++ [name]) ≠ some .directory ∧
      path.pieces.getLast? = some name ∧ isStep name = false ∧
      after.resolve working path = .ok (above ++ [name]) ∧
      ∀ other, after.standing? other
        = if other = above ++ [name] then some (.file bytes) else before.standing? other := by
  obtain ⟨place, name, resolved, last, named, free, rfl⟩ := write_ok_iff.mp written
  obtain ⟨_, walked⟩ := resolve_ok_iff.mp resolved
  obtain ⟨above, rfl, held⟩ := exists_directory_of_walk walked last named
  have kept := keepsDirectories_put held free (isLeaf_file bytes)
  exact ⟨above, name, free, last, named, kept.resolve_of_ok resolved,
    standing?_put held free (isLeaf_file bytes)⟩

/-- What is written is what is read then. -/
theorem read_of_write (written : before.write working path bytes = .ok after) :
    after.read working path = .ok bytes := by
  obtain ⟨above, name, _, _, _, resolved, standing⟩ := exists_place_of_write written
  rw [read_of_resolve resolved, standing, if_pos rfl]

/-- To write the same once more changes nothing. -/
theorem write_again (written : before.write working path bytes = .ok after) :
    after.write working path bytes = .ok after := by
  obtain ⟨above, name, _, last, named, resolved, standing⟩ := exists_place_of_write written
  have present := standing (above ++ [name])
  rw [if_pos rfl] at present
  refine write_ok_iff.mpr ⟨above ++ [name], name, resolved, last, named, by simp [present], ?_⟩
  rw [put_of_find? (standing?_eq_file_iff.mp present)]

/-! ## A file that is replaced or erased -/

/-- What is put in place of a file stands there, and all else stands where it stood. -/
theorem standing?_put_file (present : tree.standing? (above ++ [name]) = some (.file bytes))
    (other : ByteArray) (asked : Location) :
    (tree.put (above ++ [name]) (file other)).standing? asked
      = if asked = above ++ [name] then some (.file other) else tree.standing? asked := by
  have held : tree.standing? above = some .directory :=
    standing?_of_held (List.cons_ne_nil name []) (by simp [present])
  exact standing?_put held (by simp [present]) (isLeaf_file other) asked

theorem KeepsBut.put_file (present : tree.standing? (above ++ [name]) = some (.file bytes))
    (other : ByteArray) :
    KeepsBut (above ++ [name]) tree (tree.put (above ++ [name]) (file other)) :=
  .of_standing? (by simp [present]) (standing?_put_file present other)

theorem KeepsBut.erase_file (present : tree.standing? (above ++ [name]) = some (.file bytes)) :
    KeepsBut (above ++ [name]) tree (tree.erase (above ++ [name])) :=
  .of_standing? (by simp [present]) (standing?_erase present)

theorem read_put_file (present : tree.standing? (above ++ [name]) = some (.file bytes))
    (resolved : tree.resolve working path = .ok (above ++ [name])) (other : ByteArray) :
    (tree.put (above ++ [name]) (file other)).read working path = .ok other := by
  rw [read_of_resolve ((KeepsBut.put_file present other).directories.resolve_of_ok resolved),
    standing?_put_file present, if_pos rfl]

theorem read_erase_file (present : tree.standing? (above ++ [name]) = some (.file bytes))
    (resolved : tree.resolve working path = .ok (above ++ [name])) :
    (tree.erase (above ++ [name])).read working path = .error .notFound := by
  rw [read_of_resolve ((KeepsBut.erase_file present).directories.resolve_of_ok resolved),
    standing?_erase present, if_pos rfl]

end NativeViews.FileTree
