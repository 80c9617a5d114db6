import NativeViews.Action.Inputs
import NativeViews.Proofs.Text.Words

/-!
The name that a library has from its schema file: the stem of the file in Pascal case, without the
marks at its end that schema files have. There is none if nothing else is in the stem; and the name
is empty if what else is in it is made of separators, which are dropped after the name was looked at.
-/

namespace NativeViews

/-! ## Stems -/

namespace Path

variable {path : Path}

theorem slash_notMem_splitSlashes (chars : List Char) :
    ∀ piece ∈ splitSlashes chars, '/' ∉ piece := by
  fun_induction splitSlashes chars with
  | case1 => simp
  | case2 rest ih => exact List.forall_mem_cons.mpr ⟨List.not_mem_nil, ih⟩
  | case3 c rest plain none ih => simpa using Ne.symm plain
  | case4 c rest plain piece pieces split ih =>
    rw [split, List.forall_mem_cons] at ih
    exact List.forall_mem_cons.mpr ⟨by simp [Ne.symm plain, ih.1], ih.2⟩

theorem slash_notMem_split : ∀ piece ∈ path.split.2, '/' ∉ piece.toList := by
  have pieces (chars : List Char) :
      ∀ piece ∈ (splitSlashes chars).map String.ofList, '/' ∉ piece.toList := by
    refine List.forall_mem_map.mpr fun piece member => ?_
    rw [String.toList_ofList]
    exact slash_notMem_splitSlashes chars piece member
  rw [split]
  split
  · exact pieces _
  · exact fun _ member => nomatch member
  · exact pieces _
  · exact pieces _

theorem slash_notMem_name? {name : String} (named : path.name? = some name) :
    '/' ∉ name.toList := by
  rw [name?] at named
  split at named
  · next last others behind =>
    have member : last ∈ path.split.2 := by
      have here : last ∈ path.split.2.reverse.dropWhile isIdle := by simp [behind]
      exact List.mem_reverse.mp ((List.dropWhile_sublist _).subset here)
    split at named
    · exact nomatch named
    · exact Option.some.inj named ▸ slash_notMem_split last member
  · exact nomatch named

theorem withoutExtension_subset (name : List Char) : withoutExtension name ⊆ name := by
  unfold withoutExtension
  split
  · exact List.Subset.refl _
  · intro c member
    have kept := List.mem_reverse.mp (List.dropLast_subset _ member)
    exact List.mem_reverse.mp ((List.dropWhile_sublist _).subset kept)

theorem slash_notMem_stem? {stem : String} (named : path.stem? = some stem) :
    '/' ∉ stem.toList := by
  obtain ⟨name, ends, rfl⟩ := Option.map_eq_some_iff.mp named
  rw [String.toList_ofList]
  exact fun slash => slash_notMem_name? ends (withoutExtension_subset _ slash)

end Path

/-! ## Marks of schema files -/

/-- The ending that marks a schema file before its extension. -/
def schemaMark : List Char := ['.', 's', 'c', 'h', 'e', 'm', 'a']

/-- Such endings in a row. -/
def schemaMarks (count : Nat) : List Char :=
  (List.replicate count schemaMark).flatten

theorem reverse_schemaMarks_succ (count : Nat) (rest : List Char) :
    (schemaMarks (count + 1)).reverse ++ rest
      = 'a' :: 'm' :: 'e' :: 'h' :: 'c' :: 's' :: '.' :: ((schemaMarks count).reverse ++ rest) := by
  simp [schemaMarks, List.replicate_succ', schemaMark]

/-- Only marks are dropped. -/
theorem exists_dropSchemaEndings (chars : List Char) :
    ∃ count, chars = (schemaMarks count).reverse ++ dropSchemaEndings chars := by
  fun_induction dropSchemaEndings chars with
  | case1 rest ih =>
    obtain ⟨count, same⟩ := ih
    exact ⟨count + 1, by rw [reverse_schemaMarks_succ, ← same]⟩
  | case2 chars _ => exact ⟨0, rfl⟩

/-- All marks are dropped behind what ends in another character. -/
theorem dropSchemaEndings_marks (count : Nat) {rest : List Char} (ends : rest.head? ≠ some 'a') :
    dropSchemaEndings ((schemaMarks count).reverse ++ rest) = rest := by
  induction count with
  | zero =>
    change dropSchemaEndings rest = rest
    unfold dropSchemaEndings
    split
    · exact absurd rfl ends
    · rfl
  | succ count ih => rw [reverse_schemaMarks_succ, dropSchemaEndings, ih]

/-! ## Names -/

/-- Whether there is nothing in a schema path to name a library after: it has no stem, or one of
marks alone. -/
def Path.IsUnnamed (path : Path) : Prop :=
  ∀ stem, path.stem? = some stem → ∃ count, stem.toList = schemaMarks count

/-- Whether the stem of a schema path has separators alone before its marks. -/
def Path.IsWordless (path : Path) : Prop :=
  ∃ stem separators count, path.stem? = some stem ∧ separators ≠ [] ∧
    (∀ c ∈ separators, Text.separates c) ∧ stem.toList = separators ++ schemaMarks count

/-- What stands before the marks in a stem. -/
def coreOf (stem : String) : List Char :=
  (dropSchemaEndings stem.toList.reverse).reverse

theorem exists_coreOf (stem : String) : ∃ count, stem.toList = coreOf stem ++ schemaMarks count := by
  obtain ⟨count, same⟩ := exists_dropSchemaEndings stem.toList.reverse
  have back := congrArg List.reverse same
  rw [List.reverse_reverse, List.reverse_append, List.reverse_reverse] at back
  exact ⟨count, back⟩

theorem coreOf_eq {stem : String} {core : List Char} {count : Nat}
    (split : stem.toList = core ++ schemaMarks count) (ends : core.getLast? ≠ some 'a') :
    coreOf stem = core := by
  rw [coreOf, split, List.reverse_append,
    dropSchemaEndings_marks count (by rwa [List.head?_reverse]), List.reverse_reverse]

/-- A stem is marks alone exactly if nothing stands before them. -/
theorem coreOf_eq_nil_iff {stem : String} :
    coreOf stem = [] ↔ ∃ count, stem.toList = schemaMarks count := by
  constructor
  · intro none
    obtain ⟨count, split⟩ := exists_coreOf stem
    rw [none, List.nil_append] at split
    exact ⟨count, split⟩
  · rintro ⟨count, split⟩
    exact @coreOf_eq _ [] count split nofun

theorem coreOf_of_separators {stem : String} {separators : List Char} {count : Nat}
    (all : ∀ c ∈ separators, Text.separates c)
    (split : stem.toList = separators ++ schemaMarks count) : coreOf stem = separators := by
  refine coreOf_eq split fun last => ?_
  exact nomatch all 'a' (List.mem_of_getLast? last)

section Deriving

variable {schema : Path} {stem name : String}

theorem deriveLibrary_of_stem (named : schema.stem? = some stem) :
    deriveLibrary schema
      = if coreOf stem = [] then .error (.libraryNotDerived schema.text)
        else .ok (Text.pascalCase (String.ofList (coreOf stem))) := by
  have core : schema.stem?.map (fun stem => (dropSchemaEndings stem.toList.reverse).reverse)
      = some (coreOf stem) := by
    rw [named]
    rfl
  rw [deriveLibrary, core]
  cases coreOf stem <;> rfl

theorem deriveLibrary_of_none (none : schema.stem? = none) :
    deriveLibrary schema = .error (.libraryNotDerived schema.text) := by
  rw [deriveLibrary, none]
  rfl

/-- A library gets its name from what its schema path has before the marks. -/
theorem exists_of_deriveLibrary (derived : deriveLibrary schema = .ok name) :
    ∃ stem count, schema.stem? = some stem ∧ stem.toList = coreOf stem ++ schemaMarks count ∧
      coreOf stem ≠ [] ∧ name = Text.pascalCase (String.ofList (coreOf stem)) := by
  cases named : schema.stem? with
  | none => exact nomatch (deriveLibrary_of_none named).symm.trans derived
  | some stem =>
    obtain ⟨count, split⟩ := exists_coreOf stem
    rw [deriveLibrary_of_stem named] at derived
    split at derived
    · exact nomatch derived
    · next some => exact ⟨stem, count, rfl, split, some, (Except.ok.inj derived).symm⟩

/-- A schema path that names no library is refused, and no other one. -/
theorem deriveLibrary_error_iff :
    deriveLibrary schema = .error (.libraryNotDerived schema.text) ↔ schema.IsUnnamed := by
  cases named : schema.stem? with
  | none => simp [deriveLibrary_of_none named, Path.IsUnnamed, named]
  | some stem =>
    have bare := @coreOf_eq_nil_iff stem
    rw [deriveLibrary_of_stem named]
    split <;> simp_all [Path.IsUnnamed]

/-- A schema path names its library by nothing exactly if it has no word before its marks. -/
theorem deriveLibrary_empty_iff : deriveLibrary schema = .ok "" ↔ schema.IsWordless := by
  constructor
  · intro derived
    obtain ⟨stem, count, named, split, some, empty⟩ := exists_of_deriveLibrary derived
    have all := Text.pascalCase_eq_empty_iff.mp empty.symm
    rw [String.toList_ofList] at all
    exact ⟨stem, coreOf stem, count, named, some, all, split⟩
  · rintro ⟨stem, separators, count, named, some, all, split⟩
    have empty : Text.pascalCase (String.ofList separators) = "" := by
      rw [Text.pascalCase_eq_empty_iff, String.toList_ofList]
      exact all
    rw [deriveLibrary_of_stem named, coreOf_of_separators all split, if_neg some, empty]

theorem slash_notMem_deriveLibrary (derived : deriveLibrary schema = .ok name) :
    '/' ∉ name.toList := by
  obtain ⟨stem, count, named, split, _, rfl⟩ := exists_of_deriveLibrary derived
  refine Text.slash_notMem_pascalCase fun slash => Path.slash_notMem_stem? named ?_
  rw [split]
  exact List.mem_append_left _ (by simpa using slash)

theorem deriveLibrary_error {failure : Failure} (failed : deriveLibrary schema = .error failure) :
    failure = .libraryNotDerived schema.text := by
  cases named : schema.stem? with
  | none => exact Except.error.inj (failed.symm.trans (deriveLibrary_of_none named))
  | some stem =>
    rw [deriveLibrary_of_stem named] at failed
    split at failed
    · exact (Except.error.inj failed).symm
    · exact nomatch failed

end Deriving

/-- Whether a library gets a name that can be part of the name of a file, or else is refused for want
of one. -/
def Settings.NamesLibrary (settings : Settings) (schema : Path) : Prop :=
  settings.library none schema = .error (.libraryNotDerived schema.text) ∨
    ∃ name, settings.library none schema = .ok name ∧ name ≠ "" ∧ '/' ∉ name.toList

/-- Where neither the command line nor the settings name the library, its name is taken from the
schema path. A path is refused exactly if it has no stem but marks of schema files. Of the other
paths, exactly those with separators alone before the marks give the library a name that cannot be
used, which is empty; all others give one that is not empty and holds no slash. -/
theorem Settings.namesLibrary_iff {settings : Settings} (silent : settings.libraryName = none)
    (schema : Path) :
    (settings.library none schema = .error (.libraryNotDerived schema.text) ↔ schema.IsUnnamed) ∧
      (Failure.libraryNotDerived schema.text).message
        = "Configuration error: Cannot derive a library name from " ++ Text.shown schema.text
          ++ "; pass --library" ∧
      (settings.NamesLibrary schema ↔ ¬ schema.IsWordless) ∧
      (settings.library none schema = .ok "" ↔ schema.IsWordless) := by
  have derives : settings.library none schema = deriveLibrary schema := by
    rw [library, silent]
    rfl
  rw [NamesLibrary, derives]
  refine ⟨deriveLibrary_error_iff, rfl, ?_, deriveLibrary_empty_iff⟩
  rw [← deriveLibrary_empty_iff]
  cases derived : deriveLibrary schema with
  | error failure => simp [deriveLibrary_error derived]
  | ok name =>
    have plain := slash_notMem_deriveLibrary derived
    simp [plain]

theorem Settings.namesLibrary_iff_slider :
    ({} : Settings).library none ⟨"views/my-slider.schema.json"⟩ = .ok "MySlider" ∧
      ({} : Settings).libraryName = none ∧
      ({} : Settings).NamesLibrary ⟨"views/my-slider.schema.json"⟩ := by
  have derived : ({} : Settings).library none ⟨"views/my-slider.schema.json"⟩ = .ok "MySlider" := by
    decide +kernel
  obtain ⟨_, _, usable, empty⟩ :=
    @Settings.namesLibrary_iff {} rfl ⟨"views/my-slider.schema.json"⟩
  refine ⟨derived, rfl, usable.mpr fun wordless => ?_⟩
  exact absurd (derived.symm.trans (empty.mpr wordless)) (by decide)

/-- A schema file that is called by a separator gives its library no name and is not refused. -/
theorem Settings.not_namesLibrary_separator :
    ({} : Settings).library none ⟨"_.json"⟩ = .ok "" ∧
      ¬ ∀ (settings : Settings) (schema : Path), settings.libraryName = none →
        settings.NamesLibrary schema := by
  have empty : ({} : Settings).library none ⟨"_.json"⟩ = .ok "" := by decide +kernel
  refine ⟨empty, fun always => ?_⟩
  rcases always {} ⟨"_.json"⟩ rfl with refused | ⟨name, given, some, _⟩
  · exact nomatch empty.symm.trans refused
  · exact some (Except.ok.inj (empty.symm.trans given)).symm

end NativeViews
